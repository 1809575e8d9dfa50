import Mathlib.Algebra.Group.Defs
import Mathlib.Tactic

/-! Attempts that are made one after the other until one succeeds. Those that miss count for nothing.
A failure ends the search, or the search continues and reports the last failure when none succeeds. -/

namespace GreenticDw

inductive Attempt (continues : Bool) (ε α : Type) where
  | hit (a : α)
  | miss
  | failed (e : ε)
  deriving DecidableEq, Repr

namespace Attempt

variable {continues : Bool} {ε α : Type}

def next : Attempt continues ε α → Attempt continues ε α → Attempt continues ε α
  | .hit a, _ => .hit a
  | .miss, y => y
  | .failed e, .miss => .failed e
  | .failed e, y => if continues then y else .failed e

instance : Monoid (Attempt continues ε α) where
  mul := next
  one := .miss
  mul_assoc x y z := by
    change next (next x y) z = next x (next y z)
    cases x <;> cases y <;> cases z <;> cases continues <;> rfl
  one_mul _ := rfl
  mul_one x := by
    change next x .miss = x
    cases x <;> rfl

@[simp] lemma hit_mul (a : α) (x : Attempt continues ε α) : hit a * x = hit a := rfl

lemma failed_mul_hit (e : ε) (a : α) : (failed e * hit a : Attempt true ε α) = hit a := rfl

lemma failed_mul_failed (e e' : ε) :
    (failed e * failed e' : Attempt true ε α) = failed e' := rfl

lemma failed_mul (e : ε) (x : Attempt false ε α) : failed e * x = failed e := by
  cases x <;> rfl

def isHit : Attempt continues ε α → Bool
  | .hit _ => true
  | _ => false

def isMiss : Attempt continues ε α → Bool
  | .miss => true
  | _ => false

def isFailed : Attempt continues ε α → Bool
  | .failed _ => true
  | _ => false

theorem prod_of_stopping (xs : List (Attempt false ε α)) :
    xs.prod = (xs.find? fun x => !x.isMiss).getD 1 := by
  induction xs with
  | nil => rfl
  | cons x xs ih =>
    rw [List.prod_cons]
    cases x with
    | hit a => rfl
    | miss => exact ih
    | failed e => exact failed_mul e _

theorem prod_of_continuing (xs : List (Attempt true ε α)) :
    xs.prod = ((xs.find? isHit).or (xs.filter isFailed).getLast?).getD 1 := by
  induction xs with
  | nil => rfl
  | cons x xs ih =>
    rw [List.prod_cons]
    cases x with
    | hit a => rfl
    | miss => exact ih
    | failed e =>
      have hfilter : (failed e :: xs).filter isFailed = failed e :: xs.filter isFailed := rfl
      have hfind : (failed e :: xs).find? isHit = xs.find? isHit := rfl
      rw [hfilter, hfind, ih, List.getLast?_cons]
      cases hhit : xs.find? isHit with
      | some y =>
        have hy := List.find?_some hhit
        cases y with
        | hit a => rfl
        | miss => cases hy
        | failed e' => cases hy
      | none =>
        cases hlast : (xs.filter isFailed).getLast? with
        | none => rfl
        | some y =>
          have hy := List.of_mem_filter (List.mem_of_getLast? hlast)
          cases y with
          | hit a => cases hy
          | miss => cases hy
          | failed e' => rfl

end Attempt

end GreenticDw

import Mathlib.Data.Fintype.Card
import Mathlib.Logic.Relation
import Mathlib.Tactic

/-! Items that wait for other items, named by keys: listings in which each item comes after the
ones it waits for, and relations without cycles. -/

namespace GreenticDw

section

variable {α κ : Type} (key : α → κ) (needs : α → List κ)

def Acyclic (r : κ → κ → Prop) : Prop := ∀ x, ¬Relation.TransGen r x x

def WaitsFor (items : List α) (x y : κ) : Prop := ∃ a ∈ items, key a = x ∧ y ∈ needs a

def InOrder : List κ → List α → Prop
  | _, [] => True
  | done, a :: items => (∀ y ∈ needs a, y ∈ done) ∧ InOrder (key a :: done) items

variable {key needs} {items rest : List α} {done : List κ}

theorem Acyclic.exists_first (h : Acyclic (WaitsFor key needs items)) (hsub : rest ⊆ items)
    (hne : rest ≠ []) : ∃ a ∈ rest, ∀ y ∈ needs a, y ∉ rest.map key := by
  let r : {x // x ∈ rest.map key} → {x // x ∈ rest.map key} → Prop := fun x y =>
    Relation.TransGen (WaitsFor key needs items) y.1 x.1
  have hirrefl : Std.Irrefl r := ⟨fun x hx => h x.1 hx⟩
  have htrans : IsTrans _ r := ⟨fun _ _ _ hxy hyz => hyz.trans hxy⟩
  have hfinite : Finite {x // x ∈ rest.map key} := List.finite_toSet (rest.map key)
  obtain ⟨b, hb⟩ := List.exists_mem_of_ne_nil rest hne
  obtain ⟨⟨x, hx⟩, _, hmin⟩ := (Finite.wellFounded_of_trans_of_irrefl r).has_min Set.univ
    ⟨⟨key b, List.mem_map_of_mem hb⟩, trivial⟩
  obtain ⟨a, ha, rfl⟩ := List.mem_map.mp hx
  refine ⟨a, ha, fun y hy hm => hmin ⟨y, hm⟩ trivial ?_⟩
  exact .single ⟨a, hsub ha, rfl, hy⟩

lemma Acyclic.exists_inOrder (h : Acyclic (WaitsFor key needs items)) (n : ℕ) (hn : rest.length = n)
    (hsub : rest ⊆ items) (hknown : ∀ a ∈ rest, ∀ y ∈ needs a, y ∈ done ∨ y ∈ rest.map key) :
    ∃ order, order.Perm rest ∧ InOrder key needs done order := by
  induction n generalizing rest done with
  | zero =>
    obtain rfl := List.length_eq_zero_iff.mp hn
    exact ⟨[], .nil, trivial⟩
  | succ n ih =>
    have hne : rest ≠ [] := by
      rintro rfl
      cases hn
    obtain ⟨a, ha, hfirst⟩ := h.exists_first hsub hne
    obtain ⟨xs, ys, rfl⟩ := List.append_of_mem ha
    have hperm : (xs ++ a :: ys).Perm (a :: (xs ++ ys)) := List.perm_middle
    have hlength : (xs ++ ys).length = n := by
      have := hperm.length_eq
      rw [List.length_cons] at this
      omega
    have hleft : ∀ b ∈ xs ++ ys, ∀ y ∈ needs b,
        y ∈ key a :: done ∨ y ∈ (xs ++ ys).map key := by
      intro b hb y hy
      obtain hy | hy := hknown b (hperm.symm.subset (List.mem_cons_of_mem a hb)) y hy
      · exact .inl (List.mem_cons_of_mem _ hy)
      · have hy := (hperm.map key).subset hy
        rw [List.map_cons, List.mem_cons] at hy
        obtain rfl | hy := hy
        · exact .inl List.mem_cons_self
        · exact .inr hy
    obtain ⟨order, horder, hin⟩ := ih hlength
      (fun b hb => hsub (hperm.symm.subset (List.mem_cons_of_mem a hb))) hleft
    refine ⟨a :: order, (horder.cons a).trans hperm.symm, fun y hy => ?_, hin⟩
    exact (hknown a ha y hy).resolve_right (hfirst y hy)

open Classical in
lemma InOrder.idxOf_lt {order : List α} (h : InOrder key needs done order)
    (hn : (order.map key).Nodup) {a : α} (ha : a ∈ order) {y : κ} (hy : y ∈ needs a) :
    y ∈ done ∨ (order.map key).idxOf y < (order.map key).idxOf (key a) := by
  induction order generalizing done with
  | nil => cases ha
  | cons b items ih =>
    rw [List.map_cons, List.nodup_cons] at hn
    obtain rfl | ha := List.mem_cons.mp ha
    · exact .inl (h.1 y hy)
    · have hne : key b ≠ key a := fun hab => hn.1 (hab ▸ List.mem_map_of_mem ha)
      rw [List.map_cons, List.idxOf_cons_ne _ hne]
      by_cases hb : key b = y
      · right
        rw [hb, List.idxOf_cons_self]
        exact Nat.succ_pos _
      · rw [List.idxOf_cons_ne _ hb]
        obtain hd | hlt := ih h.2 hn.2 ha
        · exact .inl ((List.mem_cons.mp hd).resolve_left (Ne.symm hb))
        · exact .inr (Nat.succ_lt_succ hlt)

lemma InOrder.acyclic {order : List α} (h : InOrder key needs [] order)
    (hn : (order.map key).Nodup) : Acyclic (WaitsFor key needs order) := by
  classical
  have hlt : ∀ x y, Relation.TransGen (WaitsFor key needs order) x y →
      (order.map key).idxOf y < (order.map key).idxOf x := by
    intro x y hxy
    induction hxy with
    | single hxy =>
      obtain ⟨a, ha, rfl, hy⟩ := hxy
      exact (h.idxOf_lt hn ha hy).resolve_left List.not_mem_nil
    | tail _ hyz ih =>
      obtain ⟨a, ha, rfl, hz⟩ := hyz
      exact ((h.idxOf_lt hn ha hz).resolve_left List.not_mem_nil).trans ih
  exact fun x hx => lt_irrefl _ (hlt x x hx)

theorem acyclic_iff (hn : (items.map key).Nodup)
    (hknown : ∀ a ∈ items, ∀ y ∈ needs a, y ∈ items.map key) :
    Acyclic (WaitsFor key needs items) ↔
      ∃ order, order.Perm items ∧ InOrder key needs [] order := by
  constructor
  · intro h
    exact h.exists_inOrder _ rfl (List.Subset.refl items) fun a ha y hy => .inr (hknown a ha y hy)
  · rintro ⟨order, hperm, hin⟩
    have hwaits : WaitsFor key needs items = WaitsFor key needs order := by
      funext x y
      simp only [WaitsFor, hperm.mem_iff]
    rw [hwaits]
    exact hin.acyclic ((hperm.map key).nodup_iff.mpr hn)

end

end GreenticDw

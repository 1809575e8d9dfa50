import GreenticDw.Invoker.Tools
import Mathlib.Data.List.Sort

namespace GreenticDw.Value

mutual
/-- The values differ at most in the order of the keys of their objects, at any depth. -/
inductive Reordered : Value → Value → Prop
  | same (value : Value) : Reordered value value
  | array {xs ys : List Value} : ReorderedItems xs ys → Reordered (.array xs) (.array ys)
  | object {xs ys zs : List (String × Value)} : ReorderedFields xs ys → ys.Perm zs →
      (zs.map Prod.fst).Nodup → Reordered (.object xs) (.object zs)

inductive ReorderedItems : List Value → List Value → Prop
  | nil : ReorderedItems [] []
  | cons {x y : Value} {xs ys : List Value} : Reordered x y → ReorderedItems xs ys →
      ReorderedItems (x :: xs) (y :: ys)

inductive ReorderedFields : List (String × Value) → List (String × Value) → Prop
  | nil : ReorderedFields [] []
  | cons {key : String} {x y : Value} {xs ys : List (String × Value)} : Reordered x y →
      ReorderedFields xs ys → ReorderedFields ((key, x) :: xs) ((key, y) :: ys)
end

abbrev KeyLE (a b : String × Value) : Prop := a.1 ≤ b.1

instance : Std.Total KeyLE := ⟨fun a b => String.le_total a.1 b.1⟩

instance : IsTrans (String × Value) KeyLE := ⟨fun _ _ _ h h' => String.le_trans h h'⟩

lemma insertionSort_eq_of_perm {xs ys : List (String × Value)} (h : xs.Perm ys)
    (hn : (ys.map Prod.fst).Nodup) : xs.insertionSort KeyLE = ys.insertionSort KeyLE := by
  have hx := List.perm_insertionSort KeyLE xs
  have hy := List.perm_insertionSort KeyLE ys
  have hxs : (xs.insertionSort KeyLE).Pairwise KeyLE := List.pairwise_insertionSort KeyLE xs
  have hys : (ys.insertionSort KeyLE).Pairwise KeyLE := List.pairwise_insertionSort KeyLE ys
  refine List.Perm.eq_of_pairwise ?_ hxs hys ((hx.trans h).trans hy.symm)
  intro a b ha hb hab hba
  have ha : a ∈ ys := h.subset (hx.subset ha)
  exact List.inj_on_of_nodup_map hn ha (hy.subset hb) (String.le_antisymm hab hba)

lemma sortedFields_eq_map (fields : List (String × Value)) :
    sortedFields fields = fields.map fun field => (field.1, field.2.sorted) := by
  induction fields with
  | nil => rfl
  | cons field fields ih => rw [sortedFields, ih, List.map_cons]

mutual
theorem Reordered.sorted_eq {a b : Value} : Reordered a b → a.sorted = b.sorted
  | .same _ => rfl
  | .array h => by rw [sorted, sorted, h.sortedItems_eq]
  | @Reordered.object _ ys zs h hp hn => by
    have hkeys : ((sortedFields zs).map Prod.fst).Nodup := by
      rw [sortedFields_eq_map, List.map_map]
      exact hn
    rw [sorted, sorted, h.sortedFields_eq]
    refine congrArg Value.object (insertionSort_eq_of_perm ?_ hkeys)
    rw [sortedFields_eq_map, sortedFields_eq_map]
    exact hp.map _

theorem ReorderedItems.sortedItems_eq {xs ys : List Value} :
    ReorderedItems xs ys → sortedItems xs = sortedItems ys
  | .nil => rfl
  | .cons h hs => by rw [sortedItems, sortedItems, h.sorted_eq, hs.sortedItems_eq]

theorem ReorderedFields.sortedFields_eq {xs ys : List (String × Value)} :
    ReorderedFields xs ys → sortedFields xs = sortedFields ys
  | .nil => rfl
  | .cons h hs => by rw [sortedFields, sortedFields, h.sorted_eq, hs.sortedFields_eq]
end

lemma Reordered.canonicalJson_eq {a b : Value} (h : Reordered a b) :
    canonicalJson a = canonicalJson b := congrArg toText h.sorted_eq

end GreenticDw.Value

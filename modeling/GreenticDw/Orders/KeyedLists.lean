import Mathlib.Data.List.Sort
import Mathlib.Tactic

namespace GreenticDw

lemma filter_key_eq {α κ : Type} [DecidableEq κ] {key : α → κ} {xs : List α} {x : α}
    (hxs : (xs.map key).Nodup) (hx : x ∈ xs) : xs.filter (fun y => key y = key x) = [x] := by
  induction xs with
  | nil => cases hx
  | cons y ys ih =>
    rw [List.map_cons, List.nodup_cons] at hxs
    by_cases hy : key y = key x
    · have hys : ys.filter (fun y => key y = key x) = [] := by
        rw [List.filter_eq_nil_iff]
        intro z hz
        simpa [hy] using fun he => hxs.1 (List.mem_map.mpr ⟨z, hz, he.trans hy.symm⟩)
      rcases List.mem_cons.mp hx with rfl | hmem
      · rw [List.filter_cons_of_pos (by simp), hys]
      · exact (hxs.1 (List.mem_map.mpr ⟨x, hmem, hy.symm⟩)).elim
    · rw [List.filter_cons_of_neg (by simpa using hy)]
      rcases List.mem_cons.mp hx with rfl | hmem
      · exact (hy rfl).elim
      · exact ih hxs.2 hmem

lemma nodup_flatMap_iff {α β κ : Type} {key : α → κ} {f : α → List β} {xs : List α}
    (hxs : (xs.map key).Nodup) : (xs.flatMap f).Nodup ↔ (∀ a ∈ xs, (f a).Nodup) ∧
      ∀ a ∈ xs, ∀ b ∈ xs, key a ≠ key b → (f a).Disjoint (f b) := by
  have hsymm : Std.Symm (Function.onFun List.Disjoint f) := ⟨fun _ _ h => h.symm⟩
  rw [List.nodup_flatMap]
  apply and_congr_right
  intro _
  constructor
  · intro hpairwise a ha b hb hne
    exact hpairwise.forall ha hb fun hab => hne (congrArg key hab)
  · intro hdisjoint
    apply (List.pairwise_map.mp hxs).imp_of_mem
    exact fun ha hb hne => hdisjoint _ ha _ hb hne

lemma nodup_filter_iff {α : Type} [DecidableEq α] {p : α → Bool} {xs : List α} :
    (xs.filter p).Nodup ↔ ∀ a, p a = true → xs.count a ≤ 1 := by
  rw [List.nodup_iff_count_le_one]
  constructor
  · intro h a ha
    rw [← List.count_filter ha]
    exact h a
  · intro h a
    cases ha : p a with
    | true =>
      rw [List.count_filter ha]
      exact h a ha
    | false =>
      rw [List.count_eq_zero_of_not_mem]
      · exact Nat.zero_le 1
      · intro hmem
        exact Bool.false_ne_true (ha.symm.trans (List.mem_filter.mp hmem).2)

variable {α κ : Type} [LinearOrder κ] {key : α → κ} {xs ys : List α}

def sortBy (key : α → κ) (xs : List α) : List α := xs.insertionSort fun a b => key a ≤ key b

lemma perm_sortBy (key : α → κ) (xs : List α) : (sortBy key xs).Perm xs :=
  List.perm_insertionSort _ xs

@[simp] lemma mem_sortBy {a : α} : a ∈ sortBy key xs ↔ a ∈ xs := (perm_sortBy key xs).mem_iff

lemma nodup_map_sortBy : ((sortBy key xs).map key).Nodup ↔ (xs.map key).Nodup :=
  ((perm_sortBy key xs).map key).nodup_iff

lemma pairwise_sortBy (key : α → κ) (xs : List α) :
    (sortBy key xs).Pairwise fun a b => key a ≤ key b := by
  have htotal : Std.Total fun a b : α => key a ≤ key b := ⟨fun a b => le_total (key a) (key b)⟩
  have htrans : IsTrans α fun a b => key a ≤ key b := ⟨fun _ _ _ => le_trans⟩
  exact List.pairwise_insertionSort _ xs

lemma pairwise_lt_sortBy (h : (xs.map key).Nodup) :
    ((sortBy key xs).map key).Pairwise (· < ·) := by
  rw [List.pairwise_map]
  have hne := List.pairwise_map.mp (nodup_map_sortBy.mpr h)
  exact (pairwise_sortBy key xs).imp₂ (fun _ _ hle hne => lt_of_le_of_ne hle hne) hne

theorem eq_of_ascending (hx : (xs.map key).Pairwise (· < ·)) (hy : (ys.map key).Pairwise (· < ·))
    (h : ∀ a, a ∈ xs ↔ a ∈ ys) : xs = ys := by
  rw [List.pairwise_map] at hx hy
  have hnodup : ∀ {zs : List α}, zs.Pairwise (fun a b => key a < key b) → zs.Nodup := fun hz =>
    hz.imp fun hlt he => absurd (congrArg key he) hlt.ne
  have hperm := (List.perm_ext_iff_of_nodup (hnodup hx) (hnodup hy)).mpr h
  exact hperm.eq_of_pairwise (fun _ _ _ _ hab hba => (lt_asymm hab hba).elim) hx hy

theorem sortBy_ext (hx : (xs.map key).Nodup) (hy : (ys.map key).Nodup)
    (h : ∀ a, a ∈ xs ↔ a ∈ ys) : sortBy key xs = sortBy key ys :=
  eq_of_ascending (pairwise_lt_sortBy hx) (pairwise_lt_sortBy hy) fun a => by
    rw [mem_sortBy, mem_sortBy, h]

end GreenticDw

import GreenticDw.Orders.KeyedLists

/-! Sorting by a key keeps the order of the list among equal keys, and no other sorted list does. -/

namespace GreenticDw

variable {α κ : Type} [LinearOrder κ] {key : α → κ} {xs ys zs : List α}

lemma filter_key_sortBy (k : κ) :
    (sortBy key xs).filter (fun a => key a = k) = xs.filter fun a => key a = k := by
  have hpairwise : (xs.filter fun a => key a = k).Pairwise fun a b => key a ≤ key b := by
    rw [List.pairwise_iff_forall_sublist]
    intro a b hab
    have ha : a ∈ xs.filter fun a => key a = k := hab.subset (by simp)
    have hb : b ∈ xs.filter fun a => key a = k := hab.subset (by simp)
    rw [List.mem_filter, decide_eq_true_eq] at ha hb
    rw [ha.2, hb.2]
  have htotal : Std.Total fun a b : α => key a ≤ key b := ⟨fun a b => le_total (key a) (key b)⟩
  have htrans : IsTrans α fun a b => key a ≤ key b := ⟨fun _ _ _ => le_trans⟩
  have hsublist : (xs.filter fun a => key a = k).Sublist (sortBy key xs) :=
    List.sublist_insertionSort hpairwise List.filter_sublist
  have hfilter := hsublist.filter fun a => decide (key a = k)
  rw [List.filter_filter] at hfilter
  simp only [Bool.and_self] at hfilter
  exact (hfilter.eq_of_length ((perm_sortBy key xs).filter _).length_eq.symm).symm

lemma key_le_of_filter {y z : α} (h : ∀ k, (y :: ys).filter (fun a => key a = k) =
    (z :: zs).filter fun a => key a = k) (hy : (y :: ys).Pairwise fun a b => key a ≤ key b) :
    key y ≤ key z := by
  have hz : z ∈ (z :: zs).filter fun a => key a = key z := by simp
  rw [← h, List.mem_filter] at hz
  rcases List.mem_cons.mp hz.1 with rfl | hmem
  · exact le_rfl
  · exact (List.pairwise_cons.mp hy).1 z hmem

theorem eq_of_stable (hy : ys.Pairwise fun a b => key a ≤ key b)
    (hz : zs.Pairwise fun a b => key a ≤ key b)
    (h : ∀ k, ys.filter (fun a => key a = k) = zs.filter fun a => key a = k) : ys = zs := by
  induction ys generalizing zs with
  | nil =>
    cases zs with
    | nil => rfl
    | cons z zs => simpa using h (key z)
  | cons y ys ih =>
    cases zs with
    | nil => simpa using h (key y)
    | cons z zs =>
      have hkey : key y = key z :=
        le_antisymm (key_le_of_filter h hy) (key_le_of_filter (fun k => (h k).symm) hz)
      have hhead := h (key y)
      rw [List.filter_cons_of_pos (by simp), List.filter_cons_of_pos (by simp [hkey])] at hhead
      obtain ⟨rfl, -⟩ := List.cons.inj hhead
      rw [List.cons.injEq]
      refine ⟨rfl, ih hy.of_cons hz.of_cons ?_⟩
      intro k
      have hk := h k
      rw [List.filter_cons, List.filter_cons] at hk
      split at hk
      · exact List.cons.inj hk |>.2
      · exact hk

theorem eq_sortBy (hy : ys.Pairwise fun a b => key a ≤ key b)
    (h : ∀ k, ys.filter (fun a => key a = k) = xs.filter fun a => key a = k) :
    ys = sortBy key xs :=
  eq_of_stable hy (pairwise_sortBy key xs) fun k => (h k).trans (filter_key_sortBy k).symm

theorem filter_sortBy (p : α → Bool) : (sortBy key xs).filter p = sortBy key (xs.filter p) := by
  apply eq_sortBy
  · exact (pairwise_sortBy key xs).filter p
  · intro k
    rw [List.filter_comm, filter_key_sortBy, List.filter_comm]

theorem sortBy_perm (hxs : (xs.map key).Nodup) (hperm : ys.Perm xs) :
    sortBy key ys = sortBy key xs :=
  sortBy_ext ((hperm.map key).nodup_iff.mpr hxs) hxs fun _ => hperm.mem_iff

end GreenticDw

import GreenticDw.Orders.SortedMaps

/-! Events that are gathered in groups by a key: the first event of a key starts its group, and the
later ones join it. The groups may stand in a list, in a list with an index, or in a sorted map. -/

namespace GreenticDw

structure Grouping (α β κ : Type) where
  key : α → κ
  name : β → κ
  first : α → β
  join : β → α → β
  name_first : ∀ x, name (first x) = key x
  name_join : ∀ b x, name (join b x) = name b

namespace Grouping

variable {α β κ : Type} (g : Grouping α β κ)

def gather : List α → Option β
  | [] => none
  | x :: xs => some (xs.foldl g.join (g.first x))

variable {g} {xs : List α} {groups : List β} {x : α} {b : β} {k : κ}

lemma gather_concat (xs : List α) (x : α) :
    g.gather (xs ++ [x]) = some (((g.gather xs).map fun b => g.join b x).getD (g.first x)) := by
  cases xs with
  | nil => rfl
  | cons y ys => simp [gather]

lemma name_foldl (xs : List α) (b : β) : g.name (xs.foldl g.join b) = g.name b := by
  induction xs generalizing b with
  | nil => rfl
  | cons x xs ih => rw [List.foldl_cons, ih, g.name_join]

variable [DecidableEq κ]

def group (g : Grouping α β κ) (xs : List α) (k : κ) : Option β :=
  g.gather (xs.filter fun x => g.key x = k)

def place (g : Grouping α β κ) (x : α) : List β → List β
  | [] => [g.first x]
  | b :: groups => if g.name b = g.key x then g.join b x :: groups else b :: place g x groups

def placeAll (g : Grouping α β κ) (groups : List β) (xs : List α) : List β :=
  xs.foldl (fun groups x => g.place x groups) groups

lemma group_concat (xs : List α) (x : α) (k : κ) :
    g.group (xs ++ [x]) k =
      if g.key x = k then some (((g.group xs k).map fun b => g.join b x).getD (g.first x))
      else g.group xs k := by
  rw [group, List.filter_append]
  by_cases hk : g.key x = k
  · rw [if_pos hk, List.filter_singleton, decide_eq_true hk, cond_true, gather_concat, ← group]
  · rw [if_neg hk, List.filter_singleton, decide_eq_false hk, cond_false, List.append_nil, ← group]

lemma group_eq_none : g.group xs k = none ↔ ∀ x ∈ xs, g.key x ≠ k := by
  have hg : ∀ ys : List α, g.gather ys = none ↔ ys = [] := by
    intro ys
    cases ys <;> simp [gather]
  rw [group, hg, List.filter_eq_nil_iff]
  simp

lemma group_eq_some : g.group xs k = some b ↔
    ∃ x ys, xs.filter (fun x => g.key x = k) = x :: ys ∧ b = ys.foldl g.join (g.first x) := by
  rw [group]
  cases xs.filter fun x => g.key x = k with
  | nil => simp [gather]
  | cons x ys => simp [gather, eq_comm]

lemma name_of_group (h : g.group xs k = some b) : g.name b = k := by
  obtain ⟨x, ys, hf, rfl⟩ := group_eq_some.mp h
  have hx : x ∈ xs.filter fun x => g.key x = k := hf ▸ List.mem_cons_self
  rw [name_foldl, g.name_first]
  simpa using (List.mem_filter.mp hx).2

lemma group_of_nodup (hxs : (xs.map g.key).Nodup) :
    g.group xs k = some b ↔ ∃ x ∈ xs, g.key x = k ∧ b = g.first x := by
  rw [group_eq_some]
  constructor
  · rintro ⟨x, ys, hf, rfl⟩
    have hx : x ∈ xs ∧ g.key x = k := by
      simpa using (hf ▸ List.mem_cons_self : x ∈ xs.filter fun x => g.key x = k)
    obtain ⟨hmem, rfl⟩ := hx
    rw [filter_key_eq hxs hmem, List.cons.injEq] at hf
    exact ⟨x, hmem, rfl, by rw [← hf.2, List.foldl_nil]⟩
  · rintro ⟨x, hx, rfl, rfl⟩
    exact ⟨x, [], filter_key_eq hxs hx, rfl⟩

theorem group_induction {P : List α → β → Prop} (first : ∀ x, P [x] (g.first x))
    (join : ∀ ys b x, P ys b → P (ys ++ [x]) (g.join b x)) (h : g.group xs k = some b) :
    P (xs.filter fun x => g.key x = k) b := by
  rw [group] at h
  generalize xs.filter (fun x => g.key x = k) = ys at h ⊢
  induction ys using List.reverseRecOn generalizing b with
  | nil => cases h
  | append_singleton ys x ih =>
    rw [gather_concat, Option.some.injEq] at h
    subst h
    cases ys with
    | nil => exact first x
    | cons y ys => exact join _ _ x (ih rfl)

lemma filter_place (k : κ) : (g.place x groups).filter (fun b => g.name b = k) =
    if g.key x = k then
      match groups.filter fun b => g.name b = k with
      | [] => [g.first x]
      | b :: rest => g.join b x :: rest
    else groups.filter fun b => g.name b = k := by
  induction groups with
  | nil => by_cases hk : g.key x = k <;> simp [place, g.name_first, hk]
  | cons b groups ih =>
    rw [place]
    by_cases hb : g.name b = g.key x
    · by_cases hk : g.key x = k <;> simp [hb, g.name_join, hk]
    · rw [if_neg hb, List.filter_cons, List.filter_cons]
      by_cases hk : g.name b = k
      · simp [ih, hk, show g.key x ≠ k from fun he => hb (hk.trans he.symm)]
      · simp [ih, hk]

theorem filter_placeAll (xs : List α) (k : κ) :
    (g.placeAll [] xs).filter (fun b => g.name b = k) = (g.group xs k).toList := by
  induction xs using List.reverseRecOn with
  | nil => rfl
  | append_singleton xs x ih =>
    rw [placeAll, List.foldl_concat, ← placeAll, filter_place, ih, group_concat]
    split_ifs
    · cases g.group xs k <;> rfl
    · rfl

lemma mem_placeAll : b ∈ g.placeAll [] xs ↔ g.group xs (g.name b) = some b := by
  have h := filter_placeAll (g := g) xs (g.name b)
  have hmem : b ∈ g.placeAll [] xs ↔
      b ∈ (g.placeAll [] xs).filter fun c => g.name c = g.name b := by simp
  rw [hmem, h, Option.mem_toList]

lemma nodup_placeAll (xs : List α) : ((g.placeAll [] xs).map g.name).Nodup := by
  rw [List.nodup_iff_count_le_one]
  intro k
  rw [List.count_eq_length_filter, List.filter_map, List.length_map]
  have heq : (g.placeAll [] xs).filter ((· == k) ∘ g.name) =
      (g.placeAll [] xs).filter fun b => g.name b = k := List.filter_congr fun _ _ => rfl
  rw [heq, filter_placeAll]
  cases g.group xs k <;> simp

section Indexed

lemma place_of_findIdx?_eq_none
    (h : groups.findIdx? (fun b => g.name b = g.key x) = none) :
    g.place x groups = groups ++ [g.first x] := by
  induction groups with
  | nil => rfl
  | cons b groups ih =>
    rw [List.findIdx?_cons] at h
    by_cases hb : g.name b = g.key x
    · simp [hb] at h
    · rw [place, if_neg hb, ih (by simpa [hb] using h), List.cons_append]

lemma place_of_findIdx?_eq_some {i : ℕ}
    (h : groups.findIdx? (fun b => g.name b = g.key x) = some i) :
    g.place x groups = groups.modify i fun b => g.join b x := by
  induction groups generalizing i with
  | nil => simp at h
  | cons b groups ih =>
    rw [List.findIdx?_cons] at h
    by_cases hb : g.name b = g.key x
    · have hi : i = 0 := by simpa [hb, eq_comm] using h
      rw [place, if_pos hb, hi]
      rfl
    · simp only [hb, decide_false, Bool.false_eq_true, if_false, Option.map_eq_some_iff] at h
      obtain ⟨j, hj, rfl⟩ := h
      rw [place, if_neg hb, ih hj]
      rfl

lemma findIdx?_place (k : κ) : (g.place x groups).findIdx? (fun b => g.name b = k) =
    if g.key x = k then
      some ((groups.findIdx? fun b => g.name b = g.key x).getD groups.length)
    else groups.findIdx? fun b => g.name b = k := by
  induction groups with
  | nil => by_cases hk : g.key x = k <;> simp [place, g.name_first, hk]
  | cons b groups ih =>
    rw [place]
    by_cases hb : g.name b = g.key x
    · by_cases hk : g.key x = k <;> simp [hb, g.name_join, hk, List.findIdx?_cons]
    · rw [if_neg hb, List.findIdx?_cons, ih, List.findIdx?_cons, List.findIdx?_cons]
      by_cases hk : g.key x = k
      · subst hk
        simp only [hb, decide_false, Bool.false_eq_true, if_false, if_true]
        cases groups.findIdx? fun b => g.name b = g.key x <;> simp
      · simp [hk]

lemma filterMap_place {γ : Type} {view : β → Option γ} (hview : ∀ b, view (g.join b x) = view b) :
    (g.place x groups).filterMap view = groups.filterMap view ++
      if (groups.findIdx? fun b => g.name b = g.key x).isSome then [] else (view (g.first x)).toList := by
  induction groups with
  | nil => cases hv : view (g.first x) <;> simp [place, hv]
  | cons b groups ih =>
    rw [place]
    by_cases hb : g.name b = g.key x
    · simp [hb, hview, List.filterMap_cons, List.findIdx?_cons]
    · rw [if_neg hb, List.filterMap_cons, ih, List.filterMap_cons, List.findIdx?_cons]
      cases view b <;> simp [hb]

end Indexed

section Mapped

variable {κ : Type} [LinearOrder κ] {g : Grouping α β κ} {xs : List α} {k : κ}

def enter (g : Grouping α β κ) (m : SortedMap κ β) (x : α) : SortedMap κ β :=
  m.insert (g.key x) (((m.get (g.key x)).map fun b => g.join b x).getD (g.first x))

theorem get_enterAll (xs : List α) (k : κ) : (xs.foldl g.enter ∅).get k = g.group xs k := by
  induction xs using List.reverseRecOn with
  | nil => rfl
  | append_singleton xs x ih =>
    rw [List.foldl_concat, enter, SortedMap.get_insert, group_concat]
    split_ifs with hk
    · subst hk
      rw [← ih]
    · exact ih

end Mapped

end Grouping

end GreenticDw

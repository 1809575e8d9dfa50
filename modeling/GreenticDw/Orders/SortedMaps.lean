import GreenticDw.Orders.KeyedLists
import Mathlib.Data.List.Destutter

/-! Finite maps kept as lists of entries that ascend in their keys. -/

namespace GreenticDw

section

variable {α : Type} [LinearOrder α] {a : α} {xs ys : List α}

def sortedUnique (xs : List α) : List α := (sortBy id xs).destutter (· ≠ ·)

lemma mem_destutter'_ne (b : α) : a ∈ xs.destutter' (· ≠ ·) b ↔ a = b ∨ a ∈ xs := by
  induction xs generalizing b with
  | nil => simp [List.destutter']
  | cons c xs ih =>
    rw [List.destutter'_cons, List.mem_cons]
    by_cases hbc : b = c
    · subst hbc
      rw [if_neg (not_not.mpr rfl), ih]
      grind
    · rw [if_pos hbc, List.mem_cons, ih]

@[simp] lemma mem_sortedUnique : a ∈ sortedUnique xs ↔ a ∈ xs := by
  have hsorted : a ∈ sortBy id xs ↔ a ∈ xs := mem_sortBy
  rw [sortedUnique, ← hsorted]
  cases sortBy id xs with
  | nil => simp
  | cons b bs => rw [List.destutter_cons', mem_destutter'_ne, List.mem_cons]

lemma pairwise_sortedUnique (xs : List α) : (sortedUnique xs).Pairwise (· < ·) := by
  have hle := (pairwise_sortBy id xs).sublist (List.destutter_sublist (· ≠ ·) _)
  have hne := List.isChain_destutter (· ≠ ·) (sortBy id xs)
  rw [List.isChain_iff_getElem] at hne
  rw [← List.isChain_iff_pairwise, List.isChain_iff_getElem]
  exact fun i hi => lt_of_le_of_ne (List.isChain_iff_getElem.mp hle.isChain i hi) (hne i hi)

theorem sortedUnique_ext (h : ∀ a, a ∈ xs ↔ a ∈ ys) : sortedUnique xs = sortedUnique ys := by
  have hascends : ∀ zs : List α, ((sortedUnique zs).map id).Pairwise (· < ·) := by
    intro zs
    rw [List.map_id]
    exact pairwise_sortedUnique zs
  apply eq_of_ascending (hascends xs) (hascends ys)
  intro a
  rw [mem_sortedUnique, mem_sortedUnique, h]

end

variable {κ α : Type} [LinearOrder κ]

def insertEntry (key : κ) (a : α) : List (κ × α) → List (κ × α)
  | [] => [(key, a)]
  | entry :: entries =>
    if key < entry.1 then (key, a) :: entry :: entries
    else if key = entry.1 then (key, a) :: entries
    else entry :: insertEntry key a entries

lemma mem_keys_insertEntry {key k : κ} {a : α} {entries : List (κ × α)} :
    k ∈ (insertEntry key a entries).map Prod.fst ↔ k = key ∨ k ∈ entries.map Prod.fst := by
  induction entries with
  | nil => simp [insertEntry]
  | cons entry entries ih =>
    rw [insertEntry]
    split_ifs with hlt heq
    · simp
    · simp [heq]
    · rw [List.map_cons, List.mem_cons, ih, List.map_cons, List.mem_cons, or_left_comm]

lemma ascending_insertEntry {key : κ} {a : α} {entries : List (κ × α)}
    (h : (entries.map Prod.fst).Pairwise (· < ·)) :
    ((insertEntry key a entries).map Prod.fst).Pairwise (· < ·) := by
  induction entries with
  | nil => simp [insertEntry]
  | cons entry entries ih =>
    rw [List.map_cons, List.pairwise_cons] at h
    rw [insertEntry]
    split_ifs with hlt heq
    · simp only [List.map_cons, List.pairwise_cons, List.mem_cons]
      refine ⟨fun k hk => ?_, h⟩
      rcases hk with rfl | hk
      · exact hlt
      · exact hlt.trans (h.1 k hk)
    · rw [List.map_cons, List.pairwise_cons, heq]
      exact h
    · rw [List.map_cons, List.pairwise_cons]
      refine ⟨fun k hk => ?_, ih h.2⟩
      rcases mem_keys_insertEntry.mp hk with rfl | hk
      · exact lt_of_le_of_ne (not_lt.mp hlt) (Ne.symm heq)
      · exact h.1 k hk

structure SortedMap (κ α : Type) [LinearOrder κ] where
  entries : List (κ × α)
  ascending : (entries.map Prod.fst).Pairwise (· < ·)

namespace SortedMap

instance : EmptyCollection (SortedMap κ α) := ⟨⟨[], List.Pairwise.nil⟩⟩

def get (m : SortedMap κ α) (key : κ) : Option α :=
  (m.entries.find? fun entry => entry.1 = key).map Prod.snd

def insert (m : SortedMap κ α) (key : κ) (a : α) : SortedMap κ α where
  entries := insertEntry key a m.entries
  ascending := ascending_insertEntry m.ascending

def values (m : SortedMap κ α) : List α := m.entries.map Prod.snd

def ofEntries (entries : List (κ × α)) : SortedMap κ α :=
  entries.foldl (fun m entry => m.insert entry.1 entry.2) ∅

variable {m : SortedMap κ α} {key k : κ} {a b : α}

lemma ofEntries_nil : ofEntries ([] : List (κ × α)) = ∅ := rfl

@[simp] lemma get_empty : (∅ : SortedMap κ α).get key = none := rfl

lemma find?_insertEntry {entries : List (κ × α)} (key k : κ) (a : α) :
    (insertEntry key a entries).find? (fun entry => entry.1 = k) =
      if key = k then some (key, a) else entries.find? fun entry => entry.1 = k := by
  induction entries with
  | nil => by_cases hk : key = k <;> simp [insertEntry, hk]
  | cons entry entries ih =>
    rw [insertEntry]
    by_cases hlt : key < entry.1
    · rw [if_pos hlt]
      by_cases hk : key = k <;> simp [hk]
    · rw [if_neg hlt]
      by_cases heq : key = entry.1
      · rw [if_pos heq]
        by_cases hk : key = k <;> simp [hk, ← heq]
      · rw [if_neg heq, List.find?_cons, ih]
        by_cases hk : key = k
        · subst hk
          simp [Ne.symm heq]
        · simp [hk, List.find?_cons]

@[simp] lemma get_insert : (m.insert key a).get k = if key = k then some a else m.get k := by
  rw [get, insert, find?_insertEntry]
  split_ifs <;> rfl

lemma get_ofEntries (entries : List (κ × α)) : (ofEntries entries).get key =
    (entries.reverse.find? fun entry => entry.1 = key).map Prod.snd := by
  induction entries using List.reverseRecOn with
  | nil => rfl
  | append_singleton entries entry ih =>
    rw [ofEntries, List.foldl_concat, ← ofEntries, get_insert, ih, List.reverse_concat,
      List.find?_cons]
    by_cases hk : entry.1 = key <;> simp [hk]

lemma get_foldl_insert {β : Type} {keyOf : β → κ} {f : β → α} {xs : List β} {x : β}
    (hn : (xs.map keyOf).Nodup) (hx : x ∈ xs) (m : SortedMap κ α) :
    (xs.foldl (fun m x => m.insert (keyOf x) (f x)) m).get (keyOf x) = some (f x) := by
  induction xs using List.reverseRecOn with
  | nil => cases hx
  | append_singleton xs y ih =>
    rw [List.map_append, List.map_singleton, List.nodup_append'] at hn
    rw [List.foldl_concat, get_insert]
    obtain hx | hx := List.mem_append.mp hx
    · have hne : keyOf y ≠ keyOf x := by
        intro he
        exact hn.2.2 (List.mem_map_of_mem hx) (he ▸ List.mem_singleton_self _)
      rw [if_neg hne]
      exact ih hn.1 hx
    · rw [List.mem_singleton.mp hx, if_pos rfl]

lemma get_ofEntries_append (xs ys : List (κ × α)) : (ofEntries (xs ++ ys)).get key =
    ((ofEntries ys).get key <|> (ofEntries xs).get key) := by
  rw [get_ofEntries, get_ofEntries, get_ofEntries, List.reverse_append, List.find?_append]
  cases ys.reverse.find? fun entry => entry.1 = key <;> rfl

lemma get_ofEntries_eq_none {entries : List (κ × α)} (h : ∀ entry ∈ entries, entry.1 ≠ key) :
    (ofEntries entries).get key = none := by
  rw [get_ofEntries, Option.map_eq_none_iff, List.find?_eq_none]
  intro entry hmem
  simpa using h entry (List.mem_reverse.mp hmem)

lemma get_ofEntries_filter (entries : List (κ × α)) :
    (ofEntries (entries.filter fun entry => entry.1 = key)).get key =
      (ofEntries entries).get key := by
  rw [get_ofEntries, get_ofEntries, ← List.filter_reverse, List.find?_filter]
  simp

lemma get_ofEntries_append_cons {xs ys : List (κ × α)} (h : ∀ entry ∈ ys, entry.1 ≠ key) :
    (ofEntries (xs ++ (key, a) :: ys)).get key = some a := by
  have hys : ys.reverse.find? (fun entry => entry.1 = key) = none := by
    rw [List.find?_eq_none]
    intro entry hmem
    simpa using h entry (List.mem_reverse.mp hmem)
  rw [get_ofEntries, List.reverse_append, List.reverse_cons, List.find?_append, List.find?_append,
    hys]
  simp

lemma get_ofEntries_filterMap (keys : List κ) (f : κ → Option α) :
    (ofEntries (keys.filterMap fun k => (f k).map (k, ·))).get key =
      if key ∈ keys then f key else none := by
  induction keys using List.reverseRecOn with
  | nil => rfl
  | append_singleton keys k ih =>
    have hlast : (ofEntries ([k].filterMap fun k => (f k).map (k, ·))).get key =
        if key = k then f k else none := by
      cases hf : f k <;> simp [ofEntries, hf, eq_comm]
    rw [List.filterMap_append, get_ofEntries_append, hlast, ih]
    by_cases hk : key = k
    · subst hk
      cases f key <;> simp
    · simp [hk]

lemma get_eq_some : m.get key = some a ↔ (key, a) ∈ m.entries := by
  rw [get]
  constructor
  · intro h
    obtain ⟨entry, hf, rfl⟩ := Option.map_eq_some_iff.mp h
    have hk := List.find?_some hf
    simp only [decide_eq_true_eq] at hk
    exact hk ▸ List.mem_of_find?_eq_some hf
  · intro hmem
    have hsome : (m.entries.find? fun entry => entry.1 = key).isSome := by
      rw [List.find?_isSome]
      exact ⟨(key, a), hmem, by simp⟩
    obtain ⟨entry, hf⟩ := Option.isSome_iff_exists.mp hsome
    have hk := List.find?_some hf
    simp only [decide_eq_true_eq] at hk
    have hnodup : (m.entries.map Prod.fst).Nodup := m.ascending.imp fun h => h.ne
    have he := List.inj_on_of_nodup_map hnodup (List.mem_of_find?_eq_some hf) hmem hk
    rw [hf, he]
    rfl

lemma mem_values : a ∈ m.values ↔ ∃ key, m.get key = some a := by
  simp only [values, List.mem_map, get_eq_some, Prod.exists, exists_eq_right]

lemma filter_entries_congr {m' : SortedMap κ α} {p : κ → Bool}
    (h : ∀ key, p key = true → m.get key = m'.get key) :
    m.entries.filter (fun entry => p entry.1) = m'.entries.filter fun entry => p entry.1 := by
  have hascends : ∀ m : SortedMap κ α,
      ((m.entries.filter fun entry => p entry.1).map Prod.fst).Pairwise (· < ·) := fun m =>
    m.ascending.sublist (List.filter_sublist.map Prod.fst)
  apply eq_of_ascending (hascends m) (hascends m')
  rintro ⟨key, a⟩
  rw [List.mem_filter, List.mem_filter, ← get_eq_some, ← get_eq_some]
  constructor
  · rintro ⟨hget, hp⟩
    exact ⟨h key hp ▸ hget, hp⟩
  · rintro ⟨hget, hp⟩
    exact ⟨(h key hp).symm ▸ hget, hp⟩

lemma filterMap_entries_congr {β : Type} {m' : SortedMap κ α} {f : κ × α → Option β} {p : κ → Bool}
    (hf : ∀ entry : κ × α, p entry.1 = false → f entry = none)
    (h : ∀ key, p key = true → m.get key = m'.get key) :
    m.entries.filterMap f = m'.entries.filterMap f := by
  have hread : ∀ entries : List (κ × α),
      entries.filterMap f = (entries.filter fun entry => p entry.1).filterMap f := by
    intro entries
    rw [List.filterMap_filter]
    apply List.filterMap_congr
    intro entry _
    cases hp : p entry.1 with
    | true => rfl
    | false => exact hf entry hp
  rw [hread, filter_entries_congr h, ← hread]

lemma get_ofEntries_of_mem {entries : List (κ × α)} (hmem : (key, a) ∈ entries)
    (h : ∀ entry ∈ entries, entry.1 = key → entry.2 = a) :
    (ofEntries entries).get key = some a := by
  have hsome : (entries.reverse.find? fun entry => entry.1 = key).isSome = true := by
    rw [List.find?_isSome]
    exact ⟨(key, a), List.mem_reverse.mpr hmem, by simp⟩
  obtain ⟨entry, hfind⟩ := Option.isSome_iff_exists.mp hsome
  have hkey : entry.1 = key := by simpa using List.find?_some hfind
  have hentry := h entry (List.mem_reverse.mp (List.mem_of_find?_eq_some hfind)) hkey
  rw [get_ofEntries, hfind, Option.map_some, hentry]

lemma get_ofEntries_filter_entries {p : κ → Bool} (hp : p key = true) :
    (ofEntries (m.entries.filter fun entry => p entry.1)).get key = m.get key := by
  cases hget : m.get key with
  | none =>
    apply get_ofEntries_eq_none
    rintro entry hmem rfl
    rw [get_eq_some.mpr (List.mem_of_mem_filter hmem)] at hget
    cases hget
  | some a =>
    apply get_ofEntries_of_mem
    · exact List.mem_filter.mpr ⟨get_eq_some.mp hget, hp⟩
    · rintro entry hmem rfl
      rw [get_eq_some.mpr (List.mem_of_mem_filter hmem)] at hget
      exact Option.some.inj hget

lemma get_ofEntries_entries : (ofEntries m.entries).get key = m.get key := by
  have hall : (ofEntries (m.entries.filter fun _ => true)).get key = m.get key :=
    get_ofEntries_filter_entries (p := fun _ => true) rfl
  rwa [List.filter_true] at hall

end SortedMap

end GreenticDw

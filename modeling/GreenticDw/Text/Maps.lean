import GreenticDw.Orders.SortedMaps
import GreenticDw.Text.Records
import Mathlib.Data.String.Basic

namespace GreenticDw

namespace SortedMap

variable {κ α : Type} [LinearOrder κ]

lemma insertEntry_concat {key : κ} {a : α} {entries : List (κ × α)}
    (h : ∀ entry ∈ entries, entry.1 < key) : insertEntry key a entries = entries ++ [(key, a)] := by
  induction entries with
  | nil => rfl
  | cons entry entries ih =>
    have hlt := h entry (List.mem_cons_self ..)
    rw [insertEntry, if_neg (not_lt.mpr hlt.le), if_neg hlt.ne',
      ih fun e he => h e (List.mem_cons_of_mem _ he), List.cons_append]

lemma entries_ofEntries {entries : List (κ × α)} (h : (entries.map Prod.fst).Pairwise (· < ·)) :
    (ofEntries entries).entries = entries := by
  induction entries using List.reverseRecOn with
  | nil => rfl
  | append_singleton entries entry ih =>
    rw [List.map_append, List.pairwise_append] at h
    have hinsert : (ofEntries (entries ++ [entry])).entries =
        insertEntry entry.1 entry.2 (ofEntries entries).entries := by
      rw [ofEntries, List.foldl_concat]
      rfl
    rw [hinsert, ih h.1]
    apply insertEntry_concat
    intro e he
    exact h.2.2 _ (List.mem_map_of_mem he) _ (by simp)

lemma ofEntries_entries (m : SortedMap κ α) : ofEntries m.entries = m := by
  have hentries := entries_ofEntries m.ascending
  cases hm : ofEntries m.entries with
  | mk entries ascending =>
    rw [hm] at hentries
    subst hentries
    rfl

end SortedMap

namespace Value

variable {α : Type} {write : α → Value} {read : Value → Option α}

def ofMap (write : α → Value) (m : SortedMap String α) : Value :=
  object (m.entries.map fun entry => (entry.1, write entry.2))

def readMap (read : Value → Option α) : Value → Option (SortedMap String α)
  | object fields => (fields.mapM fun field => (read field.2).map (field.1, ·)).map .ofEntries
  | _ => none

def ofList (write : α → Value) (items : List α) : Value := array (items.map write)

def present (fields : List (String × Option Value)) : List (String × Value) :=
  fields.filterMap fun field => field.2.map (field.1, ·)

def unlessEmpty (m : SortedMap String α) (v : Value) : Option Value :=
  if m.entries.isEmpty then none else some v

lemma readMap_ofMap (h : ∀ a, read (write a) = some a) (m : SortedMap String α) :
    readMap read (ofMap write m) = some m := by
  have hmapM : ∀ entries : List (String × α),
      (entries.map fun entry => (entry.1, write entry.2)).mapM
        (fun field => (read field.2).map (field.1, ·)) = some entries := by
    intro entries
    induction entries with
    | nil => rfl
    | cons entry entries ih => simp [ih, h]
  rw [ofMap, readMap, hmapM, Option.map_some, SortedMap.ofEntries_entries]

lemma readArray_ofList (h : ∀ a, read (write a) = some a) (items : List α) :
    readArray read (ofList write items) = some items := by
  rw [ofList, readArray]
  induction items with
  | nil => rfl
  | cons item items ih => simp [ih, h]

lemma read_unlessEmpty (h : ∀ a, read (write a) = some a) (m : SortedMap String α) :
    (unlessEmpty m (ofMap write m)).elim (some ∅) (readMap read) = some m := by
  rw [unlessEmpty]
  split_ifs with hempty
  · cases m with
    | mk entries ascending =>
      obtain rfl := List.isEmpty_iff.mp hempty
      rfl
  · exact readMap_ofMap h m

section

variable {key : String} {fields : List (String × Option Value)}

@[simp] lemma get_present_nil : (object (present [])).get key = none := rfl

@[simp] lemma get_present_cons (k : String) (value : Option Value) :
    (object (present ((k, value) :: fields))).get key =
      if k = key then value <|> (object (present fields)).get key
      else (object (present fields)).get key := by
  cases value with
  | none => simp [present]
  | some v => by_cases h : k = key <;> simp [present, h]

lemma get_present {value : Option Value} (hn : (fields.map Prod.fst).Nodup) (i : ℕ)
    (h : fields[i]? = some (key, value)) : (object (present fields)).get key = value := by
  induction fields generalizing i with
  | nil => simp at h
  | cons field fields ih =>
    obtain ⟨k, other⟩ := field
    rw [List.map_cons, List.nodup_cons] at hn
    have hrest : key ∉ fields.map Prod.fst → (object (present fields)).get key = none := by
      intro hkey
      rw [get, Option.map_eq_none_iff, List.find?_eq_none]
      intro written hwritten heq
      obtain ⟨source, hsource, hmap⟩ := List.mem_filterMap.mp hwritten
      obtain ⟨v, -, rfl⟩ := Option.map_eq_some_iff.mp hmap
      exact hkey (beq_iff_eq.mp heq ▸ List.mem_map_of_mem hsource)
    rw [get_present_cons]
    cases i with
    | zero =>
      obtain ⟨rfl, rfl⟩ := Prod.mk.inj (Option.some.inj h)
      rw [if_pos rfl, hrest hn.1]
      cases other <;> rfl
    | succ i =>
      rw [List.getElem?_cons_succ] at h
      have hmem : key ∈ fields.map Prod.fst :=
        List.mem_map.mpr ⟨_, List.mem_of_getElem? h, rfl⟩
      have hne : k ≠ key := fun heq => hn.1 (heq ▸ hmem)
      rw [if_neg hne]
      exact ih hn.2 i h

def Reads {β : Type} (reader : FieldReader β) (source : FieldSource) (b : β) : Prop :=
  reader source = some (b, source)

section

variable {β γ : Type} {source : FieldSource} {b : β} {c : γ}

lemma reads_pure (b : β) (source : FieldSource) : Reads (pure b) source b := rfl

lemma Reads.bind {reader : FieldReader β} {f : β → FieldReader γ} (hr : Reads reader source b)
    (hf : Reads (f b) source c) : Reads (reader >>= f) source c := by
  rw [Reads, fieldReader_bind, hr]
  exact hf

lemma reads_present {absent short : Option β} {read : Value → Option β} {value : Option Value}
    (hn : (fields.map Prod.fst).Nodup) (i : ℕ) (h : fields[i]? = some (key, value))
    (hb : value.elim absent read = some b) :
    Reads (field absent short read key) (.entries (present fields)) b := by
  rw [Reads, field_entries, get_present hn i h, hb]
  rfl

lemma Reads.readStruct {reader : FieldReader β} (h : Reads reader (.entries (present fields)) b) :
    readStruct reader (object (present fields)) = some b := by
  rw [readStruct_object, h]
  rfl

end

lemma map_present :
    (present fields).map Prod.fst = (fields.filter fun field => field.2.isSome).map Prod.fst := by
  induction fields with
  | nil => rfl
  | cons field fields ih =>
    obtain ⟨k, value⟩ := field
    rw [present] at ih ⊢
    cases value <;> simp [ih]

lemma wellFormed_present (hn : (fields.map Prod.fst).Nodup)
    (h : ∀ field ∈ fields, ∀ v ∈ field.2, v.WellFormed) : (object (present fields)).WellFormed := by
  constructor
  · rw [map_present]
    exact hn.sublist (List.filter_sublist.map Prod.fst)
  · rw [wellFormedFields_iff]
    intro field hfield
    obtain ⟨written, hwritten, hmap⟩ := List.mem_filterMap.mp hfield
    obtain ⟨v, hv, rfl⟩ := Option.map_eq_some_iff.mp hmap
    exact h written hwritten v hv

lemma forall_mem_unlessEmpty {m : SortedMap String α} {v : Value} (h : v.WellFormed) :
    ∀ w ∈ unlessEmpty m v, w.WellFormed := by
  intro w hw
  rw [unlessEmpty] at hw
  split_ifs at hw
  · cases hw
  · obtain rfl := Option.some.inj hw
    exact h

lemma wellFormed_ofMap {m : SortedMap String α}
    (h : ∀ entry ∈ m.entries, (write entry.2).WellFormed) : (ofMap write m).WellFormed := by
  constructor
  · rw [List.map_map]
    exact m.ascending.imp fun hlt => hlt.ne
  · rw [wellFormedFields_iff]
    intro field hfield
    obtain ⟨entry, hentry, rfl⟩ := List.mem_map.mp hfield
    exact h entry hentry

lemma wellFormed_ofList {items : List α} (h : ∀ item ∈ items, (write item).WellFormed) :
    (ofList write items).WellFormed := by
  rw [ofList, WellFormed]
  induction items with
  | nil => trivial
  | cons item items ih =>
    rw [List.forall_mem_cons] at h
    exact ⟨h.1, ih h.2⟩

end

end Value

end GreenticDw

import GreenticDw.Invoker.CanonicalArguments
import GreenticDw.Text.JsonRoundTrip

namespace GreenticDw.Value

abbrev Json : Type := { value : Value // value.WellFormed }

lemma keys_sortedFields (fields : List (String × Value)) :
    (sortedFields fields).map Prod.fst = fields.map Prod.fst := by
  rw [sortedFields_eq_map, List.map_map]
  rfl

mutual
theorem WellFormed.sorted : ∀ {value : Value}, value.WellFormed → value.sorted.WellFormed
  | .null, h => h
  | .bool _, h => h
  | .number _, h => h
  | .string _, h => h
  | .array _, h => WellFormedItems.sortedItems h
  | .object fields, ⟨hkeys, hfields⟩ => by
    have hp := List.perm_insertionSort KeyLE (sortedFields fields)
    have hsorted := wellFormedFields_iff.mp (WellFormedFields.sortedFields hfields)
    refine ⟨?_, wellFormedFields_iff.mpr fun field hm => hsorted field (hp.subset hm)⟩
    rw [(hp.map Prod.fst).nodup_iff, keys_sortedFields]
    exact hkeys

theorem WellFormedItems.sortedItems :
    ∀ {items : List Value}, WellFormedItems items → WellFormedItems (sortedItems items)
  | [], h => h
  | _ :: _, ⟨hitem, hitems⟩ => ⟨WellFormed.sorted hitem, WellFormedItems.sortedItems hitems⟩

theorem WellFormedFields.sortedFields : ∀ {fields : List (String × Value)},
    WellFormedFields fields → WellFormedFields (sortedFields fields)
  | [], h => h
  | _ :: _, ⟨hvalue, hfields⟩ => ⟨WellFormed.sorted hvalue, WellFormedFields.sortedFields hfields⟩
end

lemma toText_injective {a b : Value} (ha : a.WellFormed) (hb : b.WellFormed)
    (h : a.toText = b.toText) : a = b := by
  have hread := JsonReader.read_toText ha
  rw [h, JsonReader.read_toText hb] at hread
  exact (Option.some.inj hread).symm

lemma exists_perm_of_sortedFields {xs zs : List (String × Value)}
    (h : (sortedFields xs).Perm (sortedFields zs)) :
    ∃ ys, sortedFields xs = sortedFields ys ∧ ys.Perm zs := by
  simp only [sortedFields_eq_map] at h ⊢
  have hcomp := (congrFun₂ (List.eq_map_comp_perm fun field : String × Value =>
    (field.1, field.2.sorted)) _ zs).mpr h
  exact hcomp

lemma sorted_eq_array {xs : List Value} {b : Value} (h : (array xs).sorted = b.sorted) :
    ∃ ys, b = array ys ∧ sortedItems xs = sortedItems ys := by
  cases b <;> simp_all [Value.sorted]

lemma sorted_eq_object {xs : List (String × Value)} {b : Value}
    (h : (object xs).sorted = b.sorted) :
    ∃ zs, b = object zs ∧ (sortedFields xs).Perm (sortedFields zs) := by
  cases b with
  | object zs =>
    have hsort := Value.object.inj h
    refine ⟨zs, rfl, (List.perm_insertionSort KeyLE (sortedFields xs)).symm.trans ?_⟩
    rw [hsort]
    exact List.perm_insertionSort KeyLE (sortedFields zs)
  | _ => cases h

mutual
theorem reordered_of_sorted_eq : ∀ {a b : Value}, b.WellFormed → a.sorted = b.sorted →
    Reordered a b
  | .array xs, b, hb, h => by
    obtain ⟨ys, rfl, hitems⟩ := sorted_eq_array h
    exact .array (reorderedItems_of_sortedItems_eq hb hitems)
  | .object xs, b, hb, h => by
    obtain ⟨zs, rfl, hperm⟩ := sorted_eq_object h
    obtain ⟨ys, hfields, hys⟩ := exists_perm_of_sortedFields hperm
    have hvalues : ∀ field ∈ ys, field.2.WellFormed := fun field hm =>
      wellFormedFields_iff.mp hb.2 field (hys.subset hm)
    exact .object (reorderedFields_of_sortedFields_eq (wellFormedFields_iff.mpr hvalues) hfields)
      hys hb.1
  | .null, b, _, h => by cases b <;> cases h; exact .same _
  | .bool _, b, _, h => by cases b <;> cases h; exact .same _
  | .number _, b, _, h => by cases b <;> cases h; exact .same _
  | .string _, b, _, h => by cases b <;> cases h; exact .same _

theorem reorderedItems_of_sortedItems_eq : ∀ {xs ys : List Value}, WellFormedItems ys →
    sortedItems xs = sortedItems ys → ReorderedItems xs ys
  | [], [], _, _ => .nil
  | _ :: _, _ :: _, ⟨hy, hys⟩, h =>
    have hcons := List.cons.inj h
    .cons (reordered_of_sorted_eq hy hcons.1) (reorderedItems_of_sortedItems_eq hys hcons.2)

theorem reorderedFields_of_sortedFields_eq : ∀ {xs ys : List (String × Value)},
    WellFormedFields ys → sortedFields xs = sortedFields ys → ReorderedFields xs ys
  | [], [], _, _ => .nil
  | (key, x) :: xs, (key', y) :: ys, ⟨hy, hys⟩, h => by
    have hcons := List.cons.inj h
    have hfield := Prod.mk.inj hcons.1
    obtain rfl : key = key' := hfield.1
    exact .cons (reordered_of_sorted_eq hy hfield.2)
      (reorderedFields_of_sortedFields_eq hys hcons.2)
end

theorem canonicalJson_eq_iff (a b : Json) :
    canonicalJson a.1 = canonicalJson b.1 ↔ Reordered a.1 b.1 := by
  constructor
  · intro h
    have hsorted : a.1.sorted = b.1.sorted :=
      toText_injective (WellFormed.sorted a.2) (WellFormed.sorted b.2) h
    exact reordered_of_sorted_eq b.2 hsorted
  · exact Reordered.canonicalJson_eq

end GreenticDw.Value

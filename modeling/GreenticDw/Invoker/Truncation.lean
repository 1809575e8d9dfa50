import GreenticDw.Invoker.Tools
import GreenticDw.Text.Boundaries

namespace GreenticDw

open Text

/-- The longest front of the text that takes at most so many bytes. -/
structure LongestFront (text : String) (limit : ℕ) (front : String) : Prop where
  isFront : ∃ rest, text = front ++ rest
  fits : front.utf8ByteSize ≤ limit
  longest : ∀ other rest, text = other ++ rest → other.utf8ByteSize ≤ limit →
    other.utf8ByteSize ≤ front.utf8ByteSize

variable {text front : String} {limit : ℕ}

lemma longestFront_of_slice
    (h : sliceTo text.toList (floorBoundary text.toList limit) = some front.toList) :
    LongestFront text limit front := by
  obtain ⟨rest, hrest, hlen⟩ := sliceTo_eq_some.mp h
  rw [byteLen_toList] at hlen
  refine ⟨⟨String.ofList rest, ?_⟩, ?_, ?_⟩
  · rw [← String.toList_inj, String.toList_append, String.toList_ofList, hrest]
  · exact hlen.trans_le (floorBoundary_le _ _)
  · rintro other rest rfl hfits
    rw [hlen]
    apply le_floorBoundary _ hfits
    rw [isCharBoundary_eq, Option.isSome_iff_exists]
    exact ⟨other.toList, sliceTo_eq_some.mpr
      ⟨rest.toList, String.toList_append, byteLen_toList other⟩⟩

theorem truncateMarked_cuts (text : String) (limit : ℕ) :
    (text.utf8ByteSize ≤ limit → truncateMarked text limit = text) ∧
    (limit < text.utf8ByteSize → ∃ front rest : String, text = front ++ rest ∧
      LongestFront text limit front ∧
      sliceTo text.toList (floorBoundary text.toList limit) = some front.toList ∧
      truncateMarked text limit =
        front ++ "…[truncated " ++ toString rest.utf8ByteSize ++ " bytes]") := by
  have hsize := byteLen_toList text
  constructor
  · intro hle
    rw [truncateMarked]
    exact if_pos (hsize.trans_le hle)
  · intro hlt
    obtain ⟨kept, removed, hslice, htext, hlen⟩ := sliceTo_floorBoundary text.toList limit
    have hfront : sliceTo text.toList (floorBoundary text.toList limit) =
        some (String.ofList kept).toList := by rw [hslice, String.toList_ofList]
    have hremoved : byteLen text.toList - floorBoundary text.toList limit = byteLen removed := by
      rw [← hlen, htext, byteLen_append, Nat.add_sub_cancel_left]
    refine ⟨String.ofList kept, String.ofList removed, ?_, longestFront_of_slice hfront, hfront, ?_⟩
    · rw [← String.toList_inj, String.toList_append, String.toList_ofList, String.toList_ofList,
        htext]
    · have hlong : ¬byteLen text.toList ≤ limit := by
        rw [hsize]
        exact not_le.mpr hlt
      simp only [truncateMarked, if_neg hlong, hslice, Option.getD_some, hremoved, byteLen_ofList]

end GreenticDw

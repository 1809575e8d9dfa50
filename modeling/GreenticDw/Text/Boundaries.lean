import GreenticDw.Text.Strings

/-! Character boundaries: the offsets at which a text falls into two, and the greatest of them below a
limit. -/

namespace GreenticDw.Text

variable {cs front rest : List Char} {i limit : ℕ}

@[simp] lemma byteLen_nil : byteLen [] = 0 := rfl

@[simp] lemma byteLen_cons (c : Char) (cs : List Char) : byteLen (c :: cs) = c.utf8Size + byteLen cs :=
  rfl

lemma byteLen_append (cs ds : List Char) : byteLen (cs ++ ds) = byteLen cs + byteLen ds := by
  simp [byteLen]

lemma byteLen_ofList (cs : List Char) : (String.ofList cs).utf8ByteSize = byteLen cs := by
  induction cs with
  | nil => rfl
  | cons c cs ih =>
    have hsplit : String.ofList (c :: cs) = String.singleton c ++ String.ofList cs := by
      rw [String.singleton_eq_ofList, ← String.ofList_append, List.singleton_append]
    rw [hsplit, String.utf8ByteSize_append, String.utf8ByteSize_singleton, ih, byteLen_cons]

lemma byteLen_toList (s : String) : byteLen s.toList = s.utf8ByteSize := by
  rw [← byteLen_ofList, String.ofList_toList]

lemma sliceTo_eq_some : sliceTo cs i = some front ↔ ∃ rest, cs = front ++ rest ∧ byteLen front = i := by
  induction cs generalizing front i with
  | nil =>
    cases i with
    | zero => cases front <;> simp [sliceTo]
    | succ i =>
      constructor
      · intro h
        cases h
      · rintro ⟨rest, hcs, hlen⟩
        rw [(List.append_eq_nil_iff.mp hcs.symm).1] at hlen
        cases hlen
  | cons c cs ih =>
    have hpos := c.utf8Size_pos
    cases i with
    | zero =>
      constructor
      · rintro ⟨⟩
        exact ⟨c :: cs, rfl, rfl⟩
      · rintro ⟨rest, hcs, hlen⟩
        cases front with
        | nil => rfl
        | cons d front =>
          rw [byteLen_cons] at hlen
          have := d.utf8Size_pos
          omega
    | succ i =>
      simp only [sliceTo]
      split_ifs with hle
      · simp only [Option.map_eq_some_iff, ih]
        constructor
        · rintro ⟨front, ⟨rest, rfl, hlen⟩, rfl⟩
          refine ⟨rest, rfl, ?_⟩
          rw [byteLen_cons]
          omega
        · rintro ⟨rest, hcs, hlen⟩
          cases front with
          | nil => cases hlen
          | cons d front =>
            obtain ⟨rfl, rfl⟩ := List.cons.inj hcs
            rw [byteLen_cons] at hlen
            exact ⟨front, ⟨rest, rfl, by omega⟩, rfl⟩
      · constructor
        · intro h
          cases h
        · rintro ⟨rest, hcs, hlen⟩
          cases front with
          | nil => cases hlen
          | cons d front =>
            obtain ⟨rfl, rfl⟩ := List.cons.inj hcs
            rw [byteLen_cons] at hlen
            omega

lemma isCharBoundary_eq (cs : List Char) (i : ℕ) : isCharBoundary cs i = (sliceTo cs i).isSome := by
  induction cs generalizing i with
  | nil => cases i <;> rfl
  | cons c cs ih =>
    cases i with
    | zero => rfl
    | succ i =>
      simp only [isCharBoundary, sliceTo, ih]
      by_cases hle : c.utf8Size ≤ i + 1 <;> simp [hle]

lemma floorBoundary_le (cs : List Char) (limit : ℕ) : floorBoundary cs limit ≤ limit := by
  induction limit with
  | zero => exact le_rfl
  | succ limit ih =>
    rw [floorBoundary]
    split_ifs
    · exact le_rfl
    · exact ih.trans (Nat.le_succ limit)

lemma isCharBoundary_floorBoundary (cs : List Char) (limit : ℕ) :
    isCharBoundary cs (floorBoundary cs limit) = true := by
  induction limit with
  | zero => cases cs <;> rfl
  | succ limit ih =>
    rw [floorBoundary]
    split_ifs with hb
    · exact hb
    · exact ih

lemma le_floorBoundary (h : isCharBoundary cs i = true) (hle : i ≤ limit) :
    i ≤ floorBoundary cs limit := by
  induction limit with
  | zero => exact hle
  | succ limit ih =>
    rw [floorBoundary]
    split_ifs with hb
    · exact hle
    · refine ih (Nat.le_of_lt_succ (hle.lt_of_ne ?_))
      rintro rfl
      exact hb h

theorem sliceTo_floorBoundary (cs : List Char) (limit : ℕ) :
    ∃ front rest, sliceTo cs (floorBoundary cs limit) = some front ∧ cs = front ++ rest ∧
      byteLen front = floorBoundary cs limit := by
  have hb := isCharBoundary_floorBoundary cs limit
  rw [isCharBoundary_eq, Option.isSome_iff_exists] at hb
  obtain ⟨front, hfront⟩ := hb
  obtain ⟨rest, hcs, hlen⟩ := sliceTo_eq_some.mp hfront
  exact ⟨front, rest, hfront, hcs, hlen⟩

end GreenticDw.Text

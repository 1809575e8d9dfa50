import GreenticDw.Text.Numbered
import GreenticDw.Text.Patterns

namespace GreenticDw.Text

variable {pattern s t : String}

lemma startsWith_iff : startsWith pattern s = true ↔ ∃ t, s = pattern ++ t := by
  rw [startsWith, List.isPrefixOf_iff_prefix]
  constructor
  · rintro ⟨cs, hcs⟩
    refine ⟨String.ofList cs, ?_⟩
    rw [← String.toList_inj, String.toList_append, String.toList_ofList, hcs]
  · rintro ⟨t, rfl⟩
    exact ⟨t.toList, String.toList_append.symm⟩

lemma startsWith_of_append {more : String} (h : startsWith (pattern ++ more) s = true) :
    startsWith pattern s = true := by
  obtain ⟨t, rfl⟩ := startsWith_iff.mp h
  exact startsWith_iff.mpr ⟨more ++ t, String.append_assoc⟩

lemma stripPrefix_append (pattern t : String) : stripPrefix pattern (pattern ++ t) = some t := by
  have hstart : startsWith pattern (pattern ++ t) = true := startsWith_iff.mpr ⟨t, rfl⟩
  rw [stripPrefix, if_pos hstart, String.toList_append, List.drop_left, String.ofList_toList]

lemma stripPrefix_eq_some : stripPrefix pattern s = some t ↔ s = pattern ++ t := by
  constructor
  · intro h
    have hstart : startsWith pattern s = true := by
      by_contra hne
      rw [stripPrefix, if_neg hne] at h
      cases h
    obtain ⟨rest, rfl⟩ := startsWith_iff.mp hstart
    rw [stripPrefix_append] at h
    exact congrArg (pattern ++ ·) (Option.some.inj h)
  · rintro rfl
    exact stripPrefix_append pattern t

lemma stripPrefix_eq_none : stripPrefix pattern s = none ↔ startsWith pattern s = false := by
  rw [stripPrefix]
  split_ifs with h <;> simp [h]

lemma splitOnceChars_of_notMem {c : Char} {separator front : List Char} (rest : List Char)
    (h : c ∉ front) : splitOnceChars (c :: separator) (front ++ c :: separator ++ rest) =
      some (front, rest) := by
  induction front with
  | nil => simp [splitOnceChars]
  | cons d front ih =>
    rw [List.mem_cons, not_or] at h
    have hne : (c :: separator).isPrefixOf (d :: (front ++ c :: separator ++ rest)) = false := by
      simp [List.isPrefixOf, h.1]
    rw [List.cons_append, List.cons_append, splitOnceChars, hne, ih h.2]
    rfl

lemma rsplitOnce_of_notMem {c : Char} {cs : List Char} {separator : String} (front : String)
    {back : String} (hseparator : separator.toList = cs ++ [c]) (h : c ∉ back.toList) :
    rsplitOnce separator (front ++ separator ++ back) = some (front, back) := by
  have hreverse : separator.toList.reverse = c :: cs.reverse := by
    rw [hseparator, List.reverse_concat]
  rw [rsplitOnce, String.toList_append, String.toList_append, List.reverse_append,
    List.reverse_append, hreverse, ← List.append_assoc,
    splitOnceChars_of_notMem _ fun hm => h (List.mem_reverse.mp hm)]
  simp

lemma splitOnceChars_of_forall_notMem {c : Char} {cs : List Char} (h : c ∉ cs) :
    splitOnceChars [c] cs = none := by
  induction cs with
  | nil => rfl
  | cons d cs ih =>
    rw [List.mem_cons, not_or] at h
    have hne : [c].isPrefixOf (d :: cs) = false := by simp [List.isPrefixOf, h.1]
    rw [splitOnceChars, hne, ih h.2]
    rfl

lemma rsplitOnce_cases {c : Char} {separator : String} (hseparator : separator.toList = [c])
    (s : String) : c ∉ s.toList ∧ rsplitOnce separator s = none ∨
      ∃ front back, s = front ++ separator ++ back ∧ c ∉ back.toList ∧
        rsplitOnce separator s = some (front, back) := by
  by_cases h : c ∈ s.toList
  · right
    obtain ⟨as, bs, hab, has⟩ := List.eq_append_cons_of_mem (List.mem_reverse.mpr h)
    have hback : c ∉ (String.ofList as.reverse).toList := by
      rwa [String.toList_ofList, List.mem_reverse]
    have hs : s = String.ofList bs.reverse ++ separator ++ String.ofList as.reverse := by
      have hlist : s.toList = bs.reverse ++ c :: as.reverse := by
        rw [← List.reverse_reverse s.toList, hab]
        simp
      rw [← String.toList_inj, hlist]
      simp [hseparator]
    refine ⟨_, _, hs, hback, ?_⟩
    rw [hs]
    have hlast : separator.toList = [] ++ [c] := hseparator
    exact rsplitOnce_of_notMem _ hlast hback
  · left
    have hnone := splitOnceChars_of_forall_notMem fun hm => h (List.mem_reverse.mp hm)
    rw [rsplitOnce, hseparator, List.reverse_singleton, hnone]
    exact ⟨h, rfl⟩

lemma append_cons_inj {c : Char} {xs ys as bs : List Char} (hx : c ∉ xs) (hy : c ∉ ys)
    (h : xs ++ c :: as = ys ++ c :: bs) : xs = ys ∧ as = bs := by
  have hfront : ∀ zs cs : List Char, c ∉ zs → (zs ++ c :: cs).takeWhile (· ≠ c) = zs := by
    intro zs cs hz
    have hne : ∀ d ∈ zs, decide (d ≠ c) = true := fun d hd =>
      decide_eq_true fun he => hz (he ▸ hd)
    rw [List.takeWhile_append_of_pos hne]
    simp
  have hxy : xs = ys := by rw [← hfront xs as hx, h, hfront ys bs hy]
  subst hxy
  exact ⟨rfl, (List.cons.inj (List.append_cancel_left h)).2⟩

lemma toString_eq_cons (n : ℕ) :
    ∃ c cs, (toString n).toList = c :: cs ∧ c.isDigit = true := by
  rw [Nat.toString_eq_repr, Nat.toList_repr]
  cases hdigits : Nat.toDigits 10 n with
  | nil => exact absurd hdigits Nat.toDigits_ne_nil
  | cons c cs =>
    have hmem : c ∈ Nat.toDigits 10 n := hdigits ▸ List.mem_cons_self
    exact ⟨c, cs, rfl, Nat.isDigit_of_mem_toDigits (by decide) (by decide) hmem⟩

lemma toString_isEmpty (n : ℕ) : (toString n).isEmpty = false := by
  obtain ⟨c, cs, hcs, -⟩ := toString_eq_cons n
  rw [← Bool.not_eq_true, String.isEmpty_iff, ← String.toList_inj, hcs]
  exact List.cons_ne_nil c cs

lemma isBlank_toString (n : ℕ) : isBlank (toString n) = false := by
  obtain ⟨c, cs, hcs, hdigit⟩ := toString_eq_cons n
  rw [← Bool.not_eq_true, isBlank_iff, hcs]
  intro h
  have hspace := h c List.mem_cons_self
  have hnat : 48 ≤ c.toNat ∧ c.toNat ≤ 57 := by
    simpa [Char.isDigit, Char.le_def, UInt32.le_iff_toNat_le] using hdigit
  simp only [isWhitespace, Bool.or_eq_true, Bool.and_eq_true, decide_eq_true_eq, beq_iff_eq]
    at hspace
  omega

lemma ne_number_append {c : Char} {cs : List Char} (hs : s.toList = c :: cs)
    (hc : c.isDigit = false) (n : ℕ) (t : String) : s ≠ toString n ++ t := by
  rintro rfl
  obtain ⟨d, ds, hds, hdigit⟩ := toString_eq_cons n
  rw [String.toList_append, hds, List.cons_append, List.cons.injEq] at hs
  rw [hs.1, hc] at hdigit
  exact Bool.false_ne_true hdigit

lemma number_dot_inj {m n : ℕ} (h : toString m ++ "." ++ s = toString n ++ "." ++ t) :
    m = n ∧ s = t := by
  have hlist := congrArg String.toList h
  simp only [String.toList_append, List.append_assoc] at hlist
  obtain ⟨hnumber, hrest⟩ := append_cons_inj (notMem_toString (c := '.') rfl m)
    (notMem_toString rfl n) hlist
  exact ⟨toString_injective hnumber, String.toList_inj.mp hrest⟩

def LeadsWith (n : ℕ) (s : String) : Prop :=
  s = toString n ∨ startsWith (toString n ++ ".") s = true

instance (n : ℕ) (s : String) : Decidable (LeadsWith n s) :=
  inferInstanceAs (Decidable (s = toString n ∨ startsWith (toString n ++ ".") s = true))

lemma LeadsWith.dotted {n : ℕ} (h : LeadsWith n s) : ∃ t, s ++ "." = toString n ++ "." ++ t := by
  obtain rfl | hstart := h
  · exact ⟨"", (String.append_empty).symm⟩
  · obtain ⟨t, rfl⟩ := startsWith_iff.mp hstart
    exact ⟨t ++ ".", String.append_assoc⟩

lemma LeadsWith.isBlank_eq_false {n : ℕ} (h : LeadsWith n s) : isBlank s = false := by
  obtain rfl | hstart := h
  · exact isBlank_toString n
  · obtain ⟨t, rfl⟩ := startsWith_iff.mp hstart
    rw [String.append_assoc]
    exact isBlank_append_left (isBlank_toString n) _

lemma leadsWith_of_dotted {n : ℕ} {rest : String}
    (h : s ++ "." ++ rest = toString n ++ "." ++ t) : LeadsWith n s := by
  have hlist := congrArg String.toList h
  simp only [String.toList_append, List.append_assoc] at hlist
  by_cases hdot : '.' ∈ s.toList
  · obtain ⟨front, back, hs, hfront⟩ := List.eq_append_cons_of_mem hdot
    rw [hs, List.append_assoc, List.cons_append] at hlist
    obtain ⟨rfl, -⟩ := append_cons_inj hfront (notMem_toString rfl n) hlist
    refine .inr (startsWith_iff.mpr ⟨String.ofList back, ?_⟩)
    rw [← String.toList_inj, hs]
    simp
  · obtain ⟨hs, -⟩ := append_cons_inj hdot (notMem_toString rfl n) hlist
    exact .inl (String.toList_inj.mp hs)

end GreenticDw.Text

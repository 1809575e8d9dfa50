import Mathlib.Tactic

namespace GreenticDw.Text

def numbered (base : String) (n : ℕ) : String := base ++ "/" ++ toString n

def lastSegment (s : String) : List Char := (s.toList.reverse.takeWhile (· ≠ '/')).reverse

lemma notMem_toString {c : Char} (hc : c.isDigit = false) (n : ℕ) : c ∉ (toString n).toList := by
  rw [Nat.toString_eq_repr, Nat.toList_repr]
  intro h
  have hdigit := Nat.isDigit_of_mem_toDigits (by decide) (by decide) h
  exact Bool.false_ne_true (hc.symm.trans hdigit)

lemma toString_injective : Function.Injective fun n : ℕ => (toString n).toList := by
  intro m n h
  have hnum := congrArg (fun digits => Nat.ofDigitChars 10 digits 0) h
  simpa [Nat.toString_eq_repr, Nat.toList_repr] using hnum

lemma takeWhile_number {c : Char} (hc : c.isDigit = false) (base : List Char) (n : ℕ) :
    ((base ++ c :: (toString n).toList).reverse.takeWhile (· ≠ c)).reverse =
      (toString n).toList := by
  have hdigits : ∀ d ∈ (toString n).toList.reverse, decide (d ≠ c) = true := by
    intro d hd
    have hne : d ≠ c := fun he => notMem_toString hc n (he ▸ List.mem_reverse.mp hd)
    simpa using hne
  rw [List.reverse_append, List.reverse_cons, List.append_assoc,
    List.takeWhile_append_of_pos hdigits]
  simp

theorem append_number_inj {c : Char} (hc : c.isDigit = false) {as bs : List Char} {m n : ℕ} :
    as ++ c :: (toString m).toList = bs ++ c :: (toString n).toList ↔ as = bs ∧ m = n := by
  constructor
  · intro h
    have hlast := congrArg (fun cs => (cs.reverse.takeWhile (· ≠ c)).reverse) h
    simp only [takeWhile_number hc] at hlast
    obtain rfl : m = n := toString_injective hlast
    exact ⟨List.append_cancel_right h, rfl⟩
  · rintro ⟨rfl, rfl⟩
    rfl

lemma toList_numbered (base : String) (n : ℕ) :
    (numbered base n).toList = base.toList ++ '/' :: (toString n).toList := by
  simp [numbered]

@[simp] lemma lastSegment_numbered (base : String) (n : ℕ) :
    lastSegment (numbered base n) = (toString n).toList := by
  rw [lastSegment, toList_numbered]
  exact takeWhile_number rfl base.toList n

theorem numbered_inj {a b : String} {m n : ℕ} : numbered a m = numbered b n ↔ a = b ∧ m = n := by
  rw [← String.toList_inj, toList_numbered, toList_numbered, append_number_inj rfl,
    String.toList_inj]

theorem nodup_of_numbers {names : List String} {numbers : List ℕ} (hn : numbers.Nodup)
    (h : names.map lastSegment = numbers.map fun n => (toString n).toList) : names.Nodup := by
  apply List.Nodup.of_map lastSegment
  rw [h]
  exact hn.map toString_injective

end GreenticDw.Text

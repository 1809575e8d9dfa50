import GreenticDw.Files.Paths
import GreenticDw.Text.Prefixes

namespace GreenticDw.Files

open Text

def splitFileAtDot (name : String) : String × Option String :=
  match rsplitOnce "." name with
  | none => (name, none)
  -- a dot that a name begins with belongs to its stem
  | some (before, after) => if before = "" then (name, none) else (before, some after)

def fileStem (path : PathBuf) : Option String :=
  (fileName path).map fun name => (splitFileAtDot name.text).1

def extension (path : PathBuf) : Option String :=
  (fileName path).bind fun name => (splitFileAtDot name.text).2

def HasStem (stem name : String) : Prop :=
  (name = stem ∧ '.' ∉ stem.toList.tail) ∨
    ∃ ext, name = stem ++ "." ++ ext ∧ '.' ∉ ext.toList ∧ stem ≠ ""

/-- Paths whose names differ in nothing but their extensions, wherever the files are. -/
def SameStem (p q : PathBuf) : Prop :=
  ∃ stem name name', fileName p = some name ∧ fileName q = some name' ∧
    HasStem stem name.text ∧ HasStem stem name'.text

variable {stem name : String} {p q : PathBuf}

lemma rsplitOnce_dot (front : String) {back : String} (h : '.' ∉ back.toList) :
    rsplitOnce "." (front ++ "." ++ back) = some (front, back) := by
  have hseparator : ".".toList = [] ++ ['.'] := rfl
  exact rsplitOnce_of_notMem front hseparator h

theorem splitFileAtDot_iff : (splitFileAtDot name).1 = stem ↔ HasStem stem name := by
  have hseparator : ".".toList = ['.'] := rfl
  rcases rsplitOnce_cases hseparator name with ⟨hdot, hsplit⟩ | ⟨front, back, hname, hback, hsplit⟩
  · rw [splitFileAtDot, hsplit]
    constructor
    · rintro rfl
      exact Or.inl ⟨rfl, fun hm => hdot (List.mem_of_mem_tail hm)⟩
    · rintro (⟨rfl, -⟩ | ⟨ext, rfl, -, -⟩)
      · rfl
      · exact absurd (by simp) hdot
  · rw [splitFileAtDot, hsplit]
    by_cases hfront : front = ""
    · subst hfront
      have htail : name.toList.tail = back.toList := by
        rw [hname]
        simp
      simp only [if_true]
      constructor
      · rintro rfl
        exact Or.inl ⟨rfl, htail ▸ hback⟩
      · rintro (⟨rfl, -⟩ | ⟨ext, hext, hdot, hstem⟩)
        · rfl
        · have hboth := hsplit.symm.trans (hext ▸ rsplitOnce_dot stem hdot)
          cases hboth
          exact absurd rfl hstem
    · simp only [if_neg hfront]
      constructor
      · rintro rfl
        exact Or.inr ⟨back, hname, hback, hfront⟩
      · rintro (⟨rfl, htail⟩ | ⟨ext, hext, hdot, -⟩)
        · -- A dot after the first character would be in the tail.
          obtain ⟨c, cs, hcs⟩ := List.exists_cons_of_ne_nil
            (fun hnil => hfront (String.toList_inj.mp hnil))
          rw [hname] at htail
          simp [hcs] at htail
        · have hboth := hsplit.symm.trans (hext ▸ rsplitOnce_dot stem hdot)
          cases hboth
          rfl

lemma fileStem_eq_some :
    fileStem p = some stem ↔ ∃ name, fileName p = some name ∧ HasStem stem name.text := by
  simp only [fileStem, Option.map_eq_some_iff, splitFileAtDot_iff]

lemma sameStem_iff : SameStem p q ↔ ∃ stem, fileStem p = some stem ∧ fileStem q = some stem := by
  simp only [fileStem_eq_some]
  constructor
  · rintro ⟨stem, name, name', hp, hq, hs, hs'⟩
    exact ⟨stem, ⟨name, hp, hs⟩, name', hq, hs'⟩
  · rintro ⟨stem, ⟨name, hp, hs⟩, name', hq, hs'⟩
    exact ⟨stem, name, name', hp, hq, hs, hs'⟩

example : fileStem "desk/archive.tar.gz" = some "archive.tar" := by decide

example : extension "desk/.profile" = none := by decide

end GreenticDw.Files

import GreenticDw.Text.Strings
import Mathlib.Data.List.Infix

namespace GreenticDw.Text

def startsWith (pattern s : String) : Bool := pattern.toList.isPrefixOf s.toList

def contains (pattern s : String) : Bool := decide (pattern.toList <:+: s.toList)

def stripPrefix (pattern s : String) : Option String :=
  if startsWith pattern s then some (String.ofList (s.toList.drop pattern.toList.length)) else none

def trimMatches (c : Char) (s : String) : String :=
  String.ofList ((s.toList.dropWhile (· = c)).reverse.dropWhile (· = c)).reverse

def rsplitOnce (separator s : String) : Option (String × String) :=
  (splitOnceChars separator.toList.reverse s.toList.reverse).map fun (back, front) =>
    (String.ofList front.reverse, String.ofList back.reverse)

def replaceChars (pattern replacement : List Char) : ℕ → List Char → List Char
  | _, [] => []
  | skip + 1, _ :: cs => replaceChars pattern replacement skip cs
  | 0, c :: cs =>
    if pattern.isPrefixOf (c :: cs) then
      replacement ++ replaceChars pattern replacement (pattern.length - 1) cs
    else c :: replaceChars pattern replacement 0 cs

def replace (pattern replacement s : String) : String :=
  String.ofList (replaceChars pattern.toList replacement.toList 0 s.toList)

def toAsciiLowercase (s : String) : String := String.ofList (s.toList.map Char.toLower)

def parseUsize (s : String) : Option ℕ :=
  let digits :=
    match s.toList with
    | '+' :: cs => cs
    | cs => cs
  if digits = [] ∨ ¬ digits.all Char.isDigit then none
  else
    let n := digits.foldl (fun n c => 10 * n + (c.toNat - '0'.toNat)) 0
    if n < 2 ^ 64 then some n else none

variable {α : Type} {a : α} {xs ys zs : List α}

lemma cons_infix_append_left (h : a ∉ ys) : (a :: xs) <:+: (ys ++ zs) ↔ (a :: xs) <:+: zs := by
  induction ys with
  | nil => rfl
  | cons b ys ih =>
    rw [List.mem_cons, not_or] at h
    rw [List.cons_append, List.infix_cons_iff, ih h.2]
    constructor
    · rintro (hp | hi)
      · exact (h.1 (List.cons_prefix_cons.mp hp).1).elim
      · exact hi
    · exact Or.inr

lemma concat_infix_append_right (h : a ∉ zs) :
    (xs ++ [a]) <:+: (ys ++ zs) ↔ (xs ++ [a]) <:+: ys := by
  have hback : a ∉ zs.reverse := fun hz => h (List.mem_reverse.mp hz)
  calc (xs ++ [a]) <:+: (ys ++ zs)
      ↔ (a :: xs.reverse) <:+: (zs.reverse ++ ys.reverse) := by
        rw [← List.reverse_infix, List.reverse_append, List.reverse_append,
          List.reverse_singleton, List.singleton_append]
    _ ↔ (a :: xs.reverse) <:+: ys.reverse := cons_infix_append_left hback
    _ ↔ (xs ++ [a]) <:+: ys := by
        rw [← List.reverse_infix, List.reverse_cons, List.reverse_reverse, List.reverse_reverse]

lemma trim_eq_self {s : String} {c d : Char} {cs ds : List Char} (hc : s.toList = c :: cs)
    (hd : s.toList = ds ++ [d]) (hcw : isWhitespace c = false) (hdw : isWhitespace d = false) :
    trim s = s := by
  have hfront : s.toList.dropWhile isWhitespace = s.toList := by
    rw [hc, List.dropWhile_cons_of_neg (by simp [hcw])]
  have hback : s.toList.reverse.dropWhile isWhitespace = s.toList.reverse := by
    rw [hd, List.reverse_append, List.reverse_singleton, List.singleton_append,
      List.dropWhile_cons_of_neg (by simp [hdw])]
  rw [trim, hfront, hback, List.reverse_reverse, String.ofList_toList]

example : startsWith "oci://" "oci://packs/audit" = true := by decide

example : contains "://" "http://packs" = true := by decide

example : rsplitOnce "agent-" "desk.agent-a.agent-12" = some ("desk.agent-a.", "12") := by decide

example : replace "/" "." (replace "cap://" "" "cap://llm/chat") = "llm.chat" := by decide

end GreenticDw.Text

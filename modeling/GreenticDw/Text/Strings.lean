import Mathlib.Data.List.DropRight
import Mathlib.Tactic

namespace GreenticDw.Text

def isWhitespace (c : Char) : Bool :=
  let n := c.toNat
  (9 ≤ n && n ≤ 13) || n == 0x20 || n == 0x85 || n == 0xA0 || n == 0x1680 ||
    (0x2000 ≤ n && n ≤ 0x200A) || n == 0x2028 || n == 0x2029 || n == 0x202F || n == 0x205F ||
    n == 0x3000

def trim (s : String) : String :=
  String.ofList ((s.toList.dropWhile isWhitespace).reverse.dropWhile isWhitespace).reverse

def isBlank (s : String) : Bool := (trim s).isEmpty

lemma isBlank_iff {s : String} : isBlank s = true ↔ ∀ c ∈ s.toList, isWhitespace c = true := by
  have hofList : ∀ cs : List Char, (String.ofList cs).isEmpty = true ↔ cs = [] := by
    intro cs
    rw [String.isEmpty_iff, ← String.toList_inj, String.toList_ofList, String.toList_empty]
  rw [isBlank, trim, hofList, List.reverse_eq_nil_iff, List.dropWhile_eq_nil_iff]
  simp only [List.mem_reverse]
  constructor
  · intro h
    have hdrop : s.toList.dropWhile isWhitespace = [] := by
      rw [← List.dropWhile_idempotent (p := isWhitespace), List.dropWhile_eq_nil_iff]
      exact h
    exact List.dropWhile_eq_nil_iff.mp hdrop
  · exact fun h c hc => h c (List.dropWhile_suffix _ |>.subset hc)

lemma isBlank_append (s t : String) : isBlank (s ++ t) = (isBlank s && isBlank t) := by
  rw [Bool.eq_iff_iff, Bool.and_eq_true, isBlank_iff, isBlank_iff, isBlank_iff,
    String.toList_append, List.forall_mem_append]

lemma isBlank_append_left {s : String} (h : isBlank s = false) (t : String) :
    isBlank (s ++ t) = false := by
  rw [isBlank_append, h, Bool.false_and]

lemma isBlank_append_right (s : String) {t : String} (h : isBlank t = false) :
    isBlank (s ++ t) = false := by
  rw [isBlank_append, h, Bool.and_false]

def byteLen (cs : List Char) : ℕ := (cs.map Char.utf8Size).sum

def isCharBoundary : List Char → ℕ → Bool
  | _, 0 => true
  | [], _ + 1 => false
  | c :: cs, i => c.utf8Size ≤ i && isCharBoundary cs (i - c.utf8Size)

/-- `&s[..i]`, which panics inside a character. -/
def sliceTo : List Char → ℕ → Option (List Char)
  | _, 0 => some []
  | [], _ + 1 => none
  | c :: cs, i => if c.utf8Size ≤ i then (sliceTo cs (i - c.utf8Size)).map (c :: ·) else none

def sliceFrom : List Char → ℕ → Option (List Char)
  | cs, 0 => some cs
  | [], _ + 1 => none
  | c :: cs, i => if c.utf8Size ≤ i then sliceFrom cs (i - c.utf8Size) else none

def slice (cs : List Char) (i j : ℕ) : Option (List Char) := do
  let front ← sliceTo cs j
  sliceFrom front i

def find (p : Char → Bool) : List Char → Option ℕ
  | [] => none
  | c :: cs => if p c then some 0 else (find p cs).map (· + c.utf8Size)

def rfind (p : Char → Bool) : List Char → Option ℕ
  | [] => none
  | c :: cs =>
    match rfind p cs with
    | some i => some (i + c.utf8Size)
    | none => if p c then some 0 else none

/-- The largest character boundary not above the offset. -/
def floorBoundary (cs : List Char) : ℕ → ℕ
  | 0 => 0
  | i + 1 => if isCharBoundary cs (i + 1) then i + 1 else floorBoundary cs i

def eqIgnoreAsciiCase (a b : String) : Bool :=
  a.toList.map Char.toLower == b.toList.map Char.toLower

def splitOnceChars (separator : List Char) : List Char → Option (List Char × List Char)
  | [] => if separator = [] then some ([], []) else none
  | c :: cs =>
    if separator.isPrefixOf (c :: cs) then some ([], (c :: cs).drop separator.length)
    else (splitOnceChars separator cs).map fun (front, rest) => (c :: front, rest)

def splitOnce (separator s : String) : Option (String × String) :=
  (splitOnceChars separator.toList s.toList).map fun (front, rest) =>
    (String.ofList front, String.ofList rest)

example : splitOnce "->" "a->b->c" = some ("a", "b->c") := by decide

example : trim " run\n" = "run" := by decide

example : isBlank " \t" = true := by decide

end GreenticDw.Text

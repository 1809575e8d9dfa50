import GreenticDw.Text.Json
import Mathlib.Tactic

/-! A reader of JSON text. It takes one character after another and keeps the containers it is in. -/

namespace GreenticDw.JsonReader

open Value

inductive Frame where
  | array (items : List Value)
  | object (fields : List (String × Value)) (key : String)

inductive Expected where
  | value (closes : Bool)
  | key (fields : List (String × Value)) (closes : Bool)
  | colon (fields : List (String × Value)) (key : String)
  | next (value : Value)

inductive Mode where
  | idle
  | bare (token : List Char)
  | text (chars : List Char)
  | escape (chars : List Char)
  | hex (chars : List Char) (lead : Option ℕ) (count code : ℕ)
  | pair (chars : List Char) (lead : ℕ)
  | pairEscape (chars : List Char) (lead : ℕ)

structure State where
  frames : List Frame
  expected : Expected
  mode : Mode

def isSpace (c : Char) : Bool := c = ' ' || c = '\n' || c = '\t' || c = '\r'

def isDelimiter (c : Char) : Bool :=
  isSpace c || c = ',' || c = ':' || c = '"' || c = '[' || c = ']' || c = '\x7b' || c = '\x7d'

def afterDigits (cs : List Char) : Option (List Char) :=
  if cs.head?.any Char.isDigit then some (cs.dropWhile Char.isDigit) else none

def afterInteger : List Char → Option (List Char)
  | '0' :: cs => some cs
  | cs => afterDigits cs

def afterFraction : List Char → Option (List Char)
  | '.' :: cs => afterDigits cs
  | cs => some cs

def afterSign : List Char → List Char
  | '+' :: cs => cs
  | '-' :: cs => cs
  | cs => cs

def afterExponent : List Char → Option (List Char)
  | 'e' :: cs => afterDigits (afterSign cs)
  | 'E' :: cs => afterDigits (afterSign cs)
  | cs => some cs

def afterMinus : List Char → List Char
  | '-' :: cs => cs
  | cs => cs

def isNumber (cs : List Char) : Bool :=
  (((afterInteger (afterMinus cs)).bind afterFraction).bind afterExponent) = some []

def bareValue (token : List Char) : Option Value :=
  if token = ['n', 'u', 'l', 'l'] then some .null
  else if token = ['t', 'r', 'u', 'e'] then some (.bool true)
  else if token = ['f', 'a', 'l', 's', 'e'] then some (.bool false)
  else if isNumber token then some (.number (String.ofList token))
  else none

def insert (fields : List (String × Value)) (key : String) (value : Value) :
    List (String × Value) :=
  -- a key that comes twice keeps its place and takes the later value
  if key ∈ fields.map Prod.fst then
    fields.map fun field => if field.1 = key then (key, value) else field
  else fields ++ [(key, value)]

def hexDigit (c : Char) : Option ℕ :=
  if '0' ≤ c ∧ c ≤ '9' then some (c.toNat - '0'.toNat)
  else if 'a' ≤ c ∧ c ≤ 'f' then some (c.toNat - 'a'.toNat + 10)
  else if 'A' ≤ c ∧ c ≤ 'F' then some (c.toNat - 'A'.toNat + 10)
  else none

def unescape : Char → Option Char
  | '"' => some '"'
  | '\\' => some '\\'
  | '/' => some '/'
  | 'b' => some '\x08'
  | 'f' => some '\x0c'
  | 'n' => some '\n'
  | 'r' => some '\r'
  | 't' => some '\t'
  | _ => none

def decoded (chars : List Char) (lead : Option ℕ) (code : ℕ) : Option Mode :=
  match lead with
  | none =>
    if 0xD800 ≤ code ∧ code ≤ 0xDBFF then some (.pair chars code)
    else if 0xDC00 ≤ code ∧ code ≤ 0xDFFF then none
    else some (.text (chars ++ [Char.ofNat code]))
  | some lead =>
    if 0xDC00 ≤ code ∧ code ≤ 0xDFFF then
      some (.text (chars ++ [Char.ofNat (0x10000 + (lead - 0xD800) * 0x400 + (code - 0xDC00))]))
    else none

namespace State

def punct (st : State) (c : Char) : Option State :=
  if isSpace c then some st
  else
    match st.expected with
    | .value closes =>
      if c = '"' then some { st with mode := .text [] }
      else if c = '[' then some { st with frames := .array [] :: st.frames, expected := .value true }
      else if c = '\x7b' then some { st with expected := .key [] true }
      else if c = ']' ∧ closes then
        match st.frames with
        | .array items :: frames => some ⟨frames, .next (.array items), .idle⟩
        | _ => none
      else if isDelimiter c then none
      else some { st with mode := .bare [c] }
    | .key fields closes =>
      if c = '"' then some { st with mode := .text [] }
      else if c = '\x7d' ∧ closes then some { st with expected := .next (.object fields) }
      else none
    | .colon fields key =>
      if c = ':' then
        some { st with frames := .object fields key :: st.frames, expected := .value false }
      else none
    | .next value =>
      match st.frames with
      | .array items :: frames =>
        if c = ',' then some ⟨.array (items ++ [value]) :: frames, .value false, .idle⟩
        else if c = ']' then some ⟨frames, .next (.array (items ++ [value])), .idle⟩
        else none
      | .object fields key :: frames =>
        if c = ',' then some ⟨frames, .key (insert fields key value) false, .idle⟩
        else if c = '\x7d' then some ⟨frames, .next (.object (insert fields key value)), .idle⟩
        else none
      | [] => none

def close (st : State) (s : String) : Option State :=
  match st.expected with
  | .value _ => some { st with expected := .next (.string s), mode := .idle }
  | .key fields _ => some { st with expected := .colon fields s, mode := .idle }
  | _ => none

def step (st : State) (c : Char) : Option State :=
  match st.mode with
  | .idle => st.punct c
  | .bare token =>
    if isDelimiter c then
      (bareValue token).bind fun value =>
        punct { st with expected := .next value, mode := .idle } c
    else some { st with mode := .bare (token ++ [c]) }
  | .text chars =>
    if c = '"' then st.close (String.ofList chars)
    else if c = '\\' then some { st with mode := .escape chars }
    else if c.toNat < 0x20 then none
    else some { st with mode := .text (chars ++ [c]) }
  | .escape chars =>
    if c = 'u' then some { st with mode := .hex chars none 0 0 }
    else (unescape c).map fun c => { st with mode := .text (chars ++ [c]) }
  | .hex chars lead count code =>
    (hexDigit c).bind fun digit =>
      if count < 3 then some { st with mode := .hex chars lead (count + 1) (16 * code + digit) }
      else (decoded chars lead (16 * code + digit)).map fun mode => { st with mode }
  | .pair chars lead => if c = '\\' then some { st with mode := .pairEscape chars lead } else none
  | .pairEscape chars lead =>
    if c = 'u' then some { st with mode := .hex chars (some lead) 0 0 } else none

def run : State → List Char → Option State
  | st, [] => some st
  | st, c :: cs => (st.step c).bind fun st => run st cs

def result : State → Option Value
  | ⟨[], .next value, .idle⟩ => some value
  | _ => none

end State

def start : State := ⟨[], .value false, .idle⟩

def read (s : String) : Option Value := (start.run (s.toList ++ ['\n'])).bind State.result

example : (read " [1, \x7b\"a\" : \"\\u00e9\\ud83d\\ude00\"\x7d, -0.5e+3, null] ").map toText =
    some "[1,\x7b\"a\":\"é😀\"\x7d,-0.5e+3,null]" := by decide +kernel

end GreenticDw.JsonReader

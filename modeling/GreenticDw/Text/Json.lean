import GreenticDw.Text.Strings

namespace GreenticDw

/-- A JSON value. An object keeps its fields in the order they were inserted, each key once. -/
inductive Value where
  | null
  | bool (b : Bool)
  | number (token : String)
  | string (s : String)
  | array (items : List Value)
  | object (fields : List (String × Value))
  deriving Repr

namespace Value

def get (key : String) : Value → Option Value
  | object fields => (fields.find? (·.1 == key)).map (·.2)
  | _ => none

def asStr : Value → Option String
  | string s => some s
  | _ => none

def escapeChar (c : Char) : List Char :=
  let hex (n : ℕ) : Char := Nat.digitChar (n % 16)
  match c.toNat with
  | 0x22 => ['\\', '"']
  | 0x5C => ['\\', '\\']
  | 0x08 => ['\\', 'b']
  | 0x0C => ['\\', 'f']
  | 0x0A => ['\\', 'n']
  | 0x0D => ['\\', 'r']
  | 0x09 => ['\\', 't']
  | n => if n < 0x20 then ['\\', 'u', '0', '0', hex (n / 16), hex n] else [c]

def quote (s : String) : String :=
  "\"" ++ String.ofList (s.toList.flatMap escapeChar) ++ "\""

mutual
def toText : Value → String
  | null => "null"
  | bool true => "true"
  | bool false => "false"
  | number token => token
  | string s => quote s
  | array items => "[" ++ String.intercalate "," (itemTexts items) ++ "]"
  | object fields => "\x7b" ++ String.intercalate "," (fieldTexts fields) ++ "\x7d"

def itemTexts : List Value → List String
  | [] => []
  | item :: items => toText item :: itemTexts items

def fieldTexts : List (String × Value) → List String
  | [] => []
  | (key, value) :: fields => (quote key ++ ":" ++ toText value) :: fieldTexts fields
end

end Value

example : (Value.object [("a", .array [.number "1", .null]), ("b", .string "x\n")]).toText =
    "\x7b\"a\":[1,null],\"b\":\"x\\n\"\x7d" := by decide

end GreenticDw

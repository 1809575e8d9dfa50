import GreenticDw.Text.JsonRoundTrip

/-! Structures and enumerations kept as JSON values, with the readers that are derived from their
declarations. -/

namespace GreenticDw

namespace JsonReader

lemma head_toDigits {n : ℕ} (h : 0 < n) : (Nat.toDigits 10 n).head? ≠ some '0' := by
  induction n using Nat.strong_induction_on with
  | _ n ih =>
    rw [Nat.toDigits_eq_if (by omega)]
    split_ifs with hlt
    · interval_cases n <;> decide
    · have hdiv : 0 < n / 10 := by omega
      rw [List.head?_append_of_ne_nil _ Nat.toDigits_ne_nil]
      exact ih (n / 10) (by omega) hdiv

lemma isNumber_toString (n : ℕ) : isNumber (toString n).toList = true := by
  rw [Nat.toString_eq_repr, Nat.toList_repr]
  rcases Nat.eq_zero_or_pos n with rfl | hpos
  · decide
  · have hdigit : ∀ c ∈ Nat.toDigits 10 n, c.isDigit = true :=
      fun c hc => Nat.isDigit_of_mem_toDigits (by decide) (by decide) hc
    have hhead := head_toDigits hpos
    obtain ⟨c, cs, hcs⟩ := List.exists_cons_of_ne_nil (Nat.toDigits_ne_nil (n := n) (b := 10))
    rw [hcs] at hdigit hhead ⊢
    have hc : c ≠ '0' := fun h => hhead (by rw [h]; rfl)
    have hminus : c ≠ '-' := fun h => absurd (hdigit c (by simp)) (by rw [h]; decide)
    have hafter : afterDigits (c :: cs) = some [] := by
      rw [afterDigits, if_pos (by simpa using hdigit c (by simp))]
      rw [List.dropWhile_eq_nil_iff.mpr hdigit]
    have hm : afterMinus (c :: cs) = c :: cs := by
      unfold afterMinus
      split
      · simp_all
      · rfl
    have hi : afterInteger (c :: cs) = some [] := by
      unfold afterInteger
      split
      · simp_all
      · exact hafter
    simp [isNumber, hm, hi, afterFraction, afterExponent]

end JsonReader

inductive FieldSource where
  | entries (fields : List (String × Value))
  | items (items : List Value)

abbrev FieldReader (α : Type) : Type := StateT FieldSource Option α

namespace Value

variable {α β : Type}

def readString : Value → Option String
  | string s => some s
  | _ => none

def readBool : Value → Option Bool
  | bool b => some b
  | _ => none

def readNat (bound : ℕ) : Value → Option ℕ
  | number token =>
    if token.toList ≠ [] ∧ (token.toList.all Char.isDigit) = true ∧
      Nat.ofDigitChars 10 token.toList 0 < bound then
      some (Nat.ofDigitChars 10 token.toList 0)
    else none
  | _ => none

def ofNat (n : ℕ) : Value := number (toString n)

def readOption (read : Value → Option α) : Value → Option (Option α)
  | null => some none
  | v => (read v).map some

def readArray (read : Value → Option α) : Value → Option (List α)
  | array items => items.mapM read
  | _ => none

def ofOption (write : α → Value) : Option α → Value
  | none => null
  | some a => write a

def field (absent short : Option α) (read : Value → Option α) (key : String) : FieldReader α
  | .entries fields =>
    match (object fields).get key with
    | some v => (read v).map (·, .entries fields)
    | none => absent.map (·, .entries fields)
  | .items [] => short.map (·, .items [])
  | .items (v :: items) => (read v).map (·, .items items)

def required (read : Value → Option α) (key : String) : FieldReader α := field none none read key

def nullable (read : Value → Option α) (key : String) : FieldReader (Option α) :=
  field (some none) none (readOption read) key

def defaulted (default : α) (read : Value → Option α) (key : String) : FieldReader α :=
  field (some default) (some default) read key

def readStruct (reader : FieldReader α) : Value → Option α
  | object fields => (reader (.entries fields)).map (·.1)
  | array items =>
    match reader (.items items) with
    | some (a, .items []) => some a
    | _ => none
  | _ => none

def readEnum (variant : String → Option Value → Option α) : Value → Option α
  | string name => variant name none
  | object [(name, payload)] => variant name (some payload)
  | _ => none

def unitVariant (a : α) : Option Value → Option α
  | none => some a
  | some null => some a
  | some _ => none

def newtypeVariant (f : β → α) (read : Value → Option β) (payload : Option Value) : Option α :=
  payload.bind fun v => (read v).map f

structure Encoding (α : Type) where
  write : α → Value
  read : Value → Option α
  read_write : ∀ a, read (write a) = some a
  write_ne_null : ∀ a, write a ≠ null

variable {read : Value → Option α} {absent short : Option α} {key : String}
  {fields : List (String × Value)}

@[simp] lemma readString_string (s : String) : readString (string s) = some s := rfl

@[simp] lemma readBool_bool (b : Bool) : readBool (bool b) = some b := rfl

@[simp] lemma get_object_nil : (object []).get key = none := rfl

@[simp] lemma get_object_cons (k : String) (v : Value) :
    (object ((k, v) :: fields)).get key = if k = key then some v else (object fields).get key := by
  by_cases h : k = key <;> simp [get, h]

@[simp] lemma field_entries : field absent short read key (.entries fields) =
    (((object fields).get key).elim absent read).map (·, .entries fields) := by
  cases h : (object fields).get key <;> simp [field, h]

@[simp] lemma field_nil : field absent short read key (.items []) = short.map (·, .items []) := rfl

@[simp] lemma field_cons (v : Value) (items : List Value) :
    field absent short read key (.items (v :: items)) = (read v).map (·, .items items) := rfl

@[simp] lemma required_eq : required read key = field none none read key := rfl

@[simp] lemma nullable_eq : nullable read key = field (some none) none (readOption read) key := rfl

@[simp] lemma defaulted_eq (default : α) :
    defaulted default read key = field (some default) (some default) read key := rfl

@[simp] lemma fieldReader_bind (m : FieldReader α) (f : α → FieldReader β) (source : FieldSource) :
    (m >>= f) source = (m source).bind fun p => f p.1 p.2 := rfl

@[simp] lemma fieldReader_map (f : α → β) (m : FieldReader α) (source : FieldSource) :
    (f <$> m) source = (m source).map fun p => (f p.1, p.2) := by
  cases h : m source <;> simp [Functor.map, StateT.map, h]

@[simp] lemma fieldReader_pure (a : α) (source : FieldSource) :
    (pure a : FieldReader α) source = some (a, source) := rfl

lemma readNat_ofNat {n bound : ℕ} (h : n < bound) : readNat bound (ofNat n) = some n := by
  have htext : (toString n).toList = Nat.toDigits 10 n := by
    rw [Nat.toString_eq_repr, Nat.toList_repr]
  have hne : Nat.toDigits 10 n ≠ [] := Nat.toDigits_ne_nil
  have hdigits : (Nat.toDigits 10 n).all Char.isDigit = true := by
    rw [List.all_eq_true]
    intro c hc
    exact Nat.isDigit_of_mem_toDigits (by decide) (by decide) hc
  have hvalue : Nat.ofDigitChars 10 (Nat.toDigits 10 n) 0 = n := by
    simp
  simp only [readNat, ofNat, htext, hvalue]
  rw [if_pos ⟨hne, hdigits, h⟩]

lemma readStruct_object (reader : FieldReader α) :
    readStruct reader (object fields) = (reader (.entries fields)).map (·.1) := rfl

namespace Encoding

def ofNames (name : α → String) (variant : String → Option Value → Option α)
    (h : ∀ a, variant (name a) none = some a) : Encoding α where
  write a := string (name a)
  read := readEnum variant
  read_write a := h a
  write_ne_null _ := nofun

variable (encoding : Encoding α)

attribute [simp] read_write

@[simp] lemma readOption_ofOption (o : Option α) :
    readOption encoding.read (ofOption encoding.write o) = some o := by
  cases o with
  | none => rfl
  | some a =>
    have hne := encoding.write_ne_null a
    have hread := encoding.read_write a
    simp only [ofOption]
    cases hw : encoding.write a with
    | null => exact absurd hw hne
    | _ => simp [readOption, ← hw, hread]

end Encoding

/-- An object has, under the keys of a structure, what the structure is written with. The order of
its fields is free, and it may have others. -/
def Agrees (keys : List String) (written : Value) (fields : List (String × Value)) : Prop :=
  ∀ key ∈ keys, written.get key = (object fields).get key

def ReadsOnly (keys : List String) (reader : FieldReader α) : Prop :=
  ∀ fields fields', (∀ key ∈ keys, (object fields).get key = (object fields').get key) →
    ∀ a source, reader (.entries fields) = some (a, source) →
      source = .entries fields ∧ reader (.entries fields') = some (a, .entries fields')

section

variable {keys : List String} {reader : FieldReader α}

lemma readsOnly_field (hk : key ∈ keys) : ReadsOnly keys (field absent short read key) := by
  intro fields fields' h a source hr
  rw [field_entries, Option.map_eq_some_iff] at hr
  obtain ⟨b, hb, heq⟩ := hr
  obtain ⟨rfl, rfl⟩ := Prod.mk.inj heq
  exact ⟨rfl, by rw [field_entries, ← h key hk, hb, Option.map_some]⟩

lemma readsOnly_pure (a : α) : ReadsOnly keys (pure a : FieldReader α) := by
  intro fields fields' _ b source hr
  obtain ⟨rfl, rfl⟩ := Prod.mk.inj (Option.some.inj hr)
  exact ⟨rfl, rfl⟩

lemma ReadsOnly.bind {f : α → FieldReader β} (hr : ReadsOnly keys reader)
    (hf : ∀ a, ReadsOnly keys (f a)) : ReadsOnly keys (reader >>= f) := by
  intro fields fields' h b source hb
  rw [fieldReader_bind, Option.bind_eq_some_iff] at hb
  obtain ⟨⟨a, source'⟩, ha, hb⟩ := hb
  obtain ⟨rfl, ha'⟩ := hr fields fields' h a source' ha
  obtain ⟨rfl, hb'⟩ := hf a fields fields' h b source hb
  exact ⟨rfl, by rw [fieldReader_bind, ha', Option.bind_some, hb']⟩

theorem ReadsOnly.readStruct_eq {fields' : List (String × Value)} {a : α}
    (hr : ReadsOnly keys reader)
    (h : ∀ key ∈ keys, (object fields).get key = (object fields').get key)
    (ha : readStruct reader (object fields) = some a) :
    readStruct reader (object fields') = some a := by
  rw [readStruct_object, Option.map_eq_some_iff] at ha
  obtain ⟨⟨a', source⟩, hread, rfl⟩ := ha
  rw [readStruct_object, (hr fields fields' h a' source hread).2]
  rfl

end

def stringEncoding : Encoding String where
  write := string
  read := readString
  read_write _ := rfl
  write_ne_null _ := nofun

@[simp] lemma readOption_string (o : Option String) :
    readOption readString (ofOption string o) = some o := stringEncoding.readOption_ofOption o

lemma wellFormed_ofNat (n : ℕ) : (ofNat n).WellFormed := JsonReader.isNumber_toString n

theorem Encoding.read_toText (encoding : Encoding α) {a : α} (h : (encoding.write a).WellFormed) :
    (JsonReader.read (encoding.write a).toText).bind encoding.read = some a := by
  rw [JsonReader.read_toText h, Option.bind_some, encoding.read_write]

end Value

end GreenticDw

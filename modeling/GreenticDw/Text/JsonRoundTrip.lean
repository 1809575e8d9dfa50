import GreenticDw.Text.JsonReader

namespace GreenticDw

namespace Value

mutual
/-- The numbers are JSON numbers, and no object has a key twice. -/
def WellFormed : Value → Prop
  | number token => JsonReader.isNumber token.toList = true
  | array items => WellFormedItems items
  | object fields => (fields.map Prod.fst).Nodup ∧ WellFormedFields fields
  | _ => True

def WellFormedItems : List Value → Prop
  | [] => True
  | item :: items => WellFormed item ∧ WellFormedItems items

def WellFormedFields : List (String × Value) → Prop
  | [] => True
  | (_, value) :: fields => WellFormed value ∧ WellFormedFields fields
end

lemma wellFormedFields_iff {fields : List (String × Value)} :
    WellFormedFields fields ↔ ∀ field ∈ fields, field.2.WellFormed := by
  induction fields with
  | nil => simp [WellFormedFields]
  | cons field fields ih => rw [WellFormedFields, ih, List.forall_mem_cons]

end Value

namespace JsonReader

open State

section

variable {frames : List Frame} {expected : Expected} {chars rest : List Char} {c : Char}
  {st st' : State}

lemma run_cons (st : State) (c : Char) (cs : List Char) :
    st.run (c :: cs) = (st.step c).bind fun st => st.run cs := rfl

lemma run_step (h : st.step c = some st') (cs : List Char) : st.run (c :: cs) = st'.run cs := by
  rw [run_cons, h, Option.bind_some]

lemma run_append (st : State) (cs ds : List Char) :
    st.run (cs ++ ds) = (st.run cs).bind fun st => st.run ds := by
  induction cs generalizing st with
  | nil => rfl
  | cons c cs ih =>
    rw [List.cons_append, run_cons, run_cons]
    cases st.step c with
    | none => rfl
    | some st' => simpa using ih st'

def Plain (c : Char) : Prop := c ≠ '"' ∧ c ≠ '\\' ∧ 0x20 ≤ c.toNat

instance : DecidablePred Plain := fun c =>
  inferInstanceAs (Decidable (c ≠ '"' ∧ c ≠ '\\' ∧ 0x20 ≤ c.toNat))

lemma step_plain (hc : Plain c) :
    step ⟨frames, expected, .text chars⟩ c = some ⟨frames, expected, .text (chars ++ [c])⟩ := by
  simp [step, hc.1, hc.2.1, Nat.not_lt.mpr hc.2.2]

lemma escapeChar_plain (hc : Plain c) : Value.escapeChar c = [c] := by
  obtain ⟨hquote, hbackslash, hcontrol⟩ := hc
  rw [Value.escapeChar]
  split
  case h_1 h => exact (hquote (Char.toNat_inj.mp h)).elim
  case h_2 h => exact (hbackslash (Char.toNat_inj.mp h)).elim
  case h_8 h => rw [if_neg (Nat.not_lt.mpr hcontrol)]
  all_goals omega

lemma quote_plain {s : String} (hs : ∀ c ∈ s.toList, Plain c) :
    Value.quote s = "\"" ++ s ++ "\"" := by
  have hescape : s.toList.flatMap Value.escapeChar = s.toList := by
    rw [List.flatMap_congr fun c hc => escapeChar_plain (hs c hc), List.flatMap_singleton']
  rw [Value.quote, hescape, String.ofList_toList]

lemma run_control : ∀ n < 32, ∀ frames expected chars rest,
    run ⟨frames, expected, .text chars⟩ (Value.escapeChar (Char.ofNat n) ++ rest) =
      run ⟨frames, expected, .text (chars ++ [Char.ofNat n])⟩ rest := by
  intro n hn frames expected chars rest
  interval_cases n <;> rfl

lemma run_escapeChar (c : Char) : run ⟨frames, expected, .text chars⟩ (Value.escapeChar c ++ rest) =
    run ⟨frames, expected, .text (chars ++ [c])⟩ rest := by
  by_cases hc : Plain c
  · rw [escapeChar_plain hc]
    exact run_step (step_plain hc) rest
  · simp only [Plain, not_and_or, not_le, not_not] at hc
    rcases hc with rfl | rfl | hc
    · rfl
    · rfl
    · have hcontrol := run_control c.toNat hc frames expected chars rest
      rwa [Char.ofNat_toNat] at hcontrol

lemma run_chars (text : List Char) :
    run ⟨frames, expected, .text chars⟩ (text.flatMap Value.escapeChar ++ rest) =
      run ⟨frames, expected, .text (chars ++ text)⟩ rest := by
  induction text generalizing chars with
  | nil => rw [List.flatMap_nil, List.nil_append, List.append_nil]
  | cons c text ih =>
    rw [List.flatMap_cons, List.append_assoc, run_escapeChar, ih, List.append_assoc]
    rfl

lemma toList_quote (s : String) :
    (Value.quote s).toList = '"' :: (s.toList.flatMap Value.escapeChar ++ ['"']) := by
  simp [Value.quote]

lemma run_text (s : String) : run ⟨frames, expected, .text []⟩
    (s.toList.flatMap Value.escapeChar ++ '"' :: rest) =
      (close ⟨frames, expected, .text s.toList⟩ s).bind fun st => st.run rest := by
  rw [run_chars, List.nil_append, run_cons]
  simp [step]

lemma run_quote_value (s : String) (closes : Bool) :
    run ⟨frames, .value closes, .idle⟩ ((Value.quote s).toList ++ rest) =
      run ⟨frames, .next (.string s), .idle⟩ rest := by
  have hopen : step ⟨frames, .value closes, .idle⟩ '"' =
      some ⟨frames, .value closes, .text []⟩ := rfl
  rw [toList_quote, List.cons_append, run_step hopen, List.append_assoc, List.singleton_append,
    run_text]
  rfl

lemma run_quote_key (s : String) (fields : List (String × Value)) (closes : Bool) :
    run ⟨frames, .key fields closes, .idle⟩ ((Value.quote s).toList ++ rest) =
      run ⟨frames, .colon fields s, .idle⟩ rest := by
  have hopen : step ⟨frames, .key fields closes, .idle⟩ '"' =
      some ⟨frames, .key fields closes, .text []⟩ := rfl
  rw [toList_quote, List.cons_append, run_step hopen, List.append_assoc, List.singleton_append,
    run_text]
  rfl

lemma run_bare_tail {token tail : List Char} (ht : ∀ c ∈ tail, isDelimiter c = false) :
    run ⟨frames, expected, .bare token⟩ (tail ++ rest) =
      run ⟨frames, expected, .bare (token ++ tail)⟩ rest := by
  induction tail generalizing token with
  | nil => rw [List.nil_append, List.append_nil]
  | cons c tail ih =>
    rw [List.forall_mem_cons] at ht
    have hstep : step ⟨frames, expected, .bare token⟩ c =
        some ⟨frames, expected, .bare (token ++ [c])⟩ := by
      simp [step, ht.1]
    rw [List.cons_append, run_step hstep, ih ht.2, List.append_assoc]
    rfl

lemma run_bare {token : List Char} {value : Value} {delimiter : Char}
    (hvalue : bareValue token = some value) (ht : ∀ c ∈ token, isDelimiter c = false)
    (hd : isDelimiter delimiter = true) (closes : Bool) :
    run ⟨frames, .value closes, .idle⟩ (token ++ delimiter :: rest) =
      run ⟨frames, .next value, .idle⟩ (delimiter :: rest) := by
  cases token with
  | nil => cases hvalue
  | cons c token =>
    rw [List.forall_mem_cons] at ht
    have hopen : step ⟨frames, .value closes, .idle⟩ c =
        some ⟨frames, .value closes, .bare [c]⟩ := by
      have hc := ht.1
      simp only [isDelimiter, Bool.or_eq_false_iff, decide_eq_false_iff_not] at hc
      simp [step, punct, isDelimiter, hc]
    rw [List.cons_append, run_step hopen, run_bare_tail ht.2, run_cons, run_cons]
    simp [step, hd, hvalue]

def Numeric (c : Char) : Prop := c.isDigit = true ∨ c ∈ ['-', '+', '.', 'e', 'E']

lemma Numeric.not_delimiter (hc : Numeric c) : isDelimiter c = false := by
  by_contra hne
  rw [Bool.not_eq_false] at hne
  simp only [isDelimiter, isSpace, Bool.or_eq_true, decide_eq_true_eq] at hne
  rcases hne with ((((((((((rfl | rfl) | rfl) | rfl) | rfl) | rfl) | rfl) | rfl) | rfl) | rfl) | rfl) <;>
    simp [Numeric] at hc

def Skips (cs rs : List Char) : Prop := ∀ c ∈ cs, Numeric c ∨ c ∈ rs

variable {cs rs ts : List Char}

lemma Skips.refl (cs : List Char) : Skips cs cs := fun _ hc => .inr hc

lemma Skips.trans (h : Skips cs rs) (h' : Skips rs ts) : Skips cs ts := by
  intro c hc
  rcases h c hc with hnumeric | hc
  · exact .inl hnumeric
  · exact h' c hc

lemma Skips.cons (hc : Numeric c) (h : Skips cs rs) : Skips (c :: cs) rs :=
  List.forall_mem_cons.mpr ⟨.inl hc, h⟩

lemma skips_afterDigits (h : afterDigits cs = some rs) : Skips cs rs := by
  intro c hc
  rw [afterDigits] at h
  split_ifs at h
  obtain rfl := Option.some.inj h
  rw [← List.takeWhile_append_dropWhile (p := Char.isDigit) (l := cs), List.mem_append] at hc
  exact hc.imp_left fun hc => .inl (List.mem_takeWhile_imp hc)

lemma skips_afterMinus (cs : List Char) : Skips cs (afterMinus cs) := by
  unfold afterMinus
  split
  · exact .cons (by simp [Numeric]) (.refl _)
  · exact .refl _

lemma skips_afterInteger (h : afterInteger cs = some rs) : Skips cs rs := by
  unfold afterInteger at h
  split at h
  · obtain rfl := Option.some.inj h
    exact .cons (.inl rfl) (.refl _)
  · exact skips_afterDigits h

lemma skips_afterFraction (h : afterFraction cs = some rs) : Skips cs rs := by
  unfold afterFraction at h
  split at h
  · exact .cons (by simp [Numeric]) (skips_afterDigits h)
  · obtain rfl := Option.some.inj h
    exact .refl _

lemma skips_afterSign (cs : List Char) : Skips cs (afterSign cs) := by
  unfold afterSign
  split
  · exact .cons (by simp [Numeric]) (.refl _)
  · exact .cons (by simp [Numeric]) (.refl _)
  · exact .refl _

lemma skips_afterExponent (h : afterExponent cs = some rs) : Skips cs rs := by
  unfold afterExponent at h
  split at h
  · exact .cons (by simp [Numeric]) ((skips_afterSign _).trans (skips_afterDigits h))
  · exact .cons (by simp [Numeric]) ((skips_afterSign _).trans (skips_afterDigits h))
  · obtain rfl := Option.some.inj h
    exact .refl _

lemma not_delimiter_of_isNumber (h : isNumber cs = true) : ∀ c ∈ cs, isDelimiter c = false := by
  rw [isNumber, decide_eq_true_eq] at h
  simp only [Option.bind_eq_some_iff] at h
  obtain ⟨fs, ⟨is, hinteger, hfraction⟩, hexponent⟩ := h
  have hskips := (skips_afterMinus cs).trans ((skips_afterInteger hinteger).trans
    ((skips_afterFraction hfraction).trans (skips_afterExponent hexponent)))
  intro c hc
  exact ((hskips c hc).resolve_right (List.not_mem_nil)).not_delimiter

lemma bareValue_number {token : String} (h : isNumber token.toList = true) :
    bareValue token.toList = some (.number token) := by
  have hne : ∀ word : List Char, isNumber word = false → token.toList ≠ word := by
    rintro word hword rfl
    rw [h] at hword
    cases hword
  rw [bareValue, if_neg (hne _ (by decide)), if_neg (hne _ (by decide)),
    if_neg (hne _ (by decide)), if_pos h, String.ofList_toList]

def Delimited (cs : List Char) : Prop := ∃ c rest, cs = c :: rest ∧ isDelimiter c = true

lemma delimited_cons (hc : isDelimiter c = true) (rest : List Char) :
    Delimited (c :: rest) := ⟨c, rest, rfl, hc⟩

lemma run_token (token : List Char) {value : Value} (hvalue : bareValue token = some value)
    (ht : ∀ c ∈ token, isDelimiter c = false) (hrest : Delimited rest) (closes : Bool) :
    run ⟨frames, .value closes, .idle⟩ (token ++ rest) = run ⟨frames, .next value, .idle⟩ rest := by
  obtain ⟨c, rest, rfl, hc⟩ := hrest
  exact run_bare hvalue ht hc closes

def tailText (texts : List String) : List Char := texts.flatMap fun text => ',' :: text.toList

lemma tailText_cons (text : String) (texts : List String) :
    tailText (text :: texts) = ',' :: (text.toList ++ tailText texts) := List.flatMap_cons

lemma toList_intercalate (text : String) (texts : List String) :
    (String.intercalate "," (text :: texts)).toList = text.toList ++ tailText texts := by
  induction texts generalizing text with
  | nil => simp [tailText]
  | cons text' texts ih =>
    rw [String.intercalate_cons_cons, String.toList_append, String.toList_append, ih,
      tailText_cons, List.append_assoc]
    rfl

lemma delimited_tailText (texts : List String) (hrest : Delimited rest) :
    Delimited (tailText texts ++ rest) := by
  cases texts with
  | nil => exact hrest
  | cons text texts =>
    rw [tailText_cons]
    exact delimited_cons rfl _

lemma toList_array (item : Value) (items : List Value) :
    (Value.array (item :: items)).toText.toList =
      '[' :: (item.toText.toList ++ (tailText (Value.itemTexts items) ++ [']'])) := by
  rw [Value.toText, Value.itemTexts, String.toList_append, String.toList_append,
    toList_intercalate, List.append_assoc, List.append_assoc]
  rfl

lemma toList_field (key : String) (value : Value) :
    (Value.quote key ++ ":" ++ value.toText).toList =
      (Value.quote key).toList ++ ':' :: value.toText.toList := by
  rw [String.toList_append, String.toList_append, List.append_assoc]
  rfl

lemma toList_object (key : String) (value : Value) (fields : List (String × Value)) :
    (Value.object ((key, value) :: fields)).toText.toList = '\x7b' :: ((Value.quote key).toList ++
      ':' :: (value.toText.toList ++ (tailText (Value.fieldTexts fields) ++ ['\x7d']))) := by
  rw [Value.toText, Value.fieldTexts, String.toList_append, String.toList_append,
    toList_intercalate, toList_field, List.append_assoc, List.append_assoc, List.append_assoc]
  rfl

lemma insert_new {fields : List (String × Value)} {key : String} (value : Value)
    (hkey : key ∉ fields.map Prod.fst) : insert fields key value = fields ++ [(key, value)] :=
  if_neg hkey

lemma insert_of_nodup {done fields : List (String × Value)} {key : String} (value : Value)
    (hkeys : ((done ++ (key, value) :: fields).map Prod.fst).Nodup) :
    insert done key value = done ++ [(key, value)] := by
  apply insert_new
  rw [List.map_append, List.nodup_append'] at hkeys
  exact fun hm => hkeys.2.2 hm (List.mem_cons_self ..)

mutual
theorem run_value (frames : List Frame) (closes : Bool) {rest : List Char}
    (hrest : Delimited rest) : ∀ value : Value, value.WellFormed →
      run ⟨frames, .value closes, .idle⟩ (value.toText.toList ++ rest) =
        run ⟨frames, .next value, .idle⟩ rest
  | .null, _ =>
    run_token ['n', 'u', 'l', 'l'] rfl (by simp [isDelimiter, isSpace]) hrest closes
  | .bool true, _ =>
    run_token ['t', 'r', 'u', 'e'] rfl (by simp [isDelimiter, isSpace]) hrest closes
  | .bool false, _ =>
    run_token ['f', 'a', 'l', 's', 'e'] rfl (by simp [isDelimiter, isSpace]) hrest closes
  | .number _, h => run_token _ (bareValue_number h) (not_delimiter_of_isNumber h) hrest closes
  | .string s, _ => run_quote_value s closes
  | .array [], _ => rfl
  | .array (item :: items), ⟨hitem, hitems⟩ => by
    have hopen : step ⟨frames, .value closes, .idle⟩ '[' =
        some ⟨.array [] :: frames, .value true, .idle⟩ := rfl
    have htail := delimited_tailText (Value.itemTexts items) (delimited_cons (c := ']') rfl rest)
    rw [toList_array, List.cons_append, run_step hopen, List.append_assoc, List.append_assoc,
      List.singleton_append, run_value _ true htail item hitem]
    exact run_items frames rest [] item items hitems
  | .object [], _ => rfl
  | .object ((key, value) :: fields), ⟨hkeys, hvalue, hfields⟩ => by
    have hopen : step ⟨frames, .value closes, .idle⟩ '\x7b' =
        some ⟨frames, .key [] true, .idle⟩ := rfl
    have hcolon : step ⟨frames, .colon [] key, .idle⟩ ':' =
        some ⟨.object [] key :: frames, .value false, .idle⟩ := rfl
    have htail := delimited_tailText (Value.fieldTexts fields)
      (delimited_cons (c := '\x7d') rfl rest)
    rw [toList_object, List.cons_append, run_step hopen, List.append_assoc, run_quote_key,
      List.cons_append, run_step hcolon, List.append_assoc, List.append_assoc,
      List.singleton_append, run_value _ false htail value hvalue]
    exact run_fields frames rest [] key value fields hkeys hfields

theorem run_items (frames : List Frame) (rest : List Char) (done : List Value) (value : Value) :
    ∀ items : List Value, Value.WellFormedItems items →
      run ⟨.array done :: frames, .next value, .idle⟩
        (tailText (Value.itemTexts items) ++ ']' :: rest) =
          run ⟨frames, .next (.array (done ++ value :: items)), .idle⟩ rest
  | [], _ => rfl
  | item :: items, ⟨hitem, hitems⟩ => by
    have hcomma : step ⟨.array done :: frames, .next value, .idle⟩ ',' =
        some ⟨.array (done ++ [value]) :: frames, .value false, .idle⟩ := rfl
    have htail := delimited_tailText (Value.itemTexts items) (delimited_cons (c := ']') rfl rest)
    rw [Value.itemTexts, tailText_cons, List.cons_append, run_step hcomma, List.append_assoc,
      run_value _ false htail item hitem, run_items frames rest (done ++ [value]) item items hitems,
      List.append_assoc, List.singleton_append]

theorem run_fields (frames : List Frame) (rest : List Char) (done : List (String × Value))
    (key : String) (value : Value) : ∀ fields : List (String × Value),
      ((done ++ (key, value) :: fields).map Prod.fst).Nodup → Value.WellFormedFields fields →
        run ⟨.object done key :: frames, .next value, .idle⟩
          (tailText (Value.fieldTexts fields) ++ '\x7d' :: rest) =
            run ⟨frames, .next (.object (done ++ (key, value) :: fields)), .idle⟩ rest
  | [], hkeys, _ => by
    have hclose : step ⟨.object done key :: frames, .next value, .idle⟩ '\x7d' =
        some ⟨frames, .next (.object (insert done key value)), .idle⟩ := rfl
    rw [Value.fieldTexts, tailText, List.flatMap_nil, List.nil_append, run_step hclose,
      insert_of_nodup value hkeys]
  | (key', value') :: fields, hkeys, ⟨hvalue, hfields⟩ => by
    have hcomma : step ⟨.object done key :: frames, .next value, .idle⟩ ',' =
        some ⟨frames, .key (insert done key value) false, .idle⟩ := rfl
    have hcolon : step ⟨frames, .colon (done ++ [(key, value)]) key', .idle⟩ ':' =
        some ⟨.object (done ++ [(key, value)]) key' :: frames, .value false, .idle⟩ := rfl
    have htail := delimited_tailText (Value.fieldTexts fields)
      (delimited_cons (c := '\x7d') rfl rest)
    have hdone : done ++ (key, value) :: (key', value') :: fields =
        (done ++ [(key, value)]) ++ (key', value') :: fields := by simp
    rw [Value.fieldTexts, tailText_cons, List.cons_append, run_step hcomma,
      insert_of_nodup value hkeys, toList_field, List.append_assoc, List.append_assoc,
      run_quote_key, List.cons_append, run_step hcolon, run_value _ false htail value' hvalue]
    rw [hdone] at hkeys ⊢
    exact run_fields frames rest (done ++ [(key, value)]) key' value' fields hkeys hfields
end

theorem read_toText {value : Value} (h : value.WellFormed) : read value.toText = some value := by
  have hend : Delimited ['\n'] := delimited_cons rfl []
  rw [read, start, run_value [] false hend value h]
  rfl

end

end JsonReader

end GreenticDw

import GreenticDw.Text.JsonRoundTrip

/-! How much text a string takes that the reader reads as a field of an object: one character for
each of its characters that stands for itself, and two for the others, which have to be escaped. -/

namespace GreenticDw.JsonReader

def width (c : Char) : ℕ := if Plain c then 1 else 2

def room (cs : List Char) : ℕ := (cs.map width).sum

lemma width_le_two (c : Char) : width c ≤ 2 := by
  unfold width
  split_ifs <;> omega

lemma one_le_width (c : Char) : 1 ≤ width c := by
  unfold width
  split_ifs <;> omega

@[simp] lemma room_nil : room [] = 0 := rfl

lemma room_append (cs ds : List Char) : room (cs ++ ds) = room cs + room ds := by
  simp [room]

lemma room_singleton (c : Char) : room [c] = width c := by
  simp [room]

lemma plain_of_room_le {cs : List Char} (h : room cs ≤ cs.length) : ∀ c ∈ cs, Plain c := by
  have hlength : ∀ ds : List Char, ds.length ≤ room ds := by
    intro ds
    induction ds with
    | nil => exact Nat.zero_le _
    | cons d ds ih =>
      have hd := one_le_width d
      rw [← List.singleton_append, room_append, room_singleton, List.length_append]
      simpa using Nat.add_le_add hd ih
  intro c hc
  obtain ⟨ds, es, rfl⟩ := List.append_of_mem hc
  by_contra hne
  have hwidth : width c = 2 := if_neg hne
  have hds := hlength ds
  have hes := hlength es
  rw [← List.singleton_append, room_append, room_append, room_singleton, hwidth] at h
  simp only [List.length_append, List.length_singleton] at h
  omega

def FieldsFit (n : ℕ) (fields : List (String × Value)) : Prop :=
  ∀ key s, (key, .string s) ∈ fields → room key.toList + room s.toList + 6 ≤ n

def keyRoom : List Frame → ℕ
  | .object _ key :: _ => room key.toList + 4
  | _ => 0

def Frame.Fits (n : ℕ) : Frame → Prop
  | .array _ => True
  | .object fields key => FieldsFit n fields ∧ room key.toList + 4 ≤ n

def Expected.Fits (n : ℕ) (frames : List Frame) : Expected → Prop
  | .value _ => True
  | .key fields _ => FieldsFit n fields ∧ 1 ≤ n
  | .colon fields k => FieldsFit n fields ∧ room k.toList + 3 ≤ n
  | .next (.string s) => keyRoom frames + room s.toList + 2 ≤ n
  | .next (.object fields) => FieldsFit (n - 1) fields
  | .next _ => True

def Expected.before (frames : List Frame) : Expected → ℕ
  | .value _ => keyRoom frames
  | .key _ _ => 1
  | _ => 0

def Mode.Fits (n before : ℕ) : Mode → Prop
  | .idle | .bare _ => True
  | .text chars => before + room chars + 1 ≤ n
  | .escape chars | .hex chars _ _ _ | .pair chars _ | .pairEscape chars _ =>
    before + room chars + 2 ≤ n

structure State.Fits (n : ℕ) (st : State) : Prop where
  frames : ∀ frame ∈ st.frames, frame.Fits n
  expected : st.expected.Fits n st.frames
  mode : st.mode.Fits n (st.expected.before st.frames)

section

variable {n m : ℕ} {frames : List Frame} {expected : Expected} {fields : List (String × Value)}
  {st st' : State} {c : Char}

lemma FieldsFit.mono (h : FieldsFit n fields) (hnm : n ≤ m) : FieldsFit m fields :=
  fun key s hm => (h key s hm).trans hnm

lemma Frame.Fits.mono {frame : Frame} (h : frame.Fits n) (hnm : n ≤ m) : frame.Fits m := by
  cases frame with
  | array _ => trivial
  | object fields key => exact ⟨h.1.mono hnm, h.2.trans hnm⟩

lemma fits_frames (h : ∀ frame ∈ frames, frame.Fits n) (hnm : n ≤ m) :
    ∀ frame ∈ frames, frame.Fits m := fun frame hf => (h frame hf).mono hnm

lemma Expected.Fits.mono (h : expected.Fits n frames) (hnm : n ≤ m) : expected.Fits m frames := by
  cases expected with
  | value _ => trivial
  | key fields _ => exact ⟨h.1.mono hnm, h.2.trans hnm⟩
  | colon fields key => exact ⟨h.1.mono hnm, h.2.trans hnm⟩
  | next value =>
    cases value with
    | string s => exact h.trans hnm
    | object fields =>
      have h : FieldsFit (n - 1) fields := h
      exact h.mono (Nat.sub_le_sub_right hnm 1)
    | _ => trivial

lemma keyRoom_le (h : ∀ frame ∈ frames, frame.Fits n) : keyRoom frames ≤ n := by
  rcases frames with _ | ⟨_ | ⟨fields, key⟩, frames⟩
  · exact Nat.zero_le _
  · exact Nat.zero_le _
  · exact (h _ (List.mem_cons_self ..)).2

lemma before_le (hf : ∀ frame ∈ frames, frame.Fits n) (he : expected.Fits n frames) :
    expected.before frames ≤ n := by
  cases expected with
  | value _ => exact keyRoom_le hf
  | key _ _ => exact he.2
  | colon _ _ => exact Nat.zero_le _
  | next _ => exact Nat.zero_le _

lemma mem_insert {field : String × Value} {key : String} {value : Value}
    (h : field ∈ insert fields key value) : field ∈ fields ∨ field = (key, value) := by
  unfold insert at h
  split_ifs at h
  · obtain ⟨field', hm, rfl⟩ := List.mem_map.mp h
    split_ifs
    · exact .inr rfl
    · exact .inl hm
  · simpa using h

lemma FieldsFit.insert {key : String} {value : Value} (h : FieldsFit n fields)
    (hnext : (Expected.next value).Fits n (.object fields key :: frames)) :
    FieldsFit n (insert fields key value) := by
  intro key' s hm
  rcases mem_insert hm with hm | heq
  · exact h key' s hm
  · cases heq
    have hnext : room key.toList + 4 + room s.toList + 2 ≤ n := hnext
    omega

lemma bareValue_fits {token : List Char} {value : Value} (h : bareValue token = some value) :
    (Expected.next value).Fits n frames := by
  unfold bareValue at h
  split_ifs at h <;> cases h <;> exact trivial

lemma fits_idle (hf : ∀ frame ∈ frames, frame.Fits n) (he : expected.Fits n frames) :
    State.Fits n ⟨frames, expected, .idle⟩ := ⟨hf, he, trivial⟩

lemma State.Fits.punct (h : State.Fits n ⟨frames, expected, .idle⟩)
    (hs : State.punct ⟨frames, expected, .idle⟩ c = some st') : st'.Fits (n + 1) := by
  obtain ⟨hf, he, _⟩ := h
  have hle : n ≤ n + 1 := Nat.le_succ n
  have hf' := fits_frames hf hle
  have hquote : State.Fits (n + 1) ⟨frames, expected, .text []⟩ :=
    ⟨hf', he.mono hle, Nat.succ_le_succ (before_le hf he)⟩
  rw [State.punct] at hs
  by_cases hspace : isSpace c = true
  · rw [if_pos hspace] at hs
    obtain rfl := Option.some.inj hs
    exact fits_idle hf' (he.mono hle)
  rw [if_neg hspace] at hs
  cases expected with
  | value closes =>
    simp only at hs
    split_ifs at hs
    · obtain rfl := Option.some.inj hs
      exact hquote
    · obtain rfl := Option.some.inj hs
      exact fits_idle (List.forall_mem_cons.mpr ⟨trivial, hf'⟩) trivial
    · obtain rfl := Option.some.inj hs
      exact fits_idle hf' ⟨fun _ _ hm => (List.not_mem_nil hm).elim, Nat.le_add_left ..⟩
    · split at hs
      · obtain rfl := Option.some.inj hs
        exact fits_idle (List.forall_mem_cons.mp hf').2 trivial
      · cases hs
    · obtain rfl := Option.some.inj hs
      exact ⟨hf', trivial, trivial⟩
  | key fields closes =>
    simp only at hs
    split_ifs at hs
    · obtain rfl := Option.some.inj hs
      exact hquote
    · obtain rfl := Option.some.inj hs
      exact fits_idle hf' he.1
  | colon fields key =>
    simp only at hs
    split_ifs at hs
    obtain rfl := Option.some.inj hs
    obtain ⟨hfields, hkey⟩ := he
    have hframe : Frame.Fits (n + 1) (.object fields key) :=
      ⟨hfields.mono hle, Nat.succ_le_succ hkey⟩
    exact fits_idle (List.forall_mem_cons.mpr ⟨hframe, hf'⟩) trivial
  | next value =>
    simp only at hs
    split at hs
    · have hrest := (List.forall_mem_cons.mp hf').2
      split_ifs at hs
      · obtain rfl := Option.some.inj hs
        exact fits_idle (List.forall_mem_cons.mpr ⟨trivial, hrest⟩) trivial
      · obtain rfl := Option.some.inj hs
        exact fits_idle hrest trivial
    · obtain ⟨⟨hfields, _⟩, _⟩ := List.forall_mem_cons.mp hf
      have hrest := (List.forall_mem_cons.mp hf').2
      split_ifs at hs
      · obtain rfl := Option.some.inj hs
        exact fits_idle hrest ⟨(hfields.insert he).mono hle, Nat.le_add_left ..⟩
      · obtain rfl := Option.some.inj hs
        exact fits_idle hrest (hfields.insert he)
    · cases hs

lemma State.Fits.close {s : String} (hf : ∀ frame ∈ frames, frame.Fits n)
    (he : expected.Fits n frames) (hroom : expected.before frames + room s.toList + 1 ≤ n)
    {mode : Mode} (hs : State.close ⟨frames, expected, mode⟩ s = some st') : st'.Fits (n + 1) := by
  have hle : n ≤ n + 1 := Nat.le_succ n
  have hf' := fits_frames hf hle
  cases expected with
  | value closes =>
    obtain rfl := Option.some.inj hs
    exact fits_idle hf' (Nat.succ_le_succ hroom)
  | key fields closes =>
    obtain rfl := Option.some.inj hs
    have hkey : room s.toList + 3 ≤ n + 1 := by
      have hroom : 1 + room s.toList + 1 ≤ n := hroom
      omega
    exact fits_idle hf' ⟨he.1.mono hle, hkey⟩
  | colon fields key => cases hs
  | next value => cases hs

lemma fits_escaped {chars : List Char} {before : ℕ} (hroom : before + room chars + 2 ≤ n)
    (c : Char) : (Mode.text (chars ++ [c])).Fits (n + 1) before := by
  have hc := width_le_two c
  rw [Mode.Fits, room_append, room_singleton]
  omega

lemma decoded_fits {chars : List Char} {lead : Option ℕ} {code before : ℕ} {mode : Mode}
    (hroom : before + room chars + 2 ≤ n) (h : decoded chars lead code = some mode) :
    mode.Fits (n + 1) before := by
  unfold decoded at h
  split at h
  · split_ifs at h
    · obtain rfl := Option.some.inj h
      exact hroom.trans (Nat.le_succ n)
    · obtain rfl := Option.some.inj h
      exact fits_escaped hroom _
  · split_ifs at h
    obtain rfl := Option.some.inj h
    exact fits_escaped hroom _

lemma State.Fits.step (h : st.Fits n) (hs : st.step c = some st') : st'.Fits (n + 1) := by
  obtain ⟨frames, expected, mode⟩ := st
  obtain ⟨hf, he, hm⟩ := h
  have hle : n ≤ n + 1 := Nat.le_succ n
  have hf' := fits_frames hf hle
  have he' := he.mono hle
  cases mode with
  | idle => exact State.Fits.punct (fits_idle hf he) hs
  | bare token =>
    simp only [State.step] at hs
    split_ifs at hs
    · obtain ⟨value, hvalue, hs⟩ := Option.bind_eq_some_iff.mp hs
      exact State.Fits.punct (fits_idle hf (bareValue_fits hvalue)) hs
    · obtain rfl := Option.some.inj hs
      exact ⟨hf', he', trivial⟩
  | text chars =>
    simp only [State.step] at hs
    split_ifs at hs with hquote hbackslash hcontrol
    · rw [Mode.Fits, ← String.toList_ofList (l := chars)] at hm
      exact State.Fits.close hf he hm hs
    · obtain rfl := Option.some.inj hs
      exact ⟨hf', he', Nat.succ_le_succ hm⟩
    · obtain rfl := Option.some.inj hs
      have hplain : width c = 1 := if_pos ⟨hquote, hbackslash, Nat.le_of_not_lt hcontrol⟩
      refine ⟨hf', he', ?_⟩
      rw [Mode.Fits, room_append, room_singleton, hplain]
      exact Nat.succ_le_succ hm
  | escape chars =>
    simp only [State.step] at hs
    split_ifs at hs
    · obtain rfl := Option.some.inj hs
      exact ⟨hf', he', hm.trans hle⟩
    · obtain ⟨d, _, rfl⟩ := Option.map_eq_some_iff.mp hs
      exact ⟨hf', he', fits_escaped hm d⟩
  | hex chars lead count code =>
    obtain ⟨digit, _, hs⟩ := Option.bind_eq_some_iff.mp hs
    split_ifs at hs
    · obtain rfl := Option.some.inj hs
      exact ⟨hf', he', hm.trans hle⟩
    · obtain ⟨mode, hmode, rfl⟩ := Option.map_eq_some_iff.mp hs
      exact ⟨hf', he', decoded_fits hm hmode⟩
  | pair chars lead =>
    simp only [State.step] at hs
    split_ifs at hs
    obtain rfl := Option.some.inj hs
    exact ⟨hf', he', hm.trans hle⟩
  | pairEscape chars lead =>
    simp only [State.step] at hs
    split_ifs at hs
    obtain rfl := Option.some.inj hs
    exact ⟨hf', he', hm.trans hle⟩

lemma State.Fits.run {cs : List Char} (h : st.Fits n) (hs : st.run cs = some st') :
    st'.Fits (n + cs.length) := by
  induction cs generalizing n st with
  | nil =>
    obtain rfl := Option.some.inj hs
    exact h
  | cons c cs ih =>
    rw [run_cons] at hs
    obtain ⟨st₁, hstep, hs⟩ := Option.bind_eq_some_iff.mp hs
    have h := ih (h.step hstep) hs
    rwa [Nat.add_assoc, Nat.add_comm 1] at h

lemma fits_start : start.Fits 0 := fits_idle (by simp) trivial

lemma result_of_step {fields : List (String × Value)} (hs : st.step '\n' = some st')
    (hr : st'.result = some (.object fields)) : st.expected = .next (.object fields) := by
  obtain ⟨frames, expected, mode⟩ := st
  have hresult : ∀ {frames expected}, State.result ⟨frames, expected, .idle⟩ =
      some (.object fields) → expected = .next (.object fields) := by
    intro frames expected h
    unfold State.result at h
    split at h
    · next heq =>
      cases heq
      rw [Option.some.inj h]
    · cases h
  cases mode with
  | idle =>
    obtain rfl := Option.some.inj hs
    exact hresult hr
  | bare token =>
    obtain ⟨value, hvalue, hs⟩ := Option.bind_eq_some_iff.mp hs
    obtain rfl := Option.some.inj hs
    have hobject := hresult hr
    cases hobject
    unfold bareValue at hvalue
    split_ifs at hvalue <;> cases hvalue
  | text chars => cases hs
  | escape chars => cases hs
  | hex chars lead count code => cases hs
  | pair chars lead => cases hs
  | pairEscape chars lead => cases hs

theorem room_le_length {text key s : String} {value : Value} (h : read text = some value)
    (hget : value.get key = some (.string s)) :
    room key.toList + room s.toList + 7 ≤ text.toList.length := by
  cases value with
  | object fields =>
    obtain ⟨⟨key', value'⟩, hfind, rfl⟩ := Option.map_eq_some_iff.mp hget
    obtain rfl : key' = key := by simpa using List.find?_some hfind
    have hmem := List.mem_of_find?_eq_some hfind
    obtain ⟨st', hread, hr⟩ := Option.bind_eq_some_iff.mp h
    rw [run_append] at hread
    obtain ⟨st, hrun, hend⟩ := Option.bind_eq_some_iff.mp hread
    obtain ⟨st'', hstep, heq⟩ := Option.bind_eq_some_iff.mp hend
    obtain rfl := Option.some.inj heq
    have hfits := (fits_start.run hrun).expected
    rw [result_of_step hstep hr, Nat.zero_add] at hfits
    have hroom := hfits key' s hmem
    omega
  | _ => cases hget

end

end GreenticDw.JsonReader

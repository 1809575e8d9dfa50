import GreenticDw.Text.Boundaries

/-! The part of a text from the first of its opening characters to the last of its closing ones. -/

namespace GreenticDw.Text

def startAt (opens cs : List Char) : ℕ := (find (· ∈ opens) cs).getD 0

def stopAfter (closes cs : List Char) : ℕ :=
  ((rfind (· ∈ closes) cs).map (· + 1)).getD (byteLen cs)

def between (opens closes : List Char) (text : String) : Option String :=
  let cs := text.toList
  let start := startAt opens cs
  let stop := stopAfter closes cs
  if start < stop then (slice cs start stop).map String.ofList else some text

lemma byteLen_ne_zero {cs : List Char} (h : cs ≠ []) : byteLen cs ≠ 0 := by
  obtain ⟨c, cs, rfl⟩ := List.exists_cons_of_ne_nil h
  have := c.utf8Size_pos
  rw [byteLen_cons]
  omega

section Search

variable {p : Char → Bool} {c : Char} {cs front back : List Char}

lemma find_append (hfront : ∀ d ∈ front, p d = false) (hc : p c = true) :
    find p (front ++ c :: back) = some (byteLen front) := by
  induction front with
  | nil => simp [find, hc]
  | cons d front ih =>
    rw [List.forall_mem_cons] at hfront
    rw [List.cons_append, find, hfront.1, ih hfront.2, byteLen_cons, Nat.add_comm]
    rfl

lemma find_eq_none (h : ∀ c ∈ cs, p c = false) : find p cs = none := by
  induction cs with
  | nil => rfl
  | cons c cs ih =>
    rw [List.forall_mem_cons] at h
    rw [find, h.1, ih h.2]
    rfl

lemma rfind_eq_none (h : ∀ c ∈ cs, p c = false) : rfind p cs = none := by
  induction cs with
  | nil => rfl
  | cons c cs ih =>
    rw [List.forall_mem_cons] at h
    simp [rfind, h.1, ih h.2]

lemma rfind_append (hc : p c = true) (hback : ∀ d ∈ back, p d = false) :
    rfind p (front ++ c :: back) = some (byteLen front) := by
  induction front with
  | nil => simp [rfind, hc, rfind_eq_none hback]
  | cons d front ih =>
    rw [List.cons_append, rfind, ih, byteLen_cons, Nat.add_comm]

lemma first_cases (q : Char → Prop) (cs : List Char) :
    (∀ c ∈ cs, ¬ q c) ∨ ∃ front c back, cs = front ++ c :: back ∧ q c ∧ ∀ d ∈ front, ¬ q d := by
  classical
  cases hfind : cs.find? (fun c => decide (q c)) with
  | none =>
    left
    simpa using List.find?_eq_none.mp hfind
  | some c =>
    obtain ⟨hc, front, back, hcs, hfront⟩ := List.find?_eq_some_iff_append.mp hfind
    right
    exact ⟨front, c, back, hcs, of_decide_eq_true hc, by simpa using hfront⟩

lemma last_cases (q : Char → Prop) (cs : List Char) :
    (∀ c ∈ cs, ¬ q c) ∨ ∃ front c back, cs = front ++ c :: back ∧ q c ∧ ∀ d ∈ back, ¬ q d := by
  obtain hnone | ⟨front, c, back, hcs, hc, hfront⟩ := first_cases q cs.reverse
  · left
    exact fun c hc => hnone c (List.mem_reverse.mpr hc)
  · right
    refine ⟨back.reverse, c, front.reverse, ?_, hc, fun d hd => hfront d (List.mem_reverse.mp hd)⟩
    rw [← List.reverse_reverse cs, hcs]
    simp

end Search

lemma sliceFrom_append (front mid : List Char) :
    sliceFrom (front ++ mid) (byteLen front) = some mid := by
  induction front with
  | nil => cases mid <;> rfl
  | cons c front ih =>
    obtain ⟨n, hn⟩ : ∃ n, byteLen (c :: front) = n + 1 :=
      Nat.exists_eq_succ_of_ne_zero (byteLen_ne_zero (List.cons_ne_nil c front))
    rw [byteLen_cons] at hn
    have hle : c.utf8Size ≤ n + 1 := by omega
    have hrest : n + 1 - c.utf8Size = byteLen front := by omega
    rw [List.cons_append, byteLen_cons, hn]
    simp only [sliceFrom, if_pos hle, hrest, ih]

lemma slice_append (front mid back : List Char) :
    slice (front ++ mid ++ back) (byteLen front) (byteLen (front ++ mid)) = some mid := by
  have hto : sliceTo (front ++ mid ++ back) (byteLen (front ++ mid)) = some (front ++ mid) :=
    sliceTo_eq_some.mpr ⟨back, rfl, rfl⟩
  simp only [slice, hto, Option.bind_eq_bind, Option.bind_some, sliceFrom_append]

section

variable {opens closes : List Char} {text : String} {cs front mid back : List Char} {c : Char}

lemma startAt_append (hfront : ∀ d ∈ front, d ∉ opens) (hc : c ∈ opens) :
    startAt opens (front ++ c :: back) = byteLen front := by
  rw [startAt, find_append (fun d hd => decide_eq_false (hfront d hd)) (decide_eq_true hc)]
  rfl

lemma startAt_eq_zero (h : ∀ c ∈ cs, c ∉ opens) : startAt opens cs = 0 := by
  rw [startAt, find_eq_none fun c hc => decide_eq_false (h c hc)]
  rfl

lemma stopAfter_append (narrow : ∀ c ∈ closes, c.utf8Size = 1) (hc : c ∈ closes)
    (hback : ∀ d ∈ back, d ∉ closes) :
    stopAfter closes (front ++ c :: back) = byteLen (front ++ [c]) := by
  rw [stopAfter, rfind_append (decide_eq_true hc) fun d hd => decide_eq_false (hback d hd),
    byteLen_append front [c], byteLen_cons, narrow c hc]
  rfl

lemma stopAfter_eq_byteLen (h : ∀ c ∈ cs, c ∉ closes) : stopAfter closes cs = byteLen cs := by
  rw [stopAfter, rfind_eq_none fun c hc => decide_eq_false (h c hc)]
  rfl

lemma exists_start (opens cs : List Char) : ∃ front back, cs = front ++ back ∧
    startAt opens cs = byteLen front ∧
    ∀ mid, mid <+: back → mid ≠ [] → startAt opens mid = 0 := by
  obtain hnone | ⟨front, c, back, rfl, hc, hfront⟩ := first_cases (· ∈ opens) cs
  · refine ⟨[], cs, rfl, startAt_eq_zero hnone, fun mid hmid _ => ?_⟩
    exact startAt_eq_zero fun c hc => hnone c (hmid.subset hc)
  · refine ⟨front, c :: back, rfl, startAt_append hfront hc, fun mid hmid hne => ?_⟩
    obtain ⟨d, mid, rfl⟩ := List.exists_cons_of_ne_nil hne
    obtain ⟨rfl, -⟩ := List.cons_prefix_cons.mp hmid
    have hnil : ∀ e ∈ ([] : List Char), e ∉ opens := List.forall_mem_nil _
    exact startAt_append hnil hc

lemma exists_stop (narrow : ∀ c ∈ closes, c.utf8Size = 1) (cs : List Char) :
    ∃ front back, cs = front ++ back ∧ stopAfter closes cs = byteLen front ∧
      ∀ mid, mid <:+ front → mid ≠ [] → stopAfter closes mid = byteLen mid := by
  obtain hnone | ⟨front, c, back, rfl, hc, hback⟩ := last_cases (· ∈ closes) cs
  · refine ⟨cs, [], (List.append_nil cs).symm, stopAfter_eq_byteLen hnone, fun mid hmid _ => ?_⟩
    exact stopAfter_eq_byteLen fun c hc => hnone c (hmid.subset hc)
  · refine ⟨front ++ [c], back, by simp, stopAfter_append narrow hc hback, fun mid hmid hne => ?_⟩
    obtain hnil | ⟨kept, rfl, -⟩ := List.suffix_concat_iff.mp hmid
    · exact absurd hnil hne
    · exact stopAfter_append narrow hc (List.forall_mem_nil _)

lemma between_of_slice (hne : mid ≠ []) (hsplit : text.toList = front ++ mid ++ back)
    (hstart : startAt opens text.toList = byteLen front)
    (hstop : stopAfter closes text.toList = byteLen (front ++ mid)) :
    between opens closes text = some (String.ofList mid) := by
  have hlt : byteLen front < byteLen (front ++ mid) := by
    rw [byteLen_append]
    have := byteLen_ne_zero hne
    omega
  simp only [between, hstart, hstop, if_pos hlt]
  rw [hsplit, slice_append]
  rfl

/-- The document stands in the text with nothing before it that opens and nothing after it that
closes. -/
structure Framed (opens closes : List Char) (before document after : String) : Prop where
  before_opens : ∀ c ∈ before.toList, c ∉ opens
  document_opens : ∃ c cs, document.toList = c :: cs ∧ c ∈ opens
  document_closes : ∃ cs c, document.toList = cs ++ [c] ∧ c ∈ closes
  after_closes : ∀ c ∈ after.toList, c ∉ closes

theorem between_of_framed {before document after : String}
    (narrow : ∀ c ∈ closes, c.utf8Size = 1) (h : Framed opens closes before document after) :
    between opens closes (before ++ document ++ after) = some document := by
  obtain ⟨c, cs, hcs, hc⟩ := h.document_opens
  obtain ⟨ds, d, hds, hd⟩ := h.document_closes
  have hsplit : (before ++ document ++ after).toList =
      before.toList ++ document.toList ++ after.toList := by
    rw [String.toList_append, String.toList_append]
  have hne : document.toList ≠ [] := by
    rw [hcs]
    exact List.cons_ne_nil c cs
  have hstart : startAt opens (before ++ document ++ after).toList = byteLen before.toList := by
    rw [hsplit, hcs, List.append_assoc, List.cons_append]
    exact startAt_append h.before_opens hc
  have hstop : stopAfter closes (before ++ document ++ after).toList =
      byteLen (before.toList ++ document.toList) := by
    rw [hsplit, hds, ← List.append_assoc, List.append_assoc, List.singleton_append]
    exact stopAfter_append narrow hd h.after_closes
  rw [between_of_slice hne hsplit hstart hstop, String.ofList_toList]

theorem between_part (narrow : ∀ c ∈ closes, c.utf8Size = 1) (text : String) :
    ∃ before part after, text = before ++ part ++ after ∧
      between opens closes text = some part ∧ between opens closes part = some part := by
  obtain ⟨front, rest, hfront, hstart, hmidStart⟩ := exists_start opens text.toList
  obtain ⟨upto, back, hupto, hstop, hmidStop⟩ := exists_stop narrow text.toList
  by_cases hlt : startAt opens text.toList < stopAfter closes text.toList
  · rw [hstart, hstop] at hlt
    obtain ⟨mid, rfl, rfl⟩ | ⟨mid, rfl, -⟩ := List.append_eq_append_iff.mp (hfront.symm.trans hupto)
    · have hne : mid ≠ [] := by
        rintro rfl
        rw [List.append_nil] at hlt
        exact lt_irrefl _ hlt
      have hsplit : text.toList = front ++ mid ++ back := hupto
      refine ⟨String.ofList front, String.ofList mid, String.ofList back, ?_,
        between_of_slice hne hsplit hstart hstop, ?_⟩
      · rw [← String.toList_inj, hsplit]
        simp
      · have hwhole : (String.ofList mid).toList = [] ++ mid ++ [] := by simp
        apply between_of_slice hne hwhole
        · rw [String.toList_ofList]
          exact hmidStart mid (List.prefix_append mid back) hne
        · rw [String.toList_ofList]
          exact hmidStop mid (List.suffix_append front mid) hne
    · rw [byteLen_append] at hlt
      omega
  · have hwhole : between opens closes text = some text := by
      simp only [between, if_neg hlt]
    exact ⟨"", text, "", by simp, hwhole, hwhole⟩

end

end GreenticDw.Text

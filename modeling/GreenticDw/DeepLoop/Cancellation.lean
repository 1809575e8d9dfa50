import GreenticDw.DeepLoop.Lifecycle

namespace GreenticDw

namespace Call

variable {σ : Type}

def leaves : Call σ → Option TaskLifecycleState
  | .operation _ _ state => some state
  | .tick _ state => some state
  | _ => none

def Acts : Call σ → Prop
  | .executeStep _ _ _ => True
  | .createArtifact _ _ _ => True
  | .startSubtask _ _ _ => True
  | _ => False

end Call

namespace DeepLoopCoordinator

variable {σ : Type} {c : DeepLoopCoordinator σ}

def Halted (entry : TaskLifecycleState) (h : List (Call σ)) : Prop :=
  entry.isTerminal = true ∨ ∃ x ∈ h, ∃ state, x.leaves = some state ∧ state.isTerminal = true

def Honoured (entry : TaskLifecycleState) (h : List (Call σ)) (x : Call σ) : Prop :=
  x.Acts → ¬Halted entry h

def TicksAlive (t : List (Call σ)) : Prop :=
  ∀ events state, .tick (.ok events) state ∈ t → state.isTerminal = false

def tickAlive : Call σ → Bool
  | .tick (.ok _) state => state.isTerminal = false
  | _ => true

instance (t : List (Call σ)) : Decidable (TicksAlive t) :=
  decidable_of_iff (t.all tickAlive = true) <| by
    rw [List.all_eq_true]
    constructor
    · exact fun h events state hm => of_decide_eq_true (h _ hm)
    · intro h x hx
      unfold tickAlive
      split
      · exact decide_eq_true (h _ _ hx)
      · rfl

variable {entry : TaskLifecycleState} {t u h : List (Call σ)}

lemma halted_append :
    Halted entry (h ++ t) ↔
      Halted entry h ∨ ∃ x ∈ t, ∃ state, x.leaves = some state ∧ state.isTerminal = true := by
  simp only [Halted, List.mem_append, or_and_right, exists_or, or_assoc]

lemma ticksAlive_append : TicksAlive (t ++ u) ↔ TicksAlive t ∧ TicksAlive u := by
  simp only [TicksAlive, List.mem_append, or_imp, forall_and]

lemma always_honoured (ht : ∀ x ∈ t, ¬x.Acts) : Always (Honoured entry) h t :=
  always_of_forall fun x hx _ ha => (ht x hx ha).elim

lemma not_acts_of_mediating (ht : ∀ x ∈ t, x.Mediating) : ∀ x ∈ t, ¬x.Acts := by
  intro x hx
  have := ht x hx
  cases x <;> first | exact id | exact this.elim

lemma not_acts_of_quiet (ht : ∀ x ∈ t, x.Quiet) : ∀ x ∈ t, ¬x.Acts := by
  intro x hx
  have := ht x hx
  cases x <;> first | exact id | exact this.elim

structure HonouredFrom (entry : TaskLifecycleState) (h : List (Call σ)) (o : Ran σ) : Prop where
  iff : Always (Honoured entry) h o.trace ↔ TicksAlive o.trace
  next : ∀ s, o.result = .ok (.next s) → Halted entry (h ++ o.trace) →
    o.world.envelope.state.isTerminal = true

def HaltsTerminal (entry : TaskLifecycleState) (_ : LoopState) (w : World σ) (o : Ran σ) : Prop :=
  ∀ h, (Halted entry h → w.envelope.state.isTerminal = true) → HonouredFrom entry h o

section

variable {s s₁ : LoopState} {action : PlannedAction} {step : PlanStep}
  {stepContext : Option String} {w : World σ} {o : Ran σ}

structure Alive (entry : TaskLifecycleState) (h : List (Call σ)) (o : Ran σ) : Prop where
  honoured : Always (Honoured entry) h o.trace
  ticks : TicksAlive o.trace
  next : ∀ s, o.result = .ok (.next s) → ¬Halted entry (h ++ o.trace)

lemma Alive.honouredFrom (ha : Alive entry h o) : HonouredFrom entry h o :=
  ⟨iff_of_true ha.honoured ha.ticks, fun s hr hh => (ha.next s hr hh).elim⟩

def Harmless (x : Call σ) : Prop :=
  ¬x.Acts ∧ ∀ state, x.leaves = some state → state.isTerminal = false

lemma not_halted_append (hh : ¬Halted entry h) (ht : ∀ x ∈ t, Harmless x) :
    ¬Halted entry (h ++ t) := by
  rw [halted_append]
  rintro (hh' | ⟨x, hx, state, hl, hs⟩)
  · exact hh hh'
  · simp [(ht x hx).2 state hl] at hs

lemma Alive.after (ht : ∀ x ∈ t, Harmless x) (ho : Alive entry (h ++ t) o) :
    Alive entry h (o.after t) where
  honoured := (always_append _ _ _).mpr ⟨always_honoured fun x hx => (ht x hx).1, ho.honoured⟩
  ticks := by
    refine ticksAlive_append.mpr ⟨fun events state hm => ?_, ho.ticks⟩
    exact (ht _ hm).2 state rfl
  next s hr := by simpa using ho.next s hr

lemma Alive.stopped {e : DeepLoopError} {w' : World σ} (ht : ∀ x ∈ t, ¬x.Acts)
    (hn : TicksAlive t) : Alive entry h (⟨.error e, w', t⟩ : Ran σ) :=
  ⟨always_honoured ht, hn, by simp⟩

lemma ticksAlive_refusal {t : List RuntimeCall} {operation : RuntimeOperation} {e : RuntimeError} :
    TicksAlive (refusal t operation e w) := by
  simp [TicksAlive, refusal]

lemma ticksAlive_authorised {before after : TaskEnvelope} {event : RuntimeEvent} :
    TicksAlive (c.authorised before event after) := by
  simp [TicksAlive, authorised]

lemma harmless_choose {m : Moment σ} {r : DelegationRequest}
    {d : Except DelegationError DelegationDecision} : Harmless (.chooseDelegate m r d) :=
  ⟨id, by simp [Call.leaves]⟩

lemma Emitted.alive {subtask : SubtaskEnvelope} (he : c.Emitted s step subtask w o)
    (hh : ¬Halted entry h) : Alive entry h o := by
  cases he with
  | refused _ => exact ⟨by simp [Honoured, hh], by simp [TicksAlive], by simp⟩
  | unrecorded _ _ =>
    exact ⟨⟨fun _ => hh, fun ha => ha.elim, trivial⟩, by simp [TicksAlive], by simp⟩
  | emitted _ _ =>
    refine ⟨⟨fun _ => hh, fun ha => ha.elim, trivial⟩, by simp [TicksAlive], fun s _ hn => ?_⟩
    simp [halted_append, hh, Call.leaves] at hn

lemma Closed.honouredFrom {operation : RuntimeOperation} {report : DeepLoopRun}
    (hc : c.Closed operation report w o) :
    Always (Honoured entry) h o.trace ∧ TicksAlive o.trace ∧ ∀ s, o.result ≠ .ok (.next s) := by
  cases hc with
  | refused _ =>
    exact ⟨always_honoured (not_acts_of_mediating refusal_mediating), ticksAlive_refusal, by simp⟩
  | closed _ =>
    exact ⟨always_honoured (not_acts_of_mediating c.authorised_mediating), ticksAlive_authorised,
      by simp⟩

lemma Delegated.alive (hd : c.Delegated s step w o)
    (hw : Halted entry h → w.envelope.state.isTerminal = true) : Alive entry h o := by
  cases hd with
  | unchosen _ => exact .stopped (by simp [Call.Acts]) (by simp [TicksAlive])
  | refused _ _ _ =>
    refine .stopped (List.forall_mem_cons.mpr ⟨id, not_acts_of_mediating refusal_mediating⟩) ?_
    exact ticksAlive_append (t := [_]).mpr ⟨by simp [TicksAlive], ticksAlive_refusal⟩
  | @handed decision event envelope env env' o _ hc he =>
    obtain ⟨hl, _, hf, ht, henv⟩ := Core.applyOperation_ok hc
    have hh : ¬Halted entry h := by
      intro hh
      have hstate := hl.terminal (hf ▸ hw hh)
      rw [ht, hf] at hstate
      have hterm := hw hh
      rw [← hstate] at hterm
      cases hterm
    have hharm : ∀ x ∈ Call.chooseDelegate ⟨s.plan, step, w⟩ (delegationRequest step step.title)
        (.ok decision) :: c.authorised w.envelope event envelope, Harmless x := by
      refine List.forall_mem_cons.mpr ⟨harmless_choose, fun x hx => ⟨?_, fun state hs => ?_⟩⟩
      · exact not_acts_of_mediating c.authorised_mediating x hx
      · simp only [authorised, List.mem_append, List.mem_map, List.mem_singleton] at hx
        rcases hx with ⟨r, _, rfl⟩ | rfl
        · cases hs
        · cases hs
          rw [henv, ht]
          rfl
    exact (he.alive (not_halted_append hh hharm)).after hharm

lemma Judged.alive {verdict : ReviewVerdict} (hj : c.Judged s step stepContext w verdict o)
    (hh : ¬Halted entry h) : Alive entry h o := by
  have hnext : ∀ {x : Call σ}, x.leaves = none → ¬Halted entry (h ++ [x]) := by
    intro x hx hn
    simp [halted_append, hh, hx] at hn
  cases hj with
  | unrecorded _ _ => exact .stopped (by simp [Call.Acts]) (by simp [TicksAlive])
  | recorded _ _ => exact ⟨by simp [Honoured, Call.Acts], by simp [TicksAlive], fun _ _ => hnext rfl⟩
  | unrevised _ => exact .stopped (by simp [Call.Acts]) (by simp [TicksAlive])
  | revised _ => exact ⟨by simp [Honoured, Call.Acts], by simp [TicksAlive], by simp⟩
  | unchosen _ => exact .stopped (by simp [Call.Acts]) (by simp [TicksAlive])
  | @handed decision env o _ he =>
    have hharm : ∀ x ∈ [.chooseDelegate ⟨s.plan, step, w⟩
        (delegationRequest step ("review " ++ step.title)) (.ok decision)], Harmless x :=
      List.forall_mem_singleton.mpr harmless_choose
    exact (he.alive (not_halted_append hh hharm)).after hharm
  | failed hc =>
    obtain ⟨ha, ht, hn⟩ := @Closed.honouredFrom _ c entry h _ _ _ _ hc
    exact ⟨ha, ht, fun s hr => (hn s hr).elim⟩

lemma Alive.working (hh : ¬Halted entry h) (ht : ∀ x ∈ t, x.leaves = none)
    (ho : Alive entry (h ++ t) o) : Alive entry h (o.after t) where
  honoured := by
    refine (always_append _ _ _).mpr ⟨(always_iff _ _).mpr ?_, ho.honoured⟩
    rintro pre x post rfl _ hn
    obtain hn | ⟨y, hy, state, hs, _⟩ := halted_append.mp hn
    · exact hh hn
    · simp [ht y (by simp [hy])] at hs
  ticks := by
    refine ticksAlive_append.mpr ⟨fun events state hm => ?_, ho.ticks⟩
    cases ht _ hm
  next s hr := by simpa using ho.next s hr

lemma Produced.leaves {body : String} {env : σ} {calls : List (Call σ)}
    (hp : c.Produced s step stepContext w body s₁ env calls) : ∀ x ∈ calls, x.leaves = none := by
  cases hp <;> simp [Call.leaves]

lemma Alive.failed {e : DeepLoopError} {w' : World σ} (hh : ¬Halted entry h)
    (ht : ∀ x ∈ t, x.leaves = none) : Alive entry h (⟨.error e, w', t⟩ : Ran σ) := by
  have ho : Alive entry (h ++ t) (⟨.error e, w', []⟩ : Ran σ) :=
    .stopped (by simp) (by simp [TicksAlive])
  simpa using ho.working hh ht

lemma not_halted_of_leaves (hh : ¬Halted entry h) (ht : ∀ x ∈ t, x.leaves = none) :
    ¬Halted entry (h ++ t) := by
  rw [halted_append]
  rintro (hh' | ⟨x, hx, state, hs, _⟩)
  · exact hh hh'
  · simp [ht x hx] at hs

lemma Worked.alive (hw : c.Worked s action step stepContext w o) (hh : ¬Halted entry h) :
    Alive entry h o := by
  have hcalls : ∀ {body s₁ env calls t}, c.Produced s step stepContext w body s₁ env calls →
      (∀ x ∈ t, x.leaves = none) → ∀ x ∈ calls ++ t, x.leaves = none :=
    fun hp ht => List.forall_mem_append.mpr ⟨hp.leaves, ht⟩
  cases hw with
  | unexecuted _ _ => exact .failed hh (by simp [Call.leaves])
  | unstored hp _ => exact .failed hh (hcalls hp (by simp [Call.leaves]))
  | unreviewed hp _ _ => exact .failed hh (hcalls hp (by simp [Call.leaves]))
  | invalid hp _ _ _ => exact .failed hh (hcalls hp (by simp [Call.leaves]))
  | judged hp _ _ _ hj =>
    refine (hj.alive (not_halted_of_leaves hh ?_)).working hh ?_ <;>
      exact hcalls hp (by simp [Call.leaves])

lemma Worked.acts (hw : c.Worked s action step stepContext w o) :
    ∃ x u, o.trace = x :: u ∧ x.Acts := by
  have hcalls : ∀ {body s₁ env calls t r a}, c.Produced s step stepContext w body s₁ env calls →
      ∃ x u, calls ++ .createArtifact ⟨s.plan, step, w.withEnv env⟩ r a :: t = x :: u ∧ x.Acts := by
    intro body s₁ env calls t r a hp
    cases hp with
    | placeholder _ => exact ⟨_, _, rfl, trivial⟩
    | executed _ _ => exact ⟨_, _, rfl, trivial⟩
  cases hw with
  | unexecuted _ _ => exact ⟨_, _, rfl, trivial⟩
  | unstored hp _ => exact hcalls hp
  | unreviewed hp _ _ => exact hcalls hp
  | invalid hp _ _ _ => exact hcalls hp
  | judged hp _ _ _ _ =>
    rw [Outcome.after_trace, List.append_assoc]
    exact hcalls hp

lemma Worked.next_envelope {s' : LoopState} (hw : c.Worked s action step stepContext w o)
    (hr : o.result = .ok (.next s')) : o.world.envelope = w.envelope := by
  cases hw with
  | unexecuted _ _ => cases hr
  | unstored _ _ => cases hr
  | unreviewed _ _ _ => cases hr
  | invalid _ _ _ _ => cases hr
  | judged _ _ _ _ hj =>
    generalize ReviewOutcome.verdict _ = verdict at hj
    cases hj with
    | unrecorded _ _ => cases hr
    | recorded _ _ => rfl
    | unrevised _ => cases hr
    | revised _ => cases hr
    | unchosen _ => cases hr
    | handed _ he => exact he.envelope
    | failed hc => cases hc <;> cases hr

lemma Executed.honouredFrom (he : c.Executed s action step stepContext w o)
    (hw : Halted entry h → w.envelope.state.isTerminal = true) : HonouredFrom entry h o := by
  cases he with
  | refused _ =>
    refine Alive.honouredFrom (.stopped (not_acts_of_mediating ticking_mediating) ?_)
    simp [TicksAlive, ticking]
  | @ticked events w' t o ht hwork =>
    have htick : w.envelope.state.isTerminal = true → w'.envelope.state.isTerminal = true := by
      intro hterm
      have := c.runtime.tick_terminal hterm
      rw [ht] at this
      exact this ▸ hterm
    cases hs : w'.envelope.state.isTerminal with
    | true =>
      -- the task has halted by the end of the tick, and the step goes on to act
      have hmem : .tick (.ok events) w'.envelope.state ∈ ticking t (.ok events) w' := by
        simp [ticking]
      refine ⟨iff_of_false (fun ha => ?_) (fun ha => ?_), fun s hr _ => ?_⟩
      · obtain ⟨x, u, htrace, hx⟩ := hwork.acts
        rw [Outcome.after_trace, always_append, htrace] at ha
        exact ha.2.1 hx (halted_append.mpr (Or.inr ⟨_, hmem, _, rfl, hs⟩))
      · have := ha events _ (List.mem_append_left _ hmem)
        rw [hs] at this
        cases this
      · rw [Outcome.after_world, hwork.next_envelope hr]
        exact hs
    | false =>
      have hharm : ∀ x ∈ ticking t (.ok events) w', Harmless x := by
        refine fun x hx => ⟨not_acts_of_mediating ticking_mediating x hx, fun state hl => ?_⟩
        simp only [ticking, List.mem_append, List.mem_map, List.mem_singleton] at hx
        rcases hx with ⟨r, _, rfl⟩ | rfl
        · cases hl
        · cases hl
          exact hs
      have hh : ¬Halted entry h := fun hh => by simp [htick (hw hh)] at hs
      exact ((hwork.alive (not_halted_append hh hharm)).after hharm).honouredFrom

lemma HonouredFrom.quiet (ht : ∀ x ∈ t, x.Quiet) (ho : HonouredFrom entry (h ++ t) o) :
    HonouredFrom entry h (o.after t) where
  iff := by
    have hn : TicksAlive t := fun _ _ hm => (ht _ hm).elim
    rw [Outcome.after_trace, always_append, ticksAlive_append, ho.iff, and_iff_right hn,
      and_iff_right (always_honoured (not_acts_of_quiet ht))]
  next s hr hh := by
    rw [Outcome.after_trace, ← List.append_assoc] at hh
    exact ho.next s hr hh

lemma halted_quiet (ht : ∀ x ∈ t, x.Quiet) : Halted entry (h ++ t) ↔ Halted entry h := by
  rw [halted_append, or_iff_left]
  rintro ⟨x, hx, state, hs, _⟩
  have := ht x hx
  cases x <;> first | exact this.elim | cases hs

lemma HaltsTerminal.after {v : World σ} (ht : ∀ x ∈ t, x.Quiet)
    (hw : v.envelope = w.envelope) (ho : HaltsTerminal entry s v o) :
    HaltsTerminal entry s w (o.after t) := by
  intro h hh
  refine (ho (h ++ t) fun hh' => ?_).quiet ht
  rw [hw]
  exact hh ((halted_quiet ht).mp hh')

lemma haltsTerminal_halt {e : DeepLoopError} {w' : World σ} (ht : ∀ x ∈ t, x.Quiet) :
    HaltsTerminal entry s w ⟨.error e, w', t⟩ :=
  fun _ _ => Alive.honouredFrom
    (.stopped (not_acts_of_quiet ht) fun _ _ hm => (ht _ hm).elim)

lemma Acted.haltsTerminal (ha : c.Acted s action w o) : HaltsTerminal entry s w o := by
  cases ha with
  | missing _ => exact haltsTerminal_halt (by simp)
  | noContext _ => exact haltsTerminal_halt (by simp [Call.Quiet])
  | @delegated step package env o _ _ _ hd =>
    exact HaltsTerminal.after (v := w.withEnv env) (by simp [Call.Quiet]) rfl
      fun h hw => (hd.alive hw).honouredFrom
  | @executed step package env o _ _ _ he =>
    exact HaltsTerminal.after (v := w.withEnv env) (by simp [Call.Quiet]) rfl
      fun h hw => he.honouredFrom hw

lemma Settled.haltsTerminal {planContext : Option String} (hs : c.Settled s planContext w o) :
    HaltsTerminal entry s w o := by
  intro h hw
  have hclosed : ∀ {operation report w t o}, (∀ x ∈ t, ¬x.Acts) → TicksAlive t →
      c.Closed operation report w o → HonouredFrom entry h (o.after t) := by
    intro operation report w t o ht hn hc
    obtain ⟨ha, hn', hnext⟩ := @Closed.honouredFrom _ c entry (h ++ t) _ _ _ _ hc
    exact ⟨iff_of_true ((always_append _ _ _).mpr ⟨always_honoured ht, ha⟩)
      (ticksAlive_append.mpr ⟨hn, hn'⟩), fun s hr => (hnext s hr).elim⟩
  have hcheck : ∀ r a, (∀ x ∈ ([.evaluateCompletion r a] : List (Call σ)), ¬x.Acts) ∧
      TicksAlive ([.evaluateCompletion r a] : List (Call σ)) := by
    simp [Call.Acts, TicksAlive]
  have hfinal : ∀ r a q b,
      (∀ x ∈ ([.evaluateCompletion r a, .reviewFinal q b] : List (Call σ)), ¬x.Acts) ∧
      TicksAlive ([.evaluateCompletion r a, .reviewFinal q b] : List (Call σ)) := by
    simp [Call.Acts, TicksAlive]
  cases hs with
  | delegating _ => exact ⟨by simp [TicksAlive], by simp⟩
  | unchecked _ _ => exact Alive.honouredFrom (.stopped (hcheck _ _).1 (hcheck _ _).2)
  | incomplete _ _ =>
    refine ⟨iff_of_true (always_honoured (hcheck _ _).1) (hcheck _ _).2, fun s _ hh => hw ?_⟩
    simpa [halted_append, Call.leaves] using hh
  | unsatisfied _ _ hc => exact hclosed (hcheck _ _).1 (hcheck _ _).2 hc
  | unreviewed _ _ _ => exact Alive.honouredFrom (.stopped (hfinal _ _ _ _).1 (hfinal _ _ _ _).2)
  | invalid _ _ _ _ => exact Alive.honouredFrom (.stopped (hfinal _ _ _ _).1 (hfinal _ _ _ _).2)
  | failed _ _ _ _ _ hc => exact hclosed (hfinal _ _ _ _).1 (hfinal _ _ _ _).2 hc
  | completed _ _ _ _ _ hc => exact hclosed (hfinal _ _ _ _).1 (hfinal _ _ _ _).2 hc

end

lemma haltsTerminal_invariant (entry : TaskLifecycleState) :
    c.LoopInvariant (HaltsTerminal entry) where
  skip s _ _ hw := ⟨by simp [TicksAlive], fun s _ hh => hw (by simpa using hh)⟩
  seq := by
    intro s w s' w' t o ht ho h hw
    obtain ⟨hiff, hnext⟩ := ht h hw
    obtain ⟨hiff', hnext'⟩ := ho (h ++ t) (hnext s' rfl)
    refine ⟨?_, fun s'' hr hh => hnext' s'' hr ?_⟩
    · rw [Outcome.after_trace, always_append, ticksAlive_append, hiff']
      exact and_congr_left' hiff
    · rwa [Outcome.after_trace, ← List.append_assoc] at hh
  halt _ _ _ := haltsTerminal_halt (by simp)
  quiet ht ho := ho.after ht rfl
  acted h := h.haltsTerminal
  settled h := h.haltsTerminal

lemma run_honoured (plan : PlanDocument) (w : World σ) :
    Always (Honoured w.envelope.state) [] ((c.run plan).run w).trace ↔
      TicksAlive ((c.run plan).run w).trace := by
  refine (haltsTerminal_invariant w.envelope.state).run
    (P := fun o => Always (Honoured w.envelope.state) [] o.trace ↔ TicksAlive o.trace) ?_ ?_
  · intro e w' t hs
    apply iff_of_true (always_honoured (not_acts_of_mediating hs.mediating))
    cases hs with
    | refused _ _ => exact ticksAlive_refusal
  · intro w₁ t o hs ho
    have hacts := not_acts_of_mediating hs.mediating
    have hstart : TicksAlive t ∧
        (Halted w.envelope.state t → w₁.envelope.state.isTerminal = true) := by
      cases hs with
      | skipped _ => exact ⟨by simp [TicksAlive], fun hh => by simpa [Halted] using hh⟩
      | @started event envelope env hcreated hc =>
        refine ⟨ticksAlive_authorised, fun hh => ?_⟩
        obtain ⟨_, _, _, _, henv⟩ := Core.applyOperation_ok hc
        rcases hh with hh | ⟨x, hx, state, hl, hterm⟩
        · rw [hcreated] at hh
          cases hh
        · simp only [authorised, List.mem_append, List.mem_map, List.mem_singleton] at hx
          rcases hx with ⟨r, _, rfl⟩ | rfl
          · cases hl
          · cases hl
            exact hterm
    have hi := (ho t hstart.2).iff
    rw [Outcome.after_trace, Outcome.map_trace, always_append, ticksAlive_append]
    exact and_congr (iff_of_true (always_honoured hacts) hstart.1) hi

theorem cancellation_honoured (c : DeepLoopCoordinator σ) (plan : PlanDocument) (w : World σ) :
    Always (Honoured w.envelope.state) [] ((c.run plan).run w).trace ↔
      TicksAlive ((c.run plan).run w).trace :=
  run_honoured plan w

theorem cancelled_task_worked_on :
    ¬Always (Honoured .created) [] (Script.run ⟨.operation .cancel, .accept, .accept, 3⟩ .created
      [Script.step "a" .toolCall .ready [], Script.step "b" .toolCall .ready []]
      [[⟨"a", "go"⟩, ⟨"b", "go"⟩]]).trace := by
  rw [Script.run]
  exact fun h => absurd ((run_honoured _ ⟨_, Script.task .created⟩).mp h) (by decide)

end DeepLoopCoordinator

end GreenticDw

import GreenticDw.DeepLoop.Lifecycle

/-! Which calls of the deep loop pass the authority of the runtime before they are made. -/

namespace GreenticDw

namespace DeepLoopCoordinator

variable {σ : Type} (c : DeepLoopCoordinator σ)

def AfterTick (h : List (Call σ)) : Prop := ∃ events state, [.tick (.ok events) state] <:+ h

def Authorises (h : List (Call σ)) (targetAgent : String) : Prop :=
  ∃ before event after, c.authorised before event after <:+ h ∧
    event.operation = .delegate targetAgent ∧ event.Legal ∧ after.state = .delegated

/-- What directly precedes a call that acts on a step. -/
def Gated (h : List (Call σ)) : Call σ → Prop
  | .executeStep _ _ _ => AfterTick h
  | .createArtifact moment _ _ => AfterTick h ∨ ∃ g moment' request execution, AfterTick g ∧
      h = g ++ [.executeStep moment' request (.ok execution)] ∧ moment'.step = moment.step
  | .startSubtask _ request _ => c.Authorises h request.envelope.targetAgent
  | _ => True

def DelegatesPlanned (t : List (Call σ)) : Prop :=
  ∀ moment request decision, .chooseDelegate moment request (.ok decision) ∈ t →
    moment.step.kind = .delegate

def Passes (h t : List (Call σ)) : Prop := Always c.Gated h t ∧ DelegatesPlanned t

def GatedIff (t : List (Call σ)) : Prop := ∀ h, Always c.Gated h t ↔ DelegatesPlanned t

variable {c} {t u h : List (Call σ)}

def plannedChoice : Call σ → Bool
  | .chooseDelegate moment _ (.ok _) => moment.step.kind = .delegate
  | _ => true

instance (t : List (Call σ)) : Decidable (DelegatesPlanned t) :=
  decidable_of_iff (t.all plannedChoice = true) <| by
    rw [List.all_eq_true]
    constructor
    · exact fun h m r d hm => of_decide_eq_true (h _ hm)
    · intro h x hx
      unfold plannedChoice
      split
      · exact decide_eq_true (h _ _ _ hx)
      · rfl

lemma delegatesPlanned_append :
    DelegatesPlanned (t ++ u) ↔ DelegatesPlanned t ∧ DelegatesPlanned u := by
  simp only [DelegatesPlanned, List.mem_append, or_imp, forall_and]

lemma passes_append : c.Passes h (t ++ u) ↔ c.Passes h t ∧ c.Passes (h ++ t) u := by
  simp only [Passes, always_append, delegatesPlanned_append]
  tauto

lemma GatedIff.of_passes (ht : ∀ h, c.Passes h t) : c.GatedIff t :=
  fun h => iff_of_true (ht h).1 (ht h).2

lemma GatedIff.append (ht : c.GatedIff t) (hu : c.GatedIff u) : c.GatedIff (t ++ u) := by
  intro h
  rw [always_append, delegatesPlanned_append, ht h, hu (h ++ t)]

lemma passes_mediating (ht : ∀ x ∈ t, x.Mediating) : c.Passes h t := by
  refine ⟨always_of_forall fun x hx g => ?_, fun m r d hm => (ht _ hm).elim⟩
  have := ht x hx
  cases x <;> trivial

lemma afterTick_ticking (h : List (Call σ)) (t : List RuntimeCall) (events : List RuntimeEvent)
    (w : World σ) : AfterTick (h ++ ticking t (.ok events) w) :=
  ⟨events, w.envelope.state, (List.suffix_append _ _).trans (List.suffix_append _ _)⟩

lemma not_authorises_of_choose {m : Moment σ} {r : DelegationRequest}
    {d : Except DelegationError DelegationDecision} {target : String} :
    ¬c.Authorises (h ++ [.chooseDelegate m r d]) target := by
  rintro ⟨before, event, after, hs, _⟩
  have hl := hs.getLast (by simp [authorised])
  simp [authorised] at hl

section

variable {s s₁ : LoopState} {action : PlannedAction} {step : PlanStep}
  {stepContext : Option String} {w : World σ} {o : Ran σ}

lemma Emitted.gated {subtask : SubtaskEnvelope} (he : c.Emitted s step subtask w o) :
    Always c.Gated h o.trace ↔ c.Authorises h subtask.targetAgent := by
  cases he <;> simp [Gated]

lemma Emitted.delegatesPlanned {subtask : SubtaskEnvelope} (he : c.Emitted s step subtask w o) :
    DelegatesPlanned o.trace := by
  cases he <;> simp [DelegatesPlanned]

lemma passes_choose {m : Moment σ} {r : DelegationRequest}
    {d : Except DelegationError DelegationDecision} (hk : m.step.kind = .delegate) :
    c.Passes h [.chooseDelegate m r d] := by
  refine ⟨by simp [Gated], fun m' r' d' hm => ?_⟩
  simp only [List.mem_singleton, Call.chooseDelegate.injEq] at hm
  rw [hm.1]
  exact hk

lemma Delegated.passes (hk : step.kind = .delegate) (hd : c.Delegated s step w o) :
    c.Passes h o.trace := by
  cases hd with
  | unchosen _ => exact passes_choose hk
  | refused _ _ _ => exact passes_append.mpr ⟨passes_choose hk, passes_mediating refusal_mediating⟩
  | @handed _ event envelope _ _ _ _ hc he =>
    obtain ⟨hl, hop, _, ht, henv⟩ := Core.applyOperation_ok hc
    refine passes_append.mpr ⟨passes_append.mpr ⟨passes_choose hk, passes_mediating c.authorised_mediating⟩, ?_⟩
    refine ⟨he.gated.mpr ⟨w.envelope, event, envelope, ?_, hop, hl, ?_⟩, he.delegatesPlanned⟩
    · exact (List.suffix_cons _ _).trans (List.suffix_append _ _)
    · rw [henv, ht]
      rfl

lemma Closed.passes {operation : RuntimeOperation} {report : DeepLoopRun}
    (hc : c.Closed operation report w o) : c.Passes h o.trace := by
  cases hc with
  | refused _ => exact passes_mediating refusal_mediating
  | closed _ => exact passes_mediating c.authorised_mediating

lemma Judged.gatedIff {verdict : ReviewVerdict} (hk : step.kind ≠ .delegate)
    (hj : c.Judged s step stepContext w verdict o) : c.GatedIff o.trace := by
  cases hj with
  | unrecorded _ _ => exact .of_passes fun h => by simp [Passes, Gated, DelegatesPlanned]
  | recorded _ _ => exact .of_passes fun h => by simp [Passes, Gated, DelegatesPlanned]
  | unrevised _ => exact .of_passes fun h => by simp [Passes, Gated, DelegatesPlanned]
  | revised _ => exact .of_passes fun h => by simp [Passes, Gated, DelegatesPlanned]
  | unchosen _ => exact .of_passes fun h => by simp [Passes, Gated, DelegatesPlanned]
  | handed _ he =>
    -- the subtask is started right after its delegate was chosen
    refine fun h => iff_of_false (fun ha => ?_) fun hd => hk (hd _ _ _ (List.mem_cons_self ..))
    exact not_authorises_of_choose (he.gated.mp ((always_append _ _ _).mp ha).2)
  | failed hc => exact .of_passes fun h => hc.passes

lemma Produced.passes {body : String} {env : σ} {calls : List (Call σ)} (ht : AfterTick h)
    (hp : c.Produced s step stepContext w body s₁ env calls) (env' : σ)
    (request : CreateArtifactRequest) (answer : Except WorkspaceError ArtifactRef) :
    c.Passes h (calls ++ [.createArtifact ⟨s.plan, step, w.withEnv env'⟩ request answer]) := by
  cases hp with
  | placeholder _ => simp [Passes, Gated, DelegatesPlanned, ht]
  | executed _ _ =>
    refine ⟨?_, by simp [DelegatesPlanned]⟩
    simp only [List.singleton_append, always_cons, always_nil, and_true]
    exact ⟨ht, Or.inr ⟨h, _, _, _, ht, rfl, rfl⟩⟩

lemma Produced.passes_reviewed {body : String} {env : σ} {calls : List (Call σ)}
    (ht : AfterTick h) (hp : c.Produced s step stepContext w body s₁ env calls) (env' : σ)
    (request : CreateArtifactRequest) (answer : Except WorkspaceError ArtifactRef)
    (review : ReviewStepRequest) (outcome : Except ReflectionError ReviewOutcome) :
    c.Passes h (calls ++ [.createArtifact ⟨s.plan, step, w.withEnv env'⟩ request answer,
      .reviewStep review outcome]) := by
  have hr : ∀ g, c.Passes g [.reviewStep review outcome] := by
    simp [Passes, Gated, DelegatesPlanned]
  have h' := passes_append.mpr ⟨hp.passes ht env' request answer, hr _⟩
  rwa [List.append_assoc] at h'

lemma Worked.gatedIff (hk : step.kind ≠ .delegate) (hw : c.Worked s action step stepContext w o)
    (ht : AfterTick h) : Always c.Gated h o.trace ↔ DelegatesPlanned o.trace := by
  cases hw with
  | unexecuted _ _ => simp [Gated, DelegatesPlanned, ht]
  | unstored hp _ => exact iff_of_true (hp.passes ht _ _ _).1 (hp.passes ht _ _ _).2
  | unreviewed hp _ _ =>
    have h' := hp.passes_reviewed ht
    exact iff_of_true (h' _ _ _ _ _).1 (h' _ _ _ _ _).2
  | invalid hp _ _ _ =>
    have h' := hp.passes_reviewed ht
    exact iff_of_true (h' _ _ _ _ _).1 (h' _ _ _ _ _).2
  | judged hp _ _ _ hj =>
    have h' := hp.passes_reviewed ht
    rw [Outcome.after_trace, always_append, delegatesPlanned_append]
    exact and_congr (iff_of_true (h' _ _ _ _ _).1 (h' _ _ _ _ _).2) (hj.gatedIff hk _)

lemma Executed.gatedIff (hk : step.kind ≠ .delegate)
    (he : c.Executed s action step stepContext w o) : c.GatedIff o.trace := by
  cases he with
  | refused _ => exact .of_passes fun h => passes_mediating ticking_mediating
  | ticked _ hw =>
    intro h
    rw [Outcome.after_trace, always_append, delegatesPlanned_append]
    exact and_congr (GatedIff.of_passes (fun _ => passes_mediating ticking_mediating) h)
      (hw.gatedIff hk (afterTick_ticking _ _ _ _))

lemma gatedIff_quiet (ht : ∀ x ∈ t, x.Quiet) : c.GatedIff t := by
  refine .of_passes fun h => ⟨always_of_forall fun x hx g => ?_, fun m r d hm => (ht _ hm).elim⟩
  have := ht x hx
  cases x <;> trivial

lemma Acted.gatedIff (ha : c.Acted s action w o) : c.GatedIff o.trace := by
  cases ha with
  | missing _ => exact gatedIff_quiet (by simp)
  | noContext _ => exact gatedIff_quiet (by simp [Call.Quiet])
  | delegated _ _ hk hd =>
    exact (gatedIff_quiet (by simp [Call.Quiet])).append (.of_passes fun h => hd.passes hk)
  | executed _ _ hk he => exact (gatedIff_quiet (by simp [Call.Quiet])).append (he.gatedIff hk)

lemma Settled.gatedIff {planContext : Option String} (hs : c.Settled s planContext w o) :
    c.GatedIff o.trace := by
  refine .of_passes fun h => ?_
  cases hs with
  | delegating _ => simp [Passes, DelegatesPlanned]
  | unchecked _ _ => simp [Passes, Gated, DelegatesPlanned]
  | incomplete _ _ => simp [Passes, Gated, DelegatesPlanned]
  | unsatisfied _ _ hc =>
    exact passes_append.mpr ⟨by simp [Passes, Gated, DelegatesPlanned], hc.passes⟩
  | unreviewed _ _ _ => simp [Passes, Gated, DelegatesPlanned]
  | invalid _ _ _ _ => simp [Passes, Gated, DelegatesPlanned]
  | failed _ _ _ _ _ hc =>
    exact passes_append.mpr ⟨by simp [Passes, Gated, DelegatesPlanned], hc.passes⟩
  | completed _ _ _ _ _ hc =>
    exact passes_append.mpr ⟨by simp [Passes, Gated, DelegatesPlanned], hc.passes⟩

end

lemma gatedIff_invariant : c.LoopInvariant fun _ _ o => c.GatedIff o.trace where
  skip _ _ := gatedIff_quiet (by simp)
  seq h h' := h.append h'
  halt _ _ _ := gatedIff_quiet (by simp)
  quiet ht h := (gatedIff_quiet ht).append h
  acted h := h.gatedIff
  settled h := h.gatedIff

lemma Started.passes {w : World σ} {o : Outcome (World σ) (Call σ) DeepLoopError Unit}
    (hs : c.Started w o) : c.Passes h o.trace := by
  cases hs with
  | skipped _ => simp [Passes, DelegatesPlanned]
  | refused _ _ => exact passes_mediating refusal_mediating
  | started _ _ => exact passes_mediating c.authorised_mediating

theorem run_gatedIff (plan : PlanDocument) (w : World σ) :
    c.GatedIff ((c.run plan).run w).trace :=
  c.gatedIff_invariant.run (P := fun o => c.GatedIff o.trace)
    (fun _ _ _ hs => .of_passes fun _ => hs.passes)
    fun _ _ _ hs ho => (GatedIff.of_passes fun _ => hs.passes).append ho

structure KeepsDelegated (o : Ran σ) : Prop where
  next : ∀ s', o.result = .ok (.next s') → s'.emittedSubtasks ≠ [] →
    o.world.envelope.state = .delegated
  done : ∀ report, o.result = .ok (.done report) → report.status = .delegating →
    o.world.envelope.state = .delegated

section

variable {s s₁ : LoopState} {action : PlannedAction} {step : PlanStep}
  {stepContext : Option String} {w : World σ} {o : Ran σ}

lemma Delegated.keepsDelegated (hd : c.Delegated s step w o) : KeepsDelegated o := by
  refine ⟨fun s' hr _ => ?_, fun report hr => (hd.not_done report hr).elim⟩
  cases hd with
  | unchosen _ => simp at hr
  | refused _ _ _ => simp at hr
  | handed _ hc he =>
    obtain ⟨_, _, _, ht, henv⟩ := Core.applyOperation_ok hc
    rw [Outcome.after_world, he.envelope, henv, ht]
    rfl

lemma Judged.keepsDelegated {verdict : ReviewVerdict} (hk : step.kind ≠ .delegate)
    (hs : s.emittedSubtasks ≠ [] → w.envelope.state = .delegated)
    (hj : c.Judged s step stepContext w verdict o) (hd : DelegatesPlanned o.trace) :
    KeepsDelegated o := by
  cases hj with
  | unrecorded _ _ => exact ⟨by simp, by simp⟩
  | recorded _ _ =>
    refine ⟨fun s' hr he => hs ?_, by simp⟩
    cases hr
    exact he
  | unrevised _ => exact ⟨by simp, by simp⟩
  | revised _ => exact ⟨by simp, fun report hr => by cases hr; simp [LoopState.report]⟩
  | unchosen _ => exact ⟨by simp, by simp⟩
  | handed _ _ => exact (hk (hd _ _ _ (List.mem_cons_self ..))).elim
  | failed hc =>
    cases hc with
    | refused _ => exact ⟨by simp, by simp⟩
    | closed _ => exact ⟨by simp, fun report hr => by cases hr; simp [LoopState.report]⟩

lemma Executed.keepsDelegated (hk : step.kind ≠ .delegate) (honly : c.runtime.OnlySteps)
    (hs : s.emittedSubtasks ≠ [] → w.envelope.state = .delegated)
    (he : c.Executed s action step stepContext w o) (hd : DelegatesPlanned o.trace) :
    KeepsDelegated o := by
  cases he with
  | refused _ => exact ⟨by simp, by simp⟩
  | ticked ht hw =>
    have htick := DwRuntime.tick_of_onlySteps honly w
    rw [ht] at htick
    cases hw with
    | unexecuted _ _ => exact ⟨by simp, by simp⟩
    | unstored _ _ => exact ⟨by simp, by simp⟩
    | unreviewed _ _ _ => exact ⟨by simp, by simp⟩
    | invalid _ _ _ _ => exact ⟨by simp, by simp⟩
    | judged hp _ _ _ hj =>
      have hd' := (delegatesPlanned_append.mp (delegatesPlanned_append.mp hd).2).2
      have h := hj.keepsDelegated hk (fun hne => htick ▸ hs (hp.emittedSubtasks ▸ hne)) hd'
      exact ⟨h.next, h.done⟩

lemma Settled.keepsDelegated {planContext : Option String}
    (hs : s.emittedSubtasks ≠ [] → w.envelope.state = .delegated)
    (h : c.Settled s planContext w o) : KeepsDelegated o := by
  have hclosed : ∀ {operation status w o t}, c.Closed operation (s.report status) w o →
      status ≠ .delegating → KeepsDelegated (o.after t) := by
    intro operation status w o t hc hne
    cases hc with
    | refused _ => exact ⟨by simp, by simp⟩
    | closed _ => exact ⟨by simp, fun report hr hst => by cases hr; exact (hne hst).elim⟩
  cases h with
  | delegating hne => exact ⟨by simp, fun _ _ _ => hs hne⟩
  | unchecked _ _ => exact ⟨by simp, by simp⟩
  | incomplete he _ => exact ⟨fun s' hr hne => by cases hr; exact (hne he).elim, by simp⟩
  | unsatisfied _ _ hc => exact hclosed hc (by simp)
  | unreviewed _ _ _ => exact ⟨by simp, by simp⟩
  | invalid _ _ _ _ => exact ⟨by simp, by simp⟩
  | failed _ _ _ _ _ hc => exact hclosed hc (by simp)
  | completed _ _ _ _ _ hc => exact hclosed hc (by simp)

end

lemma keepsDelegated_invariant (honly : c.runtime.OnlySteps) :
    c.LoopInvariant fun s w o => DelegatesPlanned o.trace →
      (s.emittedSubtasks ≠ [] → w.envelope.state = .delegated) → KeepsDelegated o where
  skip s _ _ hs := ⟨fun s' hr he => by cases hr; exact hs he, by simp⟩
  seq := by
    intro s w s' w' t o h h' hd hs
    obtain ⟨hd, hd'⟩ := delegatesPlanned_append.mp hd
    have ho := h' hd' ((h hd hs).next s' rfl)
    exact ⟨ho.next, ho.done⟩
  halt _ _ _ _ _ := ⟨by simp, by simp⟩
  quiet := by
    intro s w env t o _ h hd hs
    have ho := h (delegatesPlanned_append.mp hd).2 hs
    exact ⟨ho.next, ho.done⟩
  acted := by
    intro s action w o ha hd hs
    cases ha with
    | missing _ => exact ⟨by simp, by simp⟩
    | noContext _ => exact ⟨by simp, by simp⟩
    | delegated _ _ _ h => exact ⟨h.keepsDelegated.next, h.keepsDelegated.done⟩
    | @executed step package env o _ _ hk h =>
      have hs' : s.emittedSubtasks ≠ [] → (w.withEnv env).envelope.state = .delegated := hs
      have ho := h.keepsDelegated hk honly hs' (delegatesPlanned_append.mp hd).2
      exact ⟨ho.next, ho.done⟩
  settled h _ hs := h.keepsDelegated hs

lemma run_delegating (honly : c.runtime.OnlySteps) {plan : PlanDocument} {w : World σ}
    {report : DeepLoopRun} (hd : DelegatesPlanned ((c.run plan).run w).trace)
    (hr : ((c.run plan).run w).result = .ok report) (hs : report.status = .delegating) :
    ((c.run plan).run w).world.envelope.state = .delegated := by
  refine (keepsDelegated_invariant honly).run
    (P := fun o => DelegatesPlanned o.trace → o.result = .ok report →
      o.world.envelope.state = .delegated) ?_ ?_ hd hr
  · intro e w' t _ _ hr
    cases hr
  · rintro w₁ t ⟨_ | s | report', w', u⟩ _ ho hd hr
    · cases hr
    · cases hr
      simp [conclude, LoopState.report] at hs
    · cases hr
      exact (ho (delegatesPlanned_append.mp hd).2 (by simp [initialState])).done report' rfl hs

theorem authority_gate (c : DeepLoopCoordinator σ) (plan : PlanDocument) (w : World σ) :
    (Always c.Gated [] ((c.run plan).run w).trace ↔
      DelegatesPlanned ((c.run plan).run w).trace) ∧
    (c.runtime.OnlySteps → DelegatesPlanned ((c.run plan).run w).trace →
      ∀ report, ((c.run plan).run w).result = .ok report → report.status = .delegating →
        ((c.run plan).run w).world.envelope.state = .delegated) :=
  ⟨run_gatedIff plan w [], fun honly hd _ hr hs => run_delegating honly hd hr hs⟩

theorem authority_gate_scripted :
    (Script.run ⟨.operation .step, .accept, .accept, 3⟩ .created
      [Script.step "a" .delegate .ready []] [[⟨"a", "go"⟩]]).world.envelope.state = .delegated :=
  (authority_gate (Script.coordinator ⟨.operation .step, .accept, .accept, 3⟩)
    (Script.plan [Script.step "a" .delegate .ready []]) ⟨[[⟨"a", "go"⟩]], Script.task .created⟩).2
    (DwRuntime.permissive_script (Or.inr rfl)).engine (by decide) _ (by rfl) (by rfl)

theorem review_delegates_without_authority :
    ¬Always (Script.coordinator ⟨.operation .step, .delegate, .accept, 3⟩).Gated []
      (Script.run ⟨.operation .step, .delegate, .accept, 3⟩ .created
        [Script.step "a" .toolCall .ready []] [[⟨"a", "go"⟩]]).trace ∧
    ∃ report, (Script.run ⟨.operation .step, .delegate, .accept, 3⟩ .created
        [Script.step "a" .toolCall .ready []] [[⟨"a", "go"⟩]]).result = .ok report ∧
      report.status = .delegating ∧
      (Script.run ⟨.operation .step, .delegate, .accept, 3⟩ .created
        [Script.step "a" .toolCall .ready []] [[⟨"a", "go"⟩]]).world.envelope.state = .running := by
  refine ⟨?_, _, rfl, rfl, rfl⟩
  rw [Script.run, run_gatedIff]
  decide

end DeepLoopCoordinator

end GreenticDw

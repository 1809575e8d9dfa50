import GreenticDw.DeepLoop.Lifecycle

namespace GreenticDw

namespace DeepLoopCoordinator

variable {σ : Type} {c : DeepLoopCoordinator σ}

def Accepted (h : List (Call σ)) (stepId : String) : Prop :=
  ∃ moment create artifact review outcome,
    [.createArtifact moment create (.ok artifact), .reviewStep review (.ok outcome)] <:+ h ∧
    moment.step.stepId = stepId ∧ review.planStepId = stepId ∧
    review.outputArtifactRef = artifact.artifactId ∧ outcome.Valid ∧ outcome.verdict = .accept

def HandedOver (h : List (Call σ)) (stepId : String) : Prop :=
  ∃ moment request handle, [.startSubtask moment request (.ok handle)] <:+ h ∧
    moment.step.stepId = stepId

/-- A step is recorded as completed only on an accepting review or an accepted subtask. -/
def Earned (h : List (Call σ)) : Call σ → Prop
  | .recordStepResult request _ =>
    request.status = .completed → Accepted h request.stepId ∨ HandedOver h request.stepId
  | _ => True

def NoRetry (t : List (Call σ)) : Prop :=
  ∀ review outcome, .reviewStep review (.ok outcome) ∈ t → outcome.Valid →
    outcome.verdict ≠ .retry

def noRetry : Call σ → Bool
  | .reviewStep _ (.ok outcome) => ¬(outcome.Valid ∧ outcome.verdict = .retry)
  | _ => true

instance (t : List (Call σ)) : Decidable (NoRetry t) :=
  decidable_of_iff (t.all noRetry = true) <| by
    rw [List.all_eq_true]
    constructor
    · intro h r out hm hv hr
      exact of_decide_eq_true (h _ hm) ⟨hv, hr⟩
    · intro h x hx
      unfold noRetry
      split
      · exact decide_eq_true fun hv => h _ _ hx hv.1 hv.2
      · rfl

def Orderly (t : List (Call σ)) : Prop := (∀ h, Always Earned h t) ∧ NoRetry t

def EarnedIff (t : List (Call σ)) : Prop := ∀ h, Always Earned h t ↔ NoRetry t

variable {t u h : List (Call σ)}

lemma noRetry_append : NoRetry (t ++ u) ↔ NoRetry t ∧ NoRetry u := by
  simp only [NoRetry, List.mem_append, or_imp, forall_and]

lemma Orderly.append (ht : Orderly t) (hu : Orderly u) : Orderly (t ++ u) :=
  ⟨fun h => (always_append h t u).mpr ⟨ht.1 h, hu.1 (h ++ t)⟩, noRetry_append.mpr ⟨ht.2, hu.2⟩⟩

lemma Orderly.earnedIff (ht : Orderly t) : EarnedIff t := fun h => iff_of_true (ht.1 h) ht.2

lemma EarnedIff.append (ht : EarnedIff t) (hu : EarnedIff u) : EarnedIff (t ++ u) := by
  intro h
  rw [always_append, noRetry_append, ht h, hu (h ++ t)]

lemma orderly_mediating (ht : ∀ x ∈ t, x.Mediating) : Orderly t := by
  refine ⟨fun h => always_of_forall fun x hx g => ?_, fun r out hm => (ht _ hm).elim⟩
  have := ht x hx
  cases x <;> trivial

lemma orderly_quiet (ht : ∀ x ∈ t, x.Quiet) : Orderly t := by
  refine ⟨fun h => always_of_forall fun x hx g => ?_, fun r out hm => (ht _ hm).elim⟩
  have := ht x hx
  cases x <;> trivial

lemma orderly_choose {m : Moment σ} {r : DelegationRequest}
    {d : Except DelegationError DelegationDecision} : Orderly [.chooseDelegate m r d] :=
  ⟨fun h => by simp [Earned], by simp [NoRetry]⟩

section

variable {s s₁ : LoopState} {action : PlannedAction} {step : PlanStep}
  {stepContext : Option String} {w : World σ} {o : Ran σ}

lemma Emitted.orderly {subtask : SubtaskEnvelope} (he : c.Emitted s step subtask w o) :
    Orderly o.trace := by
  have hover : ∀ h handle answer,
      Earned (h ++ [.startSubtask ⟨s.plan, step, w⟩ ⟨subtask⟩ (.ok handle)])
        (.recordStepResult ⟨s.plan, step.stepId, .completed⟩ answer) :=
    fun h handle _ _ => Or.inr ⟨_, _, handle, List.suffix_append _ _, rfl⟩
  cases he with
  | refused _ => exact ⟨fun h => by simp [Earned], by simp [NoRetry]⟩
  | unrecorded _ _ => exact ⟨fun h => ⟨trivial, hover h _ _, trivial⟩, by simp [NoRetry]⟩
  | emitted _ _ => exact ⟨fun h => ⟨trivial, hover h _ _, trivial⟩, by simp [NoRetry]⟩

lemma Delegated.orderly (hd : c.Delegated s step w o) : Orderly o.trace := by
  cases hd with
  | unchosen _ => exact orderly_choose
  | refused _ _ _ => exact orderly_choose.append (orderly_mediating refusal_mediating)
  | handed _ _ he =>
    exact (orderly_choose.append (orderly_mediating c.authorised_mediating)).append he.orderly

lemma Closed.orderly {operation : RuntimeOperation} {report : DeepLoopRun}
    (hc : c.Closed operation report w o) : Orderly o.trace := by
  cases hc with
  | refused _ => exact orderly_mediating refusal_mediating
  | closed _ => exact orderly_mediating c.authorised_mediating

structure Reviewed (h : List (Call σ)) (step : PlanStep) (outcome : ReviewOutcome) : Prop where
  ends : ∃ moment create artifact review,
    [.createArtifact moment create (.ok artifact), .reviewStep review (.ok outcome)] <:+ h ∧
    moment.step.stepId = step.stepId ∧ review.planStepId = step.stepId ∧
    review.outputArtifactRef = artifact.artifactId
  valid : outcome.Valid

lemma Reviewed.earned_iff {outcome : ReviewOutcome} (hr : Reviewed h step outcome)
    (plan : PlanDocument) (answer : Except PlanningError PlanDocument) :
    Earned h (.recordStepResult ⟨plan, step.stepId, .completed⟩ answer) ↔
      outcome.verdict = .accept := by
  obtain ⟨⟨moment, create, artifact, review, hsuf, hm, hrev, hart⟩, hv⟩ := hr
  have hlast := hsuf.getLast (by simp)
  constructor
  · intro he
    rcases he rfl with ⟨m, cr, a, r, out, hs, _, _, _, _, hacc⟩ | ⟨m, rq, ha, hs, _⟩
    · have hlast' := hs.getLast (by simp)
      rw [← hlast'] at hlast
      simp only [List.getLast_cons_cons, List.getLast_singleton, Call.reviewStep.injEq,
        Except.ok.injEq] at hlast
      exact hlast.2 ▸ hacc
    · have hlast' := hs.getLast (by simp)
      rw [← hlast'] at hlast
      simp at hlast
  · exact fun hacc _ => Or.inl ⟨moment, create, artifact, review, outcome, hsuf, hm, hrev, hart, hv,
      hacc⟩

lemma reviewed_of_calls {calls : List (Call σ)} {plan : PlanDocument}
    {create : CreateArtifactRequest} {artifact : ArtifactRef} {outcome : ReviewOutcome}
    (hv : outcome.Valid) :
    Reviewed (h ++ (calls ++ [.createArtifact ⟨plan, step, w⟩ create (.ok artifact),
      .reviewStep ⟨step.stepId, artifact.artifactId, stepContext⟩ (.ok outcome)])) step outcome :=
  ⟨⟨_, create, artifact, _, (List.suffix_append _ _).trans (List.suffix_append _ _), rfl, rfl, rfl⟩,
    hv⟩

lemma Judged.noRetry {verdict : ReviewVerdict}
    (hj : c.Judged s step stepContext w verdict o) : NoRetry o.trace := by
  cases hj with
  | unrecorded _ _ => simp [NoRetry]
  | recorded _ _ => simp [NoRetry]
  | unrevised _ => simp [NoRetry]
  | revised _ => simp [NoRetry]
  | unchosen _ => simp [NoRetry]
  | handed _ he => exact (orderly_choose.append he.orderly).2
  | failed hc => exact hc.orderly.2

lemma Judged.earned_iff {outcome : ReviewOutcome} (hr : Reviewed h step outcome)
    (hj : c.Judged s step stepContext w outcome.verdict o) :
    Always Earned h o.trace ↔ outcome.verdict ≠ .retry := by
  have hrecord : ∀ answer, outcome.verdict = .accept ∨ outcome.verdict = .retry →
      (Always Earned h [.recordStepResult ⟨s.plan, step.stepId, .completed⟩ answer] ↔
        outcome.verdict ≠ .retry) := by
    intro answer hv
    rw [always_cons, hr.earned_iff]
    rcases hv with hv | hv <;> simp [hv]
  generalize outcome.verdict = verdict at hj hrecord
  cases hj with
  | unrecorded hv _ => exact hrecord _ hv
  | recorded hv _ => exact hrecord _ hv
  | unrevised _ => simp [Earned]
  | revised _ => simp [Earned]
  | unchosen _ => simp [Earned]
  | handed _ he => exact iff_of_true ((orderly_choose.append he.orderly).1 h) (by simp)
  | failed hc => exact iff_of_true (hc.orderly.1 h) (by simp)

lemma Produced.orderly {body : String} {env : σ} {calls : List (Call σ)}
    (hp : c.Produced s step stepContext w body s₁ env calls) : Orderly calls := by
  cases hp with
  | placeholder _ => exact orderly_quiet (by simp)
  | executed _ _ => exact ⟨fun h => by simp [Earned], by simp [NoRetry]⟩

lemma orderly_create {m : Moment σ} {r : CreateArtifactRequest}
    {a : Except WorkspaceError ArtifactRef} : Orderly [.createArtifact m r a] :=
  ⟨fun h => by simp [Earned], by simp [NoRetry]⟩

lemma Produced.reviewed {body : String} {env : σ} {calls : List (Call σ)}
    (hp : c.Produced s step stepContext w body s₁ env calls) {m : Moment σ}
    {create : CreateArtifactRequest} {a : Except WorkspaceError ArtifactRef}
    {review : ReviewStepRequest} {outcome : ReviewOutcome} (hv : outcome.Valid) :
    Always Earned h (calls ++ [.createArtifact m create a, .reviewStep review (.ok outcome)]) ∧
      (NoRetry (calls ++ [.createArtifact m create a, .reviewStep review (.ok outcome)]) ↔
        outcome.verdict ≠ .retry) := by
  constructor
  · exact (always_append _ _ _).mpr ⟨hp.orderly.1 h, by simp [Earned]⟩
  · rw [noRetry_append, and_iff_right hp.orderly.2]
    simp [NoRetry, hv]

lemma Worked.earnedIff (hw : c.Worked s action step stepContext w o) : EarnedIff o.trace := by
  cases hw with
  | unexecuted _ _ => exact Orderly.earnedIff ⟨fun h => by simp [Earned], by simp [NoRetry]⟩
  | unstored hp _ => exact (hp.orderly.append orderly_create).earnedIff
  | unreviewed hp _ _ =>
    exact (hp.orderly.append ⟨fun h => by simp [Earned], by simp [NoRetry]⟩).earnedIff
  | invalid hp _ _ hv =>
    refine (hp.orderly.append ⟨fun h => by simp [Earned], ?_⟩).earnedIff
    simp [NoRetry, ReviewOutcome.Valid, hv]
  | judged hp _ _ hv hj =>
    intro h
    rw [Outcome.after_trace, always_append, noRetry_append, (hp.reviewed (h := h) hv).2,
      and_iff_right (hp.reviewed (h := h) hv).1]
    exact (hj.earned_iff (reviewed_of_calls hv)).trans (and_iff_left hj.noRetry).symm

lemma Executed.earnedIff (he : c.Executed s action step stepContext w o) : EarnedIff o.trace := by
  cases he with
  | refused _ => exact (orderly_mediating ticking_mediating).earnedIff
  | ticked _ hw => exact (orderly_mediating ticking_mediating).earnedIff.append hw.earnedIff

lemma Acted.earnedIff (ha : c.Acted s action w o) : EarnedIff o.trace := by
  cases ha with
  | missing _ => exact (orderly_quiet (by simp)).earnedIff
  | noContext _ => exact (orderly_quiet (by simp [Call.Quiet])).earnedIff
  | delegated _ _ _ hd => exact ((orderly_quiet (by simp [Call.Quiet])).append hd.orderly).earnedIff
  | executed _ _ _ he => exact (orderly_quiet (by simp [Call.Quiet])).earnedIff.append he.earnedIff

lemma Settled.orderly {planContext : Option String} (hs : c.Settled s planContext w o) :
    Orderly o.trace := by
  have hcheck : ∀ {r a}, Orderly ([.evaluateCompletion r a] : List (Call σ)) :=
    ⟨fun h => by simp [Earned], by simp [NoRetry]⟩
  have hfinal : ∀ {r a q b}, Orderly ([.evaluateCompletion r a, .reviewFinal q b] : List (Call σ)) :=
    ⟨fun h => by simp [Earned], by simp [NoRetry]⟩
  cases hs with
  | delegating _ => exact orderly_quiet (by simp)
  | unchecked _ _ => exact hcheck
  | incomplete _ _ => exact hcheck
  | unsatisfied _ _ hc => exact hcheck.append hc.orderly
  | unreviewed _ _ _ => exact hfinal
  | invalid _ _ _ _ => exact hfinal
  | failed _ _ _ _ _ hc => exact hfinal.append hc.orderly
  | completed _ _ _ _ _ hc => exact hfinal.append hc.orderly

end

lemma earnedIff_invariant : c.LoopInvariant fun _ _ o => EarnedIff o.trace where
  skip _ _ := (orderly_quiet (by simp)).earnedIff
  seq h h' := h.append h'
  halt _ _ _ := (orderly_quiet (by simp)).earnedIff
  quiet ht h := (orderly_quiet ht).earnedIff.append h
  acted h := h.earnedIff
  settled h := h.orderly.earnedIff

lemma run_earnedIff (plan : PlanDocument) (w : World σ) :
    EarnedIff ((c.run plan).run w).trace :=
  earnedIff_invariant.run (P := fun o => EarnedIff o.trace)
    (fun _ _ _ hs => (orderly_mediating hs.mediating).earnedIff)
    fun _ _ _ hs ho => (orderly_mediating hs.mediating).earnedIff.append ho

def FinalDecided (t : List (Call σ)) : Prop :=
  ∀ request outcome, .reviewFinal request (.ok outcome) ∈ t → outcome.Valid →
    outcome.verdict = .accept ∨ outcome.verdict = .fail

def FinallyAccepted (c : DeepLoopCoordinator σ) (report : DeepLoopRun) (after : TaskEnvelope)
    (t : List (Call σ)) : Prop :=
  ∃ request outcome before event, outcome.Valid ∧ outcome.verdict = .accept ∧
    [.evaluateCompletion ⟨report.plan⟩ (.ok .satisfied), .reviewFinal request (.ok outcome)] ++
      c.authorised before event after <:+ t

lemma run_finallyAccepted {plan : PlanDocument} {w : World σ} {report : DeepLoopRun}
    (hf : FinalDecided ((c.run plan).run w).trace)
    (hr : ((c.run plan).run w).result = .ok report) (hs : report.status = .completed) :
    c.FinallyAccepted report ((c.run plan).run w).world.envelope ((c.run plan).run w).trace := by
  obtain ⟨_, _, request, outcome, before, event, hv, hne, ht⟩ := (run_agrees hr).completed hs
  have hm : .reviewFinal request (.ok outcome) ∈ ((c.run plan).run w).trace :=
    ht.subset (by simp)
  exact ⟨request, outcome, before, event, hv, (hf request outcome hm hv).resolve_right hne, ht⟩

theorem verdicts_gate_progress (c : DeepLoopCoordinator σ) (plan : PlanDocument) (w : World σ) :
    (Always Earned [] ((c.run plan).run w).trace ↔ NoRetry ((c.run plan).run w).trace) ∧
    (FinalDecided ((c.run plan).run w).trace →
      ∀ report, ((c.run plan).run w).result = .ok report → report.status = .completed →
        c.FinallyAccepted report ((c.run plan).run w).world.envelope
          ((c.run plan).run w).trace) :=
  ⟨run_earnedIff plan w [], fun hf _ hr hs => run_finallyAccepted hf hr hs⟩

def finalDecided : Call σ → Bool
  | .reviewFinal _ (.ok outcome) =>
    outcome.Valid → outcome.verdict = .accept ∨ outcome.verdict = .fail
  | _ => true

lemma finalDecided_of_all {t : List (Call σ)} (ht : t.all finalDecided = true) : FinalDecided t := by
  rw [List.all_eq_true] at ht
  exact fun r out hm hv => of_decide_eq_true (ht _ hm) hv

theorem verdicts_gate_progress_scripted :
    (Script.coordinator ⟨.noop, .accept, .accept, 3⟩).FinallyAccepted
      ⟨Script.plan [Script.step "a" .toolCall .completed []], .completed, [],
        ["artifact://plan/a/0"], 0⟩ (Script.task .completed)
      (Script.run ⟨.noop, .accept, .accept, 3⟩ .created [Script.step "a" .toolCall .ready []]
        [[⟨"a", "go"⟩]]).trace :=
  (verdicts_gate_progress (Script.coordinator ⟨.noop, .accept, .accept, 3⟩)
    (Script.plan [Script.step "a" .toolCall .ready []]) ⟨[[⟨"a", "go"⟩]], Script.task .created⟩).2
    (finalDecided_of_all (by decide)) _ (by rfl) (by rfl)

theorem retry_recorded_as_completed :
    ¬Always Earned [] (Script.run ⟨.noop, .retry, .retry, 3⟩ .created
      [Script.step "a" .toolCall .ready []] [[⟨"a", "go"⟩]]).trace ∧
    ∃ report, (Script.run ⟨.noop, .retry, .retry, 3⟩ .created
        [Script.step "a" .toolCall .ready []] [[⟨"a", "go"⟩]]).result = .ok report ∧
      report.status = .completed ∧
      report.plan.steps.map PlanStep.status = [.completed] ∧
      .reviewFinal ⟨"task", "artifact://plan/a/0", none⟩ (.ok (Script.outcome .retry)) ∈
        (Script.run ⟨.noop, .retry, .retry, 3⟩ .created
          [Script.step "a" .toolCall .ready []] [[⟨"a", "go"⟩]]).trace := by
  refine ⟨?_, _, rfl, rfl, rfl, ?_⟩
  · rw [Script.run, run_earnedIff]
    decide
  · exact List.mem_of_getElem? (i := 12) rfl

end DeepLoopCoordinator

end GreenticDw

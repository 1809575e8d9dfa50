import GreenticDw.DeepLoop.Outcomes

namespace GreenticDw.DeepLoopCoordinator

variable {σ : Type} (c : DeepLoopCoordinator σ)

inductive WorkCall (step : PlanStep) (stepContext : Option String) : Call σ → Prop
  | mediating {x : Call σ} : x.Mediating → WorkCall step stepContext x
  | choosing {moment : Moment σ} {request : DelegationRequest}
      {answer : Except DelegationError DelegationDecision} :
      WorkCall step stepContext (.chooseDelegate moment request answer)
  | starting {moment : Moment σ} {request : StartSubtaskRequest}
      {answer : Except DelegationError DelegationHandle} :
      WorkCall step stepContext (.startSubtask moment request answer)
  | recording {request : StepResultRequest} {answer : Except PlanningError PlanDocument} :
      WorkCall step stepContext (.recordStepResult request answer)
  | revising {s : LoopState} {answer : Except PlanningError PlanRevision} :
      WorkCall step stepContext (.revisePlan (revisionRequest s step stepContext) answer)
  | executing {moment : Moment σ} {request : ExecuteStepRequest}
      {answer : Except StepExecutionError StepExecution} :
      WorkCall step stepContext (.executeStep moment request answer)
  | storing {s s₁ : LoopState} {action : PlannedAction} {w : World σ} {body : String} {env : σ}
      {calls : List (Call σ)} {answer : Except WorkspaceError ArtifactRef} :
      c.Produced s step stepContext w body s₁ env calls →
      WorkCall step stepContext (.createArtifact ⟨s.plan, step, w.withEnv env⟩
        (stepArtifact w.envelope s₁ action step body) answer)
  | reviewing {artifactId : String} {answer : Except ReflectionError ReviewOutcome} :
      WorkCall step stepContext (.reviewStep ⟨step.stepId, artifactId, stepContext⟩ answer)

inductive SettlingCall (planContext : Option String) : Call σ → Prop
  | mediating {x : Call σ} : x.Mediating → SettlingCall planContext x
  | checking {request : CompletionCheckRequest} {answer : Except PlanningError CompletionState}
      {env env' : σ} : c.planner.evaluateCompletion request env = (answer, env') →
      SettlingCall planContext (.evaluateCompletion request answer)
  | reviewing {task : TaskEnvelope} {s : LoopState}
      {answer : Except ReflectionError ReviewOutcome} :
      SettlingCall planContext (.reviewFinal (finalReviewRequest task s planContext) answer)

variable {c} {s s₁ : LoopState} {action : PlannedAction} {step : PlanStep}
  {stepContext planContext : Option String} {w : World σ} {o : Ran σ}

lemma Closed.mediating {operation : RuntimeOperation} {report : DeepLoopRun}
    (h : c.Closed operation report w o) : ∀ x ∈ o.trace, x.Mediating := by
  cases h with
  | refused _ => exact refusal_mediating
  | closed _ => exact c.authorised_mediating

lemma Emitted.calls {subtask : SubtaskEnvelope} (h : c.Emitted s step subtask w o)
    (stepContext : Option String) : ∀ x ∈ o.trace, c.WorkCall step stepContext x := by
  cases h with
  | refused _ => exact List.forall_mem_singleton.mpr .starting
  | unrecorded _ _ =>
    exact List.forall_mem_cons.mpr ⟨.starting, List.forall_mem_singleton.mpr .recording⟩
  | emitted _ _ =>
    exact List.forall_mem_cons.mpr ⟨.starting, List.forall_mem_singleton.mpr .recording⟩

lemma Delegated.calls (h : c.Delegated s step w o) (stepContext : Option String) :
    ∀ x ∈ o.trace, c.WorkCall step stepContext x := by
  cases h with
  | unchosen _ => exact List.forall_mem_singleton.mpr .choosing
  | refused _ _ _ =>
    exact List.forall_mem_cons.mpr ⟨.choosing, fun x hx => .mediating (refusal_mediating x hx)⟩
  | handed _ _ he =>
    refine Outcome.forall_after (List.forall_mem_cons.mpr ⟨.choosing, ?_⟩) (he.calls stepContext)
    exact fun x hx => .mediating (c.authorised_mediating x hx)

lemma Judged.calls {verdict : ReviewVerdict} (h : c.Judged s step stepContext w verdict o) :
    ∀ x ∈ o.trace, c.WorkCall step stepContext x := by
  cases h with
  | unrecorded _ _ => exact List.forall_mem_singleton.mpr .recording
  | recorded _ _ => exact List.forall_mem_singleton.mpr .recording
  | unrevised _ => exact List.forall_mem_singleton.mpr .revising
  | revised _ => exact List.forall_mem_singleton.mpr .revising
  | unchosen _ => exact List.forall_mem_singleton.mpr .choosing
  | handed _ he =>
    exact Outcome.forall_after (List.forall_mem_singleton.mpr .choosing) (he.calls stepContext)
  | failed hc => exact fun x hx => .mediating (hc.mediating x hx)

lemma Produced.calls {body : String} {env : σ} {calls : List (Call σ)}
    (h : c.Produced s step stepContext w body s₁ env calls) :
    ∀ x ∈ calls, c.WorkCall step stepContext x := by
  cases h with
  | placeholder _ => simp
  | executed _ _ => exact List.forall_mem_singleton.mpr .executing

lemma Worked.calls (h : c.Worked s action step stepContext w o) :
    ∀ x ∈ o.trace, c.WorkCall step stepContext x := by
  cases h with
  | unexecuted _ _ => exact List.forall_mem_singleton.mpr .executing
  | unstored hp _ =>
    exact List.forall_mem_append.mpr ⟨hp.calls, List.forall_mem_singleton.mpr (.storing hp)⟩
  | unreviewed hp _ _ =>
    refine List.forall_mem_append.mpr ⟨hp.calls, List.forall_mem_cons.mpr ⟨.storing hp, ?_⟩⟩
    exact List.forall_mem_singleton.mpr .reviewing
  | invalid hp _ _ _ =>
    refine List.forall_mem_append.mpr ⟨hp.calls, List.forall_mem_cons.mpr ⟨.storing hp, ?_⟩⟩
    exact List.forall_mem_singleton.mpr .reviewing
  | judged hp _ _ _ hj =>
    refine Outcome.forall_after (List.forall_mem_append.mpr ⟨hp.calls, ?_⟩) hj.calls
    exact List.forall_mem_cons.mpr ⟨.storing hp, List.forall_mem_singleton.mpr .reviewing⟩

lemma Executed.calls (h : c.Executed s action step stepContext w o) :
    ∀ x ∈ o.trace, c.WorkCall step stepContext x := by
  cases h with
  | refused _ => exact fun x hx => .mediating (ticking_mediating x hx)
  | ticked _ hw =>
    exact Outcome.forall_after (fun x hx => .mediating (ticking_mediating x hx)) hw.calls

lemma Settled.calls (h : c.Settled s planContext w o) :
    ∀ x ∈ o.trace, c.SettlingCall planContext x := by
  have hclosed : ∀ {operation report w o}, c.Closed operation report w o →
      ∀ x ∈ o.trace, c.SettlingCall planContext x :=
    fun hc x hx => .mediating (hc.mediating x hx)
  cases h with
  | delegating _ => simp
  | unchecked _ h => exact List.forall_mem_singleton.mpr (.checking h)
  | incomplete _ h => exact List.forall_mem_singleton.mpr (.checking h)
  | unsatisfied _ h hc =>
    exact Outcome.forall_after (List.forall_mem_singleton.mpr (.checking h)) (hclosed hc)
  | unreviewed _ h _ =>
    exact List.forall_mem_cons.mpr ⟨.checking h, List.forall_mem_singleton.mpr .reviewing⟩
  | invalid _ h _ _ =>
    exact List.forall_mem_cons.mpr ⟨.checking h, List.forall_mem_singleton.mpr .reviewing⟩
  | failed _ h _ _ _ hc =>
    refine Outcome.forall_after (List.forall_mem_cons.mpr ⟨.checking h, ?_⟩) (hclosed hc)
    exact List.forall_mem_singleton.mpr .reviewing
  | completed _ h _ _ _ hc =>
    refine Outcome.forall_after (List.forall_mem_cons.mpr ⟨.checking h, ?_⟩) (hclosed hc)
    exact List.forall_mem_singleton.mpr .reviewing

end GreenticDw.DeepLoopCoordinator

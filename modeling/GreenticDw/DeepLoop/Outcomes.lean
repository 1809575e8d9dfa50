import GreenticDw.DeepLoop.Coordinator

/-! What each part of the deep loop can do, told once by cases on the last call it makes. -/

namespace GreenticDw

def Call.Mediating {σ : Type} : Call σ → Prop
  | .runtime _ => True
  | .operation _ _ _ => True
  | .tick _ _ => True
  | _ => False

namespace DeepLoopCoordinator

variable {σ : Type} (c : DeepLoopCoordinator σ)

abbrev Ran (σ : Type) := Outcome (World σ) (Call σ) DeepLoopError (Flow LoopState DeepLoopRun)

def authorised (before : TaskEnvelope) (event : RuntimeEvent) (after : TaskEnvelope) :
    List (Call σ) :=
  (c.runtime.mediated before event after).map .runtime ++
    [.operation event.operation (.ok event) after.state]

def refusal (t : List RuntimeCall) (operation : RuntimeOperation) (e : RuntimeError)
    (w : World σ) : List (Call σ) :=
  t.map .runtime ++ [.operation operation (.error e) w.envelope.state]

def ticking (t : List RuntimeCall) (result : Except RuntimeError (List RuntimeEvent))
    (w : World σ) : List (Call σ) :=
  t.map .runtime ++ [.tick result w.envelope.state]

lemma authorised_mediating {before after : TaskEnvelope} {event : RuntimeEvent} :
    ∀ x ∈ c.authorised before event after, x.Mediating := by
  simp only [authorised, List.mem_append, List.mem_map, List.mem_singleton]
  rintro x (⟨r, _, rfl⟩ | rfl) <;> trivial

lemma refusal_mediating {t : List RuntimeCall} {operation : RuntimeOperation} {e : RuntimeError}
    {w : World σ} : ∀ x ∈ refusal t operation e w, x.Mediating := by
  simp only [refusal, List.mem_append, List.mem_map, List.mem_singleton]
  rintro x (⟨r, _, rfl⟩ | rfl) <;> trivial

lemma ticking_mediating {t : List RuntimeCall}
    {result : Except RuntimeError (List RuntimeEvent)} {w : World σ} :
    ∀ x ∈ ticking t result w, x.Mediating := by
  simp only [ticking, List.mem_append, List.mem_map, List.mem_singleton]
  rintro x (⟨r, _, rfl⟩ | rfl) <;> trivial

inductive Operated (operation : RuntimeOperation) (w : World σ) :
    Outcome (World σ) (Call σ) DeepLoopError RuntimeEvent → Prop
  | refused {e : RuntimeError} {w' : World σ} {t : List RuntimeCall} :
      DwRuntime.Applied c.runtime operation w ⟨.error e, w', t⟩ →
      Operated operation w ⟨.error (.runtime e), w', refusal t operation e w'⟩
  | applied {event : RuntimeEvent} {envelope : TaskEnvelope} {env : σ} :
      Core.applyOperation w.envelope operation = .ok (event, envelope) →
      Operated operation w ⟨.ok event, ⟨env, envelope⟩, c.authorised w.envelope event envelope⟩

inductive Closed (operation : RuntimeOperation) (report : DeepLoopRun) (w : World σ) :
    Ran σ → Prop
  | refused {e : RuntimeError} {w' : World σ} {t : List RuntimeCall} :
      DwRuntime.Applied c.runtime operation w ⟨.error e, w', t⟩ →
      Closed operation report w ⟨.error (.runtime e), w', refusal t operation e w'⟩
  | closed {event : RuntimeEvent} {envelope : TaskEnvelope} {env : σ} :
      Core.applyOperation w.envelope operation = .ok (event, envelope) →
      Closed operation report w ⟨.ok (.done report), ⟨env, envelope⟩,
        c.authorised w.envelope event envelope⟩

inductive Emitted (s : LoopState) (step : PlanStep) (subtask : SubtaskEnvelope) (w : World σ) :
    Ran σ → Prop
  | refused {e : DelegationError} {env : σ} :
      c.delegator.startSubtask ⟨subtask⟩ w.env = (.error e, env) →
      Emitted s step subtask w ⟨.error (.delegation e), w.withEnv env,
        [.startSubtask ⟨s.plan, step, w⟩ ⟨subtask⟩ (.error e)]⟩
  | unrecorded {handle : DelegationHandle} {e : PlanningError} {env env' : σ} :
      c.delegator.startSubtask ⟨subtask⟩ w.env = (.ok handle, env) →
      c.planner.recordStepResult ⟨s.plan, step.stepId, .completed⟩ env = (.error e, env') →
      Emitted s step subtask w ⟨.error (.planning e), w.withEnv env',
        [.startSubtask ⟨s.plan, step, w⟩ ⟨subtask⟩ (.ok handle),
          .recordStepResult ⟨s.plan, step.stepId, .completed⟩ (.error e)]⟩
  | emitted {handle : DelegationHandle} {plan : PlanDocument} {env env' : σ} :
      c.delegator.startSubtask ⟨subtask⟩ w.env = (.ok handle, env) →
      c.planner.recordStepResult ⟨s.plan, step.stepId, .completed⟩ env = (.ok plan, env') →
      Emitted s step subtask w ⟨.ok (.next (s.handed plan subtask)), w.withEnv env',
        [.startSubtask ⟨s.plan, step, w⟩ ⟨subtask⟩ (.ok handle),
          .recordStepResult ⟨s.plan, step.stepId, .completed⟩ (.ok plan)]⟩

lemma Emitted.envelope {s : LoopState} {step : PlanStep} {subtask : SubtaskEnvelope} {w : World σ}
    {o : Ran σ} (he : c.Emitted s step subtask w o) : o.world.envelope = w.envelope := by
  cases he <;> rfl

inductive Delegated (s : LoopState) (step : PlanStep) (w : World σ) : Ran σ → Prop
  | unchosen {e : DelegationError} {env : σ} :
      c.delegator.chooseDelegate (delegationRequest step step.title) w.env = (.error e, env) →
      Delegated s step w ⟨.error (.delegation e), w.withEnv env,
        [.chooseDelegate ⟨s.plan, step, w⟩ (delegationRequest step step.title) (.error e)]⟩
  | refused {decision : DelegationDecision} {e : RuntimeError} {env : σ} {w' : World σ}
      {t : List RuntimeCall} {operation : RuntimeOperation} :
      c.delegator.chooseDelegate (delegationRequest step step.title) w.env = (.ok decision, env) →
      operation = .delegate (buildSubtaskEnvelope w.envelope step decision).targetAgent →
      DwRuntime.Applied c.runtime operation (w.withEnv env) ⟨.error e, w', t⟩ →
      Delegated s step w ⟨.error (.runtime e), w',
        .chooseDelegate ⟨s.plan, step, w⟩ (delegationRequest step step.title) (.ok decision) ::
          refusal t operation e w'⟩
  | handed {decision : DelegationDecision} {event : RuntimeEvent} {envelope : TaskEnvelope}
      {env env' : σ} {o : Ran σ} :
      c.delegator.chooseDelegate (delegationRequest step step.title) w.env = (.ok decision, env) →
      Core.applyOperation w.envelope
        (.delegate (buildSubtaskEnvelope w.envelope step decision).targetAgent) =
          .ok (event, envelope) →
      c.Emitted s step (buildSubtaskEnvelope w.envelope step decision) ⟨env', envelope⟩ o →
      Delegated s step w (o.after
        (.chooseDelegate ⟨s.plan, step, w⟩ (delegationRequest step step.title) (.ok decision) ::
          c.authorised w.envelope event envelope))

inductive Judged (s : LoopState) (step : PlanStep) (stepContext : Option String) (w : World σ) :
    ReviewVerdict → Ran σ → Prop
  | unrecorded {verdict : ReviewVerdict} {e : PlanningError} {env : σ} :
      verdict = .accept ∨ verdict = .retry →
      c.planner.recordStepResult ⟨s.plan, step.stepId, .completed⟩ w.env = (.error e, env) →
      Judged s step stepContext w verdict ⟨.error (.planning e), w.withEnv env,
        [.recordStepResult ⟨s.plan, step.stepId, .completed⟩ (.error e)]⟩
  | recorded {verdict : ReviewVerdict} {plan : PlanDocument} {env : σ} :
      verdict = .accept ∨ verdict = .retry →
      c.planner.recordStepResult ⟨s.plan, step.stepId, .completed⟩ w.env = (.ok plan, env) →
      Judged s step stepContext w verdict ⟨.ok (.next (s.recorded plan)), w.withEnv env,
        [.recordStepResult ⟨s.plan, step.stepId, .completed⟩ (.ok plan)]⟩
  | unrevised {e : PlanningError} {env : σ} :
      c.planner.revisePlan (revisionRequest s step stepContext) w.env = (.error e, env) →
      Judged s step stepContext w .revise ⟨.error (.planning e), w.withEnv env,
        [.revisePlan (revisionRequest s step stepContext) (.error e)]⟩
  | revised {revision : PlanRevision} {env : σ} :
      c.planner.revisePlan (revisionRequest s step stepContext) w.env = (.ok revision, env) →
      Judged s step stepContext w .revise
        ⟨.ok (.done ((s.revised revision).report .revising)), w.withEnv env,
          [.revisePlan (revisionRequest s step stepContext) (.ok revision)]⟩
  | unchosen {e : DelegationError} {env : σ} :
      c.delegator.chooseDelegate (delegationRequest step ("review " ++ step.title)) w.env =
        (.error e, env) →
      Judged s step stepContext w .delegate ⟨.error (.delegation e), w.withEnv env,
        [.chooseDelegate ⟨s.plan, step, w⟩ (delegationRequest step ("review " ++ step.title))
          (.error e)]⟩
  | handed {decision : DelegationDecision} {env : σ} {o : Ran σ} :
      c.delegator.chooseDelegate (delegationRequest step ("review " ++ step.title)) w.env =
        (.ok decision, env) →
      c.Emitted s step (buildSubtaskEnvelope w.envelope step decision) (w.withEnv env) o →
      Judged s step stepContext w .delegate (o.after
        [.chooseDelegate ⟨s.plan, step, w⟩ (delegationRequest step ("review " ++ step.title))
          (.ok decision)])
  | failed {o : Ran σ} :
      c.Closed (.fail ("reflection failed step " ++ step.stepId)) (s.report .failed) w o →
      Judged s step stepContext w .fail o

inductive Produced (s : LoopState) (step : PlanStep) (stepContext : Option String) (w : World σ) :
    String → LoopState → σ → List (Call σ) → Prop
  | placeholder : c.executor = none →
      Produced s step stepContext w (placeholderBody step) s w.env []
  | executed {executor : StepExecutor σ} {execution : StepExecution} {env : σ} :
      c.executor = some executor →
      executor.executeStep (executionRequest s step stepContext) w.env = (.ok execution, env) →
      Produced s step stepContext w execution.body.toText (s.charged execution) env
        [.executeStep ⟨s.plan, step, w⟩ (executionRequest s step stepContext) (.ok execution)]

lemma Produced.plan {s s₁ : LoopState} {step : PlanStep} {stepContext : Option String}
    {w : World σ} {body : String} {env : σ} {calls : List (Call σ)}
    (h : c.Produced s step stepContext w body s₁ env calls) : s₁.plan = s.plan := by
  cases h <;> rfl

inductive Worked (s : LoopState) (action : PlannedAction) (step : PlanStep)
    (stepContext : Option String) (w : World σ) : Ran σ → Prop
  | unexecuted {executor : StepExecutor σ} {e : StepExecutionError} {env : σ} :
      c.executor = some executor →
      executor.executeStep (executionRequest s step stepContext) w.env = (.error e, env) →
      Worked s action step stepContext w ⟨.error (.execution e), w.withEnv env,
        [.executeStep ⟨s.plan, step, w⟩ (executionRequest s step stepContext) (.error e)]⟩
  | unstored {body : String} {s₁ : LoopState} {calls : List (Call σ)} {e : WorkspaceError}
      {env env' : σ} :
      c.Produced s step stepContext w body s₁ env calls →
      c.workspace.createArtifact (stepArtifact w.envelope s₁ action step body) env =
        (.error e, env') →
      Worked s action step stepContext w ⟨.error (.workspace e), w.withEnv env',
        calls ++ [.createArtifact ⟨s.plan, step, w.withEnv env⟩
          (stepArtifact w.envelope s₁ action step body) (.error e)]⟩
  | unreviewed {body : String} {s₁ : LoopState} {calls : List (Call σ)} {artifact : ArtifactRef}
      {e : ReflectionError} {env env₁ env' : σ} :
      c.Produced s step stepContext w body s₁ env calls →
      c.workspace.createArtifact (stepArtifact w.envelope s₁ action step body) env =
        (.ok artifact, env₁) →
      c.reflector.reviewStep ⟨step.stepId, artifact.artifactId, stepContext⟩ env₁ =
        (.error e, env') →
      Worked s action step stepContext w ⟨.error (.reflection e), w.withEnv env',
        calls ++ [.createArtifact ⟨s.plan, step, w.withEnv env⟩
            (stepArtifact w.envelope s₁ action step body) (.ok artifact),
          .reviewStep ⟨step.stepId, artifact.artifactId, stepContext⟩ (.error e)]⟩
  | invalid {body : String} {s₁ : LoopState} {calls : List (Call σ)} {artifact : ArtifactRef}
      {outcome : ReviewOutcome} {e : ReflectionError} {env env₁ env' : σ} :
      c.Produced s step stepContext w body s₁ env calls →
      c.workspace.createArtifact (stepArtifact w.envelope s₁ action step body) env =
        (.ok artifact, env₁) →
      c.reflector.reviewStep ⟨step.stepId, artifact.artifactId, stepContext⟩ env₁ =
        (.ok outcome, env') →
      outcome.validate = .error e →
      Worked s action step stepContext w ⟨.error (.reflection e), w.withEnv env',
        calls ++ [.createArtifact ⟨s.plan, step, w.withEnv env⟩
            (stepArtifact w.envelope s₁ action step body) (.ok artifact),
          .reviewStep ⟨step.stepId, artifact.artifactId, stepContext⟩ (.ok outcome)]⟩
  | judged {body : String} {s₁ : LoopState} {calls : List (Call σ)} {artifact : ArtifactRef}
      {outcome : ReviewOutcome} {env env₁ env' : σ} {o : Ran σ} :
      c.Produced s step stepContext w body s₁ env calls →
      c.workspace.createArtifact (stepArtifact w.envelope s₁ action step body) env =
        (.ok artifact, env₁) →
      c.reflector.reviewStep ⟨step.stepId, artifact.artifactId, stepContext⟩ env₁ =
        (.ok outcome, env') →
      outcome.Valid →
      c.Judged (s₁.stored artifact) step stepContext (w.withEnv env') outcome.verdict o →
      Worked s action step stepContext w (o.after
        (calls ++ [.createArtifact ⟨s.plan, step, w.withEnv env⟩
            (stepArtifact w.envelope s₁ action step body) (.ok artifact),
          .reviewStep ⟨step.stepId, artifact.artifactId, stepContext⟩ (.ok outcome)]))

inductive Executed (s : LoopState) (action : PlannedAction) (step : PlanStep)
    (stepContext : Option String) (w : World σ) : Ran σ → Prop
  | refused {e : RuntimeError} {w' : World σ} {t : List RuntimeCall} :
      c.runtime.tick.run w = ⟨.error e, w', t⟩ →
      Executed s action step stepContext w ⟨.error (.runtime e), w', ticking t (.error e) w'⟩
  | ticked {events : List RuntimeEvent} {w' : World σ} {t : List RuntimeCall} {o : Ran σ} :
      c.runtime.tick.run w = ⟨.ok events, w', t⟩ →
      c.Worked s action step stepContext w' o →
      Executed s action step stepContext w (o.after (ticking t (.ok events) w'))

inductive Acted (s : LoopState) (action : PlannedAction) (w : World σ) : Ran σ → Prop
  | missing :
      (∀ step ∈ s.plan.steps, step.stepId ≠ action.stepId) →
      Acted s action w ⟨.error (.missingStep action.stepId), w, []⟩
  | noContext {step : PlanStep} {e : ContextError} {env : σ} :
      c.context.buildContext (contextRequest step.title step.stepId) w.env = (.error e, env) →
      Acted s action w ⟨.error (.context e), w.withEnv env,
        [.buildContext (contextRequest step.title step.stepId) (.error e)]⟩
  | delegated {step : PlanStep} {package : ContextPackage} {env : σ} {o : Ran σ} :
      s.plan.steps.find? (fun step => step.stepId = action.stepId) = some step →
      c.context.buildContext (contextRequest step.title step.stepId) w.env = (.ok package, env) →
      step.kind = .delegate →
      c.Delegated s step (w.withEnv env) o →
      Acted s action w
        (o.after [.buildContext (contextRequest step.title step.stepId) (.ok package)])
  | executed {step : PlanStep} {package : ContextPackage} {env : σ} {o : Ran σ} :
      s.plan.steps.find? (fun step => step.stepId = action.stepId) = some step →
      c.context.buildContext (contextRequest step.title step.stepId) w.env = (.ok package, env) →
      step.kind ≠ .delegate →
      c.Executed s action step (rendered package) (w.withEnv env) o →
      Acted s action w
        (o.after [.buildContext (contextRequest step.title step.stepId) (.ok package)])

inductive Settled (s : LoopState) (planContext : Option String) (w : World σ) : Ran σ → Prop
  | delegating :
      s.emittedSubtasks ≠ [] →
      Settled s planContext w ⟨.ok (.done (s.report .delegating)), w, []⟩
  | unchecked {e : PlanningError} {env : σ} :
      s.emittedSubtasks = [] →
      c.planner.evaluateCompletion ⟨s.plan⟩ w.env = (.error e, env) →
      Settled s planContext w ⟨.error (.planning e), w.withEnv env,
        [.evaluateCompletion ⟨s.plan⟩ (.error e)]⟩
  | incomplete {env : σ} :
      s.emittedSubtasks = [] →
      c.planner.evaluateCompletion ⟨s.plan⟩ w.env = (.ok .incomplete, env) →
      Settled s planContext w ⟨.ok (.next s), w.withEnv env,
        [.evaluateCompletion ⟨s.plan⟩ (.ok .incomplete)]⟩
  | unsatisfied {env : σ} {o : Ran σ} :
      s.emittedSubtasks = [] →
      c.planner.evaluateCompletion ⟨s.plan⟩ w.env = (.ok .unsatisfied, env) →
      c.Closed (.fail "completion check unsatisfied") (s.report .failed) (w.withEnv env) o →
      Settled s planContext w (o.after [.evaluateCompletion ⟨s.plan⟩ (.ok .unsatisfied)])
  | unreviewed {e : ReflectionError} {env env' : σ} :
      s.emittedSubtasks = [] →
      c.planner.evaluateCompletion ⟨s.plan⟩ w.env = (.ok .satisfied, env) →
      c.reflector.reviewFinal (finalReviewRequest w.envelope s planContext) env =
        (.error e, env') →
      Settled s planContext w ⟨.error (.reflection e), w.withEnv env',
        [.evaluateCompletion ⟨s.plan⟩ (.ok .satisfied),
          .reviewFinal (finalReviewRequest w.envelope s planContext) (.error e)]⟩
  | invalid {outcome : ReviewOutcome} {e : ReflectionError} {env env' : σ} :
      s.emittedSubtasks = [] →
      c.planner.evaluateCompletion ⟨s.plan⟩ w.env = (.ok .satisfied, env) →
      c.reflector.reviewFinal (finalReviewRequest w.envelope s planContext) env =
        (.ok outcome, env') →
      outcome.validate = .error e →
      Settled s planContext w ⟨.error (.reflection e), w.withEnv env',
        [.evaluateCompletion ⟨s.plan⟩ (.ok .satisfied),
          .reviewFinal (finalReviewRequest w.envelope s planContext) (.ok outcome)]⟩
  | failed {outcome : ReviewOutcome} {env env' : σ} {o : Ran σ} :
      s.emittedSubtasks = [] →
      c.planner.evaluateCompletion ⟨s.plan⟩ w.env = (.ok .satisfied, env) →
      c.reflector.reviewFinal (finalReviewRequest w.envelope s planContext) env =
        (.ok outcome, env') →
      outcome.Valid → outcome.verdict = .fail →
      c.Closed (.fail "final review failed") (s.report .failed) (w.withEnv env') o →
      Settled s planContext w (o.after
        [.evaluateCompletion ⟨s.plan⟩ (.ok .satisfied),
          .reviewFinal (finalReviewRequest w.envelope s planContext) (.ok outcome)])
  | completed {outcome : ReviewOutcome} {env env' : σ} {o : Ran σ} :
      s.emittedSubtasks = [] →
      c.planner.evaluateCompletion ⟨s.plan⟩ w.env = (.ok .satisfied, env) →
      c.reflector.reviewFinal (finalReviewRequest w.envelope s planContext) env =
        (.ok outcome, env') →
      outcome.Valid → outcome.verdict ≠ .fail →
      c.Closed .complete (s.report .completed) (w.withEnv env') o →
      Settled s planContext w (o.after
        [.evaluateCompletion ⟨s.plan⟩ (.ok .satisfied),
          .reviewFinal (finalReviewRequest w.envelope s planContext) (.ok outcome)])

inductive Iterated (s : LoopState) (w : World σ) : Ran σ → Prop
  | noContext {e : ContextError} {env : σ} :
      c.context.buildContext (contextRequest s.plan.goal s.plan.planId) w.env = (.error e, env) →
      Iterated s w ⟨.error (.context e), w.withEnv env,
        [.buildContext (contextRequest s.plan.goal s.plan.planId) (.error e)]⟩
  | noActions {package : ContextPackage} {e : PlanningError} {env env' : σ} :
      c.context.buildContext (contextRequest s.plan.goal s.plan.planId) w.env =
        (.ok package, env) →
      c.planner.nextActions ⟨s.plan, rendered package⟩ env = (.error e, env') →
      Iterated s w ⟨.error (.planning e), w.withEnv env',
        [.buildContext (contextRequest s.plan.goal s.plan.planId) (.ok package),
          .nextActions ⟨s.plan, rendered package⟩ (.error e)]⟩
  | settled {package : ContextPackage} {env env' : σ} {o : Ran σ} :
      c.context.buildContext (contextRequest s.plan.goal s.plan.planId) w.env =
        (.ok package, env) →
      c.planner.nextActions ⟨s.plan, rendered package⟩ env = (.ok [], env') →
      c.Settled s (rendered package) (w.withEnv env') o →
      Iterated s w (o.after
        [.buildContext (contextRequest s.plan.goal s.plan.planId) (.ok package),
          .nextActions ⟨s.plan, rendered package⟩ (.ok [])])
  | acted {package : ContextPackage} {actions : List PlannedAction} {env env' : σ} :
      c.context.buildContext (contextRequest s.plan.goal s.plan.planId) w.env =
        (.ok package, env) →
      c.planner.nextActions ⟨s.plan, rendered package⟩ env = (.ok actions, env') →
      actions ≠ [] →
      Iterated s w (((Traced.forEach c.runAction s actions).run (w.withEnv env')).after
        [.buildContext (contextRequest s.plan.goal s.plan.planId) (.ok package),
          .nextActions ⟨s.plan, rendered package⟩ (.ok actions)])

inductive Started (w : World σ) : Outcome (World σ) (Call σ) DeepLoopError Unit → Prop
  | skipped : w.envelope.state ≠ .created → Started w ⟨.ok (), w, []⟩
  | refused {e : RuntimeError} {w' : World σ} {t : List RuntimeCall} :
      w.envelope.state = .created →
      DwRuntime.Applied c.runtime .start w ⟨.error e, w', t⟩ →
      Started w ⟨.error (.runtime e), w', refusal t .start e w'⟩
  | started {event : RuntimeEvent} {envelope : TaskEnvelope} {env : σ} :
      w.envelope.state = .created →
      Core.applyOperation w.envelope .start = .ok (event, envelope) →
      Started w ⟨.ok (), ⟨env, envelope⟩, c.authorised w.envelope event envelope⟩

lemma operated_cases (operation : RuntimeOperation) (w : World σ) :
    c.Operated operation w ((operated operation (c.runtime.applyOperation operation)).run w) := by
  have h := c.runtime.applyOperation_cases operation w
  rcases hr : (c.runtime.applyOperation operation).run w with ⟨e | event, w', t⟩
  · rw [hr] at h
    simpa [operated, hr, Except.mapError, refusal] using Operated.refused h
  · rw [hr] at h
    cases h with
    | applied hc =>
      have hop : event.operation = operation := (Core.applyOperation_ok hc).2.1
      simpa [operated, hr, Except.mapError, authorised, hop] using Operated.applied (c := c) hc

lemma closed_cases (operation : RuntimeOperation) (report : DeepLoopRun) (w : World σ) :
    c.Closed operation report w
      ((operated operation (c.runtime.applyOperation operation) >>= fun _ =>
        pure (.done report)).run w) := by
  have h := c.operated_cases operation w
  rw [Traced.run_bind]
  generalize (operated operation (c.runtime.applyOperation operation)).run w = o at h
  cases h with
  | refused h => exact .refused h
  | applied h => simpa using Closed.closed (c := c) h

lemma emitSubtask_cases (s : LoopState) (step : PlanStep) (subtask : SubtaskEnvelope)
    (w : World σ) : c.Emitted s step subtask w ((c.emitSubtask s step subtask).run w) := by
  rcases h : c.delegator.startSubtask ⟨subtask⟩ w.env with ⟨e | handle, env⟩
  · simpa [emitSubtask, h, Except.mapError] using Emitted.refused h
  rcases h' : c.planner.recordStepResult ⟨s.plan, step.stepId, .completed⟩ env with ⟨e | plan, env'⟩
  · simpa [emitSubtask, recordCompleted, h, h', Except.mapError] using Emitted.unrecorded h h'
  · simpa [emitSubtask, recordCompleted, h, h', Except.mapError] using Emitted.emitted h h'

lemma delegateStep_cases (s : LoopState) (step : PlanStep) (w : World σ) :
    c.Delegated s step w ((c.delegateStep s step).run w) := by
  rcases h : c.delegator.chooseDelegate (delegationRequest step step.title) w.env with
    ⟨e | decision, env⟩
  · simpa [delegateStep, chooseDelegate, h, Except.mapError] using Delegated.unchosen (s := s) h
  have ho := c.operated_cases
    (.delegate (buildSubtaskEnvelope w.envelope step decision).targetAgent) (w.withEnv env)
  simp only [delegateStep, chooseDelegate, DwRuntime.delegate, Traced.run_bind, Traced.run_get,
    Traced.andThen_ok, World.run_ask, h, Except.mapError, World.withEnv_envelope,
    Outcome.after_nil]
  generalize (operated _ _).run (w.withEnv env) = o at ho
  cases ho with
  | refused ha => simpa using Delegated.refused h rfl ha
  | applied ha =>
    simpa using Delegated.handed h ha (c.emitSubtask_cases s step _ ⟨_, _⟩)

lemma onVerdict_cases (s : LoopState) (step : PlanStep) (stepContext : Option String)
    (verdict : ReviewVerdict) (w : World σ) :
    c.Judged s step stepContext w verdict ((c.onVerdict s step stepContext verdict).run w) := by
  have hrecord : ∀ v : ReviewVerdict, v = .accept ∨ v = .retry →
      c.Judged s step stepContext w v
        ((c.recordCompleted s.plan step >>= fun plan => pure (.next (s.recorded plan))).run w) := by
    intro v hv
    rcases h : c.planner.recordStepResult ⟨s.plan, step.stepId, .completed⟩ w.env with ⟨e | plan, env⟩
    · simpa [recordCompleted, h, Except.mapError] using Judged.unrecorded hv h
    · simpa [recordCompleted, h, Except.mapError] using Judged.recorded hv h
  cases verdict with
  | accept => exact hrecord .accept (Or.inl rfl)
  | retry => exact hrecord .retry (Or.inr rfl)
  | revise =>
    rcases h : c.planner.revisePlan (revisionRequest s step stepContext) w.env with ⟨e | revision, env⟩
    · simpa [onVerdict, h, Except.mapError] using Judged.unrevised h
    · simpa [onVerdict, h, Except.mapError] using Judged.revised h
  | delegate =>
    rcases h : c.delegator.chooseDelegate (delegationRequest step ("review " ++ step.title)) w.env
      with ⟨e | decision, env⟩
    · simpa [onVerdict, chooseDelegate, h, Except.mapError] using Judged.unchosen (s := s) h
    · have he := c.emitSubtask_cases s step (buildSubtaskEnvelope w.envelope step decision)
        (w.withEnv env)
      have hj : c.Judged s step stepContext w .delegate _ := .handed h he
      simpa [onVerdict, chooseDelegate, h, Except.mapError] using hj
  | fail => exact .failed (c.closed_cases _ _ w)

lemma produceBody_cases (s : LoopState) (step : PlanStep) (stepContext : Option String)
    (w : World σ) :
    (∃ executor e env, c.executor = some executor ∧
      executor.executeStep (executionRequest s step stepContext) w.env = (.error e, env) ∧
      (c.produceBody s step stepContext).run w = ⟨.error (.execution e), w.withEnv env,
        [.executeStep ⟨s.plan, step, w⟩ (executionRequest s step stepContext) (.error e)]⟩) ∨
    (∃ body s₁ env calls, c.Produced s step stepContext w body s₁ env calls ∧
      (c.produceBody s step stepContext).run w = ⟨.ok (body, s₁), w.withEnv env, calls⟩) := by
  cases hx : c.executor with
  | none => exact Or.inr ⟨_, _, _, _, .placeholder hx, by simp [produceBody, hx, World.withEnv]⟩
  | some executor =>
    rcases h : executor.executeStep (executionRequest s step stepContext) w.env with
      ⟨e | execution, env⟩
    · exact Or.inl ⟨executor, e, env, rfl, h, by simp [produceBody, hx, h, Except.mapError]⟩
    · exact Or.inr ⟨_, _, _, _, .executed hx h, by simp [produceBody, hx, h, Except.mapError]⟩

lemma executeStep_cases (s : LoopState) (action : PlannedAction) (step : PlanStep)
    (stepContext : Option String) (w : World σ) :
    c.Executed s action step stepContext w
      ((c.executeStep s action step stepContext).run w) := by
  rcases ht : c.runtime.tick.run w with ⟨e | events, w₀, t⟩
  · simpa [executeStep, executeAction, ht, Except.mapError, ticking] using Executed.refused ht
  suffices hw : c.Worked s action step stepContext w₀
      ((c.produceBody s step stepContext >>= fun p => do
        let artifact ← c.createArtifact p.2 action step p.1
        let verdict ← c.reviewStep step artifact.artifactId stepContext
        c.onVerdict (p.2.stored artifact) step stepContext verdict).run w₀) by
    simpa [executeStep, executeAction, ht, Except.mapError, ticking] using Executed.ticked ht hw
  rcases c.produceBody_cases s step stepContext w₀ with
    ⟨executor, e, env, hx, h, hr⟩ | ⟨body, s₁, env, calls, hp, hr⟩
  · simpa [hr] using Worked.unexecuted hx h
  rcases ha : c.workspace.createArtifact (stepArtifact w₀.envelope s₁ action step body) env with
    ⟨e | artifact, env₁⟩
  · simpa [hr, createArtifact, ha, Except.mapError, hp.plan] using Worked.unstored hp ha
  rcases hv : c.reflector.reviewStep ⟨step.stepId, artifact.artifactId, stepContext⟩ env₁ with
    ⟨e | outcome, env'⟩
  · simpa [hr, createArtifact, reviewStep, ha, hv, Except.mapError, hp.plan] using
      Worked.unreviewed hp ha hv
  cases hval : outcome.validate with
  | error e =>
    simpa [hr, createArtifact, reviewStep, ha, hv, hval, Except.mapError, hp.plan] using
      Worked.invalid hp ha hv hval
  | ok u =>
    simpa [hr, createArtifact, reviewStep, ha, hv, hval, Except.mapError, hp.plan] using
      Worked.judged hp ha hv hval (c.onVerdict_cases _ step stepContext outcome.verdict _)

theorem runAction_cases (s : LoopState) (action : PlannedAction) (w : World σ) :
    c.Acted s action w ((c.runAction s action).run w) := by
  cases hf : s.plan.steps.find? fun step => step.stepId = action.stepId with
  | none => simpa [runAction, hf] using Acted.missing (by simpa using hf)
  | some step =>
    rcases hc : c.context.buildContext (contextRequest step.title step.stepId) w.env with
      ⟨e | package, env⟩
    · simpa [runAction, hf, renderedContext, hc, Except.mapError] using Acted.noContext hc
    · by_cases hk : step.kind = .delegate
      · simpa [runAction, hf, renderedContext, hc, hk, Except.mapError] using
          Acted.delegated hf hc hk (c.delegateStep_cases s step (w.withEnv env))
      · have h := Acted.executed hf hc hk
          (c.executeStep_cases s action step (rendered package) (w.withEnv env))
        cases hk' : step.kind with
        | delegate => exact absurd hk' hk
        | research => simpa [runAction, hf, renderedContext, hc, hk', Except.mapError] using h
        | toolCall => simpa [runAction, hf, renderedContext, hc, hk', Except.mapError] using h
        | review => simpa [runAction, hf, renderedContext, hc, hk', Except.mapError] using h

lemma settle_cases (s : LoopState) (planContext : Option String) (w : World σ) :
    c.Settled s planContext w ((c.settle s planContext).run w) := by
  by_cases hs : s.emittedSubtasks = []
  swap
  · simpa [settle, hs] using Settled.delegating hs
  rcases he : c.planner.evaluateCompletion ⟨s.plan⟩ w.env with ⟨e | _ | _ | _, env⟩
  · simpa [settle, hs, he, Except.mapError] using Settled.unchecked hs he
  · simpa [settle, hs, he, Except.mapError] using Settled.incomplete hs he
  · rcases hr : c.reflector.reviewFinal (finalReviewRequest w.envelope s planContext) env with
      ⟨e | outcome, env'⟩
    · simpa [settle, hs, he, reviewFinal, hr, Except.mapError] using Settled.unreviewed hs he hr
    cases hval : outcome.validate with
    | error e =>
      simpa [settle, hs, he, reviewFinal, hr, hval, Except.mapError] using
        Settled.invalid hs he hr hval
    | ok u =>
      by_cases hv : outcome.verdict = .fail
      · simpa [settle, hs, he, reviewFinal, hr, hval, hv, DwRuntime.fail, Except.mapError] using
          Settled.failed hs he hr hval hv (c.closed_cases _ _ _)
      · have h := Settled.completed hs he hr hval hv (c.closed_cases .complete _ _)
        cases hv' : outcome.verdict <;>
          first
          | exact absurd hv' hv
          | simpa [settle, hs, he, reviewFinal, hr, hval, hv', DwRuntime.complete, Except.mapError]
              using h
  · simpa [settle, hs, he, DwRuntime.fail, Except.mapError] using
      Settled.unsatisfied hs he (c.closed_cases _ _ _)

theorem runIteration_cases (s : LoopState) (i : ℕ) (w : World σ) :
    c.Iterated s w ((c.runIteration s i).run w) := by
  rcases hc : c.context.buildContext (contextRequest s.plan.goal s.plan.planId) w.env with
    ⟨e | package, env⟩
  · simpa [runIteration, renderedContext, hc, Except.mapError] using Iterated.noContext hc
  rcases hn : c.planner.nextActions ⟨s.plan, rendered package⟩ env with ⟨e | actions, env'⟩
  · simpa [runIteration, renderedContext, hc, hn, Except.mapError] using Iterated.noActions hc hn
  by_cases ha : actions = []
  · subst ha
    simpa [runIteration, renderedContext, hc, hn, Except.mapError] using
      Iterated.settled hc hn (c.settle_cases s (rendered package) (w.withEnv env'))
  · simpa [runIteration, renderedContext, hc, hn, ha, Except.mapError] using
      Iterated.acted hc hn ha

lemma startTask_cases (w : World σ) : c.Started w (c.startTask.run w) := by
  by_cases hs : w.envelope.state = .created
  swap
  · simpa [startTask, hs] using Started.skipped hs
  have h := c.operated_cases .start w
  simp only [startTask, hs, DwRuntime.start, Traced.run_bind, Traced.run_get, Traced.andThen_ok,
    if_true, Outcome.after_nil]
  generalize (operated _ _).run w = o at h
  cases h with
  | refused h => simpa using Started.refused hs h
  | applied h => simpa using Started.started hs h

end DeepLoopCoordinator

end GreenticDw

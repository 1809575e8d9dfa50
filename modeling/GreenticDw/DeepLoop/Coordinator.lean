import GreenticDw.DeepLoop.StepExecutor
import GreenticDw.Providers.Context
import GreenticDw.Providers.Delegation
import GreenticDw.Providers.Reflection
import GreenticDw.Providers.Workspace
import GreenticDw.Runtime.Kernel
import GreenticDw.Traced.Loops

/-! The deep loop: it asks the planner for actions, delegates or executes each of them under the
authority of the runtime, has the outputs reviewed and records the results in the plan. -/

namespace GreenticDw

inductive DeepLoopStatus where
  | idle
  | planning
  | executing
  | reflecting
  | revising
  | delegating
  | completed
  | failed
  | budgetExhausted
  deriving DecidableEq, Repr

structure DeepLoopRun where
  plan : PlanDocument
  status : DeepLoopStatus
  emittedSubtasks : List SubtaskEnvelope
  outputArtifactIds : List String
  toolCallsUsed : ℕ
  deriving DecidableEq, Repr

inductive DeepLoopError where
  | runtime (error : RuntimeError)
  | planning (error : PlanningError)
  | context (error : ContextError)
  | workspace (error : WorkspaceError)
  | reflection (error : ReflectionError)
  | delegation (error : DelegationError)
  | execution (error : StepExecutionError)
  | missingStep (stepId : String)
  | iterationLimitExceeded
  deriving DecidableEq, Repr

structure DeepLoopCoordinator (σ : Type) where
  runtime : DwRuntime σ
  planner : PlanningProvider σ
  context : ContextProvider σ
  workspace : WorkspaceProvider σ
  reflector : ReflectionProvider σ
  delegator : DelegationProvider σ
  maxIterations : ℕ
  executor : Option (StepExecutor σ)

structure Moment (σ : Type) where
  plan : PlanDocument
  step : PlanStep
  world : World σ

/-- The calls the loop makes. The calls that act on a step carry the moment they are made at, an
operation or a tick the state it leaves the task in. -/
inductive Call (σ : Type) where
  | runtime (call : RuntimeCall)
  | operation (operation : RuntimeOperation) (result : Except RuntimeError RuntimeEvent)
      (state : TaskLifecycleState)
  | tick (result : Except RuntimeError (List RuntimeEvent)) (state : TaskLifecycleState)
  | buildContext (request : BuildContextRequest) (answer : Except ContextError ContextPackage)
  | nextActions (request : NextActionsRequest) (answer : Except PlanningError (List PlannedAction))
  | evaluateCompletion (request : CompletionCheckRequest)
      (answer : Except PlanningError CompletionState)
  | recordStepResult (request : StepResultRequest) (answer : Except PlanningError PlanDocument)
  | revisePlan (request : RevisePlanRequest) (answer : Except PlanningError PlanRevision)
  | reviewStep (request : ReviewStepRequest) (answer : Except ReflectionError ReviewOutcome)
  | reviewFinal (request : ReviewFinalRequest) (answer : Except ReflectionError ReviewOutcome)
  | chooseDelegate (moment : Moment σ) (request : DelegationRequest)
      (answer : Except DelegationError DelegationDecision)
  | startSubtask (moment : Moment σ) (request : StartSubtaskRequest)
      (answer : Except DelegationError DelegationHandle)
  | executeStep (moment : Moment σ) (request : ExecuteStepRequest)
      (answer : Except StepExecutionError StepExecution)
  | createArtifact (moment : Moment σ) (request : CreateArtifactRequest)
      (answer : Except WorkspaceError ArtifactRef)

structure LoopState where
  plan : PlanDocument
  emittedSubtasks : List SubtaskEnvelope
  outputArtifactIds : List String
  artifactSeq : UInt32
  toolBudget : ToolBudget
  stepOutputs : List Value

def LoopState.report (s : LoopState) (status : DeepLoopStatus) : DeepLoopRun :=
  ⟨s.plan, status, s.emittedSubtasks, s.outputArtifactIds, s.toolBudget.used⟩

def LoopState.stored (s : LoopState) (artifact : ArtifactRef) : LoopState :=
  { s with
    outputArtifactIds := s.outputArtifactIds ++ [artifact.artifactId]
    artifactSeq := s.artifactSeq + 1 }

def LoopState.recorded (s : LoopState) (plan : PlanDocument) : LoopState := { s with plan }

def LoopState.handed (s : LoopState) (plan : PlanDocument) (subtask : SubtaskEnvelope) :
    LoopState :=
  { s with plan, emittedSubtasks := s.emittedSubtasks ++ [subtask] }

def LoopState.revised (s : LoopState) (revision : PlanRevision) : LoopState :=
  { s with plan := { s.plan with revision := revision.revision } }

def LoopState.charged (s : LoopState) (execution : StepExecution) : LoopState :=
  { s with
    toolBudget := s.toolBudget.charge s.toolBudget.grant execution.toolCallsUsed
    stepOutputs := s.stepOutputs ++ [execution.body] }

abbrev Loop (σ : Type) := Traced (World σ) (Call σ) DeepLoopError

def subtaskTarget (step : PlanStep) (decision : DelegationDecision) : String :=
  match decision.mode with
  | .none => step.assignedAgent.getD "delegate"
  | _ => (decision.targetAgents.head?.or step.assignedAgent).getD "delegate"

def buildSubtaskEnvelope (envelope : TaskEnvelope) (step : PlanStep)
    (decision : DelegationDecision) : SubtaskEnvelope where
  subtaskId := envelope.taskId ++ "::" ++ step.stepId
  parentRunId := envelope.taskId
  correlationId := envelope.taskId ++ "::" ++ step.stepId ++ "::delegation"
  sourceAgentId := envelope.workerId
  targetAgent := subtaskTarget step decision
  toolId := (step.assignedAgent.map (· ++ "_delegate")).getD "delegate"
  goal := step.title
  contextPackageRef := "context://" ++ step.stepId
  contextScope := .parentTaskOnly
  expectedOutputSchema := step.outputSchemaRef.getD "schema://step-output"
  permissionsProfile := "restricted"
  deadline := "2026-04-16T00:00:00Z"
  returnPolicy :=
    match decision.mergePolicy with
    | .collectAll => .collectAll
    | _ => .firstReturn

def placeholderBody (step : PlanStep) : String := "\x7b\"step_id\":\"" ++ step.stepId ++ "\"\x7d"

def stepArtifact (envelope : TaskEnvelope) (s : LoopState) (action : PlannedAction)
    (step : PlanStep) (body : String) : CreateArtifactRequest where
  artifact :=
    { artifactId := "artifact://" ++ s.plan.planId ++ "/" ++ step.stepId ++ "/" ++
        toString s.artifactSeq
      kind := .toolOutput
      scope :=
        { tenant := envelope.scope.tenant
          team := envelope.scope.team
          session := envelope.taskId
          agent := some envelope.workerId
          run := s.plan.planId } }
  metadata :=
    { title := "Output for " ++ step.title
      tags := [action.action]
      mimeType := some "application/json" }
  body := body

def delegationRequest (step : PlanStep) (goal : String) : DelegationRequest :=
  ⟨goal, step.assignedAgent.toList⟩

def finalReviewRequest (envelope : TaskEnvelope) (s : LoopState) (planContext : Option String) :
    ReviewFinalRequest where
  runId := envelope.taskId
  outputArtifactRef := s.outputArtifactIds.getLast?.getD "artifact://deep-loop/final"
  context := planContext

def revisionRequest (s : LoopState) (step : PlanStep) (stepContext : Option String) :
    RevisePlanRequest where
  plan := s.plan
  reason := "reflection requested revision for " ++ step.stepId
  context := stepContext

def executionRequest (s : LoopState) (step : PlanStep) (stepContext : Option String) :
    ExecuteStepRequest where
  goal := s.plan.goal
  step := step
  context := stepContext
  priorOutputs := s.stepOutputs
  maxToolCalls := s.toolBudget.grant

def contextRequest (query fragmentRef : String) : BuildContextRequest :=
  ⟨[fragmentRef], some query, ⟨8, 16384⟩⟩

def rendered (package : ContextPackage) : Option String :=
  if renderContext package = "" then none else some (renderContext package)

namespace DeepLoopCoordinator

variable {σ : Type} (c : DeepLoopCoordinator σ)

def renderedContext (query fragmentRef : String) : Loop σ (Option String) := do
  let package ← World.ask (c.context.buildContext (contextRequest query fragmentRef))
    (.buildContext (contextRequest query fragmentRef)) .context
  pure (rendered package)

def operated (operation : RuntimeOperation)
    (m : Traced (World σ) RuntimeCall RuntimeError RuntimeEvent) : Loop σ RuntimeEvent :=
  ((m.relabel .runtime).logged fun r w => .operation operation r w.envelope.state).mapError .runtime

def executeAction : Loop σ (List RuntimeEvent) :=
  ((c.runtime.tick.relabel .runtime).logged fun r w => .tick r w.envelope.state).mapError .runtime

def chooseDelegate (s : LoopState) (step : PlanStep) (goal : String) :
    Loop σ DelegationDecision := do
  let w ← Traced.get
  let request := delegationRequest step goal
  World.ask (c.delegator.chooseDelegate request) (.chooseDelegate ⟨s.plan, step, w⟩ request)
    .delegation

def recordCompleted (plan : PlanDocument) (step : PlanStep) : Loop σ PlanDocument :=
  World.ask (c.planner.recordStepResult ⟨plan, step.stepId, .completed⟩)
    (.recordStepResult ⟨plan, step.stepId, .completed⟩) .planning

def emitSubtask (s : LoopState) (step : PlanStep) (subtask : SubtaskEnvelope) :
    Loop σ (Flow LoopState DeepLoopRun) := do
  let w ← Traced.get
  let _ ← World.ask (c.delegator.startSubtask ⟨subtask⟩)
    (.startSubtask ⟨s.plan, step, w⟩ ⟨subtask⟩) .delegation
  let plan ← c.recordCompleted s.plan step
  pure (.next (s.handed plan subtask))

def delegateStep (s : LoopState) (step : PlanStep) : Loop σ (Flow LoopState DeepLoopRun) := do
  let decision ← c.chooseDelegate s step step.title
  let w ← Traced.get
  let subtask := buildSubtaskEnvelope w.envelope step decision
  let _ ← operated (.delegate subtask.targetAgent) (c.runtime.delegate subtask.targetAgent)
  c.emitSubtask s step subtask

def produceBody (s : LoopState) (step : PlanStep) (stepContext : Option String) :
    Loop σ (String × LoopState) :=
  match c.executor with
  | none => pure (placeholderBody step, s)
  | some executor => do
    let w ← Traced.get
    let request := executionRequest s step stepContext
    let execution ← World.ask (executor.executeStep request)
      (.executeStep ⟨s.plan, step, w⟩ request) .execution
    pure (execution.body.toText, s.charged execution)

def createArtifact (s : LoopState) (action : PlannedAction) (step : PlanStep) (body : String) :
    Loop σ ArtifactRef := do
  let w ← Traced.get
  let request := stepArtifact w.envelope s action step body
  World.ask (c.workspace.createArtifact request) (.createArtifact ⟨s.plan, step, w⟩ request)
    .workspace

def reviewStep (step : PlanStep) (artifactId : String) (stepContext : Option String) :
    Loop σ ReviewVerdict := do
  let request := ReviewStepRequest.mk step.stepId artifactId stepContext
  let review ← World.ask (c.reflector.reviewStep request) (.reviewStep request) .reflection
  Traced.ofExcept (review.validate.mapError .reflection)
  pure review.verdict

def onVerdict (s : LoopState) (step : PlanStep) (stepContext : Option String) :
    ReviewVerdict → Loop σ (Flow LoopState DeepLoopRun)
  | .accept | .retry => do
    let plan ← c.recordCompleted s.plan step
    pure (.next (s.recorded plan))
  | .revise => do
    let request := revisionRequest s step stepContext
    let revision ← World.ask (c.planner.revisePlan request) (.revisePlan request) .planning
    pure (.done ((s.revised revision).report .revising))
  | .delegate => do
    let decision ← c.chooseDelegate s step ("review " ++ step.title)
    let w ← Traced.get
    let subtask := buildSubtaskEnvelope w.envelope step decision
    c.emitSubtask s step subtask
  | .fail => do
    let reason := "reflection failed step " ++ step.stepId
    let _ ← operated (.fail reason) (c.runtime.fail reason)
    pure (.done (s.report .failed))

def executeStep (s : LoopState) (action : PlannedAction) (step : PlanStep)
    (stepContext : Option String) : Loop σ (Flow LoopState DeepLoopRun) := do
  let _ ← c.executeAction
  let (body, s) ← c.produceBody s step stepContext
  let artifact ← c.createArtifact s action step body
  let verdict ← c.reviewStep step artifact.artifactId stepContext
  c.onVerdict (s.stored artifact) step stepContext verdict

def runAction (s : LoopState) (action : PlannedAction) : Loop σ (Flow LoopState DeepLoopRun) :=
  match s.plan.steps.find? fun step => step.stepId = action.stepId with
  | none => Traced.throw (.missingStep action.stepId)
  | some step => do
    let stepContext ← c.renderedContext step.title step.stepId
    match step.kind with
    | .delegate => c.delegateStep s step
    | _ => c.executeStep s action step stepContext

def reviewFinal (s : LoopState) (planContext : Option String) : Loop σ ReviewVerdict := do
  let w ← Traced.get
  let request := finalReviewRequest w.envelope s planContext
  let outcome ← World.ask (c.reflector.reviewFinal request) (.reviewFinal request) .reflection
  Traced.ofExcept (outcome.validate.mapError .reflection)
  pure outcome.verdict

def settle (s : LoopState) (planContext : Option String) :
    Loop σ (Flow LoopState DeepLoopRun) := do
  if s.emittedSubtasks ≠ [] then
    pure (.done (s.report .delegating))
  else
    match ← World.ask (c.planner.evaluateCompletion ⟨s.plan⟩) (.evaluateCompletion ⟨s.plan⟩)
        .planning with
    | .satisfied =>
      match ← c.reviewFinal s planContext with
      | .fail =>
        let _ ← operated (.fail "final review failed") (c.runtime.fail "final review failed")
        pure (.done (s.report .failed))
      | _ =>
        let _ ← operated .complete c.runtime.complete
        pure (.done (s.report .completed))
    | .unsatisfied =>
      let _ ← operated (.fail "completion check unsatisfied")
        (c.runtime.fail "completion check unsatisfied")
      pure (.done (s.report .failed))
    | .incomplete => pure (.next s)

def runIteration (s : LoopState) (_ : ℕ) : Loop σ (Flow LoopState DeepLoopRun) := do
  let planContext ← c.renderedContext s.plan.goal s.plan.planId
  let request := NextActionsRequest.mk s.plan planContext
  let actions ← World.ask (c.planner.nextActions request) (.nextActions request) .planning
  if actions = [] then
    c.settle s planContext
  else
    Traced.forEach c.runAction s actions

def initialState (plan : PlanDocument) : LoopState :=
  ⟨plan, [], [], 0, ToolBudget.forIterations c.maxIterations, []⟩

@[simp] lemma initialState_plan (plan : PlanDocument) : (c.initialState plan).plan = plan := rfl

def startTask : Loop σ Unit := do
  let w ← Traced.get
  if w.envelope.state = .created then
    let _ ← operated .start c.runtime.start
  else
    pure ()

def conclude : Flow LoopState DeepLoopRun → DeepLoopRun
  | .done report => report
  | .next s => s.report .budgetExhausted

@[simp] lemma conclude_done (report : DeepLoopRun) : conclude (.done report) = report := rfl

def run (plan : PlanDocument) : Loop σ DeepLoopRun := do
  c.startTask
  let flow ←
    Traced.forEach c.runIteration (c.initialState plan) (List.range c.maxIterations)
  pure (conclude flow)

end DeepLoopCoordinator

end GreenticDw

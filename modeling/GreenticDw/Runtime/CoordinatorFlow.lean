import GreenticDw.Providers.Subtasks
import GreenticDw.Runtime.Kernel
import GreenticDw.Runtime.WorkerRegistry

/-! The coordinator flow: worker tools are called one after the other, each through a handoff the
registry permits, and the results are composed into a final response. -/

namespace GreenticDw

open Text

structure WorkerToolInvocationRequest where
  parentRunId : String
  correlationId : String
  sourceAgentId : String
  toolId : String
  goal : String
  contextPackageRef : String
  contextScope : HandoffContextScope
  permissionsProfile : String
  deadline : String
  returnPolicy : HandoffReturnPolicy
  deriving DecidableEq, Repr

structure WorkerToolInvocation where
  envelope : SubtaskEnvelope
  handle : DelegationHandle
  deriving DecidableEq, Repr

inductive WorkerToolResultValidationError where
  | subtaskIdMismatch (expected actual : String)
  | correlationIdMismatch (expected actual : String)
  | sourceAgentMismatch (expected actual : String)
  | targetAgentMismatch (expected actual : String)
  | toolIdMismatch (expected actual : String)
  | outputSchemaMismatch (expected actual : String)
  deriving DecidableEq, Repr

inductive FinalResponseValidationError where
  | emptyContent
  | finalizerMismatch (expected actual : String)
  | noWorkerResults
  | duplicateSource (subtaskId : String)
  deriving DecidableEq, Repr

inductive CoordinatorFlowError where
  | noToolCalls
  | emptyRunId
  | emptyCoordinatorAgentId
  deriving DecidableEq, Repr

inductive WorkerToolRunError where
  | provider (message : String)
  deriving DecidableEq, Repr

inductive AgenticRuntimeError where
  | callableWorker (error : CallableWorkerRegistryError)
  | delegation (error : DelegationError)
  | workerToolResult (error : WorkerToolResultValidationError)
  | finalResponse (error : FinalResponseValidationError)
  | coordinatorFlow (error : CoordinatorFlowError)
  | workerToolRun (error : WorkerToolRunError)
  deriving DecidableEq, Repr

structure AgenticRuntime (σ : Type) extends DwRuntime σ where
  callableWorkerRegistry : Option CallableWorkerRegistry

structure WorkerToolResultProvider (σ : Type) where
  workerToolResult : WorkerToolInvocation → σ →
    Except WorkerToolRunError SubtaskResultEnvelope × σ

inductive FlowCall where
  | runtime (call : RuntimeCall)
  | startSubtask (request : StartSubtaskRequest) (answer : Except DelegationError DelegationHandle)
  | workerToolResult (invocation : WorkerToolInvocation)
      (answer : Except WorkerToolRunError SubtaskResultEnvelope)

structure AgenticFinalResponseSource where
  toolId : String
  subtaskId : String
  outputArtifactRef : String
  deriving DecidableEq, Repr

structure AgenticFinalResponse where
  runId : String
  finalizerAgentId : String
  content : String
  sources : List AgenticFinalResponseSource
  deriving DecidableEq, Repr

structure ComposeFinalResponseRequest where
  runId : String
  finalizerAgentId : String
  content : String
  workerResults : List (SubtaskEnvelope × SubtaskResultEnvelope)
  deriving DecidableEq, Repr

structure CoordinatorWorkerToolCall where
  toolId : String
  goal : String
  contextPackageRef : String
  contextScope : HandoffContextScope
  permissionsProfile : String
  deadline : String
  returnPolicy : HandoffReturnPolicy
  deriving DecidableEq, Repr

structure RunAgenticCoordinatorRequest where
  runId : String
  coordinatorAgentId : String
  finalizerAgentId : String
  finalResponseContent : String
  toolCalls : List CoordinatorWorkerToolCall
  deriving DecidableEq, Repr

structure AgenticCoordinatorRun where
  invocations : List WorkerToolInvocation
  workerResults : List SubtaskResultEnvelope
  finalResponse : AgenticFinalResponse
  deriving DecidableEq, Repr

def WorkerToolInvocationRequest.envelope (request : WorkerToolInvocationRequest)
    (tool : CallableWorkerTool) : SubtaskEnvelope where
  subtaskId := request.parentRunId ++ "::" ++ request.toolId
  parentRunId := request.parentRunId
  correlationId := request.correlationId
  sourceAgentId := request.sourceAgentId
  targetAgent := tool.targetAgentId
  toolId := request.toolId
  goal := request.goal
  contextPackageRef := request.contextPackageRef
  contextScope := request.contextScope
  expectedOutputSchema := tool.outputSchemaRef
  permissionsProfile := request.permissionsProfile
  deadline := request.deadline
  returnPolicy := request.returnPolicy

def validateWorkerToolResult (handoff : SubtaskEnvelope) (result : SubtaskResultEnvelope) :
    Except AgenticRuntimeError Unit := do
  (validateSubtaskResultEnvelope result).mapError .delegation
  rejectIf (result.subtaskId ≠ handoff.subtaskId)
    (.workerToolResult (.subtaskIdMismatch handoff.subtaskId result.subtaskId))
  rejectIf (result.correlationId ≠ handoff.correlationId)
    (.workerToolResult (.correlationIdMismatch handoff.correlationId result.correlationId))
  rejectIf (result.sourceAgentId ≠ handoff.targetAgent)
    (.workerToolResult (.sourceAgentMismatch handoff.targetAgent result.sourceAgentId))
  rejectIf (result.targetAgentId ≠ handoff.sourceAgentId)
    (.workerToolResult (.targetAgentMismatch handoff.sourceAgentId result.targetAgentId))
  rejectIf (result.toolId ≠ handoff.toolId)
    (.workerToolResult (.toolIdMismatch handoff.toolId result.toolId))
  rejectIf (result.outputSchemaRef ≠ handoff.expectedOutputSchema)
    (.workerToolResult (.outputSchemaMismatch handoff.expectedOutputSchema result.outputSchemaRef))

def SubtaskResultEnvelope.source (result : SubtaskResultEnvelope) : AgenticFinalResponseSource where
  toolId := result.toolId
  subtaskId := result.subtaskId
  outputArtifactRef := result.outputArtifactRef

def RunAgenticCoordinatorRequest.invocation (request : RunAgenticCoordinatorRequest) (index : ℕ)
    (call : CoordinatorWorkerToolCall) : WorkerToolInvocationRequest where
  parentRunId := request.runId
  correlationId := request.runId ++ "::" ++ call.toolId ++ "::" ++ toString index
  sourceAgentId := request.coordinatorAgentId
  toolId := call.toolId
  goal := call.goal
  contextPackageRef := call.contextPackageRef
  contextScope := call.contextScope
  permissionsProfile := call.permissionsProfile
  deadline := call.deadline
  returnPolicy := call.returnPolicy

def observerEvent (runId workerId eventName : String) : RuntimeEvent where
  taskId := runId
  workerId := workerId
  operation := .observe eventName
  fromState := .running
  toState := .running

def eventAgenticCoordinatorStarted : String := "agentic.coordinator.started"
def eventAgenticWorkerToolHandoffStarted : String := "agentic.worker_tool.handoff_started"
def eventAgenticWorkerToolResultReceived : String := "agentic.worker_tool.result_received"
def eventAgenticFinalResponseCreated : String := "agentic.final_response.created"
def eventAgenticCoordinatorCompleted : String := "agentic.coordinator.completed"

namespace AgenticRuntime

variable {σ : Type} (rt : AgenticRuntime σ)

def configuredRegistry : Except AgenticRuntimeError CallableWorkerRegistry :=
  match rt.callableWorkerRegistry with
  | some registry => .ok registry
  | none => .error (.callableWorker .notConfigured)

def callableWorker (registry : CallableWorkerRegistry) (toolId : String) :
    Except AgenticRuntimeError CallableWorkerTool :=
  match registry.toolsById.lookup toolId with
  | some tool => .ok tool
  | none => .error (.callableWorker (.unknownTool toolId))

def validateWorkerToolHandoff (envelope : SubtaskEnvelope) : Except AgenticRuntimeError Unit := do
  let registry ← rt.configuredRegistry
  let _ ← (registry.validateHandoff envelope).mapError .callableWorker
  pure ()

def handoffEnvelope (request : WorkerToolInvocationRequest) :
    Except AgenticRuntimeError SubtaskEnvelope := do
  let registry ← rt.configuredRegistry
  let tool ← callableWorker registry request.toolId
  (validateSubtaskEnvelope (request.envelope tool)).mapError .delegation
  rt.validateWorkerToolHandoff (request.envelope tool)
  pure (request.envelope tool)

def startWorkerToolHandoff (request : WorkerToolInvocationRequest)
    (delegator : DelegationProvider σ) :
    Traced (World σ) FlowCall AgenticRuntimeError WorkerToolInvocation := do
  let envelope ← Traced.ofExcept (rt.handoffEnvelope request)
  let handle ←
    World.ask (delegator.startSubtask ⟨envelope⟩) (.startSubtask ⟨envelope⟩) .delegation
  pure ⟨envelope, handle⟩

def expectedFinalizer : Except AgenticRuntimeError String := do
  let registry ← rt.configuredRegistry
  match registry.finalizerAgentId.or registry.coordinatorAgentId with
  | some finalizer => .ok finalizer
  | none => .error (.callableWorker .notConfigured)

def collectSources (sources : List AgenticFinalResponseSource) :
    List (SubtaskEnvelope × SubtaskResultEnvelope) →
    Except AgenticRuntimeError (List AgenticFinalResponseSource)
  | [] => pure sources
  | (handoff, result) :: workerResults => do
    rt.validateWorkerToolHandoff handoff
    validateWorkerToolResult handoff result
    rejectIf (sources.any fun source => source.subtaskId = result.subtaskId)
      (.finalResponse (.duplicateSource result.subtaskId))
    collectSources (sources ++ [result.source]) workerResults

def composeFinalResponse (request : ComposeFinalResponseRequest) :
    Except AgenticRuntimeError AgenticFinalResponse := do
  rejectIf (isBlank request.content) (.finalResponse .emptyContent)
  rejectIf (request.workerResults = []) (.finalResponse .noWorkerResults)
  let finalizer ← rt.expectedFinalizer
  rejectIf (request.finalizerAgentId ≠ finalizer)
    (.finalResponse (.finalizerMismatch finalizer request.finalizerAgentId))
  let sources ← rt.collectSources [] request.workerResults
  pure
    { runId := request.runId
      finalizerAgentId := request.finalizerAgentId
      content := request.content
      sources }

def emitObserverEvent (runId workerId eventName : String) :
    Traced (World σ) FlowCall AgenticRuntimeError Unit :=
  (rt.packs.notifyObservers (observerEvent runId workerId eventName)).relabel .runtime

variable (request : RunAgenticCoordinatorRequest) (delegator : DelegationProvider σ)
  (workerToolResults : WorkerToolResultProvider σ)

def runToolCall (index : ℕ) (call : CoordinatorWorkerToolCall) :
    Traced (World σ) FlowCall AgenticRuntimeError
      (WorkerToolInvocation × SubtaskResultEnvelope) := do
  let invocation ← rt.startWorkerToolHandoff (request.invocation index call) delegator
  rt.emitObserverEvent request.runId invocation.envelope.sourceAgentId
    eventAgenticWorkerToolHandoffStarted
  let result ← World.ask (workerToolResults.workerToolResult invocation)
    (.workerToolResult invocation) .workerToolRun
  Traced.ofExcept (validateWorkerToolResult invocation.envelope result)
  rt.emitObserverEvent request.runId result.sourceAgentId eventAgenticWorkerToolResultReceived
  pure (invocation, result)

def runToolCalls (index : ℕ) : List CoordinatorWorkerToolCall →
    Traced (World σ) FlowCall AgenticRuntimeError
      (List (WorkerToolInvocation × SubtaskResultEnvelope))
  | [] => pure []
  | call :: calls => do
    let pair ← rt.runToolCall request delegator workerToolResults index call
    let pairs ← runToolCalls (index + 1) calls
    pure (pair :: pairs)

def checkRequest : Except AgenticRuntimeError Unit := do
  rejectIf (isBlank request.runId) (.coordinatorFlow .emptyRunId)
  rejectIf (isBlank request.coordinatorAgentId) (.coordinatorFlow .emptyCoordinatorAgentId)
  rejectIf (request.toolCalls = []) (.coordinatorFlow .noToolCalls)

def finalResponseRequest (pairs : List (WorkerToolInvocation × SubtaskResultEnvelope)) :
    ComposeFinalResponseRequest where
  runId := request.runId
  finalizerAgentId := request.finalizerAgentId
  content := request.finalResponseContent
  workerResults := pairs.map fun pair => (pair.1.envelope, pair.2)

def runAgenticCoordinatorFlow :
    Traced (World σ) FlowCall AgenticRuntimeError AgenticCoordinatorRun := do
  Traced.ofExcept (checkRequest request)
  rt.emitObserverEvent request.runId request.coordinatorAgentId eventAgenticCoordinatorStarted
  let pairs ← rt.runToolCalls request delegator workerToolResults 0 request.toolCalls
  let finalResponse ← Traced.ofExcept (rt.composeFinalResponse (finalResponseRequest request pairs))
  rt.emitObserverEvent request.runId request.finalizerAgentId eventAgenticFinalResponseCreated
  rt.emitObserverEvent request.runId request.finalizerAgentId eventAgenticCoordinatorCompleted
  pure
    { invocations := pairs.map Prod.fst
      workerResults := pairs.map Prod.snd
      finalResponse }

section

variable {rt} {invocation : WorkerToolInvocationRequest} {envelope : SubtaskEnvelope}

lemma configuredRegistry_eq_ok {registry : CallableWorkerRegistry} :
    rt.configuredRegistry = .ok registry ↔ rt.callableWorkerRegistry = some registry := by
  rw [configuredRegistry]
  cases rt.callableWorkerRegistry <;> simp

lemma callableWorker_eq_ok {registry : CallableWorkerRegistry} {toolId : String}
    {tool : CallableWorkerTool} :
    callableWorker registry toolId = .ok tool ↔ registry.toolsById.lookup toolId = some tool := by
  rw [callableWorker]
  cases registry.toolsById.lookup toolId <;> simp

lemma validateWorkerToolHandoff_eq_ok :
    rt.validateWorkerToolHandoff envelope = .ok () ↔
      ∃ registry tool, rt.callableWorkerRegistry = some registry ∧
        registry.validateHandoff envelope = .ok tool := by
  simp only [validateWorkerToolHandoff, except_bind_eq_ok, configuredRegistry_eq_ok,
    except_mapError_eq_ok, except_pure_eq_ok]
  constructor
  · rintro ⟨registry, hr, tool, hv, _⟩
    exact ⟨registry, tool, hr, hv⟩
  · rintro ⟨registry, tool, hr, hv⟩
    exact ⟨registry, hr, tool, hv, trivial⟩

lemma handoffEnvelope_eq_ok :
    rt.handoffEnvelope invocation = .ok envelope ↔
      ∃ registry tool, rt.callableWorkerRegistry = some registry ∧
        registry.toolsById.lookup invocation.toolId = some tool ∧
        invocation.envelope tool = envelope ∧ validateSubtaskEnvelope envelope = .ok () ∧
        rt.validateWorkerToolHandoff envelope = .ok () := by
  simp only [handoffEnvelope, except_bind_eq_ok, configuredRegistry_eq_ok, callableWorker_eq_ok,
    except_mapError_eq_ok, except_pure_eq_ok]
  constructor
  · rintro ⟨registry, hr, tool, ht, _, hs, _, hv, rfl⟩
    exact ⟨registry, tool, hr, ht, rfl, hs, hv⟩
  · rintro ⟨registry, tool, hr, ht, rfl, hs, hv⟩
    exact ⟨registry, hr, tool, ht, (), hs, (), hv, rfl⟩

lemma validateWorkerToolResult_eq_ok {handoff : SubtaskEnvelope} {result : SubtaskResultEnvelope} :
    validateWorkerToolResult handoff result = .ok () ↔
      validateSubtaskResultEnvelope result = .ok () ∧ result.subtaskId = handoff.subtaskId ∧
      result.correlationId = handoff.correlationId ∧ result.sourceAgentId = handoff.targetAgent ∧
      result.targetAgentId = handoff.sourceAgentId ∧ result.toolId = handoff.toolId ∧
      result.outputSchemaRef = handoff.expectedOutputSchema := by
  simp only [validateWorkerToolResult, except_bind_eq_ok, except_mapError_eq_ok, rejectIf_eq_ok,
    not_not]
  constructor
  · rintro ⟨_, hv, _, h₁, _, h₂, _, h₃, _, h₄, _, h₅, h₆⟩
    exact ⟨hv, h₁, h₂, h₃, h₄, h₅, h₆⟩
  · rintro ⟨hv, h₁, h₂, h₃, h₄, h₅, h₆⟩
    exact ⟨(), hv, (), h₁, (), h₂, (), h₃, (), h₄, (), h₅, h₆⟩

lemma collectSources_eq_ok {sources out : List AgenticFinalResponseSource}
    {workerResults : List (SubtaskEnvelope × SubtaskResultEnvelope)}
    (hs : (sources.map (·.subtaskId)).Nodup) :
    rt.collectSources sources workerResults = .ok out ↔
      (∀ pair ∈ workerResults, rt.validateWorkerToolHandoff pair.1 = .ok () ∧
        validateWorkerToolResult pair.1 pair.2 = .ok ()) ∧
      (sources.map (·.subtaskId) ++ workerResults.map (·.2.subtaskId)).Nodup ∧
      sources ++ workerResults.map (·.2.source) = out := by
  induction workerResults generalizing sources with
  | nil => simpa [collectSources] using fun _ => hs
  | cons pair workerResults ih =>
    obtain ⟨handoff, result⟩ := pair
    have hnew : (sources.any fun source => source.subtaskId = result.subtaskId) = true ↔
        result.subtaskId ∈ sources.map (·.subtaskId) := by
      simp [List.any_eq_true]
    simp only [collectSources, except_bind_eq_ok, rejectIf_eq_ok, hnew, List.forall_mem_cons,
      List.map_cons]
    constructor
    · rintro ⟨_, hhandoff, _, hresult, _, hfresh, h⟩
      have hs' : ((sources ++ [result.source]).map (·.subtaskId)).Nodup := by
        rw [List.map_append]
        exact hs.append (List.nodup_singleton _) (by simpa [SubtaskResultEnvelope.source] using hfresh)
      obtain ⟨hall, hnodup, hout⟩ := (ih hs').mp h
      refine ⟨⟨⟨hhandoff, hresult⟩, hall⟩, ?_, ?_⟩
      · simpa [SubtaskResultEnvelope.source] using hnodup
      · simpa using hout
    · rintro ⟨⟨⟨hhandoff, hresult⟩, hall⟩, hnodup, hout⟩
      have hfresh : result.subtaskId ∉ sources.map (·.subtaskId) := fun hm =>
        (List.nodup_append'.mp hnodup).2.2 hm List.mem_cons_self
      have hs' : ((sources ++ [result.source]).map (·.subtaskId)).Nodup := by
        rw [List.map_append]
        exact hs.append (List.nodup_singleton _) (by simpa [SubtaskResultEnvelope.source] using hfresh)
      refine ⟨(), hhandoff, (), hresult, (), hfresh, (ih hs').mpr ⟨hall, ?_, ?_⟩⟩
      · simpa [SubtaskResultEnvelope.source] using hnodup
      · simpa using hout

lemma composeFinalResponse_eq_ok {final : ComposeFinalResponseRequest}
    {response : AgenticFinalResponse} :
    rt.composeFinalResponse final = .ok response ↔
      isBlank final.content = false ∧ final.workerResults ≠ [] ∧
      rt.expectedFinalizer = .ok final.finalizerAgentId ∧
      (∀ pair ∈ final.workerResults, rt.validateWorkerToolHandoff pair.1 = .ok () ∧
        validateWorkerToolResult pair.1 pair.2 = .ok ()) ∧
      (final.workerResults.map (·.2.subtaskId)).Nodup ∧
      (⟨final.runId, final.finalizerAgentId, final.content,
        final.workerResults.map (·.2.source)⟩ : AgenticFinalResponse) = response := by
  have hcollect := fun sources => @collectSources_eq_ok σ rt [] sources final.workerResults
    List.nodup_nil
  simp only [composeFinalResponse, except_bind_eq_ok, rejectIf_eq_ok, not_not, Bool.not_eq_true,
    hcollect, except_pure_eq_ok]
  constructor
  · rintro ⟨_, hcontent, _, hresults, _, hfinalizer, _, rfl, _, ⟨hall, hnodup, rfl⟩, rfl⟩
    exact ⟨hcontent, hresults, hfinalizer, hall, hnodup, rfl⟩
  · rintro ⟨hcontent, hresults, hfinalizer, hall, hnodup, rfl⟩
    exact ⟨(), hcontent, (), hresults, _, hfinalizer, (), rfl, _, ⟨hall, hnodup, rfl⟩, rfl⟩

end

end AgenticRuntime

end GreenticDw

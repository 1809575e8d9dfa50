import GreenticDw.Invoker.Guards
import GreenticDw.Invoker.Reply
import GreenticDw.Invoker.ToolExecutor
import GreenticDw.Llm.Context
import GreenticDw.Llm.Planner
import GreenticDw.Llm.Reviewer
import GreenticDw.Providers.WorkspaceMem

/-! The invoker: it makes the providers and the workspace of one dispatch, has a plan made, runs
the deep loop on it and has a reply written. -/

namespace GreenticDw

open Text

/-- The environment of one dispatch: the host behind the model and the tools, and what the
providers made for the dispatch keep to themselves. -/
structure InvokerEnv (τ : Type) where
  host : τ
  artifacts : ArtifactStore
  contextIds : UInt64
  toolCache : ToolCache

namespace InvokerEnv

variable {τ : Type}

def fresh (host : τ) : InvokerEnv τ := ⟨host, [], 0, []⟩

def hostCell : Cell (InvokerEnv τ) τ where
  read := host
  write host env := { env with host }
  read_write _ _ := rfl

def artifactsCell : Cell (InvokerEnv τ) ArtifactStore where
  read := artifacts
  write artifacts env := { env with artifacts }
  read_write _ _ := rfl

def contextIdsCell : Cell (InvokerEnv τ) UInt64 where
  read := contextIds
  write contextIds env := { env with contextIds }
  read_write _ _ := rfl

def toolCacheCell : Cell (InvokerEnv τ) ToolCache where
  read := toolCache
  write toolCache env := { env with toolCache }
  read_write _ _ := rfl

end InvokerEnv

structure InvokerCodecs where
  planning : PlanningCodecs
  reflection : ReflectionCodecs
  delegation : DelegationCodecs
  settings : Value → Except String DeepWorkerSettings

structure DeepWorkerInvoker (τ : Type) where
  llm : LlmProvider τ
  tools : Option (DeepWorkerTools τ)
  codecs : InvokerCodecs
  clock : τ → String × τ
  blake3Hex : String → String

inductive InvokeError where
  | unsupportedOperation (operation : String)
  | settings (context cause : String)
  | planning (error : PlanningError)
  | deepLoop (error : DeepLoopError)
  deriving DecidableEq, Repr

structure InvokeOutcome where
  ok : Bool
  output : Value
  events : List Value

inductive DispatchEvent (τ : Type) where
  | createPlan (request : CreatePlanRequest) (answer : Except PlanningError PlanDocument)
  | deepLoop (call : Call (InvokerEnv τ))
  | readArtifact (request : ReadArtifactRequest) (answer : Except WorkspaceError ArtifactContent)
  | reply (request : ChatRequest) (answer : Except LlmError ChatResponse)

def validateOperation (operation : String) : Except InvokeError Unit :=
  let op := trim operation
  rejectIf (¬(op.isEmpty ∨ eqIgnoreAsciiCase op "run")) (.unsupportedOperation operation)

def settingsFromInput (decode : Value → Except String DeepWorkerSettings) (input : Value) :
    Except InvokeError (Option DeepWorkerSettings) :=
  match input.get "deep_worker" with
  | none => .ok none
  | some .null => .ok none
  | some raw =>
    match decode raw with
    | .ok settings => .ok (some settings)
    | .error cause =>
      .error (.settings "invalid `deep_worker` settings in the operala dispatch input" cause)

def extractGoal (input : Value) : String :=
  (((input.get "goal").bind Value.asStr).or ((input.get "user_text").bind Value.asStr)).getD
    "Execute the requested task"

def buildEnvelope (tenant target taskId : String) : TaskEnvelope where
  taskId := taskId
  workerId := target
  state := .created
  scope := ⟨tenant, none⟩
  locale :=
    { workerDefaultLocale := "en-US"
      requestedLocale := none
      humanLocale := none
      policy := .preferRequested
      propagation := .propagateToDelegates
      output := .matchRequested }

def toolsConstraint (specs : List ToolSpec) : String :=
  "Available tools: " ++
    String.intercalate "; " (specs.map fun spec => spec.name ++ " — " ++ spec.description) ++
    ". A step may call these tools while it is carried out; " ++
    "plan the steps around them where they help."

def planRequest (goal : String) (delegation : Bool) (tools : Option (List ToolSpec)) :
    CreatePlanRequest where
  goal := goal
  assumptions := []
  constraints :=
    (if delegation then [] else [noDelegationConstraint]) ++ (tools.map toolsConstraint).toList
  successCriteria := ["task completed"]

def outcomeFromRun (run : DeepLoopRun) (operation reply : String) (toolsWired : Bool) :
    InvokeOutcome where
  ok := run.status = .completed
  output := .object ([("status", .string run.status.toText), ("operation", .string operation),
    ("artifact_ids", .array (run.outputArtifactIds.map .string)), ("reply", .string reply)] ++
    if toolsWired then [("tool_calls_used", .number (toString run.toolCallsUsed))] else [])
  events := []

def ResolvedSettings.guarded (resolved : ResolvedSettings) (plan : PlanDocument) : PlanDocument :=
  if resolved.delegation then plan else stripDelegateSteps plan

def readStepOutputs {τ ε : Type} (workspace : WorkspaceProvider (InvokerEnv τ)) :
    List String → Traced (World (InvokerEnv τ)) (DispatchEvent τ) ε (List StepOutput)
  | [] => pure []
  | artifactId :: artifactIds => do
    let answer ← World.answer (workspace.readArtifact ⟨artifactId⟩) (.readArtifact ⟨artifactId⟩)
    let outputs ← readStepOutputs workspace artifactIds
    -- an artifact that cannot be read back is left out
    pure ((StepOutput.ofAnswer answer).toList ++ outputs)

def synthesizeReply {τ ε : Type} (llm : LlmProvider τ) (goal : String) (run : DeepLoopRun)
    (outputs : List StepOutput) : Traced τ (DispatchEvent τ) ε String := do
  let request := Reply.request goal run outputs
  let answer ← Traced.answer (llm.chat request) (.reply request)
  pure (Reply.ofAnswer run answer)

namespace DeepWorkerInvoker

variable {τ : Type} (invoker : DeepWorkerInvoker τ)

def activeTools : Option (DeepWorkerTools τ × List ToolSpec) :=
  match invoker.tools with
  | none => none
  | some tools =>
    if !invoker.llm.toolsSupported then none
    else if tools.list.isEmpty then none
    else some (tools, tools.list)

def model : LlmProvider (InvokerEnv τ) := invoker.llm.through InvokerEnv.hostCell

def planner : PlanningProvider (InvokerEnv τ) :=
  LlmPlanningProvider invoker.model invoker.codecs.planning

def workspace : WorkspaceProvider (InvokerEnv τ) :=
  InMemoryWorkspaceProvider
    ⟨InvokerEnv.artifactsCell, InvokerEnv.hostCell.through invoker.clock, invoker.blake3Hex⟩

def reflector (resolved : ResolvedSettings) : ReflectionProvider (InvokerEnv τ) :=
  match resolved.reflection, resolved.delegation with
  | false, _ => AcceptAllReflection _
  | true, true => LlmReflectionProvider invoker.model invoker.codecs.reflection
  | true, false =>
    NoDelegateVerdict (LlmReflectionProvider invoker.model invoker.codecs.reflection)

def delegator (resolved : ResolvedSettings) : DelegationProvider (InvokerEnv τ) :=
  if resolved.delegation then LlmDelegationProvider invoker.model invoker.codecs.delegation
  else RefuseDelegation _

def executor : Option (LlmToolStepExecutor (InvokerEnv τ)) :=
  invoker.activeTools.map fun (tools, specs) =>
    .new invoker.model (tools.through InvokerEnv.hostCell) specs InvokerEnv.toolCacheCell

def coordinator (resolved : ResolvedSettings) : DeepLoopCoordinator (InvokerEnv τ) where
  runtime := ⟨StaticEngine _ (.operation .step), ⟨[], []⟩, none⟩
  planner := invoker.planner
  context := LlmContextProvider InvokerEnv.contextIdsCell
  workspace := invoker.workspace
  reflector := invoker.reflector resolved
  delegator := invoker.delegator resolved
  maxIterations := resolved.maxIterations
  executor := invoker.executor.map LlmToolStepExecutor.stepExecutor

def stepOutputs {ε : Type} (run : DeepLoopRun) :
    Traced (World (InvokerEnv τ)) (DispatchEvent τ) ε (List StepOutput) :=
  if invoker.executor.isSome then readStepOutputs invoker.workspace run.outputArtifactIds
  else pure []

def work (resolved : ResolvedSettings) (goal : String) :
    Traced (World (InvokerEnv τ)) (DispatchEvent τ) InvokeError
      (DeepLoopRun × List StepOutput) := do
  let request := planRequest goal resolved.delegation (invoker.activeTools.map Prod.snd)
  let plan ← World.ask (invoker.planner.createPlan request) (.createPlan request) .planning
  let run ← (((invoker.coordinator resolved).run (resolved.guarded plan)).relabel
    .deepLoop).mapError .deepLoop
  let outputs ← invoker.stepOutputs run
  pure (run, outputs)

def invoke (tenant _env target operation : String) (input : Value)
    (idempotencyKey : Option String) : Traced τ (DispatchEvent τ) InvokeError InvokeOutcome := do
  Traced.ofExcept (validateOperation operation)
  let settings ← Traced.ofExcept (settingsFromInput invoker.codecs.settings input)
  let resolved := ResolvedSettings.resolve settings
  let taskId := idempotencyKey.getD "task-unknown"
  let goal := extractGoal input
  let (run, outputs) ← (invoker.work resolved goal).within
    (fun host => ⟨.fresh host, buildEnvelope tenant target taskId⟩) (fun w => w.env.host)
  let reply ← synthesizeReply invoker.llm goal run outputs
  pure (outcomeFromRun run operation reply invoker.activeTools.isSome)

end DeepWorkerInvoker

end GreenticDw

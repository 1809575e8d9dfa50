import GreenticDw.DeepLoop.Coordinator
import GreenticDw.Llm.Planner

/-! Coordinators that follow a script: the planner, or the language model behind it, takes its
replies from the environment, in order, and every other provider gives one answer. -/

namespace GreenticDw

structure Script where
  decision : EngineDecision
  verdict : ReviewVerdict
  final : ReviewVerdict
  maxIterations : ℕ

abbrev Replies := List (List PlannedAction)

namespace Script

def planner : PlanningProvider Replies where
  createPlan _ s := (.error (.provider "no plan in the script"), s)
  revisePlan req s := (.ok ⟨req.plan.revision + 1, req.reason, [], []⟩, s)
  nextActions _
    | [] => (.ok [], [])
    | actions :: replies => (.ok actions, replies)
  recordStepResult req s := (.ok (LlmPlanning.recordStepResult req), s)
  evaluateCompletion req s := (.ok (LlmPlanning.evaluateCompletion req), s)

def outcome (verdict : ReviewVerdict) : ReviewOutcome := ⟨verdict, none, [], [], false⟩

def coordinatorOf {σ : Type} (script : Script) (planner : PlanningProvider σ) :
    DeepLoopCoordinator σ where
  runtime := ⟨StaticEngine σ script.decision, ⟨[], []⟩, none⟩
  planner := planner
  context := ⟨fun req s => (.ok ⟨"context", [], req.budget⟩, s)⟩
  workspace :=
    { createArtifact := fun req s => (.ok req.artifact, s)
      readArtifact := fun req s => (.error (.provider ("artifact not found: " ++ req.artifactId)), s) }
  reflector :=
    { reviewStep := fun _ s => (.ok (outcome script.verdict), s)
      reviewFinal := fun _ s => (.ok (outcome script.final), s) }
  delegator :=
    { chooseDelegate := fun _ s => (.ok ⟨.single, ["agent"], .firstSuccess, "scripted"⟩, s)
      startSubtask := fun req s => (.ok ⟨req.envelope.subtaskId, req.envelope.targetAgent⟩, s) }
  maxIterations := script.maxIterations
  executor := none

def coordinator (script : Script) : DeepLoopCoordinator Replies := script.coordinatorOf planner

def step (stepId : String) (kind : PlanStepKind) (status : PlanStepStatus)
    (dependsOn : List String) : PlanStep where
  stepId := stepId
  title := stepId
  kind := kind
  status := status
  dependsOn := dependsOn
  assignedAgent := none
  inputsSchemaRef := none
  outputSchemaRef := none
  retryCount := 0

def plan (steps : List PlanStep) : PlanDocument where
  planId := "plan"
  goal := "goal"
  status := .active
  revision := 1
  assumptions := []
  constraints := []
  successCriteria := ["done"]
  steps := steps
  edges := []
  metadata := []

def onePlan : PlanDocument := plan [step "a" .toolCall .ready []]

def task (state : TaskLifecycleState) : TaskEnvelope where
  taskId := "task"
  workerId := "worker"
  state := state
  scope := ⟨"tenant", none⟩
  locale := ⟨"en", none, none, .workerDefault, .currentTaskOnly, .workerDefault⟩

def run (script : Script) (state : TaskLifecycleState) (steps : List PlanStep)
    (replies : Replies) : Outcome (World Replies) (Call Replies) DeepLoopError DeepLoopRun :=
  (script.coordinator.run (plan steps)).run ⟨replies, task state⟩

def llm : LlmProvider (List String) where
  toolsSupported := false
  chat _
    | [] => (.error ⟨"no reply left"⟩, [])
    | text :: texts => (.ok ⟨text, []⟩, texts)

def codec {α : Type} (table : List (String × α)) : Codec α where
  schema := none
  encode _ := none
  decode text :=
    match table.find? fun entry => entry.1 = text with
    | some entry => .ok entry.2
    | none => .error "expected value at line 1 column 1"

def codecs (plans : List (String × PlanDocument)) : PlanningCodecs where
  createPlan := codec []
  plan := codec plans
  revision := codec []
  actions := codec [("[]", []), ("[\x7b\"step_id\":\"a\",\"action\":\"go\"\x7d]", [⟨"a", "go"⟩]),
    ("[\x7b\"step_id\":\"b\",\"action\":\"go\"\x7d]", [⟨"b", "go"⟩])]

def reply (stepId : String) : String :=
  "Next: [\x7b\"step_id\":\"" ++ stepId ++ "\",\"action\":\"go\"\x7d]"

def runLlm (script : Script) (steps : List PlanStep) (texts : List String) :
    Outcome (World (List String)) (Call (List String)) DeepLoopError DeepLoopRun :=
  ((script.coordinatorOf (LlmPlanningProvider llm (codecs []))).run (plan steps)).run
    ⟨texts, task .created⟩

end Script

end GreenticDw

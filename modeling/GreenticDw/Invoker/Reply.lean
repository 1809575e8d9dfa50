import GreenticDw.DeepLoop.Coordinator
import GreenticDw.Invoker.Tools

namespace GreenticDw

open Text

def DeepLoopStatus.toText : DeepLoopStatus → String
  | idle => "idle"
  | planning => "planning"
  | executing => "executing"
  | reflecting => "reflecting"
  | revising => "revising"
  | delegating => "delegating"
  | completed => "completed"
  | failed => "failed"
  | budgetExhausted => "budget_exhausted"

structure StepOutput where
  title : String
  body : String
  deriving DecidableEq, Repr

def StepOutput.ofAnswer : Except WorkspaceError ArtifactContent → Option StepOutput
  | .ok content => some ⟨content.metadata.title, content.body⟩
  | .error _ => none

namespace Reply

def stepOutputLimit : ℕ := 16 * 1024

def systemPrompt : String :=
  "You write the final answer of a deep worker to the person " ++
  "who asked for the task. Using the goal, the outcome and the plan below, reply in a few " ++
  "sentences of plain prose (no JSON, no markdown headings) saying what was done and what the " ++
  "result is. If the task did not complete, say so plainly and say what was left undone."

def stepStatusLabel : PlanStepStatus → String
  | .pending => "pending"
  | .ready => "ready"
  | .running => "running"
  | .blocked => "blocked"
  | .completed => "completed"
  | .failed => "failed"
  | .skipped => "skipped"

def stepLine (index : ℕ) (step : PlanStep) : String :=
  toString (index + 1) ++ ". " ++ step.title ++ " — " ++ stepStatusLabel step.status

def stepLines (steps : List PlanStep) : String :=
  if steps.isEmpty then "(no steps)"
  else String.intercalate "\n" (steps.mapIdx stepLine)

def outputLines (outputs : List StepOutput) : String :=
  if outputs.isEmpty then ""
  else "\n\nStep outputs (use these results in your answer):" ++
    String.join (outputs.map fun output =>
      "\n- " ++ output.title ++ ": " ++ truncateMarked output.body stepOutputLimit)

def userPrompt (goal : String) (run : DeepLoopRun) (outputs : List StepOutput) : String :=
  "Goal: " ++ goal ++ "\nOutcome: " ++ run.status.toText ++ "\n\nPlan steps:\n" ++
    stepLines run.plan.steps ++ outputLines outputs

def request (goal : String) (run : DeepLoopRun) (outputs : List StepOutput) : ChatRequest where
  messages := [.system systemPrompt, .user (userPrompt goal run outputs)]
  tools := []
  toolChoice := none
  maxTokens := some 1024
  temperature := some (3 / 10)

def stepsWord (count : ℕ) : String := if count = 1 then "step" else "steps"

def fallback (run : DeepLoopRun) : String :=
  let total := run.plan.steps.length
  let done := run.plan.steps.countP fun step => step.status = .completed
  let progress := toString done ++ " of " ++ toString total ++ " " ++ stepsWord total
  match run.status with
  | .completed => "The task completed in " ++ toString done ++ " " ++ stepsWord done ++ "."
  | .budgetExhausted =>
    "The task stopped after reaching its step budget, with " ++ progress ++ " done."
  | .failed => "The task could not be completed; " ++ progress ++ " were done before it stopped."
  | .revising =>
    "The task stopped because its plan needed revising; " ++ progress ++ " were done."
  | .delegating => "The task was handed to other workers and has no result yet."
  | .idle | .planning | .executing | .reflecting =>
    "The task stopped while " ++ run.status.toText ++ "."

def ofAnswer (run : DeepLoopRun) : Except LlmError ChatResponse → String
  | .ok response =>
    let text := trim response.content
    if text.isEmpty then fallback run else text
  | .error _ => fallback run

end Reply

end GreenticDw

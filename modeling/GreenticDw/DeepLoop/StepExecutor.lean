import GreenticDw.Planning.Plans
import GreenticDw.Text.Json

namespace GreenticDw

def usizeMax : ℕ := 2 ^ 64 - 1

def perStepToolCap : ℕ := 6

def toolCallsPerIteration : ℕ := 3

structure ExecuteStepRequest where
  goal : String
  step : PlanStep
  context : Option String
  priorOutputs : List Value
  maxToolCalls : ℕ

structure StepExecution where
  body : Value
  toolCallsUsed : ℕ

inductive StepExecutionError where
  | backend (message : String)
  | internal (message : String)
  deriving DecidableEq, Repr

structure StepExecutor (σ : Type) where
  executeStep : ExecuteStepRequest → σ → Except StepExecutionError StepExecution × σ

structure ToolBudget where
  total : ℕ
  used : ℕ
  deriving DecidableEq, Repr

namespace ToolBudget

def forIterations (maxIterations : ℕ) : ToolBudget :=
  ⟨min (maxIterations * toolCallsPerIteration) usizeMax, 0⟩

def remaining (budget : ToolBudget) : ℕ := budget.total - budget.used

def grant (budget : ToolBudget) : ℕ := min perStepToolCap budget.remaining

def charge (budget : ToolBudget) (granted reported : ℕ) : ToolBudget :=
  { budget with used := min (budget.used + min reported granted) usizeMax }

structure WithinTotal (budget : ToolBudget) : Prop where
  used_le : budget.used ≤ budget.total
  total_le : budget.total ≤ usizeMax

variable {budget : ToolBudget}

lemma grant_le_remaining (budget : ToolBudget) : budget.grant ≤ budget.remaining := min_le_right _ _

lemma withinTotal_forIterations (n : ℕ) : (forIterations n).WithinTotal :=
  ⟨Nat.zero_le _, min_le_right _ _⟩

lemma charge_used (h : budget.WithinTotal) (reported : ℕ) :
    (budget.charge budget.grant reported).used = budget.used + min reported budget.grant := by
  have hg := budget.grant_le_remaining
  have hu := h.used_le
  have ht := h.total_le
  simp only [charge, remaining] at *
  omega

lemma WithinTotal.charge (h : budget.WithinTotal) (reported : ℕ) :
    (budget.charge budget.grant reported).WithinTotal := by
  refine ⟨?_, h.total_le⟩
  have hg := budget.grant_le_remaining
  have hu := h.used_le
  rw [charge_used h]
  simp only [ToolBudget.charge, remaining] at *
  omega

end ToolBudget

end GreenticDw

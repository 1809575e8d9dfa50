import GreenticDw.Planning.Plans
import GreenticDw.Providers.Delegation
import GreenticDw.Providers.Reflection

/-! The settings of a deep worker, and the providers that stand in for what they switch off. -/

namespace GreenticDw

structure DeepWorkerSettings where
  iterationBudget : Option UInt32
  reflection : Option Bool
  delegation : Option Bool
  deriving DecidableEq, Repr

def designerDefaultIterationBudget : UInt32 := 8

def defaultMaxIterations : ℕ := 64

structure ResolvedSettings where
  maxIterations : ℕ
  reflection : Bool
  delegation : Bool
  deriving DecidableEq, Repr

def ResolvedSettings.resolve : Option DeepWorkerSettings → ResolvedSettings
  -- without settings a worker keeps the old behaviour
  | none => ⟨defaultMaxIterations, true, true⟩
  | some settings =>
    { maxIterations := (max (settings.iterationBudget.getD designerDefaultIterationBudget) 1).toNat
      reflection := settings.reflection.getD false
      delegation := settings.delegation.getD false }

def noDelegationConstraint : String :=
  "Do not create steps of kind `delegate`: " ++
  "this worker has no other agents to hand work to, so every step must be carried out by the " ++
  "worker itself."

def acceptOutcome : ReviewOutcome := ⟨.accept, none, [], [], false⟩

def AcceptAllReflection (σ : Type) : ReflectionProvider σ where
  reviewStep _ s := (.ok acceptOutcome, s)
  reviewFinal _ s := (.ok acceptOutcome, s)

def refusalError : DelegationError :=
  .validation "delegation is switched off for this deep worker"

def RefuseDelegation (σ : Type) : DelegationProvider σ where
  chooseDelegate _ s := (.error refusalError, s)
  startSubtask _ s := (.error refusalError, s)

def withoutDelegate (outcome : ReviewOutcome) : ReviewOutcome :=
  if outcome.verdict = .delegate then { outcome with verdict := .accept } else outcome

def NoDelegateVerdict {σ : Type} (inner : ReflectionProvider σ) : ReflectionProvider σ where
  reviewStep req s := ((inner.reviewStep req s).1.map withoutDelegate, (inner.reviewStep req s).2)
  reviewFinal req s :=
    ((inner.reviewFinal req s).1.map withoutDelegate, (inner.reviewFinal req s).2)

def stripDelegate (step : PlanStep) : PlanStep :=
  if step.kind = .delegate then { step with kind := .research, assignedAgent := none } else step

def stripDelegateSteps (plan : PlanDocument) : PlanDocument :=
  { plan with steps := plan.steps.map stripDelegate }

@[simp] lemma stripDelegate_stepId (step : PlanStep) : (stripDelegate step).stepId = step.stepId := by
  unfold stripDelegate
  split_ifs <;> rfl

@[simp] lemma stripDelegate_status (step : PlanStep) : (stripDelegate step).status = step.status := by
  unfold stripDelegate
  split_ifs <;> rfl

end GreenticDw

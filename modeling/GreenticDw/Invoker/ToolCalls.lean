import GreenticDw.DeepLoop.Budget
import GreenticDw.DeepLoop.Replay
import GreenticDw.Invoker.ToolExecutor

namespace GreenticDw

namespace Call

variable {σ : Type}

def AnsweredBy (executor : StepExecutor σ) : Call σ → Prop
  | .executeStep moment request answer =>
    (executor.executeStep request moment.world.env).1 = answer
  | _ => True

def ExecutionFailed : Call σ → Prop
  | .executeStep _ _ (.error _) => True
  | _ => False

def hostCalls (executor : LlmToolStepExecutor σ) : Call σ → ℕ
  | .executeStep moment request _ =>
    GreenticDw.hostCalls ((executor.executeStep request).run moment.world.env).trace
  | _ => 0

lemma hostCalls_eq_charge {executor : LlmToolStepExecutor σ} {x : Call σ}
    (ha : x.AnsweredBy executor.stepExecutor) (hf : ¬x.ExecutionFailed) :
    x.hostCalls executor = x.charge := by
  cases x with
  | executeStep moment request answer =>
    cases answer with
    | error e => exact (hf trivial).elim
    | ok execution =>
      obtain ⟨hused, hle⟩ := executor.executeStep_accounts request moment.world.env ha
      rw [hostCalls, charge, ← hused, Nat.min_eq_left hle]
  | _ => rfl

end Call

open Call

namespace DeepLoopCoordinator

variable {σ : Type} {c : DeepLoopCoordinator σ}

structure Answered {α : Type} (executor : StepExecutor σ)
    (o : Outcome (World σ) (Call σ) DeepLoopError α) : Prop where
  answered : ∀ x ∈ o.trace, x.AnsweredBy executor
  succeeds : ∀ a, o.result = .ok a → ∀ x ∈ o.trace, ¬x.ExecutionFailed

lemma run_answered {executor : StepExecutor σ} (hx : c.executor = some executor)
    (plan : PlanDocument) (w : World σ) : Answered executor ((c.run plan).run w) := by
  have h := c.run_replayed plan w
  refine ⟨fun x hmem => ?_, fun report hr x hmem => ?_⟩
  · obtain ⟨pre, post, ht⟩ := List.append_of_mem hmem
    have hfits := h.calls.fits ht
    cases x with
    | executeStep moment request answer =>
      obtain ⟨_, _, _, executor', hx', ha⟩ := hfits
      cases hx.symm.trans hx'
      exact ha
    | _ => trivial
  · have hsound := h.sound hr x hmem
    cases x with
    | executeStep moment request answer =>
      cases answer with
      | error e => cases hsound
      | ok execution => exact id
    | _ => exact id

lemma run_hostCalls {executor : LlmToolStepExecutor σ} (hx : c.executor = some executor.stepExecutor)
    {plan : PlanDocument} {w : World σ} {report : DeepLoopRun}
    (hr : ((c.run plan).run w).result = .ok report) :
    report.toolCallsUsed = (((c.run plan).run w).trace.map (Call.hostCalls executor)).sum := by
  have ha := run_answered hx plan w
  rw [(run_budgeted plan w).2.2 report hr, charges]
  refine congrArg List.sum (List.map_congr_left fun x hmem => ?_)
  exact (hostCalls_eq_charge (ha.answered x hmem) (ha.succeeds report hr x hmem)).symm

theorem tool_budget_over_run (c : DeepLoopCoordinator σ) (plan : PlanDocument) (w : World σ) :
    Always (Granted (min (c.maxIterations * toolCallsPerIteration) usizeMax)) []
      ((c.run plan).run w).trace ∧
    charges ((c.run plan).run w).trace ≤ min (c.maxIterations * toolCallsPerIteration) usizeMax ∧
    (∀ report, ((c.run plan).run w).result = .ok report →
      report.toolCallsUsed = charges ((c.run plan).run w).trace) ∧
    ∀ executor : LlmToolStepExecutor σ, c.executor = some executor.stepExecutor →
      (∀ x ∈ ((c.run plan).run w).trace, x.AnsweredBy executor.stepExecutor) ∧
      ∀ report, ((c.run plan).run w).result = .ok report →
        report.toolCallsUsed =
          (((c.run plan).run w).trace.map (Call.hostCalls executor)).sum := by
  obtain ⟨hg, hle, hused⟩ := run_budgeted (c := c) plan w
  refine ⟨hg, hle, hused, fun executor hx => ⟨(run_answered hx plan w).answered, ?_⟩⟩
  exact fun report hr => run_hostCalls hx hr

end DeepLoopCoordinator

end GreenticDw

import GreenticDw.DeepLoop.Script
import GreenticDw.Traced.Mapped

/-! A run that ends before its cap on iterations does not depend on the cap. Without an executor the
cap enters the state of the loop only as the total of a tool budget that nothing reads. -/

namespace GreenticDw

open Traced (Mapped mapped_pure mapped_bind mapped_forEach)

def LoopState.withTotal (total : ℕ) (s : LoopState) : LoopState :=
  { s with toolBudget := { s.toolBudget with total } }

namespace DeepLoopCoordinator

variable {σ : Type} (c : DeepLoopCoordinator σ)

def capped (maxIterations : ℕ) : DeepLoopCoordinator σ := { c with maxIterations }

variable {c}

abbrev SameButTotal (total : ℕ) (m m' : Loop σ (Flow LoopState DeepLoopRun)) : Prop :=
  Mapped (Flow.mapState (LoopState.withTotal total)) m m'

lemma sameButTotal_next (k : ℕ) (s : LoopState) :
    SameButTotal k (pure (.next s) : Loop σ (Flow LoopState DeepLoopRun))
      (pure (.next (s.withTotal k))) :=
  mapped_pure (Flow.mapState (LoopState.withTotal k)) (.next s)

lemma sameButTotal_done (k : ℕ) (report : DeepLoopRun) :
    SameButTotal k (pure (.done report) : Loop σ (Flow LoopState DeepLoopRun))
      (pure (.done report)) :=
  mapped_pure (Flow.mapState (LoopState.withTotal k)) (.done report)

lemma emitSubtask_mapped (k : ℕ) (s : LoopState) (step : PlanStep) (subtask : SubtaskEnvelope) :
    SameButTotal k (c.emitSubtask s step subtask)
      (c.emitSubtask (s.withTotal k) step subtask) := by
  apply mapped_bind
  intro w
  apply mapped_bind
  intro _
  apply mapped_bind
  intro plan
  exact sameButTotal_next k (s.handed plan subtask)

lemma delegateStep_mapped (k : ℕ) (s : LoopState) (step : PlanStep) :
    SameButTotal k (c.delegateStep s step)
      (c.delegateStep (s.withTotal k) step) := by
  apply mapped_bind
  intro decision
  apply mapped_bind
  intro w
  apply mapped_bind
  intro _
  exact emitSubtask_mapped k s step _

lemma onVerdict_mapped (k : ℕ) (s : LoopState) (step : PlanStep) (stepContext : Option String)
    (verdict : ReviewVerdict) :
    SameButTotal k (c.onVerdict s step stepContext verdict)
      (c.onVerdict (s.withTotal k) step stepContext verdict) := by
  cases verdict with
  | accept => exact mapped_bind _ fun plan => sameButTotal_next k (s.recorded plan)
  | retry => exact mapped_bind _ fun plan => sameButTotal_next k (s.recorded plan)
  | revise => exact mapped_bind _ fun _ => sameButTotal_done k _
  | delegate =>
    apply mapped_bind
    intro decision
    apply mapped_bind
    intro w
    exact emitSubtask_mapped k s step _
  | fail => exact mapped_bind _ fun _ => sameButTotal_done k _

lemma executeStep_mapped (hx : c.executor = none) (k : ℕ) (s : LoopState) (action : PlannedAction)
    (step : PlanStep) (stepContext : Option String) :
    SameButTotal k (c.executeStep s action step stepContext)
      (c.executeStep (s.withTotal k) action step stepContext) := by
  have hbody : Mapped (Prod.map id (LoopState.withTotal k)) (c.produceBody s step stepContext)
      (c.produceBody (s.withTotal k) step stepContext) := by
    unfold produceBody
    rw [hx]
    exact mapped_pure (Prod.map id (LoopState.withTotal k)) (placeholderBody step, s)
  apply mapped_bind
  intro _
  apply hbody.bind
  rintro ⟨body, s⟩
  apply mapped_bind
  intro artifact
  apply mapped_bind
  intro verdict
  exact onVerdict_mapped k (s.stored artifact) step stepContext verdict

lemma runAction_mapped (hx : c.executor = none) (k : ℕ) (s : LoopState) (action : PlannedAction) :
    SameButTotal k (c.runAction s action)
      (c.runAction (s.withTotal k) action) := by
  unfold runAction
  cases hf : s.plan.steps.find? fun step => step.stepId = action.stepId with
  | none =>
    rw [show (s.withTotal k).plan = s.plan from rfl, hf]
    exact fun _ => rfl
  | some step =>
    rw [show (s.withTotal k).plan = s.plan from rfl, hf]
    apply mapped_bind
    intro stepContext
    cases hk : step.kind with
    | delegate => exact delegateStep_mapped k s step
    | _ => exact executeStep_mapped hx k s action step stepContext

lemma settle_mapped (k : ℕ) (s : LoopState) (planContext : Option String) :
    SameButTotal k (c.settle s planContext)
      (c.settle (s.withTotal k) planContext) := by
  unfold settle
  by_cases hs : s.emittedSubtasks = []
  · have hs' : (s.withTotal k).emittedSubtasks = [] := hs
    rw [if_neg (not_not.mpr hs), if_neg (not_not.mpr hs')]
    apply mapped_bind
    intro completion
    cases completion with
    | satisfied =>
      apply mapped_bind
      intro verdict
      cases verdict with
      | fail => exact mapped_bind _ fun _ => sameButTotal_done k _
      | _ => exact mapped_bind _ fun _ => sameButTotal_done k _
    | unsatisfied => exact mapped_bind _ fun _ => sameButTotal_done k _
    | incomplete => exact sameButTotal_next k s
  · have hs' : (s.withTotal k).emittedSubtasks ≠ [] := hs
    rw [if_pos hs, if_pos hs']
    exact sameButTotal_done k _

lemma runIteration_mapped (hx : c.executor = none) (k : ℕ) (s : LoopState) (i : ℕ) :
    SameButTotal k (c.runIteration s i)
      (c.runIteration (s.withTotal k) i) := by
  apply mapped_bind
  intro planContext
  apply mapped_bind
  intro actions
  by_cases ha : actions = []
  · rw [if_pos ha, if_pos ha]
    exact settle_mapped k s planContext
  · rw [if_neg ha, if_neg ha]
    exact mapped_forEach (runAction_mapped hx k) actions s

def iterations (c : DeepLoopCoordinator σ) (plan : PlanDocument) (is : List ℕ) :
    Loop σ (Flow LoopState DeepLoopRun) :=
  Traced.forEach c.runIteration (c.initialState plan) is

lemma iterations_mapped (hx : c.executor = none) (n m : ℕ) (plan : PlanDocument) (is : List ℕ) :
    SameButTotal (ToolBudget.forIterations m).total
      ((c.capped n).iterations plan is) ((c.capped m).iterations plan is) :=
  mapped_forEach (runIteration_mapped hx _) is ((c.capped n).initialState plan)

lemma iterations_raised (hx : c.executor = none) {n m : ℕ} (hnm : n ≤ m) (plan : PlanDocument)
    (w : World σ)
    (hend : ∀ s, (((c.capped n).iterations plan (List.range n)).run w).result ≠ .ok (.next s)) :
    ((c.capped m).iterations plan (List.range m)).run w =
      ((c.capped n).iterations plan (List.range n)).run w := by
  have hsame : ((c.capped m).iterations plan (List.range n)).run w =
      ((c.capped n).iterations plan (List.range n)).run w := by
    rw [iterations_mapped hx n m plan (List.range n) w]
    rcases hr : ((c.capped n).iterations plan (List.range n)).run w with ⟨e | s | report, w', t⟩
    · rfl
    · rw [hr] at hend
      exact (hend s rfl).elim
    · rfl
  obtain ⟨d, rfl⟩ := Nat.exists_eq_add_of_le hnm
  rw [List.range_add, iterations, Traced.run_forEach_append]
  · exact hsame
  · rw [← iterations, hsame]
    exact hend

theorem raised_cap (c : DeepLoopCoordinator σ) (hx : c.executor = none) (n m : ℕ) (hnm : n ≤ m)
    (plan : PlanDocument) (w : World σ)
    (hend : ∀ report, (((c.capped n).run plan).run w).result = .ok report →
      report.status ≠ .budgetExhausted) :
    ((c.capped m).run plan).run w = ((c.capped n).run plan).run w := by
  have hrun : ∀ k, ((c.capped k).run plan).run w = (c.startTask.run w).andThen fun _ =>
      (c.capped k).iterations plan (List.range k) >>= fun flow => pure (conclude flow) :=
    fun _ => rfl
  rw [hrun n] at hend ⊢
  rw [hrun m]
  rcases hs : c.startTask.run w with ⟨e | ⟨⟩, w₁, t⟩
  · rfl
  · rw [hs] at hend
    simp only [Traced.andThen_ok, Traced.run_bind] at hend ⊢
    rw [iterations_raised hx hnm plan w₁]
    intro s h
    rcases hi : ((c.capped n).iterations plan (List.range n)).run w₁ with ⟨_, w', u⟩
    rw [hi] at h hend
    cases h
    exact hend _ rfl rfl

theorem raised_cap_scripted :
    Script.run ⟨.noop, .accept, .accept, 5⟩ .created [Script.step "a" .toolCall .ready []]
        [[⟨"a", "go"⟩]] =
      Script.run ⟨.noop, .accept, .accept, 2⟩ .created [Script.step "a" .toolCall .ready []]
        [[⟨"a", "go"⟩]] := by
  refine raised_cap (Script.coordinator ⟨.noop, .accept, .accept, 2⟩) rfl 2 5 (by decide) _ _ ?_
  rintro report h
  cases h
  decide

end DeepLoopCoordinator

end GreenticDw

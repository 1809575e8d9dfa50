import GreenticDw.DeepLoop.Bounds
import GreenticDw.DeepLoop.ReadySteps
import GreenticDw.Planning.Scheduling

/-! A run comes to its end: with providers that do their part, a plan without cycles is worked off
within one iteration for each of its steps and one to close the run. -/

namespace GreenticDw

open LlmPlanning (recordAll recordStepResult Schedulable)

namespace PlanDocument

variable {plan : PlanDocument}

def Furthered (plan : PlanDocument) (actions : List PlannedAction) : Prop :=
  if ∃ step ∈ plan.steps, step.status = .ready then
    ∃ action ∈ actions, ∃ step ∈ plan.steps, step.stepId = action.stepId ∧ step.status = .ready
  else actions = []

instance (plan : PlanDocument) (actions : List PlannedAction) :
    Decidable (plan.Furthered actions) :=
  inferInstanceAs (Decidable (if ∃ step ∈ plan.steps, step.status = .ready then
    ∃ action ∈ actions, ∃ step ∈ plan.steps, step.stepId = action.stepId ∧ step.status = .ready
  else actions = []))

structure Workable (plan : PlanDocument) : Prop where
  valid : validatePlan plan = .ok ()
  acyclic : plan.NoCycle
  startable : plan.Startable

lemma workable_recorded (h : plan.Workable) (stepId : String) :
    (recordStepResult ⟨plan, stepId, .completed⟩).Workable where
  valid := LlmPlanning.validatePlan_recorded h.valid stepId
  acyclic := (noCycle_recorded h.valid stepId).mpr h.acyclic
  startable := startable_recorded h.valid h.acyclic h.startable.statuses stepId

lemma stepIds_recorded (h : plan.Workable) (stepId : String) :
    (recordStepResult ⟨plan, stepId, .completed⟩).stepIds = plan.stepIds := by
  rw [stepIds, LlmPlanning.recordStepResult_steps h.valid, List.map_map]
  apply List.map_congr_left
  intro step _
  exact (@LlmPlanning.recorded_sameBut plan step stepId).stepId

def unfinishedIds (plan : PlanDocument) : List String := plan.unfinished.map PlanStep.stepId

lemma unfinishedIds_recorded (h : plan.Workable) (stepId : String) :
    (recordStepResult ⟨plan, stepId, .completed⟩).unfinishedIds =
      plan.unfinishedIds.filter (· ≠ stepId) := by
  simp only [unfinishedIds, unfinished]
  rw [LlmPlanning.recordStepResult_steps h.valid, List.filter_map, List.map_map, List.filter_map,
    List.filter_filter]
  have hids : ∀ step ∈ plan.steps,
      (PlanStep.stepId ∘ LlmPlanning.recorded plan stepId) step = step.stepId :=
    fun step _ => (@LlmPlanning.recorded_sameBut plan step stepId).stepId
  rw [List.map_congr_left fun step hm => hids step (List.mem_filter.mp hm).1]
  congr 1
  apply List.filter_congr
  intro step _
  simp [LlmPlanning.recorded_completed_iff]

lemma workable_recordAll (h : plan.Workable) (stepIds : List String) :
    (recordAll plan stepIds).Workable := by
  induction stepIds generalizing plan with
  | nil => exact h
  | cons stepId stepIds ih => exact ih (workable_recorded h stepId)

lemma unfinishedIds_recordAll (h : plan.Workable) (stepIds : List String) :
    (recordAll plan stepIds).unfinishedIds = plan.unfinishedIds.filter (· ∉ stepIds) := by
  induction stepIds generalizing plan with
  | nil => simp
  | cons stepId stepIds ih =>
    rw [LlmPlanning.recordAll_cons, ih (workable_recorded h stepId), unfinishedIds_recorded h,
      List.filter_filter]
    apply List.filter_congr
    intro id _
    simp [Bool.and_comm]

lemma mem_unfinishedIds {step : PlanStep} (hm : step ∈ plan.steps) (hs : step.status ≠ .completed) :
    step.stepId ∈ plan.unfinishedIds :=
  List.mem_map_of_mem (List.mem_filter.mpr ⟨hm, decide_eq_true hs⟩)

lemma unfinished_length : plan.unfinishedIds.length = plan.unfinished.length := List.length_map _

lemma unfinished_furthered (h : plan.Workable) {actions : List PlannedAction}
    (hf : plan.Furthered actions) (hne : actions ≠ []) :
    (recordAll plan (actions.map PlannedAction.stepId)).unfinished.length <
      plan.unfinished.length := by
  unfold Furthered at hf
  split_ifs at hf
  swap
  · exact absurd hf hne
  obtain ⟨action, ha, step, hm, hid, hready⟩ := hf
  rw [← unfinished_length, ← unfinished_length, unfinishedIds_recordAll h,
    List.length_filter_lt_length_iff_exists]
  refine ⟨step.stepId, mem_unfinishedIds hm (by simp [hready]), ?_⟩
  have hin : step.stepId ∈ actions.map PlannedAction.stepId := hid ▸ List.mem_map_of_mem ha
  simpa using hin

lemma completed_of_furthered (h : plan.Workable) (hf : plan.Furthered []) :
    ∀ step ∈ plan.steps, step.status = .completed := by
  unfold Furthered at hf
  split_ifs at hf with hr
  · obtain ⟨_, ha, _⟩ := hf
    cases ha
  · exact h.startable.start.resolve_left hr

end PlanDocument

def Call.Cooperative {σ : Type} : Call σ → Prop
  | .operation _ (.error _) _ | .tick (.error _) _ | .buildContext _ (.error _)
  | .nextActions _ (.error _) | .reviewStep _ (.error _) | .reviewFinal _ (.error _)
  | .chooseDelegate _ _ (.error _) | .startSubtask _ _ (.error _) | .executeStep _ _ (.error _)
  | .createArtifact _ _ (.error _) => False
  | .nextActions request (.ok actions) => request.plan.Furthered actions
  | .reviewStep _ (.ok outcome) =>
    outcome.Valid ∧ outcome.verdict ≠ .revise ∧ outcome.verdict ≠ .fail
  | .reviewFinal _ (.ok outcome) => outcome.Valid ∧ outcome.verdict ≠ .fail
  | _ => True

instance {σ : Type} : (x : Call σ) → Decidable x.Cooperative
  | .operation _ (.error _) _ | .tick (.error _) _ | .buildContext _ (.error _)
  | .nextActions _ (.error _) | .reviewStep _ (.error _) | .reviewFinal _ (.error _)
  | .chooseDelegate _ _ (.error _) | .startSubtask _ _ (.error _) | .executeStep _ _ (.error _)
  | .createArtifact _ _ (.error _) => isFalse id
  | .nextActions request (.ok actions) => inferInstanceAs (Decidable (request.plan.Furthered actions))
  | .reviewStep _ (.ok outcome) => inferInstanceAs (Decidable
      (outcome.Valid ∧ outcome.verdict ≠ .revise ∧ outcome.verdict ≠ .fail))
  | .reviewFinal _ (.ok outcome) =>
    inferInstanceAs (Decidable (outcome.Valid ∧ outcome.verdict ≠ .fail))
  | .runtime _ | .operation _ (.ok _) _ | .tick (.ok _) _ | .buildContext _ (.ok _)
  | .evaluateCompletion _ _ | .recordStepResult _ _ | .revisePlan _ _
  | .chooseDelegate _ _ (.ok _) | .startSubtask _ _ (.ok _) | .executeStep _ _ (.ok _)
  | .createArtifact _ _ (.ok _) => isTrue trivial

namespace DeepLoopCoordinator

variable {σ : Type} {c : DeepLoopCoordinator σ} {s : LoopState} {action : PlannedAction}
  {step : PlanStep} {stepContext planContext : Option String} {w : World σ} {o : Ran σ}

def Cooperates (t : List (Call σ)) : Prop := ∀ x ∈ t, x.Cooperative

instance (t : List (Call σ)) : Decidable (Cooperates t) :=
  inferInstanceAs (Decidable (∀ x ∈ t, x.Cooperative))

structure PlansItself (c : DeepLoopCoordinator σ) : Prop where
  records : c.RecordsItself
  checks : ∀ req s, c.planner.evaluateCompletion req s = (.ok (LlmPlanning.evaluateCompletion req), s)
  knows : ∀ req s actions s', c.planner.nextActions req s = (.ok actions, s') →
    ∀ action ∈ actions, action.stepId ∈ req.plan.stepIds

lemma llmPlanner_plansItself (c : DeepLoopCoordinator σ) (llm : LlmProvider σ)
    (codecs : PlanningCodecs) : (c.withPlanner (LlmPlanningProvider llm codecs)).PlansItself where
  records := llmPlanner_recordsItself c llm codecs
  checks _ _ := rfl
  knows req s actions s' h := by
    change LlmPlanning.nextActions llm codecs req s = (.ok actions, s') at h
    unfold LlmPlanning.nextActions at h
    split at h
    · cases h
    · obtain ⟨rfl, hknown⟩ := LlmPlanning.checkActions_known (congrArg Prod.fst h)
      exact hknown

section

variable {t : List (Call σ)}

def Proceeds (o : Ran σ) : Prop := ∃ s', o.result = .ok (.next s')

lemma Proceeds.after (h : Proceeds o) : Proceeds (o.after t) := h

lemma not_cooperates_refusal {ts : List RuntimeCall} {operation : RuntimeOperation}
    {e : RuntimeError} {w' : World σ} (h : Cooperates (refusal ts operation e w')) : False :=
  h _ (List.mem_append_right _ (List.mem_singleton.mpr rfl))

lemma Emitted.proceeds (hp : c.RecordsItself) {subtask : SubtaskEnvelope}
    (he : c.Emitted s step subtask w o) (ht : Cooperates o.trace) : Proceeds o := by
  cases he with
  | refused _ => exact (ht _ (List.mem_cons_self ..)).elim
  | unrecorded _ ha =>
    rw [hp] at ha
    cases ha
  | emitted _ _ => exact ⟨_, rfl⟩

lemma Delegated.proceeds (hp : c.RecordsItself) (hd : c.Delegated s step w o)
    (ht : Cooperates o.trace) : Proceeds o := by
  cases hd with
  | unchosen _ => exact (ht _ (List.mem_cons_self ..)).elim
  | refused _ _ _ => exact (not_cooperates_refusal (List.forall_mem_cons.mp ht).2).elim
  | handed _ _ he => exact (he.proceeds hp (List.forall_mem_append.mp ht).2).after

lemma Judged.proceeds (hp : c.RecordsItself) {verdict : ReviewVerdict}
    (hj : c.Judged s step stepContext w verdict o) (ht : Cooperates o.trace)
    (hr : verdict ≠ .revise) (hf : verdict ≠ .fail) : Proceeds o := by
  cases hj with
  | unrecorded _ ha =>
    rw [hp] at ha
    cases ha
  | recorded _ _ => exact ⟨_, rfl⟩
  | unrevised _ => exact absurd rfl hr
  | revised _ => exact absurd rfl hr
  | unchosen _ => exact (ht _ (List.mem_cons_self ..)).elim
  | handed _ he => exact (he.proceeds hp (List.forall_mem_append.mp ht).2).after
  | failed _ => exact absurd rfl hf

lemma Worked.proceeds (hp : c.RecordsItself) (hw : c.Worked s action step stepContext w o)
    (ht : Cooperates o.trace) : Proceeds o := by
  cases hw with
  | unexecuted _ _ => exact (ht _ (List.mem_cons_self ..)).elim
  | unstored _ _ => exact ((List.forall_mem_append.mp ht).2 _ (List.mem_cons_self ..)).elim
  | unreviewed _ _ _ =>
    have hcalls := List.forall_mem_cons.mp (List.forall_mem_append.mp ht).2
    exact (hcalls.2 _ (List.mem_cons_self ..)).elim
  | invalid _ _ _ hval =>
    have hcalls := List.forall_mem_cons.mp (List.forall_mem_append.mp ht).2
    cases hval.symm.trans (hcalls.2 _ (List.mem_cons_self ..)).1
  | judged _ _ _ _ hj =>
    obtain ⟨hcalls, hrest⟩ := List.forall_mem_append.mp ht
    have hcalls := List.forall_mem_cons.mp (List.forall_mem_append.mp hcalls).2
    have hreview := hcalls.2 _ (List.mem_cons_self ..)
    exact (hj.proceeds hp hrest hreview.2.1 hreview.2.2).after

lemma Executed.proceeds (hp : c.RecordsItself) (he : c.Executed s action step stepContext w o)
    (ht : Cooperates o.trace) : Proceeds o := by
  cases he with
  | refused _ => exact ((List.forall_mem_append.mp ht).2 _ (List.mem_cons_self ..)).elim
  | ticked _ hw => exact (hw.proceeds hp (List.forall_mem_append.mp ht).2).after

lemma Acted.proceeds (hp : c.RecordsItself) (ha : c.Acted s action w o)
    (hk : action.stepId ∈ s.plan.stepIds) (ht : Cooperates o.trace) : Proceeds o := by
  cases ha with
  | missing hm =>
    obtain ⟨step, hstep, hid⟩ := List.mem_map.mp hk
    exact absurd hid (hm step hstep)
  | noContext _ => exact (ht _ (List.mem_cons_self ..)).elim
  | delegated _ _ _ hd => exact (hd.proceeds hp (List.forall_mem_append.mp ht).2).after
  | executed _ _ _ he => exact (he.proceeds hp (List.forall_mem_append.mp ht).2).after

lemma actions_proceed (hp : c.RecordsItself) (actions : List PlannedAction) (s : LoopState)
    (w : World σ) (hs : s.plan.Workable)
    (hk : ∀ action ∈ actions, action.stepId ∈ s.plan.stepIds)
    (ht : Cooperates ((Traced.forEach c.runAction s actions).run w).trace) :
    ∃ s', ((Traced.forEach c.runAction s actions).run w).result = .ok (.next s') ∧
      s'.plan = recordAll s.plan (actions.map PlannedAction.stepId) := by
  induction actions generalizing s w with
  | nil => exact ⟨s, rfl, rfl⟩
  | cons action actions ih =>
    obtain ⟨hknown, hk⟩ := List.forall_mem_cons.mp hk
    have ha := c.runAction_cases s action w
    rcases hr : (c.runAction s action).run w with ⟨e | s' | report, w', t⟩
    · rw [hr] at ha
      rw [Traced.run_forEach_error actions hr] at ht
      obtain ⟨_, hnext⟩ := ha.proceeds hp hknown ht
      cases hnext
    · rw [hr] at ha
      rw [Traced.run_forEach_next actions hr] at ht ⊢
      have hplan : s'.plan = recordStepResult ⟨s.plan, action.stepId, .completed⟩ :=
        ha.next_plan hp rfl
      have hs' : s'.plan.Workable := hplan ▸ PlanDocument.workable_recorded hs action.stepId
      have hids : s'.plan.stepIds = s.plan.stepIds :=
        hplan ▸ PlanDocument.stepIds_recorded hs action.stepId
      obtain ⟨s'', hresult, hplan'⟩ :=
        ih s' w' hs' (hids ▸ hk) (List.forall_mem_append.mp ht).2
      refine ⟨s'', hresult, ?_⟩
      rw [hplan', hplan, List.map_cons, LlmPlanning.recordAll_cons]
    · rw [hr] at ha
      rw [Traced.run_forEach_done actions hr] at ht
      obtain ⟨_, hnext⟩ := ha.proceeds hp hknown ht
      cases hnext

end

structure WorkedOff (report : DeepLoopRun) : Prop where
  status : report.status = if report.emittedSubtasks = [] then .completed else .delegating
  steps : ∀ step ∈ report.plan.steps, step.status = .completed

lemma evaluateCompletion_completed {plan : PlanDocument}
    (h : ∀ step ∈ plan.steps, step.status = .completed) :
    LlmPlanning.evaluateCompletion ⟨plan⟩ = .satisfied := by
  unfold LlmPlanning.evaluateCompletion
  rw [if_neg, if_pos]
  · rw [List.all_eq_true]
    intro step hm
    rw [h step hm]
    rfl
  · rw [Bool.not_eq_true, List.any_eq_false]
    intro step hm
    simp [h step hm]

lemma Closed.workedOff {operation : RuntimeOperation} {report : DeepLoopRun}
    (hc : c.Closed operation report w o) (ht : Cooperates o.trace) :
    o.result = .ok (.done report) := by
  cases hc with
  | refused _ => exact (not_cooperates_refusal ht).elim
  | closed _ => rfl

lemma Settled.workedOff (hp : c.PlansItself) (hs : c.Settled s planContext w o)
    (hdone : ∀ step ∈ s.plan.steps, step.status = .completed) (ht : Cooperates o.trace) :
    ∃ report, o.result = .ok (.done report) ∧ WorkedOff report := by
  have hchecked : ∀ {completion : CompletionState} {env : σ},
      c.planner.evaluateCompletion ⟨s.plan⟩ w.env = (.ok completion, env) →
      completion = .satisfied := by
    intro completion env he
    rw [hp.checks, evaluateCompletion_completed hdone] at he
    cases he
    rfl
  cases hs with
  | delegating he => exact ⟨_, rfl, by simp [LoopState.report, he], hdone⟩
  | unchecked _ he =>
    rw [hp.checks] at he
    cases he
  | incomplete _ he => cases hchecked he
  | unsatisfied _ he _ => cases hchecked he
  | unreviewed _ _ _ =>
    exact ((List.forall_mem_cons.mp ht).2 _ (List.mem_cons_self ..)).elim
  | invalid _ _ _ hval =>
    cases hval.symm.trans ((List.forall_mem_cons.mp ht).2 _ (List.mem_cons_self ..)).1
  | failed _ _ _ _ hv _ =>
    obtain ⟨hcalls, _⟩ := List.forall_mem_append.mp ht
    exact absurd hv ((List.forall_mem_cons.mp hcalls).2 _ (List.mem_cons_self ..)).2
  | completed he _ _ _ _ hc =>
    refine ⟨_, hc.workedOff (List.forall_mem_append.mp ht).2, ?_, hdone⟩
    simp [LoopState.report, he]

lemma iteration_advances (hp : c.PlansItself) (s : LoopState) (i : ℕ) (w : World σ)
    (hs : s.plan.Workable) (ht : Cooperates ((c.runIteration s i).run w).trace) :
    (∃ report, ((c.runIteration s i).run w).result = .ok (.done report) ∧ WorkedOff report) ∨
    ∃ s', ((c.runIteration s i).run w).result = .ok (.next s') ∧ s'.plan.Workable ∧
      s'.plan.unfinished.length < s.plan.unfinished.length := by
  have hi := c.runIteration_cases s i w
  generalize (c.runIteration s i).run w = o at hi ht
  cases hi with
  | noContext _ => exact (ht _ (List.mem_cons_self ..)).elim
  | noActions _ _ => exact ((List.forall_mem_cons.mp ht).2 _ (List.mem_cons_self ..)).elim
  | settled _ _ hsettled =>
    obtain ⟨hcalls, hrest⟩ := List.forall_mem_append.mp ht
    have hf : s.plan.Furthered [] := (List.forall_mem_cons.mp hcalls).2 _ (List.mem_cons_self ..)
    obtain ⟨report, hresult, hreport⟩ :=
      hsettled.workedOff hp (PlanDocument.completed_of_furthered hs hf) hrest
    exact .inl ⟨report, hresult, hreport⟩
  | acted _ hnext hne =>
    obtain ⟨hcalls, hrest⟩ := List.forall_mem_append.mp ht
    have hf : s.plan.Furthered _ := (List.forall_mem_cons.mp hcalls).2 _ (List.mem_cons_self ..)
    obtain ⟨s', hresult, hplan⟩ :=
      actions_proceed hp.records _ _ _ hs (hp.knows _ _ _ _ hnext) hrest
    refine .inr ⟨s', hresult, ?_, ?_⟩
    · rw [hplan]
      exact PlanDocument.workable_recordAll hs _
    · rw [hplan]
      exact PlanDocument.unfinished_furthered hs hf hne

lemma run_worksOff (hp : c.PlansItself) {plan : PlanDocument} {w : World σ}
    (hplan : plan.Workable) (hn : plan.unfinished.length < c.maxIterations)
    (ht : Cooperates ((c.run plan).run w).trace) :
    (∃ report, ((c.run plan).run w).result = .ok report ∧ WorkedOff report) ∧
      ((c.run plan).run w).trace.countP asks ≤ plan.unfinished.length + 1 := by
  have hs := c.startTask_cases w
  rcases hr : c.startTask.run w with ⟨e | ⟨⟩, w₁, t⟩
  · rw [hr] at hs
    have hrun : (c.run plan).run w = ⟨.error e, w₁, t⟩ := by simp [DeepLoopCoordinator.run, hr]
    rw [hrun] at ht
    cases hs with
    | refused _ _ => exact (not_cooperates_refusal ht).elim
  · rw [hr] at hs
    rw [run_of_started hr] at ht ⊢
    obtain ⟨_, hrest⟩ := List.forall_mem_append.mp ht
    obtain ⟨⟨report, hresult, hreport⟩, hcount⟩ :=
      @Traced.forEach_leaves _ _ _ _ _ _ c.runIteration Call.Cooperative
        (fun s => s.plan.Workable) WorkedOff (fun s => s.plan.unfinished.length) asks
        (iteration_advances hp) iteration_asks_once (List.range c.maxIterations)
        (c.initialState plan) w₁ hplan (by simpa using hn) hrest
    refine ⟨⟨report, ?_, hreport⟩, ?_⟩
    · simp [Outcome.map, hresult, Except.map]
    · have hstart : t.countP asks = 0 :=
        countP_asks_of_not fun x hx => not_settling_of_mediating (hs.mediating x hx)
      simpa [hstart] using hcount

end DeepLoopCoordinator

end GreenticDw

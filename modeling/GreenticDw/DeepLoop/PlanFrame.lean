import GreenticDw.DeepLoop.Runs
import GreenticDw.DeepLoop.Script
import GreenticDw.Llm.Planner

/-! What a run does to its plan: it records steps it worked on, and nothing else. -/

namespace GreenticDw

open LlmPlanning (recordAll Progress)

namespace DeepLoopCoordinator

variable {σ : Type} {c : DeepLoopCoordinator σ}

def RecordsItself (c : DeepLoopCoordinator σ) : Prop :=
  ∀ req s, c.planner.recordStepResult req s = (.ok (LlmPlanning.recordStepResult req), s)

def withPlanner (c : DeepLoopCoordinator σ) (planner : PlanningProvider σ) :
    DeepLoopCoordinator σ :=
  { c with planner }

def recordedId : Call σ → Option String
  | .recordStepResult request (.ok _) => some request.stepId
  | _ => none

def recordedIds (t : List (Call σ)) : List String := t.filterMap recordedId

def WorkedOn (t : List (Call σ)) (stepId : String) : Prop :=
  ∃ moment : Moment σ, moment.step.stepId = stepId ∧
    ((∃ request artifact, .createArtifact moment request (.ok artifact) ∈ t) ∨
      ∃ request handle, .startSubtask moment request (.ok handle) ∈ t)

variable {t u : List (Call σ)}

lemma recordedIds_append : recordedIds (t ++ u) = recordedIds t ++ recordedIds u :=
  List.filterMap_append ..

lemma recordedIds_eq_nil (ht : ∀ x ∈ t, recordedId x = none) : recordedIds t = [] :=
  List.filterMap_eq_nil_iff.mpr ht

lemma recordedIds_mediating (ht : ∀ x ∈ t, x.Mediating) : recordedIds t = [] := by
  apply recordedIds_eq_nil
  intro x hx
  have := ht x hx
  cases x <;> first | rfl | exact this.elim

lemma recordedIds_quiet (ht : ∀ x ∈ t, x.Quiet) : recordedIds t = [] := by
  apply recordedIds_eq_nil
  intro x hx
  have := ht x hx
  cases x <;> first | rfl | exact this.elim

lemma recordedIds_choose {m : Moment σ} {r : DelegationRequest}
    {d : Except DelegationError DelegationDecision} :
    recordedIds (.chooseDelegate m r d :: t) = recordedIds t := rfl

lemma WorkedOn.mono {stepId : String} (h : t ⊆ u) (hw : WorkedOn t stepId) :
    WorkedOn u stepId := by
  obtain ⟨moment, hm, ⟨request, artifact, ha⟩ | ⟨request, handle, ha⟩⟩ := hw
  · exact ⟨moment, hm, Or.inl ⟨request, artifact, h ha⟩⟩
  · exact ⟨moment, hm, Or.inr ⟨request, handle, h ha⟩⟩

structure Carries (s : LoopState) (o : Ran σ) : Prop where
  next : ∀ s', o.result = .ok (.next s') → s'.plan = recordAll s.plan (recordedIds o.trace)
  done : ∀ report, o.result = .ok (.done report) →
    report.plan = { recordAll s.plan (recordedIds o.trace) with revision := report.plan.revision } ∧
    (report.status ≠ .revising → report.plan.revision = s.plan.revision)

def RecordsWorked (t : List (Call σ)) : Prop := ∀ stepId ∈ recordedIds t, WorkedOn t stepId

lemma RecordsWorked.append (ht : RecordsWorked t) (hu : RecordsWorked u) :
    RecordsWorked (t ++ u) := by
  intro stepId hs
  rw [recordedIds_append, List.mem_append] at hs
  rcases hs with hs | hs
  · exact (ht stepId hs).mono (List.subset_append_left t u)
  · exact (hu stepId hs).mono (List.subset_append_right t u)

lemma recordsWorked_of_nil (ht : recordedIds t = []) : RecordsWorked t := by
  simp [RecordsWorked, ht]

section

variable {s s' s₁ : LoopState} {action : PlannedAction} {step : PlanStep}
  {stepContext : Option String} {w : World σ} {o : Ran σ}

lemma Carries.after (ht : recordedIds t = []) (hs : s₁.plan = s.plan) (ho : Carries s₁ o) :
    Carries s (o.after t) := by
  constructor
  · intro s' hr
    rw [Outcome.after_trace, recordedIds_append, ht, List.nil_append, ← hs]
    exact ho.next s' hr
  · intro report hr
    rw [Outcome.after_trace, recordedIds_append, ht, List.nil_append, ← hs]
    exact ho.done report hr

lemma Carries.seq {w' : World σ} (h : Carries s ⟨.ok (.next s'), w', t⟩) (ho : Carries s' o) :
    Carries s (o.after t) := by
  have hs : s'.plan = recordAll s.plan (recordedIds t) := h.next s' rfl
  have hrev : s'.plan.revision = s.plan.revision := by
    rw [hs, LlmPlanning.recordAll_document]
  constructor
  · intro s'' hr
    rw [Outcome.after_trace, recordedIds_append, LlmPlanning.recordAll_append, ← hs]
    exact ho.next s'' hr
  · intro report hr
    rw [Outcome.after_trace, recordedIds_append, LlmPlanning.recordAll_append, ← hs, ← hrev]
    exact ho.done report hr

lemma carries_error {e : DeepLoopError} {w' : World σ} : Carries s ⟨.error e, w', t⟩ :=
  ⟨by simp, by simp⟩

lemma carries_report {status : DeepLoopStatus} {w' : World σ} (ht : recordedIds t = []) :
    Carries s ⟨.ok (.done (s.report status)), w', t⟩ := by
  refine ⟨by simp, fun report hr => ?_⟩
  cases hr
  simp [ht, LoopState.report]

lemma Closed.carries {operation : RuntimeOperation} {status : DeepLoopStatus}
    (hc : c.Closed operation (s.report status) w o) : Carries s o := by
  cases hc with
  | refused _ => exact carries_error
  | closed _ => exact carries_report (recordedIds_mediating c.authorised_mediating)

lemma Closed.recordedIds_eq_nil {operation : RuntimeOperation} {report : DeepLoopRun}
    (hc : c.Closed operation report w o) : recordedIds o.trace = [] := by
  cases hc with
  | refused _ => exact recordedIds_mediating refusal_mediating
  | closed _ => exact recordedIds_mediating c.authorised_mediating

lemma Emitted.carries (hp : c.RecordsItself) {subtask : SubtaskEnvelope}
    (he : c.Emitted s step subtask w o) : Carries s o := by
  cases he with
  | refused _ => exact carries_error
  | unrecorded _ _ => exact carries_error
  | emitted _ hr =>
    rw [hp] at hr
    cases hr
    exact ⟨fun s' hs => by cases hs; rfl, by simp⟩

lemma Emitted.recordsWorked {subtask : SubtaskEnvelope} (he : c.Emitted s step subtask w o) :
    RecordsWorked o.trace := by
  cases he with
  | refused _ => exact recordsWorked_of_nil rfl
  | unrecorded _ _ => exact recordsWorked_of_nil rfl
  | @emitted handle plan env env' _ _ =>
    intro stepId hs
    obtain rfl : stepId = step.stepId := List.mem_singleton.mp hs
    exact ⟨⟨s.plan, step, w⟩, rfl, Or.inr ⟨⟨subtask⟩, handle, List.mem_cons_self ..⟩⟩

lemma Delegated.carries (hp : c.RecordsItself) (hd : c.Delegated s step w o) : Carries s o := by
  cases hd with
  | unchosen _ => exact carries_error
  | refused _ _ _ => exact carries_error
  | handed _ _ he =>
    refine (he.carries hp).after (recordedIds_choose.trans ?_) rfl
    exact recordedIds_mediating c.authorised_mediating

lemma Delegated.recordsWorked (hd : c.Delegated s step w o) : RecordsWorked o.trace := by
  cases hd with
  | unchosen _ => exact recordsWorked_of_nil rfl
  | refused _ _ _ =>
    exact recordsWorked_of_nil (recordedIds_choose.trans (recordedIds_mediating refusal_mediating))
  | handed _ _ he =>
    refine (recordsWorked_of_nil (recordedIds_choose.trans ?_)).append he.recordsWorked
    exact recordedIds_mediating c.authorised_mediating

lemma Judged.carries (hp : c.RecordsItself) {verdict : ReviewVerdict}
    (hj : c.Judged s step stepContext w verdict o) : Carries s o := by
  cases hj with
  | unrecorded _ _ => exact carries_error
  | recorded _ hr =>
    rw [hp] at hr
    cases hr
    exact ⟨fun s' hs => by cases hs; rfl, by simp⟩
  | unrevised _ => exact carries_error
  | revised _ =>
    refine ⟨by simp, fun report hr => ?_⟩
    cases hr
    exact ⟨rfl, fun hs => (hs rfl).elim⟩
  | unchosen _ => exact carries_error
  | handed _ he => exact (he.carries hp).after rfl rfl
  | failed hc => exact hc.carries

lemma Judged.recordsWorked {verdict : ReviewVerdict} (hw : WorkedOn t step.stepId)
    (ht : recordedIds t = []) (hj : c.Judged s step stepContext w verdict o) :
    RecordsWorked (t ++ o.trace) := by
  have hquiet : RecordsWorked t := recordsWorked_of_nil ht
  cases hj with
  | unrecorded _ _ => exact hquiet.append (recordsWorked_of_nil rfl)
  | @recorded _ plan env _ _ =>
    intro stepId hs
    rw [recordedIds_append, ht] at hs
    obtain rfl : stepId = step.stepId := List.mem_singleton.mp hs
    exact hw.mono (List.subset_append_left ..)
  | unrevised _ => exact hquiet.append (recordsWorked_of_nil rfl)
  | revised _ => exact hquiet.append (recordsWorked_of_nil rfl)
  | unchosen _ => exact hquiet.append (recordsWorked_of_nil rfl)
  | handed _ he => exact hquiet.append ((recordsWorked_of_nil rfl).append he.recordsWorked)
  | failed hc => exact hquiet.append (recordsWorked_of_nil hc.recordedIds_eq_nil)

lemma Produced.recordedIds_eq_nil {body : String} {env : σ} {calls : List (Call σ)}
    (hp : c.Produced s step stepContext w body s₁ env calls) : recordedIds calls = [] := by
  cases hp <;> rfl

lemma Worked.carries (hp : c.RecordsItself) (hw : c.Worked s action step stepContext w o) :
    Carries s o := by
  cases hw with
  | unexecuted _ _ => exact carries_error
  | unstored _ _ => exact carries_error
  | unreviewed _ _ _ => exact carries_error
  | invalid _ _ _ _ => exact carries_error
  | @judged body s₁ calls artifact outcome env env₁ env' o hprod _ _ _ hj =>
    have hs : (s₁.stored artifact).plan = s.plan := hprod.plan
    refine (hj.carries hp).after ?_ hs
    rw [recordedIds_append, hprod.recordedIds_eq_nil]
    rfl

lemma Worked.recordsWorked (hw : c.Worked s action step stepContext w o) :
    RecordsWorked o.trace := by
  have hquiet : ∀ {body : String} {s₁ : LoopState} {env : σ} {calls t : List (Call σ)},
      c.Produced s step stepContext w body s₁ env calls → recordedIds t = [] →
      recordedIds (calls ++ t) = [] := by
    intro body s₁ env calls t hprod ht
    rw [recordedIds_append, hprod.recordedIds_eq_nil, ht]
    rfl
  cases hw with
  | unexecuted _ _ => exact recordsWorked_of_nil rfl
  | unstored hprod _ => exact recordsWorked_of_nil (hquiet hprod rfl)
  | unreviewed hprod _ _ => exact recordsWorked_of_nil (hquiet hprod rfl)
  | invalid hprod _ _ _ => exact recordsWorked_of_nil (hquiet hprod rfl)
  | @judged body s₁ calls artifact outcome env env₁ env' o hprod _ _ _ hj =>
    refine Judged.recordsWorked ?_ (hquiet hprod rfl) hj
    refine ⟨⟨s.plan, step, w.withEnv env⟩, rfl, Or.inl ?_⟩
    refine ⟨stepArtifact w.envelope s₁ action step body, artifact, ?_⟩
    exact List.mem_append_right calls (List.mem_cons_self ..)

lemma Executed.carries (hp : c.RecordsItself)
    (he : c.Executed s action step stepContext w o) : Carries s o := by
  cases he with
  | refused _ => exact carries_error
  | ticked _ hw => exact (hw.carries hp).after (recordedIds_mediating ticking_mediating) rfl

lemma Executed.recordsWorked (he : c.Executed s action step stepContext w o) :
    RecordsWorked o.trace := by
  cases he with
  | refused _ => exact recordsWorked_of_nil (recordedIds_mediating ticking_mediating)
  | ticked _ hw =>
    refine (recordsWorked_of_nil ?_).append hw.recordsWorked
    exact recordedIds_mediating ticking_mediating

lemma Acted.carries (hp : c.RecordsItself) (ha : c.Acted s action w o) : Carries s o := by
  cases ha with
  | missing _ => exact carries_error
  | noContext _ => exact carries_error
  | delegated _ _ _ hd => exact (hd.carries hp).after rfl rfl
  | executed _ _ _ he => exact (he.carries hp).after rfl rfl

lemma Acted.recordsWorked (ha : c.Acted s action w o) : RecordsWorked o.trace := by
  cases ha with
  | missing _ => exact recordsWorked_of_nil rfl
  | noContext _ => exact recordsWorked_of_nil rfl
  | delegated _ _ _ hd => exact (recordsWorked_of_nil rfl).append hd.recordsWorked
  | executed _ _ _ he => exact (recordsWorked_of_nil rfl).append he.recordsWorked

lemma Settled.carries {planContext : Option String} (hs : c.Settled s planContext w o) :
    Carries s o := by
  cases hs with
  | delegating _ => exact carries_report rfl
  | unchecked _ _ => exact carries_error
  | incomplete _ _ => exact ⟨fun s' hr => by cases hr; rfl, by simp⟩
  | unsatisfied _ _ hc => exact hc.carries.after rfl rfl
  | unreviewed _ _ _ => exact carries_error
  | invalid _ _ _ _ => exact carries_error
  | failed _ _ _ _ _ hc => exact hc.carries.after rfl rfl
  | completed _ _ _ _ _ hc => exact hc.carries.after rfl rfl

lemma Settled.recordedIds_eq_nil {planContext : Option String}
    (hs : c.Settled s planContext w o) : recordedIds o.trace = [] := by
  cases hs with
  | delegating _ => rfl
  | unchecked _ _ => rfl
  | incomplete _ _ => rfl
  | unsatisfied _ _ hc => exact hc.recordedIds_eq_nil
  | unreviewed _ _ _ => rfl
  | invalid _ _ _ _ => rfl
  | failed _ _ _ _ _ hc => exact hc.recordedIds_eq_nil
  | completed _ _ _ _ _ hc => exact hc.recordedIds_eq_nil

end

lemma carries_invariant (hp : c.RecordsItself) : c.LoopInvariant fun s _ o => Carries s o where
  skip s _ := ⟨fun s' hr => by cases hr; rfl, by simp⟩
  seq h h' := h.seq h'
  halt _ _ _ := carries_error
  quiet ht h := h.after (recordedIds_quiet ht) rfl
  acted h := h.carries hp
  settled h := h.carries

lemma recordsWorked_invariant : c.LoopInvariant fun _ _ o => RecordsWorked o.trace where
  skip _ _ := recordsWorked_of_nil rfl
  seq h h' := h.append h'
  halt _ _ _ := recordsWorked_of_nil rfl
  quiet ht h := (recordsWorked_of_nil (recordedIds_quiet ht)).append h
  acted h := h.recordsWorked
  settled h := recordsWorked_of_nil h.recordedIds_eq_nil

lemma run_recordsWorked (plan : PlanDocument) (w : World σ) :
    RecordsWorked ((c.run plan).run w).trace :=
  recordsWorked_invariant.run (P := fun o => RecordsWorked o.trace)
    (fun _ _ _ hs => recordsWorked_of_nil (recordedIds_mediating hs.mediating))
    fun _ _ _ hs ho => (recordsWorked_of_nil (recordedIds_mediating hs.mediating)).append ho

theorem run_carries (hp : c.RecordsItself) {plan : PlanDocument} {w : World σ}
    {report : DeepLoopRun} (h : ((c.run plan).run w).result = .ok report) :
    report.plan = { recordAll plan (recordedIds ((c.run plan).run w).trace) with
      revision := report.plan.revision } ∧
    (report.status ≠ .revising → report.plan.revision = plan.revision) := by
  refine (carries_invariant hp).run (P := fun o => o.result = .ok report →
    report.plan = { recordAll plan (recordedIds o.trace) with
      revision := report.plan.revision } ∧
    (report.status ≠ .revising → report.plan.revision = plan.revision)) ?_ ?_ h
  · intro e w' t _ hr
    cases hr
  · rintro w₁ t ⟨_ | s | report', w', u⟩ hs ho hr
    · cases hr
    · cases hr
      have hu := ho.next s rfl
      simp only [Outcome.after_trace, Outcome.map_trace, recordedIds_append,
        recordedIds_mediating hs.mediating, List.nil_append]
      refine ⟨?_, fun _ => ?_⟩
      · simp only [conclude, LoopState.report, hu]
        rfl
      · simp only [conclude, LoopState.report, hu]
        rw [LlmPlanning.recordAll_document]
        rfl
    · cases hr
      simpa [recordedIds_append, recordedIds_mediating hs.mediating] using ho.done report' rfl

/-- What a run that ends with a report did to its plan. Every change of a status is part of the
record of a step that was worked on; the other changes of that record are promotions. -/
structure PlanKept (plan : PlanDocument) (report : DeepLoopRun) (t : List (Call σ)) : Prop where
  document : report.plan =
    { plan with steps := report.plan.steps, revision := report.plan.revision }
  revision : report.status ≠ .revising → report.plan.revision = plan.revision
  valid : validatePlan report.plan = validatePlan plan
  steps : Progress (WorkedOn t) plan.steps report.plan.steps
  recorded : report.plan.steps = (recordAll plan (recordedIds t)).steps
  changes : ∀ stepIds stepId, stepIds ++ [stepId] <+: recordedIds t → WorkedOn t stepId ∧
    Progress (· = stepId) (recordAll plan stepIds).steps (recordAll plan (stepIds ++ [stepId])).steps

lemma llmPlanner_recordsItself (c : DeepLoopCoordinator σ) (llm : LlmProvider σ)
    (codecs : PlanningCodecs) : (c.withPlanner (LlmPlanningProvider llm codecs)).RecordsItself :=
  fun _ _ => rfl

lemma run_planKept (hp : c.RecordsItself) {plan : PlanDocument} {w : World σ}
    {report : DeepLoopRun} (h : ((c.run plan).run w).result = .ok report) :
    PlanKept plan report ((c.run plan).run w).trace := by
  obtain ⟨hplan, hrev⟩ := run_carries hp h
  have hw := run_recordsWorked (c := c) plan w
  have hsteps : report.plan.steps =
      (recordAll plan (recordedIds ((c.run plan).run w).trace)).steps := by
    rw [hplan]
  have hdoc : report.plan =
      { plan with steps := report.plan.steps, revision := report.plan.revision } := by
    rw [LlmPlanning.recordAll_document] at hplan
    rw [hplan]
  have hprogress : Progress (WorkedOn ((c.run plan).run w).trace) plan.steps report.plan.steps :=
    hsteps ▸ LlmPlanning.recordAll_progress hw
  refine ⟨hdoc, hrev, validatePlan_congr ⟨hdoc, hprogress.sameBut⟩, hprogress, hsteps, ?_⟩
  intro stepIds stepId hpre
  refine ⟨hw stepId (hpre.subset (by simp)), ?_⟩
  rw [LlmPlanning.recordAll_append]
  exact LlmPlanning.recordAll_progress (by simp)

theorem plan_frame_and_progress (c : DeepLoopCoordinator σ) (llm : LlmProvider σ)
    (codecs : PlanningCodecs) (plan : PlanDocument) (w : World σ) (report : DeepLoopRun)
    (h : (((c.withPlanner (LlmPlanningProvider llm codecs)).run plan).run w).result = .ok report) :
    PlanKept plan report
      (((c.withPlanner (LlmPlanningProvider llm codecs)).run plan).run w).trace :=
  run_planKept (llmPlanner_recordsItself c llm codecs) h

theorem plan_frame_and_progress_scripted :
    PlanKept
      (Script.plan [Script.step "a" .toolCall .ready [], Script.step "b" .toolCall .pending ["a"]])
      ⟨Script.plan [Script.step "a" .toolCall .completed [], Script.step "b" .toolCall .ready ["a"]],
        .budgetExhausted, [], ["artifact://plan/a/0"], 0⟩
      (Script.runLlm ⟨.noop, .accept, .accept, 1⟩ [Script.step "a" .toolCall .ready [],
        Script.step "b" .toolCall .pending ["a"]] [Script.reply "a"]).trace :=
  plan_frame_and_progress (Script.coordinatorOf ⟨.noop, .accept, .accept, 1⟩
      (LlmPlanningProvider Script.llm (Script.codecs []))) Script.llm (Script.codecs [])
    (Script.plan [Script.step "a" .toolCall .ready [], Script.step "b" .toolCall .pending ["a"]])
    ⟨[Script.reply "a"], Script.task .created⟩ _ (by rfl)

end DeepLoopCoordinator

end GreenticDw

import GreenticDw.DeepLoop.PlanFrame
import GreenticDw.DeepLoop.Replay

/-! Which changes of a step's status a run makes, and which of them the contract allows. -/

namespace GreenticDw

open LlmPlanning (recordStepResult setStatus promote promote_advanced)

def LegalChange (step step' : PlanStep) : Prop :=
  step'.status ≠ step.status → validateStepTransition step.status step'.status = .ok ()

instance (step step' : PlanStep) : Decidable (LegalChange step step') :=
  inferInstanceAs (Decidable (step'.status ≠ step.status →
    validateStepTransition step.status step'.status = .ok ()))

def Call.Legal {σ : Type} : Call σ → Prop
  | .recordStepResult request (.ok plan) => List.Forall₂ LegalChange request.plan.steps plan.steps
  | _ => True

instance {σ : Type} : (x : Call σ) → Decidable x.Legal
  | .recordStepResult request (.ok plan) =>
    inferInstanceAs (Decidable (List.Forall₂ LegalChange request.plan.steps plan.steps))
  | .recordStepResult _ (.error _) | .runtime _ | .operation _ _ _ | .tick _ _ | .buildContext _ _
  | .nextActions _ _ | .evaluateCompletion _ _ | .revisePlan _ _ | .reviewStep _ _
  | .reviewFinal _ _ | .chooseDelegate _ _ _ | .startSubtask _ _ _ | .executeStep _ _ _
  | .createArtifact _ _ _ => isTrue trivial

/-- A step that may be completed: it is running, or completed already. -/
def PlanStep.UnderWay (step : PlanStep) : Prop :=
  step.status = .running ∨ step.status = .completed

def PlanDocument.UnderWay (plan : PlanDocument) (stepId : String) : Prop :=
  ∀ step ∈ plan.steps.find? fun step => step.stepId = stepId, step.UnderWay

section

variable {steps : List PlanStep} {step step' : PlanStep} {stepId : String}

lemma legalChange_completed :
    LegalChange step { step with status := .completed } ↔ step.UnderWay := by
  unfold LegalChange PlanStep.UnderWay
  cases step.status <;> simp [validateStepTransition]

lemma promote_legal : LegalChange step (promote steps step) := by
  obtain ⟨_, h | ⟨hp, hr, _⟩⟩ := promote_advanced steps step
  · exact fun hne => (hne h).elim
  · intro _
    rw [hp, hr]
    rfl

lemma promote_completed (all : List PlanStep) (h : step.status = .completed) :
    promote all step = step := by
  simp [promote, h]

lemma map_promote_legal (all : List PlanStep) :
    List.Forall₂ LegalChange steps (steps.map (promote all)) := by
  rw [List.forall₂_map_right_iff, List.forall₂_same]
  exact fun _ _ => promote_legal

lemma record_legal_iff (all : List PlanStep) :
    List.Forall₂ LegalChange steps ((setStatus stepId .completed steps).map (promote all)) ↔
      ∀ step ∈ steps.find? fun step => step.stepId = stepId, step.UnderWay := by
  induction steps with
  | nil => simp [setStatus]
  | cons step steps ih =>
    unfold setStatus
    by_cases hs : step.stepId = stepId
    · have hrest := @map_promote_legal steps all
      rw [if_pos hs, List.map_cons, promote_completed all rfl, List.forall₂_cons,
        legalChange_completed]
      simp [hs, hrest]
    · have hfirst := @promote_legal all step
      simp [hs, hfirst, ih]

lemma recordStepResult_legal_iff (plan : PlanDocument) (stepId : String) :
    List.Forall₂ LegalChange plan.steps (recordStepResult ⟨plan, stepId, .completed⟩).steps ↔
      plan.UnderWay stepId :=
  record_legal_iff _

lemma promote_underWay (all : List PlanStep) : (promote all step).UnderWay ↔ step.UnderWay := by
  obtain ⟨_, h | ⟨hp, hr, _⟩⟩ := promote_advanced all step
  · unfold PlanStep.UnderWay
    rw [h]
  · simp [PlanStep.UnderWay, hp, hr]

lemma promote_stepId (all : List PlanStep) : (promote all step).stepId = step.stepId :=
  (promote_advanced all step).1.stepId

lemma map_promote_underWay_iff (all : List PlanStep) :
    (∀ step ∈ (steps.map (promote all)).find? fun step => step.stepId = stepId, step.UnderWay) ↔
      ∀ step ∈ steps.find? fun step => step.stepId = stepId, step.UnderWay := by
  simp [List.find?_map, promote_stepId, promote_underWay]

lemma record_underWay_iff (all : List PlanStep) (stepId' : String) :
    (∀ step ∈ ((setStatus stepId .completed steps).map (promote all)).find?
      fun step => step.stepId = stepId', step.UnderWay) ↔
      stepId' = stepId ∨ ∀ step ∈ steps.find? fun step => step.stepId = stepId', step.UnderWay := by
  induction steps with
  | nil => simp [setStatus]
  | cons step steps ih =>
    unfold setStatus
    by_cases hs : step.stepId = stepId
    · rw [if_pos hs, List.map_cons, promote_completed all rfl]
      by_cases hs' : step.stepId = stepId'
      · simp [hs', hs.symm.trans hs', PlanStep.UnderWay]
      · have hne : stepId' ≠ stepId := fun h => hs' (hs.trans h.symm)
        have hrest := @map_promote_underWay_iff steps stepId' all
        rw [List.find?_cons_of_neg (by simp [hs']), hrest, List.find?_cons_of_neg (by simp [hs'])]
        simp [hne]
    · rw [if_neg hs, List.map_cons]
      by_cases hs' : step.stepId = stepId'
      · have hne : stepId' ≠ stepId := fun h => hs (hs'.trans h)
        simp [promote_stepId, hs', hne, promote_underWay]
      · rw [List.find?_cons_of_neg (by simp [promote_stepId, hs']), ih,
          List.find?_cons_of_neg (by simp [hs'])]

lemma recordStepResult_underWay_iff (plan : PlanDocument) (stepId stepId' : String) :
    (recordStepResult ⟨plan, stepId, .completed⟩).UnderWay stepId' ↔
      stepId' = stepId ∨ plan.UnderWay stepId' :=
  record_underWay_iff _ stepId'

end

namespace DeepLoopCoordinator

variable {σ : Type} {c : DeepLoopCoordinator σ} {task : TaskEnvelope} {s : LoopState}
  {t : List (Call σ)}

lemma fits_recordsItself (hp : c.RecordsItself) {request : StepResultRequest} {plan : PlanDocument}
    (h : (Call.recordStepResult request (.ok plan)).Fits c task s) :
    request = ⟨s.plan, request.stepId, .completed⟩ ∧
      plan = recordStepResult ⟨s.plan, request.stepId, .completed⟩ := by
  obtain ⟨⟨hplan, _, hstatus⟩, env, hanswer⟩ := h
  rw [hp] at hanswer
  obtain ⟨plan', stepId, status⟩ := request
  cases hanswer
  obtain rfl : plan' = s.plan := hplan
  obtain rfl : status = .completed := hstatus
  exact ⟨rfl, rfl⟩

lemma Follows.frame (hp : c.RecordsItself) (h : c.Follows task s t) :
    s.plan.Frame (s.replay t).plan := by
  induction t generalizing s with
  | nil => exact .refl _
  | cons x t ih =>
    refine PlanDocument.Frame.trans ?_ (ih h.2)
    cases x with
    | recordStepResult request answer =>
      cases answer with
      | error e => exact .refl _
      | ok plan =>
        rw [(fits_recordsItself hp h.1).2]
        exact LlmPlanning.recordStepResult_frame s.plan request.stepId
    | revisePlan _ answer =>
      cases answer with
      | error e => exact .refl _
      | ok revision => exact ⟨rfl, List.forall₂_same.mpr fun step _ => .refl step⟩
    | startSubtask _ _ answer => cases answer <;> exact .refl _
    | executeStep _ _ answer => cases answer <;> exact .refl _
    | createArtifact _ _ answer => cases answer <;> exact .refl _
    | _ => exact .refl _

lemma Follows.legal_iff (hp : c.RecordsItself) (h : c.Follows task s t) :
    (∀ x ∈ t, x.Legal) ↔ ∀ stepId ∈ recordedIds t, s.plan.UnderWay stepId := by
  induction t generalizing s with
  | nil => simp [recordedIds]
  | cons x t ih =>
    have ih := ih h.2
    rw [List.forall_mem_cons, ih]
    cases x with
    | recordStepResult request answer =>
      cases answer with
      | error e => exact and_iff_right trivial
      | ok plan =>
        obtain ⟨hrequest, hplan⟩ := fits_recordsItself hp h.1
        have hlegal : (Call.recordStepResult (σ := σ) request (.ok plan)).Legal ↔
            s.plan.UnderWay request.stepId := by
          rw [hrequest, hplan]
          exact recordStepResult_legal_iff s.plan request.stepId
        have hobserve : ∀ stepId', (s.recorded plan).plan.UnderWay stepId' ↔
            stepId' = request.stepId ∨ s.plan.UnderWay stepId' := by
          rw [hplan]
          exact recordStepResult_underWay_iff s.plan request.stepId
        change Call.Legal _ ∧ (∀ stepId' ∈ recordedIds t, (s.recorded plan).plan.UnderWay stepId') ↔
          ∀ stepId' ∈ request.stepId :: recordedIds t, s.plan.UnderWay stepId'
        rw [hlegal, List.forall_mem_cons]
        simp only [hobserve]
        constructor
        · rintro ⟨hs, hall⟩
          exact ⟨hs, fun stepId' hm => (hall stepId' hm).elim (fun h => h ▸ hs) id⟩
        · rintro ⟨hs, hall⟩
          exact ⟨hs, fun stepId' hm => .inr (hall stepId' hm)⟩
    | revisePlan _ answer => cases answer <;> exact and_iff_right trivial
    | startSubtask _ _ answer => cases answer <;> exact and_iff_right trivial
    | executeStep _ _ answer => cases answer <;> exact and_iff_right trivial
    | createArtifact _ _ answer => cases answer <;> exact and_iff_right trivial
    | _ => exact and_iff_right trivial

theorem legal_transitions (c : DeepLoopCoordinator σ) (llm : LlmProvider σ)
    (codecs : PlanningCodecs) (plan : PlanDocument) (w : World σ) :
    (∀ x ∈ (((c.withPlanner (LlmPlanningProvider llm codecs)).run plan).run w).trace, x.Legal) ↔
      ∀ stepId ∈ recordedIds
        (((c.withPlanner (LlmPlanningProvider llm codecs)).run plan).run w).trace,
        plan.UnderWay stepId := by
  have h := ((c.withPlanner (LlmPlanningProvider llm codecs)).run_replayed plan w).calls
  exact h.legal_iff (llmPlanner_recordsItself c llm codecs)

theorem legal_transitions_running :
    recordedIds (Script.runLlm ⟨.noop, .accept, .accept, 3⟩
      [Script.step "a" .toolCall .running []] [Script.reply "a", "[]"]).trace = ["a"] ∧
    ∀ x ∈ (Script.runLlm ⟨.noop, .accept, .accept, 3⟩ [Script.step "a" .toolCall .running []]
      [Script.reply "a", "[]"]).trace, x.Legal := by
  have hrecorded : recordedIds (Script.runLlm ⟨.noop, .accept, .accept, 3⟩
      [Script.step "a" .toolCall .running []] [Script.reply "a", "[]"]).trace = ["a"] := by
    decide +kernel
  refine ⟨hrecorded, (legal_transitions (Script.coordinatorOf ⟨.noop, .accept, .accept, 3⟩
    (LlmPlanningProvider Script.llm (Script.codecs []))) Script.llm (Script.codecs [])
    (Script.plan [Script.step "a" .toolCall .running []]) _).mpr ?_⟩
  change ∀ stepId ∈ recordedIds (Script.runLlm ⟨.noop, .accept, .accept, 3⟩
    [Script.step "a" .toolCall .running []] [Script.reply "a", "[]"]).trace, _
  rw [hrecorded]
  simp [PlanDocument.UnderWay, PlanStep.UnderWay, Script.plan, Script.step]

theorem ready_step_completed :
    validatePlan Script.onePlan = .ok () ∧
    ¬∀ x ∈ (Script.runLlm ⟨.noop, .accept, .accept, 3⟩ [Script.step "a" .toolCall .ready []]
      [Script.reply "a", "[]"]).trace, x.Legal :=
  ⟨by rfl, by decide +kernel⟩

end DeepLoopCoordinator

end GreenticDw

import GreenticDw.Planning.Plans
import GreenticDw.Traced.Checks

/-! Validation of a plan document. Statuses and the revision play no part in it. -/

namespace GreenticDw

open Text

def validateEdge (edge : PlanEdge) (stepIds : List String) : Except PlanningError Unit := do
  rejectIf (edge.fromStepId ∉ stepIds)
    (.validation ("edge references unknown from_step_id `" ++ edge.fromStepId ++ "`"))
  rejectIf (edge.toStepId ∉ stepIds)
    (.validation ("edge references unknown to_step_id `" ++ edge.toStepId ++ "`"))
  rejectIf (edge.fromStepId = edge.toStepId)
    (.validation "edge cannot connect a step to itself")

def validateSteps : List String → List PlanStep → Except PlanningError (List String)
  | stepIds, [] => pure stepIds
  | stepIds, step :: steps => do
    rejectIf (isBlank step.stepId) (.validation "step_id must not be empty")
    rejectIf (step.stepId ∈ stepIds)
      (.validation ("duplicate step_id `" ++ step.stepId ++ "`"))
    rejectIf (isBlank step.title)
      (.validation ("step `" ++ step.stepId ++ "` title must not be empty"))
    rejectIf (step.dependsOn.any isBlank)
      (.validation ("step `" ++ step.stepId ++ "` has an empty dependency"))
    validateSteps (step.stepId :: stepIds) steps

def validateEdges (stepIds : List String) : List PlanEdge → Except PlanningError Unit
  | [] => pure ()
  | edge :: edges => do
    validateEdge edge stepIds
    validateEdges stepIds edges

def validateDependencies (stepIds : List String) (stepId : String) :
    List String → Except PlanningError Unit
  | [] => pure ()
  | dependency :: dependencies => do
    rejectIf (dependency ∉ stepIds) (.validation
      ("step `" ++ stepId ++ "` depends on unknown step `" ++ dependency ++ "`"))
    rejectIf (dependency = stepId)
      (.validation ("step `" ++ stepId ++ "` cannot depend on itself"))
    validateDependencies stepIds stepId dependencies

def validateReferences (stepIds : List String) : List PlanStep → Except PlanningError Unit
  | [] => pure ()
  | step :: steps => do
    validateDependencies stepIds step.stepId step.dependsOn
    validateReferences stepIds steps

def validatePlan (plan : PlanDocument) : Except PlanningError Unit := do
  rejectIf (isBlank plan.planId) (.validation "plan_id must not be empty")
  rejectIf (isBlank plan.goal) (.validation "goal must not be empty")
  rejectIf (plan.successCriteria = []) (.validation "success_criteria must not be empty")
  let stepIds ← validateSteps [] plan.steps
  validateEdges stepIds plan.edges
  validateReferences stepIds plan.steps

namespace PlanStepStatus

def debug : PlanStepStatus → String
  | pending => "Pending"
  | ready => "Ready"
  | running => "Running"
  | blocked => "Blocked"
  | completed => "Completed"
  | failed => "Failed"
  | skipped => "Skipped"

end PlanStepStatus

def validateStepTransition (previous next : PlanStepStatus) : Except PlanningError Unit :=
  match previous, next with
  | .pending, .ready => .ok ()
  | .ready, .running => .ok ()
  | .running, .completed => .ok ()
  | .running, .failed => .ok ()
  | .running, .blocked => .ok ()
  | .blocked, .ready => .ok ()
  | .pending, .skipped => .ok ()
  | .ready, .skipped => .ok ()
  | .running, .running => .ok ()
  | .completed, .completed => .ok ()
  | .failed, .failed => .ok ()
  | .skipped, .skipped => .ok ()
  | previous, next => .error (.validation ("illegal plan step transition from `" ++
      previous.debug ++ "` to `" ++ next.debug ++ "`"))

lemma validateSteps_congr {xs ys : List PlanStep} (h : List.Forall₂ PlanStep.SameBut xs ys)
    (stepIds : List String) : validateSteps stepIds ys = validateSteps stepIds xs := by
  induction h generalizing stepIds with
  | nil => rfl
  | cons hab _ ih => simp only [validateSteps, hab.stepId, hab.title, hab.dependsOn, ih]

lemma validateReferences_congr {xs ys : List PlanStep} (h : List.Forall₂ PlanStep.SameBut xs ys)
    (stepIds : List String) : validateReferences stepIds ys = validateReferences stepIds xs := by
  induction h with
  | nil => rfl
  | cons hab _ ih => simp only [validateReferences, hab.stepId, hab.dependsOn, ih]

theorem validatePlan_congr {plan plan' : PlanDocument} (h : plan.Frame plan') :
    validatePlan plan' = validatePlan plan := by
  have hd := h.document
  unfold validatePlan
  rw [show plan'.planId = plan.planId by rw [hd], show plan'.goal = plan.goal by rw [hd],
    show plan'.successCriteria = plan.successCriteria by rw [hd],
    show plan'.edges = plan.edges by rw [hd], validateSteps_congr h.steps]
  simp only [validateReferences_congr h.steps]

lemma validateSteps_nodup {steps : List PlanStep} {stepIds ids : List String}
    (h : validateSteps stepIds steps = .ok ids) :
    (steps.map PlanStep.stepId).Nodup ∧ ∀ id ∈ steps.map PlanStep.stepId, id ∉ stepIds := by
  induction steps generalizing stepIds with
  | nil => simp
  | cons step steps ih =>
    simp only [validateSteps, except_bind_eq_ok, rejectIf_eq_ok] at h
    obtain ⟨_, _, _, hs, _, _, _, _, h⟩ := h
    obtain ⟨hn, hd⟩ := ih h
    rw [List.map_cons, List.nodup_cons]
    refine ⟨⟨fun hm => hd _ hm (by simp), hn⟩, ?_⟩
    intro id hid
    rcases List.mem_cons.mp hid with rfl | hid
    · exact hs
    · exact fun hm => hd id hid (by simp [hm])

theorem validatePlan_nodup {plan : PlanDocument} (h : validatePlan plan = .ok ()) :
    plan.stepIds.Nodup := by
  simp only [validatePlan, except_bind_eq_ok, rejectIf_eq_ok] at h
  obtain ⟨_, _, _, _, _, _, ids, hs, _⟩ := h
  exact (validateSteps_nodup hs).1

lemma validateSteps_titled {steps : List PlanStep} {stepIds ids : List String}
    (h : validateSteps stepIds steps = .ok ids) :
    ∀ step ∈ steps, isBlank step.title = false := by
  induction steps generalizing stepIds with
  | nil => simp
  | cons step steps ih =>
    simp only [validateSteps, except_bind_eq_ok, rejectIf_eq_ok, Bool.not_eq_true] at h
    obtain ⟨_, _, _, _, _, htitle, _, _, h⟩ := h
    exact List.forall_mem_cons.mpr ⟨htitle, ih h⟩

lemma validatePlan_titled {plan : PlanDocument} (h : validatePlan plan = .ok ()) :
    ∀ step ∈ plan.steps, isBlank step.title = false := by
  simp only [validatePlan, except_bind_eq_ok] at h
  obtain ⟨_, _, _, _, _, _, ids, hs, _⟩ := h
  exact validateSteps_titled hs

lemma validateSteps_ids {steps : List PlanStep} {stepIds ids : List String}
    (h : validateSteps stepIds steps = .ok ids) :
    ∀ id ∈ ids, id ∈ stepIds ∨ id ∈ steps.map PlanStep.stepId := by
  induction steps generalizing stepIds with
  | nil =>
    cases h
    exact fun id hid => .inl hid
  | cons step steps ih =>
    simp only [validateSteps, except_bind_eq_ok] at h
    obtain ⟨_, _, _, _, _, _, _, _, h⟩ := h
    intro id hid
    obtain hid | hid := ih h id hid
    · obtain rfl | hid := List.mem_cons.mp hid
      · exact .inr List.mem_cons_self
      · exact .inl hid
    · exact .inr (List.mem_cons_of_mem _ hid)

lemma validateDependencies_known {stepIds dependencies : List String} {stepId : String}
    (h : validateDependencies stepIds stepId dependencies = .ok ()) :
    ∀ dependency ∈ dependencies, dependency ∈ stepIds := by
  induction dependencies with
  | nil => simp
  | cons dependency dependencies ih =>
    simp only [validateDependencies, except_bind_eq_ok, rejectIf_eq_ok, not_not] at h
    obtain ⟨_, hknown, _, _, h⟩ := h
    exact List.forall_mem_cons.mpr ⟨hknown, ih h⟩

lemma validateReferences_known {stepIds : List String} {steps : List PlanStep}
    (h : validateReferences stepIds steps = .ok ()) :
    ∀ step ∈ steps, ∀ dependency ∈ step.dependsOn, dependency ∈ stepIds := by
  induction steps with
  | nil => simp
  | cons step steps ih =>
    simp only [validateReferences, except_bind_eq_ok] at h
    obtain ⟨_, hstep, h⟩ := h
    exact List.forall_mem_cons.mpr ⟨validateDependencies_known hstep, ih h⟩

theorem validatePlan_known {plan : PlanDocument} (h : validatePlan plan = .ok ()) :
    ∀ step ∈ plan.steps, ∀ dependency ∈ step.dependsOn, dependency ∈ plan.stepIds := by
  simp only [validatePlan, except_bind_eq_ok] at h
  obtain ⟨_, _, _, _, _, _, ids, hs, _, _, hr⟩ := h
  intro step hm dependency hd
  have hid := validateReferences_known hr step hm dependency hd
  exact (validateSteps_ids hs dependency hid).resolve_left List.not_mem_nil

end GreenticDw

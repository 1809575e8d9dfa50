import GreenticDw.Planning.Validation

/-! What the planner keeps in the plan: the status of a finished step, the promotion of the steps
that waited for it, and whether the plan is done. -/

namespace GreenticDw

namespace PlanStepStatus

def isTerminal : PlanStepStatus → Bool
  | completed => true
  | skipped => true
  | failed => true
  | _ => false

def satisfiesDependency : PlanStepStatus → Bool
  | completed => true
  | skipped => true
  | _ => false

end PlanStepStatus

namespace LlmPlanning

lemma stepId_of_find {steps : List PlanStep} {step : PlanStep} {stepId : String}
    (h : steps.find? (fun step => step.stepId = stepId) = some step) : step.stepId = stepId := by
  simpa using List.find?_some h

def setStatus (stepId : String) (status : PlanStepStatus) : List PlanStep → List PlanStep
  | [] => []
  | step :: steps =>
    if step.stepId = stepId then { step with status } :: steps
    else step :: setStatus stepId status steps

def statusById (steps : List PlanStep) (stepId : String) : Option PlanStepStatus :=
  -- the lookup map keeps the later of two steps with one id
  (steps.reverse.find? fun step => step.stepId = stepId).map PlanStep.status

def dependencySatisfied (steps : List PlanStep) (dependencyId : String) : Bool :=
  (statusById steps dependencyId).any PlanStepStatus.satisfiesDependency

def dependenciesSatisfied (steps : List PlanStep) (step : PlanStep) : Bool :=
  step.dependsOn.all (dependencySatisfied steps)

def promote (steps : List PlanStep) (step : PlanStep) : PlanStep :=
  if step.status ≠ .pending then step
  else if dependenciesSatisfied steps step then { step with status := .ready }
  else step

def recordStepResult (req : StepResultRequest) : PlanDocument :=
  let steps := setStatus req.stepId req.status req.plan.steps
  { req.plan with steps := steps.map (promote steps) }

def evaluateCompletion (req : CompletionCheckRequest) : CompletionState :=
  if req.plan.steps.any (·.status = .failed) then .unsatisfied
  else if req.plan.steps.all (·.status.isTerminal) then .satisfied
  else .incomplete

def DependenciesDone (steps : List PlanStep) (step : PlanStep) : Prop :=
  ∀ dependencyId ∈ step.dependsOn, ∃ done ∈ steps, done.stepId = dependencyId ∧
    (done.status = .completed ∨ done.status = .skipped)

instance (steps : List PlanStep) (step : PlanStep) : Decidable (DependenciesDone steps step) :=
  inferInstanceAs (Decidable (∀ dependencyId ∈ step.dependsOn, ∃ done ∈ steps,
    done.stepId = dependencyId ∧ (done.status = .completed ∨ done.status = .skipped)))

structure Advanced (worked : String → Prop) (steps : List PlanStep) (a b : PlanStep) : Prop where
  same : a.SameBut b
  status : b.status = a.status ∨ (b.status = .completed ∧ worked a.stepId) ∨
    (a.status = .pending ∧ b.status = .ready ∧ DependenciesDone steps b)

def Progress (worked : String → Prop) (xs ys : List PlanStep) : Prop :=
  List.Forall₂ (Advanced worked ys) xs ys

variable {worked : String → Prop} {steps xs ys zs : List PlanStep}

lemma satisfiesDependency_iff {status : PlanStepStatus} :
    status.satisfiesDependency = true ↔ status = .completed ∨ status = .skipped := by
  cases status <;> simp [PlanStepStatus.satisfiesDependency]

lemma dependenciesDone_of_satisfied {step : PlanStep}
    (h : dependenciesSatisfied steps step = true) : DependenciesDone steps step := by
  intro dependencyId hd
  have hsat : dependencySatisfied steps dependencyId = true := List.all_eq_true.mp h _ hd
  rw [dependencySatisfied, Option.any_eq_true] at hsat
  obtain ⟨status, hst, hs⟩ := hsat
  rw [statusById, Option.map_eq_some_iff] at hst
  obtain ⟨done, hf, rfl⟩ := hst
  refine ⟨done, List.mem_reverse.mp (List.mem_of_find?_eq_some hf), ?_, ?_⟩
  · exact stepId_of_find hf
  · exact satisfiesDependency_iff.mp hs

lemma done_of_satisfied {plan : PlanDocument} (h : evaluateCompletion ⟨plan⟩ = .satisfied) :
    ∀ step ∈ plan.steps, step.status = .completed ∨ step.status = .skipped := by
  unfold evaluateCompletion at h
  split_ifs at h with hfailed hall
  intro step hm
  have hf : step.status ≠ .failed := by
    intro hs
    exact hfailed (List.any_eq_true.mpr ⟨step, hm, decide_eq_true hs⟩)
  have hterminal : step.status.isTerminal = true := List.all_eq_true.mp hall step hm
  cases hst : step.status <;> simp_all [PlanStepStatus.isTerminal]

lemma Advanced.refl (a : PlanStep) : Advanced worked steps a a := ⟨.refl a, Or.inl rfl⟩

lemma Advanced.done {a b : PlanStep} (h : Advanced worked steps a b)
    (ha : a.status = .completed ∨ a.status = .skipped) :
    b.status = .completed ∨ b.status = .skipped := by
  rcases h.status with hb | ⟨hb, _⟩ | ⟨hp, _, _⟩
  · rwa [hb]
  · exact Or.inl hb
  · simp [hp] at ha

lemma Progress.refl (xs : List PlanStep) : Progress worked xs xs :=
  List.forall₂_same.mpr fun step _ => .refl step

lemma Progress.sameBut (h : Progress worked xs ys) : List.Forall₂ PlanStep.SameBut xs ys :=
  h.imp fun _ _ => Advanced.same

lemma exists_mem_of_forall₂ {α β : Type} {R : α → β → Prop} {xs : List α} {ys : List β}
    (h : List.Forall₂ R xs ys) {a : α} (ha : a ∈ xs) : ∃ b ∈ ys, R a b := by
  induction h with
  | nil => simp at ha
  | @cons x y xs ys hxy _ ih =>
    rcases List.mem_cons.mp ha with rfl | ha
    · exact ⟨y, by simp, hxy⟩
    · obtain ⟨b, hb, hr⟩ := ih ha
      exact ⟨b, by simp [hb], hr⟩

lemma dependenciesDone_of_forall₂ {step step' : PlanStep} (hs : step.SameBut step')
    (h : List.Forall₂ (fun a b => b.stepId = a.stepId ∧
      (a.status = .completed ∨ a.status = .skipped →
        b.status = .completed ∨ b.status = .skipped)) xs ys)
    (hx : DependenciesDone xs step) : DependenciesDone ys step' := by
  intro dependencyId hd
  rw [hs.dependsOn] at hd
  obtain ⟨a, ha, hid, hst⟩ := hx dependencyId hd
  obtain ⟨b, hb, hab, hkeep⟩ := exists_mem_of_forall₂ h ha
  exact ⟨b, hb, hab.trans hid, hkeep hst⟩

lemma Progress.dependenciesDone (h : Progress worked xs ys) {step step' : PlanStep}
    (hs : step.SameBut step') (hx : DependenciesDone xs step) : DependenciesDone ys step' :=
  dependenciesDone_of_forall₂ hs (h.imp fun _ _ hab => ⟨hab.same.stepId, hab.done⟩) hx

lemma Advanced.trans (hp : Progress worked ys zs) {a b c : PlanStep}
    (hab : Advanced worked ys a b) (hbc : Advanced worked zs b c) : Advanced worked zs a c := by
  refine ⟨hab.same.trans hbc.same, ?_⟩
  rcases hbc.status with hc | ⟨hc, hw⟩ | ⟨hb, hc, hd⟩
  · rcases hab.status with hb | ⟨hb, hw⟩ | ⟨ha, hb, hd⟩
    · exact Or.inl (hc.trans hb)
    · exact Or.inr (Or.inl ⟨hc.trans hb, hw⟩)
    · exact Or.inr (Or.inr ⟨ha, hc.trans hb, hp.dependenciesDone hbc.same hd⟩)
  · exact Or.inr (Or.inl ⟨hc, hab.same.stepId ▸ hw⟩)
  · rcases hab.status with hb' | ⟨hb', _⟩ | ⟨_, hb', _⟩
    · exact Or.inr (Or.inr ⟨hb' ▸ hb, hc, hd⟩)
    · simp [hb] at hb'
    · simp [hb] at hb'

theorem Progress.trans (hxy : Progress worked xs ys) (hyz : Progress worked ys zs) :
    Progress worked xs zs :=
  forall₂_comp (fun _ _ _ hab hbc => hab.trans hyz hbc) hxy hyz

lemma promote_advanced (steps : List PlanStep) (step : PlanStep) :
    step.SameBut (promote steps step) ∧
      ((promote steps step).status = step.status ∨
        (step.status = .pending ∧ (promote steps step).status = .ready ∧
          DependenciesDone steps step)) := by
  unfold promote
  split_ifs with hp hd
  · exact ⟨rfl, Or.inl rfl⟩
  · exact ⟨rfl, Or.inr ⟨not_not.mp hp, rfl, dependenciesDone_of_satisfied hd⟩⟩
  · exact ⟨rfl, Or.inl rfl⟩

lemma setStatus_progress {stepId : String} (hw : worked stepId) (steps : List PlanStep) :
    Progress worked steps (setStatus stepId .completed steps) := by
  have h : ∀ xs zs : List PlanStep, List.Forall₂ (Advanced worked zs) xs
      (setStatus stepId .completed xs) := by
    intro xs zs
    induction xs with
    | nil => exact .nil
    | cons step steps ih =>
      unfold setStatus
      split_ifs with hs
      · refine .cons ⟨rfl, Or.inr (Or.inl ⟨rfl, hs ▸ hw⟩)⟩ ?_
        exact List.forall₂_same.mpr fun step _ => .refl step
      · exact .cons (.refl step) ih
  exact h steps _

lemma map_promote_progress (steps : List PlanStep) :
    Progress worked steps (steps.map (promote steps)) := by
  have hm : ∀ xs : List PlanStep, List.Forall₂ (fun a b => b = promote steps a) xs
      (xs.map (promote steps)) := by
    intro xs
    induction xs with
    | nil => exact .nil
    | cons step xs ih => exact .cons rfl ih
  have hkeep : List.Forall₂ (fun a b => b.stepId = a.stepId ∧
      (a.status = .completed ∨ a.status = .skipped →
        b.status = .completed ∨ b.status = .skipped)) steps (steps.map (promote steps)) := by
    apply (hm steps).imp
    rintro a _ rfl
    obtain ⟨hsame, hst | ⟨hp, _⟩⟩ := promote_advanced steps a
    · exact ⟨hsame.stepId, fun ha => hst ▸ ha⟩
    · exact ⟨hsame.stepId, fun ha => by simp [hp] at ha⟩
  apply (hm steps).imp
  rintro a _ rfl
  obtain ⟨hsame, hst | ⟨hp, hr, hd⟩⟩ := promote_advanced steps a
  · exact ⟨hsame, Or.inl hst⟩
  · exact ⟨hsame, Or.inr (Or.inr ⟨hp, hr, dependenciesDone_of_forall₂ hsame hkeep hd⟩)⟩

theorem recordStepResult_progress {plan : PlanDocument} {stepId : String} (hw : worked stepId) :
    Progress worked plan.steps (recordStepResult ⟨plan, stepId, .completed⟩).steps :=
  (setStatus_progress hw plan.steps).trans (map_promote_progress _)

lemma recordStepResult_frame (plan : PlanDocument) (stepId : String) :
    plan.Frame (recordStepResult ⟨plan, stepId, .completed⟩) :=
  ⟨rfl, (@recordStepResult_progress (fun _ => True) plan stepId trivial).sameBut⟩

def recordAll (plan : PlanDocument) (stepIds : List String) : PlanDocument :=
  stepIds.foldl (fun plan stepId => recordStepResult ⟨plan, stepId, .completed⟩) plan

@[simp] lemma recordAll_nil (plan : PlanDocument) : recordAll plan [] = plan := rfl

@[simp] lemma recordAll_cons (plan : PlanDocument) (stepId : String) (stepIds : List String) :
    recordAll plan (stepId :: stepIds) =
      recordAll (recordStepResult ⟨plan, stepId, .completed⟩) stepIds := rfl

lemma recordAll_append (plan : PlanDocument) (xs ys : List String) :
    recordAll plan (xs ++ ys) = recordAll (recordAll plan xs) ys :=
  List.foldl_append ..

theorem recordAll_progress {plan : PlanDocument} {stepIds : List String}
    (hw : ∀ stepId ∈ stepIds, worked stepId) :
    Progress worked plan.steps (recordAll plan stepIds).steps := by
  induction stepIds generalizing plan with
  | nil => exact .refl _
  | cons stepId stepIds ih =>
    rw [List.forall_mem_cons] at hw
    exact (recordStepResult_progress hw.1).trans (ih hw.2)

lemma recordAll_document (plan : PlanDocument) (stepIds : List String) :
    recordAll plan stepIds = { plan with steps := (recordAll plan stepIds).steps } := by
  induction stepIds generalizing plan with
  | nil => rfl
  | cons stepId stepIds ih =>
    rw [recordAll_cons, ih]
    rfl

end LlmPlanning

end GreenticDw

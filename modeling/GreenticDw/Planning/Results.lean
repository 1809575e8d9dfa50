import GreenticDw.Planning.Recording

namespace GreenticDw

lemma PlanStep.SameBut.eq {a b c : PlanStep} (h : a.SameBut b) (h' : a.SameBut c)
    (hs : b.status = c.status) : b = c := by
  rw [h, h', hs]

namespace LlmPlanning

def given (stepId : String) (status : PlanStepStatus) (step : PlanStep) : PlanStep :=
  if step.stepId = stepId then { step with status } else step

def Done (status : PlanStepStatus) : Prop := status = .completed ∨ status = .skipped

def promoted (steps : List PlanStep) (step : PlanStep) (status : PlanStepStatus) :
    PlanStepStatus :=
  if status = .pending ∧ DependenciesDone steps step then .ready else status

/-- The second plan is the first with the result of one step recorded. -/
structure Recorded (plan : PlanDocument) (stepId : String) (status : PlanStepStatus)
    (plan' : PlanDocument) : Prop where
  frame : plan' = { plan with steps := plan'.steps }
  steps : List.Forall₂ (fun step step' => step.SameBut step' ∧ step'.status =
    promoted plan'.steps step (if step.stepId = stepId then status else step.status))
    plan.steps plan'.steps
  closed : ∀ step ∈ plan'.steps, step.status = .pending → ¬DependenciesDone plan'.steps step

section

variable {steps : List PlanStep} {stepId : String} {status : PlanStepStatus} {step : PlanStep}
  {f g : PlanStep → PlanStep}

lemma given_of_ne (h : step.stepId ≠ stepId) : given stepId status step = step := by
  rw [given, if_neg h]

lemma given_sameBut : step.SameBut (given stepId status step) := by
  unfold given
  split_ifs <;> rfl

@[simp] lemma given_stepId : (given stepId status step).stepId = step.stepId := given_sameBut.stepId

lemma given_status : (given stepId status step).status =
    if step.stepId = stepId then status else step.status := by
  unfold given
  split_ifs <;> rfl

lemma given_comm {a b : String} (hab : a ≠ b) (ta tb : PlanStepStatus) (step : PlanStep) :
    given a ta (given b tb step) = given b tb (given a ta step) := by
  by_cases ha : step.stepId = a
  · have hb : step.stepId ≠ b := ha.trans_ne hab
    rw [given_of_ne hb, given_of_ne (given_stepId.trans_ne hb)]
  · rw [given_of_ne ha, given_of_ne (given_stepId.trans_ne ha)]

lemma setStatus_eq_given (hn : (steps.map PlanStep.stepId).Nodup) :
    setStatus stepId status steps = steps.map (given stepId status) := by
  induction steps with
  | nil => rfl
  | cons step steps ih =>
    rw [List.map_cons, List.nodup_cons] at hn
    unfold setStatus
    split_ifs with hs
    · have hrest : steps.map (given stepId status) = steps := by
        refine (List.map_congr_left fun step' hm => ?_).trans (List.map_id steps)
        have hne : step'.stepId ≠ stepId := fun h =>
          hn.1 (hs.trans h.symm ▸ List.mem_map_of_mem hm)
        exact given_of_ne hne
      rw [List.map_cons, hrest, given, if_pos hs]
    · rw [List.map_cons, ih hn.2, given_of_ne hs]

lemma statusById_of_mem (hn : (steps.map PlanStep.stepId).Nodup) (hm : step ∈ steps) :
    statusById steps step.stepId = some step.status := by
  unfold statusById
  cases hf : steps.reverse.find? fun other => other.stepId = step.stepId with
  | none =>
    have := List.find?_eq_none.mp hf step (List.mem_reverse.mpr hm)
    simp at this
  | some other =>
    have hother := List.mem_reverse.mp (List.mem_of_find?_eq_some hf)
    rw [List.inj_on_of_nodup_map hn hother hm (stepId_of_find hf)]
    rfl

lemma dependenciesSatisfied_iff (hn : (steps.map PlanStep.stepId).Nodup) :
    dependenciesSatisfied steps step = true ↔ DependenciesDone steps step := by
  constructor
  · exact dependenciesDone_of_satisfied
  · intro h
    apply List.all_eq_true.mpr
    intro dependencyId hd
    obtain ⟨done, hm, rfl, hdone⟩ := h dependencyId hd
    rw [dependencySatisfied, statusById_of_mem hn hm]
    exact satisfiesDependency_iff.mpr hdone

lemma map_ids (hf : ∀ step : PlanStep, step.SameBut (f step)) :
    (steps.map f).map PlanStep.stepId = steps.map PlanStep.stepId := by
  rw [List.map_map]
  exact List.map_congr_left fun step _ => (hf step).stepId

lemma dependenciesDone_sameBut {step' : PlanStep} (h : step.SameBut step') :
    DependenciesDone steps step' ↔ DependenciesDone steps step := by
  unfold DependenciesDone
  rw [h.dependsOn]

lemma dependenciesDone_map (hid : ∀ step, (g step).stepId = (f step).stepId)
    (hdone : ∀ step ∈ steps, Done (f step).status → Done (g step).status)
    (h : DependenciesDone (steps.map f) step) : DependenciesDone (steps.map g) step := by
  intro dependencyId hd
  obtain ⟨_, hf, hid', hst⟩ := h dependencyId hd
  obtain ⟨done, hm, rfl⟩ := List.mem_map.mp hf
  exact ⟨g done, List.mem_map_of_mem hm, (hid done).trans hid', hdone done hm hst⟩

lemma dependenciesDone_map_iff (hid : ∀ step, (g step).stepId = (f step).stepId)
    (hdone : ∀ step ∈ steps, Done (f step).status ↔ Done (g step).status) :
    DependenciesDone (steps.map f) step ↔ DependenciesDone (steps.map g) step :=
  ⟨dependenciesDone_map hid fun other hm => (hdone other hm).mp,
    dependenciesDone_map (fun other => (hid other).symm) fun other hm => (hdone other hm).mpr⟩

lemma promote_sameBut : step.SameBut (promote steps step) := (promote_advanced steps step).1

lemma promote_status (hn : (steps.map PlanStep.stepId).Nodup) :
    (promote steps step).status = promoted steps step step.status := by
  unfold promote promoted
  simp only [dependenciesSatisfied_iff hn]
  by_cases hp : step.status = .pending
  · by_cases hd : DependenciesDone steps step
    · simp [hp, hd]
    · simp [hp, hd]
  · simp [hp]

lemma promoted_congr {xs ys : List PlanStep} {a b : PlanStep}
    (h : DependenciesDone xs a ↔ DependenciesDone ys b) :
    promoted xs a status = promoted ys b status := by
  simp only [promoted, h]

lemma promote_done : Done (promote steps step).status ↔ Done step.status := by
  obtain ⟨_, h | ⟨hp, hr, _⟩⟩ := promote_advanced steps step
  · rw [h]
  · simp [Done, hp, hr]

end

section

variable {plan : PlanDocument} {steps : List PlanStep} {a b : String} {ta tb : PlanStepStatus}

def promoteAll (steps : List PlanStep) : List PlanStep := steps.map (promote steps)

lemma recordStepResult_eq (hn : plan.stepIds.Nodup) (stepId : String) (status : PlanStepStatus) :
    recordStepResult ⟨plan, stepId, status⟩ =
      { plan with steps := promoteAll (plan.steps.map (given stepId status)) } := by
  simp only [recordStepResult, setStatus_eq_given hn, promoteAll]

lemma dependenciesDone_promoteAll {step : PlanStep} :
    DependenciesDone (promoteAll steps) step ↔ DependenciesDone steps step := by
  nth_rewrite 2 [← List.map_id steps]
  exact dependenciesDone_map_iff (fun _ => promote_sameBut.stepId.symm) fun _ _ => promote_done

lemma promoteAll_closed (hn : (steps.map PlanStep.stepId).Nodup) {step : PlanStep}
    (hm : step ∈ promoteAll steps) (hp : step.status = .pending) :
    ¬DependenciesDone (promoteAll steps) step := by
  obtain ⟨step, _, rfl⟩ := List.mem_map.mp hm
  rw [promote_status hn, promoted] at hp
  rw [dependenciesDone_promoteAll, dependenciesDone_sameBut promote_sameBut]
  intro hd
  split_ifs at hp with h
  exact h ⟨hp, hd⟩

theorem recordStepResult_recorded (plan : PlanDocument) (hn : plan.stepIds.Nodup)
    (stepId : String) (status : PlanStepStatus) :
    Recorded plan stepId status (recordStepResult ⟨plan, stepId, status⟩) := by
  have hids : ((plan.steps.map (given stepId status)).map PlanStep.stepId).Nodup := by
    rw [map_ids fun _ => given_sameBut]
    exact hn
  rw [recordStepResult_eq hn]
  refine ⟨rfl, ?_, fun step hm hp => promoteAll_closed hids hm hp⟩
  apply List.forall₂_map_right_iff.mpr
  apply List.forall₂_map_right_iff.mpr
  apply List.forall₂_same.mpr
  intro step _
  refine ⟨given_sameBut.trans promote_sameBut, ?_⟩
  rw [promote_status hids, given_status]
  apply promoted_congr
  rw [dependenciesDone_sameBut given_sameBut, dependenciesDone_promoteAll]

def forked : PlanDocument where
  planId := "plan"
  goal := "goal"
  status := .active
  revision := 0
  assumptions := []
  constraints := []
  successCriteria := ["done"]
  steps := [⟨"left", "left", .research, .running, [], none, none, none, 0⟩,
    ⟨"right", "right", .toolCall, .ready, [], none, none, none, 0⟩,
    ⟨"join", "join", .review, .pending, ["left", "right"], none, none, none, 0⟩]
  edges := []
  metadata := []

theorem recordStepResult_recorded_forked :
    Recorded forked "left" .completed (recordStepResult ⟨forked, "left", .completed⟩) :=
  recordStepResult_recorded forked (by decide) "left" .completed

lemma given_done (hopen : ∀ step ∈ steps, step.stepId = b → ¬Done step.status) :
    ∀ step ∈ steps, Done step.status → Done (given b tb step).status := by
  intro step hm hdone
  rwa [given_of_ne fun hb => hopen step hm hb hdone]

lemma promoted_promoted {xs ys : List PlanStep} {step step' : PlanStep} {status : PlanStepStatus}
    (h : DependenciesDone xs step → DependenciesDone ys step') :
    promoted ys step' (promoted xs step status) = promoted ys step' status := by
  unfold promoted
  by_cases hp : status = .pending
  · by_cases hx : DependenciesDone xs step
    · simp [hp, hx, h hx]
    · simp [hx]
  · simp [hp]

lemma promoteAll_given (hn : (steps.map PlanStep.stepId).Nodup)
    (hopen : ∀ step ∈ steps, step.stepId = b → ¬Done step.status) :
    promoteAll ((promoteAll steps).map (given b tb)) = promoteAll (steps.map (given b tb)) := by
  have hids : ((steps.map (given b tb)).map PlanStep.stepId).Nodup := by
    rw [map_ids fun _ => given_sameBut]
    exact hn
  have hids' : (((promoteAll steps).map (given b tb)).map PlanStep.stepId).Nodup := by
    rw [map_ids fun _ => given_sameBut, promoteAll, map_ids fun _ => promote_sameBut]
    exact hn
  have hdone : ∀ step, DependenciesDone ((promoteAll steps).map (given b tb)) step ↔
      DependenciesDone (steps.map (given b tb)) step := by
    intro step
    rw [promoteAll, List.map_map]
    apply dependenciesDone_map_iff
    · intro other
      rw [Function.comp_apply, given_stepId, given_stepId, promote_sameBut.stepId]
    · intro other _
      rw [Function.comp_apply, given_status, given_status, promote_sameBut.stepId]
      split_ifs
      · rfl
      · exact promote_done
  have hmono : ∀ step, DependenciesDone steps step →
      DependenciesDone (steps.map (given b tb)) step := by
    intro step h
    rw [← List.map_id steps] at h
    exact dependenciesDone_map (fun _ => given_stepId) (given_done hopen) h
  have hstep : ∀ step ∈ steps, promote ((promoteAll steps).map (given b tb))
      (given b tb (promote steps step)) = promote (steps.map (given b tb)) (given b tb step) := by
    intro step _
    have hsame : step.SameBut (given b tb (promote steps step)) :=
      promote_sameBut.trans given_sameBut
    apply (hsame.trans promote_sameBut).eq (given_sameBut.trans promote_sameBut)
    rw [promote_status hids, promote_status hids', given_status, given_status,
      promote_sameBut.stepId, promote_status hn]
    have hwait : ∀ status, promoted ((promoteAll steps).map (given b tb))
        (given b tb (promote steps step)) status =
          promoted (steps.map (given b tb)) (given b tb step) status := by
      intro status
      apply promoted_congr
      rw [dependenciesDone_sameBut hsame, dependenciesDone_sameBut given_sameBut, hdone]
    rw [hwait]
    split_ifs
    · rfl
    · apply promoted_promoted
      rw [dependenciesDone_sameBut given_sameBut]
      exact hmono step
  calc promoteAll ((promoteAll steps).map (given b tb))
      = steps.map fun step => promote ((promoteAll steps).map (given b tb))
          (given b tb (promote steps step)) := by
        simp only [promoteAll, List.map_map]
        rfl
    _ = steps.map fun step => promote (steps.map (given b tb)) (given b tb step) :=
        List.map_congr_left hstep
    _ = promoteAll (steps.map (given b tb)) := by
        rw [promoteAll, List.map_map]
        rfl

lemma recordStepResult_twice (hn : plan.stepIds.Nodup) (hab : a ≠ b)
    (hopen : ∀ step ∈ plan.steps, step.stepId = b → ¬Done step.status) :
    recordStepResult ⟨recordStepResult ⟨plan, a, ta⟩, b, tb⟩ =
      { plan with steps := promoteAll ((plan.steps.map (given a ta)).map (given b tb)) } := by
  have hids : ((plan.steps.map (given a ta)).map PlanStep.stepId).Nodup := by
    rw [map_ids fun _ => given_sameBut]
    exact hn
  have hids' : (recordStepResult ⟨plan, a, ta⟩).stepIds.Nodup := by
    rw [recordStepResult_eq hn, PlanDocument.stepIds, promoteAll, map_ids fun _ => promote_sameBut]
    exact hids
  rw [recordStepResult_eq hids', recordStepResult_eq hn]
  simp only
  rw [promoteAll_given hids]
  intro _ hgiven hb
  obtain ⟨step, hm, rfl⟩ := List.mem_map.mp hgiven
  rw [given_stepId] at hb
  rw [given_of_ne (hb.trans_ne hab.symm)]
  exact hopen step hm hb

theorem recordStepResult_comm (plan : PlanDocument) (hn : plan.stepIds.Nodup)
    (a b : PlanStep) (ha : a ∈ plan.steps) (hb : b ∈ plan.steps) (hab : a ≠ b)
    (haopen : ¬Done a.status) (hbopen : ¬Done b.status) (ta tb : PlanStepStatus) :
    recordStepResult ⟨recordStepResult ⟨plan, a.stepId, ta⟩, b.stepId, tb⟩ =
      recordStepResult ⟨recordStepResult ⟨plan, b.stepId, tb⟩, a.stepId, ta⟩ := by
  have hids : a.stepId ≠ b.stepId := fun h => hab (List.inj_on_of_nodup_map hn ha hb h)
  have hopen : ∀ {other : PlanStep}, other ∈ plan.steps → ¬Done other.status →
      ∀ step ∈ plan.steps, step.stepId = other.stepId → ¬Done step.status := by
    intro other hother hopen step hm hid
    rwa [List.inj_on_of_nodup_map hn hm hother hid]
  rw [recordStepResult_twice hn hids (hopen hb hbopen),
    recordStepResult_twice hn hids.symm (hopen ha haopen), List.map_map, List.map_map]
  congr 2
  apply List.map_congr_left
  intro step _
  exact (given_comm hids ta tb step).symm

theorem recordStepResult_comm_forked :
    recordStepResult ⟨recordStepResult ⟨forked, "left", .completed⟩, "right", .skipped⟩ =
      recordStepResult ⟨recordStepResult ⟨forked, "right", .skipped⟩, "left", .completed⟩ :=
  recordStepResult_comm forked (by decide) _ _ (.head _) (.tail _ (.head _)) (by decide)
    (by simp [Done]) (by simp [Done]) .completed .skipped

end

end LlmPlanning

end GreenticDw

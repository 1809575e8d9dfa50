import GreenticDw.Orders.Listings
import GreenticDw.Planning.Results

namespace GreenticDw

namespace PlanDocument

def DependsOn (plan : PlanDocument) : String → String → Prop :=
  WaitsFor PlanStep.stepId PlanStep.dependsOn plan.steps

def NoCycle (plan : PlanDocument) : Prop := Acyclic plan.DependsOn

def Listable (plan : PlanDocument) : Prop :=
  ∃ order : List PlanStep, order.Perm plan.steps ∧
    InOrder PlanStep.stepId PlanStep.dependsOn [] order

/-- Every step is waiting, ready or completed, and unless all are completed one is ready. -/
structure Startable (plan : PlanDocument) : Prop where
  statuses : ∀ step ∈ plan.steps,
    step.status = .pending ∨ step.status = .ready ∨ step.status = .completed
  start : (∃ step ∈ plan.steps, step.status = .ready) ∨ ∀ step ∈ plan.steps, step.status = .completed

/-- Recording ready steps as completed, one after the other, can bring every step to completed. -/
inductive Completes : PlanDocument → Prop
  | done {plan : PlanDocument} : (∀ step ∈ plan.steps, step.status = .completed) → Completes plan
  | record {plan : PlanDocument} {step : PlanStep} : step ∈ plan.steps → step.status = .ready →
      Completes (LlmPlanning.recordStepResult ⟨plan, step.stepId, .completed⟩) → Completes plan

end PlanDocument

namespace LlmPlanning

def marked (stepId : String) (step : PlanStep) : PlanStep :=
  if step.stepId = stepId then { step with status := .completed } else step

section

variable {steps : List PlanStep} {stepId : String} {step : PlanStep}

lemma promote_completed_iff :
    (promote steps step).status = .completed ↔ step.status = .completed := by
  unfold promote
  split_ifs with hp
  · rfl
  · simp [not_not.mp hp]
  · rfl

lemma promote_pending (h : (promote steps step).status = .pending) :
    step.status = .pending ∧ dependenciesSatisfied steps step = false := by
  unfold promote at h
  split_ifs at h with hp hd
  · exact (hp h).elim
  · exact ⟨not_not.mp hp, Bool.eq_false_iff.mpr hd⟩

end

variable {plan : PlanDocument} {step : PlanStep}

def Schedulable (status : PlanStepStatus) : Prop :=
  status = .pending ∨ status = .ready ∨ status = .completed

def recorded (plan : PlanDocument) (stepId : String) (step : PlanStep) : PlanStep :=
  promote (plan.steps.map (marked stepId)) (marked stepId step)

lemma recordStepResult_steps (hv : validatePlan plan = .ok ()) (stepId : String) :
    (recordStepResult ⟨plan, stepId, .completed⟩).steps = plan.steps.map (recorded plan stepId) := by
  simp only [recordStepResult, setStatus_eq_given (validatePlan_nodup hv), List.map_map]
  rfl

lemma validatePlan_recorded (hv : validatePlan plan = .ok ()) (stepId : String) :
    validatePlan (recordStepResult ⟨plan, stepId, .completed⟩) = .ok () :=
  (validatePlan_congr (recordStepResult_frame plan stepId)).trans hv

lemma recorded_sameBut (stepId : String) : step.SameBut (recorded plan stepId step) := by
  have hmarked : step.SameBut (marked stepId step) := by
    unfold marked
    split_ifs <;> rfl
  exact hmarked.trans (promote_advanced _ _).1

lemma recorded_completed_iff {stepId : String} :
    (recorded plan stepId step).status = .completed ↔
      step.stepId = stepId ∨ step.status = .completed := by
  rw [recorded, promote_completed_iff]
  unfold marked
  split_ifs with hs <;> simp [hs]

lemma recorded_status {stepId : String} (hne : step.stepId ≠ stepId) :
    (recorded plan stepId step).status = step.status ∨
      (step.status = .pending ∧ (recorded plan stepId step).status = .ready) := by
  rw [recorded, marked, if_neg hne]
  obtain ⟨_, h | ⟨hp, hr, _⟩⟩ := promote_advanced (plan.steps.map (marked stepId)) step
  · exact .inl h
  · exact .inr ⟨hp, hr⟩

lemma schedulable_recorded_iff {stepId : String} (hready : step.stepId = stepId →
    Schedulable step.status) :
    Schedulable (recorded plan stepId step).status ↔ Schedulable step.status := by
  by_cases hs : step.stepId = stepId
  · have hc : (recorded plan stepId step).status = .completed := recorded_completed_iff.mpr (.inl hs)
    exact iff_of_true (.inr (.inr hc)) (hready hs)
  · obtain h | ⟨hp, hr⟩ := @recorded_status plan step stepId hs
    · rw [h]
    · simp [Schedulable, hp, hr]

lemma recorded_pending (hv : validatePlan plan = .ok ()) {stepId : String} (hm : step ∈ plan.steps)
    (h : (recorded plan stepId step).status = .pending) :
    ∃ other ∈ plan.steps, other.stepId ∈ step.dependsOn ∧
      (recorded plan stepId other).status ≠ .completed := by
  obtain ⟨_, hopen⟩ := promote_pending h
  rw [dependenciesSatisfied, List.all_eq_false] at hopen
  obtain ⟨dependency, hd, hopen⟩ := hopen
  have hd : dependency ∈ step.dependsOn := by
    rw [marked] at hd
    split_ifs at hd <;> exact hd
  obtain ⟨other, hother, rfl⟩ := List.mem_map.mp (validatePlan_known hv step hm dependency hd)
  refine ⟨other, hother, hd, fun hc => hopen ?_⟩
  have hids : (plan.steps.map (marked stepId)).map PlanStep.stepId = plan.stepIds := by
    rw [List.map_map]
    apply List.map_congr_left
    intro s _
    simp only [Function.comp_apply, marked]
    split_ifs <;> rfl
  have hfound := statusById_of_mem (hids ▸ validatePlan_nodup hv)
    (List.mem_map_of_mem (f := marked stepId) hother)
  have hid : (marked stepId other).stepId = other.stepId := by
    unfold marked
    split_ifs <;> rfl
  rw [hid] at hfound
  rw [dependencySatisfied, hfound, promote_completed_iff.mp hc]
  rfl

end LlmPlanning

open LlmPlanning

namespace PlanDocument

variable {plan : PlanDocument} {step : PlanStep}

lemma noCycle_recorded (hv : validatePlan plan = .ok ()) (stepId : String) :
    (recordStepResult ⟨plan, stepId, .completed⟩).NoCycle ↔ plan.NoCycle := by
  have hdepends : (recordStepResult ⟨plan, stepId, .completed⟩).DependsOn = plan.DependsOn := by
    funext x y
    apply propext
    unfold DependsOn WaitsFor
    rw [recordStepResult_steps hv]
    constructor
    · rintro ⟨_, hm, rfl, hy⟩
      rw [List.mem_map] at hm
      obtain ⟨step, hm, rfl⟩ := hm
      have hsame := @recorded_sameBut plan step stepId
      exact ⟨step, hm, hsame.stepId.symm, by rwa [← hsame.dependsOn]⟩
    · rintro ⟨step, hm, rfl, hy⟩
      have hsame := @recorded_sameBut plan step stepId
      exact ⟨recorded plan stepId step, List.mem_map_of_mem hm, hsame.stepId,
        hsame.dependsOn.symm ▸ hy⟩
  rw [NoCycle, NoCycle, hdepends]

lemma eq_of_stepId (hv : validatePlan plan = .ok ()) {other : PlanStep} (hm : step ∈ plan.steps)
    (hother : other ∈ plan.steps) (h : other.stepId = step.stepId) : other = step :=
  List.inj_on_of_nodup_map (validatePlan_nodup hv) hother hm h

lemma startable_recorded (hv : validatePlan plan = .ok ()) (hacyclic : plan.NoCycle)
    (hs : ∀ step ∈ plan.steps, Schedulable step.status) (stepId : String) :
    (recordStepResult ⟨plan, stepId, .completed⟩).Startable := by
  have hschedulable : ∀ step ∈ plan.steps, Schedulable (recorded plan stepId step).status :=
    fun step hm => (schedulable_recorded_iff fun _ => hs step hm).mpr (hs step hm)
  refine ⟨?_, ?_⟩
  · rw [recordStepResult_steps hv]
    exact List.forall_mem_map.mpr hschedulable
  · rw [recordStepResult_steps hv]
    let unfinished := plan.steps.filter fun step => (recorded plan stepId step).status ≠ .completed
    by_cases hrest : unfinished = []
    · right
      rw [List.forall_mem_map]
      intro step hm
      have := List.filter_eq_nil_iff.mp hrest step hm
      simpa using this
    · left
      -- the first of the unfinished steps waits for finished ones only
      obtain ⟨step, hstep, hfirst⟩ := hacyclic.exists_first (List.filter_subset_self _) hrest
      obtain ⟨hm, hopen⟩ := List.mem_filter.mp hstep
      refine ⟨_, List.mem_map_of_mem hm, ?_⟩
      obtain hp | hr | hc := hschedulable step hm
      · obtain ⟨other, hother, hd, hne⟩ := recorded_pending hv hm hp
        have hin : other ∈ unfinished := List.mem_filter.mpr ⟨hother, decide_eq_true hne⟩
        exact (hfirst _ hd (List.mem_map_of_mem hin)).elim
      · exact hr
      · simp [hc] at hopen

def unfinished (plan : PlanDocument) : List PlanStep :=
  plan.steps.filter fun step => step.status ≠ .completed

lemma unfinished_recorded (hv : validatePlan plan = .ok ()) (hm : step ∈ plan.steps)
    (hready : step.status = .ready) :
    (recordStepResult ⟨plan, step.stepId, .completed⟩).unfinished.length
      < plan.unfinished.length := by
  have hrest : (recordStepResult ⟨plan, step.stepId, .completed⟩).unfinished =
      (plan.unfinished.filter fun other => other.stepId ≠ step.stepId).map
        (recorded plan step.stepId) := by
    unfold unfinished
    rw [recordStepResult_steps hv, List.filter_map, List.filter_filter]
    congr 1
    apply List.filter_congr
    intro other _
    simp [recorded_completed_iff]
  rw [hrest, List.length_map, List.length_filter_lt_length_iff_exists]
  refine ⟨step, List.mem_filter.mpr ⟨hm, ?_⟩, ?_⟩ <;> simp [hready]

lemma completes_of_startable (hv : validatePlan plan = .ok ()) (hacyclic : plan.NoCycle)
    (hs : plan.Startable) : plan.Completes := by
  induction hn : plan.unfinished.length using Nat.strong_induction_on generalizing plan with
  | _ n ih =>
    obtain ⟨step, hm, hready⟩ | hall := hs.start
    · refine .record hm hready (ih _ ?_ (validatePlan_recorded hv _) ?_ ?_ rfl)
      · exact hn ▸ unfinished_recorded hv hm hready
      · exact (noCycle_recorded hv _).mpr hacyclic
      · exact startable_recorded hv hacyclic hs.statuses _
    · exact .done hall

lemma Completes.startable (h : plan.Completes) (hv : validatePlan plan = .ok ()) :
    plan.Startable := by
  induction h with
  | done hall => exact ⟨fun step hm => .inr (.inr (hall step hm)), .inr hall⟩
  | @record plan step hm hready _ ih =>
    have hs := (ih (validatePlan_recorded hv _)).statuses
    rw [recordStepResult_steps hv, List.forall_mem_map] at hs
    refine ⟨fun other hother => ?_, .inl ⟨step, hm, hready⟩⟩
    refine (schedulable_recorded_iff fun hid => ?_).mp (hs other hother)
    rw [eq_of_stepId hv hm hother hid, hready]
    exact .inr (.inl rfl)

lemma noCycle_iff_listable (hv : validatePlan plan = .ok ()) : plan.NoCycle ↔ plan.Listable :=
  acyclic_iff (validatePlan_nodup hv) (validatePlan_known hv)

theorem schedulable_iff (plan : PlanDocument) (hv : validatePlan plan = .ok ()) :
    (plan.NoCycle ↔ plan.Listable) ∧
      (plan.NoCycle ∧ plan.Completes ↔ plan.Listable ∧ plan.Startable) := by
  have hlist := noCycle_iff_listable hv
  refine ⟨hlist, ?_⟩
  constructor
  · rintro ⟨hacyclic, hcompletes⟩
    exact ⟨hlist.mp hacyclic, hcompletes.startable hv⟩
  · rintro ⟨hlistable, hstart⟩
    have hacyclic := hlist.mpr hlistable
    exact ⟨hacyclic, completes_of_startable hv hacyclic hstart⟩

def deskStep (stepId : String) (status : PlanStepStatus) (dependsOn : List String) : PlanStep :=
  ⟨stepId, stepId, .research, status, dependsOn, none, none, none, 0⟩

def deskPlan (steps : List PlanStep) : PlanDocument :=
  ⟨"plan", "goal", .active, 0, [], [], ["done"], steps, [], []⟩

theorem schedulable_iff_desk :
    ((deskPlan [deskStep "a" .ready [], deskStep "b" .pending ["a"]]).NoCycle ∧
      (deskPlan [deskStep "a" .ready [], deskStep "b" .pending ["a"]]).Completes) ↔
    ((deskPlan [deskStep "a" .ready [], deskStep "b" .pending ["a"]]).Listable ∧
      (deskPlan [deskStep "a" .ready [], deskStep "b" .pending ["a"]]).Startable) :=
  (schedulable_iff _ (by decide +kernel)).2

theorem mutual_wait_validated :
    ∃ plan : PlanDocument, validatePlan plan = .ok () ∧ ¬plan.NoCycle ∧ ¬plan.Completes := by
  refine ⟨deskPlan [deskStep "a" .pending ["b"], deskStep "b" .pending ["a"]],
    by decide +kernel, fun h => h "a" ?_, fun h => ?_⟩
  · have hab : WaitsFor PlanStep.stepId PlanStep.dependsOn
        [deskStep "a" .pending ["b"], deskStep "b" .pending ["a"]] "a" "b" :=
      ⟨_, List.mem_cons_self, rfl, List.mem_cons_self⟩
    have hba : WaitsFor PlanStep.stepId PlanStep.dependsOn
        [deskStep "a" .pending ["b"], deskStep "b" .pending ["a"]] "b" "a" :=
      ⟨deskStep "b" .pending ["a"], by simp, rfl, List.mem_cons_self⟩
    exact .tail (.single hab) hba
  · have hstart := (h.startable (by decide +kernel)).start
    simp [deskPlan, deskStep] at hstart

end PlanDocument

end GreenticDw

import GreenticDw.Text.Strings

namespace GreenticDw

inductive PlanStepKind where
  | research
  | toolCall
  | delegate
  | review
  deriving DecidableEq, Repr

inductive PlanStepStatus where
  | pending
  | ready
  | running
  | blocked
  | completed
  | failed
  | skipped
  deriving DecidableEq, Repr

inductive PlanStatus where
  | draft
  | active
  | revising
  | completed
  | failed
  deriving DecidableEq, Repr

inductive CompletionState where
  | incomplete
  | satisfied
  | unsatisfied
  deriving DecidableEq, Repr

structure PlanStep where
  stepId : String
  title : String
  kind : PlanStepKind
  status : PlanStepStatus
  dependsOn : List String
  assignedAgent : Option String
  inputsSchemaRef : Option String
  outputSchemaRef : Option String
  retryCount : UInt32
  deriving DecidableEq, Repr

structure PlanEdge where
  fromStepId : String
  toStepId : String
  condition : Option String
  deriving DecidableEq, Repr

structure PlanRevision where
  revision : UInt32
  reason : String
  changedStepIds : List String
  metadata : List (String × String)
  deriving DecidableEq, Repr

structure PlannedAction where
  stepId : String
  action : String
  deriving DecidableEq, Repr

structure PlanDocument where
  planId : String
  goal : String
  status : PlanStatus
  revision : UInt32
  assumptions : List String
  constraints : List String
  successCriteria : List String
  steps : List PlanStep
  edges : List PlanEdge
  metadata : List (String × String)
  deriving DecidableEq, Repr

def PlanDocument.stepIds (plan : PlanDocument) : List String := plan.steps.map PlanStep.stepId

structure CreatePlanRequest where
  goal : String
  assumptions : List String
  constraints : List String
  successCriteria : List String
  deriving DecidableEq, Repr

structure RevisePlanRequest where
  plan : PlanDocument
  reason : String
  context : Option String
  deriving DecidableEq, Repr

structure NextActionsRequest where
  plan : PlanDocument
  context : Option String
  deriving DecidableEq, Repr

structure StepResultRequest where
  plan : PlanDocument
  stepId : String
  status : PlanStepStatus
  deriving DecidableEq, Repr

structure CompletionCheckRequest where
  plan : PlanDocument
  deriving DecidableEq, Repr

inductive PlanningError where
  | validation (message : String)
  | provider (message : String)
  deriving DecidableEq, Repr

structure PlanningProvider (σ : Type) where
  createPlan : CreatePlanRequest → σ → Except PlanningError PlanDocument × σ
  revisePlan : RevisePlanRequest → σ → Except PlanningError PlanRevision × σ
  nextActions : NextActionsRequest → σ → Except PlanningError (List PlannedAction) × σ
  recordStepResult : StepResultRequest → σ → Except PlanningError PlanDocument × σ
  evaluateCompletion : CompletionCheckRequest → σ → Except PlanningError CompletionState × σ

def PlanStep.SameBut (step step' : PlanStep) : Prop := step' = { step with status := step'.status }

lemma PlanStep.SameBut.refl (step : PlanStep) : step.SameBut step := rfl

lemma PlanStep.SameBut.trans {a b c : PlanStep} (h : a.SameBut b) (h' : b.SameBut c) :
    a.SameBut c := by
  unfold PlanStep.SameBut at *
  rw [h', h]

lemma PlanStep.SameBut.stepId {a b : PlanStep} (h : a.SameBut b) : b.stepId = a.stepId := by rw [h]
lemma PlanStep.SameBut.kind {a b : PlanStep} (h : a.SameBut b) : b.kind = a.kind := by rw [h]
lemma PlanStep.SameBut.title {a b : PlanStep} (h : a.SameBut b) : b.title = a.title := by rw [h]
lemma PlanStep.SameBut.dependsOn {a b : PlanStep} (h : a.SameBut b) : b.dependsOn = a.dependsOn := by
  rw [h]

lemma forall₂_comp {α β γ : Type} {R : α → β → Prop} {S : β → γ → Prop} {T : α → γ → Prop}
    (hT : ∀ a b c, R a b → S b c → T a c) {xs : List α} {ys : List β} {zs : List γ}
    (h : List.Forall₂ R xs ys) (h' : List.Forall₂ S ys zs) : List.Forall₂ T xs zs := by
  induction h generalizing zs with
  | nil =>
    cases h'
    exact .nil
  | cons hab _ ih =>
    rcases h' with _ | ⟨hbc, h'⟩
    exact .cons (hT _ _ _ hab hbc) (ih h')

structure PlanDocument.Frame (plan plan' : PlanDocument) : Prop where
  document : plan' = { plan with steps := plan'.steps, revision := plan'.revision }
  steps : List.Forall₂ PlanStep.SameBut plan.steps plan'.steps

lemma PlanDocument.Frame.refl (plan : PlanDocument) : plan.Frame plan :=
  ⟨rfl, List.forall₂_same.mpr fun step _ => .refl step⟩

lemma PlanDocument.Frame.trans {a b c : PlanDocument} (h : a.Frame b) (h' : b.Frame c) :
    a.Frame c := by
  refine ⟨?_, forall₂_comp (fun _ _ _ hab hbc => hab.trans hbc) h.steps h'.steps⟩
  rw [h'.document, h.document]

end GreenticDw

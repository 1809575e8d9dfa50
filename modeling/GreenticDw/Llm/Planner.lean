import GreenticDw.Llm.Chat
import GreenticDw.Planning.Recording

/-! The planner that asks a language model for plans, revisions and actions, and that keeps the
results of the steps itself. -/

namespace GreenticDw

structure PlanningCodecs where
  createPlan : Codec CreatePlanRequest
  plan : Codec PlanDocument
  revision : Codec PlanRevision
  actions : Codec (List PlannedAction)

namespace LlmPlanning

variable {σ : Type} (llm : LlmProvider σ) (codecs : PlanningCodecs)

def systemForNextActions : String :=
  "You are a planning assistant. Your task is to examine the current plan and determine " ++
  "which steps should be executed next. Respond with ONLY a JSON array matching this schema " ++
  "(no prose, no markdown fences, no explanation):\n\n" ++ Llm.jsonSchemaFor codecs.actions

def systemForCreatePlan : String :=
  "You are a planning assistant. Your task is to create a structured execution plan " ++
  "for the given goal. Respond with ONLY a JSON object matching this schema " ++
  "(no prose, no markdown fences, no explanation):\n\n" ++ Llm.jsonSchemaFor codecs.plan

def systemForRevisePlan : String :=
  "You are a planning assistant. Your task is to revise an existing plan given a reason " ++
  "and optional context. Respond with ONLY a JSON object matching this schema " ++
  "(no prose, no markdown fences, no explanation):\n\n" ++ Llm.jsonSchemaFor codecs.revision

def contextBlock (context : Option String) : String :=
  (context.map ("\n\nContext:\n" ++ ·)).getD ""

def userForNextActions (req : NextActionsRequest) : String :=
  "Current plan:\n" ++ Llm.toStringPretty codecs.plan req.plan ++ contextBlock req.context

def userForCreatePlan (req : CreatePlanRequest) : String :=
  "Plan request:\n" ++ Llm.toStringPretty codecs.createPlan req

def userForRevisePlan (req : RevisePlanRequest) : String :=
  "Reason for revision: " ++ req.reason ++ "\n\nCurrent plan:\n" ++
    Llm.toStringPretty codecs.plan req.plan ++ contextBlock req.context

def createPlan (req : CreatePlanRequest) (s : σ) : Except PlanningError PlanDocument × σ :=
  match Llm.completeJson llm codecs.plan "planner" .provider (systemForCreatePlan codecs)
      (userForCreatePlan codecs req) s with
  | (.error e, s') => (.error e, s')
  | (.ok plan, s') => ((validatePlan plan).map fun _ => plan, s')

def revisePlan (req : RevisePlanRequest) (s : σ) : Except PlanningError PlanRevision × σ :=
  Llm.completeJson llm codecs.revision "planner" .provider (systemForRevisePlan codecs)
    (userForRevisePlan codecs req) s

def checkActions (plan : PlanDocument) (actions : List PlannedAction) :
    Except PlanningError (List PlannedAction) :=
  -- the status of the step is not looked at
  match actions.find? fun action => action.stepId ∉ plan.stepIds with
  | some action => .error (.validation ("planner referenced unknown step_id: " ++ action.stepId))
  | none => .ok actions

def nextActions (req : NextActionsRequest) (s : σ) :
    Except PlanningError (List PlannedAction) × σ :=
  match Llm.completeJson llm codecs.actions "planner" .provider (systemForNextActions codecs)
      (userForNextActions codecs req) s with
  | (.error e, s') => (.error e, s')
  | (.ok actions, s') => (checkActions req.plan actions, s')

end LlmPlanning

def LlmPlanningProvider {σ : Type} (llm : LlmProvider σ) (codecs : PlanningCodecs) :
    PlanningProvider σ where
  createPlan := LlmPlanning.createPlan llm codecs
  revisePlan := LlmPlanning.revisePlan llm codecs
  nextActions := LlmPlanning.nextActions llm codecs
  recordStepResult req s := (.ok (LlmPlanning.recordStepResult req), s)
  evaluateCompletion req s := (.ok (LlmPlanning.evaluateCompletion req), s)

namespace LlmPlanning

variable {σ : Type} {llm : LlmProvider σ} {codecs : PlanningCodecs}

lemma createPlan_valid {req : CreatePlanRequest} {s s' : σ} {plan : PlanDocument}
    (h : createPlan llm codecs req s = (.ok plan, s')) : validatePlan plan = .ok () := by
  unfold createPlan at h
  rcases hc : Llm.completeJson llm codecs.plan "planner" PlanningError.provider
      (systemForCreatePlan codecs) (userForCreatePlan codecs req) s with ⟨e | reply, s₁⟩
  · simp [hc] at h
  · rw [hc] at h
    cases hv : validatePlan reply with
    | error e => simp [hv, Except.map] at h
    | ok u =>
      simp only [hv, Except.map, Prod.mk.injEq, Except.ok.injEq] at h
      rw [← h.1]
      exact hv

lemma createPlan_reply {req : CreatePlanRequest} {s s' : σ} {text : String}
    {calls : List ToolCall} {plan : PlanDocument}
    (hchat : ∀ request, llm.chat request s = (.ok ⟨text, calls⟩, s'))
    (hdecode : codecs.plan.decode (Llm.extractJson text) = .ok plan)
    (hvalid : validatePlan plan = .ok ()) : createPlan llm codecs req s = (.ok plan, s') := by
  rw [createPlan, Llm.completeJson_reply (hchat _) hdecode]
  simp only [hvalid, Except.map]

lemma nextActions_reply {req : NextActionsRequest} {s s' : σ} {text : String}
    {calls : List ToolCall} {actions : List PlannedAction}
    (hchat : ∀ request, llm.chat request s = (.ok ⟨text, calls⟩, s'))
    (hdecode : codecs.actions.decode (Llm.extractJson text) = .ok actions) :
    nextActions llm codecs req s = (checkActions req.plan actions, s') := by
  rw [nextActions, Llm.completeJson_reply (hchat _) hdecode]

lemma checkActions_known {plan : PlanDocument} {actions actions' : List PlannedAction}
    (h : checkActions plan actions = .ok actions') :
    actions' = actions ∧ ∀ action ∈ actions, action.stepId ∈ plan.stepIds := by
  unfold checkActions at h
  cases hf : actions.find? fun action => action.stepId ∉ plan.stepIds with
  | some action =>
    rw [hf] at h
    cases h
  | none =>
    rw [hf] at h
    simp only [Except.ok.injEq] at h
    refine ⟨h.symm, fun action hm => ?_⟩
    simpa using List.find?_eq_none.mp hf action hm

end LlmPlanning

end GreenticDw

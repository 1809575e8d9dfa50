import GreenticDw.DeepLoop.Transitions
import GreenticDw.Invoker.ToolExecutor
import GreenticDw.Text.JsonRoom

namespace GreenticDw

open JsonReader (Plain read)

def Unescaped (s : String) : Prop := ∀ d ∈ s.toList, Plain d

instance (s : String) : Decidable (Unescaped s) :=
  List.decidableBAll Plain s.toList

/-- The body is JSON, as it is declared to be: an object with the id of the step. -/
structure CreateArtifactRequest.Describes (request : CreateArtifactRequest) (step : PlanStep) :
    Prop where
  declared : request.metadata.mimeType = some "application/json"
  body : ∃ fields, read request.body = some (.object fields) ∧
    (Value.object fields).get "step_id" = some (.string step.stepId)

namespace Value

lemma get_some {value field : Value} {key : String} (h : value.get key = some field) :
    ∃ fields, value = .object fields := by
  cases value with
  | object fields => exact ⟨fields, rfl⟩
  | _ => cases h

lemma wellFormedItems_append {xs ys : List Value} (hx : WellFormedItems xs)
    (hy : WellFormedItems ys) : WellFormedItems (xs ++ ys) := by
  induction xs with
  | nil => exact hy
  | cons x xs ih => exact ⟨hx.1, ih hx.2⟩

end Value

theorem placeholderBody_iff (step : PlanStep) :
    (∃ fields, read (placeholderBody step) = some (.object fields) ∧
      (Value.object fields).get "step_id" = some (.string step.stepId)) ↔
        Unescaped step.stepId := by
  constructor
  · rintro ⟨fields, hread, hget⟩
    have hroom := JsonReader.room_le_length hread hget
    have hkey : JsonReader.room "step_id".toList = 7 := by decide
    have hlength : (placeholderBody step).toList.length = step.stepId.toList.length + 14 := by
      simp [placeholderBody]
    apply JsonReader.plain_of_room_le
    omega
  · intro hplain
    have htext : placeholderBody step =
        (Value.object [("step_id", .string step.stepId)]).toText := by
      have hkey : Unescaped "step_id" := by decide
      apply String.toList_injective
      rw [JsonReader.toList_object, Value.toText, JsonReader.quote_plain hkey,
        JsonReader.quote_plain hplain]
      simp [placeholderBody, Value.fieldTexts, JsonReader.tailText]
    have hwell : (Value.object [("step_id", .string step.stepId)]).WellFormed :=
      ⟨List.nodup_singleton _, trivial, trivial⟩
    refine ⟨[("step_id", .string step.stepId)], ?_, rfl⟩
    rw [htext, JsonReader.read_toText hwell]

def LlmProvider.AsksWithValues {σ : Type} (llm : LlmProvider σ) : Prop :=
  ∀ request s response, (llm.chat request s).1 = .ok response →
    ∀ call ∈ response.toolCalls, call.arguments.WellFormed

def StepExecution.Describes (execution : StepExecution) (step : PlanStep) : Prop :=
  execution.body.WellFormed ∧ execution.body.get "step_id" = some (.string step.stepId)

namespace LlmToolStepExecutor

variable {σ : Type} {executor : LlmToolStepExecutor σ}

lemma callRecord_wellFormed {call : ToolCall} (h : call.arguments.WellFormed)
    (outcome : CallOutcome) (shown : String) : (callRecord call outcome shown).WellFormed := by
  have hkeys : ["name", "arguments", "status", "result"].Nodup := by decide
  exact ⟨hkeys, trivial, h, trivial, trivial, trivial⟩

lemma stepBody_describes (request : ExecuteStepRequest) {p : StepProgress}
    (hp : Value.WellFormedItems p.records) (response : ChatResponse) :
    StepExecution.Describes ⟨stepBody request p response, p.used⟩ request.step := by
  refine ⟨?_, rfl⟩
  unfold stepBody
  split_ifs
  · have hkeys : ["step_id", "output"].Nodup := by decide
    exact ⟨hkeys, trivial, trivial, trivial⟩
  · have hkeys : ["step_id", "output", "tool_calls"].Nodup := by decide
    exact ⟨hkeys, trivial, trivial, hp, trivial⟩

lemma chat_asksWithValues (hllm : executor.llm.AsksWithValues) {request : ChatRequest}
    {response : ChatResponse} {s s' : σ} {t : List ToolEvent}
    (h : (executor.chat request).run s = ⟨.ok response, s', t⟩) :
    ∀ call ∈ response.toolCalls, call.arguments.WellFormed := by
  apply hllm request s response
  have hok := congrArg Outcome.result h
  simpa only [chat, Traced.run_mapError, Traced.run_ask, except_mapError_eq_ok] using hok

lemma resolveCalls_records {maxToolCalls : ℕ} {calls : List ToolCall} {p p' : StepProgress}
    {s : σ} (hcalls : ∀ call ∈ calls, call.arguments.WellFormed)
    (hp : Value.WellFormedItems p.records)
    (h : ((executor.resolveCalls maxToolCalls p calls).run s).result = .ok p') :
    Value.WellFormedItems p'.records := by
  induction calls generalizing p s with
  | nil =>
    cases h
    exact hp
  | cons call calls ih =>
    rw [List.forall_mem_cons] at hcalls
    obtain ⟨⟨outcome, used⟩, s₁, _, _, _, h⟩ := Traced.run_bind_eq_ok h
    refine ih hcalls.2 ?_ h
    exact Value.wellFormedItems_append hp ⟨callRecord_wellFormed hcalls.1 outcome _, trivial⟩

lemma toolRounds_describes (hllm : executor.llm.AsksWithValues) (request : ExecuteStepRequest)
    {left : ℕ} {p : StepProgress} {s : σ} {execution : StepExecution}
    (hp : Value.WellFormedItems p.records)
    (h : ((executor.toolRounds request left p).run s).result = .ok execution) :
    execution.Describes request.step := by
  induction left generalizing p s with
  | zero =>
    obtain ⟨response, _, _, _, _, h⟩ := Traced.run_bind_eq_ok h
    cases h
    exact stepBody_describes request hp response
  | succ left ih =>
    obtain ⟨response, s₁, _, hchat, _, h⟩ := Traced.run_bind_eq_ok h
    split_ifs at h
    · cases h
      exact stepBody_describes request hp response
    · obtain ⟨p', s₂, _, hcalls, _, h⟩ := Traced.run_bind_eq_ok h
      refine ih (resolveCalls_records (chat_asksWithValues hllm hchat) ?_
        (congrArg Outcome.result hcalls)) h
      exact hp

theorem executeStep_describes (hllm : executor.llm.AsksWithValues) {request : ExecuteStepRequest}
    {s : σ} {execution : StepExecution}
    (h : (executor.stepExecutor.executeStep request s).1 = .ok execution) :
    execution.Describes request.step := by
  have hnone : Value.WellFormedItems [] := trivial
  exact toolRounds_describes hllm request hnone h

end LlmToolStepExecutor

namespace DeepLoopCoordinator

variable {σ : Type} (c : DeepLoopCoordinator σ)

inductive Writes (step : PlanStep) : String → Prop
  | placeholder : c.executor = none → Writes step (placeholderBody step)
  | executed {executor : StepExecutor σ} {request : ExecuteStepRequest} {env : σ}
      {execution : StepExecution} : c.executor = some executor → request.step = step →
      (executor.executeStep request env).1 = .ok execution → Writes step execution.body.toText

def Written : Call σ → Prop
  | .createArtifact moment request _ =>
    request.metadata.mimeType = some "application/json" ∧ c.Writes moment.step request.body
  | _ => True

variable {c}

lemma Produced.writes {s s₁ : LoopState} {step : PlanStep} {stepContext : Option String}
    {w : World σ} {body : String} {env : σ} {calls : List (Call σ)}
    (h : c.Produced s step stepContext w body s₁ env calls) : c.Writes step body := by
  cases h with
  | placeholder hx => exact .placeholder hx
  | executed hx he => exact .executed hx rfl (congrArg Prod.fst he)

lemma RunCall.written {x : Call σ} (hx : c.RunCall x) : c.Written x := by
  cases hx with
  | mediating hm => cases x <;> trivial
  | quiet hq => cases x <;> trivial
  | work hw =>
    cases hw with
    | mediating hm => cases x <;> trivial
    | storing hp => exact ⟨rfl, hp.writes⟩
    | _ => trivial
  | settling hs =>
    cases hs with
    | mediating hm => cases x <;> trivial
    | checking _ => trivial
    | reviewing => trivial

def ToolsAtMost (c : DeepLoopCoordinator σ) : Prop :=
  ∀ executor, c.executor = some executor → ∃ tools : LlmToolStepExecutor σ,
    tools.llm.AsksWithValues ∧ executor = tools.stepExecutor

def BodiesDescribe (t : List (Call σ)) : Prop :=
  ∀ moment request answer, .createArtifact moment request answer ∈ t →
    CreateArtifactRequest.Describes request moment.step

lemma Writes.reads_iff (hc : c.ToolsAtMost) {step : PlanStep} {body : String}
    (h : c.Writes step body) : (∃ fields, read body = some (.object fields) ∧
      (Value.object fields).get "step_id" = some (.string step.stepId)) ↔
        (c.executor = none → Unescaped step.stepId) := by
  cases h with
  | placeholder hx =>
    rw [placeholderBody_iff]
    exact ⟨fun h _ => h, fun h => h hx⟩
  | executed hx hstep he =>
    obtain ⟨tools, hllm, rfl⟩ := hc _ hx
    obtain ⟨hwell, hget⟩ := tools.executeStep_describes hllm he
    obtain ⟨fields, hfields⟩ := Value.get_some hget
    have hread := JsonReader.read_toText hwell
    rw [hfields] at hread hget
    rw [hstep] at hget
    have hnone : c.executor ≠ none := by simp [hx]
    exact iff_of_true ⟨fields, hfields ▸ hread, hget⟩ fun h => (hnone h).elim

lemma describes_iff (hc : c.ToolsAtMost) {moment : Moment σ} {request : CreateArtifactRequest}
    {answer : Except WorkspaceError ArtifactRef}
    (h : c.Written (.createArtifact moment request answer)) :
    request.Describes moment.step ↔ (c.executor = none → Unescaped moment.step.stepId) := by
  rw [← h.2.reads_iff hc]
  exact ⟨fun h => h.body, fun hbody => ⟨h.1, hbody⟩⟩

lemma Follows.unescaped {task : TaskEnvelope} {plan : PlanDocument} {t : List (Call σ)}
    (hp : c.RecordsItself) (h : c.Follows task (c.initialState plan) t)
    (hids : ∀ step ∈ plan.steps, Unescaped step.stepId) {moment : Moment σ}
    {request : CreateArtifactRequest} {answer : Except WorkspaceError ArtifactRef}
    (hx : .createArtifact moment request answer ∈ t) : Unescaped moment.step.stepId := by
  obtain ⟨pre, post, ht⟩ := List.append_of_mem hx
  obtain ⟨hfits, _⟩ := h.fits ht
  rw [ht, follows_append] at h
  have hframe := h.1.frame hp
  obtain ⟨step, hstep, hsame⟩ := LlmPlanning.exists_mem_of_forall₂ hframe.steps.flip hfits.step
  have hid : moment.step.stepId = step.stepId := PlanStep.SameBut.stepId hsame
  rw [hid]
  exact hids step hstep

theorem bodies_describe_iff (c : DeepLoopCoordinator σ) (hc : c.ToolsAtMost) (plan : PlanDocument)
    (w : World σ) :
    (∀ moment request answer, .createArtifact moment request answer ∈ ((c.run plan).run w).trace →
      (CreateArtifactRequest.Describes request moment.step ↔
        (c.executor = none → Unescaped moment.step.stepId))) ∧
    (c.RecordsItself → (∀ step ∈ plan.steps, Unescaped step.stepId) →
      BodiesDescribe ((c.run plan).run w).trace) := by
  have hiff : ∀ moment request answer,
      .createArtifact moment request answer ∈ ((c.run plan).run w).trace →
        (CreateArtifactRequest.Describes request moment.step ↔
          (c.executor = none → Unescaped moment.step.stepId)) :=
    fun moment request answer hx => describes_iff hc (run_calls c plan w _ hx).written
  refine ⟨hiff, fun hp hids moment request answer hx => ?_⟩
  rw [hiff moment request answer hx]
  exact fun _ => (c.run_replayed plan w).calls.unescaped hp hids hx

theorem bodies_describe_scripted :
    BodiesDescribe (Script.run ⟨.operation .step, .accept, .accept, 3⟩ .created
      [Script.step "a" .toolCall .ready []] [[⟨"a", "go"⟩]]).trace :=
  (bodies_describe_iff (Script.coordinator ⟨.operation .step, .accept, .accept, 3⟩)
    (fun _ h => by cases h) (Script.plan [Script.step "a" .toolCall .ready []])
    ⟨[[⟨"a", "go"⟩]], Script.task .created⟩).2 (fun _ _ => rfl)
      (List.forall_mem_singleton.mpr (by decide))

def unread : Call σ → Bool
  | .createArtifact _ request _ => (read request.body).isNone
  | _ => false

theorem quoted_id_unread :
    validatePlan (Script.plan [Script.step "say \"hi\"" .toolCall .ready []]) = .ok () ∧
      ¬BodiesDescribe (Script.run ⟨.operation .step, .accept, .accept, 3⟩ .created
        [Script.step "say \"hi\"" .toolCall .ready []] [[⟨"say \"hi\"", "go"⟩]]).trace := by
  have hunread : (Script.run ⟨.operation .step, .accept, .accept, 3⟩ .created
      [Script.step "say \"hi\"" .toolCall .ready []]
      [[⟨"say \"hi\"", "go"⟩]]).trace.any unread = true := by decide +kernel
  refine ⟨by decide +kernel, fun h => ?_⟩
  obtain ⟨x, hx, hx'⟩ := List.any_eq_true.mp hunread
  cases x with
  | createArtifact moment request answer =>
    obtain ⟨fields, hread, _⟩ := (h moment request answer hx).body
    rw [unread, hread] at hx'
    cases hx'
  | _ => cases hx'

end DeepLoopCoordinator

end GreenticDw

import GreenticDw.Invoker.Tools
import GreenticDw.Traced.Computation

/-! The executor that carries out a step by letting the model call tools in a bounded loop. -/

namespace GreenticDw

open Text

inductive ToolEvent where
  | chat (request : ChatRequest) (answer : Except LlmError ChatResponse)
  | hostCall (name : String) (arguments : Value) (answer : Except String Value)

def ToolEvent.isHostCall : ToolEvent → Bool
  | hostCall _ _ _ => true
  | chat _ _ => false

def hostCalls (t : List ToolEvent) : ℕ := t.countP ToolEvent.isHostCall

structure LlmToolStepExecutor (σ : Type) where
  llm : LlmProvider σ
  tools : DeepWorkerTools σ
  defs : List ToolDef
  cache : Cell σ ToolCache

structure StepProgress where
  messages : List ChatMessage
  used : ℕ
  records : List Value

abbrev ToolRun (σ α : Type) := Traced σ ToolEvent StepExecutionError α

def executorUserPrompt (request : ExecuteStepRequest) : String :=
  "Goal: " ++ request.goal ++ "\nCurrent step (" ++ request.step.stepId ++ "): " ++
    request.step.title ++
    (request.context.map ("\n\nRelevant knowledge:\n" ++ ·)).getD "" ++
    (if request.priorOutputs.isEmpty then ""
     else "\n\nOutputs of earlier steps:" ++ String.join (request.priorOutputs.map fun output =>
      "\n- " ++ truncateMarked output.toText toolResultLimit)) ++
    if request.maxToolCalls = 0 then
      "\n\nNo tool calls are available for this step; answer from what you have."
    else ""

namespace LlmToolStepExecutor

variable {σ : Type} (executor : LlmToolStepExecutor σ)

def new (llm : LlmProvider σ) (tools : DeepWorkerTools σ) (specs : List ToolSpec)
    (cache : Cell σ ToolCache) : LlmToolStepExecutor σ where
  llm := llm
  tools := tools
  defs := specs.map fun spec => ⟨spec.name, spec.description, spec.parameters⟩
  cache := cache

def cacheKey (call : ToolCall) : String × String := (call.name, canonicalJson call.arguments)

def resolveCall (call : ToolCall) (used maxToolCalls : ℕ) : ToolRun σ (CallOutcome × ℕ) := do
  let s ← Traced.get
  match ToolCache.cached (cacheKey call) (executor.cache.read s) with
  | some value => pure (.cached value, used)
  | none =>
    if maxToolCalls ≤ used then
      pure (.overBudget, used)
    else
      match ← Traced.answer (executor.tools.call call.name call.arguments)
          (.hostCall call.name call.arguments) with
      | .ok value =>
        Traced.modify fun s =>
          executor.cache.write
            (ToolCache.remember (cacheKey call) value (executor.cache.read s)) s
        pure (.ran value, used + 1)
      | .error error => pure (.failed ("tool call failed: " ++ error), used + 1)

def callRecord (call : ToolCall) (outcome : CallOutcome) (shown : String) : Value :=
  .object [("name", .string call.name), ("arguments", call.arguments),
    ("status", .string outcome.status), ("result", .string shown)]

def resolveCalls (maxToolCalls : ℕ) : StepProgress → List ToolCall → ToolRun σ StepProgress
  | p, [] => pure p
  | p, call :: calls => do
    let (outcome, used) ← executor.resolveCall call p.used maxToolCalls
    let shown := truncateMarked outcome.modelPayload.toText toolResultLimit
    resolveCalls maxToolCalls
      { messages := p.messages ++ [.toolResult call.id shown]
        used := used
        records := p.records ++ [callRecord call outcome shown] } calls

def roundRequest (p : StepProgress) (offerTools : Bool) : ChatRequest where
  messages := p.messages
  -- once tools were used their definitions stay, but further calls are forbidden
  tools := if offerTools || !p.records.isEmpty then executor.defs else []
  toolChoice :=
    if offerTools then some "auto" else if !p.records.isEmpty then some "none" else none
  maxTokens := some 2048
  temperature := some (1 / 5)

def chat (request : ChatRequest) : ToolRun σ ChatResponse :=
  (Traced.ask (executor.llm.chat request) (.chat request)).mapError fun e =>
    .backend ("step execution chat: " ++ e.message)

def stepBody (request : ExecuteStepRequest) (p : StepProgress) (response : ChatResponse) : Value :=
  .object ([("step_id", .string request.step.stepId), ("output", .string (trim response.content))] ++
    if p.records.isEmpty then [] else [("tool_calls", .array p.records)])

/-- The rounds of a step, of which `left` may still offer tools: the limit less the rounds so
far. -/
def toolRounds (request : ExecuteStepRequest) : ℕ → StepProgress → ToolRun σ StepExecution
  | 0, p => do
    let response ← executor.chat (executor.roundRequest p false)
    pure ⟨stepBody request p response, p.used⟩
  | left + 1, p => do
    let offerTools := decide (p.used < request.maxToolCalls)
    let response ← executor.chat (executor.roundRequest p offerTools)
    if !offerTools || response.toolCalls.isEmpty then
      pure ⟨stepBody request p response, p.used⟩
    else
      let p ← executor.resolveCalls request.maxToolCalls
        { p with
          messages := p.messages ++ [.assistantWithToolCalls response.content response.toolCalls] }
        response.toolCalls
      toolRounds request left p

def executeStep (request : ExecuteStepRequest) : ToolRun σ StepExecution :=
  executor.toolRounds request (min (request.maxToolCalls + cachedRoundAllowance) usizeMax)
    ⟨[.system executorSystemPrompt, .user (executorUserPrompt request)], 0, []⟩

def stepExecutor : StepExecutor σ where
  executeStep request s :=
    (((executor.executeStep request).run s).result, ((executor.executeStep request).run s).world)

inductive Resolved (call : ToolCall) (used maxToolCalls : ℕ) (s : σ) :
    Outcome σ ToolEvent StepExecutionError (CallOutcome × ℕ) → Prop
  | cached {value : Value} :
      ToolCache.cached (cacheKey call) (executor.cache.read s) = some value →
      Resolved call used maxToolCalls s ⟨.ok (.cached value, used), s, []⟩
  | overBudget :
      ToolCache.cached (cacheKey call) (executor.cache.read s) = none →
      maxToolCalls ≤ used →
      Resolved call used maxToolCalls s ⟨.ok (.overBudget, used), s, []⟩
  | ran {value : Value} {s' : σ} :
      ToolCache.cached (cacheKey call) (executor.cache.read s) = none →
      used < maxToolCalls → executor.tools.call call.name call.arguments s = (.ok value, s') →
      Resolved call used maxToolCalls s ⟨.ok (.ran value, used + 1),
        executor.cache.write
          (ToolCache.remember (cacheKey call) value (executor.cache.read s')) s',
        [.hostCall call.name call.arguments (.ok value)]⟩
  | failed {error : String} {s' : σ} :
      ToolCache.cached (cacheKey call) (executor.cache.read s) = none →
      used < maxToolCalls → executor.tools.call call.name call.arguments s = (.error error, s') →
      Resolved call used maxToolCalls s ⟨.ok (.failed ("tool call failed: " ++ error), used + 1), s',
        [.hostCall call.name call.arguments (.error error)]⟩

theorem resolveCall_cases (call : ToolCall) (used maxToolCalls : ℕ) (s : σ) :
    executor.Resolved call used maxToolCalls s
      ((executor.resolveCall call used maxToolCalls).run s) := by
  cases hc : ToolCache.cached (cacheKey call) (executor.cache.read s) with
  | some value => simpa [resolveCall, hc] using Resolved.cached hc
  | none =>
    by_cases hm : maxToolCalls ≤ used
    · simpa [resolveCall, hc, hm] using Resolved.overBudget hc hm
    · have hlt : used < maxToolCalls := by omega
      rcases hr : executor.tools.call call.name call.arguments s with ⟨e | value, s'⟩
      · simpa [resolveCall, hc, hm, hr] using Resolved.failed hc hlt hr
      · simpa [resolveCall, hc, hm, hr] using Resolved.ran hc hlt hr

def Accounts {α : Type} (maxToolCalls used : ℕ) (usedOf : α → ℕ)
    (o : Outcome σ ToolEvent StepExecutionError α) : Prop :=
  ∀ a, o.result = .ok a → usedOf a = used + hostCalls o.trace ∧ usedOf a ≤ maxToolCalls

variable {α β : Type} {maxToolCalls used : ℕ}

lemma hostCalls_append (t u : List ToolEvent) : hostCalls (t ++ u) = hostCalls t + hostCalls u :=
  List.countP_append ..

lemma Accounts.andThen {f : α → ℕ} {g : β → ℕ} {o : Outcome σ ToolEvent StepExecutionError α}
    {next : α → ToolRun σ β} (ho : Accounts maxToolCalls used f o)
    (hn : ∀ a s, f a ≤ maxToolCalls → Accounts maxToolCalls (f a) g ((next a).run s)) :
    Accounts maxToolCalls used g (o.andThen next) := by
  rcases o with ⟨e | a, s, t⟩
  · intro b hb
    cases hb
  · intro b hb
    obtain ⟨ha, hle⟩ := ho a rfl
    obtain ⟨hb', hle'⟩ := hn a s hle b hb
    refine ⟨?_, hle'⟩
    rw [hb', ha, Traced.andThen_ok, Outcome.after_trace, hostCalls_append, Nat.add_assoc]

lemma accounts_resolveCall (call : ToolCall) (hused : used ≤ maxToolCalls) (s : σ) :
    Accounts maxToolCalls used Prod.snd ((executor.resolveCall call used maxToolCalls).run s) := by
  have h := executor.resolveCall_cases call used maxToolCalls s
  generalize (executor.resolveCall call used maxToolCalls).run s = o at h
  intro a ha
  cases h with
  | cached _ =>
    cases ha
    exact ⟨rfl, hused⟩
  | overBudget _ _ =>
    cases ha
    exact ⟨rfl, hused⟩
  | ran _ hlt _ =>
    cases ha
    exact ⟨rfl, hlt⟩
  | failed _ hlt _ =>
    cases ha
    exact ⟨rfl, hlt⟩

lemma accounts_resolveCalls (calls : List ToolCall) (p : StepProgress)
    (hused : p.used ≤ maxToolCalls) (s : σ) :
    Accounts maxToolCalls p.used StepProgress.used
      ((executor.resolveCalls maxToolCalls p calls).run s) := by
  induction calls generalizing p s with
  | nil =>
    intro a ha
    cases ha
    exact ⟨rfl, hused⟩
  | cons call calls ih =>
    apply (executor.accounts_resolveCall call hused s).andThen
    rintro ⟨outcome, used⟩ s' hle
    exact ih _ hle s'

lemma accounts_chat (request : ChatRequest) (hused : used ≤ maxToolCalls) (s : σ) :
    Accounts maxToolCalls used (fun _ => used) ((executor.chat request).run s) := by
  intro a _
  exact ⟨rfl, hused⟩

lemma accounts_toolRounds (request : ExecuteStepRequest) (left : ℕ) (p : StepProgress)
    (hused : p.used ≤ request.maxToolCalls) (s : σ) :
    Accounts request.maxToolCalls p.used StepExecution.toolCallsUsed
      ((executor.toolRounds request left p).run s) := by
  have hdone : ∀ (p : StepProgress) (response : ChatResponse) s, p.used ≤ request.maxToolCalls →
      Accounts request.maxToolCalls p.used StepExecution.toolCallsUsed
        ((pure ⟨stepBody request p response, p.used⟩ : ToolRun σ StepExecution).run s) := by
    intro p response s hp a ha
    cases ha
    exact ⟨rfl, hp⟩
  induction left generalizing p s with
  | zero =>
    apply (executor.accounts_chat _ hused s).andThen
    exact fun response s' hle => hdone p response s' hle
  | succ left ih =>
    apply (executor.accounts_chat _ hused s).andThen
    intro response s' hle
    split_ifs with hoffer
    · exact hdone p response s' hle
    · refine (executor.accounts_resolveCalls response.toolCalls { p with
        messages := p.messages ++
          [.assistantWithToolCalls response.content response.toolCalls] } hle s').andThen ?_
      exact fun p' s'' hle' => ih p' hle' s''

theorem executeStep_accounts (request : ExecuteStepRequest) (s : σ) {execution : StepExecution}
    (h : ((executor.executeStep request).run s).result = .ok execution) :
    execution.toolCallsUsed = hostCalls ((executor.executeStep request).run s).trace ∧
      execution.toolCallsUsed ≤ request.maxToolCalls := by
  have ha := executor.accounts_toolRounds request _ _ (Nat.zero_le _) s execution h
  rwa [Nat.zero_add] at ha

end LlmToolStepExecutor

end GreenticDw

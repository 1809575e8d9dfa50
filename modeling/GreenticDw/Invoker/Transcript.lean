import GreenticDw.Invoker.ToolExecutor
import Mathlib.Data.List.TakeWhile

/-! The chats of a step: how many there are, and that each shows the model a transcript in which
every tool call is answered. -/

namespace GreenticDw

namespace ChatMessage

def IsToolResult : ChatMessage → Bool
  | toolResult _ _ => true
  | _ => false

def Answers : ChatMessage → ToolCall → Prop
  | toolResult callId _, call => callId = call.id
  | _, _ => False

end ChatMessage

/-- A message with tool calls is followed by one tool message for each of them, in their order,
and by no other tool message. -/
def Transcript : List ChatMessage → Prop
  | [] => True
  | .assistantWithToolCalls _ toolCalls :: rest =>
    List.Forall₂ ChatMessage.Answers (rest.takeWhile ChatMessage.IsToolResult) toolCalls ∧
      Transcript rest
  | _ :: rest => Transcript rest

lemma takeWhile_append_of_head {α : Type} {p : α → Bool} (xs : List α) {ys : List α}
    (h : ∀ y ∈ ys.head?, p y = false) : (xs ++ ys).takeWhile p = xs.takeWhile p := by
  induction xs with
  | nil =>
    cases ys with
    | nil => rfl
    | cons y ys => simp [h y rfl]
  | cons x xs ih => simp [List.takeWhile_cons, ih]

lemma transcript_append {xs ys : List ChatMessage}
    (h : ∀ y ∈ ys.head?, y.IsToolResult = false) :
    Transcript (xs ++ ys) ↔ Transcript xs ∧ Transcript ys := by
  induction xs with
  | nil => simp [Transcript]
  | cons x xs ih =>
    cases x with
    | assistantWithToolCalls content toolCalls =>
      simp only [List.cons_append, Transcript, takeWhile_append_of_head xs h, ih, and_assoc]
    | _ => exact ih

lemma isToolResult_of_answers {results : List ChatMessage} {toolCalls : List ToolCall}
    (h : List.Forall₂ ChatMessage.Answers results toolCalls) :
    ∀ m ∈ results, m.IsToolResult = true := by
  induction h with
  | nil => simp
  | @cons m call _ _ hm _ ih =>
    refine List.forall_mem_cons.mpr ⟨?_, ih⟩
    cases m with
    | toolResult _ _ => rfl
    | _ => exact hm.elim

lemma transcript_of_isToolResult {results : List ChatMessage}
    (h : ∀ m ∈ results, m.IsToolResult = true) : Transcript results := by
  induction results with
  | nil => trivial
  | cons m results ih =>
    have htail := ih fun m' hm' => h m' (List.mem_cons_of_mem m hm')
    cases m with
    | assistantWithToolCalls _ _ => exact absurd (h _ List.mem_cons_self) (by simp [ChatMessage.IsToolResult])
    | _ => exact htail

lemma Transcript.round {messages results : List ChatMessage} {toolCalls : List ToolCall}
    (h : Transcript messages) (content : String)
    (hr : List.Forall₂ ChatMessage.Answers results toolCalls) :
    Transcript (messages ++ .assistantWithToolCalls content toolCalls :: results) := by
  have hresults := isToolResult_of_answers hr
  refine (transcript_append ?_).mpr ⟨h, ?_, transcript_of_isToolResult hresults⟩
  · rintro _ ⟨⟩
    rfl
  · rwa [List.takeWhile_eq_self_iff.mpr hresults]

namespace ToolEvent

def isChat : ToolEvent → Bool
  | chat _ _ => true
  | hostCall _ _ _ => false

def ShowsTranscript : ToolEvent → Prop
  | chat request _ => Transcript request.messages
  | hostCall _ _ _ => True

end ToolEvent

def chats (t : List ToolEvent) : ℕ := t.countP ToolEvent.isChat

lemma chats_append (t u : List ToolEvent) : chats (t ++ u) = chats t + chats u :=
  List.countP_append ..

namespace LlmToolStepExecutor

variable {σ : Type} (executor : LlmToolStepExecutor σ)

structure ResolvedAll (maxToolCalls : ℕ) (p : StepProgress) (calls : List ToolCall)
    (o : Outcome σ ToolEvent StepExecutionError StepProgress) : Prop where
  noChats : ∀ x ∈ o.trace, x.isChat = false
  resolves : ∃ p', o.result = .ok p' ∧
    (∃ results, p'.messages = p.messages ++ results ∧
      List.Forall₂ ChatMessage.Answers results calls) ∧
    p'.used = p.used + hostCalls o.trace ∧ p'.used ≤ maxToolCalls

lemma resolveCall_ok (call : ToolCall) {used maxToolCalls : ℕ} (hused : used ≤ maxToolCalls)
    (s : σ) :
    (∀ x ∈ ((executor.resolveCall call used maxToolCalls).run s).trace, x.isChat = false) ∧
      ∃ outcome used', ((executor.resolveCall call used maxToolCalls).run s).result =
        .ok (outcome, used') ∧
        used' = used + hostCalls ((executor.resolveCall call used maxToolCalls).run s).trace ∧
        used' ≤ maxToolCalls := by
  have h := executor.resolveCall_cases call used maxToolCalls s
  generalize (executor.resolveCall call used maxToolCalls).run s = o at h
  cases h with
  | cached _ => exact ⟨by simp, _, _, rfl, rfl, hused⟩
  | overBudget _ _ => exact ⟨by simp, _, _, rfl, rfl, hused⟩
  | ran _ hlt _ => exact ⟨by simp [ToolEvent.isChat], _, _, rfl, rfl, hlt⟩
  | failed _ hlt _ => exact ⟨by simp [ToolEvent.isChat], _, _, rfl, rfl, hlt⟩

lemma resolveCalls_resolvedAll {maxToolCalls : ℕ} (calls : List ToolCall) (p : StepProgress)
    (hused : p.used ≤ maxToolCalls) (s : σ) :
    ResolvedAll maxToolCalls p calls ((executor.resolveCalls maxToolCalls p calls).run s) := by
  induction calls generalizing p s with
  | nil => exact ⟨by simp [resolveCalls], p, rfl, ⟨[], by simp⟩, rfl, hused⟩
  | cons call calls ih =>
    obtain ⟨hno, outcome, used', hresult, husage, hle⟩ := executor.resolveCall_ok call hused s
    simp only [resolveCalls, Traced.run_bind]
    generalize (executor.resolveCall call p.used maxToolCalls).run s = o at hno hresult husage ⊢
    rcases o with ⟨r, s', t⟩
    obtain rfl : r = .ok (outcome, used') := hresult
    simp only [Traced.andThen_ok]
    set shown := truncateMarked outcome.modelPayload.toText toolResultLimit
    obtain ⟨hno', p', hp', ⟨results, hmessages, hanswers⟩, hused', hle'⟩ :=
      ih ⟨p.messages ++ [.toolResult call.id shown], used',
        p.records ++ [callRecord call outcome shown]⟩ hle s'
    refine ⟨Outcome.forall_after hno hno', p', hp',
      ⟨.toolResult call.id shown :: results, ?_, .cons rfl hanswers⟩, ?_, hle'⟩
    · rw [hmessages, List.append_assoc, List.singleton_append]
    · rw [hused', husage, Outcome.after_trace, hostCalls_append, Nat.add_assoc]

structure Bounded {α : Type} (chatsLeft callsLeft : ℕ)
    (o : Outcome σ ToolEvent StepExecutionError α) : Prop where
  chats_le : chats o.trace ≤ chatsLeft
  hostCalls_le : hostCalls o.trace ≤ callsLeft
  transcripts : ∀ x ∈ o.trace, x.ShowsTranscript

lemma chats_eq_zero {t : List ToolEvent} (h : ∀ x ∈ t, x.isChat = false) : chats t = 0 := by
  rw [chats, List.countP_eq_zero]
  intro x hx
  simp [h x hx]

lemma showsTranscript_of_not_isChat {t : List ToolEvent} (h : ∀ x ∈ t, x.isChat = false) :
    ∀ x ∈ t, x.ShowsTranscript := by
  intro x hx
  cases x with
  | chat _ _ => exact absurd (h _ hx) (by simp [ToolEvent.isChat])
  | hostCall _ _ _ => trivial

lemma Bounded.afterChat {α : Type} {chatsLeft callsLeft : ℕ} {request : ChatRequest}
    {answer : Except LlmError ChatResponse} {o : Outcome σ ToolEvent StepExecutionError α}
    (hr : Transcript request.messages) (ho : Bounded chatsLeft callsLeft o) :
    Bounded (chatsLeft + 1) callsLeft (o.after [.chat request answer]) where
  chats_le := by
    have h := ho.chats_le
    have hone : chats [.chat request answer] = 1 := rfl
    rw [Outcome.after_trace, chats_append, hone]
    omega
  hostCalls_le := by
    rw [Outcome.after_trace, hostCalls_append]
    simpa [hostCalls, ToolEvent.isHostCall] using ho.hostCalls_le
  transcripts := Outcome.forall_after (List.forall_mem_singleton.mpr hr) ho.transcripts

lemma bounded_chat {α : Type} {chatsLeft callsLeft : ℕ} {request : ChatRequest}
    (hr : Transcript request.messages) {next : ChatResponse → ToolRun σ α}
    (hn : ∀ response s, Bounded chatsLeft callsLeft ((next response).run s)) (s : σ) :
    Bounded (chatsLeft + 1) callsLeft ((executor.chat request >>= next).run s) := by
  rcases h : executor.llm.chat request s with ⟨e | response, s'⟩
  · simp only [chat, Traced.run_bind, Traced.run_mapError, Traced.run_ask, h, Except.mapError,
      Traced.andThen_error]
    exact Bounded.afterChat (o := ⟨.error _, s', []⟩) hr ⟨Nat.zero_le _, Nat.zero_le _, by simp⟩
  · simp only [chat, Traced.run_bind, Traced.run_mapError, Traced.run_ask, h, Except.mapError,
      Traced.andThen_ok]
    exact .afterChat hr (hn response s')

lemma bounded_pure {α : Type} {chatsLeft callsLeft : ℕ} (a : α) (s : σ) :
    Bounded chatsLeft callsLeft ((pure a : ToolRun σ α).run s) :=
  ⟨Nat.zero_le _, Nat.zero_le _, by simp⟩

lemma bounded_toolRounds (request : ExecuteStepRequest) (left : ℕ) (p : StepProgress)
    (hm : Transcript p.messages) (hused : p.used ≤ request.maxToolCalls) (s : σ) :
    Bounded (left + 1) (request.maxToolCalls - p.used)
      ((executor.toolRounds request left p).run s) := by
  induction left generalizing p s with
  | zero => exact executor.bounded_chat hm (fun response s' => bounded_pure _ s') s
  | succ left ih =>
    refine executor.bounded_chat hm (fun response s' => ?_) s
    split_ifs with hoffer
    · exact bounded_pure _ s'
    · set asked : StepProgress := { p with
        messages := p.messages ++ [.assistantWithToolCalls response.content response.toolCalls] }
      obtain ⟨hno, p', hp', ⟨results, hmessages, hanswers⟩, husage, hle⟩ :=
        executor.resolveCalls_resolvedAll response.toolCalls asked hused s'
      rw [Traced.run_bind]
      generalize (executor.resolveCalls request.maxToolCalls asked response.toolCalls).run s' = o
        at hno hp' husage ⊢
      rcases o with ⟨r, s'', t⟩
      obtain rfl : r = .ok p' := hp'
      have hm' : Transcript p'.messages := by
        rw [hmessages, List.append_assoc, List.singleton_append]
        exact hm.round response.content hanswers
      have hrest := ih p' hm' hle s''
      refine ⟨?_, ?_, Outcome.forall_after (showsTranscript_of_not_isChat hno) hrest.transcripts⟩
      · rw [Traced.andThen_ok, Outcome.after_trace, chats_append, chats_eq_zero hno, Nat.zero_add]
        exact hrest.chats_le
      · have hcalls := hrest.hostCalls_le
        have husage : p'.used = p.used + hostCalls t := husage
        rw [Traced.andThen_ok, Outcome.after_trace, hostCalls_append]
        omega

def toolLoop (request : ExecuteStepRequest) (roundLimit : ℕ) :
    ℕ → ℕ → StepProgress → ToolRun σ (Option StepExecution)
  | 0, _, _ => pure none
  | fuel + 1, rounds, p => do
    let offerTools := decide (p.used < request.maxToolCalls) && decide (rounds < roundLimit)
    let response ← executor.chat (executor.roundRequest p offerTools)
    if !offerTools || response.toolCalls.isEmpty then
      pure (some ⟨stepBody request p response, p.used⟩)
    else
      let p ← executor.resolveCalls request.maxToolCalls
        { p with
          messages := p.messages ++ [.assistantWithToolCalls response.content response.toolCalls] }
        response.toolCalls
      toolLoop request roundLimit fuel (rounds + 1) p

lemma toolLoop_eq_toolRounds (request : ExecuteStepRequest) (roundLimit fuel rounds : ℕ)
    (p : StepProgress) (hfuel : roundLimit - rounds < fuel) (s : σ) :
    (executor.toolLoop request roundLimit fuel rounds p).run s =
      ((executor.toolRounds request (roundLimit - rounds) p).run s).map some := by
  induction fuel generalizing rounds p s with
  | zero => omega
  | succ fuel ih =>
    by_cases hlimit : rounds < roundLimit
    · obtain ⟨left, hleft⟩ : ∃ left, roundLimit - rounds = left + 1 :=
        ⟨roundLimit - (rounds + 1), by omega⟩
      have hnext : roundLimit - (rounds + 1) = left := by omega
      rw [hleft]
      simp only [toolLoop, toolRounds, hlimit, decide_true, Bool.and_true, Traced.run_bind]
      generalize (executor.chat _).run s = o
      rcases o with ⟨e | response, s', t⟩
      · rfl
      · simp only [Traced.andThen_ok]
        split_ifs with hoffer
        · rfl
        · simp only [Traced.run_bind]
          generalize (executor.resolveCalls _ _ _).run s' = o'
          rcases o' with ⟨e | p', s'', u⟩
          · rfl
          · simp only [Traced.andThen_ok]
            rw [ih (rounds + 1) p' (by omega) s'', hnext]
            rfl
    · have hleft : roundLimit - rounds = 0 := by omega
      rw [hleft]
      simp only [toolLoop, toolRounds, hlimit, decide_false, Bool.and_false, Traced.run_bind]
      generalize (executor.chat _).run s = o
      rcases o with ⟨e | response, s', t⟩ <;> rfl

def roundLimit (request : ExecuteStepRequest) : ℕ :=
  min (request.maxToolCalls + cachedRoundAllowance) usizeMax

def firstProgress (request : ExecuteStepRequest) : StepProgress :=
  ⟨[.system executorSystemPrompt, .user (executorUserPrompt request)], 0, []⟩

theorem tool_loop_bounded (request : ExecuteStepRequest) (s : σ) :
    (∀ fuel, request.maxToolCalls + 4 ≤ fuel →
      (executor.toolLoop request (roundLimit request) fuel 0 (firstProgress request)).run s =
        ((executor.executeStep request).run s).map some) ∧
    chats ((executor.executeStep request).run s).trace ≤ request.maxToolCalls + 4 ∧
    hostCalls ((executor.executeStep request).run s).trace ≤ request.maxToolCalls ∧
    (∀ execution, ((executor.executeStep request).run s).result = .ok execution →
      hostCalls ((executor.executeStep request).run s).trace = execution.toolCallsUsed) ∧
    ∀ sent answer, .chat sent answer ∈ ((executor.executeStep request).run s).trace →
      Transcript sent.messages := by
  have hlimit : roundLimit request ≤ request.maxToolCalls + 3 := min_le_left _ _
  have hb : Bounded (roundLimit request + 1) request.maxToolCalls
      ((executor.executeStep request).run s) :=
    executor.bounded_toolRounds request (roundLimit request) (firstProgress request)
      (by simp [firstProgress, Transcript]) (Nat.zero_le _) s
  refine ⟨fun fuel hfuel => ?_, ?_, hb.hostCalls_le, fun execution he => ?_, fun sent answer hx => ?_⟩
  · exact executor.toolLoop_eq_toolRounds request (roundLimit request) fuel 0 _ (by omega) s
  · have := hb.chats_le
    omega
  · exact (executor.executeStep_accounts request s he).1.symm
  · exact hb.transcripts _ hx

end LlmToolStepExecutor

end GreenticDw

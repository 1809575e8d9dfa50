import GreenticDw.Runtime.CoordinatorFlow

namespace GreenticDw

open Text

variable {σ : Type}

def FlowCall.started : FlowCall → Option SubtaskEnvelope
  | .startSubtask request _ => some request.envelope
  | _ => none

def FlowCall.heard (observer : ℕ) : FlowCall → Option RuntimeEvent
  | .runtime (.onOperation i event) => if i = observer then some event else none
  | _ => none

def FlowCall.received : FlowCall → Option (WorkerToolInvocation × SubtaskResultEnvelope)
  | .workerToolResult invocation (.ok result) => some (invocation, result)
  | _ => none

namespace AgenticRuntime

variable (rt : AgenticRuntime σ) (request : RunAgenticCoordinatorRequest)

def announcement (event : RuntimeEvent) : List FlowCall :=
  (List.range rt.packs.observerSubs.length).map fun i => .runtime (.onOperation i event)

def handoffStarted (invocation : WorkerToolInvocation) : RuntimeEvent :=
  observerEvent request.runId invocation.envelope.sourceAgentId eventAgenticWorkerToolHandoffStarted

def resultReceived (result : SubtaskResultEnvelope) : RuntimeEvent :=
  observerEvent request.runId result.sourceAgentId eventAgenticWorkerToolResultReceived

def exchange (invocation : WorkerToolInvocation) (result : SubtaskResultEnvelope) :
    List FlowCall :=
  .startSubtask ⟨invocation.envelope⟩ (.ok invocation.handle) ::
    (rt.announcement (handoffStarted request invocation) ++
      .workerToolResult invocation (.ok result) :: rt.announcement (resultReceived request result))

section

variable (event : RuntimeEvent) (observer : ℕ)

@[simp] lemma started_announcement : (rt.announcement event).filterMap FlowCall.started = [] := by
  simp [announcement, FlowCall.started, List.filterMap_eq_nil_iff]

@[simp] lemma received_announcement : (rt.announcement event).filterMap FlowCall.received = [] := by
  simp [announcement, FlowCall.received, List.filterMap_eq_nil_iff]

lemma heard_announcement (h : observer < rt.packs.observerSubs.length) :
    (rt.announcement event).filterMap (FlowCall.heard observer) = [event] := by
  have hrange : ∀ n, observer < n →
      (List.range n).filterMap (fun i => if i = observer then some event else none) = [event] := by
    intro n hn
    induction n with
    | zero => omega
    | succ n ih =>
      rw [List.range_succ, List.filterMap_append]
      by_cases hlast : n = observer
      · subst hlast
        have hnone : (List.range n).filterMap (fun i => if i = n then some event else none) = [] := by
          rw [List.filterMap_eq_nil_iff]
          intro i hi
          have := List.mem_range.mp hi
          exact if_neg (by omega)
        simp [hnone]
      · rw [ih (by omega)]
        simp [hlast]
  rw [announcement, List.filterMap_map]
  exact hrange _ h

end

lemma run_emitObserverEvent (runId workerId eventName : String) (w : World σ) :
    ∃ s, (rt.emitObserverEvent runId workerId eventName).run w =
      ⟨.ok (), w.withEnv s, rt.announcement (observerEvent runId workerId eventName)⟩ := by
  obtain ⟨s, h⟩ := @PackIntegration.run_notifyObservers _ AgenticRuntimeError
    (observerEvent runId workerId eventName) rt.packs w.env w.envelope
  refine ⟨s, ?_⟩
  rw [emitObserverEvent, Traced.run_relabel]
  have hw : w = ⟨w.env, w.envelope⟩ := rfl
  rw [hw, h, List.map_map]
  rfl

structure Answers (index : ℕ) (call : CoordinatorWorkerToolCall)
    (pair : WorkerToolInvocation × SubtaskResultEnvelope) : Prop where
  handoff : rt.handoffEnvelope (request.invocation index call) = .ok pair.1.envelope
  valid : validateWorkerToolResult pair.1.envelope pair.2 = .ok ()

variable (delegator : DelegationProvider σ) (workerToolResults : WorkerToolResultProvider σ)

inductive Stops (index : ℕ) (call : CoordinatorWorkerToolCall) :
    AgenticRuntimeError → List FlowCall → Prop
  | refused {e : AgenticRuntimeError} :
      rt.handoffEnvelope (request.invocation index call) = .error e → Stops index call e []
  | unstarted {envelope : SubtaskEnvelope} {e : DelegationError} {s : σ} :
      rt.handoffEnvelope (request.invocation index call) = .ok envelope →
      (delegator.startSubtask ⟨envelope⟩ s).1 = .error e →
      Stops index call (.delegation e) [.startSubtask ⟨envelope⟩ (.error e)]
  | unanswered {invocation : WorkerToolInvocation} {e : WorkerToolRunError} {s : σ} :
      rt.handoffEnvelope (request.invocation index call) = .ok invocation.envelope →
      (workerToolResults.workerToolResult invocation s).1 = .error e →
      Stops index call (.workerToolRun e)
        (.startSubtask ⟨invocation.envelope⟩ (.ok invocation.handle) ::
          (rt.announcement (handoffStarted request invocation) ++
            [.workerToolResult invocation (.error e)]))
  | rejected {invocation : WorkerToolInvocation} {result : SubtaskResultEnvelope}
      {e : AgenticRuntimeError} {s : σ} :
      rt.handoffEnvelope (request.invocation index call) = .ok invocation.envelope →
      (workerToolResults.workerToolResult invocation s).1 = .ok result →
      validateWorkerToolResult invocation.envelope result = .error e →
      Stops index call e
        (.startSubtask ⟨invocation.envelope⟩ (.ok invocation.handle) ::
          (rt.announcement (handoffStarted request invocation) ++
            [.workerToolResult invocation (.ok result)]))

lemma runToolCall_cases (index : ℕ) (call : CoordinatorWorkerToolCall) (w : World σ) :
    (∃ s pair, (rt.runToolCall request delegator workerToolResults index call).run w =
        ⟨.ok pair, w.withEnv s, rt.exchange request pair.1 pair.2⟩ ∧
      rt.Answers request index call pair) ∨
    (∃ s e t, (rt.runToolCall request delegator workerToolResults index call).run w =
        ⟨.error e, w.withEnv s, t⟩ ∧ rt.Stops request delegator workerToolResults index call e t) := by
  simp only [runToolCall, startWorkerToolHandoff]
  cases hh : rt.handoffEnvelope (request.invocation index call) with
  | error e => exact .inr ⟨w.env, e, [], by simp [World.withEnv], .refused hh⟩
  | ok envelope =>
    rcases hd : delegator.startSubtask ⟨envelope⟩ w.env with ⟨e | handle, s₁⟩
    · exact .inr ⟨s₁, _, _, by simp [hd, Except.mapError]; rfl, .unstarted hh (by rw [hd])⟩
    obtain ⟨s₂, h₂⟩ := rt.run_emitObserverEvent request.runId envelope.sourceAgentId
      eventAgenticWorkerToolHandoffStarted (w.withEnv s₁)
    rcases hw : workerToolResults.workerToolResult ⟨envelope, handle⟩ s₂ with ⟨e | result, s₃⟩
    · have ha : (workerToolResults.workerToolResult ⟨envelope, handle⟩ s₂).1 = .error e := by rw [hw]
      refine .inr ⟨s₃, .workerToolRun e, _, ?_, .unanswered hh ha⟩
      simp [hd, h₂, hw, Except.mapError, handoffStarted]
    cases hv : validateWorkerToolResult envelope result with
    | error e =>
      have ha : (workerToolResults.workerToolResult ⟨envelope, handle⟩ s₂).1 = .ok result := by rw [hw]
      refine .inr ⟨s₃, e, _, ?_, .rejected hh ha hv⟩
      simp [hd, h₂, hw, hv, Except.mapError, handoffStarted]
    | ok _ =>
      obtain ⟨s₄, h₄⟩ := rt.run_emitObserverEvent request.runId result.sourceAgentId
        eventAgenticWorkerToolResultReceived (w.withEnv s₃)
      refine .inl ⟨s₄, (⟨envelope, handle⟩, result), ?_, hh, hv⟩
      simp [hd, h₂, hw, hv, h₄, Except.mapError, exchange, handoffStarted, resultReceived]

inductive AnswersAll : ℕ → List CoordinatorWorkerToolCall →
    List (WorkerToolInvocation × SubtaskResultEnvelope) → Prop
  | nil {index : ℕ} : AnswersAll index [] []
  | cons {index : ℕ} {call : CoordinatorWorkerToolCall} {calls : List CoordinatorWorkerToolCall}
      {pair : WorkerToolInvocation × SubtaskResultEnvelope}
      {pairs : List (WorkerToolInvocation × SubtaskResultEnvelope)} :
      rt.Answers request index call pair → AnswersAll (index + 1) calls pairs →
      AnswersAll index (call :: calls) (pair :: pairs)

def exchanges (pairs : List (WorkerToolInvocation × SubtaskResultEnvelope)) : List FlowCall :=
  pairs.flatMap fun pair => rt.exchange request pair.1 pair.2

lemma runToolCalls_cases (calls : List CoordinatorWorkerToolCall) (index : ℕ) (w : World σ) :
    (∃ s pairs, (rt.runToolCalls request delegator workerToolResults index calls).run w =
        ⟨.ok pairs, w.withEnv s, rt.exchanges request pairs⟩ ∧
      rt.AnswersAll request index calls pairs) ∨
    (∃ s done call rest pairs e t, calls = done ++ call :: rest ∧
      rt.AnswersAll request index done pairs ∧
      rt.Stops request delegator workerToolResults (index + done.length) call e t ∧
      (rt.runToolCalls request delegator workerToolResults index calls).run w =
        ⟨.error e, w.withEnv s, rt.exchanges request pairs ++ t⟩) := by
  induction calls generalizing index w with
  | nil => exact .inl ⟨w.env, [], rfl, .nil⟩
  | cons call calls ih =>
    rw [runToolCalls]
    obtain ⟨s, pair, h, ha⟩ | ⟨s, e, t, h, hs⟩ :=
      rt.runToolCall_cases request delegator workerToolResults index call w
    · obtain ⟨s', pairs, h', ha'⟩ | ⟨s', done, call', rest, pairs, e, t, rfl, ha', hs, h'⟩ :=
        ih (index + 1) (w.withEnv s)
      · refine .inl ⟨s', pair :: pairs, ?_, .cons ha ha'⟩
        simp [h, h', exchanges]
      · refine .inr ⟨s', call :: done, call', rest, pair :: pairs, e, t, rfl, .cons ha ha', ?_, ?_⟩
        · rw [List.length_cons, Nat.add_comm done.length, ← Nat.add_assoc]
          exact hs
        · simp [h, h', exchanges]
    · refine .inr ⟨s, [], call, calls, [], e, t, rfl, .nil, hs, ?_⟩
      simp [h, exchanges]

lemma run_runToolCalls_append (calls later : List CoordinatorWorkerToolCall) (index : ℕ)
    (w : World σ) :
    (rt.runToolCalls request delegator workerToolResults index (calls ++ later)).run w =
      ((rt.runToolCalls request delegator workerToolResults index calls).run w).andThen
        (fun pairs => do
          let pairs' ← rt.runToolCalls request delegator workerToolResults
            (index + calls.length) later
          pure (pairs ++ pairs')) := by
  induction calls generalizing index w with
  | nil =>
    rw [List.nil_append, runToolCalls, Traced.run_pure, Traced.andThen_ok, Traced.run_bind,
      List.length_nil, Nat.add_zero]
    rcases (rt.runToolCalls request delegator workerToolResults index later).run w with
      ⟨e | pairs, w', t⟩ <;> simp
  | cons call calls ih =>
    rw [List.cons_append, runToolCalls, runToolCalls, Traced.run_bind, Traced.run_bind]
    rcases (rt.runToolCall request delegator workerToolResults index call).run w with
      ⟨e | pair, w', t⟩
    · rfl
    · rw [Traced.andThen_ok, Traced.andThen_ok, Traced.run_bind, ih, Traced.run_bind,
        List.length_cons, Nat.add_comm calls.length, ← Nat.add_assoc]
      rcases (rt.runToolCalls request delegator workerToolResults (index + 1) calls).run w' with
        ⟨e | pairs, w'', t'⟩
      · rfl
      · simp only [Traced.andThen_ok, Traced.run_bind, Traced.run_pure, Traced.after_andThen]
        rcases (rt.runToolCalls request delegator workerToolResults (index + 1 + calls.length)
          later).run w'' with ⟨e | pairs', v, u⟩ <;> simp

def coordinatorStarted : RuntimeEvent :=
  observerEvent request.runId request.coordinatorAgentId eventAgenticCoordinatorStarted

def finalResponseCreated : RuntimeEvent :=
  observerEvent request.runId request.finalizerAgentId eventAgenticFinalResponseCreated

def coordinatorCompleted : RuntimeEvent :=
  observerEvent request.runId request.finalizerAgentId eventAgenticCoordinatorCompleted

inductive Flowed (w : World σ) :
    Outcome (World σ) FlowCall AgenticRuntimeError AgenticCoordinatorRun → Prop
  | refused {e : AgenticRuntimeError} :
      checkRequest request = .error e → Flowed w ⟨.error e, w, []⟩
  | stopped {s : σ} {done rest : List CoordinatorWorkerToolCall} {call : CoordinatorWorkerToolCall}
      {pairs : List (WorkerToolInvocation × SubtaskResultEnvelope)} {e : AgenticRuntimeError}
      {t : List FlowCall} :
      checkRequest request = .ok () → request.toolCalls = done ++ call :: rest →
      rt.AnswersAll request 0 done pairs → rt.Stops request delegator workerToolResults done.length call e t →
      Flowed w ⟨.error e, w.withEnv s, rt.announcement (coordinatorStarted request) ++
        (rt.exchanges request pairs ++ t)⟩
  | uncomposed {s : σ} {pairs : List (WorkerToolInvocation × SubtaskResultEnvelope)}
      {e : AgenticRuntimeError} :
      checkRequest request = .ok () → rt.AnswersAll request 0 request.toolCalls pairs →
      rt.composeFinalResponse (finalResponseRequest request pairs) = .error e →
      Flowed w ⟨.error e, w.withEnv s, rt.announcement (coordinatorStarted request) ++
        rt.exchanges request pairs⟩
  | completed {s : σ} {pairs : List (WorkerToolInvocation × SubtaskResultEnvelope)}
      {finalResponse : AgenticFinalResponse} :
      checkRequest request = .ok () → rt.AnswersAll request 0 request.toolCalls pairs →
      rt.composeFinalResponse (finalResponseRequest request pairs) = .ok finalResponse →
      Flowed w ⟨.ok ⟨pairs.map Prod.fst, pairs.map Prod.snd, finalResponse⟩, w.withEnv s,
        rt.announcement (coordinatorStarted request) ++ (rt.exchanges request pairs ++
          (rt.announcement (finalResponseCreated request) ++
            rt.announcement (coordinatorCompleted request)))⟩

theorem runAgenticCoordinatorFlow_cases (w : World σ) :
    rt.Flowed request delegator workerToolResults w
      ((rt.runAgenticCoordinatorFlow request delegator workerToolResults).run w) := by
  rw [runAgenticCoordinatorFlow]
  cases hc : checkRequest request with
  | error e => simpa [hc] using Flowed.refused hc
  | ok _ =>
    obtain ⟨s₁, h₁⟩ := rt.run_emitObserverEvent request.runId request.coordinatorAgentId
      eventAgenticCoordinatorStarted w
    obtain ⟨s₂, pairs, h₂, ha⟩ | ⟨s₂, done, call, rest, pairs, e, t, hcalls, ha, hs, h₂⟩ :=
      rt.runToolCalls_cases request delegator workerToolResults request.toolCalls 0 (w.withEnv s₁)
    · cases hf : rt.composeFinalResponse (finalResponseRequest request pairs) with
      | error e =>
        simpa [hc, h₁, h₂, hf, coordinatorStarted] using Flowed.uncomposed (s := s₂) hc ha hf
      | ok finalResponse =>
        obtain ⟨s₃, h₃⟩ := rt.run_emitObserverEvent request.runId request.finalizerAgentId
          eventAgenticFinalResponseCreated (w.withEnv s₂)
        obtain ⟨s₄, h₄⟩ := rt.run_emitObserverEvent request.runId request.finalizerAgentId
          eventAgenticCoordinatorCompleted (w.withEnv s₃)
        simpa [hc, h₁, h₂, h₃, h₄, hf, coordinatorStarted, finalResponseCreated,
          coordinatorCompleted] using Flowed.completed (s := s₄) hc ha hf
    · rw [Nat.zero_add] at hs
      simpa [hc, h₁, h₂, coordinatorStarted] using Flowed.stopped (s := s₂) hc hcalls ha hs

variable {rt request delegator workerToolResults} in
lemma exists_of_flow_ok {w : World σ} {run : AgenticCoordinatorRun}
    (h : ((rt.runAgenticCoordinatorFlow request delegator workerToolResults).run w).result =
      .ok run) :
    ∃ pairs finalResponse, rt.AnswersAll request 0 request.toolCalls pairs ∧
      rt.composeFinalResponse (finalResponseRequest request pairs) = .ok finalResponse ∧
      run = ⟨pairs.map Prod.fst, pairs.map Prod.snd, finalResponse⟩ := by
  have hcases := rt.runAgenticCoordinatorFlow_cases request delegator workerToolResults w
  generalize (rt.runAgenticCoordinatorFlow request delegator workerToolResults).run w = o at h hcases
  cases hcases with
  | refused _ => cases h
  | stopped _ _ _ _ => cases h
  | uncomposed _ _ _ => cases h
  | completed _ ha hf =>
    cases h
    exact ⟨_, _, ha, hf, rfl⟩

def targetOf (toolId : String) : String :=
  ((rt.callableWorkerRegistry.bind fun registry => registry.toolsById.lookup toolId).map
    (·.targetAgentId)).getD ""

def callEvents (call : CoordinatorWorkerToolCall) : List RuntimeEvent :=
  [observerEvent request.runId request.coordinatorAgentId eventAgenticWorkerToolHandoffStarted,
    observerEvent request.runId (rt.targetOf call.toolId) eventAgenticWorkerToolResultReceived]

def flowEvents : List RuntimeEvent :=
  coordinatorStarted request :: (request.toolCalls.flatMap (rt.callEvents request) ++
    [finalResponseCreated request, coordinatorCompleted request])

section

variable {rt request delegator workerToolResults} {index observer : ℕ} {call : CoordinatorWorkerToolCall}
  {calls : List CoordinatorWorkerToolCall} {pair : WorkerToolInvocation × SubtaskResultEnvelope}
  {pairs : List (WorkerToolInvocation × SubtaskResultEnvelope)} {e : AgenticRuntimeError}
  {t : List FlowCall}

lemma started_exchange : (rt.exchange request pair.1 pair.2).filterMap FlowCall.started =
    [pair.1.envelope] := by
  have hstart : FlowCall.started (.startSubtask ⟨pair.1.envelope⟩ (.ok pair.1.handle)) =
      some pair.1.envelope := rfl
  rw [exchange, List.filterMap_cons_some hstart, List.filterMap_append, started_announcement,
    List.filterMap_cons_none rfl, started_announcement]
  rfl

lemma received_exchange :
    (rt.exchange request pair.1 pair.2).filterMap FlowCall.received = [pair] := by
  have hresult : FlowCall.received (.workerToolResult pair.1 (.ok pair.2)) = some pair := rfl
  rw [exchange, List.filterMap_cons_none rfl, List.filterMap_append, received_announcement,
    List.filterMap_cons_some hresult, received_announcement]
  rfl

lemma started_exchanges :
    (rt.exchanges request pairs).filterMap FlowCall.started = pairs.map (·.1.envelope) := by
  rw [exchanges, List.filterMap_flatMap]
  simp only [started_exchange]
  exact List.flatMap_pure_eq_map _ _

lemma received_exchanges : (rt.exchanges request pairs).filterMap FlowCall.received = pairs := by
  rw [exchanges, List.filterMap_flatMap]
  simp only [received_exchange]
  exact List.flatMap_singleton' _

lemma sourceAgent_of_handoff {envelope : SubtaskEnvelope}
    (h : rt.handoffEnvelope (request.invocation index call) = .ok envelope) :
    envelope.sourceAgentId = request.coordinatorAgentId := by
  obtain ⟨_, _, _, _, rfl, _⟩ := handoffEnvelope_eq_ok.mp h
  rfl

lemma targetAgent_of_handoff {envelope : SubtaskEnvelope}
    (h : rt.handoffEnvelope (request.invocation index call) = .ok envelope) :
    envelope.targetAgent = rt.targetOf call.toolId := by
  obtain ⟨registry, tool, hr, ht, rfl, _⟩ := handoffEnvelope_eq_ok.mp h
  have hl : registry.toolsById.lookup call.toolId = some tool := ht
  rw [targetOf, hr, Option.bind_some, hl]
  rfl

lemma Answers.heard (h : rt.Answers request index call pair)
    (ho : observer < rt.packs.observerSubs.length) :
    (rt.exchange request pair.1 pair.2).filterMap (FlowCall.heard observer) =
      rt.callEvents request call := by
  obtain ⟨_, _, _, hsource, _⟩ := validateWorkerToolResult_eq_ok.mp h.valid
  rw [exchange, List.filterMap_cons_none rfl, List.filterMap_append, List.filterMap_cons_none rfl,
    rt.heard_announcement _ _ ho, rt.heard_announcement _ _ ho, handoffStarted, resultReceived,
    sourceAgent_of_handoff h.handoff, hsource, targetAgent_of_handoff h.handoff]
  rfl

lemma AnswersAll.heard (h : rt.AnswersAll request index calls pairs)
    (ho : observer < rt.packs.observerSubs.length) :
    (rt.exchanges request pairs).filterMap (FlowCall.heard observer) =
      calls.flatMap (rt.callEvents request) := by
  induction h with
  | nil => rfl
  | cons ha _ ih =>
    rw [exchanges, List.flatMap_cons, List.filterMap_append, ha.heard ho, List.flatMap_cons]
    rw [exchanges] at ih
    rw [ih]

lemma Stops.heard_prefix (h : rt.Stops request delegator workerToolResults index call e t)
    (ho : observer < rt.packs.observerSubs.length) :
    t.filterMap (FlowCall.heard observer) <+: rt.callEvents request call := by
  have honly : ∀ {invocation answer},
      rt.handoffEnvelope (request.invocation index call) = .ok invocation.envelope →
      (.startSubtask ⟨invocation.envelope⟩ (.ok invocation.handle) ::
        (rt.announcement (handoffStarted request invocation) ++
          [.workerToolResult invocation answer])).filterMap (FlowCall.heard observer) <+:
        rt.callEvents request call := by
    intro invocation answer hh
    rw [List.filterMap_cons_none rfl, List.filterMap_append, rt.heard_announcement _ _ ho,
      handoffStarted, sourceAgent_of_handoff hh]
    exact ⟨_, rfl⟩
  cases h with
  | refused _ => exact List.nil_prefix
  | unstarted _ _ => exact List.nil_prefix
  | unanswered hh _ => exact honly hh
  | rejected hh _ _ => exact honly hh

lemma Stops.started (h : rt.Stops request delegator workerToolResults index call e t) :
    t.filterMap FlowCall.started = [] ∨ ∃ envelope, t.filterMap FlowCall.started = [envelope] ∧
      rt.handoffEnvelope (request.invocation index call) = .ok envelope := by
  cases h with
  | refused _ => exact .inl rfl
  | unstarted hh _ => exact .inr ⟨_, rfl, hh⟩
  | unanswered hh _ => exact .inr ⟨_, by simp [FlowCall.started], hh⟩
  | rejected hh _ _ => exact .inr ⟨_, by simp [FlowCall.started], hh⟩

lemma AnswersAll.handoff_getElem (h : rt.AnswersAll request index calls pairs) {j : ℕ}
    (hj : pairs[j]? = some pair) :
    ∃ call, calls[j]? = some call ∧ rt.Answers request (index + j) call pair := by
  induction h generalizing j with
  | nil => simp at hj
  | @cons index call calls first pairs ha _ ih =>
    cases j with
    | zero =>
      obtain rfl : first = pair := by simpa using hj
      exact ⟨call, rfl, ha⟩
    | succ j =>
      obtain ⟨call', hc, ha'⟩ := ih (by simpa using hj)
      refine ⟨call', by simpa using hc, ?_⟩
      rwa [← Nat.add_assoc, Nat.add_right_comm]

lemma AnswersAll.length_eq (h : rt.AnswersAll request index calls pairs) :
    pairs.length = calls.length := by
  induction h with
  | nil => rfl
  | cons _ _ ih => rw [List.length_cons, List.length_cons, ih]

end

end AgenticRuntime

end GreenticDw

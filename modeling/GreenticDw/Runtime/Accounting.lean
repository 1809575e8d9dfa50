import GreenticDw.Runtime.Cooperation

/-! The coordinator flow accounts for every call: what the delegator is asked, what the observers
hear and what the final response names follow the order of the calls. -/

namespace GreenticDw

namespace AgenticRuntime

variable {σ : Type} (rt : AgenticRuntime σ) (request : RunAgenticCoordinatorRequest)
  (delegator : DelegationProvider σ) (workerToolResults : WorkerToolResultProvider σ)

/-- The flow ends at the call in this position, the calls before it having gone through. -/
def StopsAt (w : World σ) (k : ℕ) : Prop :=
  ∃ call pairs w' t e, request.toolCalls[k]? = some call ∧
    (rt.runToolCalls request delegator workerToolResults 0 (request.toolCalls.take k)).run
      ((rt.emitObserverEvent request.runId request.coordinatorAgentId
        eventAgenticCoordinatorStarted).run w).world = ⟨.ok pairs, w', t⟩ ∧
    ((rt.runToolCall request delegator workerToolResults k call).run w').result = .error e

structure Accounted (run : AgenticCoordinatorRun) (t : List FlowCall) : Prop where
  handoffs : List.Forall₂ (fun (place : CoordinatorWorkerToolCall × ℕ) invocation =>
    rt.handoffEnvelope (request.invocation place.2 place.1) = .ok invocation.envelope)
    request.toolCalls.zipIdx run.invocations
  started : t.filterMap FlowCall.started = run.invocations.map (·.envelope)
  permitted : ∀ invocation ∈ run.invocations, ∃ registry tool,
    rt.callableWorkerRegistry = some registry ∧
      registry.validateHandoff invocation.envelope = .ok tool
  received : t.filterMap FlowCall.received = run.invocations.zip run.workerResults
  valid : List.Forall₂ (fun invocation result =>
    validateWorkerToolResult invocation.envelope result = .ok ()) run.invocations run.workerResults
  sources : run.finalResponse.sources = run.workerResults.map (·.source)
  distinct : (run.finalResponse.sources.map (·.subtaskId)).Nodup
  events : ∀ i < rt.packs.observerSubs.length,
    t.filterMap (FlowCall.heard i) = rt.flowEvents request

section

variable {rt request delegator workerToolResults} {w : World σ}
  {o : Outcome (World σ) FlowCall AgenticRuntimeError AgenticCoordinatorRun}

lemma AnswersAll.forall₂ {index : ℕ} {calls : List CoordinatorWorkerToolCall}
    {pairs : List (WorkerToolInvocation × SubtaskResultEnvelope)}
    (h : rt.AnswersAll request index calls pairs) :
    List.Forall₂ (fun (place : CoordinatorWorkerToolCall × ℕ) invocation =>
      rt.handoffEnvelope (request.invocation place.2 place.1) = .ok invocation.envelope)
      (calls.zipIdx index) (pairs.map Prod.fst) ∧
    List.Forall₂ (fun invocation result =>
      validateWorkerToolResult invocation.envelope result = .ok ())
      (pairs.map Prod.fst) (pairs.map Prod.snd) := by
  induction h with
  | nil => exact ⟨.nil, .nil⟩
  | cons ha _ ih => exact ⟨.cons ha.handoff ih.1, .cons ha.valid ih.2⟩

lemma AnswersAll.accounted {pairs : List (WorkerToolInvocation × SubtaskResultEnvelope)}
    {finalResponse : AgenticFinalResponse} (h : rt.AnswersAll request 0 request.toolCalls pairs)
    (hf : rt.composeFinalResponse (finalResponseRequest request pairs) = .ok finalResponse) :
    rt.Accounted request ⟨pairs.map Prod.fst, pairs.map Prod.snd, finalResponse⟩
      (rt.announcement (coordinatorStarted request) ++ (rt.exchanges request pairs ++
        (rt.announcement (finalResponseCreated request) ++
          rt.announcement (coordinatorCompleted request)))) := by
  obtain ⟨_, _, _, hall, hnodup, rfl⟩ := composeFinalResponse_eq_ok.mp hf
  refine ⟨h.forall₂.1, ?_, ?_, ?_, h.forall₂.2, ?_, ?_, ?_⟩
  · simp [started_exchanges, Function.comp_def]
  · intro invocation hm
    obtain ⟨pair, hp, rfl⟩ := List.mem_map.mp hm
    have hm' := List.mem_map_of_mem (f := fun pair => (pair.1.envelope, pair.2)) hp
    exact validateWorkerToolHandoff_eq_ok.mp (hall _ hm').1
  · simpa [received_exchanges] using List.zip_of_prod rfl rfl
  · simp [finalResponseRequest, Function.comp_def]
  · simpa [finalResponseRequest, SubtaskResultEnvelope.source, Function.comp_def] using hnodup
  · intro i hi
    simp only [List.filterMap_append, rt.heard_announcement _ _ hi, h.heard hi]
    rfl

lemma Flowed.handoff_getElem (h : rt.Flowed request delegator workerToolResults w o) {j : ℕ} {envelope : SubtaskEnvelope}
    (hj : (o.trace.filterMap FlowCall.started)[j]? = some envelope) :
    ∃ call, request.toolCalls[j]? = some call ∧
      rt.handoffEnvelope (request.invocation j call) = .ok envelope := by
  have hanswered : ∀ {calls pairs}, rt.AnswersAll request 0 calls pairs →
      (pairs.map (·.1.envelope))[j]? = some envelope → ∃ call, calls[j]? = some call ∧
        rt.handoffEnvelope (request.invocation j call) = .ok envelope := by
    intro calls pairs ha hj
    rw [List.getElem?_map, Option.map_eq_some_iff] at hj
    obtain ⟨pair, hp, rfl⟩ := hj
    obtain ⟨call, hc, hcall⟩ := ha.handoff_getElem hp
    rw [Nat.zero_add] at hcall
    exact ⟨call, hc, hcall.handoff⟩
  cases h with
  | refused _ => simp at hj
  | @stopped s done rest call pairs e t _ hcalls ha hs =>
    simp only [List.filterMap_append, started_announcement, List.nil_append, started_exchanges]
      at hj
    by_cases hlt : j < pairs.length
    · rw [List.getElem?_append_left (by simpa using hlt)] at hj
      obtain ⟨call', hc, hcall⟩ := hanswered ha hj
      refine ⟨call', ?_, hcall⟩
      rw [hcalls, List.getElem?_append_left (ha.length_eq ▸ hlt)]
      exact hc
    · rw [List.getElem?_append_right (by simpa using hlt), List.length_map] at hj
      obtain hnone | ⟨started, hone, hh⟩ := hs.started
      · simp [hnone] at hj
      · have hj0 : j - pairs.length = 0 := by
          by_contra hne
          have hout : [started].length ≤ j - pairs.length := by
            rw [List.length_singleton]
            omega
          rw [hone, List.getElem?_eq_none hout] at hj
          cases hj
        rw [hone, hj0] at hj
        cases hj
        have hj : j = done.length := by
          have := ha.length_eq
          omega
        subst hj
        exact ⟨call, by simp [hcalls], hh⟩
  | uncomposed _ ha _ => exact hanswered ha (by simpa [started_exchanges] using hj)
  | completed _ ha _ => exact hanswered ha (by simpa [started_exchanges] using hj)

lemma Flowed.heard_prefix (h : rt.Flowed request delegator workerToolResults w o) {i : ℕ} (hi : i < rt.packs.observerSubs.length) :
    o.trace.filterMap (FlowCall.heard i) <+: rt.flowEvents request := by
  rw [flowEvents]
  cases h with
  | refused _ => exact List.nil_prefix
  | stopped _ hcalls ha hs =>
    simp only [List.filterMap_append, rt.heard_announcement _ _ hi, ha.heard hi, hcalls,
      List.flatMap_append, List.flatMap_cons, List.singleton_append, List.append_assoc]
    refine (List.prefix_cons_inj _).mpr ((List.prefix_append_right_inj _).mpr ?_)
    exact (hs.heard_prefix hi).trans (List.prefix_append _ _)
  | uncomposed _ ha _ =>
    simp only [List.filterMap_append, rt.heard_announcement _ _ hi, ha.heard hi,
      List.singleton_append]
    exact (List.prefix_cons_inj _).mpr (List.prefix_append _ _)
  | completed _ ha _ =>
    simp only [List.filterMap_append, rt.heard_announcement _ _ hi, ha.heard hi,
      List.singleton_append]
    exact List.prefix_rfl

lemma StopsAt.started_le {k : ℕ} (h : rt.StopsAt request delegator workerToolResults w k) :
    (((rt.runAgenticCoordinatorFlow request delegator workerToolResults).run w).trace.filterMap
      FlowCall.started).length ≤ k + 1 := by
  obtain ⟨call, pairs, w', t, e, hcall, hdone, hstop⟩ := h
  obtain ⟨hk, rfl⟩ := List.getElem?_eq_some_iff.mp hcall
  have hlength : (request.toolCalls.take k).length = k := by
    rw [List.length_take]
    omega
  rw [runAgenticCoordinatorFlow]
  cases hc : checkRequest request with
  | error e => simp
  | ok _ =>
    obtain ⟨s, hs⟩ := rt.run_emitObserverEvent request.runId request.coordinatorAgentId
      eventAgenticCoordinatorStarted w
    rw [hs] at hdone
    have hrun : (rt.runToolCalls request delegator workerToolResults 0 request.toolCalls).run
        (w.withEnv s) = ⟨.error e, ((rt.runToolCall request delegator workerToolResults k
          request.toolCalls[k]).run w').world, t ++ ((rt.runToolCall request delegator
          workerToolResults k request.toolCalls[k]).run w').trace⟩ := by
      conv_lhs => rw [← List.take_append_drop k request.toolCalls]
      rw [run_runToolCalls_append, hdone, Traced.andThen_ok, hlength, Nat.zero_add,
        List.drop_eq_getElem_cons hk, runToolCalls]
      rcases hr : (rt.runToolCall request delegator workerToolResults k
        request.toolCalls[k]).run w' with ⟨e' | pair, w'', u⟩
      · rw [hr] at hstop
        cases hstop
        simp [hr]
      · rw [hr] at hstop
        cases hstop
    have ht : t.filterMap FlowCall.started = pairs.map (·.1.envelope) ∧ pairs.length = k := by
      obtain ⟨s', pairs', h', ha⟩ | ⟨s', _, _, _, _, _, _, _, _, _, h'⟩ :=
        rt.runToolCalls_cases request delegator workerToolResults (request.toolCalls.take k) 0
          (w.withEnv s)
      · rw [h'] at hdone
        cases hdone
        exact ⟨started_exchanges, by rw [ha.length_eq, hlength]⟩
      · rw [h'] at hdone
        cases hdone
    have hu : (((rt.runToolCall request delegator workerToolResults k
        request.toolCalls[k]).run w').trace.filterMap FlowCall.started).length ≤ 1 := by
      obtain ⟨s', pair, h', _⟩ | ⟨s', e', u, h', hu⟩ :=
        rt.runToolCall_cases request delegator workerToolResults k request.toolCalls[k] w'
      · simp [h', started_exchange]
      · obtain hnone | ⟨envelope, hone, _⟩ := hu.started
        · simp [h', hnone]
        · simp [h', hone]
    simp only [Traced.run_bind, Traced.run_ofExcept, Traced.andThen_ok, hs, hrun,
      Traced.andThen_error, Outcome.after_mk, List.filterMap_append, started_announcement,
      List.nil_append, ht.1, List.length_append, List.length_map, ht.2]
    omega

end

def tripAstray : RunAgenticCoordinatorRequest :=
  trip "done" [ask "traffic" "to work", ask "tides" "today", ask "weather" "today"]

end AgenticRuntime

end GreenticDw

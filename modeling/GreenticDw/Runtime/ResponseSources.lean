import GreenticDw.Runtime.Cooperation

namespace GreenticDw

structure AgenticFinalResponseSource.Cites (source : AgenticFinalResponseSource)
    (handoff : SubtaskEnvelope) : Prop where
  toolId : source.toolId = handoff.toolId
  subtaskId : source.subtaskId = handoff.subtaskId

namespace AgenticRuntime

variable {σ : Type} {rt : AgenticRuntime σ} {request : RunAgenticCoordinatorRequest}

/-- A source is taken from a result that answers a handoff the registry permits. -/
structure Sourced (rt : AgenticRuntime σ) (pair : SubtaskEnvelope × SubtaskResultEnvelope)
    (source : AgenticFinalResponseSource) : Prop where
  permitted : rt.validateWorkerToolHandoff pair.1 = .ok ()
  answered : validateWorkerToolResult pair.1 pair.2 = .ok ()
  cites : source.Cites pair.1
  outputArtifactRef : source.outputArtifactRef = pair.2.outputArtifactRef

lemma cites_of_valid {handoff : SubtaskEnvelope} {result : SubtaskResultEnvelope}
    (h : validateWorkerToolResult handoff result = .ok ()) : result.source.Cites handoff := by
  obtain ⟨_, hsubtask, _, _, _, htool, _⟩ := validateWorkerToolResult_eq_ok.mp h
  exact ⟨htool, hsubtask⟩

lemma compose_sourced {final : ComposeFinalResponseRequest} {response : AgenticFinalResponse}
    (h : rt.composeFinalResponse final = .ok response) :
    response.runId = final.runId ∧ List.Forall₂ rt.Sourced final.workerResults response.sources := by
  obtain ⟨_, _, _, hpairs, _, rfl⟩ := composeFinalResponse_eq_ok.mp h
  refine ⟨rfl, ?_⟩
  rw [List.forall₂_map_right_iff, List.forall₂_same]
  intro pair hpair
  obtain ⟨hpermitted, hanswered⟩ := hpairs pair hpair
  exact ⟨hpermitted, hanswered, cites_of_valid hanswered, rfl⟩

lemma Answers.parentRunId {index : ℕ} {call : CoordinatorWorkerToolCall}
    {pair : WorkerToolInvocation × SubtaskResultEnvelope} (h : rt.Answers request index call pair) :
    pair.1.envelope.parentRunId = request.runId := by
  obtain ⟨_, _, _, _, he, _⟩ := handoffEnvelope_eq_ok.mp h.handoff
  rw [← he]
  rfl

lemma AnswersAll.parentRunId_of_mem {index : ℕ} {calls : List CoordinatorWorkerToolCall}
    {pairs : List (WorkerToolInvocation × SubtaskResultEnvelope)}
    (h : rt.AnswersAll request index calls pairs) :
    ∀ pair ∈ pairs, pair.1.envelope.parentRunId = request.runId := by
  induction h with
  | nil => simp
  | cons ha _ ih => exact List.forall_mem_cons.mpr ⟨ha.parentRunId, ih⟩

theorem response_cites_handoffs (rt : AgenticRuntime σ) :
    (∀ final response, rt.composeFinalResponse final = .ok response →
      response.runId = final.runId ∧
        List.Forall₂ rt.Sourced final.workerResults response.sources) ∧
    ∀ request delegator workerToolResults w run,
      ((rt.runAgenticCoordinatorFlow request delegator workerToolResults).run w).result = .ok run →
      run.finalResponse.runId = request.runId ∧
        List.Forall₂ (fun invocation source => invocation.envelope.parentRunId = request.runId ∧
          source.Cites invocation.envelope) run.invocations run.finalResponse.sources := by
  refine ⟨fun final response h => compose_sourced h, ?_⟩
  intro request delegator workerToolResults w run h
  obtain ⟨pairs, finalResponse, ha, hf, rfl⟩ := exists_of_flow_ok h
  obtain ⟨_, _, _, _, _, rfl⟩ := composeFinalResponse_eq_ok.mp hf
  refine ⟨rfl, ?_⟩
  rw [finalResponseRequest, List.map_map, List.forall₂_map_left_iff, List.forall₂_map_right_iff,
    List.forall₂_same]
  intro pair hpair
  exact ⟨ha.parentRunId_of_mem pair hpair, cites_of_valid (ha.valid_of_mem pair hpair).2⟩

def earlierPair : SubtaskEnvelope × SubtaskResultEnvelope :=
  let handoff : SubtaskEnvelope :=
    { CallableWorkerRegistry.handoffFor "desk" ⟨"weather", "pilot", "skies", "in", "out"⟩ with
      parentRunId := "earlier" }
  (handoff, echoResult handoff)

lemma compose_earlier : travelDesk.composeFinalResponse ⟨"trip", "desk", "done", [earlierPair]⟩ =
    .ok ⟨"trip", "desk", "done", [earlierPair.2.source]⟩ := by
  decide +kernel

theorem response_cites_handoffs_trip :
    List.Forall₂ travelDesk.Sourced [earlierPair] [earlierPair.2.source] ∧
    ∃ run, ((travelDesk.runAgenticCoordinatorFlow tripBoth (acceptingDelegator Unit)
      (echoingResults Unit)).run deskWorld).result = .ok run ∧
      run.finalResponse.runId = tripBoth.runId ∧
        List.Forall₂ (fun invocation source => invocation.envelope.parentRunId = tripBoth.runId ∧
          source.Cites invocation.envelope) run.invocations run.finalResponse.sources :=
  ⟨((response_cites_handoffs travelDesk).1 _ _ compose_earlier).2,
    _, rfl, (response_cites_handoffs travelDesk).2 tripBoth (acceptingDelegator Unit)
      (echoingResults Unit) deskWorld _ rfl⟩

theorem other_run_cited : ¬∀ (rt : AgenticRuntime Unit) (final : ComposeFinalResponseRequest)
    (response : AgenticFinalResponse), rt.composeFinalResponse final = .ok response →
      ∀ pair ∈ final.workerResults, pair.1.parentRunId = final.runId := by
  intro h
  exact absurd (h _ _ _ compose_earlier earlierPair (List.mem_singleton_self _)) (by decide)

end AgenticRuntime

end GreenticDw

import GreenticDw.Runtime.Cooperation

namespace GreenticDw

open Text

variable {σ : Type}

def RunAgenticCoordinatorRequest.only (request : RunAgenticCoordinatorRequest)
    (call : CoordinatorWorkerToolCall) : RunAgenticCoordinatorRequest :=
  { request with toolCalls := [call] }

namespace AgenticRuntime

variable {rt : AgenticRuntime σ} {request : RunAgenticCoordinatorRequest}

lemma Sound.of_only (hne : request.toolCalls ≠ [])
    (honly : ∀ call ∈ request.toolCalls, rt.Sound (request.only call))
    (hdistinct : (request.toolCalls.map (·.toolId)).Nodup) : rt.Sound request := by
  obtain ⟨call, hm⟩ := List.exists_mem_of_ne_nil _ hne
  have hfirst := honly call hm
  refine ⟨?_, fun call hm => ?_, hfirst.content, hfirst.finalizer, hdistinct⟩
  · have hc := hfirst.checked
    simp only [checkRequest, except_bind_eq_ok, rejectIf_eq_ok] at hc ⊢
    obtain ⟨_, hrun, _, hcoordinator, _⟩ := hc
    exact ⟨(), hrun, (), hcoordinator, hne⟩
  · exact (honly call hm).handoffs call List.mem_cons_self

theorem repeated_tools_iff (rt : AgenticRuntime σ) (request : RunAgenticCoordinatorRequest)
    (delegator : DelegationProvider σ) (workerToolResults : WorkerToolResultProvider σ)
    (w : World σ) (hd : delegator.Accepts) (hw : workerToolResults.Echo)
    (hne : request.toolCalls ≠ [])
    (honly : ∀ call ∈ request.toolCalls, ∃ run,
      ((rt.runAgenticCoordinatorFlow (request.only call) delegator workerToolResults).run w).result =
        .ok run) :
    (∃ run, ((rt.runAgenticCoordinatorFlow request delegator workerToolResults).run w).result =
        .ok run ∧
      run.finalResponse.sources.map (·.toolId) = request.toolCalls.map (·.toolId)) ↔
    (request.toolCalls.map (·.toolId)).Nodup := by
  constructor
  · rintro ⟨run, hrun, _⟩
    exact ((flow_ok_iff hd hw).mp ⟨run, hrun⟩).distinct
  · intro hdistinct
    have hsound := Sound.of_only hne (fun call hm => (flow_ok_iff hd hw).mp (honly call hm)) hdistinct
    obtain ⟨run, hrun⟩ := (flow_ok_iff (w := w) hd hw).mpr hsound
    exact ⟨run, hrun, sources_toolIds hrun⟩

lemma accepted_alone {calls : List CoordinatorWorkerToolCall} {call : CoordinatorWorkerToolCall}
    {envelope : SubtaskEnvelope} (handoff : travelDesk.handoffEnvelope
      (((trip "done" calls).only call).invocation 0 call) = .ok envelope) :
    ∃ run, ((travelDesk.runAgenticCoordinatorFlow ((trip "done" calls).only call)
      (acceptingDelegator Unit) (echoingResults Unit)).run deskWorld).result = .ok run := by
  have htrip : isBlank "trip" = false := by decide
  have hdesk : isBlank "desk" = false := by decide
  have hdone : isBlank "done" = false := by decide
  apply (flow_ok_iff acceptingDelegator_accepts echoingResults_echo).mpr
  refine ⟨?_, ?_, hdone, rfl, List.nodup_singleton _⟩
  · simp only [checkRequest, except_bind_eq_ok, rejectIf_eq_ok]
    refine ⟨(), ?_, (), ?_, List.cons_ne_nil _ _⟩
    · exact Bool.eq_false_iff.mp htrip
    · exact Bool.eq_false_iff.mp hdesk
  · exact List.forall_mem_singleton.mpr ⟨envelope, handoff⟩

theorem repeated_tools_iff_both :
    (∃ run, ((travelDesk.runAgenticCoordinatorFlow tripBoth (acceptingDelegator Unit)
        (echoingResults Unit)).run deskWorld).result = .ok run ∧
      run.finalResponse.sources.map (·.toolId) = tripBoth.toolCalls.map (·.toolId)) ↔
    (tripBoth.toolCalls.map (·.toolId)).Nodup := by
  refine repeated_tools_iff travelDesk tripBoth (acceptingDelegator Unit) (echoingResults Unit)
    deskWorld acceptingDelegator_accepts echoingResults_echo (by decide) ?_
  have hcalls : tripBoth.toolCalls = [ask "traffic" "to work", ask "weather" "today"] := rfl
  rw [hcalls, List.forall_mem_cons, List.forall_mem_singleton]
  exact ⟨accepted_alone rfl, accepted_alone rfl⟩

def tripTwice : RunAgenticCoordinatorRequest :=
  trip "done" [ask "traffic" "to work", ask "traffic" "back home"]

theorem repeated_tool_refused :
    (∀ call ∈ tripTwice.toolCalls, ∃ run,
      ((travelDesk.runAgenticCoordinatorFlow (tripTwice.only call) (acceptingDelegator Unit)
        (echoingResults Unit)).run deskWorld).result = .ok run) ∧
    ((travelDesk.runAgenticCoordinatorFlow tripTwice (acceptingDelegator Unit)
      (echoingResults Unit)).run deskWorld).result =
        .error (.finalResponse (.duplicateSource "trip::traffic")) := by
  have hcalls : tripTwice.toolCalls = [ask "traffic" "to work", ask "traffic" "back home"] := rfl
  refine ⟨?_, rfl⟩
  rw [hcalls, List.forall_mem_cons, List.forall_mem_singleton]
  exact ⟨accepted_alone rfl, accepted_alone rfl⟩

end AgenticRuntime

end GreenticDw

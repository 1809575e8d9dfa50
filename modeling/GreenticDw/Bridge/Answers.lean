import GreenticDw.Bridge.Interleavings
import GreenticDw.Manifest.TaskEnvelopes

namespace GreenticDw

open DeepLoopCoordinator (WorkedOn run_done run_planKept)

section

variable {τ : Type} {invoker : DeepWorkerInvoker τ} {tenant env target operation : String}
  {input : Value} {idempotencyKey : Option String} {host : τ}

namespace DeepWorkerInvoker

theorem invoke_confined (invoker : DeepWorkerInvoker τ) (tenant env target operation : String)
    (input : Value) (idempotencyKey : Option String) (host : τ) :
    ∀ x ∈ loopCalls
      ((invoker.invoke tenant env target operation input idempotencyKey).run host).trace,
      x.Confined (buildEnvelope tenant target (idempotencyKey.getD "task-unknown")) := by
  have hcases := invoker.invoke_cases tenant env target operation input idempotencyKey host
  generalize (invoker.invoke tenant env target operation input idempotencyKey).run host = o at hcases
  cases hcases with
  | refused _ ht => simp [ht]
  | failed _ hl _ =>
    rw [hl.calls, ← hl.task]
    exact DeepLoopCoordinator.run_confined _ _ _
  | answered _ hl _ =>
    rw [hl.calls, ← hl.task]
    exact DeepLoopCoordinator.run_confined _ _ _

def Fulfilled (plan : PlanDocument) (t : List (Call (InvokerEnv τ))) : Prop :=
  ∀ step ∈ plan.steps,
    step.status = .completed ∨ step.status = .skipped ∨ WorkedOn t step.stepId

theorem invoke_fulfilled {out : InvokeOutcome}
    (h : ((invoker.invoke tenant env target operation input idempotencyKey).run host).result =
      .ok out) (hok : out.ok = true) :
    ∃ plan, createdPlans
        ((invoker.invoke tenant env target operation input idempotencyKey).run host).trace =
          [plan] ∧
      Fulfilled plan (loopCalls
        ((invoker.invoke tenant env target operation input idempotencyKey).run host).trace) := by
  obtain ⟨resolved, plan, w, run, hanswered, hstatus⟩ := invoke_answered h
  have hcompleted : run.status = .completed := hstatus.mp hok
  refine ⟨plan, hanswered.createdPlans, fun step hm => ?_⟩
  rw [hanswered.loopCalls]
  have hkept := run_planKept (fun _ _ => rfl) hanswered.ran
  have hdone := run_done (fun _ _ => rfl) hanswered.ran hcompleted
  obtain ⟨step₁, hm₁, hid₁, hst₁⟩ :=
    LlmPlanning.exists_mem_of_forall₂ (guarded_steps resolved plan) hm
  obtain ⟨step₂, hm₂, hadvanced⟩ := LlmPlanning.exists_mem_of_forall₂ hkept.steps hm₁
  obtain hst | ⟨_, hworked⟩ | ⟨_, hready, _⟩ := hadvanced.status
  · rw [← hst₁, ← hst]
    obtain hcompleted | hskipped := hdone step₂ hm₂
    · exact .inl hcompleted
    · exact .inr (.inl hskipped)
  · exact .inr (.inr (hid₁ ▸ hworked))
  · simpa [hready] using hdone step₂ hm₂

end DeepWorkerInvoker

end

namespace OperalaBridge

variable {τ : Type} {bridge : OperalaBridge τ} {msg : Message} {host : τ}

/-- What the bridge does for a message that it answers. -/
structure Served (bridge : OperalaBridge τ) (msg : Message) (req : RuntimeDispatchRequest)
    (response : RuntimeDispatchResponse) (t : List (BridgeEvent τ)) : Prop where
  decoded : bridge.decode msg.payload = .ok req
  calls : ∀ x ∈ bridgeCalls t, x.Confined (buildEnvelope msg.tenant req.target msg.taskId)
  earned : response.ok = true →
    ∃ plan, createdPlans (dispatchEvents t) = [plan] ∧
      DeepWorkerInvoker.Fulfilled plan (bridgeCalls t)

lemma handleMessage_decoded (bridge : OperalaBridge τ) (host : τ) {req : RuntimeDispatchRequest}
    (hd : bridge.decode msg.payload = .ok req) :
    ∃ published, ((bridge.handleMessage msg).run host).trace =
      ((bridge.invoker.invoke msg.tenant msg.env req.target req.operation req.input
        msg.idempotency).run host).trace.map .dispatch ++
      [.published (responseTopic runtimeName) msg.responseHeaders (bridge.responseOf
        ((bridge.invoker.invoke msg.tenant msg.env req.target req.operation req.input
          msg.idempotency).run host).result) published] := by
  simp [handleMessage, buildResponse, hd, Except.mapError]

lemma responseOf_ok {answer : Except InvokeError InvokeOutcome}
    (h : (bridge.responseOf answer).ok = true) : ∃ out, answer = .ok out ∧ out.ok = true := by
  cases answer with
  | error e => cases h
  | ok out => exact ⟨out, rfl, h⟩

theorem response_served {topic : String} {headers : List (String × String)}
    {response : RuntimeDispatchResponse} {answer : Except String Unit}
    (h : .published topic headers response answer ∈ ((bridge.handleMessage msg).run host).trace) :
    topic = responseTopic runtimeName ∧ headers = msg.responseHeaders ∧
      (∃ t : List (DispatchEvent τ), ((bridge.handleMessage msg).run host).trace =
        t.map .dispatch ++ [.published topic headers response answer]) ∧
      ∃ req, bridge.Served msg req response ((bridge.handleMessage msg).run host).trace := by
  cases hd : bridge.decode msg.payload with
  | error e => simp [handleMessage, hd, Except.mapError] at h
  | ok req =>
    obtain ⟨published, htrace⟩ := handleMessage_decoded bridge host hd
    have hcalls : bridgeCalls ((bridge.handleMessage msg).run host).trace = _ :=
      bridgeCalls_decoded bridge hd
    have hplans : createdPlans (dispatchEvents ((bridge.handleMessage msg).run host).trace) =
        createdPlans ((bridge.invoker.invoke msg.tenant msg.env req.target req.operation req.input
          msg.idempotency).run host).trace := by
      rw [htrace, dispatchEvents_append, dispatchEvents_dispatch]
      simp [dispatchEvents]
    have hpublished : topic = responseTopic runtimeName ∧ headers = msg.responseHeaders ∧
        response = bridge.responseOf ((bridge.invoker.invoke msg.tenant msg.env req.target
          req.operation req.input msg.idempotency).run host).result ∧ answer = published := by
      rw [htrace, List.mem_append, List.mem_singleton] at h
      obtain hdispatch | hlast := h
      · simp at hdispatch
      · cases hlast
        exact ⟨rfl, rfl, rfl, rfl⟩
    obtain ⟨rfl, rfl, rfl, rfl⟩ := hpublished
    refine ⟨rfl, rfl, ⟨_, htrace⟩, req, hd, ?_, fun hok => ?_⟩
    · rw [hcalls]
      exact DeepWorkerInvoker.invoke_confined _ _ _ _ _ _ _ _
    · obtain ⟨out, hresult, hout⟩ := responseOf_ok hok
      rw [hplans, hcalls]
      exact DeepWorkerInvoker.invoke_fulfilled hresult hout

end OperalaBridge

namespace Script

def tenanted : Message :=
  { untenanted with
    headers := some [("Greentic-Correlation-Id", "corr-1"), ("Greentic-Tenant", "tenant")] }

def workedReplies : List ChatResponse :=
  toolReplies ++ [⟨acceptText, []⟩, ⟨"[]", []⟩, ⟨acceptText, []⟩, ⟨"Paid.", []⟩]

end Script

theorem response_served_paid : ∃ response,
    response.ok = true ∧ ∃ req, Script.toolBridge.Served Script.tenanted req response
      ((Script.toolBridge.handleMessage Script.tenanted).run Script.workedReplies).trace := by
  have hd : Script.toolBridge.decode Script.tenanted.payload = .ok Script.payloadRequest := if_pos rfl
  obtain ⟨published, htrace⟩ :=
    OperalaBridge.handleMessage_decoded Script.toolBridge Script.workedReplies hd
  have hok : (Script.toolBridge.responseOf ((Script.toolBridge.invoker.invoke
      Script.tenanted.tenant Script.tenanted.env Script.payloadRequest.target
      Script.payloadRequest.operation Script.payloadRequest.input
      Script.tenanted.idempotency).run Script.workedReplies).result).ok = true := by decide +kernel
  refine ⟨_, hok, ?_⟩
  exact (OperalaBridge.response_served (htrace ▸ List.mem_append_right _ List.mem_cons_self)).2.2.2

end GreenticDw

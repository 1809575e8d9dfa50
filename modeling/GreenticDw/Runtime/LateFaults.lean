import GreenticDw.Runtime.Cooperation

namespace GreenticDw

variable {σ : Type}

def FlowCall.Blameless : FlowCall → Prop
  | .runtime _ => True
  | .startSubtask _ answer => ∃ handle, answer = .ok handle
  | .workerToolResult invocation answer => ∃ result, answer = .ok result ∧
      validateWorkerToolResult invocation.envelope result = .ok ()

namespace AgenticRuntime

variable {rt : AgenticRuntime σ} {request : RunAgenticCoordinatorRequest}
  {delegator : DelegationProvider σ} {workerToolResults : WorkerToolResultProvider σ}
  {w : World σ} {o : Outcome (World σ) FlowCall AgenticRuntimeError AgenticCoordinatorRun}

def RefusedFirst (rt : AgenticRuntime σ) (request : RunAgenticCoordinatorRequest) : Prop :=
  (∃ e, checkRequest request = .error e) ∨
    ∃ call e, request.toolCalls.head? = some call ∧
      rt.handoffEnvelope (request.invocation 0 call) = .error e

lemma blameless_announcement (rt : AgenticRuntime σ) (event : RuntimeEvent) :
    ∀ c ∈ rt.announcement event, c.Blameless := by
  intro c hc
  obtain ⟨_, _, rfl⟩ := List.mem_map.mp hc
  trivial

lemma AnswersAll.blameless {index : ℕ} {calls : List CoordinatorWorkerToolCall}
    {pairs : List (WorkerToolInvocation × SubtaskResultEnvelope)}
    (h : rt.AnswersAll request index calls pairs) :
    ∀ c ∈ rt.exchanges request pairs, c.Blameless := by
  intro c hc
  obtain ⟨pair, hp, hc⟩ := List.mem_flatMap.mp hc
  simp only [exchange, List.mem_cons, List.mem_append] at hc
  obtain rfl | hc | rfl | hc := hc
  · exact ⟨_, rfl⟩
  · exact rt.blameless_announcement _ c hc
  · exact ⟨_, rfl, (h.valid_of_mem pair hp).2⟩
  · exact rt.blameless_announcement _ c hc

lemma Stops.refused_of_blameless {index : ℕ} {call : CoordinatorWorkerToolCall}
    {e : AgenticRuntimeError} {t : List FlowCall}
    (h : rt.Stops request delegator workerToolResults index call e t)
    (hb : ∀ c ∈ t, c.Blameless) :
    rt.handoffEnvelope (request.invocation index call) = .error e ∧ t = [] := by
  cases h with
  | refused hh => exact ⟨hh, rfl⟩
  | unstarted _ _ =>
    obtain ⟨_, hok⟩ := hb _ List.mem_cons_self
    cases hok
  | @unanswered invocation e _ _ _ =>
    obtain ⟨_, hok, _⟩ := hb (.workerToolResult invocation (.error e)) (by simp)
    cases hok
  | @rejected invocation result _ _ _ _ hv =>
    obtain ⟨_, hok, hvalid⟩ := hb (.workerToolResult invocation (.ok result)) (by simp)
    cases hok
    rw [hvalid] at hv
    cases hv

lemma AnswersAll.not_refusedFirst {calls rest : List CoordinatorWorkerToolCall}
    {pairs : List (WorkerToolInvocation × SubtaskResultEnvelope)}
    (h : rt.AnswersAll request 0 calls pairs) (hne : calls ≠ [])
    (hcalls : request.toolCalls = calls ++ rest) (hc : checkRequest request = .ok ()) :
    ¬rt.RefusedFirst request := by
  rintro (⟨e, he⟩ | ⟨call, e, hhead, he⟩)
  · rw [hc] at he
    cases he
  · cases h with
    | nil => exact hne rfl
    | cons ha _ =>
      rw [hcalls, List.cons_append, List.head?_cons] at hhead
      cases hhead
      rw [ha.handoff] at he
      cases he

lemma Flowed.unstarted_of_refusedFirst
    (h : rt.Flowed request delegator workerToolResults w o) (hb : ∀ c ∈ o.trace, c.Blameless)
    (hr : rt.RefusedFirst request) : o.trace.filterMap FlowCall.started = [] := by
  cases h with
  | refused _ => rfl
  | @stopped _ done rest call pairs e t hc hcalls ha hs =>
    have hbt : ∀ c ∈ t, c.Blameless := fun c hm =>
      hb c (List.mem_append_right _ (List.mem_append_right _ hm))
    obtain ⟨_, rfl⟩ := hs.refused_of_blameless hbt
    by_cases hdone : done = []
    · subst hdone
      cases ha
      simp [exchanges]
    · exact (ha.not_refusedFirst hdone hcalls hc hr).elim
  | uncomposed hc ha _ =>
    exact (ha.not_refusedFirst (toolCalls_ne_nil hc) (List.append_nil _).symm hc hr).elim
  | completed hc ha _ =>
    exact (ha.not_refusedFirst (toolCalls_ne_nil hc) (List.append_nil _).symm hc hr).elim

lemma Flowed.ok_of_sound (h : rt.Flowed request delegator workerToolResults w o)
    (hb : ∀ c ∈ o.trace, c.Blameless) (hs : rt.Sound request) : ∃ run, o.result = .ok run := by
  cases h with
  | refused hc =>
    rw [hs.checked] at hc
    cases hc
  | @stopped _ done rest call pairs e t _ hcalls _ hstops =>
    have hbt : ∀ c ∈ t, c.Blameless := fun c hm =>
      hb c (List.mem_append_right _ (List.mem_append_right _ hm))
    obtain ⟨envelope, hh⟩ := hs.handoffs call (by simp [hcalls])
    obtain ⟨envelope', hh', _⟩ := handoff_anywhere hh done.length
    rw [(hstops.refused_of_blameless hbt).1] at hh'
    cases hh'
  | uncomposed hc ha hf =>
    obtain ⟨_, hok⟩ := (compose_ok_iff hc ha).mpr hs
    rw [hok] at hf
    cases hf
  | completed _ _ _ => exact ⟨_, rfl⟩

lemma Flowed.started_of_cooperation (hd : delegator.Accepts) (hw : workerToolResults.Echo)
    (h : rt.Flowed request delegator workerToolResults w o) (hr : ¬rt.RefusedFirst request) :
    (∀ c ∈ o.trace, c.Blameless) ∧ o.trace.filterMap FlowCall.started ≠ [] := by
  have hsome : ∀ {index call calls pairs}, rt.AnswersAll request index (call :: calls) pairs →
      (rt.exchanges request pairs).filterMap FlowCall.started ≠ [] := by
    intro index call calls pairs ha
    cases ha with
    | cons _ _ => simp [started_exchanges]
  have hbefore := rt.blameless_announcement (coordinatorStarted request)
  cases h with
  | refused hc => exact (hr (.inl ⟨_, hc⟩)).elim
  | @stopped _ done rest call pairs e t _ hcalls ha hs =>
    obtain ⟨hh, rfl⟩ := hs.refused_of_cooperation hd hw
    cases done with
    | nil => exact (hr (.inr ⟨call, e, by simp [hcalls], hh⟩)).elim
    | cons first done =>
      simp only [List.append_nil, List.forall_mem_append, List.filterMap_append,
        started_announcement, List.nil_append]
      exact ⟨⟨hbefore, ha.blameless⟩, hsome ha⟩
  | uncomposed hc ha _ =>
    obtain ⟨call, calls, hcalls⟩ := List.exists_cons_of_ne_nil (toolCalls_ne_nil hc)
    simp only [List.forall_mem_append, List.filterMap_append, started_announcement, List.nil_append]
    exact ⟨⟨hbefore, ha.blameless⟩, hsome (hcalls ▸ ha)⟩
  | completed hc ha _ =>
    obtain ⟨call, calls, hcalls⟩ := List.exists_cons_of_ne_nil (toolCalls_ne_nil hc)
    simp only [List.forall_mem_append, List.filterMap_append, started_announcement,
      List.nil_append, List.append_nil]
    exact ⟨⟨hbefore, ha.blameless, rt.blameless_announcement _, rt.blameless_announcement _⟩,
      hsome (hcalls ▸ ha)⟩

theorem late_faults_iff (rt : AgenticRuntime σ) (request : RunAgenticCoordinatorRequest)
    (w : World σ) :
    (∀ (delegator : DelegationProvider σ) (workerToolResults : WorkerToolResultProvider σ) e,
      ((rt.runAgenticCoordinatorFlow request delegator workerToolResults).run w).result = .error e →
      (∀ c ∈ ((rt.runAgenticCoordinatorFlow request delegator workerToolResults).run w).trace,
        c.Blameless) →
      ((rt.runAgenticCoordinatorFlow request delegator workerToolResults).run w).trace.filterMap
        FlowCall.started = []) ↔
    rt.Sound request ∨ rt.RefusedFirst request := by
  constructor
  · intro hnone
    by_contra hlate
    rw [not_or] at hlate
    have h := rt.runAgenticCoordinatorFlow_cases request (acceptingDelegator σ) (echoingResults σ) w
    obtain ⟨hb, hstarted⟩ :=
      h.started_of_cooperation acceptingDelegator_accepts echoingResults_echo hlate.2
    cases hrun : ((rt.runAgenticCoordinatorFlow request (acceptingDelegator σ)
      (echoingResults σ)).run w).result with
    | error e => exact hstarted (hnone _ _ e hrun hb)
    | ok run =>
      exact hlate.1
        ((flow_ok_iff acceptingDelegator_accepts echoingResults_echo).mp ⟨run, hrun⟩)
  · intro hearly delegator workerToolResults e he hb
    have h := rt.runAgenticCoordinatorFlow_cases request delegator workerToolResults w
    obtain hsound | hrefused := hearly
    · obtain ⟨run, hrun⟩ := h.ok_of_sound hb hsound
      rw [hrun] at he
      cases he
    · exact h.unstarted_of_refusedFirst hb hrefused

theorem empty_response_late :
    ((travelDesk.runAgenticCoordinatorFlow (trip "" [ask "traffic" "to work"])
      (acceptingDelegator Unit) (echoingResults Unit)).run deskWorld).result =
        .error (.finalResponse .emptyContent) ∧
    (∀ c ∈ ((travelDesk.runAgenticCoordinatorFlow (trip "" [ask "traffic" "to work"])
      (acceptingDelegator Unit) (echoingResults Unit)).run deskWorld).trace, c.Blameless) ∧
    (((travelDesk.runAgenticCoordinatorFlow (trip "" [ask "traffic" "to work"])
      (acceptingDelegator Unit) (echoingResults Unit)).run deskWorld).trace.filterMap
        FlowCall.started).map (·.subtaskId) = ["trip::traffic"] := by
  have h := travelDesk.runAgenticCoordinatorFlow_cases (trip "" [ask "traffic" "to work"])
    (acceptingDelegator Unit) (echoingResults Unit) deskWorld
  have hfirst : ¬travelDesk.RefusedFirst (trip "" [ask "traffic" "to work"]) := by
    rintro (⟨e, he⟩ | ⟨call, e, hhead, he⟩)
    · cases he
    · cases hhead
      cases he
  exact ⟨rfl,
    (h.started_of_cooperation acceptingDelegator_accepts echoingResults_echo hfirst).1, rfl⟩

end AgenticRuntime

end GreenticDw

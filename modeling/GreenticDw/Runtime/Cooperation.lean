import GreenticDw.Runtime.FlowRuns

namespace GreenticDw

open Text

variable {σ : Type}

/-- The result repeats the envelope and fills in the two fields the envelope leaves to it. -/
structure Echoes (envelope : SubtaskEnvelope) (result : SubtaskResultEnvelope) : Prop where
  subtaskId : result.subtaskId = envelope.subtaskId
  correlationId : result.correlationId = envelope.correlationId
  sourceAgentId : result.sourceAgentId = envelope.targetAgent
  targetAgentId : result.targetAgentId = envelope.sourceAgentId
  toolId : result.toolId = envelope.toolId
  outputSchemaRef : result.outputSchemaRef = envelope.expectedOutputSchema
  status : isBlank result.status = false
  outputArtifactRef : isBlank result.outputArtifactRef = false

def DelegationProvider.Accepts (delegator : DelegationProvider σ) : Prop :=
  ∀ request s, ∃ handle, (delegator.startSubtask request s).1 = .ok handle

def WorkerToolResultProvider.Echo (workerToolResults : WorkerToolResultProvider σ) : Prop :=
  ∀ invocation s, ∃ result, (workerToolResults.workerToolResult invocation s).1 = .ok result ∧
    Echoes invocation.envelope result

def acceptingDelegator (σ : Type) : DelegationProvider σ where
  chooseDelegate _ s := (.ok ⟨.single, [], .firstSuccess, "accept"⟩, s)
  startSubtask request s := (.ok ⟨request.envelope.subtaskId, request.envelope.targetAgent⟩, s)

def echoResult (envelope : SubtaskEnvelope) : SubtaskResultEnvelope where
  subtaskId := envelope.subtaskId
  correlationId := envelope.correlationId
  sourceAgentId := envelope.targetAgent
  targetAgentId := envelope.sourceAgentId
  toolId := envelope.toolId
  status := "completed"
  outputArtifactRef := "artifact://result"
  outputSchemaRef := envelope.expectedOutputSchema
  notes := []

def echoingResults (σ : Type) : WorkerToolResultProvider σ where
  workerToolResult invocation s := (.ok (echoResult invocation.envelope), s)

lemma acceptingDelegator_accepts : (acceptingDelegator σ).Accepts := fun _ _ => ⟨_, rfl⟩

lemma echoingResults_echo : (echoingResults σ).Echo := by
  have hstatus : isBlank "completed" = false := by decide
  have hartifact : isBlank "artifact://result" = false := by decide
  exact fun _ _ => ⟨_, rfl, rfl, rfl, rfl, rfl, rfl, rfl, hstatus, hartifact⟩

lemma Echoes.valid {envelope : SubtaskEnvelope} {result : SubtaskResultEnvelope}
    (h : Echoes envelope result) (hv : validateSubtaskEnvelope envelope = .ok ()) :
    validateWorkerToolResult envelope result = .ok () := by
  have hfilled := rejectBlank_eq_ok.mp hv
  simp only [SubtaskEnvelope.fields, List.forall_mem_cons] at hfilled
  obtain ⟨hsubtask, _, hcorrelation, hsource, htarget, htool, _, _, hschema, _⟩ := hfilled
  refine AgenticRuntime.validateWorkerToolResult_eq_ok.mpr ⟨rejectBlank_eq_ok.mpr ?_, h.subtaskId,
    h.correlationId, h.sourceAgentId, h.targetAgentId, h.toolId, h.outputSchemaRef⟩
  simp only [SubtaskResultEnvelope.fields, List.forall_mem_cons, h.subtaskId, h.correlationId,
    h.sourceAgentId, h.targetAgentId, h.toolId, h.outputSchemaRef]
  exact ⟨hsubtask, hcorrelation, htarget, hsource, htool, h.status, h.outputArtifactRef, hschema,
    fun _ hm => absurd hm List.not_mem_nil⟩

namespace AgenticRuntime

variable {rt : AgenticRuntime σ} {request : RunAgenticCoordinatorRequest}
  {delegator : DelegationProvider σ} {workerToolResults : WorkerToolResultProvider σ}
  {w : World σ}

lemma handoff_anywhere {call : CoordinatorWorkerToolCall} {index : ℕ} {envelope : SubtaskEnvelope}
    (h : rt.handoffEnvelope (request.invocation index call) = .ok envelope) (index' : ℕ) :
    ∃ envelope', rt.handoffEnvelope (request.invocation index' call) = .ok envelope' ∧
      envelope'.subtaskId = envelope.subtaskId := by
  obtain ⟨registry, tool, hr, ht, rfl, hv, hh⟩ := handoffEnvelope_eq_ok.mp h
  refine ⟨(request.invocation index' call).envelope tool, ?_, rfl⟩
  refine handoffEnvelope_eq_ok.mpr ⟨registry, tool, hr, ht, rfl, ?_, hh⟩
  have hfilled := rejectBlank_eq_ok.mp hv
  simp only [SubtaskEnvelope.fields, List.forall_mem_cons] at hfilled
  obtain ⟨hsubtask, hparent, _, hrest⟩ := hfilled
  apply rejectBlank_eq_ok.mpr
  simp only [SubtaskEnvelope.fields, List.forall_mem_cons]
  refine ⟨hsubtask, hparent, ?_, hrest⟩
  exact isBlank_append_left (isBlank_append_left (isBlank_append_left
    (isBlank_append_left hparent _) _) _) _

structure Sound (rt : AgenticRuntime σ) (request : RunAgenticCoordinatorRequest) : Prop where
  checked : checkRequest request = .ok ()
  handoffs : ∀ call ∈ request.toolCalls, ∃ envelope,
    rt.handoffEnvelope (request.invocation 0 call) = .ok envelope
  content : isBlank request.finalResponseContent = false
  finalizer : rt.expectedFinalizer = .ok request.finalizerAgentId
  distinct : (request.toolCalls.map (·.toolId)).Nodup

lemma toolCalls_ne_nil (h : checkRequest request = .ok ()) : request.toolCalls ≠ [] := by
  simp only [checkRequest, except_bind_eq_ok, rejectIf_eq_ok] at h
  obtain ⟨_, _, _, _, hne⟩ := h
  exact hne

lemma Answers.subtaskId {index : ℕ} {call : CoordinatorWorkerToolCall}
    {pair : WorkerToolInvocation × SubtaskResultEnvelope} (h : rt.Answers request index call pair) :
    pair.2.subtaskId = request.runId ++ "::" ++ call.toolId := by
  obtain ⟨_, _, _, _, he, _⟩ := handoffEnvelope_eq_ok.mp h.handoff
  rw [(validateWorkerToolResult_eq_ok.mp h.valid).2.1, ← he]
  rfl

lemma Answers.toolId {index : ℕ} {call : CoordinatorWorkerToolCall}
    {pair : WorkerToolInvocation × SubtaskResultEnvelope} (h : rt.Answers request index call pair) :
    pair.2.toolId = call.toolId := by
  obtain ⟨_, _, _, _, he, _⟩ := handoffEnvelope_eq_ok.mp h.handoff
  obtain ⟨_, _, _, _, _, htool, _⟩ := validateWorkerToolResult_eq_ok.mp h.valid
  rw [htool, ← he]
  rfl

lemma AnswersAll.map_eq {index : ℕ} {calls : List CoordinatorWorkerToolCall}
    {pairs : List (WorkerToolInvocation × SubtaskResultEnvelope)}
    (h : rt.AnswersAll request index calls pairs) {β : Type} {f : SubtaskResultEnvelope → β}
    {g : CoordinatorWorkerToolCall → β}
    (hfg : ∀ {index call pair}, rt.Answers request index call pair → f pair.2 = g call) :
    pairs.map (fun pair => f pair.2) = calls.map g := by
  induction h with
  | nil => rfl
  | cons ha _ ih => rw [List.map_cons, List.map_cons, ih, hfg ha]

lemma AnswersAll.handoff_of_mem {index : ℕ} {calls : List CoordinatorWorkerToolCall}
    {pairs : List (WorkerToolInvocation × SubtaskResultEnvelope)}
    (h : rt.AnswersAll request index calls pairs) : ∀ call ∈ calls, ∃ envelope,
      rt.handoffEnvelope (request.invocation 0 call) = .ok envelope := by
  induction h with
  | nil => simp
  | cons ha _ ih =>
    obtain ⟨envelope, he, _⟩ := handoff_anywhere ha.handoff 0
    exact List.forall_mem_cons.mpr ⟨⟨envelope, he⟩, ih⟩

lemma AnswersAll.valid_of_mem {index : ℕ} {calls : List CoordinatorWorkerToolCall}
    {pairs : List (WorkerToolInvocation × SubtaskResultEnvelope)}
    (h : rt.AnswersAll request index calls pairs) : ∀ pair ∈ pairs,
      rt.validateWorkerToolHandoff pair.1.envelope = .ok () ∧
        validateWorkerToolResult pair.1.envelope pair.2 = .ok () := by
  induction h with
  | nil => simp
  | cons ha _ ih =>
    obtain ⟨_, _, _, _, _, _, hhandoff⟩ := handoffEnvelope_eq_ok.mp ha.handoff
    exact List.forall_mem_cons.mpr ⟨⟨hhandoff, ha.valid⟩, ih⟩

lemma nodup_subtaskIds {runId : String} {calls : List CoordinatorWorkerToolCall} :
    (calls.map fun call => runId ++ "::" ++ call.toolId).Nodup ↔
      (calls.map (·.toolId)).Nodup := by
  have hinj : Function.Injective fun toolId : String => runId ++ "::" ++ toolId := by
    intro a b h
    exact (String.append_right_inj (runId ++ "::")).mp h
  have hmap : (calls.map fun call => runId ++ "::" ++ call.toolId) =
      (calls.map (·.toolId)).map fun toolId => runId ++ "::" ++ toolId := by
    rw [List.map_map]
    rfl
  rw [hmap, List.nodup_map_iff hinj]

lemma compose_ok_iff {pairs : List (WorkerToolInvocation × SubtaskResultEnvelope)}
    (hc : checkRequest request = .ok ()) (h : rt.AnswersAll request 0 request.toolCalls pairs) :
    (∃ finalResponse, rt.composeFinalResponse (finalResponseRequest request pairs) =
      .ok finalResponse) ↔ rt.Sound request := by
  have hids : (pairs.map (·.2.subtaskId)).Nodup ↔ (request.toolCalls.map (·.toolId)).Nodup := by
    have hmap := h.map_eq (g := fun call => request.runId ++ "::" ++ call.toolId) Answers.subtaskId
    rw [hmap, nodup_subtaskIds]
  simp only [composeFinalResponse_eq_ok, finalResponseRequest, List.map_map]
  constructor
  · rintro ⟨_, hcontent, _, hfinalizer, _, hnodup, _⟩
    exact ⟨hc, h.handoff_of_mem, hcontent, hfinalizer, hids.mp hnodup⟩
  · intro hs
    refine ⟨_, hs.content, ?_, hs.finalizer, ?_, hids.mpr hs.distinct, rfl⟩
    · intro hnil
      have hlength := h.length_eq
      rw [List.map_eq_nil_iff.mp hnil, List.length_nil, eq_comm, List.length_eq_zero_iff] at hlength
      exact toolCalls_ne_nil hc hlength
    · intro pair hm
      obtain ⟨pair', hm', rfl⟩ := List.mem_map.mp hm
      exact h.valid_of_mem pair' hm'

lemma Stops.refused_of_cooperation {index : ℕ} {call : CoordinatorWorkerToolCall}
    {e : AgenticRuntimeError} {t : List FlowCall} (hd : delegator.Accepts)
    (hw : workerToolResults.Echo)
    (h : rt.Stops request delegator workerToolResults index call e t) :
    rt.handoffEnvelope (request.invocation index call) = .error e ∧ t = [] := by
  cases h with
  | refused hh => exact ⟨hh, rfl⟩
  | @unstarted envelope e s _ he =>
    obtain ⟨handle, ha⟩ := hd ⟨envelope⟩ s
    rw [ha] at he
    cases he
  | @unanswered invocation e s _ he =>
    obtain ⟨result, ha, _⟩ := hw invocation s
    rw [ha] at he
    cases he
  | @rejected invocation result e s hh hr he =>
    obtain ⟨result', ha, hecho⟩ := hw invocation s
    rw [hr] at ha
    cases ha
    obtain ⟨_, _, _, _, _, hv, _⟩ := handoffEnvelope_eq_ok.mp hh
    rw [hecho.valid hv] at he
    cases he

theorem flow_ok_iff (hd : delegator.Accepts) (hw : workerToolResults.Echo) :
    (∃ run, ((rt.runAgenticCoordinatorFlow request delegator workerToolResults).run w).result =
      .ok run) ↔ rt.Sound request := by
  have h := rt.runAgenticCoordinatorFlow_cases request delegator workerToolResults w
  generalize (rt.runAgenticCoordinatorFlow request delegator workerToolResults).run w = o at h
  cases h with
  | @refused e hc =>
    apply iff_of_false (by simp)
    intro hs
    rw [hs.checked] at hc
    cases hc
  | @stopped _ done rest call _ e _ hc hcalls ha hs =>
    apply iff_of_false (by simp)
    intro hsound
    obtain ⟨envelope, hh⟩ := hsound.handoffs call (by simp [hcalls])
    obtain ⟨envelope', hh', _⟩ := handoff_anywhere hh done.length
    rw [(hs.refused_of_cooperation hd hw).1] at hh'
    cases hh'
  | uncomposed hc ha hf =>
    apply iff_of_false (by simp)
    intro hs
    obtain ⟨_, hok⟩ := (compose_ok_iff hc ha).mpr hs
    rw [hok] at hf
    cases hf
  | completed hc ha hf => exact iff_of_true ⟨_, rfl⟩ ((compose_ok_iff hc ha).mp ⟨_, hf⟩)

lemma sources_toolIds {run : AgenticCoordinatorRun}
    (h : ((rt.runAgenticCoordinatorFlow request delegator workerToolResults).run w).result =
      .ok run) :
    run.finalResponse.sources.map (·.toolId) = request.toolCalls.map (·.toolId) := by
  obtain ⟨pairs, finalResponse, ha, hf, rfl⟩ := exists_of_flow_ok h
  obtain ⟨_, _, _, _, _, rfl⟩ := composeFinalResponse_eq_ok.mp hf
  rw [← ha.map_eq (g := (·.toolId)) Answers.toolId]
  simp [finalResponseRequest, SubtaskResultEnvelope.source, Function.comp_def]

def travelDesk : AgenticRuntime Unit where
  engine := StaticEngine Unit .noop
  packs := ⟨[], [⟨fun _ s => s⟩]⟩
  stateStore := none
  callableWorkerRegistry := some
    { coordinatorAgentId := some "desk"
      finalizerAgentId := none
      toolsById := [("traffic", ⟨"traffic", "driver", "roads", "in", "out"⟩),
        ("weather", ⟨"weather", "pilot", "skies", "in", "out"⟩)]
      allowedRoutes := ∅ }

def ask (toolId goal : String) : CoordinatorWorkerToolCall :=
  ⟨toolId, goal, "context://trip", .parentTaskOnly, "restricted", "2026-04-16", .sync⟩

def trip (finalResponseContent : String) (toolCalls : List CoordinatorWorkerToolCall) :
    RunAgenticCoordinatorRequest :=
  ⟨"trip", "desk", "desk", finalResponseContent, toolCalls⟩

def tripBoth : RunAgenticCoordinatorRequest :=
  trip "done" [ask "traffic" "to work", ask "weather" "today"]

def deskWorld : World Unit :=
  ⟨(), "trip", "desk", .running, ⟨"tenant", none⟩,
    ⟨"en", none, none, .workerDefault, .currentTaskOnly, .workerDefault⟩⟩

end AgenticRuntime

end GreenticDw

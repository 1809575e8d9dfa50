import GreenticDw.Runtime.Capabilities

namespace GreenticDw

open Value

structure MockCapabilityState where
  operations : List (String × String)
  memory : MemoryQuery → Option MemoryRecord
  longTerm : MemoryQuery → Option MemoryRecord
  states : TaskId → Option TaskEnvelope

def taskStoreCapability : String := "cap://dw.state.task-store"

namespace MockCapabilityDispatcher

def unsupported (capability operation : String) : CapabilityDispatchError :=
  .backend ("unsupported capability operation " ++ capability ++ "::" ++ operation)

variable (readError : Value → String)

def decoded {α : Type} (encoding : Encoding α) (payload : Value) : Except CapabilityDispatchError α :=
  match encoding.read payload with
  | some a => .ok a
  | none => .error (.invalidPayload (readError payload))

def putRecord (write : MemoryRecord → MockCapabilityState) (payload : Value)
    (s : MockCapabilityState) : Except CapabilityDispatchError Value × MockCapabilityState :=
  match decoded readError MemoryRecord.encoding payload with
  | .ok record => (.ok null, write record)
  | .error e => (.error e, s)

def getRecord (table : MemoryQuery → Option MemoryRecord) (payload : Value)
    (s : MockCapabilityState) : Except CapabilityDispatchError Value × MockCapabilityState :=
  match decoded readError MemoryQuery.encoding payload with
  | .ok query => (.ok (ofOption MemoryRecord.encoding.write (table query)), s)
  | .error e => (.error e, s)

def saveEnvelope (payload : Value) (s : MockCapabilityState) :
    Except CapabilityDispatchError Value × MockCapabilityState :=
  match decoded readError TaskEnvelope.encoding payload with
  | .ok envelope =>
    (.ok null, { s with states := Function.update s.states envelope.taskId (some envelope) })
  | .error e => (.error e, s)

def loadEnvelope (payload : Value) (s : MockCapabilityState) :
    Except CapabilityDispatchError Value × MockCapabilityState :=
  match (payload.get "task_id").bind asStr with
  | some taskId => (.ok (ofOption TaskEnvelope.encoding.write (s.states taskId)), s)
  | none => (.error (.invalidPayload "task_id must be a string"), s)

def handle (capability operation : String) (payload : Value) (s : MockCapabilityState) :
    Except CapabilityDispatchError Value × MockCapabilityState :=
  if capability = shortTermMemoryCapability ∧ operation = memoryPutOperation then
    putRecord readError (fun record =>
      { s with memory := Function.update s.memory record.query (some record) }) payload s
  else if capability = shortTermMemoryCapability ∧ operation = memoryGetOperation then
    getRecord readError s.memory payload s
  else if capability = longTermMemoryCapability ∧ operation = memoryPutOperation then
    putRecord readError (fun record =>
      { s with longTerm := Function.update s.longTerm record.query (some record) }) payload s
  else if capability = longTermMemoryCapability ∧ operation = memoryGetOperation then
    getRecord readError s.longTerm payload s
  else if capability = taskStoreCapability ∧ operation = stateSaveOperation then
    saveEnvelope readError payload s
  else if capability = taskStoreCapability ∧ operation = stateLoadOperation then
    loadEnvelope payload s
  else (.error (unsupported capability operation), s)

end MockCapabilityDispatcher

def MockCapabilityDispatcher (readError : Value → String) :
    CapabilityDispatcher MockCapabilityState where
  invoke binding operation payload s :=
    MockCapabilityDispatcher.handle readError binding.capability operation payload
      { s with operations := s.operations ++ [(binding.capability, operation)] }

lemma CapabilityClient.capability_of_binding {σ : Type} {client : CapabilityClient σ}
    {binding : CapTypes.CapabilityBinding} (h : client.binding = .ok binding) :
    binding.capability = client.capability := by
  unfold CapabilityClient.binding at h
  split at h
  · rename_i b hb
    obtain rfl := Except.ok.inj h
    simpa using List.find?_some hb
  · cases h

namespace MockCapabilityDispatcher

variable {readError : Value → String} {client : CapabilityClient MockCapabilityState}

lemma handle_put_memory (record : MemoryRecord) (s : MockCapabilityState) :
    handle readError shortTermMemoryCapability memoryPutOperation
      (MemoryRecord.encoding.write record) s =
      (.ok null, { s with memory := Function.update s.memory record.query (some record) }) := by
  simp [handle, putRecord, decoded]

lemma handle_get_memory (query : MemoryQuery) (s : MockCapabilityState) :
    handle readError shortTermMemoryCapability memoryGetOperation (MemoryQuery.encoding.write query) s =
      (.ok (ofOption MemoryRecord.encoding.write (s.memory query)), s) := by
  simp [handle, getRecord, decoded, memoryGetOperation, memoryPutOperation]

lemma handle_put_longTerm (record : MemoryRecord) (s : MockCapabilityState) :
    handle readError longTermMemoryCapability memoryPutOperation
      (MemoryRecord.encoding.write record) s =
      (.ok null, { s with longTerm := Function.update s.longTerm record.query (some record) }) := by
  simp [handle, putRecord, decoded, shortTermMemoryCapability, longTermMemoryCapability]

lemma handle_get_longTerm (query : MemoryQuery) (s : MockCapabilityState) :
    handle readError longTermMemoryCapability memoryGetOperation (MemoryQuery.encoding.write query) s =
      (.ok (ofOption MemoryRecord.encoding.write (s.longTerm query)), s) := by
  simp [handle, getRecord, decoded, shortTermMemoryCapability, longTermMemoryCapability,
    memoryGetOperation, memoryPutOperation]

lemma handle_save (envelope : TaskEnvelope) (s : MockCapabilityState) :
    handle readError taskStoreCapability stateSaveOperation (TaskEnvelope.encoding.write envelope) s =
      (.ok null, { s with
        states := Function.update s.states envelope.taskId (some envelope) }) := by
  simp [handle, saveEnvelope, decoded, shortTermMemoryCapability, longTermMemoryCapability,
    taskStoreCapability]

lemma handle_load (taskId : TaskId) (s : MockCapabilityState) :
    handle readError taskStoreCapability stateLoadOperation
      (CapabilityTaskStateStore.loadPayload taskId) s =
      (.ok (ofOption TaskEnvelope.encoding.write (s.states taskId)), s) := by
  simp [handle, loadEnvelope, CapabilityTaskStateStore.loadPayload, asStr,
    shortTermMemoryCapability, longTermMemoryCapability, taskStoreCapability, stateSaveOperation,
    stateLoadOperation]

theorem keeps_states (hd : client.dispatcher = MockCapabilityDispatcher readError)
    (hc : client.capability = taskStoreCapability) :
    client.Keeps TaskEnvelope.encoding MockCapabilityState.states stateSaveOperation
      stateLoadOperation CapabilityTaskStateStore.loadPayload id TaskEnvelope.taskId where
  put_ok binding envelope s v s' hb h := by
    have hcap := (CapabilityClient.capability_of_binding hb).trans hc
    simp only [hd, MockCapabilityDispatcher, hcap, handle_save, Prod.mk.injEq] at h
    rw [← h.2]
  put_error binding envelope s e s' hb h := by
    have hcap := (CapabilityClient.capability_of_binding hb).trans hc
    simp [hd, MockCapabilityDispatcher, hcap, handle_save] at h
  get_ok binding taskId s v s' hb h := by
    have hcap := (CapabilityClient.capability_of_binding hb).trans hc
    simp only [hd, MockCapabilityDispatcher, hcap, handle_load, Prod.mk.injEq,
      Except.ok.injEq] at h
    exact h.1.symm
  get_view binding taskId s hb := by
    have hcap := (CapabilityClient.capability_of_binding hb).trans hc
    simp [hd, MockCapabilityDispatcher, hcap, handle_load]

def records (s : MockCapabilityState) : Option String × MemoryQuery → Option MemoryRecord
  | (some capability, query) =>
    if capability = shortTermMemoryCapability then s.memory query
    else if capability = longTermMemoryCapability then s.longTerm query
    else none
  | (none, _) => none

lemma records_put_memory (s : MockCapabilityState) (record : MemoryRecord) :
    records { s with memory := Function.update s.memory record.query (some record) } =
      Function.update (records s) (some shortTermMemoryCapability, record.query) (some record) := by
  funext place
  obtain ⟨_ | capability, query⟩ := place
  · simp [records]
  · by_cases hc : capability = shortTermMemoryCapability <;>
      simp [records, Function.update_apply, hc]

lemma records_put_longTerm (s : MockCapabilityState) (record : MemoryRecord) :
    records { s with longTerm := Function.update s.longTerm record.query (some record) } =
      Function.update (records s) (some longTermMemoryCapability, record.query) (some record) := by
  funext place
  have hne : longTermMemoryCapability ≠ shortTermMemoryCapability := by decide
  obtain ⟨_ | capability, query⟩ := place
  · simp [records]
  · by_cases hl : capability = longTermMemoryCapability
    · simp [records, Function.update_apply, hl, hne]
    · simp [records, hl]

theorem keeps_records (hd : client.dispatcher = MockCapabilityDispatcher readError)
    (hc : client.capability = shortTermMemoryCapability ∨
      client.capability = longTermMemoryCapability) :
    client.Keeps MemoryRecord.encoding records memoryPutOperation memoryGetOperation
      MemoryQuery.encoding.write (some client.capability, ·)
      (fun record => (some client.capability, record.query)) := by
  have hne : longTermMemoryCapability ≠ shortTermMemoryCapability := by decide
  constructor
  · intro binding record s v s' hb h
    have hcap := CapabilityClient.capability_of_binding hb
    rcases hc with hc | hc <;> rw [hc] at hcap ⊢
    · simp only [hd, MockCapabilityDispatcher, hcap, handle_put_memory, Prod.mk.injEq] at h
      rw [← h.2]
      exact records_put_memory _ record
    · simp only [hd, MockCapabilityDispatcher, hcap, handle_put_longTerm, Prod.mk.injEq] at h
      rw [← h.2]
      exact records_put_longTerm _ record
  · intro binding record s e s' hb h
    have hcap := CapabilityClient.capability_of_binding hb
    rcases hc with hc | hc <;>
      simp [hd, MockCapabilityDispatcher, hcap, hc, handle_put_memory, handle_put_longTerm] at h
  · intro binding query s v s' hb h
    have hcap := CapabilityClient.capability_of_binding hb
    rcases hc with hc | hc
    · simp only [hd, MockCapabilityDispatcher, hcap, hc, handle_get_memory, Prod.mk.injEq,
        Except.ok.injEq] at h
      simpa [records, hc] using h.1.symm
    · simp only [hd, MockCapabilityDispatcher, hcap, hc, handle_get_longTerm, Prod.mk.injEq,
        Except.ok.injEq] at h
      simpa [records, hc, hne] using h.1.symm
  · intro binding query s hb
    have hcap := CapabilityClient.capability_of_binding hb
    rcases hc with hc | hc <;>
      · simp only [hd, MockCapabilityDispatcher, hcap, hc, handle_get_memory, handle_get_longTerm]
        rfl

def initial : MockCapabilityState := ⟨[], fun _ => none, fun _ => none, fun _ => none⟩

def clientFor (readError : Value → String) (capability : String) :
    CapabilityClient MockCapabilityState where
  capability := capability
  bindings := ⟨⟨[⟨"require", "offer", capability, none⟩]⟩⟩
  dispatcher := MockCapabilityDispatcher readError
  readError := readError

end MockCapabilityDispatcher

end GreenticDw

import GreenticDw.Runtime.MockCapabilities
import GreenticDw.Traced.Boxes
import GreenticDw.Traced.Checks

/-! The memory tiers of the runtime: what is recalled from a tier after any calls, and what is asked
of the providers behind it. -/

namespace GreenticDw

open Value

inductive MemoryProviderError where
  | backend (reason : String)
  deriving DecidableEq, Repr

inductive MemoryPolicyError where
  | denied (reason : String)
  deriving DecidableEq, Repr

inductive MemoryError where
  | provider (error : MemoryProviderError)
  | policy (error : MemoryPolicyError)
  | notConfigured
  | dispatch (error : CapabilityDispatchError)
  deriving DecidableEq, Repr

structure MemoryProvider (σ : Type) where
  put : MemoryRecord → σ → Except MemoryProviderError Unit × σ
  get : MemoryQuery → σ → Except MemoryProviderError (Option MemoryRecord) × σ

structure MemoryPolicy (σ : Type) where
  allowWrite : TaskEnvelope → MemoryRecord → σ → Except MemoryPolicyError Unit × σ
  allowRead : TaskEnvelope → MemoryQuery → σ → Except MemoryPolicyError Unit × σ

def AllowAllMemoryPolicy (σ : Type) : MemoryPolicy σ where
  allowWrite _ _ s := (.ok (), s)
  allowRead _ _ s := (.ok (), s)

inductive MemoryCall where
  | allowWrite (envelope : TaskEnvelope) (record : MemoryRecord)
      (answer : Except MemoryPolicyError Unit)
  | allowRead (envelope : TaskEnvelope) (query : MemoryQuery)
      (answer : Except MemoryPolicyError Unit)
  | put (record : MemoryRecord) (answer : Except MemoryProviderError Unit)
  | get (query : MemoryQuery) (answer : Except MemoryProviderError (Option MemoryRecord))
  | dispatch (call : Dispatched)

variable {σ : Type}

namespace MemoryPolicy

variable (policy : MemoryPolicy σ)

def askWrite (envelope : TaskEnvelope) (record : MemoryRecord) :
    Traced σ MemoryCall MemoryError Unit :=
  (Traced.ask (policy.allowWrite envelope record) (.allowWrite envelope record)).mapError .policy

def askRead (envelope : TaskEnvelope) (query : MemoryQuery) :
    Traced σ MemoryCall MemoryError Unit :=
  (Traced.ask (policy.allowRead envelope query) (.allowRead envelope query)).mapError .policy

end MemoryPolicy

structure MemoryExtension (σ : Type) where
  provider : MemoryProvider σ
  policy : MemoryPolicy σ

namespace MemoryExtension

variable (memory : MemoryExtension σ)

def remember (envelope : TaskEnvelope) (record : MemoryRecord) :
    Traced σ MemoryCall MemoryError Unit := do
  memory.policy.askWrite envelope record
  (Traced.ask (memory.provider.put record) (.put record)).mapError .provider

def recallRecord (envelope : TaskEnvelope) (query : MemoryQuery) :
    Traced σ MemoryCall MemoryError (Option MemoryRecord) := do
  memory.policy.askRead envelope query
  (Traced.ask (memory.provider.get query) (.get query)).mapError .provider

end MemoryExtension

structure CapabilityMemoryExtension (σ : Type) where
  client : CapabilityClient σ
  policy : MemoryPolicy σ

namespace CapabilityMemoryExtension

variable (memory : CapabilityMemoryExtension σ)

def remember (envelope : TaskEnvelope) (record : MemoryRecord) :
    Traced σ MemoryCall MemoryError Unit := do
  memory.policy.askWrite envelope record
  ((memory.client.put MemoryRecord.encoding memoryPutOperation record).relabel .dispatch).mapError
    .dispatch

def recallRecord (envelope : TaskEnvelope) (query : MemoryQuery) :
    Traced σ MemoryCall MemoryError (Option MemoryRecord) := do
  memory.policy.askRead envelope query
  ((memory.client.get MemoryRecord.encoding memoryGetOperation
    (MemoryQuery.encoding.write query)).relabel .dispatch).mapError .dispatch

end CapabilityMemoryExtension

structure MemoryRuntime (σ : Type) where
  memory : Option (MemoryExtension σ)
  capabilityMemory : Option (CapabilityMemoryExtension σ)
  longTermMemory : Option (CapabilityMemoryExtension σ)

namespace MemoryRuntime

variable (rt : MemoryRuntime σ)

def remember (envelope : TaskEnvelope) (record : MemoryRecord) :
    Traced σ MemoryCall MemoryError Unit :=
  match rt.capabilityMemory, rt.memory with
  | some memory, _ => memory.remember envelope record
  | none, some memory => memory.remember envelope record
  | none, none => Traced.throw .notConfigured

def recallRecord (envelope : TaskEnvelope) (query : MemoryQuery) :
    Traced σ MemoryCall MemoryError (Option MemoryRecord) :=
  match rt.capabilityMemory, rt.memory with
  | some memory, _ => memory.recallRecord envelope query
  | none, some memory => memory.recallRecord envelope query
  | none, none => Traced.throw .notConfigured

def rememberLongTerm (envelope : TaskEnvelope) (record : MemoryRecord) :
    Traced σ MemoryCall MemoryError Unit :=
  match rt.longTermMemory with
  | some memory => memory.remember envelope record
  | none => Traced.throw .notConfigured

def recallLongTerm (envelope : TaskEnvelope) (query : MemoryQuery) :
    Traced σ MemoryCall MemoryError (Option MemoryRecord) :=
  match rt.longTermMemory with
  | some memory => memory.recallRecord envelope query
  | none => Traced.throw .notConfigured

end MemoryRuntime

abbrev MemoryPlace : Type := Option String

inductive MemoryTier where
  | shortTerm
  | longTerm
  deriving DecidableEq, Repr

inductive MemoryRequest where
  | rememberRecord (tier : MemoryTier) (envelope : TaskEnvelope) (record : MemoryRecord)
  | recallRecord (tier : MemoryTier) (envelope : TaskEnvelope) (query : MemoryQuery)

inductive MemoryEvent where
  | remembered (place : MemoryPlace) (record : MemoryRecord) (answer : Except MemoryError Unit)
      (calls : List MemoryCall)
  | recalled (place : MemoryPlace) (query : MemoryQuery)
      (answer : Except MemoryError (Option MemoryRecord)) (calls : List MemoryCall)

namespace MemoryRuntime

variable (rt : MemoryRuntime σ)

def place : MemoryTier → MemoryPlace
  | .shortTerm => rt.capabilityMemory.map (·.client.capability)
  | .longTerm => rt.longTermMemory.map (·.client.capability)

def rememberIn : MemoryTier → TaskEnvelope → MemoryRecord → Traced σ MemoryCall MemoryError Unit
  | .shortTerm => rt.remember
  | .longTerm => rt.rememberLongTerm

def recallFrom : MemoryTier → TaskEnvelope → MemoryQuery →
    Traced σ MemoryCall MemoryError (Option MemoryRecord)
  | .shortTerm => rt.recallRecord
  | .longTerm => rt.recallLongTerm

def perform : MemoryRequest → Traced σ MemoryEvent Empty Unit
  | .rememberRecord tier envelope record => do
    let _ ← ((rt.rememberIn tier envelope record).boxed fun o =>
      MemoryEvent.remembered (rt.place tier) record o.result o.trace).attempt
    pure ()
  | .recallRecord tier envelope query => do
    let _ ← ((rt.recallFrom tier envelope query).boxed fun o =>
      MemoryEvent.recalled (rt.place tier) query o.result o.trace).attempt
    pure ()

def performAll : List MemoryRequest → Traced σ MemoryEvent Empty Unit
  | [] => pure ()
  | r :: rs => do
    rt.perform r
    performAll rs

end MemoryRuntime

def MemoryEvent.access : MemoryEvent → Access (MemoryPlace × MemoryQuery) MemoryRecord
  | remembered place record (.ok _) _ => .wrote (place, record.query) record
  | recalled place query (.ok answer) _ => .found (place, query) answer
  | _ => .other

structure MemoryPolicy.Apart {S : Type} (policy : MemoryPolicy σ) (view : σ → S) : Prop where
  allowWrite : ∀ envelope record s, view (policy.allowWrite envelope record s).2 = view s
  allowRead : ∀ envelope query s, view (policy.allowRead envelope query s).2 = view s

structure MemoryProvider.Keeps (provider : MemoryProvider σ)
    (view : σ → MemoryPlace × MemoryQuery → Option MemoryRecord) : Prop where
  put_ok : ∀ record s s', provider.put record s = (.ok (), s') →
    view s' = Function.update (view s) (none, record.query) (some record)
  put_error : ∀ record s e s', provider.put record s = (.error e, s') → view s' = view s
  get_ok : ∀ query s answer s', provider.get query s = (.ok answer, s') →
    answer = view s (none, query)
  get_view : ∀ query s, view (provider.get query s).2 = view s

structure MemoryRuntime.Lawful (rt : MemoryRuntime σ)
    (view : σ → MemoryPlace × MemoryQuery → Option MemoryRecord) : Prop where
  capability : ∀ memory, rt.capabilityMemory = some memory ∨ rt.longTermMemory = some memory →
    memory.client.Keeps MemoryRecord.encoding view memoryPutOperation memoryGetOperation
      MemoryQuery.encoding.write (some memory.client.capability, ·)
      (fun record => (some memory.client.capability, record.query)) ∧ memory.policy.Apart view
  provider : ∀ memory, rt.memory = some memory →
    memory.provider.Keeps view ∧ memory.policy.Apart view

variable {view : σ → MemoryPlace × MemoryQuery → Option MemoryRecord} {place : MemoryPlace}

def RemembersAt (view : σ → MemoryPlace × MemoryQuery → Option MemoryRecord) (place : MemoryPlace)
    (record : MemoryRecord) (m : Traced σ MemoryCall MemoryError Unit) : Prop :=
  ∀ s, view (m.run s).world =
    match (m.run s).result with
    | .ok _ => Function.update (view s) (place, record.query) (some record)
    | .error _ => view s

def Recalls (view : σ → MemoryPlace × MemoryQuery → Option MemoryRecord) (place : MemoryPlace)
    (query : MemoryQuery) (m : Traced σ MemoryCall MemoryError (Option MemoryRecord)) : Prop :=
  ∀ s, view (m.run s).world = view s ∧
    ∀ answer, (m.run s).result = .ok answer → answer = view s (place, query)

lemma remembers_throw (record : MemoryRecord) (e : MemoryError) :
    RemembersAt view place record (Traced.throw e) := fun _ => rfl

lemma recalls_throw (query : MemoryQuery) (e : MemoryError) :
    Recalls view place query (Traced.throw e) := fun _ => ⟨rfl, fun _ h => nomatch h⟩

lemma MemoryPolicy.Apart.remembers {policy : MemoryPolicy σ} {envelope : TaskEnvelope}
    {record : MemoryRecord} {m : Traced σ MemoryCall MemoryError Unit} (hp : policy.Apart view)
    (hm : RemembersAt view place record m) :
    RemembersAt view place record (do policy.askWrite envelope record; m) := by
  intro s
  have hview := hp.allowWrite envelope record s
  rcases h : policy.allowWrite envelope record s with ⟨e | _, s'⟩ <;> rw [h] at hview
  · simpa [askWrite, h, Except.mapError] using hview
  · have hrest := hm s'
    rw [hview] at hrest
    simpa [askWrite, h, Except.mapError] using hrest

lemma MemoryPolicy.Apart.recalls {policy : MemoryPolicy σ} {envelope : TaskEnvelope}
    {query : MemoryQuery} {m : Traced σ MemoryCall MemoryError (Option MemoryRecord)}
    (hp : policy.Apart view) (hm : Recalls view place query m) :
    Recalls view place query (do policy.askRead envelope query; m) := by
  intro s
  have hview := hp.allowRead envelope query s
  rcases h : policy.allowRead envelope query s with ⟨e | _, s'⟩ <;> rw [h] at hview
  · exact ⟨by simpa [askRead, h, Except.mapError] using hview, fun _ hr => by
      simp [askRead, h, Except.mapError] at hr⟩
  · have hrest := hm s'
    rw [hview] at hrest
    simpa [askRead, h, Except.mapError] using hrest

lemma CapabilityMemoryExtension.remembers {memory : CapabilityMemoryExtension σ}
    (h : memory.client.Keeps MemoryRecord.encoding view memoryPutOperation memoryGetOperation
      MemoryQuery.encoding.write (some memory.client.capability, ·)
      (fun record => (some memory.client.capability, record.query)) ∧ memory.policy.Apart view)
    (envelope : TaskEnvelope) (record : MemoryRecord) :
    RemembersAt view (some memory.client.capability) record (memory.remember envelope record) := by
  refine h.2.remembers fun s => ?_
  have hput := h.1.run_put record s
  simp only [Traced.run_mapError, Traced.run_relabel]
  cases hr : ((memory.client.put MemoryRecord.encoding memoryPutOperation record).run s).result <;>
    simpa [hr, Except.mapError] using hput

lemma CapabilityMemoryExtension.recalls {memory : CapabilityMemoryExtension σ}
    (h : memory.client.Keeps MemoryRecord.encoding view memoryPutOperation memoryGetOperation
      MemoryQuery.encoding.write (some memory.client.capability, ·)
      (fun record => (some memory.client.capability, record.query)) ∧ memory.policy.Apart view)
    (envelope : TaskEnvelope) (query : MemoryQuery) :
    Recalls view (some memory.client.capability) query (memory.recallRecord envelope query) := by
  refine h.2.recalls fun s => ?_
  obtain ⟨hanswer, hview⟩ := h.1.run_get query s
  refine ⟨hview, fun answer hr => hanswer answer ?_⟩
  simpa using hr

lemma MemoryExtension.remembers {memory : MemoryExtension σ}
    (h : memory.provider.Keeps view ∧ memory.policy.Apart view) (envelope : TaskEnvelope)
    (record : MemoryRecord) : RemembersAt view none record (memory.remember envelope record) := by
  refine h.2.remembers fun s => ?_
  rcases hr : memory.provider.put record s with ⟨e | _, s'⟩
  · simpa [hr, Except.mapError] using h.1.put_error record s e s' hr
  · simpa [hr, Except.mapError] using h.1.put_ok record s s' hr

lemma MemoryExtension.recalls {memory : MemoryExtension σ}
    (h : memory.provider.Keeps view ∧ memory.policy.Apart view) (envelope : TaskEnvelope)
    (query : MemoryQuery) : Recalls view none query (memory.recallRecord envelope query) := by
  refine h.2.recalls fun s => ⟨h.1.get_view query s, fun answer ha => ?_⟩
  exact h.1.get_ok query s answer _ (Prod.ext (by simpa using ha) rfl)

namespace MemoryRuntime.Lawful

variable {rt : MemoryRuntime σ}

lemma rememberIn (h : rt.Lawful view) (tier : MemoryTier) (envelope : TaskEnvelope)
    (record : MemoryRecord) :
    RemembersAt view (rt.place tier) record (rt.rememberIn tier envelope record) := by
  cases tier with
  | shortTerm =>
    cases hc : rt.capabilityMemory with
    | some memory =>
      simpa [MemoryRuntime.rememberIn, remember, place, hc] using
        CapabilityMemoryExtension.remembers (h.capability memory (.inl hc)) envelope record
    | none =>
      cases hm : rt.memory with
      | some memory =>
        simpa [MemoryRuntime.rememberIn, remember, place, hc, hm] using
          MemoryExtension.remembers (h.provider memory hm) envelope record
      | none =>
        simpa [MemoryRuntime.rememberIn, remember, place, hc, hm] using remembers_throw record _
  | longTerm =>
    cases hl : rt.longTermMemory with
    | some memory =>
      simpa [MemoryRuntime.rememberIn, rememberLongTerm, place, hl] using
        CapabilityMemoryExtension.remembers (h.capability memory (.inr hl)) envelope record
    | none =>
      simpa [MemoryRuntime.rememberIn, rememberLongTerm, place, hl] using remembers_throw record _

lemma recallFrom (h : rt.Lawful view) (tier : MemoryTier) (envelope : TaskEnvelope)
    (query : MemoryQuery) :
    Recalls view (rt.place tier) query (rt.recallFrom tier envelope query) := by
  cases tier with
  | shortTerm =>
    cases hc : rt.capabilityMemory with
    | some memory =>
      simpa [MemoryRuntime.recallFrom, recallRecord, place, hc] using
        CapabilityMemoryExtension.recalls (h.capability memory (.inl hc)) envelope query
    | none =>
      cases hm : rt.memory with
      | some memory =>
        simpa [MemoryRuntime.recallFrom, recallRecord, place, hc, hm] using
          MemoryExtension.recalls (h.provider memory hm) envelope query
      | none =>
        simpa [MemoryRuntime.recallFrom, recallRecord, place, hc, hm] using recalls_throw query _
  | longTerm =>
    cases hl : rt.longTermMemory with
    | some memory =>
      simpa [MemoryRuntime.recallFrom, recallLongTerm, place, hl] using
        CapabilityMemoryExtension.recalls (h.capability memory (.inr hl)) envelope query
    | none =>
      simpa [MemoryRuntime.recallFrom, recallLongTerm, place, hl] using recalls_throw query _

lemma perform (h : rt.Lawful view) (r : MemoryRequest) :
    (dictionary view MemoryEvent.access).Kept (rt.perform r) := by
  cases r with
  | rememberRecord tier envelope record =>
    refine (Ledger.Kept.attempt ?_).bind fun _ => Ledger.kept_pure _
    refine Ledger.kept_boxed (fun s => ?_) fun s => ?_
    · cases hr : ((rt.rememberIn tier envelope record).run s).result <;>
        simp [dictionary, MemoryEvent.access]
    · have hview := h.rememberIn tier envelope record s
      cases hr : ((rt.rememberIn tier envelope record).run s).result <;>
        simpa [dictionary, MemoryEvent.access, hr] using hview
  | recallRecord tier envelope query =>
    refine (Ledger.Kept.attempt ?_).bind fun _ => Ledger.kept_pure _
    refine Ledger.kept_boxed (fun s => ?_) fun s => ?_
    · obtain ⟨_, hanswer⟩ := h.recallFrom tier envelope query s
      cases hr : ((rt.recallFrom tier envelope query).run s).result with
      | error e => simp [dictionary, MemoryEvent.access]
      | ok answer => simpa [dictionary, MemoryEvent.access] using hanswer answer hr
    · obtain ⟨hview, _⟩ := h.recallFrom tier envelope query s
      cases hr : ((rt.recallFrom tier envelope query).run s).result <;>
        simpa [dictionary, MemoryEvent.access] using hview

lemma performAll (h : rt.Lawful view) (rs : List MemoryRequest) :
    (dictionary view MemoryEvent.access).Kept (rt.performAll rs) := by
  induction rs with
  | nil => exact Ledger.kept_pure _
  | cons r rs ih => exact (h.perform r).bind fun _ => ih

end MemoryRuntime.Lawful

namespace MemoryRuntime

variable {rt : MemoryRuntime σ}

theorem recalled_last_remembered (h : rt.Lawful view) (rs : List MemoryRequest) (s : σ)
    {pre post : List MemoryEvent} {place : MemoryPlace} {query : MemoryQuery}
    {answer : Option MemoryRecord} {calls : List MemoryCall}
    (ht : ((rt.performAll rs).run s).trace =
      pre ++ .recalled place query (.ok answer) calls :: post) :
    answer = (lastWrite MemoryEvent.access (place, query) pre).or (view s (place, query)) :=
  (h.performAll rs).found_eq ht rfl

end MemoryRuntime

def mockMemory : MemoryRuntime MockCapabilityState where
  memory := none
  capabilityMemory := some ⟨MockCapabilityDispatcher.clientFor (fun _ => "")
    shortTermMemoryCapability, AllowAllMemoryPolicy _⟩
  longTermMemory := some ⟨MockCapabilityDispatcher.clientFor (fun _ => "")
    longTermMemoryCapability, AllowAllMemoryPolicy _⟩

lemma mockMemory_lawful : mockMemory.Lawful MockCapabilityDispatcher.records where
  capability memory h := by
    rcases h with h | h <;> obtain rfl := Option.some.inj h
    · exact ⟨MockCapabilityDispatcher.keeps_records rfl (.inl rfl), fun _ _ _ => rfl, fun _ _ _ => rfl⟩
    · exact ⟨MockCapabilityDispatcher.keeps_records rfl (.inr rfl), fun _ _ _ => rfl, fun _ _ _ => rfl⟩
  provider _ h := nomatch h

def summaryRecord (value : String) : MemoryRecord := ⟨.task, "task-1", "summary", value⟩

def remembering (envelope : TaskEnvelope) : List MemoryRequest :=
  [.rememberRecord .shortTerm envelope (summaryRecord "triaged"),
    .rememberRecord .longTerm envelope (summaryRecord "archived"),
    .recallRecord .shortTerm envelope (summaryRecord "").query]

def triaged : TaskEnvelope where
  taskId := "task-1"
  workerId := "worker.alpha"
  state := .running
  scope := ⟨"tenant.a", none⟩
  locale := ⟨"en-US", none, none, .workerDefault, .currentTaskOnly, .workerDefault⟩

theorem recalled_last_remembered_mock : ∃ pre post calls,
    ((mockMemory.performAll (remembering triaged)).run MockCapabilityDispatcher.initial).trace =
      pre ++ .recalled (some shortTermMemoryCapability) (summaryRecord "").query
        (.ok (some (summaryRecord "triaged"))) calls :: post ∧
    some (summaryRecord "triaged") = (lastWrite MemoryEvent.access
      (some shortTermMemoryCapability, (summaryRecord "").query) pre).or none := by
  have ht : ((mockMemory.performAll (remembering triaged)).run
      MockCapabilityDispatcher.initial).trace = [_, _] ++ .recalled
        (some shortTermMemoryCapability) (summaryRecord "").query
        (.ok (some (summaryRecord "triaged"))) _ :: [] := rfl
  exact ⟨_, _, _, ht, MemoryRuntime.recalled_last_remembered mockMemory_lawful _ _ ht⟩

def MemoryEvent.calls : MemoryEvent → List MemoryCall
  | remembered _ _ _ calls => calls
  | recalled _ _ _ calls => calls

/-- A provider is reached right after the policy has allowed it, for the very record or question,
and the plain provider only if there is no capability for its tier. -/
def MemoryRuntime.Permitted (rt : MemoryRuntime σ) (history : List MemoryCall) :
    MemoryCall → Prop
  | .put record _ => rt.capabilityMemory = none ∧
    ∃ envelope, history.getLast? = some (.allowWrite envelope record (.ok ()))
  | .get query _ => rt.capabilityMemory = none ∧
    ∃ envelope, history.getLast? = some (.allowRead envelope query (.ok ()))
  | .dispatch call => (∃ tier, rt.place tier = some call.binding.capability) ∧
    ((∃ envelope record, history.getLast? = some (.allowWrite envelope record (.ok ())) ∧
      call.operation = memoryPutOperation ∧ call.payload = MemoryRecord.encoding.write record) ∨
    ∃ envelope query, history.getLast? = some (.allowRead envelope query (.ok ())) ∧
      call.operation = memoryGetOperation ∧ call.payload = MemoryQuery.encoding.write query)
  | _ => True

lemma CapabilityClient.trace_invoke (client : CapabilityClient σ) (operation : String)
    (payload : Value) (s : σ) :
    ((client.invoke operation payload).run s).trace = [] ∨
    ∃ call : Dispatched, ((client.invoke operation payload).run s).trace = [call] ∧
      call.binding.capability = client.capability ∧ call.operation = operation ∧
      call.payload = payload := by
  simp only [invoke, Traced.run_bind, Traced.run_ofExcept]
  cases hb : client.binding with
  | error e => exact .inl rfl
  | ok binding => exact .inr ⟨_, rfl, capability_of_binding hb, rfl, rfl⟩

lemma CapabilityClient.trace_put {α : Type} (client : CapabilityClient σ) (encoding : Encoding α)
    (operation : String) (a : α) (s : σ) :
    ((client.put encoding operation a).run s).trace =
      ((client.invoke operation (encoding.write a)).run s).trace := by
  rw [put, Traced.run_bind]
  rcases (client.invoke operation (encoding.write a)).run s with ⟨e | v, s', t⟩ <;> simp

lemma CapabilityClient.trace_get {α : Type} (client : CapabilityClient σ) (encoding : Encoding α)
    (operation : String) (payload : Value) (s : σ) :
    ((client.get encoding operation payload).run s).trace =
      ((client.invoke operation payload).run s).trace := by
  rw [get, Traced.run_bind]
  rcases (client.invoke operation payload).run s with ⟨e | v, s', t⟩ <;> simp

namespace MemoryRuntime

variable {rt : MemoryRuntime σ} {history : List MemoryCall}

lemma permitted_write {policy : MemoryPolicy σ} {envelope : TaskEnvelope} {record : MemoryRecord}
    {m : Traced σ MemoryCall MemoryError Unit}
    (hm : ∀ s, Always rt.Permitted (history ++ [.allowWrite envelope record (.ok ())])
      (m.run s).trace) (s : σ) :
    Always rt.Permitted history
      ((do policy.askWrite envelope record; m : Traced σ MemoryCall MemoryError Unit).run s).trace
    := by
  rcases h : policy.allowWrite envelope record s with ⟨e | _, s'⟩
  · simp [MemoryPolicy.askWrite, h, Except.mapError, Permitted]
  · simpa [MemoryPolicy.askWrite, h, Except.mapError, Permitted] using hm s'

lemma permitted_read {policy : MemoryPolicy σ} {envelope : TaskEnvelope} {query : MemoryQuery}
    {m : Traced σ MemoryCall MemoryError (Option MemoryRecord)}
    (hm : ∀ s, Always rt.Permitted (history ++ [.allowRead envelope query (.ok ())])
      (m.run s).trace) (s : σ) :
    Always rt.Permitted history ((do policy.askRead envelope query; m :
      Traced σ MemoryCall MemoryError (Option MemoryRecord)).run s).trace := by
  rcases h : policy.allowRead envelope query s with ⟨e | _, s'⟩
  · simp [MemoryPolicy.askRead, h, Except.mapError, Permitted]
  · simpa [MemoryPolicy.askRead, h, Except.mapError, Permitted] using hm s'

lemma permitted_remember {memory : CapabilityMemoryExtension σ} {tier : MemoryTier}
    (hp : rt.place tier = some memory.client.capability) (envelope : TaskEnvelope)
    (record : MemoryRecord) (s : σ) :
    Always rt.Permitted history ((memory.remember envelope record).run s).trace := by
  refine permitted_write (fun s => ?_) s
  rw [Traced.run_mapError, Traced.run_relabel, CapabilityClient.trace_put]
  rcases memory.client.trace_invoke memoryPutOperation (MemoryRecord.encoding.write record) s with
    h | ⟨call, h, hcap, hop, hpayload⟩
  · simp [h]
  · simp only [h, List.map_singleton, always_cons, always_nil, and_true]
    exact ⟨⟨tier, hp.trans (congrArg some hcap.symm)⟩,
      .inl ⟨envelope, record, by simp, hop, hpayload⟩⟩

lemma permitted_recall {memory : CapabilityMemoryExtension σ} {tier : MemoryTier}
    (hp : rt.place tier = some memory.client.capability) (envelope : TaskEnvelope)
    (query : MemoryQuery) (s : σ) :
    Always rt.Permitted history ((memory.recallRecord envelope query).run s).trace := by
  refine permitted_read (fun s => ?_) s
  rw [Traced.run_mapError, Traced.run_relabel, CapabilityClient.trace_get]
  rcases memory.client.trace_invoke memoryGetOperation (MemoryQuery.encoding.write query) s with
    h | ⟨call, h, hcap, hop, hpayload⟩
  · simp [h]
  · simp only [h, List.map_singleton, always_cons, always_nil, and_true]
    exact ⟨⟨tier, hp.trans (congrArg some hcap.symm)⟩,
      .inr ⟨envelope, query, by simp, hop, hpayload⟩⟩

lemma permitted_plain_remember (hc : rt.capabilityMemory = none) (memory : MemoryExtension σ)
    (envelope : TaskEnvelope) (record : MemoryRecord) (s : σ) :
    Always rt.Permitted history ((memory.remember envelope record).run s).trace := by
  refine permitted_write (fun s => ?_) s
  simp [Permitted, hc]

lemma permitted_plain_recall (hc : rt.capabilityMemory = none) (memory : MemoryExtension σ)
    (envelope : TaskEnvelope) (query : MemoryQuery) (s : σ) :
    Always rt.Permitted history ((memory.recallRecord envelope query).run s).trace := by
  refine permitted_read (fun s => ?_) s
  simp [Permitted, hc]

lemma permitted_rememberIn (tier : MemoryTier) (envelope : TaskEnvelope) (record : MemoryRecord)
    (s : σ) : Always rt.Permitted history ((rt.rememberIn tier envelope record).run s).trace := by
  cases tier with
  | shortTerm =>
    cases hc : rt.capabilityMemory with
    | some memory =>
      have hp : rt.place .shortTerm = some memory.client.capability := by simp [place, hc]
      simpa [rememberIn, remember, hc] using permitted_remember hp envelope record s
    | none =>
      cases hm : rt.memory with
      | none => simp [rememberIn, remember, hc, hm]
      | some memory =>
        simpa [rememberIn, remember, hc, hm] using
          permitted_plain_remember hc memory envelope record s
  | longTerm =>
    cases hl : rt.longTermMemory with
    | none => simp [rememberIn, rememberLongTerm, hl]
    | some memory =>
      have hp : rt.place .longTerm = some memory.client.capability := by simp [place, hl]
      simpa [rememberIn, rememberLongTerm, hl] using permitted_remember hp envelope record s

lemma permitted_recallFrom (tier : MemoryTier) (envelope : TaskEnvelope) (query : MemoryQuery)
    (s : σ) : Always rt.Permitted history ((rt.recallFrom tier envelope query).run s).trace := by
  cases tier with
  | shortTerm =>
    cases hc : rt.capabilityMemory with
    | some memory =>
      have hp : rt.place .shortTerm = some memory.client.capability := by simp [place, hc]
      simpa [recallFrom, recallRecord, hc] using permitted_recall hp envelope query s
    | none =>
      cases hm : rt.memory with
      | none => simp [recallFrom, recallRecord, hc, hm]
      | some memory =>
        simpa [recallFrom, recallRecord, hc, hm] using
          permitted_plain_recall hc memory envelope query s
  | longTerm =>
    cases hl : rt.longTermMemory with
    | none => simp [recallFrom, recallLongTerm, hl]
    | some memory =>
      have hp : rt.place .longTerm = some memory.client.capability := by simp [place, hl]
      simpa [recallFrom, recallLongTerm, hl] using permitted_recall hp envelope query s

lemma permitted_perform (r : MemoryRequest) (s : σ) :
    Always rt.Permitted history (((rt.perform r).run s).trace.flatMap MemoryEvent.calls) := by
  cases r with
  | rememberRecord tier envelope record =>
    simpa [perform, MemoryEvent.calls] using permitted_rememberIn tier envelope record s
  | recallRecord tier envelope query =>
    simpa [perform, MemoryEvent.calls] using permitted_recallFrom tier envelope query s

theorem performAll_permitted (rt : MemoryRuntime σ) (rs : List MemoryRequest) (s : σ)
    (history : List MemoryCall) :
    Always rt.Permitted history (((rt.performAll rs).run s).trace.flatMap MemoryEvent.calls) := by
  induction rs generalizing s history with
  | nil => trivial
  | cons r rs ih =>
    have hfirst : Always rt.Permitted history _ := permitted_perform r s
    rw [performAll, Traced.run_bind]
    rcases hr : (rt.perform r).run s with ⟨e | _, s', t⟩
    · exact e.elim
    · rw [hr] at hfirst
      simpa using ⟨hfirst, ih s' _⟩

end MemoryRuntime

end GreenticDw

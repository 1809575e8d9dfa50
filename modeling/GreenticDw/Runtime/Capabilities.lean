import GreenticDw.Runtime.Packs
import GreenticDw.Traced.Dictionaries
import GreenticDw.Types.Stored

namespace GreenticDw

open Value

namespace CapTypes

structure CapabilityProviderRef where
  componentRef : String
  operation : String
  operationMap : List (String × String)

structure CapabilityBinding where
  requestId : String
  offerId : String
  capability : String
  provider : Option CapabilityProviderRef

structure CapabilityResolution where
  bindings : List CapabilityBinding

end CapTypes

structure RuntimeCapabilityBindings where
  resolution : CapTypes.CapabilityResolution

namespace RuntimeCapabilityBindings

def bindingForCapability (bindings : RuntimeCapabilityBindings) (capability : String) :
    Option CapTypes.CapabilityBinding :=
  bindings.resolution.bindings.find? fun binding => binding.capability = capability

end RuntimeCapabilityBindings

structure CapabilityDispatcher (σ : Type) where
  invoke : CapTypes.CapabilityBinding → String → Value → σ →
    Except CapabilityDispatchError Value × σ

structure Dispatched where
  binding : CapTypes.CapabilityBinding
  operation : String
  payload : Value
  answer : Except CapabilityDispatchError Value

def memoryGetOperation : String := "get"
def memoryPutOperation : String := "put"
def stateLoadOperation : String := "load"
def stateSaveOperation : String := "save"

def shortTermMemoryCapability : String := "cap://dw.memory.short-term"
def longTermMemoryCapability : String := "cap://dw.memory.long-term"

structure CapabilityClient (σ : Type) where
  capability : String
  bindings : RuntimeCapabilityBindings
  dispatcher : CapabilityDispatcher σ
  readError : Value → String

namespace CapabilityClient

variable {σ : Type} (client : CapabilityClient σ)

def binding : Except CapabilityDispatchError CapTypes.CapabilityBinding :=
  match client.bindings.bindingForCapability client.capability with
  | some binding => .ok binding
  | none => .error (.missingCapabilityBinding client.capability)

def invoke (operation : String) (payload : Value) :
    Traced σ Dispatched CapabilityDispatchError Value := do
  let binding ← Traced.ofExcept client.binding
  Traced.ask (client.dispatcher.invoke binding operation payload) (⟨binding, operation, payload, ·⟩)

def received {α : Type} (encoding : Encoding α) : Value → Except CapabilityDispatchError (Option α)
  | null => .ok none
  | value =>
    match encoding.read value with
    | some a => .ok (some a)
    | none => .error (.invalidPayload (client.readError value))

def put {α : Type} (encoding : Encoding α) (operation : String) (a : α) :
    Traced σ Dispatched CapabilityDispatchError Unit := do
  let _ ← client.invoke operation (encoding.write a)
  pure ()

def get {α : Type} (encoding : Encoding α) (operation : String) (payload : Value) :
    Traced σ Dispatched CapabilityDispatchError (Option α) := do
  let value ← client.invoke operation payload
  Traced.ofExcept (client.received encoding value)

@[simp] lemma received_ofOption {α : Type} (encoding : Encoding α) (o : Option α) :
    client.received encoding (ofOption encoding.write o) = .ok o := by
  cases o with
  | none => rfl
  | some a =>
    have hne := encoding.write_ne_null a
    have hread := encoding.read_write a
    simp only [ofOption]
    cases hw : encoding.write a with
    | null => exact absurd hw hne
    | _ => simp [received, ← hw, hread]

/-- The provider behind the capability keeps a part of the dictionary: it keeps what is put, gives
back what it has, and changes nothing else. -/
structure Keeps {κ ι α : Type} [DecidableEq κ] (client : CapabilityClient σ) (encoding : Encoding α)
    (view : σ → κ → Option α) (putOperation getOperation : String) (question : ι → Value)
    (key : ι → κ) (keyOf : α → κ) : Prop where
  put_ok : ∀ binding a s v s', client.binding = .ok binding →
    client.dispatcher.invoke binding putOperation (encoding.write a) s = (.ok v, s') →
    view s' = Function.update (view s) (keyOf a) (some a)
  put_error : ∀ binding a s e s', client.binding = .ok binding →
    client.dispatcher.invoke binding putOperation (encoding.write a) s = (.error e, s') →
    view s' = view s
  get_ok : ∀ binding i s v s', client.binding = .ok binding →
    client.dispatcher.invoke binding getOperation (question i) s = (.ok v, s') →
    v = ofOption encoding.write (view s (key i))
  get_view : ∀ binding i s, client.binding = .ok binding →
    view (client.dispatcher.invoke binding getOperation (question i) s).2 = view s

namespace Keeps

variable {κ ι α : Type} [DecidableEq κ] {client : CapabilityClient σ} {encoding : Encoding α}
  {view : σ → κ → Option α} {putOperation getOperation : String} {question : ι → Value}
  {key : ι → κ} {keyOf : α → κ}

lemma run_put (h : client.Keeps encoding view putOperation getOperation question key keyOf) (a : α)
    (s : σ) :
    view ((client.put encoding putOperation a).run s).world =
      match ((client.put encoding putOperation a).run s).result with
      | .ok _ => Function.update (view s) (keyOf a) (some a)
      | .error _ => view s := by
  simp only [put, invoke, Traced.run_bind, Traced.run_ofExcept]
  cases hb : client.binding with
  | error e => rfl
  | ok binding =>
    rcases hi : client.dispatcher.invoke binding putOperation (encoding.write a) s with ⟨e | v, s'⟩
    · simpa [hi] using h.put_error binding a s e s' hb hi
    · simpa [hi] using h.put_ok binding a s v s' hb hi

lemma run_get (h : client.Keeps encoding view putOperation getOperation question key keyOf) (i : ι)
    (s : σ) :
    (∀ answer, ((client.get encoding getOperation (question i)).run s).result = .ok answer →
      answer = view s (key i)) ∧
    view ((client.get encoding getOperation (question i)).run s).world = view s := by
  simp only [get, invoke, Traced.run_bind, Traced.run_ofExcept]
  cases hb : client.binding with
  | error e => exact ⟨fun _ hr => (nomatch hr), rfl⟩
  | ok binding =>
    have hview := h.get_view binding i s hb
    rcases hi : client.dispatcher.invoke binding getOperation (question i) s with ⟨e | v, s'⟩
    · rw [hi] at hview
      exact ⟨fun _ hr => by simp [hi] at hr, by simpa [hi] using hview⟩
    · rw [hi] at hview
      obtain rfl := h.get_ok binding i s v s' hb hi
      refine ⟨fun answer hr => ?_, by simpa [hi] using hview⟩
      simpa [hi, eq_comm] using hr

end Keeps

end CapabilityClient

structure CapabilityTaskStateStore (σ : Type) where
  client : CapabilityClient σ

namespace CapabilityTaskStateStore

variable {σ : Type} (store : CapabilityTaskStateStore σ)

def saveState (envelope : TaskEnvelope) : Traced σ Dispatched CapabilityDispatchError Unit :=
  store.client.put TaskEnvelope.encoding stateSaveOperation envelope

def loadPayload (taskId : TaskId) : Value := object [("task_id", string taskId)]

def loadState (taskId : TaskId) :
    Traced σ Dispatched CapabilityDispatchError (Option TaskEnvelope) :=
  store.client.get TaskEnvelope.encoding stateLoadOperation (loadPayload taskId)

end CapabilityTaskStateStore

inductive MemoryScope where
  | task
  | worker
  | tenant
  deriving DecidableEq, Repr

structure MemoryRecord where
  scope : MemoryScope
  subject : String
  key : String
  value : String
  deriving DecidableEq, Repr

structure MemoryQuery where
  scope : MemoryScope
  subject : String
  key : String
  deriving DecidableEq, Repr

namespace MemoryScope

def name : MemoryScope → String
  | task => "task"
  | worker => "worker"
  | tenant => "tenant"

def variant : String → Option Value → Option MemoryScope
  | "task" => unitVariant task
  | "worker" => unitVariant worker
  | "tenant" => unitVariant tenant
  | _ => fun _ => none

def encoding : Encoding MemoryScope := .ofNames name variant (by intro a; cases a <;> rfl)

end MemoryScope

namespace MemoryRecord

def write (record : MemoryRecord) : Value :=
  object [
    ("scope", MemoryScope.encoding.write record.scope),
    ("subject", string record.subject),
    ("key", string record.key),
    ("value", string record.value)]

def fields : FieldReader MemoryRecord := do
  let scope ← required MemoryScope.encoding.read "scope"
  let subject ← required readString "subject"
  let key ← required readString "key"
  let value ← required readString "value"
  pure { scope, subject, key, value }

def encoding : Encoding MemoryRecord where
  write := write
  read := readStruct fields
  read_write a := by simp [readStruct_object, write, fields]
  write_ne_null _ := nofun

def query (record : MemoryRecord) : MemoryQuery := ⟨record.scope, record.subject, record.key⟩

end MemoryRecord

namespace MemoryQuery

def write (query : MemoryQuery) : Value :=
  object [
    ("scope", MemoryScope.encoding.write query.scope),
    ("subject", string query.subject),
    ("key", string query.key)]

def fields : FieldReader MemoryQuery := do
  let scope ← required MemoryScope.encoding.read "scope"
  let subject ← required readString "subject"
  let key ← required readString "key"
  pure { scope, subject, key }

def encoding : Encoding MemoryQuery where
  write := write
  read := readStruct fields
  read_write a := by simp [readStruct_object, write, fields]
  write_ne_null _ := nofun

end MemoryQuery

end GreenticDw

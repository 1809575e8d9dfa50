import GreenticDw.Text.Records
import GreenticDw.Types.Task

namespace GreenticDw

open Value

namespace TaskLifecycleState

def name : TaskLifecycleState → String
  | created => "created"
  | running => "running"
  | waiting => "waiting"
  | delegated => "delegated"
  | completed => "completed"
  | failed => "failed"
  | cancelled => "cancelled"

def variant : String → Option Value → Option TaskLifecycleState
  | "created" => unitVariant created
  | "running" => unitVariant running
  | "waiting" => unitVariant waiting
  | "delegated" => unitVariant delegated
  | "completed" => unitVariant completed
  | "failed" => unitVariant failed
  | "cancelled" => unitVariant cancelled
  | _ => fun _ => none

def encoding : Encoding TaskLifecycleState := .ofNames name variant (by intro a; cases a <;> rfl)

end TaskLifecycleState

namespace WorkerLocalePolicy

def name : WorkerLocalePolicy → String
  | workerDefault => "worker_default"
  | preferRequested => "prefer_requested"
  | preferHuman => "prefer_human"
  | strictRequested => "strict_requested"

def variant : String → Option Value → Option WorkerLocalePolicy
  | "worker_default" => unitVariant workerDefault
  | "prefer_requested" => unitVariant preferRequested
  | "prefer_human" => unitVariant preferHuman
  | "strict_requested" => unitVariant strictRequested
  | _ => fun _ => none

def encoding : Encoding WorkerLocalePolicy := .ofNames name variant (by intro a; cases a <;> rfl)

end WorkerLocalePolicy

namespace LocalePropagation

def name : LocalePropagation → String
  | currentTaskOnly => "current_task_only"
  | propagateToDelegates => "propagate_to_delegates"

def variant : String → Option Value → Option LocalePropagation
  | "current_task_only" => unitVariant currentTaskOnly
  | "propagate_to_delegates" => unitVariant propagateToDelegates
  | _ => fun _ => none

def encoding : Encoding LocalePropagation := .ofNames name variant (by intro a; cases a <;> rfl)

end LocalePropagation

namespace OutputLocaleGuidance

def write : OutputLocaleGuidance → Value
  | workerDefault => string "worker_default"
  | matchRequested => string "match_requested"
  | matchHuman => string "match_human"
  | explicit locale => object [("explicit", string locale)]

def variant : String → Option Value → Option OutputLocaleGuidance
  | "worker_default" => unitVariant workerDefault
  | "match_requested" => unitVariant matchRequested
  | "match_human" => unitVariant matchHuman
  | "explicit" => newtypeVariant explicit readString
  | _ => fun _ => none

def encoding : Encoding OutputLocaleGuidance where
  write := write
  read := readEnum variant
  read_write a := by cases a <;> rfl
  write_ne_null a := by cases a <;> simp [write]

end OutputLocaleGuidance

namespace LocaleContext

def write (locale : LocaleContext) : Value :=
  object [
    ("worker_default_locale", string locale.workerDefaultLocale),
    ("requested_locale", ofOption string locale.requestedLocale),
    ("human_locale", ofOption string locale.humanLocale),
    ("policy", WorkerLocalePolicy.encoding.write locale.policy),
    ("propagation", LocalePropagation.encoding.write locale.propagation),
    ("output", OutputLocaleGuidance.encoding.write locale.output)]

def fields : FieldReader LocaleContext := do
  let workerDefaultLocale ← required readString "worker_default_locale"
  let requestedLocale ← nullable readString "requested_locale"
  let humanLocale ← nullable readString "human_locale"
  let policy ← required WorkerLocalePolicy.encoding.read "policy"
  let propagation ← required LocalePropagation.encoding.read "propagation"
  let output ← required OutputLocaleGuidance.encoding.read "output"
  pure { workerDefaultLocale, requestedLocale, humanLocale, policy, propagation, output }

def encoding : Encoding LocaleContext where
  write := write
  read := readStruct fields
  read_write a := by simp [readStruct_object, write, fields]
  write_ne_null _ := nofun

end LocaleContext

namespace TenantScope

def write (scope : TenantScope) : Value :=
  object [("tenant", string scope.tenant), ("team", ofOption string scope.team)]

def fields : FieldReader TenantScope := do
  let tenant ← required readString "tenant"
  let team ← nullable readString "team"
  pure { tenant, team }

def encoding : Encoding TenantScope where
  write := write
  read := readStruct fields
  read_write a := by simp [readStruct_object, write, fields]
  write_ne_null _ := nofun

end TenantScope

namespace TaskEnvelope

def write (envelope : TaskEnvelope) : Value :=
  object [
    ("task_id", string envelope.taskId),
    ("worker_id", string envelope.workerId),
    ("state", TaskLifecycleState.encoding.write envelope.state),
    ("scope", TenantScope.encoding.write envelope.scope),
    ("locale", LocaleContext.encoding.write envelope.locale)]

def fields : FieldReader TaskEnvelope := do
  let taskId ← required readString "task_id"
  let workerId ← required readString "worker_id"
  let state ← required TaskLifecycleState.encoding.read "state"
  let scope ← required TenantScope.encoding.read "scope"
  let locale ← required LocaleContext.encoding.read "locale"
  pure { taskId, workerId, state, scope, locale }

def encoding : Encoding TaskEnvelope where
  write := write
  read := readStruct fields
  read_write a := by simp [readStruct_object, write, fields]
  write_ne_null _ := nofun

end TaskEnvelope

end GreenticDw

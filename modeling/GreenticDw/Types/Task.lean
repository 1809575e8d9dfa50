import Mathlib.Tactic

namespace GreenticDw

abbrev TaskId := String
abbrev WorkerId := String
abbrev TenantId := String
abbrev TeamId := String

inductive TaskLifecycleState where
  | created
  | running
  | waiting
  | delegated
  | completed
  | failed
  | cancelled
  deriving DecidableEq, Repr

namespace TaskLifecycleState

def canTransitionTo : TaskLifecycleState → TaskLifecycleState → Bool
  | created, running => true
  | created, cancelled => true
  | running, waiting => true
  | running, delegated => true
  | running, completed => true
  | running, failed => true
  | running, cancelled => true
  | waiting, running => true
  | waiting, failed => true
  | waiting, cancelled => true
  | delegated, running => true
  | delegated, failed => true
  | delegated, cancelled => true
  | _, _ => false

def isTerminal : TaskLifecycleState → Bool
  | completed => true
  | failed => true
  | cancelled => true
  | _ => false

lemma not_canTransitionTo_of_isTerminal {s : TaskLifecycleState} (h : s.isTerminal = true)
    (next : TaskLifecycleState) : s.canTransitionTo next = false := by
  cases s <;> simp_all [isTerminal, canTransitionTo]

end TaskLifecycleState

inductive WorkerLocalePolicy where
  | workerDefault
  | preferRequested
  | preferHuman
  | strictRequested
  deriving DecidableEq, Repr

inductive LocalePropagation where
  | currentTaskOnly
  | propagateToDelegates
  deriving DecidableEq, Repr

inductive OutputLocaleGuidance where
  | workerDefault
  | matchRequested
  | matchHuman
  | explicit (locale : String)
  deriving DecidableEq, Repr

structure LocaleContext where
  workerDefaultLocale : String
  requestedLocale : Option String
  humanLocale : Option String
  policy : WorkerLocalePolicy
  propagation : LocalePropagation
  output : OutputLocaleGuidance
  deriving DecidableEq, Repr

structure TenantScope where
  tenant : TenantId
  team : Option TeamId
  deriving DecidableEq, Repr

structure TaskEnvelope where
  taskId : TaskId
  workerId : WorkerId
  state : TaskLifecycleState
  scope : TenantScope
  locale : LocaleContext
  deriving DecidableEq, Repr

end GreenticDw

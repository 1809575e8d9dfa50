import GreenticDw.Types.Task

namespace GreenticDw

inductive RuntimeOperation where
  | start
  | step
  | wait
  | delegate (delegateWorkerId : String)
  | observe (eventName : String)
  | complete
  | fail (reason : String)
  | cancel
  deriving DecidableEq, Repr

def RuntimeOperation.name : RuntimeOperation → String
  | start => "start"
  | step => "step"
  | wait => "wait"
  | delegate _ => "delegate"
  | observe eventName => eventName
  | complete => "complete"
  | fail _ => "fail"
  | cancel => "cancel"

structure RuntimeEvent where
  taskId : TaskId
  workerId : WorkerId
  operation : RuntimeOperation
  fromState : TaskLifecycleState
  toState : TaskLifecycleState
  deriving DecidableEq, Repr

inductive CoreRuntimeError where
  | illegalTransition (operation : String) (source target : TaskLifecycleState)
  deriving DecidableEq, Repr

namespace Core

def targetState (operation : RuntimeOperation) (current : TaskLifecycleState) : TaskLifecycleState :=
  match operation with
  | .start => .running
  | .step => current
  | .wait => .waiting
  | .delegate _ => .delegated
  | .observe _ => current
  | .complete => .completed
  | .fail _ => .failed
  | .cancel => .cancelled

/-- The event and the envelope after the operation. A refused operation changes nothing. -/
def applyOperation (envelope : TaskEnvelope) (operation : RuntimeOperation) :
    Except CoreRuntimeError (RuntimeEvent × TaskEnvelope) :=
  let fromState := envelope.state
  let toState := targetState operation fromState
  if fromState ≠ toState ∧ fromState.canTransitionTo toState = false then
    .error (.illegalTransition operation.name fromState toState)
  else
    .ok ({ taskId := envelope.taskId, workerId := envelope.workerId, operation, fromState, toState },
      { envelope with state := toState })

end Core

def RuntimeEvent.Legal (e : RuntimeEvent) : Prop :=
  e.fromState = e.toState ∨ e.fromState.canTransitionTo e.toState = true

namespace Core

variable {envelope envelope' : TaskEnvelope} {operation : RuntimeOperation} {event : RuntimeEvent}

theorem applyOperation_ok (h : applyOperation envelope operation = .ok (event, envelope')) :
    event.Legal ∧ event.operation = operation ∧ event.fromState = envelope.state ∧
      event.toState = targetState operation envelope.state ∧
      envelope' = { envelope with state := event.toState } := by
  dsimp only [applyOperation] at h
  split_ifs at h with hc
  simp only [Except.ok.injEq, Prod.mk.injEq] at h
  obtain ⟨rfl, rfl⟩ := h
  refine ⟨?_, rfl, rfl, rfl, rfl⟩
  rw [not_and_or, not_not] at hc
  exact hc.imp id (by simp)

lemma applyOperation_of_legal
    (h : envelope.state = targetState operation envelope.state ∨
      envelope.state.canTransitionTo (targetState operation envelope.state) = true) :
    applyOperation envelope operation =
      .ok (⟨envelope.taskId, envelope.workerId, operation, envelope.state,
        targetState operation envelope.state⟩,
        { envelope with state := targetState operation envelope.state }) := by
  dsimp only [applyOperation]
  rw [if_neg]
  rintro ⟨hne, hno⟩
  rcases h with h | h
  · exact hne h
  · simp [h] at hno

end Core

lemma RuntimeEvent.Legal.terminal {e : RuntimeEvent} (h : e.Legal)
    (ht : e.fromState.isTerminal = true) : e.toState = e.fromState := by
  rcases h with h | h
  · exact h.symm
  · simp [TaskLifecycleState.not_canTransitionTo_of_isTerminal ht] at h

end GreenticDw

import Mathlib.Tactic

namespace GreenticDw

inductive DelegationMode where
  | none
  | single
  | parallel
  | mapReduce
  deriving DecidableEq, Repr

inductive MergePolicy where
  | firstSuccess
  | collectAll
  | majorityVote
  | weightedMerge
  | reducerArtifact
  deriving DecidableEq, Repr

structure DelegationDecision where
  mode : DelegationMode
  targetAgents : List String
  mergePolicy : MergePolicy
  rationale : String
  deriving DecidableEq, Repr

inductive HandoffContextScope where
  | explicitPackageOnly
  | parentTaskOnly
  | sharedMemoryAndArtifacts
  deriving DecidableEq, Repr

inductive HandoffReturnPolicy where
  | sync
  | firstReturn
  | collectAll
  | async
  deriving DecidableEq, Repr

structure SubtaskEnvelope where
  subtaskId : String
  parentRunId : String
  correlationId : String
  sourceAgentId : String
  targetAgent : String
  toolId : String
  goal : String
  contextPackageRef : String
  contextScope : HandoffContextScope
  expectedOutputSchema : String
  permissionsProfile : String
  deadline : String
  returnPolicy : HandoffReturnPolicy
  deriving DecidableEq, Repr

structure DelegationHandle where
  subtaskId : String
  targetAgent : String
  deriving DecidableEq, Repr

structure DelegationRequest where
  goal : String
  candidateAgents : List String
  deriving DecidableEq, Repr

structure StartSubtaskRequest where
  envelope : SubtaskEnvelope
  deriving DecidableEq, Repr

inductive DelegationError where
  | validation (message : String)
  | provider (message : String)
  deriving DecidableEq, Repr

structure DelegationProvider (σ : Type) where
  chooseDelegate : DelegationRequest → σ → Except DelegationError DelegationDecision × σ
  startSubtask : StartSubtaskRequest → σ → Except DelegationError DelegationHandle × σ

end GreenticDw

import GreenticDw.Providers.Delegation
import GreenticDw.Text.Strings
import GreenticDw.Traced.Checks

namespace GreenticDw

open Text

structure SubtaskResultEnvelope where
  subtaskId : String
  correlationId : String
  sourceAgentId : String
  targetAgentId : String
  toolId : String
  status : String
  outputArtifactRef : String
  outputSchemaRef : String
  notes : List String
  deriving DecidableEq, Repr

def validateDecision (decision : DelegationDecision) : Except DelegationError Unit := do
  rejectIf (isBlank decision.rationale) (.validation "delegation rationale must not be empty")
  match decision.mode with
  | .none =>
    rejectIf (decision.targetAgents ≠ [])
      (.validation "delegation mode `none` cannot include target agents")
  | _ =>
    rejectIf (decision.targetAgents = [])
      (.validation "delegation target_agents must not be empty")

lemma validateDecision_eq_ok {decision : DelegationDecision} :
    validateDecision decision = .ok () ↔ isBlank decision.rationale = false ∧
      (decision.mode = .none ↔ decision.targetAgents = []) := by
  rw [validateDecision, except_bind_eq_ok]
  cases hmode : decision.mode <;> simp

def rejectBlank : List (String × String) → Except DelegationError Unit
  | [] => pure ()
  | (label, value) :: fields => do
    rejectIf (isBlank value) (.validation s!"{label} must not be empty")
    rejectBlank fields

lemma rejectBlank_eq_ok {fields : List (String × String)} :
    rejectBlank fields = .ok () ↔ ∀ field ∈ fields, isBlank field.2 = false := by
  induction fields with
  | nil => simp [rejectBlank, pure, Except.pure]
  | cons field fields ih =>
    obtain ⟨label, value⟩ := field
    rw [rejectBlank, except_bind_eq_ok, List.forall_mem_cons, ← ih]
    simp only [rejectIf_eq_ok, Bool.not_eq_true]
    constructor
    · rintro ⟨_, hvalue, hfields⟩
      exact ⟨hvalue, hfields⟩
    · rintro ⟨hvalue, hfields⟩
      exact ⟨(), hvalue, hfields⟩

def SubtaskEnvelope.fields (envelope : SubtaskEnvelope) : List (String × String) :=
  [("subtask_id", envelope.subtaskId),
    ("parent_run_id", envelope.parentRunId),
    ("correlation_id", envelope.correlationId),
    ("source_agent_id", envelope.sourceAgentId),
    ("target_agent", envelope.targetAgent),
    ("tool_id", envelope.toolId),
    ("goal", envelope.goal),
    ("context_package_ref", envelope.contextPackageRef),
    ("expected_output_schema", envelope.expectedOutputSchema),
    ("permissions_profile", envelope.permissionsProfile),
    ("deadline", envelope.deadline)]

def validateSubtaskEnvelope (envelope : SubtaskEnvelope) : Except DelegationError Unit :=
  rejectBlank envelope.fields

def SubtaskResultEnvelope.fields (envelope : SubtaskResultEnvelope) : List (String × String) :=
  [("subtask_id", envelope.subtaskId),
    ("correlation_id", envelope.correlationId),
    ("source_agent_id", envelope.sourceAgentId),
    ("target_agent_id", envelope.targetAgentId),
    ("tool_id", envelope.toolId),
    ("status", envelope.status),
    ("output_artifact_ref", envelope.outputArtifactRef),
    ("output_schema_ref", envelope.outputSchemaRef)]

def validateSubtaskResultEnvelope (envelope : SubtaskResultEnvelope) :
    Except DelegationError Unit :=
  rejectBlank envelope.fields

end GreenticDw

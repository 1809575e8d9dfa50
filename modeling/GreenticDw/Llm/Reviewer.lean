import GreenticDw.Llm.Chat
import GreenticDw.Providers.Delegation
import GreenticDw.Providers.Reflection

namespace GreenticDw

structure ReflectionCodecs where
  outcome : Codec ReviewOutcome
  reviewStep : Codec ReviewStepRequest
  reviewFinal : Codec ReviewFinalRequest

namespace LlmReflection

variable {σ : Type} (llm : LlmProvider σ) (codecs : ReflectionCodecs)

def systemForReview (subject : String) : String :=
  "You are a reviewing assistant in a deep-worker system. Review the " ++ subject ++ " and " ++
  "return your assessment. Respond with ONLY a JSON object matching this schema (no prose, no " ++
  "markdown fences):\n\n" ++ Llm.jsonSchemaFor codecs.outcome

def systemForReviewStep : String := systemForReview codecs "step's output"

def systemForReviewFinal : String := systemForReview codecs "final output"

def review (system user : String) (s : σ) : Except ReflectionError ReviewOutcome × σ :=
  match Llm.completeJson llm codecs.outcome "reflection" .provider system user s with
  | (.error e, s') => (.error e, s')
  | (.ok outcome, s') => (outcome.validate.map fun _ => outcome, s')

def reviewStep (req : ReviewStepRequest) (s : σ) : Except ReflectionError ReviewOutcome × σ :=
  review llm codecs (systemForReviewStep codecs) (Llm.toStringPretty codecs.reviewStep req) s

def reviewFinal (req : ReviewFinalRequest) (s : σ) : Except ReflectionError ReviewOutcome × σ :=
  review llm codecs (systemForReviewFinal codecs) (Llm.toStringPretty codecs.reviewFinal req) s

end LlmReflection

def LlmReflectionProvider {σ : Type} (llm : LlmProvider σ) (codecs : ReflectionCodecs) :
    ReflectionProvider σ where
  reviewStep := LlmReflection.reviewStep llm codecs
  reviewFinal := LlmReflection.reviewFinal llm codecs

structure DelegationCodecs where
  decision : Codec DelegationDecision
  request : Codec DelegationRequest

namespace LlmDelegation

variable {σ : Type} (llm : LlmProvider σ) (codecs : DelegationCodecs)

def systemForChooseDelegate : String :=
  "You are a delegation strategist in a deep-worker system. Decide whether and how to " ++
  "delegate the goal to sub-agents. Respond with ONLY a JSON object matching this schema " ++
  "(no prose, no markdown fences):\n\n" ++ Llm.jsonSchemaFor codecs.decision

def checkDecision (decision : DelegationDecision) : Except DelegationError DelegationDecision :=
  if decision.mode ≠ .none ∧ decision.targetAgents = [] then
    .error (.validation "delegation decision selects a mode but names no target agents")
  else .ok decision

def chooseDelegate (req : DelegationRequest) (s : σ) :
    Except DelegationError DelegationDecision × σ :=
  match Llm.completeJson llm codecs.decision "delegation" .provider
      (systemForChooseDelegate codecs) (Llm.toStringPretty codecs.request req) s with
  | (.error e, s') => (.error e, s')
  | (.ok decision, s') => (checkDecision decision, s')

end LlmDelegation

def LlmDelegationProvider {σ : Type} (llm : LlmProvider σ) (codecs : DelegationCodecs) :
    DelegationProvider σ where
  chooseDelegate := LlmDelegation.chooseDelegate llm codecs
  startSubtask req s := (.ok ⟨req.envelope.subtaskId, req.envelope.targetAgent⟩, s)

end GreenticDw

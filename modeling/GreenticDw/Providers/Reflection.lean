import GreenticDw.Text.Strings
import GreenticDw.Traced.Checks

namespace GreenticDw

open Text

/-- A 32 bit float as far as the code compares one. -/
inductive F32 where
  | finite (q : ℚ)
  | infinite (negative : Bool)
  | nan
  deriving DecidableEq, Repr

def F32.inUnitRange : F32 → Bool
  | finite q => 0 ≤ q ∧ q ≤ 1
  | infinite _ => false
  | nan => false

inductive ReviewVerdict where
  | accept
  | revise
  | retry
  | delegate
  | fail
  deriving DecidableEq, Repr

inductive ReviewTargetKind where
  | planStep
  | artifact
  | agent
  | finalOutput
  deriving DecidableEq, Repr

structure ReviewTarget where
  kind : ReviewTargetKind
  reference : String
  deriving DecidableEq, Repr

structure ReviewFinding where
  code : String
  message : String
  target : ReviewTarget
  deriving DecidableEq, Repr

structure SuggestedAction where
  action : String
  target : ReviewTarget
  deriving DecidableEq, Repr

structure ReviewOutcome where
  verdict : ReviewVerdict
  score : Option F32
  findings : List ReviewFinding
  suggestedActions : List SuggestedAction
  binding : Bool
  deriving DecidableEq, Repr

structure ReviewStepRequest where
  planStepId : String
  outputArtifactRef : String
  context : Option String
  deriving DecidableEq, Repr

structure ReviewFinalRequest where
  runId : String
  outputArtifactRef : String
  context : Option String
  deriving DecidableEq, Repr

inductive ReflectionError where
  | validation (message : String)
  | provider (message : String)
  deriving DecidableEq, Repr

structure ReflectionProvider (σ : Type) where
  reviewStep : ReviewStepRequest → σ → Except ReflectionError ReviewOutcome × σ
  reviewFinal : ReviewFinalRequest → σ → Except ReflectionError ReviewOutcome × σ

namespace ReviewOutcome

def validateFindings : List ReviewFinding → Except ReflectionError Unit
  | [] => pure ()
  | finding :: findings => do
    rejectIf (isBlank finding.code || isBlank finding.message)
      (.validation "review findings must include code and message")
    rejectIf (isBlank finding.target.reference)
      (.validation "review finding target reference must not be empty")
    validateFindings findings

def validateActions : List SuggestedAction → Except ReflectionError Unit
  | [] => pure ()
  | action :: actions => do
    rejectIf (isBlank action.action || isBlank action.target.reference)
      (.validation "suggested actions must include an action and target reference")
    validateActions actions

def validate (outcome : ReviewOutcome) : Except ReflectionError Unit := do
  rejectIf (outcome.score.any fun score => !score.inUnitRange)
    (.validation "review score must be between 0.0 and 1.0")
  validateFindings outcome.findings
  validateActions outcome.suggestedActions

def Valid (outcome : ReviewOutcome) : Prop := outcome.validate = .ok ()

instance (outcome : ReviewOutcome) : Decidable outcome.Valid :=
  match h : outcome.validate with
  | .ok () => isTrue h
  | .error e => isFalse fun hv => by simp [Valid, h] at hv

end ReviewOutcome

end GreenticDw

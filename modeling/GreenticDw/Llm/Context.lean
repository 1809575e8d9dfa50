import GreenticDw.Providers.Context
import GreenticDw.Traced.Cells
import GreenticDw.Traced.Checks

namespace GreenticDw

open Text

def validateFragments : Option UInt32 → List ContextFragment → Except ContextError Unit
  | _, [] => pure ()
  | previousOrdinal, fragment :: fragments => do
    rejectIf (isBlank fragment.fragmentId || isBlank fragment.contentRef ||
        isBlank fragment.provenance)
      (.validation "context fragments must include id, content_ref, and provenance")
    rejectIf (previousOrdinal.any fun previous => fragment.ordinal < previous)
      (.validation "context fragments must be ordered deterministically")
    validateFragments (some fragment.ordinal) fragments

def validateContextPackage (package : ContextPackage) : Except ContextError Unit := do
  rejectIf (isBlank package.packageId) (.validation "package_id must not be empty")
  rejectIf (package.budget.maxFragments = 0)
    (.validation "budget max_fragments must be greater than zero")
  rejectIf (package.budget.maxBytes = 0)
    (.validation "budget max_bytes must be greater than zero")
  -- the length is cast to 32 bits before it is compared
  rejectIf (package.budget.maxFragments < UInt32.ofNat package.fragments.length)
    (.validation "fragment count exceeds max_fragments budget")
  validateFragments none package.fragments

namespace LlmContext

def fragment (contentRef : String) (i : ℕ) : ContextFragment where
  fragmentId := "frag-" ++ toString i
  kind := .workspaceArtifact
  contentRef := contentRef
  content := none
  provenance := "build_context"
  ordinal := UInt32.ofNat i

def fragments (req : BuildContextRequest) : List ContextFragment :=
  (req.fragmentRefs.take req.budget.maxFragments.toNat).mapIdx fun i contentRef =>
    fragment contentRef i

variable {σ : Type} (counter : Cell σ UInt64)

def buildContext (req : BuildContextRequest) (s : σ) : Except ContextError ContextPackage × σ :=
  let id := counter.read s
  let package : ContextPackage :=
    { packageId := "context-" ++ toString id, fragments := fragments req, budget := req.budget }
  -- the counter goes on even when the package is refused
  ((validateContextPackage package).map fun _ => package, counter.write (id + 1) s)

end LlmContext

def LlmContextProvider {σ : Type} (counter : Cell σ UInt64) : ContextProvider σ where
  buildContext := LlmContext.buildContext counter

end GreenticDw

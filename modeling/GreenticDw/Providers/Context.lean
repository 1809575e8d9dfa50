import GreenticDw.Text.Strings

namespace GreenticDw

inductive ContextFragmentKind where
  | memoryItem
  | workspaceArtifact
  | planStep
  | runtimeMetadata
  | promptFragment
  | knowledgeChunk
  deriving DecidableEq, Repr

structure ContextFragment where
  fragmentId : String
  kind : ContextFragmentKind
  contentRef : String
  content : Option String
  provenance : String
  ordinal : UInt32
  deriving DecidableEq, Repr

structure ContextBudget where
  maxFragments : UInt32
  maxBytes : UInt64
  deriving DecidableEq, Repr

structure ContextPackage where
  packageId : String
  fragments : List ContextFragment
  budget : ContextBudget
  deriving DecidableEq, Repr

structure BuildContextRequest where
  fragmentRefs : List String
  query : Option String
  budget : ContextBudget
  deriving DecidableEq, Repr

inductive ContextError where
  | validation (message : String)
  | provider (message : String)
  deriving DecidableEq, Repr

structure ContextProvider (σ : Type) where
  buildContext : BuildContextRequest → σ → Except ContextError ContextPackage × σ

def renderFragment (fragment : ContextFragment) : String :=
  match fragment.content with
  | some text => "- " ++ Text.trim text ++ "\n"
  | none => ""

def renderContext (package : ContextPackage) : String :=
  let frags := package.fragments.filter (·.content.isSome)
  if frags = [] then ""
  else
    -- the sort is stable: fragments of one ordinal keep the order of the package
    let sorted := frags.insertionSort fun a b => a.ordinal ≤ b.ordinal
    "<knowledge>\nRelevant passages retrieved from the worker's knowledge base:\n" ++
      String.join (sorted.map renderFragment) ++ "</knowledge>"

end GreenticDw

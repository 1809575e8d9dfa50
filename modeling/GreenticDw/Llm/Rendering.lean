import GreenticDw.Llm.Context
import GreenticDw.Orders.StableSort

namespace GreenticDw

open Text

def ContextFragmentKind.debug : ContextFragmentKind → String
  | .memoryItem => "MemoryItem"
  | .workspaceArtifact => "WorkspaceArtifact"
  | .planStep => "PlanStep"
  | .runtimeMetadata => "RuntimeMetadata"
  | .promptFragment => "PromptFragment"
  | .knowledgeChunk => "KnowledgeChunk"

namespace LlmContext

def packageLine (fragment : ContextFragment) : String :=
  "[" ++ toString fragment.ordinal ++ "] " ++ fragment.kind.debug ++ " " ++ fragment.contentRef ++
    (match fragment.content with
      | some text => " :: " ++ Text.trim text
      | none => "") ++ "\n"

def packageHeading (package : ContextPackage) : String :=
  "Context package " ++ package.packageId ++ " (" ++ toString package.fragments.length ++
    " fragments):\n"

def renderPackage (package : ContextPackage) : String :=
  let fragments := package.fragments.insertionSort fun a b => a.ordinal ≤ b.ordinal
  packageHeading package ++ String.join (fragments.map packageLine)

end LlmContext

namespace ContextPackage

structure Listing (package : ContextPackage) (listed : List ContextFragment) : Prop where
  perm : listed.Perm package.fragments
  ascending : listed.Pairwise fun a b => a.ordinal ≤ b.ordinal
  stable : ∀ ordinal : UInt32, listed.filter (fun fragment => fragment.ordinal = ordinal) =
    package.fragments.filter fun fragment => fragment.ordinal = ordinal

/-- The line that lists a fragment: what it refers to, and its content where it carries any. -/
structure LineOf (fragment : ContextFragment) (line : String) : Prop where
  inline : ∀ text, fragment.content = some text →
    line = "[" ++ toString fragment.ordinal ++ "] " ++ fragment.kind.debug ++ " " ++
      fragment.contentRef ++ " :: " ++ Text.trim text ++ "\n"
  reference : fragment.content = none →
    line = "[" ++ toString fragment.ordinal ++ "] " ++ fragment.kind.debug ++ " " ++
      fragment.contentRef ++ "\n"

def contents (fragments : List ContextFragment) : List String :=
  fragments.filterMap (·.content)

def passage (text : String) : String := "- " ++ Text.trim text ++ "\n"

def inOrder (fragments : List ContextFragment) : List ContextFragment :=
  sortBy (fun fragment => fragment.ordinal.toNat) fragments

variable {package : ContextPackage} {fragments : List ContextFragment}

lemma insertionSort_ordinal (fragments : List ContextFragment) :
    fragments.insertionSort (fun a b => a.ordinal ≤ b.ordinal) = inOrder fragments := by
  simp only [inOrder, sortBy, UInt32.le_iff_toNat_le]

lemma filter_inOrder (p : ContextFragment → Bool) :
    (inOrder fragments).filter p = inOrder (fragments.filter p) :=
  filter_sortBy p

lemma listing_inOrder (package : ContextPackage) :
    package.Listing (inOrder package.fragments) where
  perm := perm_sortBy _ _
  ascending := by
    simp only [UInt32.le_iff_toNat_le]
    exact pairwise_sortBy _ _
  stable := by
    intro ordinal
    simp only [← UInt32.toNat_inj]
    exact filter_key_sortBy _

lemma inOrder_perm (hnodup : (package.fragments.map (·.ordinal)).Nodup)
    (hperm : fragments.Perm package.fragments) :
    inOrder fragments = inOrder package.fragments := by
  apply sortBy_perm
  · have hnumbers := hnodup.map (f := UInt32.toNat) fun _ _ => UInt32.toNat_inj.mp
    rwa [List.map_map] at hnumbers
  · exact hperm

lemma lineOf_packageLine (fragment : ContextFragment) :
    LineOf fragment (LlmContext.packageLine fragment) where
  inline text h := by simp [LlmContext.packageLine, h, String.append_assoc]
  reference h := by simp [LlmContext.packageLine, h]

lemma contents_eq_nil_iff : contents fragments = [] ↔ ∀ f ∈ fragments, f.content = none := by
  rw [contents, List.filterMap_eq_nil_iff]

lemma map_renderFragment (fragments : List ContextFragment) :
    (fragments.filter fun f => f.content.isSome).map renderFragment =
      (contents fragments).map passage := by
  induction fragments with
  | nil => rfl
  | cons fragment fragments ih =>
    cases hcontent : fragment.content with
    | none => simpa [contents, hcontent] using ih
    | some text => simpa [contents, hcontent, renderFragment, passage] using ih

lemma renderContext_eq (package : ContextPackage) :
    renderContext package = if contents (inOrder package.fragments) = [] then "" else
      "<knowledge>\nRelevant passages retrieved from the worker's knowledge base:\n" ++
        String.join ((contents (inOrder package.fragments)).map passage) ++ "</knowledge>" := by
  have hnone : package.fragments.filter (fun f => f.content.isSome) = [] ↔
      contents (inOrder package.fragments) = [] := by
    rw [contents_eq_nil_iff, List.filter_eq_nil_iff]
    apply forall_congr'
    intro f
    rw [(listing_inOrder package).perm.mem_iff]
    simp
  simp only [renderContext, hnone]
  rw [insertionSort_ordinal, ← filter_inOrder, map_renderFragment]

lemma renderContext_eq_empty_iff :
    renderContext package = "" ↔ ∀ f ∈ package.fragments, f.content = none := by
  have hempty : contents (inOrder package.fragments) = [] ↔
      ∀ f ∈ package.fragments, f.content = none := by
    rw [contents_eq_nil_iff]
    exact forall_congr' fun f => imp_congr_left (listing_inOrder package).perm.mem_iff
  rw [renderContext_eq, ← hempty]
  constructor
  · intro h
    by_contra hne
    rw [if_neg hne] at h
    have hlength := congrArg String.length h
    simp at hlength
  · exact fun h => if_pos h

theorem rendered_in_order (package : ContextPackage) :
    (∃ listed lines, package.Listing listed ∧ List.Forall₂ LineOf listed lines ∧
      LlmContext.renderPackage package =
        LlmContext.packageHeading package ++ String.join lines ∧
      renderContext package = if contents listed = [] then "" else
        "<knowledge>\nRelevant passages retrieved from the worker's knowledge base:\n" ++
          String.join ((contents listed).map passage) ++ "</knowledge>") ∧
    (renderContext package = "" ↔ ∀ f ∈ package.fragments, f.content = none) ∧
    ∀ fragments : List ContextFragment, fragments.Perm package.fragments →
      (package.fragments.map (·.ordinal)).Nodup →
      renderContext { package with fragments := fragments } = renderContext package := by
  refine ⟨⟨_, (inOrder package.fragments).map LlmContext.packageLine, listing_inOrder package, ?_,
    ?_, renderContext_eq package⟩, renderContext_eq_empty_iff, ?_⟩
  · rw [List.forall₂_map_right_iff, List.forall₂_same]
    exact fun fragment _ => lineOf_packageLine fragment
  · simp only [LlmContext.renderPackage, insertionSort_ordinal]
  · intro fragments hperm hnodup
    rw [renderContext_eq, renderContext_eq, inOrder_perm hnodup hperm]

def notes : ContextPackage where
  packageId := "notes"
  fragments :=
    [⟨"b", .knowledgeChunk, "ref-b", some "second", "corpus", 1⟩,
     ⟨"a", .knowledgeChunk, "ref-a", some " first ", "corpus", 0⟩,
     ⟨"m", .memoryItem, "ref-m", none, "memory", 2⟩]
  budget := ⟨8, 16384⟩

theorem rendered_in_order_notes :
    notes.fragments.reverse.Perm notes.fragments ∧
    renderContext { notes with fragments := notes.fragments.reverse } = renderContext notes :=
  ⟨List.reverse_perm _, (rendered_in_order notes).2.2 _ (List.reverse_perm _) (by decide)⟩

end ContextPackage

end GreenticDw

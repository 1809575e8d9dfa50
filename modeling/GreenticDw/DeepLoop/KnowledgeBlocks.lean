import GreenticDw.DeepLoop.Runs
import GreenticDw.DeepLoop.Script
import GreenticDw.Llm.Rendering

/-! The knowledge blocks that the deep loop shows to the planner and to the reviewer, and the budget
it asks the context provider to keep. -/

namespace GreenticDw

namespace ContextPackage

def passageBytes (package : ContextPackage) : ℕ :=
  ((contents package.fragments).map fun text => (Text.trim text).utf8ByteSize + 3).sum

structure Small (package : ContextPackage) : Prop where
  fragments : (contents package.fragments).length ≤ 8
  bytes : package.passageBytes ≤ 16298

variable {package : ContextPackage}

lemma utf8ByteSize_join (texts : List String) :
    (String.join texts).utf8ByteSize = (texts.map String.utf8ByteSize).sum := by
  induction texts with
  | nil => simp
  | cons text texts ih => simp [ih]

lemma utf8ByteSize_passage (text : String) :
    (passage text).utf8ByteSize = (Text.trim text).utf8ByteSize + 3 := by
  have hmark : "- ".utf8ByteSize = 2 := by decide
  have hend : "\n".utf8ByteSize = 1 := by decide
  rw [passage, String.utf8ByteSize_append, String.utf8ByteSize_append, hmark, hend]
  omega

lemma utf8ByteSize_renderContext (h : contents package.fragments ≠ []) :
    (renderContext package).utf8ByteSize = package.passageBytes + 86 := by
  have hperm : (contents (inOrder package.fragments)).Perm (contents package.fragments) :=
    (listing_inOrder package).perm.filterMap _
  have hsize : String.utf8ByteSize
      "<knowledge>\nRelevant passages retrieved from the worker's knowledge base:\n" = 74 := by
    decide +kernel
  have hend : "</knowledge>".utf8ByteSize = 12 := by decide
  have hne : contents (inOrder package.fragments) ≠ [] := fun hnil =>
    h (List.perm_nil.mp (hnil ▸ hperm.symm))
  rw [renderContext_eq, if_neg hne, String.utf8ByteSize_append, String.utf8ByteSize_append,
    utf8ByteSize_join, hsize, hend, List.map_map]
  have hsum := (hperm.map fun text => (Text.trim text).utf8ByteSize + 3).sum_eq
  simp only [Function.comp_def, utf8ByteSize_passage, passageBytes] at hsum ⊢
  omega

end ContextPackage

variable {σ : Type}

open ContextPackage

def Call.context : Call σ → Option (Option String)
  | .nextActions request _ => some request.context
  | .revisePlan request _ => some request.context
  | .reviewStep request _ => some request.context
  | .reviewFinal request _ => some request.context
  | _ => none

def Call.built : Call σ → Option (BuildContextRequest × ContextPackage)
  | .buildContext request (.ok package) => some (request, package)
  | _ => none

def lastBuilt (h : List (Call σ)) : Option (BuildContextRequest × ContextPackage) :=
  (h.filterMap Call.built).getLast?

def Shown (h : List (Call σ)) (x : Call σ) : Prop :=
  ∀ context, x.context = some context → ∃ query fragmentRef package,
    lastBuilt h = some (contextRequest query fragmentRef, package) ∧ context = rendered package

/-- The package behind a block that is shown keeps to the budget that was asked for. -/
def WithinBudget (h : List (Call σ)) (x : Call σ) : Prop :=
  ∀ block, x.context = some (some block) → ∃ request package,
    lastBuilt h = some (request, package) ∧ block = renderContext package ∧
    block.utf8ByteSize ≤ request.budget.maxBytes.toNat ∧
    (contents package.fragments).length ≤ request.budget.maxFragments.toNat

def OnSmallPackage (h : List (Call σ)) (x : Call σ) : Prop :=
  ∀ block, x.context = some (some block) → ∀ request package,
    lastBuilt h = some (request, package) → package.Small

structure Call.Showing (context : Option String) (x : Call σ) : Prop where
  built : x.built = none
  context : ∀ shown, x.context = some shown → shown = context

section

variable {h t : List (Call σ)} {x : Call σ} {package : ContextPackage} {block : String}

lemma rendered_eq_some : rendered package = some block ↔
    contents package.fragments ≠ [] ∧ renderContext package = block := by
  rw [rendered, ne_eq, contents_eq_nil_iff, ← renderContext_eq_empty_iff]
  split_ifs <;> simp [*]

lemma within_iff_small (hne : contents package.fragments ≠ []) {query fragmentRef : String} :
    (renderContext package).utf8ByteSize ≤ (contextRequest query fragmentRef).budget.maxBytes.toNat ∧
        (contents package.fragments).length ≤
          (contextRequest query fragmentRef).budget.maxFragments.toNat ↔ package.Small := by
  have hbytes : (contextRequest query fragmentRef).budget.maxBytes.toNat = 16384 := rfl
  have hfragments : (contextRequest query fragmentRef).budget.maxFragments.toNat = 8 := rfl
  rw [utf8ByteSize_renderContext hne, hbytes, hfragments]
  constructor
  · rintro ⟨hsize, hcount⟩
    exact ⟨hcount, by omega⟩
  · rintro ⟨hcount, hsize⟩
    exact ⟨by omega, hcount⟩

lemma Shown.within_iff (hx : Shown h x) : WithinBudget h x ↔ OnSmallPackage h x := by
  refine forall_congr' fun block => imp_congr_right fun hcontext => ?_
  obtain ⟨query, fragmentRef, package, hlast, hrendered⟩ := hx _ hcontext
  obtain ⟨hne, rfl⟩ := rendered_eq_some.mp hrendered.symm
  rw [hlast]
  constructor
  · rintro ⟨request, built, hbuilt, _, hwithin⟩ request' built' hbuilt'
    obtain ⟨rfl, rfl⟩ := Prod.mk.inj (Option.some.inj hbuilt)
    obtain ⟨rfl, rfl⟩ := Prod.mk.inj (Option.some.inj hbuilt')
    exact (within_iff_small hne).mp hwithin
  · intro hsmall
    exact ⟨_, package, rfl, rfl, (within_iff_small hne).mpr (hsmall _ _ rfl)⟩

lemma lastBuilt_append (ht : ∀ x ∈ t, x.built = none) : lastBuilt (h ++ t) = lastBuilt h := by
  rw [lastBuilt, List.filterMap_append, List.filterMap_eq_nil_iff.mpr ht, List.append_nil,
    lastBuilt]

lemma lastBuilt_concat {request : BuildContextRequest} :
    lastBuilt (h ++ [.buildContext request (.ok package)]) = some (request, package) := by
  simp [lastBuilt, Call.built]

lemma shown_of_showing {query fragmentRef : String}
    (hlast : lastBuilt h = some (contextRequest query fragmentRef, package))
    (ht : ∀ x ∈ t, x.Showing (rendered package)) : Always Shown h t := by
  induction t generalizing h with
  | nil => trivial
  | cons x t ih =>
    rw [List.forall_mem_cons] at ht
    refine ⟨fun context hcontext => ?_, ih ?_ ht.2⟩
    · exact ⟨query, fragmentRef, package, hlast, ht.1.context context hcontext⟩
    · rw [lastBuilt_append (by simpa using ht.1.built), hlast]

lemma shown_mediating (ht : ∀ x ∈ t, x.Mediating) : Always Shown h t := by
  apply always_of_forall
  intro x hx g context hcontext
  have hm := ht x hx
  cases x <;> first | exact hm.elim | cases hcontext

lemma showing_of_mediating {context : Option String} (hx : x.Mediating) : x.Showing context := by
  cases x <;> first | exact hx.elim | exact ⟨rfl, fun _ h => by cases h⟩

end

namespace DeepLoopCoordinator

variable {c : DeepLoopCoordinator σ} {s : LoopState} {action : PlannedAction} {step : PlanStep}
  {context : Option String} {w : World σ} {o : Ran σ}

lemma WorkCall.showing {x : Call σ} (hx : c.WorkCall step context x) : x.Showing context := by
  cases hx with
  | mediating hm => exact showing_of_mediating hm
  | revising => exact ⟨rfl, fun _ h => (Option.some.inj h).symm⟩
  | reviewing => exact ⟨rfl, fun _ h => (Option.some.inj h).symm⟩
  | _ => exact ⟨rfl, fun _ h => by cases h⟩

lemma SettlingCall.showing {x : Call σ} (hx : c.SettlingCall context x) : x.Showing context := by
  cases hx with
  | mediating hm => exact showing_of_mediating hm
  | checking _ => exact ⟨rfl, fun _ h => by cases h⟩
  | reviewing => exact ⟨rfl, fun _ h => (Option.some.inj h).symm⟩

lemma Acted.shown (ha : c.Acted s action w o) (h : List (Call σ)) : Always Shown h o.trace := by
  have hbuild : ∀ {request answer}, Shown h (.buildContext request answer) := by
    rintro request answer context ⟨⟩
  cases ha with
  | missing _ => trivial
  | noContext _ => exact ⟨hbuild, trivial⟩
  | delegated _ _ _ hd =>
    exact ⟨hbuild, shown_of_showing lastBuilt_concat fun x hx => (hd.calls _ x hx).showing⟩
  | executed _ _ _ he =>
    exact ⟨hbuild, shown_of_showing lastBuilt_concat fun x hx => (he.calls x hx).showing⟩

lemma sequential_shown : Traced.Sequential (S := LoopState) (R := DeepLoopRun)
    fun _ (_ : World σ) (o : Ran σ) => ∀ h, Always Shown h o.trace where
  skip _ _ _ := trivial
  seq ht ho h := (always_append _ _ _).mpr ⟨ht h, ho _⟩

lemma iteration_shown (s : LoopState) (i : ℕ) (w : World σ) (h : List (Call σ)) :
    Always Shown h ((c.runIteration s i).run w).trace := by
  have hi := c.runIteration_cases s i w
  generalize (c.runIteration s i).run w = o at hi
  have hbuild : ∀ {request answer}, Shown h (.buildContext request answer) := by
    rintro request answer context ⟨⟩
  have hplan : ∀ {query fragmentRef package answer}, Shown
      (h ++ [.buildContext (contextRequest query fragmentRef) (.ok package)])
      (.nextActions ⟨s.plan, rendered package⟩ answer) := by
    rintro query fragmentRef package answer context ⟨⟩
    exact ⟨query, fragmentRef, package, lastBuilt_concat, rfl⟩
  cases hi with
  | noContext _ => exact ⟨hbuild, trivial⟩
  | noActions _ _ => exact ⟨hbuild, hplan, trivial⟩
  | settled _ _ hs =>
    refine ⟨hbuild, hplan, ?_⟩
    refine shown_of_showing ((lastBuilt_append ?_).trans lastBuilt_concat) ?_
    · simp [Call.built]
    · exact fun x hx => (hs.calls x hx).showing
  | acted _ _ _ =>
    refine ⟨hbuild, hplan, ?_⟩
    exact sequential_shown.forEach (fun s a w => (c.runAction_cases s a w).shown) _ _ _ _

theorem run_shown (c : DeepLoopCoordinator σ) (plan : PlanDocument) (w : World σ) :
    Always Shown [] ((c.run plan).run w).trace := by
  refine run_of_iterations (P := fun o => Always Shown [] o.trace) sequential_shown
    iteration_shown ?_ ?_
  · exact fun _ _ _ hs => shown_mediating hs.mediating
  · exact fun _ _ _ hs ho => (always_append _ _ _).mpr ⟨shown_mediating hs.mediating, ho _⟩

theorem blocks_within_iff (c : DeepLoopCoordinator σ) (plan : PlanDocument) (w : World σ) :
    Always WithinBudget [] ((c.run plan).run w).trace ↔
      Always OnSmallPackage [] ((c.run plan).run w).trace := by
  have hshown := (always_iff _ _).mp (c.run_shown plan w)
  rw [always_iff, always_iff]
  constructor
  · intro h pre x post hx
    exact (hshown pre x post hx).within_iff.mp (h pre x post hx)
  · intro h pre x post hx
    exact (hshown pre x post hx).within_iff.mpr (h pre x post hx)

def talkative : ContextPackage where
  packageId := "context"
  fragments := (List.range 9).map fun i =>
    ⟨toString i, .knowledgeChunk, "", some "passage", "corpus", UInt32.ofNat i⟩
  budget := ⟨8, 16384⟩

def talkativeRun : Outcome (World Replies) (Call Replies) DeepLoopError DeepLoopRun :=
  (DeepLoopCoordinator.run { Script.coordinator ⟨.operation .step, .accept, .accept, 1⟩ with
    context := ⟨fun _ s => (.ok talkative, s)⟩ } Script.onePlan).run ⟨[], Script.task .running⟩

theorem nine_fragments_shown : ¬Always WithinBudget [] talkativeRun.trace := by
  intro h
  obtain ⟨built, shown, rest, htrace, hbuilt, hshown⟩ : ∃ built shown rest,
      talkativeRun.trace = [built] ++ shown :: rest ∧
      lastBuilt [built] = some (contextRequest "goal" "plan", talkative) ∧
      shown.context = some (some (renderContext talkative)) :=
    ⟨_, _, _, rfl, rfl, by decide +kernel⟩
  have hwithin := (always_iff _ _).mp h [built] shown rest htrace _ hshown
  obtain ⟨request, package, hlast, _, _, hcount⟩ := hwithin
  rw [List.nil_append, hbuilt] at hlast
  obtain ⟨rfl, rfl⟩ := Prod.mk.inj (Option.some.inj hlast)
  revert hcount
  decide +kernel

end DeepLoopCoordinator

end GreenticDw

import GreenticDw.Composition.Bundles

/-! Whether every pack that a document lists gets into the bundle. The plan has one inclusion for
all the dependencies of a kind that share a pack id, and none for an entry that no dependency
backs. -/

namespace GreenticDw

open Text

def PackDependencyRef.kind (dependency : PackDependencyRef) : BundlePackKind :=
  if dependency.providerId.isSome then .providerPack else .supportPack

def PackDependencyRef.listing (dependency : PackDependencyRef) :
    BundlePackKind × String × PackSourceRef × Option String :=
  (dependency.kind, dependency.packId, dependency.sourceRef, dependency.version)

def BundleInclusionPlan.pack (entry : BundleInclusionPlan) : String × PackSourceRef :=
  (entry.packId, entry.sourceRef)

namespace BundlePackInclusion

variable (inclusion : BundlePackInclusion)

def listing : BundlePackKind × String × PackSourceRef × Option String :=
  (inclusion.kind, inclusion.packId, inclusion.resolution.sourceRef, inclusion.resolution.version)

def pack : String × PackSourceRef := (inclusion.packId, inclusion.resolution.sourceRef)

end BundlePackInclusion

/-- Every pack of the document is in the plan, for all the agents it is listed for. -/
structure KeepsPacks (document : DwCompositionDocument) (plan : DwBundlePlan) : Prop where
  dependencies : ∀ dependency ∈ document.sharedPackDependencies, ∃ inclusion ∈ plan.inclusions,
    inclusion.listing = dependency.listing ∧
      ∀ other ∈ document.sharedPackDependencies, other.listing = dependency.listing →
        other.appliesToAgents ⊆ inclusion.appliesToAgents
  entries : ∀ entry ∈ document.bundlePlan, ∃ inclusion ∈ plan.inclusions,
    inclusion.pack = entry.pack ∧
      ∀ other ∈ document.bundlePlan, other.pack = entry.pack →
        other.appliesToAgents ⊆ inclusion.appliesToAgents

namespace DwCompositionDocument

variable (document : DwCompositionDocument)

def SourcesAgree : Prop :=
  ∀ dependency ∈ document.sharedPackDependencies, ∀ other ∈ document.sharedPackDependencies,
    other.kind = dependency.kind → other.packId = dependency.packId →
      other.listing = dependency.listing

def NamesApplicationPack (entry : BundleInclusionPlan) : Prop :=
  entry.pack = (document.outputPlan.generatedPackId.getD
      s!"pack.generated.{document.application.applicationId}",
    ⟨.ofPath ("./" ++ (document.application.applicationId ++ ".pack"))⟩) ∧
  ∀ other ∈ document.bundlePlan, other.pack = entry.pack →
    other.appliesToAgents ⊆ document.agentIds

def NamesDependency (entry : BundleInclusionPlan) : Prop :=
  ∃ dependency ∈ document.sharedPackDependencies,
    entry.pack = (dependency.packId, dependency.sourceRef) ∧
    ∀ other ∈ document.bundlePlan, other.pack = entry.pack → ∀ agent ∈ other.appliesToAgents,
      ∃ user ∈ document.sharedPackDependencies, user.kind = dependency.kind ∧
        user.packId = dependency.packId ∧ agent ∈ user.appliesToAgents

def EntriesBacked : Prop :=
  ∀ entry ∈ document.bundlePlan,
    document.NamesApplicationPack entry ∨ document.NamesDependency entry

structure Gathers (inclusion : BundlePackInclusion) : Prop where
  resolution : ∃ dependency ∈ document.sharedPackDependencies, dependency.kind = inclusion.kind ∧
    dependency.packId = inclusion.packId ∧ inclusion.resolution = dependency.resolution
  agents : ∀ agent, agent ∈ inclusion.appliesToAgents ↔
    ∃ dependency ∈ document.sharedPackDependencies, dependency.kind = inclusion.kind ∧
      dependency.packId = inclusion.packId ∧ agent ∈ dependency.appliesToAgents

variable {document} {inclusion : BundlePackInclusion} {dependency : PackDependencyRef}

section Groups

variable {α β : Type} {g : Grouping α β String} {xs : List α} {k : String} {b : β}

lemma gathers_of_group (of : α → PackDependencyRef) (resolution : β → BundleSourceResolution)
    (agents : β → List String) (hresolution : ∀ x, resolution (g.first x) = (of x).resolution)
    (hkept : ∀ b x, resolution (g.join b x) = resolution b)
    (hagents : ∀ x a, a ∈ agents (g.first x) ↔ a ∈ (of x).appliesToAgents)
    (hjoined : ∀ b x a, a ∈ agents (g.join b x) ↔ a ∈ agents b ∨ a ∈ (of x).appliesToAgents)
    (h : g.group xs k = some b) :
    (∃ x ∈ xs, g.key x = k ∧ resolution b = (of x).resolution) ∧
      ∀ a, a ∈ agents b ↔ ∃ x ∈ xs, g.key x = k ∧ a ∈ (of x).appliesToAgents := by
  have hgroup := Grouping.group_induction (P := fun ys b =>
    (∃ x ∈ ys, resolution b = (of x).resolution) ∧
      ∀ a, a ∈ agents b ↔ ∃ x ∈ ys, a ∈ (of x).appliesToAgents) ?_ ?_ h
  · simpa [List.mem_filter, and_assoc] using hgroup
  · intro x
    exact ⟨⟨x, List.mem_singleton_self x, hresolution x⟩, by simp [hagents]⟩
  · rintro ys b x ⟨⟨y, hy, hb⟩, hmem⟩
    refine ⟨⟨y, List.mem_append_left _ hy, (hkept b x).trans hb⟩, fun a => ?_⟩
    rw [hjoined, hmem]
    simp only [List.mem_append, List.mem_singleton, or_and_right, exists_or, exists_eq_left]

lemma exists_value {x : α} (h : x ∈ xs) :
    ∃ b ∈ (xs.foldl g.enter ∅).values, g.name b = g.key x := by
  have hne : g.group xs (g.key x) ≠ none := fun hnone =>
    Grouping.group_eq_none.mp hnone x h rfl
  obtain ⟨b, hgroup⟩ := Option.ne_none_iff_exists'.mp hne
  refine ⟨b, SortedMap.mem_values.mpr ⟨g.key x, ?_⟩, Grouping.name_of_group hgroup⟩
  rw [Grouping.get_enterAll]
  exact hgroup

end Groups

lemma kind_eq_provider : dependency.kind = .providerPack ↔
    ∃ providerId, dependency.providerId = some providerId := by
  rw [← Option.isSome_iff_exists, PackDependencyRef.kind]
  split_ifs with h <;> simp [h]

lemma kind_eq_support : dependency.kind = .supportPack ↔ dependency.providerId = none := by
  rw [← Option.not_isSome_iff_eq_none, PackDependencyRef.kind]
  split_ifs with h <;> simp [h]

section Listed

variable {p : PackDependencyRef → Prop} {packId : String}

lemma exists_provider_iff : (∃ entry ∈ providerDependencies
      (sortBy PackDependencyRef.packId document.sharedPackDependencies),
      providerGrouping.key entry = packId ∧ p entry.1) ↔
    ∃ dependency ∈ document.sharedPackDependencies, dependency.kind = .providerPack ∧
      dependency.packId = packId ∧ p dependency := by
  simp only [providerDependencies, List.mem_filterMap, mem_sortBy, Option.map_eq_some_iff,
    kind_eq_provider]
  constructor
  · rintro ⟨_, ⟨dependency, hmem, providerId, hprovider, rfl⟩, hkey, hp⟩
    exact ⟨dependency, hmem, ⟨providerId, hprovider⟩, hkey, hp⟩
  · rintro ⟨dependency, hmem, ⟨providerId, hprovider⟩, hkey, hp⟩
    exact ⟨_, ⟨dependency, hmem, providerId, hprovider, rfl⟩, hkey, hp⟩

lemma exists_support_iff : (∃ dependency ∈ supportDependencies
      (sortBy PackDependencyRef.packId document.sharedPackDependencies),
      (supportGrouping document.supportRationaleById).key dependency = packId ∧ p dependency) ↔
    ∃ dependency ∈ document.sharedPackDependencies, dependency.kind = .supportPack ∧
      dependency.packId = packId ∧ p dependency := by
  simp only [supportDependencies, List.mem_filter, mem_sortBy, Option.isNone_iff_eq_none,
    kind_eq_support, and_assoc]
  rfl

end Listed

lemma gathers_provider {pack : ProviderPackRef} (h : pack ∈ document.providerPacks) :
    document.Gathers pack.inclusion := by
  obtain ⟨packId, hget⟩ := SortedMap.mem_values.mp h
  rw [Grouping.get_enterAll] at hget
  obtain rfl : pack.packId = packId := Grouping.name_of_group hget
  obtain ⟨hresolution, hagents⟩ := gathers_of_group Prod.fst ProviderPackRef.resolution
    ProviderPackRef.appliesToAgents (fun _ => rfl) (fun _ _ => rfl) (fun _ a => mem_sortedUnique)
    (fun _ _ a => mem_sortedUnique.trans List.mem_append) hget
  exact ⟨exists_provider_iff.mp hresolution, fun a =>
    (hagents a).trans (exists_provider_iff (p := fun dependency => a ∈ dependency.appliesToAgents))⟩

lemma gathers_support {pack : SupportPackRef} (h : pack ∈ document.supportPacks) :
    document.Gathers pack.inclusion := by
  obtain ⟨packId, hget⟩ := SortedMap.mem_values.mp h
  rw [Grouping.get_enterAll] at hget
  obtain rfl : pack.packId = packId := Grouping.name_of_group hget
  obtain ⟨hresolution, hagents⟩ := gathers_of_group id SupportPackRef.resolution
    SupportPackRef.appliesToAgents (fun _ => rfl) (fun _ _ => rfl) (fun _ a => mem_sortedUnique)
    (fun _ _ a => mem_sortedUnique.trans List.mem_append) hget
  exact ⟨exists_support_iff.mp hresolution, fun a =>
    (hagents a).trans (exists_support_iff (p := fun dependency => a ∈ dependency.appliesToAgents))⟩

lemma mem_inclusions : inclusion ∈ document.bundle.inclusions ↔
    inclusion = document.generatedAppPack.inclusion ∨
      (∃ pack ∈ document.providerPacks, pack.inclusion = inclusion) ∨
        ∃ pack ∈ document.supportPacks, pack.inclusion = inclusion := by
  simp only [bundle, List.mem_append, List.mem_singleton, List.mem_map, or_assoc]

lemma gathers_of_mem (h : inclusion ∈ document.bundle.inclusions)
    (hkind : inclusion.kind ≠ .generatedApplicationPack) : document.Gathers inclusion := by
  obtain rfl | ⟨pack, hpack, rfl⟩ | ⟨pack, hpack, rfl⟩ := mem_inclusions.mp h
  · exact absurd rfl hkind
  · exact gathers_provider hpack
  · exact gathers_support hpack

lemma exists_providerPack {providerId : String} (h : dependency ∈ document.sharedPackDependencies)
    (hprovider : dependency.providerId = some providerId) :
    ∃ pack ∈ document.providerPacks, pack.packId = dependency.packId := by
  have hentry := (exists_provider_iff (p := fun _ => True)).mpr
    ⟨dependency, h, kind_eq_provider.mpr ⟨providerId, hprovider⟩, rfl, trivial⟩
  obtain ⟨entry, hentry, hkey, -⟩ := hentry
  rw [← hkey]
  exact exists_value hentry

lemma exists_supportPack (h : dependency ∈ document.sharedPackDependencies)
    (hprovider : dependency.providerId = none) :
    ∃ pack ∈ document.supportPacks, pack.packId = dependency.packId := by
  have hentry := (exists_support_iff (p := fun _ => True)).mpr
    ⟨dependency, h, kind_eq_support.mpr hprovider, rfl, trivial⟩
  obtain ⟨entry, hentry, hkey, -⟩ := hentry
  rw [← hkey]
  exact exists_value hentry

lemma exists_inclusion (h : dependency ∈ document.sharedPackDependencies) :
    ∃ inclusion, document.bundle.inclusions.filter (fun inclusion =>
      inclusion.kind = dependency.kind ∧ inclusion.packId = dependency.packId) = [inclusion] := by
  cases hprovider : dependency.providerId with
  | some providerId =>
    obtain ⟨pack, hpack, hid⟩ := exists_providerPack h hprovider
    rw [kind_eq_provider.mpr ⟨providerId, hprovider⟩, ← hid]
    exact ⟨_, filter_inclusions_provider hpack⟩
  | none =>
    obtain ⟨pack, hpack, hid⟩ := exists_supportPack h hprovider
    rw [kind_eq_support.mpr hprovider, ← hid]
    exact ⟨_, filter_inclusions_support hpack⟩

lemma kind_ne_generated (dependency : PackDependencyRef) :
    dependency.kind ≠ .generatedApplicationPack := by
  rw [PackDependencyRef.kind]
  split_ifs <;> decide

lemma gathers_dependency (h : dependency ∈ document.sharedPackDependencies) :
    ∃ inclusion ∈ document.bundle.inclusions, inclusion.kind = dependency.kind ∧
      inclusion.packId = dependency.packId ∧ document.Gathers inclusion := by
  obtain ⟨inclusion, hfilter⟩ := exists_inclusion h
  have hmem : inclusion ∈ document.bundle.inclusions.filter (fun inclusion =>
      inclusion.kind = dependency.kind ∧ inclusion.packId = dependency.packId) :=
    hfilter ▸ List.mem_singleton_self inclusion
  rw [List.mem_filter, decide_eq_true_eq] at hmem
  obtain ⟨hmem, hkind, hid⟩ := hmem
  exact ⟨inclusion, hmem, hkind, hid, gathers_of_mem hmem (hkind ▸ kind_ne_generated dependency)⟩

lemma inclusion_unique (h : dependency ∈ document.sharedPackDependencies)
    {inclusion other : BundlePackInclusion} (hmem : inclusion ∈ document.bundle.inclusions)
    (hother : other ∈ document.bundle.inclusions) (hkind : inclusion.kind = dependency.kind)
    (hid : inclusion.packId = dependency.packId) (hkind' : other.kind = dependency.kind)
    (hid' : other.packId = dependency.packId) : inclusion = other := by
  obtain ⟨single, hfilter⟩ := exists_inclusion h
  have hsingle : ∀ inclusion ∈ document.bundle.inclusions, inclusion.kind = dependency.kind →
      inclusion.packId = dependency.packId → inclusion = single := by
    intro inclusion hmem hkind hid
    rw [← List.mem_singleton, ← hfilter, List.mem_filter, decide_eq_true_eq]
    exact ⟨hmem, hkind, hid⟩
  exact (hsingle inclusion hmem hkind hid).trans (hsingle other hother hkind' hid').symm

lemma listing_of_gathers (agree : document.SourcesAgree) (hinclusion : document.Gathers inclusion)
    (h : dependency ∈ document.sharedPackDependencies) (hkind : inclusion.kind = dependency.kind)
    (hid : inclusion.packId = dependency.packId) : inclusion.listing = dependency.listing := by
  obtain ⟨first, hfirst, hkind', hid', hresolution⟩ := hinclusion.resolution
  rw [← agree dependency h first hfirst (hkind'.trans hkind) (hid'.trans hid)]
  simp [BundlePackInclusion.listing, PackDependencyRef.listing, hkind', hid', hresolution,
    PackDependencyRef.resolution]

lemma sourcesAgree_of_keepsPacks (h : KeepsPacks document document.bundle) :
    document.SourcesAgree := by
  intro dependency hmem other hother hkind hid
  obtain ⟨inclusion, hinclusion, hlisting, -⟩ := h.dependencies dependency hmem
  obtain ⟨inclusion', hinclusion', hlisting', -⟩ := h.dependencies other hother
  have heq : inclusion = inclusion' := by
    apply inclusion_unique hmem hinclusion hinclusion' (congrArg Prod.fst hlisting)
      (congrArg (·.2.1) hlisting)
    · exact (congrArg Prod.fst hlisting').trans hkind
    · exact (congrArg (·.2.1) hlisting').trans hid
  rw [← hlisting, ← hlisting', heq]

lemma entriesBacked_of_keepsPacks (h : KeepsPacks document document.bundle) :
    document.EntriesBacked := by
  intro entry hentry
  obtain ⟨inclusion, hinclusion, hpack, hagents⟩ := h.entries entry hentry
  by_cases hkind : inclusion.kind = .generatedApplicationPack
  · have heq : inclusion = document.generatedAppPack.inclusion := by
      rw [← List.mem_singleton, ← filter_inclusions_generated, List.mem_filter, decide_eq_true_eq]
      exact ⟨hinclusion, hkind⟩
    rw [heq] at hpack hagents
    refine .inl ⟨hpack.symm, fun other hother hsame agent hagent => ?_⟩
    exact mem_sortedUnique.mp (hagents other hother hsame hagent)
  · have hgathers := gathers_of_mem hinclusion hkind
    obtain ⟨dependency, hmem, hkind', hid, hresolution⟩ := hgathers.resolution
    refine .inr ⟨dependency, hmem, ?_, ?_⟩
    · rw [← hpack, BundlePackInclusion.pack, hresolution, hid]
      rfl
    · intro other hother hsame agent hagent
      rw [hkind', hid]
      exact (hgathers.agents agent).mp (hagents other hother hsame hagent)

lemma keepsPacks_of_agree (agree : document.SourcesAgree) (backed : document.EntriesBacked) :
    KeepsPacks document document.bundle where
  dependencies dependency hmem := by
    obtain ⟨inclusion, hinclusion, hkind, hid, hgathers⟩ := gathers_dependency hmem
    refine ⟨inclusion, hinclusion, listing_of_gathers agree hgathers hmem hkind hid, ?_⟩
    intro other hother hlisting agent hagent
    rw [hgathers.agents, hkind, hid]
    exact ⟨other, hother, congrArg Prod.fst hlisting, congrArg (·.2.1) hlisting, hagent⟩
  entries entry hentry := by
    obtain ⟨hpack, hagents⟩ | ⟨dependency, hmem, hpack, hagents⟩ := backed entry hentry
    · refine ⟨document.generatedAppPack.inclusion, mem_inclusions.mpr (.inl rfl), hpack.symm, ?_⟩
      intro other hother hsame agent hagent
      exact mem_sortedUnique.mpr (hagents other hother hsame hagent)
    · obtain ⟨inclusion, hinclusion, hkind, hid, hgathers⟩ := gathers_dependency hmem
      have hlisting := listing_of_gathers agree hgathers hmem hkind hid
      refine ⟨inclusion, hinclusion, ?_, ?_⟩
      · rw [hpack]
        exact Prod.ext hid (congrArg (·.2.2.1) hlisting)
      · intro other hother hsame agent hagent
        rw [hgathers.agents, hkind, hid]
        exact hagents other hother hsame agent hagent

theorem keepsPacks_iff {plan : DwBundlePlan} (planned : document.toBundlePlan = .ok plan) :
    KeepsPacks document plan ↔ document.SourcesAgree ∧ document.EntriesBacked := by
  obtain ⟨-, -, rfl⟩ := toBundlePlan_eq_ok.mp planned
  constructor
  · intro h
    exact ⟨sourcesAgree_of_keepsPacks h, entriesBacked_of_keepsPacks h⟩
  · rintro ⟨agree, backed⟩
    exact keepsPacks_of_agree agree backed

def sharingDocument (dependencies : List PackDependencyRef) (entries : List BundleInclusionPlan) :
    DwCompositionDocument where
  application := ⟨"desk", "Desk", none, none, []⟩
  agents := [⟨"clerk", "Clerk", "template", none, [], ⟨[], ∅⟩, ⟨none, []⟩⟩]
  sharedPackDependencies := dependencies
  bundlePlan := entries
  unresolvedSetupItems := []
  routing := none
  outputPlan := ⟨none, none, false⟩
  sourceProvenance := none

def sharedPack (packId path : String) : PackDependencyRef where
  packId := packId
  sourceRef := ⟨.ofPath path⟩
  version := none
  providerId := none
  appliesToAgents := ["clerk"]

def plannedPack (packId path : String) : BundleInclusionPlan :=
  ⟨packId, ⟨.ofPath path⟩, ["clerk"], none⟩

lemma toBundlePlan_sharingDocument (dependencies : List PackDependencyRef)
    (entries : List BundleInclusionPlan) :
    (sharingDocument dependencies entries).toBundlePlan =
      .ok (sharingDocument dependencies entries).bundle :=
  toBundlePlan_eq_ok.mpr
    ⟨List.cons_ne_nil _ _, (by decide : contains "://" "desk" = false), rfl⟩

def twoPacks : DwCompositionDocument :=
  sharingDocument [sharedPack "forms" "./forms.pack", sharedPack "letters" "./letters.pack"]
    [plannedPack "letters" "./letters.pack", plannedPack "forms" "./forms.pack"]

theorem keepsPacks_two_packs : KeepsPacks twoPacks twoPacks.bundle := by
  apply (keepsPacks_iff (toBundlePlan_sharingDocument _ _)).mpr
  refine ⟨by simp [SourcesAgree, sharingDocument, sharedPack], fun entry hentry => .inr ?_⟩
  have hclerk : ∀ other ∈ twoPacks.bundlePlan, other.appliesToAgents = ["clerk"] := by
    simp [twoPacks, sharingDocument, plannedPack]
  have hnamed : ∃ dependency ∈ twoPacks.sharedPackDependencies,
      entry.pack = (dependency.packId, dependency.sourceRef) ∧
        dependency.appliesToAgents = ["clerk"] := by
    rcases List.mem_pair.mp hentry with rfl | rfl
    · exact ⟨sharedPack "letters" "./letters.pack", by simp [twoPacks, sharingDocument], rfl, rfl⟩
    · exact ⟨sharedPack "forms" "./forms.pack", by simp [twoPacks, sharingDocument], rfl, rfl⟩
  obtain ⟨dependency, hmem, hpack, hagents⟩ := hnamed
  refine ⟨dependency, hmem, hpack, fun other hother _ agent hagent => ?_⟩
  rw [hclerk other hother] at hagent
  exact ⟨dependency, hmem, rfl, rfl, hagents ▸ hagent⟩

theorem loses_second_source_and_planned_pack :
    (∃ plan, (sharingDocument [sharedPack "forms" "./forms.pack", sharedPack "forms" "./new.pack"] []).toBundlePlan
        = .ok plan ∧
      ¬KeepsPacks (sharingDocument [sharedPack "forms" "./forms.pack", sharedPack "forms" "./new.pack"] []) plan) ∧
    ∃ plan, (sharingDocument [] [plannedPack "forms" "./forms.pack"]).toBundlePlan = .ok plan ∧
      ¬KeepsPacks (sharingDocument [] [plannedPack "forms" "./forms.pack"]) plan := by
  refine ⟨⟨_, toBundlePlan_sharingDocument _ _, fun h => ?_⟩,
    ⟨_, toBundlePlan_sharingDocument _ _, fun h => ?_⟩⟩
  · have hlisting := sourcesAgree_of_keepsPacks h (sharedPack "forms" "./forms.pack")
      (List.mem_cons_self ..) (sharedPack "forms" "./new.pack") (by simp [sharingDocument]) rfl rfl
    revert hlisting
    decide
  · obtain hnames | ⟨dependency, hmem, -⟩ :=
      entriesBacked_of_keepsPacks h (plannedPack "forms" "./forms.pack") (List.mem_singleton_self _)
    · have hid := congrArg Prod.fst hnames.1
      revert hid
      decide
    · cases hmem

end DwCompositionDocument

end GreenticDw

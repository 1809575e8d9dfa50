import GreenticDw.Composition.Bundling

namespace GreenticDw

namespace DwCompositionResolveRequest

variable {request : DwCompositionResolveRequest} {catalog : DwProviderCatalog}
  {agents : List DwAgentResolveRequest} {dependency : PackDependencyRef}

def withAgents (request : DwCompositionResolveRequest) (agents : List DwAgentResolveRequest) :
    DwCompositionResolveRequest :=
  { request with agents := agents }

def OneSupportPackPerRef (request : DwCompositionResolveRequest) : Prop :=
  ∀ first ∈ request.supportPackRefs, ∀ second ∈ request.supportPackRefs,
    first.source.rawRef = second.source.rawRef → first = second

lemma perm_allUses (permuted : request.agents.Perm agents) :
    (request.allUses catalog).Perm ((request.withAgents agents).allUses catalog) :=
  permuted.flatMap_right _

lemma perm_supportPackRefs (permuted : request.agents.Perm agents) :
    request.supportPackRefs.Perm (request.withAgents agents).supportPackRefs :=
  permuted.flatMap_right _

lemma mem_reordered (permuted : request.agents.Perm agents)
    (h : dependency ∈ (request.document catalog).sharedPackDependencies) :
    ∃ other ∈ ((request.withAgents agents).document catalog).sharedPackDependencies,
      packGrouping.name other = packGrouping.name dependency ∧
      ∀ a, a ∈ dependency.appliesToAgents ↔ a ∈ other.appliesToAgents := by
  obtain ⟨packUse, huse, hkey⟩ := exists_use h
  obtain ⟨other, hother, hname⟩ := mem_of_use ((perm_allUses permuted).mem_iff.mp huse)
  refine ⟨other, hother, hname.trans hkey, fun a => ?_⟩
  rw [mem_appliesToAgents h, mem_appliesToAgents hother, hname, hkey]
  simp only [(perm_allUses permuted).mem_iff]

lemma rationale_document (h : dependency ∈ (request.document catalog).sharedPackDependencies)
    (hkind : dependency.providerId = none) :
    (request.document catalog).supportRationaleById.get dependency.packId =
      some (some "Template packaging support pack") := by
  have hplanned := (SharedPacks.add_all (request.allUses catalog)).2.1
  have hreason : ∀ entry ∈ (request.document catalog).bundlePlan,
      entry.rationale = some "Template packaging support pack" := by
    intro entry hentry
    have hmem := hplanned ▸ List.mem_map_of_mem
      (f := fun entry : BundleInclusionPlan => (entry.packId, entry.sourceRef, entry.rationale))
      hentry
    obtain ⟨_, _, hsome⟩ := List.mem_filterMap.mp hmem
    split_ifs at hsome
    exact (congrArg (fun parts => parts.2.2) (Option.some.inj hsome)).symm
  have hentry : ∃ entry ∈ (request.document catalog).bundlePlan,
      entry.packId = dependency.packId := by
    have hmem : (dependency.packId, dependency.sourceRef,
        some "Template packaging support pack") ∈ (request.document catalog).bundlePlan.map
          (fun entry => (entry.packId, entry.sourceRef, entry.rationale)) :=
      hplanned ▸ List.mem_filterMap.mpr ⟨dependency, h, by simp [hkind]⟩
    obtain ⟨entry, hentry, hparts⟩ := List.mem_map.mp hmem
    exact ⟨entry, hentry, congrArg Prod.fst hparts⟩
  rw [DwCompositionDocument.supportRationaleById, SortedMap.get_ofEntries]
  obtain ⟨entry, hentry, hid⟩ := hentry
  cases hfind : ((request.document catalog).bundlePlan.map
      fun entry => (entry.packId, entry.rationale)).reverse.find?
        fun entry => entry.1 = dependency.packId with
  | none =>
    rw [List.find?_eq_none] at hfind
    exact absurd (decide_eq_true hid) (hfind (entry.packId, entry.rationale)
      (List.mem_reverse.mpr (List.mem_map_of_mem hentry)))
  | some found =>
    obtain ⟨other, hother, rfl⟩ :=
      List.mem_map.mp (List.mem_reverse.mp (List.mem_of_find?_eq_some hfind))
    exact congrArg some (hreason other hother)

lemma providerPacks_subset (permuted : request.agents.Perm agents) {pack : ProviderPackRef}
    (h : pack ∈ (request.document catalog).providerPacks) :
    pack ∈ ((request.withAgents agents).document catalog).providerPacks := by
  rw [DwCompositionDocument.mem_providerPacks distinct_document] at h ⊢
  obtain ⟨dependency, hmem, providerId, hprovider, rfl⟩ := h
  obtain ⟨other, hother, hname, hagents⟩ := mem_reordered permuted hmem
  have hid : other.packId = dependency.packId := congrArg Prod.snd hname
  have hkind : dependency.providerId.isSome = true := by rw [hprovider]; rfl
  have hkind' : other.providerId.isSome = true := (congrArg Prod.fst hname).trans hkind
  obtain ⟨provider, hfind, hown, hsource, hversion⟩ := provider_dependency hmem hkind
  obtain ⟨provider', hfind', hown', hsource', hversion'⟩ := provider_dependency hother hkind'
  rw [hid, hfind] at hfind'
  cases hfind'
  refine ⟨other, hother, providerId, ?_, ?_⟩
  · rw [hown', hid, ← hown, hprovider]
  · simp only [providerGrouping, ProviderPackRef.extend, ProviderPackRef.ofDependency,
      PackDependencyRef.resolution, List.nil_append, hid, hsource, hsource', hversion, hversion',
      sortedUnique_ext hagents]

lemma supportPacks_subset (permuted : request.agents.Perm agents)
    (unique : request.OneSupportPackPerRef) {pack : SupportPackRef}
    (h : pack ∈ (request.document catalog).supportPacks) :
    pack ∈ ((request.withAgents agents).document catalog).supportPacks := by
  rw [DwCompositionDocument.mem_supportPacks distinct_document] at h ⊢
  obtain ⟨dependency, hmem, hkind, rfl⟩ := h
  obtain ⟨other, hother, hname, hagents⟩ := mem_reordered permuted hmem
  have hid : other.packId = dependency.packId := congrArg Prod.snd hname
  have hkind' : other.providerId = none := by
    simpa [packGrouping, hkind] using congrArg Prod.fst hname
  obtain ⟨hfind, hversion⟩ := support_dependency hmem hkind
  obtain ⟨hfind', hversion'⟩ := support_dependency hother hkind'
  have hsource : other.sourceRef = dependency.sourceRef := by
    apply unique _ ((perm_supportPackRefs permuted).mem_iff.mpr (List.mem_of_find?_eq_some hfind'))
      _ (List.mem_of_find?_eq_some hfind)
    have hraw := List.find?_some hfind
    have hraw' := List.find?_some hfind'
    simp only [decide_eq_true_eq] at hraw hraw'
    rw [hraw, hraw', hid]
  refine ⟨other, hother, hkind', ?_⟩
  have hrationale := rationale_document hmem hkind
  have hrationale' := rationale_document hother hkind'
  rw [hid] at hrationale'
  simp only [supportGrouping, SupportPackRef.extend, SupportPackRef.ofDependency,
    PackDependencyRef.resolution, List.nil_append, hid, hsource, hversion, hversion', hrationale,
    hrationale', sortedUnique_ext hagents]

theorem bundle_reordered (permuted : request.agents.Perm agents)
    (unique : request.OneSupportPackPerRef) :
    (request.document catalog).bundle = ((request.withAgents agents).document catalog).bundle := by
  have unique' : (request.withAgents agents).OneSupportPackPerRef := by
    intro first hfirst second hsecond
    exact unique first ((perm_supportPackRefs permuted).mem_iff.mpr hfirst) second
      ((perm_supportPackRefs permuted).mem_iff.mpr hsecond)
  have hproviders : (request.document catalog).providerPacks =
      ((request.withAgents agents).document catalog).providerPacks :=
    eq_of_ascending DwCompositionDocument.pairwise_providerPacks
      DwCompositionDocument.pairwise_providerPacks fun pack =>
      ⟨providerPacks_subset permuted, fun h =>
        @providerPacks_subset (request.withAgents agents) catalog request.agents permuted.symm
          pack h⟩
  have hsupports : (request.document catalog).supportPacks =
      ((request.withAgents agents).document catalog).supportPacks :=
    eq_of_ascending DwCompositionDocument.pairwise_supportPacks
      DwCompositionDocument.pairwise_supportPacks fun pack =>
      ⟨supportPacks_subset permuted unique, fun h =>
        @supportPacks_subset (request.withAgents agents) catalog request.agents permuted.symm
          unique' pack h⟩
  have hagents : sortedUnique (request.document catalog).agentIds =
      sortedUnique ((request.withAgents agents).document catalog).agentIds := by
    apply sortedUnique_ext
    intro a
    exact ((permuted.map _).map _).mem_iff
  have hgenerated : (request.document catalog).generatedAppPack =
      ((request.withAgents agents).document catalog).generatedAppPack := by
    rw [DwCompositionDocument.generatedAppPack, DwCompositionDocument.generatedAppPack, hagents]
    rfl
  have hmulti : (request.document catalog).multiAgent =
      ((request.withAgents agents).document catalog).multiAgent := by
    simp [DwCompositionDocument.multiAgent, DwCompositionResolveRequest.document, withAgents,
      permuted.length_eq, permuted.any_eq]
  rw [DwCompositionDocument.bundle, DwCompositionDocument.bundle, hproviders, hsupports, hgenerated,
    hmulti]
  rfl

theorem bundle_plan_order_independent {document document' : DwCompositionDocument}
    {plan plan' : DwBundlePlan} (permuted : request.agents.Perm agents)
    (unique : request.OneSupportPackPerRef)
    (resolved : request.resolve catalog = .ok document)
    (resolved' : (request.withAgents agents).resolve catalog = .ok document')
    (planned : document.toBundlePlan = .ok plan) (planned' : document'.toBundlePlan = .ok plan') :
    plan = plan' := by
  obtain ⟨_, rfl⟩ := resolve_eq_ok.mp resolved
  obtain ⟨_, rfl⟩ := resolve_eq_ok.mp resolved'
  obtain ⟨_, _, rfl⟩ := DwCompositionDocument.toBundlePlan_eq_ok.mp planned
  obtain ⟨_, _, rfl⟩ := DwCompositionDocument.toBundlePlan_eq_ok.mp planned'
  exact bundle_reordered permuted unique

theorem bundle_plan_order_independent_desk : ((deskRequest ∅).document deskCatalog).bundle =
    (((deskRequest ∅).withAgents (deskRequest ∅).agents.reverse).document deskCatalog).bundle :=
  bundle_plan_order_independent (List.reverse_perm _).symm
    (by simp [OneSupportPackPerRef, supportPackRefs, deskRequest, deskAgent, deskTemplate])
    (resolve_deskRequest ∅) (resolve_eq_ok.mpr ⟨List.cons_ne_nil _ _, rfl⟩)
    (DwCompositionDocument.toBundlePlan_eq_ok.mpr ⟨List.cons_ne_nil _ _, by decide, rfl⟩)
    (DwCompositionDocument.toBundlePlan_eq_ok.mpr ⟨List.cons_ne_nil _ _, by decide, rfl⟩)

end DwCompositionResolveRequest

end GreenticDw

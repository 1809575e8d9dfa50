import GreenticDw.Composition.Bundles
import GreenticDw.Composition.Soundness

/-! From the request to the bundle: every pack that an agent needs is one dependency and one
inclusion, for just the agents that need it. -/

namespace GreenticDw

open Text

def DwCompositionDocument.Binds (document : DwCompositionDocument) (agentId providerId : String) :
    Prop :=
  ∃ composed ∈ document.agents, composed.agentId = agentId ∧
    ∃ binding ∈ composed.capabilityBindings, binding.providerBinding.providerId = providerId

def DwCompositionResolveRequest.Needs (request : DwCompositionResolveRequest)
    (agentId rawRef : String) : Prop :=
  ∃ agent ∈ request.agents, agent.agentId = agentId ∧
    ∃ supportPack ∈ agent.template.packagingHints.supportPackRefs,
      supportPack.source.rawRef = rawRef

def DwCompositionResolveRequest.supportPackRefs (request : DwCompositionResolveRequest) :
    List PackSourceRef :=
  request.agents.flatMap (·.template.packagingHints.supportPackRefs)

structure Carried (document : DwCompositionDocument) (plan : DwBundlePlan)
    (isFor : PackDependencyRef → Bool) (kind : BundlePackKind) (packId : String)
    (sourceRef : PackSourceRef) (version : Option String) (agents : Set String) : Prop where
  dependency : ∃ dependency, document.sharedPackDependencies.filter isFor = [dependency] ∧
    dependency.sourceRef = sourceRef ∧ dependency.version = version ∧
    dependency.appliesToAgents.Nodup ∧ ∀ a, a ∈ dependency.appliesToAgents ↔ a ∈ agents
  inclusion : ∃ inclusion,
    plan.inclusions.filter (fun i => i.kind = kind ∧ i.packId = packId) = [inclusion] ∧
    inclusion.resolution.sourceRef = sourceRef ∧ inclusion.resolution.version = version ∧
    inclusion.appliesToAgents.Pairwise (· < ·) ∧ ∀ a, a ∈ inclusion.appliesToAgents ↔ a ∈ agents

structure Bundled (request : DwCompositionResolveRequest) (document : DwCompositionDocument)
    (plan : DwBundlePlan) : Prop where
  providers : ∀ composed ∈ document.agents, ∀ binding ∈ composed.capabilityBindings,
    Carried document plan (fun d => d.providerId = some binding.providerBinding.providerId)
      .providerPack binding.providerBinding.providerId binding.providerBinding.sourceRef.source
      binding.providerBinding.version {a | document.Binds a binding.providerBinding.providerId}
  supports : ∀ agent ∈ request.agents,
    ∀ supportPack ∈ agent.template.packagingHints.supportPackRefs,
    ∃ first, request.supportPackRefs.find? (·.source.rawRef = supportPack.source.rawRef) =
        some first ∧
      Carried document plan
        (fun d => d.providerId = none ∧ d.packId = supportPack.source.rawRef) .supportPack
        supportPack.source.rawRef first none {a | request.Needs a supportPack.source.rawRef}
  generated : plan.inclusions.filter (fun i => i.kind = .generatedApplicationPack) =
    [plan.generatedAppPack.inclusion]
  only : ∀ inclusion ∈ plan.inclusions, inclusion.kind = .generatedApplicationPack ∨
    inclusion.kind = .providerPack ∧ (∃ a, document.Binds a inclusion.packId) ∨
    inclusion.kind = .supportPack ∧ ∃ a, request.Needs a inclusion.packId
  distinct : (plan.inclusions.map (·.inclusionId)).Nodup

namespace DwCompositionResolveRequest

variable (request : DwCompositionResolveRequest) (catalog : DwProviderCatalog)

def allUses : List PackUse := request.agents.flatMap (request.packUses catalog)

variable {request catalog} {document : DwCompositionDocument} {packUse : PackUse}
  {key : Bool × String} {dependency : PackDependencyRef}

lemma mem_allUses : packUse ∈ request.allUses catalog ↔
    (∃ agent ∈ request.agents, ∃ spec ∈ agent.capabilitySpecs, ∃ provider,
      request.boundProvider catalog agent spec.1 = some provider ∧
        packUse = .ofProvider agent.agentId provider) ∨
    ∃ agent ∈ request.agents, ∃ supportPack ∈ agent.template.packagingHints.supportPackRefs,
      packUse = .ofSupportPack agent.agentId supportPack := by
  simp only [allUses, packUses, providerUses, List.mem_flatMap, List.mem_append, List.mem_map,
    Option.mem_toList, eq_comm (a := packUse)]
  constructor
  · rintro ⟨agent, hagent, ⟨spec, hspec, provider, hbound, huse⟩ | ⟨supportPack, hpack, huse⟩⟩
    · exact .inl ⟨agent, hagent, spec, hspec, provider, hbound, huse⟩
    · exact .inr ⟨agent, hagent, supportPack, hpack, huse⟩
  · rintro (⟨agent, hagent, spec, hspec, provider, hbound, huse⟩ | ⟨agent, hagent, supportPack, hpack, huse⟩)
    · exact ⟨agent, hagent, .inl ⟨spec, hspec, provider, hbound, huse⟩⟩
    · exact ⟨agent, hagent, .inr ⟨supportPack, hpack, huse⟩⟩

lemma provider_of_use {providerId : String} (huse : packUse ∈ request.allUses catalog)
    (hkey : packGrouping.key packUse = (true, providerId)) :
    ∃ provider, catalog.find providerId = some provider ∧
      packUse = .ofProvider packUse.agentId provider := by
  obtain ⟨agent, _, spec, _, provider, hbound, rfl⟩ | ⟨agent, _, supportPack, _, rfl⟩ :=
    mem_allUses.mp huse
  · have hfind := find_of_boundProvider hbound
    have hid : provider.providerId = providerId := congrArg Prod.snd hkey
    exact ⟨provider, hid ▸ hfind, rfl⟩
  · exact absurd (congrArg Prod.fst hkey) Bool.false_ne_true

lemma supportPack_of_use {rawRef : String} (huse : packUse ∈ request.allUses catalog)
    (hkey : packGrouping.key packUse = (false, rawRef)) :
    ∃ supportPack, packUse = .ofSupportPack packUse.agentId supportPack := by
  obtain ⟨agent, _, spec, _, provider, _, rfl⟩ | ⟨agent, _, supportPack, _, rfl⟩ :=
    mem_allUses.mp huse
  · exact absurd (congrArg Prod.fst hkey) (Bool.false_ne_true ∘ Eq.symm)
  · exact ⟨supportPack, rfl⟩

lemma binds_iff {agentId providerId : String} :
    (request.document catalog).Binds agentId providerId ↔ ∃ packUse ∈ request.allUses catalog,
      packGrouping.key packUse = (true, providerId) ∧ packUse.agentId = agentId := by
  constructor
  · rintro ⟨composed, hcomposed, rfl, binding, hbinding, rfl⟩
    obtain ⟨agent, hagent, rfl⟩ := List.mem_map.mp hcomposed
    obtain ⟨spec, hspec, hbinding⟩ := List.mem_flatMap.mp hbinding
    obtain ⟨provider, hbound, rfl⟩ := List.mem_map.mp hbinding
    exact ⟨_, mem_allUses.mpr (.inl ⟨agent, hagent, spec, hspec, provider,
      Option.mem_toList.mp hbound, rfl⟩), rfl, rfl⟩
  · rintro ⟨packUse, huse, hkey, rfl⟩
    obtain ⟨agent, hagent, spec, hspec, provider, hbound, rfl⟩ | ⟨agent, _, supportPack, _, rfl⟩ :=
      mem_allUses.mp huse
    · refine ⟨_, List.mem_map_of_mem hagent, rfl, provider.capabilityBinding spec.1 spec.2,
        List.mem_flatMap.mpr ⟨spec, hspec, ?_⟩, congrArg Prod.snd hkey⟩
      exact List.mem_map.mpr ⟨provider, Option.mem_toList.mpr hbound, rfl⟩
    · exact absurd (congrArg Prod.fst hkey) Bool.false_ne_true

lemma needs_iff {agentId rawRef : String} :
    request.Needs agentId rawRef ↔ ∃ packUse ∈ request.allUses catalog,
      packGrouping.key packUse = (false, rawRef) ∧ packUse.agentId = agentId := by
  constructor
  · rintro ⟨agent, hagent, rfl, supportPack, hpack, rfl⟩
    exact ⟨_, mem_allUses.mpr (.inr ⟨agent, hagent, supportPack, hpack, rfl⟩), rfl, rfl⟩
  · rintro ⟨packUse, huse, hkey, rfl⟩
    obtain ⟨agent, _, spec, _, provider, _, rfl⟩ | ⟨agent, hagent, supportPack, hpack, rfl⟩ :=
      mem_allUses.mp huse
    · exact absurd (congrArg Prod.fst hkey) (Bool.false_ne_true ∘ Eq.symm)
    · exact ⟨agent, hagent, rfl, supportPack, hpack, congrArg Prod.snd hkey⟩

lemma sharedPackDependencies_document : (request.document catalog).sharedPackDependencies =
    packGrouping.placeAll [] (request.allUses catalog) :=
  (SharedPacks.add_all (request.allUses catalog)).2.2

lemma distinct_document : Distinct (request.document catalog).sharedPackDependencies := by
  rw [sharedPackDependencies_document]
  exact Grouping.nodup_placeAll _

lemma gathers_of_mem (h : dependency ∈ (request.document catalog).sharedPackDependencies) :
    ∃ first, (request.allUses catalog).find?
        (fun packUse => packGrouping.key packUse = packGrouping.name dependency) = some first ∧
      dependency.Gathers first ((request.allUses catalog).filter
        fun packUse => packGrouping.key packUse = packGrouping.name dependency) := by
  rw [sharedPackDependencies_document, Grouping.mem_placeAll] at h
  obtain ⟨first, hfirst, hgathers⟩ := group_gathers h
  exact ⟨first, by rw [← List.head?_filter]; exact hfirst, hgathers⟩

lemma mem_of_use (h : packUse ∈ request.allUses catalog) :
    ∃ dependency ∈ (request.document catalog).sharedPackDependencies,
      packGrouping.name dependency = packGrouping.key packUse := by
  cases hgroup : packGrouping.group (request.allUses catalog) (packGrouping.key packUse) with
  | none => exact absurd rfl (Grouping.group_eq_none.mp hgroup packUse h)
  | some dependency =>
    have hname := Grouping.name_of_group hgroup
    refine ⟨dependency, ?_, hname⟩
    rw [sharedPackDependencies_document, Grouping.mem_placeAll, hname]
    exact hgroup

lemma provider_dependency (h : dependency ∈ (request.document catalog).sharedPackDependencies)
    (hkind : dependency.providerId.isSome = true) :
    ∃ provider, catalog.find dependency.packId = some provider ∧
      dependency.providerId = some dependency.packId ∧
      dependency.sourceRef = provider.sourceRef.source ∧ dependency.version = provider.version := by
  obtain ⟨first, hfirst, hgathers⟩ := gathers_of_mem h
  have hkey : packGrouping.key first = (true, dependency.packId) := by
    have hname : packGrouping.key first = packGrouping.name dependency := by
      simpa using List.find?_some hfirst
    exact hname.trans (Prod.ext hkind rfl)
  obtain ⟨provider, hfind, huse⟩ := provider_of_use (List.mem_of_find?_eq_some hfirst) hkey
  have hid := DwProviderCatalog.providerId_of_find hfind
  refine ⟨provider, hfind, ?_, ?_, ?_⟩
  · rw [hgathers.providerId, huse]
    exact congrArg some hid
  · rw [hgathers.sourceRef, huse]
    rfl
  · rw [hgathers.version, huse]
    rfl

lemma find?_packUses (agent : DwAgentResolveRequest) (rawRef : String) :
    (request.packUses catalog agent).find?
        (fun packUse => packGrouping.key packUse = (false, rawRef)) =
      (agent.template.packagingHints.supportPackRefs.find? (·.source.rawRef = rawRef)).map
        (.ofSupportPack agent.agentId) := by
  have hproviders : (agent.capabilitySpecs.flatMap (request.providerUses catalog agent)).find?
      (fun packUse => packGrouping.key packUse = (false, rawRef)) = none := by
    rw [List.find?_eq_none]
    intro packUse hmem
    obtain ⟨spec, _, hmem⟩ := List.mem_flatMap.mp hmem
    obtain ⟨provider, _, rfl⟩ := List.mem_map.mp hmem
    simp [packGrouping, PackUse.ofProvider]
  rw [packUses, List.find?_append, hproviders, Option.none_or, List.find?_map]
  congr 2
  funext supportPack
  rw [Function.comp_apply, decide_eq_decide]
  simp [packGrouping, PackUse.ofSupportPack]

lemma find?_supportPackRefs (agents : List DwAgentResolveRequest) (rawRef : String) :
    (agents.flatMap (·.template.packagingHints.supportPackRefs)).find?
        (·.source.rawRef = rawRef) =
      ((agents.flatMap (request.packUses catalog)).find? fun packUse =>
        packGrouping.key packUse = (false, rawRef)).map (·.sourceRef) := by
  induction agents with
  | nil => rfl
  | cons agent agents ih =>
    rw [List.flatMap_cons, List.flatMap_cons, List.find?_append, List.find?_append,
      find?_packUses, ih]
    cases agent.template.packagingHints.supportPackRefs.find? (·.source.rawRef = rawRef) <;> rfl

lemma support_dependency (h : dependency ∈ (request.document catalog).sharedPackDependencies)
    (hkind : dependency.providerId = none) :
    request.supportPackRefs.find? (·.source.rawRef = dependency.packId) =
        some dependency.sourceRef ∧ dependency.version = none := by
  obtain ⟨first, hfirst, hgathers⟩ := gathers_of_mem h
  have hname : packGrouping.name dependency = (false, dependency.packId) := by
    simp [packGrouping, hkind]
  rw [hname] at hfirst
  have hkey : packGrouping.key first = (false, dependency.packId) := by
    simpa using List.find?_some hfirst
  obtain ⟨supportPack, huse⟩ := supportPack_of_use (List.mem_of_find?_eq_some hfirst) hkey
  constructor
  · rw [supportPackRefs, find?_supportPackRefs, hgathers.sourceRef, ← Option.map_some]
    exact congrArg _ hfirst
  · rw [hgathers.version, huse]
    rfl

lemma mem_appliesToAgents (h : dependency ∈ (request.document catalog).sharedPackDependencies)
    {a : String} : a ∈ dependency.appliesToAgents ↔ ∃ packUse ∈ request.allUses catalog,
      packGrouping.key packUse = packGrouping.name dependency ∧ packUse.agentId = a := by
  obtain ⟨_, _, hgathers⟩ := gathers_of_mem h
  rw [hgathers.agents]
  simp only [List.mem_filter, decide_eq_true_eq, and_assoc]

lemma exists_use (h : dependency ∈ (request.document catalog).sharedPackDependencies) :
    ∃ packUse ∈ request.allUses catalog,
      packGrouping.key packUse = packGrouping.name dependency := by
  obtain ⟨first, hfirst, _⟩ := gathers_of_mem h
  exact ⟨first, List.mem_of_find?_eq_some hfirst, by simpa using List.find?_some hfirst⟩

lemma filter_dependency (h : dependency ∈ (request.document catalog).sharedPackDependencies)
    {isFor : PackDependencyRef → Bool}
    (hfor : ∀ other ∈ (request.document catalog).sharedPackDependencies,
      isFor other = true ↔ packGrouping.name other = packGrouping.name dependency) :
    (request.document catalog).sharedPackDependencies.filter isFor = [dependency] := by
  rw [← filter_key_eq distinct_document h]
  apply List.filter_congr
  intro other hother
  rw [Bool.eq_iff_iff, hfor other hother, decide_eq_true_eq]

lemma carried_provider (h : dependency ∈ (request.document catalog).sharedPackDependencies)
    (hkind : dependency.providerId.isSome = true) :
    Carried (request.document catalog) (request.document catalog).bundle
      (fun d => d.providerId = some dependency.packId) .providerPack dependency.packId
      dependency.sourceRef dependency.version
      {a | (request.document catalog).Binds a dependency.packId} := by
  obtain ⟨_, _, hprovider, _, _⟩ := provider_dependency h hkind
  have hname : packGrouping.name dependency = (true, dependency.packId) := Prod.ext hkind rfl
  have hagents : ∀ a, a ∈ dependency.appliesToAgents ↔
      (request.document catalog).Binds a dependency.packId := by
    intro a
    rw [mem_appliesToAgents h, hname, binds_iff]
  constructor
  · obtain ⟨_, _, hgathers⟩ := gathers_of_mem h
    refine ⟨dependency, ?_, rfl, rfl, hgathers.nodup, hagents⟩
    apply filter_dependency h
    intro other hother
    rw [decide_eq_true_eq, hname]
    constructor
    · intro hid
      have hsome : other.providerId.isSome = true := by rw [hid]; rfl
      obtain ⟨_, _, hown, _, _⟩ := provider_dependency hother hsome
      exact Prod.ext hsome (Option.some.inj (hown.symm.trans hid))
    · intro hid
      obtain ⟨_, _, hown, _, _⟩ := provider_dependency hother (congrArg Prod.fst hid)
      exact hown.trans (congrArg some (congrArg Prod.snd hid))
  · have hpack := (DwCompositionDocument.mem_providerPacks distinct_document).mpr
      ⟨dependency, h, _, hprovider, rfl⟩
    refine ⟨_, DwCompositionDocument.filter_inclusions_provider hpack, rfl, rfl,
      pairwise_sortedUnique _, fun a => ?_⟩
    exact mem_sortedUnique.trans (hagents a)

lemma carried_support (h : dependency ∈ (request.document catalog).sharedPackDependencies)
    (hkind : dependency.providerId = none) :
    Carried (request.document catalog) (request.document catalog).bundle
      (fun d => d.providerId = none ∧ d.packId = dependency.packId) .supportPack dependency.packId
      dependency.sourceRef none {a | request.Needs a dependency.packId} := by
  have hname : packGrouping.name dependency = (false, dependency.packId) := by
    simp [packGrouping, hkind]
  have hagents : ∀ a, a ∈ dependency.appliesToAgents ↔
      request.Needs a dependency.packId := by
    intro a
    rw [mem_appliesToAgents h, hname, needs_iff]
  have hversion := (support_dependency h hkind).2
  constructor
  · obtain ⟨_, _, hgathers⟩ := gathers_of_mem h
    refine ⟨dependency, ?_, rfl, hversion, hgathers.nodup, hagents⟩
    apply filter_dependency h
    intro other _
    rw [decide_eq_true_eq, hname]
    simp [packGrouping]
  · have hpack := (DwCompositionDocument.mem_supportPacks distinct_document).mpr
      ⟨dependency, h, hkind, rfl⟩
    refine ⟨_, DwCompositionDocument.filter_inclusions_support hpack, rfl, hversion,
      pairwise_sortedUnique _, fun a => ?_⟩
    exact mem_sortedUnique.trans (hagents a)

theorem resolution_bundled (resolved : request.resolve catalog = .ok document)
    (free : contains "://" request.applicationId = false) :
    ∃ plan, document.toBundlePlan = .ok plan ∧ Bundled request document plan := by
  obtain ⟨hagents, rfl⟩ := resolve_eq_ok.mp resolved
  have hne : (request.document catalog).agents ≠ [] := by
    simpa [DwCompositionResolveRequest.document] using hagents
  refine ⟨_, DwCompositionDocument.toBundlePlan_eq_ok.mpr ⟨hne, free, rfl⟩, ?_, ?_,
    DwCompositionDocument.filter_inclusions_generated, ?_,
    DwCompositionDocument.nodup_inclusionIds⟩
  · intro composed hcomposed binding hbinding
    obtain ⟨agent, _, rfl⟩ := List.mem_map.mp hcomposed
    obtain ⟨_, _, providerId, provider, _, hfind, rfl⟩ := mem_bindings_iff.mp hbinding
    obtain ⟨packUse, huse, hkey, _⟩ := binds_iff.mp ⟨_, hcomposed, rfl, _, hbinding, rfl⟩
    obtain ⟨dependency, hmem, hname⟩ := mem_of_use huse
    rw [hkey] at hname
    have hkind : dependency.providerId.isSome = true := congrArg Prod.fst hname
    have hid : dependency.packId = provider.providerId := congrArg Prod.snd hname
    obtain ⟨found, hfound, _, hsource, hversion⟩ := provider_dependency hmem hkind
    have hcarried := carried_provider hmem hkind
    rw [hid, DwProviderCatalog.providerId_of_find hfind, hfind] at hfound
    cases hfound
    rwa [hsource, hversion, hid] at hcarried
  · intro agent hagent supportPack hpack
    have hneeds : ∃ packUse ∈ request.allUses catalog, packGrouping.key packUse =
        (false, supportPack.source.rawRef) ∧ packUse.agentId = agent.agentId :=
      needs_iff.mp ⟨agent, hagent, rfl, supportPack, hpack, rfl⟩
    obtain ⟨packUse, huse, hkey, _⟩ := hneeds
    obtain ⟨dependency, hmem, hname⟩ := mem_of_use huse
    rw [hkey] at hname
    have hkind : dependency.providerId = none := by
      simpa [packGrouping] using congrArg Prod.fst hname
    have hid : dependency.packId = supportPack.source.rawRef := congrArg Prod.snd hname
    have hcarried := carried_support hmem hkind
    rw [hid] at hcarried
    exact ⟨_, hid ▸ (support_dependency hmem hkind).1, hcarried⟩
  · intro inclusion hinclusion
    simp only [DwCompositionDocument.bundle, List.mem_append, List.mem_singleton,
      List.mem_map] at hinclusion
    obtain (rfl | ⟨pack, hpack, rfl⟩) | ⟨pack, hpack, rfl⟩ := hinclusion
    · exact .inl rfl
    · obtain ⟨dependency, hmem, providerId, hprovider, rfl⟩ :=
        (DwCompositionDocument.mem_providerPacks distinct_document).mp hpack
      obtain ⟨packUse, huse, hkey⟩ := exists_use hmem
      have hname : packGrouping.name dependency = (true, dependency.packId) := by
        simp [packGrouping, hprovider]
      exact .inr (.inl ⟨rfl, _, binds_iff.mpr ⟨packUse, huse, hkey.trans hname, rfl⟩⟩)
    · obtain ⟨dependency, hmem, hnone, rfl⟩ :=
        (DwCompositionDocument.mem_supportPacks distinct_document).mp hpack
      obtain ⟨packUse, huse, hkey⟩ := exists_use hmem
      have hname : packGrouping.name dependency = (false, dependency.packId) := by
        simp [packGrouping, hnone]
      exact .inr (.inr ⟨rfl, _, needs_iff.mpr ⟨packUse, huse, hkey.trans hname, rfl⟩⟩)

theorem resolution_bundled_desk : ∃ plan,
    ((deskRequest ∅).document deskCatalog).toBundlePlan = .ok plan ∧
      Bundled (deskRequest ∅) ((deskRequest ∅).document deskCatalog) plan :=
  resolution_bundled (resolve_deskRequest ∅) (by decide)

end DwCompositionResolveRequest

end GreenticDw

import GreenticDw.Composition.Bundling

namespace GreenticDw

structure BundleInclusionPlan.SamePack (entry : BundleInclusionPlan)
    (dependency : PackDependencyRef) : Prop where
  packId : dependency.packId = entry.packId
  sourceRef : dependency.sourceRef = entry.sourceRef
  providerId : dependency.providerId = none

def DwCompositionDocument.InclusionsAgree (document : DwCompositionDocument) : Prop :=
  ∀ entry ∈ document.bundlePlan, ∃ dependency ∈ document.sharedPackDependencies,
    entry.SamePack dependency ∧ dependency.appliesToAgents = entry.appliesToAgents

namespace SharedPacks

lemma mem_bundlePlan {uses : List PackUse} {entry : BundleInclusionPlan}
    (h : entry ∈ (uses.foldl SharedPacks.add ∅).bundlePlan) :
    ∃ packUse ∈ uses, packUse.providerId = none ∧ entry = packUse.inclusionPlan := by
  induction uses using List.reverseRecOn with
  | nil => cases h
  | append_singleton uses packUse ih =>
    rw [List.foldl_concat, bundlePlan_add, List.mem_append] at h
    obtain h | h := h
    · obtain ⟨earlier, hmem, hsupport⟩ := ih h
      exact ⟨earlier, List.mem_append_left _ hmem, hsupport⟩
    · split_ifs at h with hknown hprovider
      · cases h
      · cases h
      · refine ⟨packUse, List.mem_append_right _ (List.mem_singleton_self _), ?_,
          List.mem_singleton.mp h⟩
        simpa using hprovider

end SharedPacks

namespace DwCompositionResolveRequest

variable {request : DwCompositionResolveRequest} {catalog : DwProviderCatalog}
  {document : DwCompositionDocument} {entry : BundleInclusionPlan} {dependency : PackDependencyRef}

lemma planned_document : (request.sharedPacks catalog).Planned :=
  (SharedPacks.add_all (request.allUses catalog)).2.1

lemma dependency_of_inclusion (h : entry ∈ (request.document catalog).bundlePlan) :
    ∃ dependency ∈ (request.document catalog).sharedPackDependencies,
      entry.SamePack dependency := by
  have hplanned := List.mem_map_of_mem (f := fun entry : BundleInclusionPlan =>
    (entry.packId, entry.sourceRef, entry.rationale)) h
  rw [show (request.document catalog).bundlePlan = (request.sharedPacks catalog).bundlePlan from rfl,
    planned_document, List.mem_filterMap] at hplanned
  obtain ⟨dependency, hmem, hsome⟩ := hplanned
  split_ifs at hsome with hprovider
  simp only [Option.some.injEq, Prod.mk.injEq] at hsome
  exact ⟨dependency, hmem, hsome.1, hsome.2.1, by simpa using hprovider⟩

lemma inclusion_of_dependency
    (h : dependency ∈ (request.document catalog).sharedPackDependencies)
    (hsupport : dependency.providerId = none) :
    ∃ entry ∈ (request.document catalog).bundlePlan, entry.packId = dependency.packId := by
  have hview : (dependency.packId, dependency.sourceRef, some "Template packaging support pack") ∈
      (request.sharedPacks catalog).bundlePlan.map
        fun entry => (entry.packId, entry.sourceRef, entry.rationale) := by
    rw [planned_document, List.mem_filterMap]
    exact ⟨dependency, h, by simp [hsupport]⟩
  obtain ⟨entry, hmem, hentry⟩ := List.mem_map.mp hview
  exact ⟨entry, hmem, congrArg Prod.fst hentry⟩

lemma appliesToAgents_support (h : dependency ∈ (request.document catalog).sharedPackDependencies)
    (hsupport : dependency.providerId = none) {a : String} :
    a ∈ dependency.appliesToAgents ↔ request.Needs a dependency.packId := by
  have hname : packGrouping.name dependency = (false, dependency.packId) := by
    simp [packGrouping, hsupport]
  rw [mem_appliesToAgents h, hname, needs_iff]

lemma inclusion_for_one (h : entry ∈ (request.document catalog).bundlePlan) :
    ∃ a, entry.appliesToAgents = [a] ∧ request.Needs a entry.packId := by
  obtain ⟨packUse, hmem, hsupport, rfl⟩ := SharedPacks.mem_bundlePlan h
  refine ⟨packUse.agentId, rfl, needs_iff.mpr ⟨packUse, hmem, ?_, rfl⟩⟩
  simp [packGrouping, hsupport, PackUse.inclusionPlan]

theorem inclusionsAgree_iff (resolved : request.resolve catalog = .ok document) :
    document.InclusionsAgree ↔
      ∀ rawRef a b, request.Needs a rawRef → request.Needs b rawRef → a = b := by
  obtain ⟨_, rfl⟩ := resolve_eq_ok.mp resolved
  constructor
  · intro hagree rawRef a b ha hb
    obtain ⟨packUse, huse, hkey, _⟩ := (@needs_iff _ catalog _ _).mp ha
    obtain ⟨needed, hneeded, hname⟩ := mem_of_use huse
    rw [hkey] at hname
    have hsupport : needed.providerId = none := by
      simpa [packGrouping] using congrArg Prod.fst hname
    obtain ⟨entry, hentry, hid⟩ := inclusion_of_dependency hneeded hsupport
    obtain ⟨dependency, hmem, hsame, hagents⟩ := hagree entry hentry
    obtain ⟨first, hfirst, _⟩ := inclusion_for_one hentry
    have hraw : dependency.packId = rawRef :=
      (hsame.packId.trans hid).trans (congrArg Prod.snd hname)
    have hone : ∀ agentId, request.Needs agentId rawRef → agentId = first := by
      intro agentId hneeds
      rw [← hraw, ← appliesToAgents_support hmem hsame.providerId, hagents, hfirst] at hneeds
      exact List.mem_singleton.mp hneeds
    rw [hone a ha, hone b hb]
  · intro hone entry hentry
    obtain ⟨dependency, hmem, hsame⟩ := dependency_of_inclusion hentry
    obtain ⟨first, hfirst, hneeds⟩ := inclusion_for_one hentry
    obtain ⟨_, _, hgathers⟩ := gathers_of_mem hmem
    refine ⟨dependency, hmem, hsame, ?_⟩
    rw [hfirst, ← List.perm_singleton, List.perm_ext_iff_of_nodup hgathers.nodup
      (List.nodup_singleton _)]
    intro a
    rw [appliesToAgents_support hmem hsame.providerId, List.mem_singleton, hsame.packId]
    constructor
    · exact fun ha => hone _ _ _ ha hneeds
    · rintro rfl
      exact hneeds

def frontRequest : DwCompositionResolveRequest :=
  { deskRequest ∅ with agents := [deskAgent "front" ∅] }

theorem inclusionsAgree_front : (frontRequest.document deskCatalog).InclusionsAgree := by
  apply (inclusionsAgree_iff (resolve_eq_ok.mpr ⟨List.cons_ne_nil _ _, rfl⟩)).mpr
  have hfront : ∀ rawRef a, frontRequest.Needs a rawRef → a = "front" := by
    rintro rawRef _ ⟨agent, hagent, rfl, _⟩
    rw [List.mem_singleton.mp hagent]
    rfl
  exact fun rawRef a b ha hb => (hfront rawRef a ha).trans (hfront rawRef b hb).symm

theorem inclusion_forgets_agent : ¬∀ (request : DwCompositionResolveRequest)
    (catalog : DwProviderCatalog) (document : DwCompositionDocument),
    request.resolve catalog = .ok document → document.InclusionsAgree := by
  intro h
  have hplan : (⟨"repo://packs/audit", packRef "repo://packs/audit", ["front"],
      some "Template packaging support pack"⟩ : BundleInclusionPlan) ∈
      ((deskRequest ∅).document deskCatalog).bundlePlan := by decide
  obtain ⟨dependency, hmem, hsame, hagents⟩ := h _ _ _ (resolve_deskRequest ∅) _ hplan
  have hboth : ∀ dependency ∈ ((deskRequest ∅).document deskCatalog).sharedPackDependencies,
      dependency.packId = "repo://packs/audit" →
        dependency.appliesToAgents = ["front", "back"] := by decide
  rw [hboth dependency hmem hsame.packId] at hagents
  exact absurd hagents (by decide)

end DwCompositionResolveRequest

end GreenticDw

import GreenticDw.Wizard.Review

/-! Whatever the answers name, a dry run for a known environment takes its providers from the entries
of the catalog that suit the environment. -/

namespace GreenticDw

structure PackDependencyRef.IsOn (dependency : PackDependencyRef) (provider : DwProviderCatalogEntry) :
    Prop where
  packId : dependency.packId = provider.providerId
  providerId : dependency.providerId = some provider.providerId
  sourceRef : dependency.sourceRef = provider.sourceRef.source
  version : dependency.version = provider.version

structure ProviderPackRef.IsOf (pack : ProviderPackRef) (provider : DwProviderCatalogEntry) :
    Prop where
  packId : pack.packId = provider.providerId
  providerId : pack.providerId = provider.providerId
  resolution : pack.resolution = ⟨provider.sourceRef.source, provider.version, none⟩

structure BundlePackInclusion.IsOf (inclusion : BundlePackInclusion)
    (provider : DwProviderCatalogEntry) : Prop where
  packId : inclusion.packId = provider.providerId
  resolution : inclusion.resolution = ⟨provider.sourceRef.source, provider.version, none⟩

/-- All bindings, provider dependencies and provider inclusions come from the given providers. -/
structure DwReviewEnvelope.DrawnFrom (envelope : DwReviewEnvelope)
    (providers : Set DwProviderCatalogEntry) : Prop where
  bindings : ∀ composed ∈ envelope.composition.agents, ∀ binding ∈ composed.capabilityBindings,
    ∃ provider ∈ providers, binding.providerBinding = provider.providerBinding
  requirements : ∀ requirement ∈ envelope.applicationPackSpec.requirements,
    ∃ provider ∈ providers, requirement.providerId = some provider.providerId
  dependencies : ∀ dependency ∈ envelope.composition.sharedPackDependencies,
    dependency.providerId ≠ none → ∃ provider ∈ providers, dependency.IsOn provider
  packDependencies : ∀ dependency ∈ envelope.applicationPackSpec.dependencyPackRefs,
    dependency.providerId ≠ none → ∃ provider ∈ providers, dependency.IsOn provider
  providerPacks : ∀ pack ∈ envelope.bundlePlan.providerPacks,
    ∃ provider ∈ providers, pack.IsOf provider
  inclusions : ∀ inclusion ∈ envelope.bundlePlan.inclusions, inclusion.kind = .providerPack →
    ∃ provider ∈ providers, inclusion.IsOf provider

namespace DwCompositionResolveRequest

variable {request : DwCompositionResolveRequest} {catalog : DwProviderCatalog}

lemma dependency_isOn {dependency : PackDependencyRef}
    (h : dependency ∈ (request.document catalog).sharedPackDependencies)
    (hprovider : dependency.providerId ≠ none) :
    ∃ provider ∈ catalog.entries, dependency.IsOn provider := by
  obtain ⟨provider, hfind, hid, hsource, hversion⟩ :=
    provider_dependency h (Option.isSome_iff_ne_none.mpr hprovider)
  have hpack := DwProviderCatalog.providerId_of_find hfind
  exact ⟨provider, DwProviderCatalog.mem_of_find hfind, hpack.symm, hpack ▸ hid, hsource, hversion⟩

lemma providerPack_isOf {pack : ProviderPackRef}
    (h : pack ∈ (request.document catalog).providerPacks) :
    ∃ provider ∈ catalog.entries, pack.IsOf provider := by
  obtain ⟨dependency, hmem, providerId, hsome, rfl⟩ :=
    (DwCompositionDocument.mem_providerPacks distinct_document).mp h
  obtain ⟨provider, hprovider, hon⟩ := dependency_isOn hmem (by simp [hsome])
  refine ⟨provider, hprovider, hon.packId, ?_, ?_⟩
  · exact Option.some.inj (hsome.symm.trans hon.providerId)
  · rw [← hon.sourceRef, ← hon.version]
    rfl

theorem drawnFrom_catalog {document : DwCompositionDocument} {envelope : DwReviewEnvelope}
    (resolved : request.resolve catalog = .ok document)
    (reviewed : document.toReviewEnvelope = .ok envelope) :
    envelope.DrawnFrom {provider | provider ∈ catalog.entries} := by
  obtain ⟨-, rfl⟩ := resolve_eq_ok.mp resolved
  obtain ⟨hcomposition, hspec, hplan, -⟩ := DwCompositionDocument.of_toReviewEnvelope reviewed
  obtain ⟨-, -, hbundle⟩ := DwCompositionDocument.toBundlePlan_eq_ok.mp hplan
  have hbindings : ∀ composed ∈ (request.document catalog).agents,
      ∀ binding ∈ composed.capabilityBindings,
      ∃ provider ∈ catalog.entries, binding.providerBinding = provider.providerBinding := by
    intro composed hcomposed binding hbinding
    obtain ⟨agent, _, rfl⟩ := List.mem_map.mp hcomposed
    obtain ⟨_, _, _, provider, _, hfind, rfl⟩ := mem_bindings_iff.mp hbinding
    exact ⟨provider, DwProviderCatalog.mem_of_find hfind, rfl⟩
  constructor
  · rw [hcomposition]
    exact hbindings
  · rw [hspec]
    intro requirement hrequirement
    obtain ⟨composed, hcomposed, hrequirement⟩ := List.mem_flatMap.mp hrequirement
    obtain ⟨binding, hbinding, rfl⟩ := List.mem_map.mp hrequirement
    obtain ⟨provider, hprovider, hbound⟩ := hbindings composed hcomposed binding hbinding
    exact ⟨provider, hprovider, congrArg (fun bound : ProviderBinding => some bound.providerId) hbound⟩
  · rw [hcomposition]
    exact fun dependency hmem => dependency_isOn hmem
  · rw [hspec]
    exact fun dependency hmem => dependency_isOn (mem_sortBy.mp hmem)
  · rw [hbundle]
    exact fun pack hpack => providerPack_isOf hpack
  · rw [hbundle]
    intro inclusion hinclusion hkind
    rw [DwCompositionDocument.bundle, List.mem_append, List.mem_append] at hinclusion
    rcases hinclusion with (hgenerated | hprovider) | hsupport
    · rw [List.mem_singleton.mp hgenerated] at hkind
      cases hkind
    · obtain ⟨pack, hpack, rfl⟩ := List.mem_map.mp hprovider
      obtain ⟨provider, hmem, hof⟩ := providerPack_isOf hpack
      exact ⟨provider, hmem, hof.packId, hof.resolution⟩
    · obtain ⟨pack, _, rfl⟩ := List.mem_map.mp hsupport
      cases hkind

end DwCompositionResolveRequest

lemma DwReviewEnvelope.DrawnFrom.mono {envelope : DwReviewEnvelope}
    {providers others : Set DwProviderCatalogEntry} (h : envelope.DrawnFrom providers)
    (hsub : providers ⊆ others) : envelope.DrawnFrom others where
  bindings composed hcomposed binding hbinding :=
    (h.bindings composed hcomposed binding hbinding).imp fun _ hp => ⟨hsub hp.1, hp.2⟩
  requirements requirement hrequirement :=
    (h.requirements requirement hrequirement).imp fun _ hp => ⟨hsub hp.1, hp.2⟩
  dependencies dependency hmem hprovider :=
    (h.dependencies dependency hmem hprovider).imp fun _ hp => ⟨hsub hp.1, hp.2⟩
  packDependencies dependency hmem hprovider :=
    (h.packDependencies dependency hmem hprovider).imp fun _ hp => ⟨hsub hp.1, hp.2⟩
  providerPacks pack hpack := (h.providerPacks pack hpack).imp fun _ hp => ⟨hsub hp.1, hp.2⟩
  inclusions inclusion hinclusion hkind :=
    (h.inclusions inclusion hinclusion hkind).imp fun _ hp => ⟨hsub hp.1, hp.2⟩

lemma DwProviderCatalog.mem_filterBySuitability {catalog : DwProviderCatalog}
    {suitability : DwProviderEnvironmentSuitability} {provider : DwProviderCatalogEntry} :
    provider ∈ (catalog.filterBySuitability (some suitability)).entries ↔
      provider ∈ catalog.entries ∧ suitability ∈ provider.suitability := by
  rw [filterBySuitability, List.mem_filter, decide_eq_true_eq]

theorem dry_run_suits_environment {newCapabilityId : String → Option CapabilityId}
    {answers : AnswerDocument} {selectedTemplateEntry : Option TemplateCatalogEntry}
    {providerCatalog : Option DwProviderCatalog} {manifestId env : String} {envelope : TaskEnvelope}
    {selectedTemplate : Option DigitalWorkerTemplate} {emitAnswers : Bool} {output : WizardOutput}
    {review : TemplateReview} {suitability : DwProviderEnvironmentSuitability}
    (known : DwProviderEnvironmentSuitability.fromStr env = some suitability)
    (run : runWizardDryRun newCapabilityId answers selectedTemplateEntry providerCatalog manifestId
      envelope env selectedTemplate emitAnswers = .ok output)
    (reviewed : output.data.review = some review) :
    review.reviewEnvelope.DrawnFrom {provider | suitability ∈ provider.suitability ∧
      ∃ catalog, providerCatalog = some catalog ∧ provider ∈ catalog.entries} := by
  rw [runWizardDryRun, known] at run
  obtain ⟨template, -, hreview⟩ := of_buildDryRunOutput run reviewed
  obtain ⟨document, hresolved, henvelope⟩ := of_buildReviewEnvelope (of_templateReview hreview).1
  apply (DwCompositionResolveRequest.drawnFrom_catalog hresolved henvelope).mono
  intro provider hprovider
  cases providerCatalog with
  | none => cases hprovider
  | some catalog =>
    obtain ⟨hmem, hsuits⟩ := DwProviderCatalog.mem_filterBySuitability.mp hprovider
    exact ⟨hsuits, catalog, rfl, hmem⟩

def suitedCatalog : DwProviderCatalog := ⟨[
  { memoryProvider with suitability := [.dev] },
  { chatProvider with suitability := [.prod] },
  { memoryProvider with version := some "1.0", suitability := [.demo, .prod] }]⟩

theorem dry_run_suits_environment_desk : ∃ output review,
    runWizardDryRun capabilityUri
        (deskAnswers [("cap://memory/short-term", "provider.memory.local")]) none
        (some suitedCatalog) "dw.desk" deskTask "PROD" (some deskTemplate) false = .ok output ∧
      output.data.review = some review ∧
      review.reviewEnvelope.DrawnFrom {provider | .prod ∈ provider.suitability ∧
        ∃ catalog, some suitedCatalog = some catalog ∧ provider ∈ catalog.entries} := by
  have hsome : (reviewOf (runWizardDryRun capabilityUri
      (deskAnswers [("cap://memory/short-term", "provider.memory.local")]) none
      (some suitedCatalog) "dw.desk" deskTask "PROD" (some deskTemplate) false)).isSome = true := by
    decide +kernel
  obtain ⟨review, hreview⟩ := Option.isSome_iff_exists.mp hsome
  obtain ⟨output, hrun, hreviewed⟩ := reviewOf_eq_some.mp hreview
  exact ⟨output, review, hrun, hreviewed,
    dry_run_suits_environment (by decide +kernel) hrun hreviewed⟩

end GreenticDw

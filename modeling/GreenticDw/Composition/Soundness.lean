import GreenticDw.Composition.Completeness

/-! Which capabilities the bound providers really offer: the resolver takes the provider that is
selected, and does not ask what it lists. -/

namespace GreenticDw

variable {request : DwCompositionResolveRequest} {catalog : DwProviderCatalog}
  {document : DwCompositionDocument}

def CapabilityBinding.NamesProvider (catalog : DwProviderCatalog) (binding : CapabilityBinding) :
    Prop :=
  ∃ provider ∈ catalog.entries, binding.providerBinding = provider.providerBinding

def CapabilityBinding.Offered (catalog : DwProviderCatalog) (binding : CapabilityBinding) : Prop :=
  ∃ provider, catalog.find binding.providerBinding.providerId = some provider ∧
    binding.capabilityId ∈ provider.capabilityProfile.capabilityContractIds

def SelectsOffering (request : DwCompositionResolveRequest) (catalog : DwProviderCatalog) : Prop :=
  ∀ agent ∈ request.agents, ∀ spec ∈ agent.capabilitySpecs, ∀ providerId provider,
    Selects request agent spec.1 (some providerId) → catalog.find providerId = some provider →
    spec.1 ∈ provider.capabilityProfile.capabilityContractIds

namespace DwCompositionResolveRequest

lemma mem_bindings_iff {agent : DwAgentResolveRequest} {binding : CapabilityBinding} :
    binding ∈ (request.agentComposition catalog agent).capabilityBindings ↔
      ∃ spec ∈ agent.capabilitySpecs, ∃ providerId provider,
        Selects request agent spec.1 (some providerId) ∧
        catalog.find providerId = some provider ∧
        binding = provider.capabilityBinding spec.1 spec.2 := by
  simp only [agentComposition, composition, List.mem_flatMap, bindingsOf, boundProvider,
    List.mem_map, Option.mem_toList, Option.bind_eq_some_iff, selects_iff]
  constructor
  · rintro ⟨spec, hspec, provider, ⟨providerId, hselected, hfind⟩, rfl⟩
    exact ⟨spec, hspec, providerId, provider, hselected, hfind, rfl⟩
  · rintro ⟨spec, hspec, providerId, provider, hselected, hfind, rfl⟩
    exact ⟨spec, hspec, provider, ⟨providerId, hselected, hfind⟩, rfl⟩

theorem bindings_offered_iff (resolved : request.resolve catalog = .ok document) :
    (∀ composed ∈ document.agents, ∀ binding ∈ composed.capabilityBindings,
      binding.NamesProvider catalog) ∧
    ((∀ composed ∈ document.agents, ∀ binding ∈ composed.capabilityBindings,
      binding.Offered catalog) ↔ SelectsOffering request catalog) := by
  obtain ⟨-, rfl⟩ := resolve_eq_ok.mp resolved
  simp only [DwCompositionResolveRequest.document, List.forall_mem_map]
  refine ⟨?_, ?_, ?_⟩
  · intro agent _ binding hbinding
    obtain ⟨spec, _, providerId, provider, _, hfind, rfl⟩ := mem_bindings_iff.mp hbinding
    exact ⟨provider, DwProviderCatalog.mem_of_find hfind, rfl⟩
  · intro hoffered agent hagent spec hspec providerId provider hselected hfind
    have hbinding := mem_bindings_iff.mpr ⟨spec, hspec, providerId, provider, hselected, hfind, rfl⟩
    obtain ⟨found, hfound, hlists⟩ := hoffered agent hagent _ hbinding
    have hid := DwProviderCatalog.providerId_of_find hfind
    rw [DwProviderCatalogEntry.capabilityBinding, DwProviderCatalogEntry.providerBinding, hid,
      hfind] at hfound
    cases hfound
    exact hlists
  · intro hselects agent hagent binding hbinding
    obtain ⟨spec, hspec, providerId, provider, hselected, hfind, rfl⟩ :=
      mem_bindings_iff.mp hbinding
    refine ⟨provider, ?_, hselects agent hagent spec hspec providerId provider hselected hfind⟩
    rw [DwProviderCatalogEntry.capabilityBinding, DwProviderCatalogEntry.providerBinding,
      DwProviderCatalog.providerId_of_find hfind]
    exact hfind

theorem bindings_offered_iff_desk :
    (∀ composed ∈ ((deskRequest ∅).document deskCatalog).agents,
      ∀ binding ∈ composed.capabilityBindings, binding.NamesProvider deskCatalog) ∧
    ((∀ composed ∈ ((deskRequest ∅).document deskCatalog).agents,
      ∀ binding ∈ composed.capabilityBindings, binding.Offered deskCatalog) ↔
      SelectsOffering (deskRequest ∅) deskCatalog) :=
  bindings_offered_iff (resolve_deskRequest ∅)

theorem unoffered_binding : ¬∀ (request : DwCompositionResolveRequest) (catalog : DwProviderCatalog)
    (document : DwCompositionDocument), request.resolve catalog = .ok document →
    ∀ composed ∈ document.agents, ∀ binding ∈ composed.capabilityBindings,
      binding.Offered catalog := by
  intro h
  have hoffered := h (deskRequest (.ofEntries [("cap://llm/chat", "provider.memory.local")]))
    deskCatalog _ (resolve_deskRequest _) _ (List.mem_cons_self)
    (memoryProvider.capabilityBinding "cap://llm/chat" false) (by decide)
  obtain ⟨provider, hfound, hlists⟩ := hoffered
  have hmemory : provider = memoryProvider := (Option.some.inj hfound).symm
  rw [hmemory] at hlists
  exact absurd hlists (by decide)

end DwCompositionResolveRequest

end GreenticDw

import GreenticDw.Composition.Resolved

namespace GreenticDw

variable {request : DwCompositionResolveRequest} {catalog : DwProviderCatalog}
  {agent : DwAgentResolveRequest} {document : DwCompositionDocument}

inductive Selects (request : DwCompositionResolveRequest) (agent : DwAgentResolveRequest)
    (capabilityId : CapabilityId) : Option String → Prop where
  | agentOverride {providerId : String}
      (own : agent.providerOverrides.get capabilityId = some providerId) :
      Selects request agent capabilityId (some providerId)
  | sharedOverride {providerId : String}
      (own : agent.providerOverrides.get capabilityId = none)
      (shared : request.sharedProviderOverrides.get capabilityId = some providerId) :
      Selects request agent capabilityId (some providerId)
  | templateDefault
      (own : agent.providerOverrides.get capabilityId = none)
      (shared : request.sharedProviderOverrides.get capabilityId = none) :
      Selects request agent capabilityId
        (agent.template.capabilityPlan.defaultProviderIds.get capabilityId)

inductive Settles (request : DwCompositionResolveRequest) (catalog : DwProviderCatalog)
    (agent : DwAgentResolveRequest) :
    CapabilityId × Bool → List CapabilityBinding × List SetupRequirement → Prop where
  | bound {capabilityId : CapabilityId} {optional : Bool} {providerId : String}
      {provider : DwProviderCatalogEntry}
      (selected : Selects request agent capabilityId (some providerId))
      (found : catalog.find providerId = some provider) :
      Settles request catalog agent (capabilityId, optional)
        ([provider.capabilityBinding capabilityId optional],
          provider.requiredSetupSchemaRefs.map (agent.setupItem provider))
  | missing {capabilityId : CapabilityId} {optional : Bool} {providerId : String}
      (selected : Selects request agent capabilityId (some providerId))
      (found : catalog.find providerId = none) :
      Settles request catalog agent (capabilityId, optional)
        ([], [agent.missingItem capabilityId providerId])
  | unresolved {capabilityId : CapabilityId} (selected : Selects request agent capabilityId none) :
      Settles request catalog agent (capabilityId, false) ([], [agent.unresolvedItem capabilityId])
  | omitted {capabilityId : CapabilityId} (selected : Selects request agent capabilityId none) :
      Settles request catalog agent (capabilityId, true) ([], [])

def setupItemsFor (catalog : DwProviderCatalog) (agent : DwAgentResolveRequest)
    (bindings : List CapabilityBinding) : List SetupRequirement :=
  bindings.flatMap fun binding =>
    (catalog.find binding.providerBinding.providerId).toList.flatMap fun provider =>
      provider.requiredSetupSchemaRefs.map (agent.setupItem provider)

/-- The occurrences of the capabilities, agent by agent, account for all bindings and all items. -/
structure Complete (request : DwCompositionResolveRequest) (catalog : DwProviderCatalog)
    (document : DwCompositionDocument) : Prop where
  agents : document.agents.map (·.agentId) = request.agents.map (·.agentId)
  occurrences : ∃ settled : List (List (List CapabilityBinding × List SetupRequirement)),
    List.Forall₂ (fun agent => List.Forall₂ (Settles request catalog agent) agent.capabilitySpecs)
      request.agents settled ∧
    document.agents.map (·.capabilityBindings) = settled.map (·.flatMap Prod.fst) ∧
    document.unresolvedSetupItems = settled.flatMap (·.flatMap Prod.snd)
  setups : document.unresolvedSetupItems.filter (·.setupSchemaRef.isSome) =
    (request.agents.zip document.agents).flatMap fun (agent, composed) =>
      setupItemsFor catalog agent composed.capabilityBindings

lemma selects_iff {capabilityId : CapabilityId} {selected : Option String} :
    Selects request agent capabilityId selected ↔
      request.selectedProviderId agent capabilityId = selected := by
  rw [DwCompositionResolveRequest.selectedProviderId]
  constructor
  · rintro (⟨own⟩ | ⟨own, shared⟩ | ⟨own, shared⟩)
    · simp [own]
    · simp [own, shared]
    · simp [own, shared]
  · rintro rfl
    cases own : agent.providerOverrides.get capabilityId with
    | some providerId => exact .agentOverride own
    | none =>
      cases shared : request.sharedProviderOverrides.get capabilityId with
      | some providerId => exact .sharedOverride own shared
      | none => exact .templateDefault own shared

namespace DwCompositionResolveRequest

lemma settles_bindingsOf (spec : CapabilityId × Bool) :
    Settles request catalog agent spec (request.bindingsOf catalog agent spec,
      request.refusalsOf catalog agent spec ++ request.setupsOf catalog agent spec) := by
  obtain ⟨capabilityId, optional⟩ := spec
  simp only [bindingsOf, refusalsOf, setupsOf, boundProvider]
  cases hselected : request.selectedProviderId agent capabilityId with
  | none =>
    cases optional with
    | false => exact .unresolved (selects_iff.mpr hselected)
    | true => exact .omitted (selects_iff.mpr hselected)
  | some providerId =>
    cases hfind : catalog.find providerId with
    | none =>
      have hsettles : Settles request catalog agent (capabilityId, optional) _ :=
        .missing (selects_iff.mpr hselected) hfind
      simpa [hfind] using hsettles
    | some provider =>
      have hsettles : Settles request catalog agent (capabilityId, optional) _ :=
        .bound (selects_iff.mpr hselected) hfind
      simpa [hfind] using hsettles

lemma find_of_boundProvider {capabilityId : CapabilityId} {provider : DwProviderCatalogEntry}
    (h : request.boundProvider catalog agent capabilityId = some provider) :
    catalog.find provider.providerId = some provider := by
  obtain ⟨providerId, _, hfind⟩ := Option.bind_eq_some_iff.mp h
  rw [DwProviderCatalog.providerId_of_find hfind]
  exact hfind

lemma setupsOf_eq (spec : CapabilityId × Bool) : request.setupsOf catalog agent spec =
    setupItemsFor catalog agent (request.bindingsOf catalog agent spec) := by
  rw [setupsOf, bindingsOf, setupItemsFor]
  cases hb : request.boundProvider catalog agent spec.1 with
  | none => rfl
  | some provider =>
    have hfind := find_of_boundProvider hb
    simp [DwProviderCatalogEntry.capabilityBinding, DwProviderCatalogEntry.providerBinding, hfind]

lemma filter_itemsOf : (request.itemsOf catalog agent).filter (·.setupSchemaRef.isSome) =
    agent.capabilitySpecs.flatMap (request.setupsOf catalog agent) := by
  have hrefusals : ∀ spec, (request.refusalsOf catalog agent spec).filter
      (·.setupSchemaRef.isSome) = [] := by
    intro spec
    rw [refusalsOf]
    cases request.selectedProviderId agent spec.1 with
    | none => cases spec.2 <;> rfl
    | some providerId =>
      simp only
      cases catalog.find providerId <;> rfl
  have hsetups : ∀ spec, (request.setupsOf catalog agent spec).filter
      (·.setupSchemaRef.isSome) = request.setupsOf catalog agent spec := by
    intro spec
    rw [List.filter_eq_self, setupsOf]
    intro item hitem
    simp only [List.mem_flatMap, List.mem_map] at hitem
    obtain ⟨_, _, _, _, rfl⟩ := hitem
    rfl
  rw [itemsOf, List.filter_flatMap]
  simp only [List.filter_append, hrefusals, hsetups, List.nil_append]

end DwCompositionResolveRequest

end GreenticDw

import GreenticDw.Composition.Resolved

namespace GreenticDw

def DwAgentComposition.pins (composition : DwAgentComposition) : SortedMap CapabilityId String :=
  .ofEntries (composition.capabilityBindings.map fun binding =>
    (binding.capabilityId, binding.providerBinding.providerId))

namespace DwAgentResolveRequest

def pinned (agent : DwAgentResolveRequest) (composition : DwAgentComposition) :
    DwAgentResolveRequest :=
  { agent with providerOverrides := composition.pins }

def unselected (agent : DwAgentResolveRequest) : DwAgentResolveRequest :=
  { agent with
    providerOverrides := ∅
    template := { agent.template with
      capabilityPlan := { agent.template.capabilityPlan with defaultProviderIds := ∅ } } }

end DwAgentResolveRequest

namespace DwCompositionResolveRequest

def unselected (request : DwCompositionResolveRequest) : DwCompositionResolveRequest :=
  { request with
    sharedProviderOverrides := ∅
    agents := request.agents.map DwAgentResolveRequest.unselected }

def pinnedBy (request : DwCompositionResolveRequest) (document : DwCompositionDocument) :
    DwCompositionResolveRequest :=
  { request with agents := List.zipWith DwAgentResolveRequest.pinned request.agents document.agents }

def ProvidersPresent (request : DwCompositionResolveRequest) (catalog : DwProviderCatalog) : Prop :=
  ∀ agent ∈ request.agents, ∀ spec ∈ agent.capabilitySpecs,
    ∀ providerId ∈ request.selectedProviderId agent spec.1, (catalog.find providerId).isSome

def SelectsOwn (request : DwCompositionResolveRequest) : Prop :=
  ∀ agent ∈ request.agents, ∀ spec ∈ agent.capabilitySpecs,
    request.selectedProviderId agent spec.1 = agent.providerOverrides.get spec.1

instance (request : DwCompositionResolveRequest) (catalog : DwProviderCatalog) :
    Decidable (request.ProvidersPresent catalog) :=
  inferInstanceAs (Decidable (∀ agent ∈ request.agents, ∀ spec ∈ agent.capabilitySpecs,
    ∀ providerId ∈ request.selectedProviderId agent spec.1, (catalog.find providerId).isSome))

instance (request : DwCompositionResolveRequest) : Decidable request.SelectsOwn :=
  inferInstanceAs (Decidable (∀ agent ∈ request.agents, ∀ spec ∈ agent.capabilitySpecs,
    request.selectedProviderId agent spec.1 = agent.providerOverrides.get spec.1))

variable {request other : DwCompositionResolveRequest} {catalog catalog' : DwProviderCatalog}
  {agent agent' : DwAgentResolveRequest} {document : DwCompositionDocument}

structure SameProviders (request : DwCompositionResolveRequest) (catalog : DwProviderCatalog)
    (other : DwCompositionResolveRequest) (catalog' : DwProviderCatalog)
    (agent' agent : DwAgentResolveRequest) : Prop where
  unselected : agent'.unselected = agent.unselected
  selected : ∀ spec ∈ agent.capabilitySpecs,
    other.selectedProviderId agent' spec.1 = request.selectedProviderId agent spec.1
  found : ∀ spec ∈ agent.capabilitySpecs, ∀ providerId ∈ request.selectedProviderId agent spec.1,
    catalog'.find providerId = catalog.find providerId

namespace SameProviders

variable (h : SameProviders request catalog other catalog' agent' agent)
include h

lemma boundProvider {spec : CapabilityId × Bool} (hspec : spec ∈ agent.capabilitySpecs) :
    other.boundProvider catalog' agent' spec.1 = request.boundProvider catalog agent spec.1 := by
  rw [DwCompositionResolveRequest.boundProvider, DwCompositionResolveRequest.boundProvider,
    h.selected spec hspec]
  exact Option.bind_congr (h.found spec hspec)

lemma reads {α : Type} (f : DwAgentResolveRequest → α)
    (hf : ∀ agent : DwAgentResolveRequest, f agent.unselected = f agent) : f agent' = f agent := by
  rw [← hf agent', h.unselected, hf agent]

lemma agentId : agent'.agentId = agent.agentId := h.reads (·.agentId) fun _ => rfl

lemma capabilitySpecs : agent'.capabilitySpecs = agent.capabilitySpecs :=
  h.reads (·.capabilitySpecs) fun _ => rfl

lemma providerRefs : other.agentProviderRefs catalog' agent' =
    request.agentProviderRefs catalog agent := by
  have hrefs : agent.capabilitySpecs.flatMap (other.providerRefsOf catalog' agent') =
      agent.capabilitySpecs.flatMap (request.providerRefsOf catalog agent) := by
    refine List.flatMap_congr fun spec hspec => ?_
    rw [providerRefsOf, providerRefsOf, h.boundProvider hspec]
  rw [agentProviderRefs, agentProviderRefs, h.capabilitySpecs, hrefs]

lemma composition (hmode : other.mode = request.mode) :
    other.agentComposition catalog' agent' = request.agentComposition catalog agent := by
  have hbindings : agent.capabilitySpecs.flatMap (other.bindingsOf catalog' agent') =
      agent.capabilitySpecs.flatMap (request.bindingsOf catalog agent) := by
    refine List.flatMap_congr fun spec hspec => ?_
    rw [bindingsOf, bindingsOf, h.boundProvider hspec]
  have hrest : ∀ bindings refs,
      other.composition agent' bindings refs = request.composition agent bindings refs := by
    intro bindings refs
    rw [h.reads (other.composition · bindings refs) fun _ => rfl]
    rw [DwCompositionResolveRequest.composition, behaviorMode, hmode]
    rfl
  rw [agentComposition, agentComposition, h.providerRefs, h.capabilitySpecs, hbindings, hrest]

lemma items : other.itemsOf catalog' agent' = request.itemsOf catalog agent := by
  rw [itemsOf, itemsOf, h.capabilitySpecs]
  refine List.flatMap_congr fun spec hspec => ?_
  have hsetups : other.setupsOf catalog' agent' spec = request.setupsOf catalog agent spec := by
    have hitem : agent'.setupItem = agent.setupItem := h.reads (·.setupItem) fun _ => rfl
    rw [setupsOf, setupsOf, h.boundProvider hspec, hitem]
  have hrefusals : other.refusalsOf catalog' agent' spec =
      request.refusalsOf catalog agent spec := by
    have hmissing : agent'.missingItem = agent.missingItem := h.reads (·.missingItem) fun _ => rfl
    have hunresolved : agent'.unresolvedItem = agent.unresolvedItem :=
      h.reads (·.unresolvedItem) fun _ => rfl
    rw [refusalsOf, refusalsOf, h.selected spec hspec, hmissing, hunresolved]
    cases hselected : request.selectedProviderId agent spec.1 with
    | none => rfl
    | some providerId =>
      simp only [h.found spec hspec providerId hselected]
  rw [hsetups, hrefusals]

lemma packUses : other.packUses catalog' agent' = request.packUses catalog agent := by
  have huses : agent.capabilitySpecs.flatMap (other.providerUses catalog' agent') =
      agent.capabilitySpecs.flatMap (request.providerUses catalog agent) := by
    refine List.flatMap_congr fun spec hspec => ?_
    rw [providerUses, providerUses, h.boundProvider hspec, h.agentId]
  have hhints : agent'.template.packagingHints = agent.template.packagingHints :=
    h.reads (·.template.packagingHints) fun _ => rfl
  rw [DwCompositionResolveRequest.packUses, DwCompositionResolveRequest.packUses,
    h.capabilitySpecs, huses, hhints, h.agentId]

end SameProviders

section

variable {α β γ δ : Type} {p : α → β → Prop} {q : δ → β → Prop} {xs : List α} {ys : List β}

lemma forall₂_zipWith {f : α → γ → δ} {g : β → γ} (h : List.Forall₂ p xs ys)
    (hp : ∀ x, ∀ y ∈ ys, p x y → f x (g y) ∈ List.zipWith f xs (ys.map g) → q (f x (g y)) y) :
    List.Forall₂ q (List.zipWith f xs (ys.map g)) ys := by
  induction h with
  | nil => exact .nil
  | cons hxy _ ih =>
    refine .cons (hp _ _ List.mem_cons_self hxy List.mem_cons_self) (ih fun x y hy hxy hmem => ?_)
    exact hp x y (List.mem_cons_of_mem _ hy) hxy (List.mem_cons_of_mem _ hmem)

lemma map_eq_map_of_forall₂ {f : α → γ} {g : β → γ} (h : List.Forall₂ p xs ys)
    (hp : ∀ x y, p x y → f x = g y) : xs.map f = ys.map g := by
  rw [← List.forall₂_eq_eq_eq, List.forall₂_map_left_iff, List.forall₂_map_right_iff]
  exact h.imp hp

end

lemma document_sameProviders (same : other.unselected = request.unselected)
    (h : List.Forall₂ (SameProviders request catalog other catalog') other.agents request.agents) :
    other.document catalog' = request.document catalog := by
  have hmode : other.mode = request.mode := congrArg (·.mode) same
  have happlication : other.unselected.application = request.unselected.application := by
    rw [same]
  change other.application = request.application at happlication
  have hagents := map_eq_map_of_forall₂ h fun _ _ hsame => hsame.composition hmode
  have hitems := map_eq_map_of_forall₂ h fun _ _ hsame => hsame.items
  have huses := map_eq_map_of_forall₂ h fun _ _ hsame => hsame.packUses
  have hrefs := map_eq_map_of_forall₂ h fun _ _ hsame => hsame.providerRefs
  have hmulti : other.agents.map (·.template.supportsMultiAgentAppPack) =
      request.agents.map (·.template.supportsMultiAgentAppPack) :=
    map_eq_map_of_forall₂ h fun _ _ hsame =>
      hsame.reads (·.template.supportsMultiAgentAppPack) fun _ => rfl
  have hany : other.agents.any (·.template.supportsMultiAgentAppPack) =
      request.agents.any (·.template.supportsMultiAgentAppPack) := by
    have hflags := congrArg (List.any · id) hmulti
    simpa only [List.any_map, Function.id_comp] using hflags
  simp only [document, sharedPacks, List.flatMap_def, hagents, hitems, huses, hrefs, hany,
    h.length_eq, happlication]

lemma forall₂_unselected (same : other.unselected = request.unselected) :
    List.Forall₂ (fun agent' agent => agent'.unselected = agent.unselected)
      other.agents request.agents := by
  have hagents : other.agents.map DwAgentResolveRequest.unselected =
      request.agents.map DwAgentResolveRequest.unselected := congrArg (·.agents) same
  have hequal : List.Forall₂ (· = ·) (other.agents.map DwAgentResolveRequest.unselected)
      (request.agents.map DwAgentResolveRequest.unselected) := by
    rw [List.forall₂_eq_eq_eq]
    exact hagents
  rwa [List.forall₂_map_left_iff, List.forall₂_map_right_iff] at hequal

lemma selected_of_binding {binding : CapabilityBinding}
    (h : binding ∈ (request.agentComposition catalog agent).capabilityBindings) :
    request.selectedProviderId agent binding.capabilityId =
      some binding.providerBinding.providerId := by
  obtain ⟨spec, -, hbinding⟩ := List.mem_flatMap.mp h
  obtain ⟨provider, hprovider, rfl⟩ := List.mem_map.mp hbinding
  rw [Option.mem_toList, boundProvider, Option.bind_eq_some_iff] at hprovider
  obtain ⟨providerId, hselected, hfind⟩ := hprovider
  have hid := DwProviderCatalog.providerId_of_find hfind
  exact hselected.trans (congrArg some hid.symm)

lemma exists_binding {spec : CapabilityId × Bool} {providerId : String}
    (hspec : spec ∈ agent.capabilitySpecs)
    (hselected : request.selectedProviderId agent spec.1 = some providerId)
    (hfind : (catalog.find providerId).isSome) :
    ∃ binding ∈ (request.agentComposition catalog agent).capabilityBindings,
      binding.capabilityId = spec.1 ∧ binding.providerBinding.providerId = providerId := by
  obtain ⟨provider, hprovider⟩ := Option.isSome_iff_exists.mp hfind
  refine ⟨provider.capabilityBinding spec.1 spec.2, ?_, rfl,
    DwProviderCatalog.providerId_of_find hprovider⟩
  have hbound : request.boundProvider catalog agent spec.1 = some provider := by
    rw [boundProvider, hselected, Option.bind_some, hprovider]
  refine List.mem_flatMap.mpr ⟨spec, hspec, ?_⟩
  rw [bindingsOf, hbound]
  exact List.mem_singleton_self _

lemma get_pins {spec : CapabilityId × Bool} (hspec : spec ∈ agent.capabilitySpecs)
    (present : ∀ providerId ∈ request.selectedProviderId agent spec.1,
      (catalog.find providerId).isSome) :
    (request.agentComposition catalog agent).pins.get spec.1 =
      request.selectedProviderId agent spec.1 := by
  cases hselected : request.selectedProviderId agent spec.1 with
  | none =>
    apply SortedMap.get_ofEntries_eq_none
    intro entry hentry hkey
    obtain ⟨binding, hbinding, rfl⟩ := List.mem_map.mp hentry
    have hbound := selected_of_binding hbinding
    rw [show binding.capabilityId = spec.1 from hkey, hselected] at hbound
    cases hbound
  | some providerId =>
    obtain ⟨binding, hbinding, hcapability, hprovider⟩ :=
      exists_binding hspec hselected (present providerId hselected)
    apply SortedMap.get_ofEntries_of_mem
    · exact List.mem_map.mpr ⟨binding, hbinding, by rw [hcapability, hprovider]⟩
    · intro entry hentry hkey
      obtain ⟨pin, hpin, rfl⟩ := List.mem_map.mp hentry
      have hbound := selected_of_binding hpin
      rw [show pin.capabilityId = spec.1 from hkey, hselected] at hbound
      exact (Option.some.inj hbound).symm

lemma unselected_pinnedBy (same : other.unselected = request.unselected) :
    (other.pinnedBy (request.document catalog)).unselected = request.unselected := by
  have hagents : List.Forall₂ (fun agent' agent => agent'.unselected = agent.unselected)
      (other.pinnedBy (request.document catalog)).agents request.agents :=
    forall₂_zipWith (forall₂_unselected same) fun _ _ _ h _ => h
  have hmap := map_eq_map_of_forall₂ (f := DwAgentResolveRequest.unselected)
    (g := DwAgentResolveRequest.unselected) hagents fun _ _ h => h
  calc (other.pinnedBy (request.document catalog)).unselected
    _ = { other.unselected with
          agents := (other.pinnedBy (request.document catalog)).agents.map
            DwAgentResolveRequest.unselected } := rfl
    _ = { request.unselected with
          agents := request.agents.map DwAgentResolveRequest.unselected } := by rw [same, hmap]
    _ = request.unselected := rfl

lemma sameProviders_pinnedBy (present : request.ProvidersPresent catalog)
    (same : other.unselected = request.unselected)
    (own : (other.pinnedBy (request.document catalog)).SelectsOwn)
    (kept : ∀ composition ∈ (request.document catalog).agents,
      ∀ binding ∈ composition.capabilityBindings,
        catalog'.find binding.providerBinding.providerId =
          catalog.find binding.providerBinding.providerId) :
    List.Forall₂
      (SameProviders request catalog (other.pinnedBy (request.document catalog)) catalog')
      (other.pinnedBy (request.document catalog)).agents request.agents := by
  apply forall₂_zipWith (forall₂_unselected same)
  intro agent' agent hagent hagrees hmem
  have hspecs : (agent'.pinned (request.agentComposition catalog agent)).capabilitySpecs =
      agent.capabilitySpecs := congrArg (·.capabilitySpecs) hagrees
  refine ⟨hagrees, fun spec hspec => ?_, fun spec hspec providerId hselected => ?_⟩
  · -- A pin is an agent's own override, which is looked up before all others.
    rw [own _ hmem spec (hspecs ▸ hspec)]
    exact get_pins hspec (present agent hagent spec hspec)
  · obtain ⟨binding, hbinding, -, hprovider⟩ :=
      exists_binding hspec hselected (present agent hagent spec hspec providerId hselected)
    rw [← hprovider]
    exact kept _ (List.mem_map_of_mem hagent) binding hbinding

theorem pinned_resolution_stands (resolved : request.resolve catalog = .ok document)
    (present : request.ProvidersPresent catalog) (same : other.unselected = request.unselected)
    (own : (other.pinnedBy document).SelectsOwn)
    (kept : ∀ composition ∈ document.agents, ∀ binding ∈ composition.capabilityBindings,
      catalog'.find binding.providerBinding.providerId =
        catalog.find binding.providerBinding.providerId) :
    (other.pinnedBy document).resolve catalog' = .ok document := by
  obtain ⟨hne, rfl⟩ := resolve_eq_ok.mp resolved
  have hsame := sameProviders_pinnedBy present same own kept
  have hnonempty : (other.pinnedBy (request.document catalog)).agents ≠ [] := by
    rw [← List.length_pos_iff, hsame.length_eq, List.length_pos_iff]
    exact hne
  have hdocument := document_sameProviders (unselected_pinnedBy same) hsame
  exact resolve_eq_ok.mpr ⟨hnonempty, hdocument.symm⟩

def localProvider : DwProviderCatalogEntry :=
  { chatProvider with providerId := "provider.llm.local", displayName := "Local Chat" }

def rememberingRequest : DwCompositionResolveRequest :=
  deskRequest (.ofEntries [("cap://memory/short-term", "provider.memory.local")])

def localRequest : DwCompositionResolveRequest :=
  deskRequest (.ofEntries [("cap://llm/chat", "provider.llm.local")])

theorem pinned_resolution_stands_desk :
    (localRequest.pinnedBy (rememberingRequest.document deskCatalog)).resolve
      ⟨localProvider :: deskCatalog.entries⟩ = .ok (rememberingRequest.document deskCatalog) :=
  pinned_resolution_stands (resolve_deskRequest _) (by decide) rfl (by decide) (by decide)

end DwCompositionResolveRequest

end GreenticDw

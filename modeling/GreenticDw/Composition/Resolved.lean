import GreenticDw.Composition.Resolver

namespace GreenticDw

def SharedPacks.add (packs : SharedPacks) (packUse : PackUse) : SharedPacks :=
  let index :=
    if packUse.providerId.isSome then packs.providerDependencyIndex.get packUse.packId
    else packs.supportPackIndex.get packUse.packId
  match index with
  | some index =>
    { packs with
      sharedPackDependencies :=
        packs.sharedPackDependencies.modify index (PackDependencyRef.addAgent packUse.agentId) }
  | none =>
    let fresh := { packs with
      sharedPackDependencies := packs.sharedPackDependencies ++ [packUse.dependency] }
    let position := packs.sharedPackDependencies.length
    if packUse.providerId.isSome then
      { fresh with
        providerDependencyIndex := packs.providerDependencyIndex.insert packUse.packId position }
    else
      { fresh with
        supportPackIndex := packs.supportPackIndex.insert packUse.packId position
        bundlePlan := packs.bundlePlan ++ [packUse.inclusionPlan] }

lemma SharedPacks.addProvider_eq (packs : SharedPacks) (agentId : String)
    (provider : DwProviderCatalogEntry) :
    packs.addProvider agentId provider = packs.add (.ofProvider agentId provider) := rfl

lemma SharedPacks.addSupportPack_eq (packs : SharedPacks) (agentId : String)
    (supportPack : PackSourceRef) :
    packs.addSupportPack agentId supportPack = packs.add (.ofSupportPack agentId supportPack) := rfl

namespace DwCompositionResolveRequest

variable (request : DwCompositionResolveRequest) (catalog : DwProviderCatalog)
  (agent : DwAgentResolveRequest)

def boundProvider (capabilityId : CapabilityId) : Option DwProviderCatalogEntry :=
  (request.selectedProviderId agent capabilityId).bind catalog.find

def bindingsOf (spec : CapabilityId × Bool) : List CapabilityBinding :=
  (request.boundProvider catalog agent spec.1).toList.map (·.capabilityBinding spec.1 spec.2)

def setupsOf (spec : CapabilityId × Bool) : List SetupRequirement :=
  (request.boundProvider catalog agent spec.1).toList.flatMap fun provider =>
    provider.requiredSetupSchemaRefs.map (agent.setupItem provider)

def refusalsOf (spec : CapabilityId × Bool) : List SetupRequirement :=
  match request.selectedProviderId agent spec.1 with
  | some providerId =>
    match catalog.find providerId with
    | some _ => []
    | none => [agent.missingItem spec.1 providerId]
  | none => if spec.2 then [] else [agent.unresolvedItem spec.1]

def providerUses (spec : CapabilityId × Bool) : List PackUse :=
  (request.boundProvider catalog agent spec.1).toList.map (.ofProvider agent.agentId)

def providerRefsOf (spec : CapabilityId × Bool) : List DwProviderSourceRef :=
  (request.boundProvider catalog agent spec.1).toList.map (·.sourceRef)

def agentProviderRefs : List DwProviderSourceRef :=
  (agent.capabilitySpecs.flatMap (request.providerRefsOf catalog agent)).foldl pushNew []

def agentComposition : DwAgentComposition :=
  request.composition agent (agent.capabilitySpecs.flatMap (request.bindingsOf catalog agent))
    (request.agentProviderRefs catalog agent)

def itemsOf : List SetupRequirement :=
  agent.capabilitySpecs.flatMap fun spec =>
    request.refusalsOf catalog agent spec ++ request.setupsOf catalog agent spec

def packUses : List PackUse :=
  agent.capabilitySpecs.flatMap (request.providerUses catalog agent) ++
    agent.template.packagingHints.supportPackRefs.map (.ofSupportPack agent.agentId)

def sharedPacks : SharedPacks :=
  (request.agents.flatMap (request.packUses catalog)).foldl SharedPacks.add ∅

def document : DwCompositionDocument where
  application := request.application
  agents := request.agents.map (request.agentComposition catalog)
  sharedPackDependencies := (request.sharedPacks catalog).sharedPackDependencies
  bundlePlan := (request.sharedPacks catalog).bundlePlan
  unresolvedSetupItems := request.agents.flatMap (request.itemsOf catalog)
  routing := none
  outputPlan := {
    generatedPackId := none
    generatedBundleId := none
    supportsMultiAgentAppPack := request.agents.length > 1 ||
      request.agents.any (·.template.supportsMultiAgentAppPack) }
  sourceProvenance := some {
    templateSourceRef := none
    providerSourceRefs :=
      (request.agents.flatMap (request.agentProviderRefs catalog)).foldl pushNew [] }

variable {request catalog agent}

lemma resolveCapability_eq (s : AgentResolution) (spec : CapabilityId × Bool) :
    request.resolveCapability catalog agent s spec = {
      capabilityBindings := s.capabilityBindings ++ request.bindingsOf catalog agent spec
      agentUnresolved := s.agentUnresolved ++
        (request.refusalsOf catalog agent spec ++ request.setupsOf catalog agent spec)
      agentProviderRefs :=
        (request.providerRefsOf catalog agent spec).foldl pushNew s.agentProviderRefs
      packs := (request.providerUses catalog agent spec).foldl SharedPacks.add s.packs } := by
  simp only [resolveCapability, bindingsOf, refusalsOf, setupsOf, providerRefsOf, providerUses,
    boundProvider]
  cases hselected : request.selectedProviderId agent spec.1 with
  | none => cases hspec : spec.2 <;> simp
  | some providerId =>
    cases hfind : catalog.find providerId with
    | none => simp [hfind]
    | some provider => simp [hfind, SharedPacks.addProvider_eq]

lemma foldl_resolveCapability (specs : List (CapabilityId × Bool)) (s : AgentResolution) :
    specs.foldl (request.resolveCapability catalog agent) s = {
      capabilityBindings := s.capabilityBindings ++
        specs.flatMap (request.bindingsOf catalog agent)
      agentUnresolved := s.agentUnresolved ++ specs.flatMap fun spec =>
        request.refusalsOf catalog agent spec ++ request.setupsOf catalog agent spec
      agentProviderRefs := (specs.flatMap (request.providerRefsOf catalog agent)).foldl pushNew
        s.agentProviderRefs
      packs := (specs.flatMap (request.providerUses catalog agent)).foldl SharedPacks.add
        s.packs } := by
  induction specs generalizing s with
  | nil => simp
  | cons spec specs ih =>
    rw [List.foldl_cons, resolveCapability_eq, ih]
    simp only [List.flatMap_cons, List.foldl_append, List.append_assoc]

lemma resolveAgent_eq (s : ResolutionState) (agent : DwAgentResolveRequest) :
    request.resolveAgent catalog s agent = {
      agents := s.agents ++ [request.agentComposition catalog agent]
      packs := (request.packUses catalog agent).foldl SharedPacks.add s.packs
      unresolvedSetupItems := s.unresolvedSetupItems ++ request.itemsOf catalog agent
      provenance := { s.provenance with
        providerSourceRefs := (request.agentProviderRefs catalog agent).foldl pushNew
          s.provenance.providerSourceRefs }
      supportsMultiAgentAppPack :=
        agent.template.supportsMultiAgentAppPack || s.supportsMultiAgentAppPack } := by
  have hadd : SharedPacks.addSupportPack agent.agentId = fun packs supportPack =>
      packs.add (.ofSupportPack agent.agentId supportPack) := by
    funext packs supportPack
    exact packs.addSupportPack_eq agent.agentId supportPack
  rw [resolveAgent, foldl_resolveCapability, hadd, packUses, List.foldl_append, List.foldl_map]
  cases agent.template.supportsMultiAgentAppPack <;> rfl

lemma foldl_resolveAgent (agents : List DwAgentResolveRequest) (s : ResolutionState) :
    agents.foldl (request.resolveAgent catalog) s = {
      agents := s.agents ++ agents.map (request.agentComposition catalog)
      packs := (agents.flatMap (request.packUses catalog)).foldl SharedPacks.add s.packs
      unresolvedSetupItems := s.unresolvedSetupItems ++ agents.flatMap (request.itemsOf catalog)
      provenance := { s.provenance with
        providerSourceRefs := (agents.flatMap (request.agentProviderRefs catalog)).foldl pushNew
          s.provenance.providerSourceRefs }
      supportsMultiAgentAppPack :=
        agents.any (·.template.supportsMultiAgentAppPack) || s.supportsMultiAgentAppPack } := by
  induction agents generalizing s with
  | nil => simp
  | cons agent agents ih =>
    rw [List.foldl_cons, resolveAgent_eq, ih]
    simp only [List.flatMap_cons, List.foldl_append, List.append_assoc, List.map_cons,
      List.singleton_append, List.any_cons, ResolutionState.mk.injEq, true_and]
    rw [← Bool.or_assoc, Bool.or_comm (agents.any _)]

theorem resolve_eq : request.resolve catalog =
    if request.agents.isEmpty then .error .noAgents else .ok (request.document catalog) := by
  rw [resolve]
  by_cases hempty : request.agents.isEmpty = true
  · rw [if_pos hempty, if_pos hempty]
  · rw [if_neg hempty, if_neg hempty, foldl_resolveAgent]
    have hflag : (if request.agents.length > 1 then true
        else request.agents.any (·.template.supportsMultiAgentAppPack) || false) =
        (decide (request.agents.length > 1) ||
          request.agents.any (·.template.supportsMultiAgentAppPack)) := by
      by_cases hlen : request.agents.length > 1 <;> simp [hlen]
    simp only [List.nil_append, hflag]
    rfl

theorem resolve_eq_ok {document : DwCompositionDocument} :
    request.resolve catalog = .ok document ↔
      request.agents ≠ [] ∧ document = request.document catalog := by
  rw [resolve_eq]
  cases request.agents <;> simp [eq_comm]

end DwCompositionResolveRequest

def packRef (rawRef : String) : PackSourceRef := ⟨⟨rawRef, .repo, ⟨false, false⟩, false⟩⟩

def chatProvider : DwProviderCatalogEntry where
  providerId := "provider.llm.chat"
  family := "llm"
  category := "chat"
  displayName := "Chat"
  sourceRef := ⟨packRef "repo://providers/llm/chat"⟩
  version := some "0.5.0"
  channel := none
  capabilityProfile := ⟨["cap://llm/chat"], ["pack.llm.chat"]⟩
  requiredSetupSchemaRefs := []
  requiredQuestionBlockIds := []

def memoryProvider : DwProviderCatalogEntry where
  providerId := "provider.memory.local"
  family := "memory"
  category := "short-term"
  displayName := "Local Memory"
  sourceRef := ⟨packRef "repo://providers/memory/local"⟩
  version := none
  channel := none
  capabilityProfile := ⟨["cap://memory/short-term"], []⟩
  requiredSetupSchemaRefs := [⟨(packRef "repo://schemas/memory").source⟩]
  requiredQuestionBlockIds := ["memory.location"]

def deskCatalog : DwProviderCatalog := ⟨[chatProvider, memoryProvider]⟩

def deskTemplate : DigitalWorkerTemplate where
  metadata := ⟨"dw.support-desk", "Support Desk"⟩
  capabilityPlan := {
    requiredCapabilities := ["cap://llm/chat", "cap://memory/short-term"]
    optionalCapabilities := ["cap://observer/audit"]
    defaultProviderIds := .ofEntries [("cap://llm/chat", "provider.llm.chat")] }
  defaults := ⟨∅⟩
  behaviorScaffold := ⟨⟨["dw.core.identity"]⟩, ⟨["provider.override"]⟩⟩
  packagingHints := { supportPackRefs := [packRef "repo://packs/audit"] }
  supportsMultiAgentAppPack := false

def deskAgent (agentId : String) (providerOverrides : SortedMap CapabilityId String) :
    DwAgentResolveRequest where
  agentId := agentId
  displayName := none
  template := deskTemplate
  selectedTemplate := none
  answers := ∅
  providerOverrides := providerOverrides

def deskRequest (sharedProviderOverrides : SortedMap CapabilityId String) :
    DwCompositionResolveRequest where
  applicationId := "dw.app.desk"
  displayName := "Desk"
  version := none
  tenant := none
  tags := []
  agents := [
    deskAgent "front" (.ofEntries [("cap://memory/short-term", "provider.memory.local")]),
    deskAgent "back" ∅]
  sharedProviderOverrides := sharedProviderOverrides
  mode := none

lemma resolve_deskRequest (sharedProviderOverrides : SortedMap CapabilityId String) :
    (deskRequest sharedProviderOverrides).resolve deskCatalog =
      .ok ((deskRequest sharedProviderOverrides).document deskCatalog) :=
  DwCompositionResolveRequest.resolve_eq_ok.mpr ⟨List.cons_ne_nil _ _, rfl⟩

example : ((deskRequest ∅).document deskCatalog).unresolvedSetupItems.map (·.requirementId) =
    ["setup.front.provider.memory.local",
      "provider.unresolved.back.cap://memory/short-term"] := by decide

end GreenticDw

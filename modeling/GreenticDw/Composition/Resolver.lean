import GreenticDw.Composition.Documents

/-! How a request is resolved: every capability of every agent gets a provider from the catalog or a
setup item, and every pack that is needed gets one dependency. -/

namespace GreenticDw

def PackDependencyRef.addAgent (agentId : String) (dependency : PackDependencyRef) :
    PackDependencyRef :=
  if agentId ∈ dependency.appliesToAgents then dependency
  else { dependency with appliesToAgents := dependency.appliesToAgents ++ [agentId] }

structure PackUse where
  agentId : String
  packId : String
  sourceRef : PackSourceRef
  version : Option String
  providerId : Option String
  deriving DecidableEq, Repr

namespace PackUse

def ofProvider (agentId : String) (provider : DwProviderCatalogEntry) : PackUse where
  agentId := agentId
  packId := provider.providerId
  sourceRef := provider.sourceRef.source
  version := provider.version
  providerId := some provider.providerId

def ofSupportPack (agentId : String) (supportPack : PackSourceRef) : PackUse where
  agentId := agentId
  packId := supportPack.source.rawRef
  sourceRef := supportPack
  version := none
  providerId := none

def dependency (packUse : PackUse) : PackDependencyRef where
  packId := packUse.packId
  sourceRef := packUse.sourceRef
  version := packUse.version
  providerId := packUse.providerId
  appliesToAgents := [packUse.agentId]

def inclusionPlan (packUse : PackUse) : BundleInclusionPlan where
  packId := packUse.packId
  sourceRef := packUse.sourceRef
  appliesToAgents := [packUse.agentId]
  rationale := some "Template packaging support pack"

end PackUse

structure SharedPacks where
  sharedPackDependencies : List PackDependencyRef
  bundlePlan : List BundleInclusionPlan
  providerDependencyIndex : SortedMap String ℕ
  supportPackIndex : SortedMap String ℕ

namespace SharedPacks

instance : EmptyCollection SharedPacks := ⟨⟨[], [], ∅, ∅⟩⟩

def addProvider (packs : SharedPacks) (agentId : String) (provider : DwProviderCatalogEntry) :
    SharedPacks :=
  let packUse := PackUse.ofProvider agentId provider
  match packs.providerDependencyIndex.get packUse.packId with
  | some index =>
    { packs with
      sharedPackDependencies :=
        packs.sharedPackDependencies.modify index (PackDependencyRef.addAgent agentId) }
  | none =>
    { packs with
      providerDependencyIndex :=
        packs.providerDependencyIndex.insert packUse.packId packs.sharedPackDependencies.length
      sharedPackDependencies := packs.sharedPackDependencies ++ [packUse.dependency] }

def addSupportPack (agentId : String) (packs : SharedPacks) (supportPack : PackSourceRef) :
    SharedPacks :=
  let packUse := PackUse.ofSupportPack agentId supportPack
  match packs.supportPackIndex.get packUse.packId with
  | some index =>
    { packs with
      sharedPackDependencies :=
        packs.sharedPackDependencies.modify index (PackDependencyRef.addAgent agentId) }
  | none =>
    { packs with
      supportPackIndex :=
        packs.supportPackIndex.insert packUse.packId packs.sharedPackDependencies.length
      sharedPackDependencies := packs.sharedPackDependencies ++ [packUse.dependency]
      bundlePlan := packs.bundlePlan ++ [packUse.inclusionPlan] }

end SharedPacks

def pushNew {α : Type} [DecidableEq α] (xs : List α) (a : α) : List α :=
  if a ∈ xs then xs else xs ++ [a]

namespace DwProviderCatalogEntry

variable (provider : DwProviderCatalogEntry)

def providerBinding : ProviderBinding where
  providerId := provider.providerId
  sourceRef := provider.sourceRef
  version := provider.version
  channel := provider.channel
  providerFamily := some provider.family
  providerCategory := some provider.category

def capabilityBinding (capabilityId : CapabilityId) (optional : Bool) : CapabilityBinding where
  capabilityId := capabilityId
  providerBinding := provider.providerBinding
  optional := optional
  packCapabilityId := provider.capabilityProfile.packCapabilityIds.head?

end DwProviderCatalogEntry

namespace DwAgentResolveRequest

variable (agent : DwAgentResolveRequest)

def effectiveValues : SortedMap String Value :=
  agent.answers.entries.foldl (fun values entry => values.insert entry.1 entry.2)
    agent.template.defaults.values

def effectiveDisplayName : String :=
  (agent.displayName <|> (agent.effectiveValues.get "display_name").bind Value.asStr).getD
    agent.template.metadata.name

def capabilitySpecs : List (CapabilityId × Bool) :=
  agent.template.capabilityPlan.requiredCapabilities.map (·, false) ++
    agent.template.capabilityPlan.optionalCapabilities.map (·, true)

def setupItem (provider : DwProviderCatalogEntry) (setupRef : TemplateSourceRef) :
    SetupRequirement where
  requirementId := s!"setup.{agent.agentId}.{provider.providerId}"
  status := .required
  summary := "Setup required for provider `" ++ provider.providerId ++ "`"
  providerId := some provider.providerId
  setupSchemaRef := some setupRef
  questionBlockId := provider.requiredQuestionBlockIds.head?
  appliesToAgents := [agent.agentId]

def missingItem (capabilityId : CapabilityId) (providerId : String) : SetupRequirement where
  requirementId := s!"provider.missing.{agent.agentId}.{capabilityId}"
  status := .required
  summary := "Provider `" ++ providerId ++ "` for capability `" ++ capabilityId ++
    "` is not present in the provider catalog"
  providerId := some providerId
  setupSchemaRef := none
  questionBlockId := none
  appliesToAgents := [agent.agentId]

def unresolvedItem (capabilityId : CapabilityId) : SetupRequirement where
  requirementId := s!"provider.unresolved.{agent.agentId}.{capabilityId}"
  status := .required
  summary := "No provider selected for required capability `" ++ capabilityId ++ "`"
  providerId := none
  setupSchemaRef := none
  questionBlockId := none
  appliesToAgents := [agent.agentId]

end DwAgentResolveRequest

structure AgentResolution where
  capabilityBindings : List CapabilityBinding
  agentUnresolved : List SetupRequirement
  agentProviderRefs : List DwProviderSourceRef
  packs : SharedPacks

structure ResolutionState where
  agents : List DwAgentComposition
  packs : SharedPacks
  unresolvedSetupItems : List SetupRequirement
  provenance : CompositionSourceProvenance
  supportsMultiAgentAppPack : Bool

inductive DwCompositionResolveError where
  | noAgents
  deriving DecidableEq, Repr

namespace DwCompositionResolveRequest

variable (request : DwCompositionResolveRequest) (catalog : DwProviderCatalog)

def selectedProviderId (agent : DwAgentResolveRequest) (capabilityId : CapabilityId) :
    Option String :=
  agent.providerOverrides.get capabilityId <|> request.sharedProviderOverrides.get capabilityId <|>
    agent.template.capabilityPlan.defaultProviderIds.get capabilityId

def resolveCapability (agent : DwAgentResolveRequest) (s : AgentResolution)
    (spec : CapabilityId × Bool) : AgentResolution :=
  match request.selectedProviderId agent spec.1 with
  | some providerId =>
    match catalog.find providerId with
    | some provider =>
      { capabilityBindings := s.capabilityBindings ++ [provider.capabilityBinding spec.1 spec.2]
        agentUnresolved := s.agentUnresolved ++
          provider.requiredSetupSchemaRefs.map (agent.setupItem provider)
        agentProviderRefs := pushNew s.agentProviderRefs provider.sourceRef
        packs := s.packs.addProvider agent.agentId provider }
    | none =>
      { s with agentUnresolved := s.agentUnresolved ++ [agent.missingItem spec.1 providerId] }
  | none =>
    if spec.2 then s
    else { s with agentUnresolved := s.agentUnresolved ++ [agent.unresolvedItem spec.1] }

def behaviorMode (agent : DwAgentResolveRequest) : TemplateModeBehavior :=
  match request.mode.getD .recommended with
  | .recommended => agent.template.behaviorScaffold.defaultModeBehavior
  | .reviewAll => agent.template.behaviorScaffold.personalisedModeBehavior

def composition (agent : DwAgentResolveRequest) (capabilityBindings : List CapabilityBinding)
    (agentProviderRefs : List DwProviderSourceRef) : DwAgentComposition where
  agentId := agent.agentId
  displayName := agent.effectiveDisplayName
  templateId := agent.template.metadata.id
  selectedTemplate := agent.selectedTemplate
  capabilityBindings := capabilityBindings
  behaviorConfig := {
    enabledQuestionBlockIds := (request.behaviorMode agent).questionBlockIds
    values := agent.effectiveValues }
  sourceProvenance := {
    templateSourceRef := agent.selectedTemplate.map (·.sourceRef)
    providerSourceRefs := agentProviderRefs }

def resolveAgent (s : ResolutionState) (agent : DwAgentResolveRequest) : ResolutionState :=
  let resolved := agent.capabilitySpecs.foldl (request.resolveCapability catalog agent)
    ⟨[], [], [], s.packs⟩
  { agents := s.agents ++
      [request.composition agent resolved.capabilityBindings resolved.agentProviderRefs]
    packs := agent.template.packagingHints.supportPackRefs.foldl
      (SharedPacks.addSupportPack agent.agentId) resolved.packs
    unresolvedSetupItems := s.unresolvedSetupItems ++ resolved.agentUnresolved
    provenance := { s.provenance with
      providerSourceRefs := resolved.agentProviderRefs.foldl pushNew
        s.provenance.providerSourceRefs }
    supportsMultiAgentAppPack :=
      if agent.template.supportsMultiAgentAppPack then true else s.supportsMultiAgentAppPack }

def application : DwCompositionApplicationMetadata where
  applicationId := request.applicationId
  displayName := request.displayName
  version := request.version
  tenant := request.tenant
  tags := request.tags

def resolve : Except DwCompositionResolveError DwCompositionDocument :=
  if request.agents.isEmpty then .error .noAgents
  else
    let resolved := request.agents.foldl (request.resolveAgent catalog)
      ⟨[], ∅, [], ⟨none, []⟩, false⟩
    .ok {
      application := request.application
      agents := resolved.agents
      sharedPackDependencies := resolved.packs.sharedPackDependencies
      bundlePlan := resolved.packs.bundlePlan
      unresolvedSetupItems := resolved.unresolvedSetupItems
      routing := none
      outputPlan := {
        generatedPackId := none
        generatedBundleId := none
        supportsMultiAgentAppPack :=
          if request.agents.length > 1 then true else resolved.supportsMultiAgentAppPack }
      sourceProvenance := some resolved.provenance }

end DwCompositionResolveRequest

end GreenticDw

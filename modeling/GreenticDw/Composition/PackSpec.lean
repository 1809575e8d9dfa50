import GreenticDw.Composition.Documents

/-! The specification of the application pack that a composition is handed on as. -/

namespace GreenticDw

inductive ApplicationPackLayoutHints where
  | singleAgentPack
  | multiAgentSharedProviders
  | multiAgentIsolatedAssets
  deriving DecidableEq, Repr

structure DwApplicationPackMetadata where
  packId : String
  applicationId : String
  displayName : String
  version : Option String
  multiAgent : Bool
  deriving DecidableEq, Repr

structure DwApplicationPackAgent where
  agentId : String
  displayName : String
  templateId : String
  assetRoot : String
  deriving DecidableEq, Repr

inductive DwApplicationPackAssetKind where
  | config
  | flow
  | prompt
  | i18n
  | generic
  deriving DecidableEq, Repr

structure DwApplicationPackAsset where
  assetId : String
  path : String
  kind : DwApplicationPackAssetKind
  contentType : Option String
  appliesToAgents : List String
  sourceRef : Option TemplateSourceRef
  deriving DecidableEq, Repr

structure DwGeneratedConfigAsset where
  assetId : String
  path : String
  format : String
  appliesToAgents : List String
  deriving DecidableEq, Repr

structure DwGeneratedFlowAsset where
  assetId : String
  path : String
  entrypoint : Option String
  appliesToAgents : List String
  deriving DecidableEq, Repr

structure DwGeneratedPromptAsset where
  assetId : String
  path : String
  promptKind : String
  appliesToAgents : List String
  deriving DecidableEq, Repr

structure DwApplicationPackRequirement where
  requirementId : String
  summary : String
  capabilityId : Option CapabilityId
  providerId : Option String
  appliesToAgents : List String
  deriving DecidableEq, Repr

structure DwApplicationPackLayout where
  appRoot : String
  sharedAssetRoots : List String
  layoutHint : Option ApplicationPackLayoutHints
  deriving DecidableEq, Repr

structure DwApplicationPackSpec where
  metadata : DwApplicationPackMetadata
  agents : List DwApplicationPackAgent
  assets : List DwApplicationPackAsset
  generatedConfigs : List DwGeneratedConfigAsset
  generatedFlows : List DwGeneratedFlowAsset
  generatedPrompts : List DwGeneratedPromptAsset
  requirements : List DwApplicationPackRequirement
  dependencyPackRefs : List PackDependencyRef
  setupRequirements : List SetupRequirement
  routing : Option InterAgentRoutingConfig
  layout : DwApplicationPackLayout

inductive DwApplicationPackMaterializationError where
  | noAgents
  deriving DecidableEq, Repr

namespace DwAgentComposition

variable (agent : DwAgentComposition)

def packAgent : DwApplicationPackAgent where
  agentId := agent.agentId
  displayName := agent.displayName
  templateId := agent.templateId
  assetRoot := s!"agents/{agent.agentId}"

def configPath : String := s!"agents/{agent.agentId}/config.json"

def configAsset : DwApplicationPackAsset where
  assetId := s!"asset.config.{agent.agentId}"
  path := agent.configPath
  kind := .config
  contentType := some "application/json"
  appliesToAgents := [agent.agentId]
  sourceRef := agent.sourceProvenance.templateSourceRef

def generatedConfig : DwGeneratedConfigAsset where
  assetId := s!"generated.config.{agent.agentId}"
  path := agent.configPath
  format := "json"
  appliesToAgents := [agent.agentId]

def requirement (binding : CapabilityBinding) : DwApplicationPackRequirement where
  requirementId := s!"requirement.{agent.agentId}.{binding.capabilityId}"
  summary := "Capability `" ++ binding.capabilityId ++ "` bound to provider `" ++
    binding.providerBinding.providerId ++ "`"
  capabilityId := some binding.capabilityId
  providerId := some binding.providerBinding.providerId
  appliesToAgents := [agent.agentId]

end DwAgentComposition

namespace DwCompositionDocument

variable (document : DwCompositionDocument)

def multiAgent : Bool :=
  document.agents.length > 1 || document.outputPlan.supportsMultiAgentAppPack

def agentIds : List String := document.agents.map (·.agentId)

def applicationAsset : DwApplicationPackAsset where
  assetId := "asset.config.application"
  path := "shared/application.json"
  kind := .config
  contentType := some "application/json"
  appliesToAgents := document.agentIds
  sourceRef := none

def applicationConfig : DwGeneratedConfigAsset where
  assetId := "generated.config.application"
  path := "shared/application.json"
  format := "json"
  appliesToAgents := document.agentIds

def packMetadata : DwApplicationPackMetadata where
  packId := document.outputPlan.generatedPackId.getD
    s!"pack.generated.{document.application.applicationId}"
  applicationId := document.application.applicationId
  displayName := document.application.displayName
  version := document.application.version
  multiAgent := document.multiAgent

def packLayout : DwApplicationPackLayout where
  appRoot := document.application.applicationId ++ ".pack"
  sharedAssetRoots := if document.multiAgent then ["shared"] else []
  layoutHint := some
    (if document.multiAgent then .multiAgentSharedProviders else .singleAgentPack)

def packSpec : DwApplicationPackSpec where
  metadata := document.packMetadata
  agents := document.agents.map (·.packAgent)
  assets := document.agents.map (·.configAsset) ++
    if document.multiAgent then [document.applicationAsset] else []
  generatedConfigs := document.agents.map (·.generatedConfig) ++
    if document.multiAgent then [document.applicationConfig] else []
  generatedFlows := []
  generatedPrompts := []
  requirements := document.agents.flatMap fun agent =>
    agent.capabilityBindings.map agent.requirement
  dependencyPackRefs := sortBy (·.packId) document.sharedPackDependencies
  setupRequirements := document.unresolvedSetupItems
  routing := document.routing
  layout := document.packLayout

def toApplicationPackSpec :
    Except DwApplicationPackMaterializationError DwApplicationPackSpec :=
  if document.agents.isEmpty then .error .noAgents else .ok document.packSpec

lemma toApplicationPackSpec_eq_ok {document : DwCompositionDocument}
    {spec : DwApplicationPackSpec} : document.toApplicationPackSpec = .ok spec ↔
      document.agents ≠ [] ∧ spec = document.packSpec := by
  rw [toApplicationPackSpec]
  cases document.agents <;> simp [eq_comm]

end DwCompositionDocument

end GreenticDw

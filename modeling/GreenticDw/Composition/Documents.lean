import GreenticDw.Composition.Sources
import GreenticDw.Orders.SortedMaps
import GreenticDw.Runtime.WorkerRegistry
import GreenticDw.Text.Json
import Mathlib.Data.String.Basic

/-! Templates, the catalog of providers, the request to compose an application of them, and the
document that a composition is resolved into. -/

namespace GreenticDw

abbrev CapabilityId := String

structure TemplateMetadata where
  id : String
  name : String
  deriving DecidableEq, Repr

structure TemplateCapabilityPlan where
  requiredCapabilities : List CapabilityId
  optionalCapabilities : List CapabilityId
  defaultProviderIds : SortedMap CapabilityId String

structure TemplateQuestionBlockRef where
  blockId : String
  source : Option TemplateSourceRef
  answerKey : Option String
  prompt : Option String
  required : Bool
  summary : Option String
  deriving DecidableEq, Repr

structure TemplateDefaults where
  values : SortedMap String Value

structure TemplateModeBehavior where
  questionBlockIds : List String
  deriving DecidableEq, Repr

structure TemplateBehaviorScaffold where
  defaultModeBehavior : TemplateModeBehavior
  personalisedModeBehavior : TemplateModeBehavior
  deriving DecidableEq, Repr

structure TemplatePackagingHints where
  supportPackRefs : List PackSourceRef
  bundleNotes : List String := []
  deriving DecidableEq, Repr

structure DigitalWorkerTemplate where
  metadata : TemplateMetadata
  capabilityPlan : TemplateCapabilityPlan
  questionBlocks : List TemplateQuestionBlockRef := []
  defaults : TemplateDefaults
  behaviorScaffold : TemplateBehaviorScaffold
  packagingHints : TemplatePackagingHints
  supportsMultiAgentAppPack : Bool

structure TemplateCatalogEntry where
  templateId : String
  sourceRef : TemplateSourceRef
  deriving DecidableEq, Repr

structure ProviderQuestionBlockRef where
  blockId : String
  answerKey : Option String
  prompt : Option String
  setupSchemaRef : Option TemplateSourceRef
  deriving DecidableEq, Repr

inductive DwProviderEnvironmentSuitability where
  | oss
  | local
  | dev
  | demo
  | enterprise
  | prod
  deriving DecidableEq, Repr

structure DwProviderDefaultProfile where
  isDefaultChoice : Bool := false
  isRecommendedChoice : Bool := false
  recommendedForTemplates : List String := []
  deriving DecidableEq, Repr

structure DwProviderCapabilityProfile where
  capabilityContractIds : List CapabilityId
  packCapabilityIds : List String
  deriving DecidableEq, Repr

structure DwProviderCatalogEntry where
  providerId : String
  family : String
  category : String
  displayName : String
  sourceRef : DwProviderSourceRef
  version : Option String
  channel : Option String
  capabilityProfile : DwProviderCapabilityProfile
  defaultProfile : DwProviderDefaultProfile := {}
  templateCompatibility : List String := []
  requiredSetupSchemaRefs : List TemplateSourceRef
  requiredQuestionBlockIds : List String
  questionBlocks : List ProviderQuestionBlockRef := []
  suitability : List DwProviderEnvironmentSuitability := []
  deriving DecidableEq, Repr

structure DwProviderCatalog where
  entries : List DwProviderCatalogEntry
  deriving DecidableEq, Repr

namespace DwProviderCatalog

def find (catalog : DwProviderCatalog) (providerId : String) : Option DwProviderCatalogEntry :=
  catalog.entries.find? fun entry => entry.providerId = providerId

variable {catalog : DwProviderCatalog} {providerId : String} {provider : DwProviderCatalogEntry}

lemma providerId_of_find (h : catalog.find providerId = some provider) :
    provider.providerId = providerId := by
  simpa using List.find?_some h

lemma mem_of_find (h : catalog.find providerId = some provider) : provider ∈ catalog.entries :=
  List.mem_of_find?_eq_some h

end DwProviderCatalog

inductive DwResolutionMode where
  | recommended
  | reviewAll
  deriving DecidableEq, Repr

structure DwAgentResolveRequest where
  agentId : String
  displayName : Option String
  template : DigitalWorkerTemplate
  selectedTemplate : Option TemplateCatalogEntry
  answers : SortedMap String Value
  providerOverrides : SortedMap CapabilityId String

structure DwCompositionResolveRequest where
  applicationId : String
  displayName : String
  version : Option String
  tenant : Option String
  tags : List String
  agents : List DwAgentResolveRequest
  sharedProviderOverrides : SortedMap CapabilityId String
  mode : Option DwResolutionMode

inductive SetupRequirementStatus where
  | required
  | satisfied
  | deferred
  deriving DecidableEq, Repr

structure BundleInclusionPlan where
  packId : String
  sourceRef : PackSourceRef
  appliesToAgents : List String
  rationale : Option String
  deriving DecidableEq, Repr

structure PackDependencyRef where
  packId : String
  sourceRef : PackSourceRef
  version : Option String
  providerId : Option String
  appliesToAgents : List String
  deriving DecidableEq, Repr

structure ProviderBinding where
  providerId : String
  sourceRef : DwProviderSourceRef
  version : Option String
  channel : Option String
  providerFamily : Option String
  providerCategory : Option String
  deriving DecidableEq, Repr

structure CapabilityBinding where
  capabilityId : CapabilityId
  providerBinding : ProviderBinding
  optional : Bool
  packCapabilityId : Option String
  deriving DecidableEq, Repr

structure BehaviorConfig where
  enabledQuestionBlockIds : List String
  values : SortedMap String Value

structure SetupRequirement where
  requirementId : String
  status : SetupRequirementStatus
  summary : String
  providerId : Option String
  setupSchemaRef : Option TemplateSourceRef
  questionBlockId : Option String
  appliesToAgents : List String
  deriving DecidableEq, Repr

structure CompositionSourceProvenance where
  templateSourceRef : Option TemplateSourceRef
  providerSourceRefs : List DwProviderSourceRef
  deriving DecidableEq, Repr

structure DwCompositionApplicationMetadata where
  applicationId : String
  displayName : String
  version : Option String
  tenant : Option String
  tags : List String
  deriving DecidableEq, Repr

structure DwCompositionOutputPlan where
  generatedPackId : Option String
  generatedBundleId : Option String
  supportsMultiAgentAppPack : Bool
  deriving DecidableEq, Repr

structure DwAgentComposition where
  agentId : String
  displayName : String
  templateId : String
  selectedTemplate : Option TemplateCatalogEntry
  capabilityBindings : List CapabilityBinding
  behaviorConfig : BehaviorConfig
  sourceProvenance : CompositionSourceProvenance

structure DwCompositionDocument where
  application : DwCompositionApplicationMetadata
  agents : List DwAgentComposition
  sharedPackDependencies : List PackDependencyRef
  bundlePlan : List BundleInclusionPlan
  unresolvedSetupItems : List SetupRequirement
  routing : Option InterAgentRoutingConfig
  outputPlan : DwCompositionOutputPlan
  sourceProvenance : Option CompositionSourceProvenance

end GreenticDw

import GreenticDw.Wizard.Questions

namespace GreenticDw

open Text

structure AgentAnswerDocument where
  providerOverrides : SortedMap String String
  designAnswers : SortedMap String Value

structure AnswerDocument where
  manifestId : String
  displayName : String
  manifestVersion : String
  tenant : String
  reviewMode : Option DwResolutionMode
  providerOverrides : SortedMap String String
  designAnswers : SortedMap String Value
  agentAnswers : SortedMap String AgentAnswerDocument

def agentNumericSuffix (agentId : String) : String :=
  match rsplitOnce "agent-" agentId with
  | some (_, numeric) => if numeric.isEmpty then "1" else numeric
  | none => "1"

def agentNumericAnswerPrefix (agentId : String) : String :=
  "agent." ++ agentNumericSuffix agentId ++ "."

namespace AnswerDocument

variable (answers : AnswerDocument)

def resolvedAgentCount (template : DigitalWorkerTemplate) : ℕ :=
  if !template.supportsMultiAgentAppPack then 1
  else
    ((((answers.designAnswers.get "agent_count").bind Value.asStr).bind fun value =>
      parseUsize (trim value)).filter fun count => count > 1).getD 1

def usesSharedProviderStrategy : Bool :=
  match (answers.designAnswers.get "provider_strategy").bind Value.asStr with
  | none => true
  | some value =>
    toAsciiLowercase (trim value) ∉ ["n", "no", "per_agent", "per-agent", "local"]

def findAgentAnswers (agentId : String) : Option AgentAnswerDocument :=
  answers.agentAnswers.get agentId <|>
    answers.agentAnswers.get ("agent-" ++ agentNumericSuffix agentId)

def scopedAgentDesignAnswers (agentId : String) : SortedMap String Value :=
  let shared := answers.designAnswers.entries.filter fun entry => !startsWith "agent." entry.1
  let explicit := ((answers.findAgentAnswers agentId).map (·.designAnswers.entries)).getD []
  let numericPrefix := agentNumericAnswerPrefix agentId
  let stableIdPrefix := "agent." ++ agentId ++ "."
  let agentScoped := answers.designAnswers.entries.filterMap fun entry =>
    (stripPrefix numericPrefix entry.1 <|> stripPrefix stableIdPrefix entry.1).map (·, entry.2)
  .ofEntries (shared ++ explicit ++ agentScoped)

end AnswerDocument

section Overrides

variable (newCapabilityId : String → Option CapabilityId)

def collectDefaultProviderOverrides (template : DigitalWorkerTemplate)
    (providerCatalog : DwProviderCatalog) : List (CapabilityId × String) :=
  (template.capabilityPlan.requiredCapabilities ++
    template.capabilityPlan.optionalCapabilities).filterMap fun capabilityId =>
      (selectProviderForCapability template providerCatalog capabilityId).map fun provider =>
        (capabilityId, provider.providerId)

def validOverrides (overrides : List (String × String)) : List (CapabilityId × String) :=
  overrides.filterMap fun entry => (newCapabilityId entry.1).map (·, entry.2)

namespace AnswerDocument

variable (answers : AnswerDocument) (template : DigitalWorkerTemplate)
  (providerCatalog : DwProviderCatalog)

def collectSelectedProviderOverrides : List (CapabilityId × String) :=
  collectDefaultProviderOverrides template providerCatalog ++
    validOverrides newCapabilityId answers.providerOverrides.entries

def agentProviderOverrides (agentId : String) : List (CapabilityId × String) :=
  let explicit := validOverrides newCapabilityId
    (((answers.findAgentAnswers agentId).map (·.providerOverrides.entries)).getD [])
  let numericPrefix := agentNumericAnswerPrefix agentId ++ "provider."
  let stableIdPrefix := "agent." ++ agentId ++ ".provider."
  let agentScoped := answers.designAnswers.entries.filterMap fun entry =>
    (stripPrefix numericPrefix entry.1 <|> stripPrefix stableIdPrefix entry.1).bind fun capabilityId =>
      (Value.asStr entry.2).bind fun providerId =>
        (newCapabilityId capabilityId).map (·, providerId)
  explicit ++ agentScoped

def scopedAgentProviderOverrides (agentId : String) (useSharedProviderOverrides : Bool) :
    SortedMap CapabilityId String :=
  let selected :=
    if useSharedProviderOverrides then []
    else answers.collectSelectedProviderOverrides newCapabilityId template providerCatalog
  .ofEntries (selected ++ answers.agentProviderOverrides newCapabilityId agentId)

def agentIdAt (agentCount index : ℕ) : String :=
  if agentCount = 1 then if isBlank answers.manifestId then "agent-1" else answers.manifestId
  else if isBlank answers.manifestId then "agent-" ++ toString (index + 1)
  else answers.manifestId ++ ".agent-" ++ toString (index + 1)

def agentRequest (selectedTemplateEntry : Option TemplateCatalogEntry) (agentCount index : ℕ) :
    DwAgentResolveRequest :=
  let agentId := answers.agentIdAt agentCount index
  { agentId := agentId
    displayName := some
      (if agentCount = 1 then answers.displayName
      else answers.displayName ++ " " ++ toString (index + 1))
    template := template
    selectedTemplate := selectedTemplateEntry
    answers := answers.scopedAgentDesignAnswers agentId
    providerOverrides := answers.scopedAgentProviderOverrides newCapabilityId template providerCatalog
      agentId answers.usesSharedProviderStrategy }

def reviewRequest (selectedTemplateEntry : Option TemplateCatalogEntry) :
    DwCompositionResolveRequest :=
  let agentCount := answers.resolvedAgentCount template
  { applicationId := answers.manifestId
    displayName := answers.displayName
    version := some answers.manifestVersion
    tenant := some answers.tenant
    tags := []
    agents := (List.range agentCount).map
      (answers.agentRequest newCapabilityId template providerCatalog selectedTemplateEntry agentCount)
    sharedProviderOverrides :=
      if answers.usesSharedProviderStrategy then
        .ofEntries (answers.collectSelectedProviderOverrides newCapabilityId template providerCatalog)
      else ∅
    mode := some (answers.reviewMode.getD .recommended) }

end AnswerDocument

end Overrides

end GreenticDw

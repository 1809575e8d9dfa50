import GreenticDw.Composition.Documents

namespace GreenticDw

open Text

inductive QuestionSource where
  | dwCore
  | template (templateId : String)
  | provider (providerId : String)
  | composition
  | packaging
  deriving DecidableEq, Repr

inductive QuestionPhase where
  | design
  | setup
  | runtime
  deriving DecidableEq, Repr

inductive QuestionDepthMode where
  | recommended
  | reviewAll
  deriving DecidableEq, Repr

inductive QuestionVisibility where
  | required
  | optional
  | reviewAll
  | hiddenUnlessNeeded
  deriving DecidableEq, Repr

def QuestionVisibility.visibleIn (depth : QuestionDepthMode) (dependencyRequired : Bool) :
    QuestionVisibility → Bool
  | required => true
  | optional => depth = .reviewAll
  | reviewAll => depth = .reviewAll
  | hiddenUnlessNeeded => dependencyRequired

inductive QuestionScope where
  | application
  | sharedComposition
  | agent (agentId : Option String)
  | provider (providerId : Option String) (agentId : Option String)
  deriving DecidableEq, Repr

structure DwWizardQuestionBlock where
  blockId : String
  source : QuestionSource
  owner : String
  path : String
  answerKey : Option String
  prompt : Option String
  scope : QuestionScope
  phase : QuestionPhase
  visibility : QuestionVisibility
  sourceRef : Option TemplateSourceRef
  summary : Option String
  deriving DecidableEq, Repr

def DwWizardQuestionBlock.isVisibleIn (block : DwWizardQuestionBlock) (phase : QuestionPhase)
    (depth : QuestionDepthMode) (dependencyRequired : Bool) : Bool :=
  block.phase = phase && block.visibility.visibleIn depth dependencyRequired

structure DwWizardQuestionAssembly where
  blocks : List DwWizardQuestionBlock
  deriving DecidableEq, Repr

def DwWizardQuestionAssembly.blocksFor (assembly : DwWizardQuestionAssembly) (phase : QuestionPhase)
    (depth : QuestionDepthMode) (dependencyRequired : Bool) : List DwWizardQuestionBlock :=
  assembly.blocks.filter (·.isVisibleIn phase depth dependencyRequired)

section Selection

def maxByKey {α κ : Type} [LinearOrder κ] (key : α → κ) (xs : List α) : Option α :=
  xs.foldl (fun best a =>
    match best with
    -- of several greatest ones the last is taken
    | some b => if key b ≤ key a then some a else some b
    | none => some a) none

lemma mem_of_maxByKey {α κ : Type} [LinearOrder κ] {key : α → κ} {xs : List α} {a : α}
    (h : maxByKey key xs = some a) : a ∈ xs := by
  rw [maxByKey] at h
  induction xs using List.reverseRecOn with
  | nil => cases h
  | append_singleton xs x ih =>
    rw [List.foldl_concat] at h
    rw [List.mem_append, List.mem_singleton]
    split at h
    · split_ifs at h
      · exact .inr (Option.some.inj h).symm
      · exact .inl (ih (by rwa [← h]))
    · exact .inr (Option.some.inj h).symm

def DwProviderCatalogEntry.recommendation (entry : DwProviderCatalogEntry) (templateId : String) :
    Bool ×ₗ Bool ×ₗ Bool :=
  toLex (decide (templateId ∈ entry.defaultProfile.recommendedForTemplates),
    toLex (entry.defaultProfile.isDefaultChoice, entry.defaultProfile.isRecommendedChoice))

def selectProviderForCapability (template : DigitalWorkerTemplate)
    (providerCatalog : DwProviderCatalog) (capabilityId : CapabilityId) :
    Option DwProviderCatalogEntry :=
  (template.capabilityPlan.defaultProviderIds.get capabilityId).bind providerCatalog.find <|>
    maxByKey (·.recommendation template.metadata.id)
      (providerCatalog.entries.filter fun entry =>
        capabilityId ∈ entry.capabilityProfile.capabilityContractIds &&
          (entry.templateCompatibility.isEmpty ||
            template.metadata.id ∈ entry.templateCompatibility))

lemma mem_of_selectProviderForCapability {template : DigitalWorkerTemplate}
    {providerCatalog : DwProviderCatalog} {capabilityId : CapabilityId}
    {provider : DwProviderCatalogEntry}
    (h : selectProviderForCapability template providerCatalog capabilityId = some provider) :
    provider ∈ providerCatalog.entries := by
  rw [selectProviderForCapability, Option.orElse_eq_orElse, Option.orElse_eq_or,
    Option.or_eq_some_iff] at h
  rcases h with hdefault | ⟨-, hmax⟩
  · obtain ⟨_, _, hfind⟩ := Option.bind_eq_some_iff.mp hdefault
    exact DwProviderCatalog.mem_of_find hfind
  · exact List.mem_of_mem_filter (mem_of_maxByKey hmax)

end Selection

section Blocks

def templateBlockVisibility (blockId : String) (required : Bool)
    (defaultBlockIds reviewAllBlockIds : List String) : QuestionVisibility :=
  if required || blockId ∈ defaultBlockIds then .required
  else if blockId ∈ reviewAllBlockIds then .reviewAll
  else .optional

def capabilitySlug (capabilityId : CapabilityId) : String :=
  replace "/" "." (replace "cap://" "" capabilityId)

def coreBlocks (template : DigitalWorkerTemplate) : List DwWizardQuestionBlock := [
  { blockId := "core.app.identity"
    source := .dwCore
    owner := "core"
    path := "core.app.identity"
    answerKey := none
    prompt := none
    scope := .application
    phase := .design
    visibility := .required
    sourceRef := none
    summary := some "Application identity and manifest questions" },
  { blockId := "core.agent.topology"
    source := .dwCore
    owner := "core"
    path := "core.agent.topology"
    answerKey := some "agent_count"
    prompt := some "Enter agent count [1]: "
    scope := .application
    phase := .design
    visibility := if template.supportsMultiAgentAppPack then .reviewAll else .optional
    sourceRef := none
    summary := some "Choose one worker or a multi-agent application" }]

namespace DigitalWorkerTemplate

variable (template : DigitalWorkerTemplate) (templateSource : Option TemplateSourceRef)

def defaultBlockIds : List String := template.behaviorScaffold.defaultModeBehavior.questionBlockIds

def reviewAllBlockIds : List String :=
  template.behaviorScaffold.personalisedModeBehavior.questionBlockIds

def questionBlock (block : TemplateQuestionBlockRef) : DwWizardQuestionBlock where
  blockId := block.blockId
  source := .template template.metadata.id
  owner := "template." ++ template.metadata.id
  path := "template." ++ template.metadata.id ++ "." ++ block.blockId
  answerKey := block.answerKey
  prompt := block.prompt
  scope := .agent none
  phase := .design
  visibility := templateBlockVisibility block.blockId block.required template.defaultBlockIds
    template.reviewAllBlockIds
  sourceRef := block.source <|> templateSource
  summary := block.summary

def behaviorBlock (blockId : String) : DwWizardQuestionBlock where
  blockId := blockId
  source := .template template.metadata.id
  owner := "template." ++ template.metadata.id
  path := "template." ++ template.metadata.id ++ "." ++ blockId
  answerKey := none
  prompt := none
  scope := .agent none
  phase := .design
  visibility := templateBlockVisibility blockId false template.defaultBlockIds
    template.reviewAllBlockIds
  sourceRef := templateSource
  summary := some ("Template behavior block `" ++ blockId ++ "` for `" ++ template.metadata.name ++
    "`")

end DigitalWorkerTemplate

def unknownOf {α : Type} [DecidableEq α] (known : List α) : List α → List α
  | [] => []
  | a :: as => if a ∈ known then unknownOf known as else a :: unknownOf (a :: known) as

namespace DwProviderCatalogEntry

variable (provider : DwProviderCatalogEntry)

def selectionBlock (capabilityId : CapabilityId) (optional : Bool) : DwWizardQuestionBlock where
  blockId := "provider.select." ++ provider.providerId
  source := .provider provider.providerId
  owner := "provider." ++ provider.providerId
  path := "provider." ++ provider.providerId ++ ".selection." ++ capabilitySlug capabilityId
  answerKey := some capabilityId
  prompt := some ("Provider override for " ++ capabilityId ++ " (Enter to keep " ++
    provider.providerId ++ "): ")
  scope := .provider (some provider.providerId) none
  phase := .design
  visibility := if optional then .reviewAll else .required
  sourceRef := none
  summary := some ("Recommended provider `" ++ provider.displayName ++ "` for capability `" ++
    capabilityId ++ "`")

def providerBlockIds : List String :=
  unknownOf [] (provider.requiredQuestionBlockIds ++ provider.questionBlocks.map (·.blockId))

def providerBlock (questionBlockId : String) : Option ProviderQuestionBlockRef :=
  provider.questionBlocks.find? fun candidate => candidate.blockId = questionBlockId

def isSetupBlock (questionBlockId : String) : Bool :=
  ((provider.providerBlock questionBlockId).bind (·.setupSchemaRef)).isSome ||
    !provider.requiredSetupSchemaRefs.isEmpty

def followUpBlock (questionBlockId : String) : DwWizardQuestionBlock where
  blockId := questionBlockId
  source := .provider provider.providerId
  owner := "provider." ++ provider.providerId
  path := "provider." ++ provider.providerId ++ "." ++ questionBlockId
  answerKey := (provider.providerBlock questionBlockId).bind (·.answerKey) <|> some questionBlockId
  prompt := (provider.providerBlock questionBlockId).bind (·.prompt) <|>
    some ("Enter value for provider block `" ++ questionBlockId ++ "`: ")
  scope := .provider (some provider.providerId) none
  phase := if provider.isSetupBlock questionBlockId then .setup else .design
  visibility :=
    if provider.isSetupBlock questionBlockId then .hiddenUnlessNeeded else .reviewAll
  sourceRef := (provider.providerBlock questionBlockId).bind (·.setupSchemaRef) <|>
    provider.requiredSetupSchemaRefs.head?
  summary := some ("Follow-up questions for provider `" ++ provider.displayName ++ "`")

lemma phase_followUpBlock {provider : DwProviderCatalogEntry} {questionBlockId : String} :
    (provider.followUpBlock questionBlockId).phase = .setup ↔
      provider.isSetupBlock questionBlockId = true := by
  rw [followUpBlock]
  cases provider.isSetupBlock questionBlockId <;> simp

end DwProviderCatalogEntry

def providerStrategyBlock : DwWizardQuestionBlock where
  blockId := "composition.shared.provider_strategy"
  source := .composition
  owner := "composition.shared"
  path := "composition.shared.provider_strategy"
  answerKey := some "provider_strategy"
  prompt := some "Use shared providers across agents? [Y/n]: "
  scope := .sharedComposition
  phase := .design
  visibility := .reviewAll
  sourceRef := none
  summary := some "Shared versus per-agent provider strategy"

def bundlePlanBlock : DwWizardQuestionBlock where
  blockId := "packaging.bundle_plan"
  source := .packaging
  owner := "packaging"
  path := "packaging.bundle_plan"
  answerKey := some "bundle_plan_notes"
  prompt := some "Enter bundle planning notes (optional): "
  scope := .application
  phase := .design
  visibility := .reviewAll
  sourceRef := none
  summary := some "Packaging and bundle inclusion hints"

end Blocks

section Assembly

variable (template : DigitalWorkerTemplate)

def DigitalWorkerTemplate.capabilities : List (CapabilityId × Bool) :=
  template.capabilityPlan.requiredCapabilities.map (·, false) ++
    template.capabilityPlan.optionalCapabilities.map (·, true)

variable {template} in
lemma DigitalWorkerTemplate.capability_mem {spec : CapabilityId × Bool}
    (h : spec ∈ template.capabilities) :
    spec.1 ∈ template.capabilityPlan.requiredCapabilities ++
      template.capabilityPlan.optionalCapabilities := by
  rw [capabilities, List.mem_append] at h
  rcases h with h | h
  · obtain ⟨_, hmem, rfl⟩ := List.mem_map.mp h
    exact List.mem_append_left _ hmem
  · obtain ⟨_, hmem, rfl⟩ := List.mem_map.mp h
    exact List.mem_append_right _ hmem

def providerBlocks (providerCatalog : DwProviderCatalog) (spec : CapabilityId × Bool) :
    List DwWizardQuestionBlock :=
  match selectProviderForCapability template providerCatalog spec.1 with
  | some provider =>
    provider.selectionBlock spec.1 spec.2 :: provider.providerBlockIds.map provider.followUpBlock
  | none => []

def buildQuestionAssembly (selectedTemplateEntry : Option TemplateCatalogEntry)
    (providerCatalog : Option DwProviderCatalog) : DwWizardQuestionAssembly :=
  let templateSource := selectedTemplateEntry.map (·.sourceRef)
  { blocks := coreBlocks template ++
      template.questionBlocks.map (template.questionBlock templateSource) ++
      (unknownOf (template.questionBlocks.map (·.blockId))
        (template.defaultBlockIds ++ template.reviewAllBlockIds)).map
          (template.behaviorBlock templateSource) ++
      (providerCatalog.toList.flatMap fun catalog =>
        template.capabilities.flatMap (providerBlocks template catalog)) ++
      (if template.supportsMultiAgentAppPack then [providerStrategyBlock] else []) ++
      (if template.packagingHints.supportPackRefs ≠ [] ∨ template.packagingHints.bundleNotes ≠ [] then
        [bundlePlanBlock] else []) }

end Assembly

end GreenticDw

import GreenticDw.Composition.Bundling
import GreenticDw.Types.Task
import GreenticDw.Wizard.Answers

namespace GreenticDw

open Text

namespace DwProviderEnvironmentSuitability

def fromStr (s : String) : Option DwProviderEnvironmentSuitability :=
  match toAsciiLowercase s with
  | "oss" => some .oss
  | "local" => some .local
  | "dev" => some .dev
  | "demo" => some .demo
  | "enterprise" => some .enterprise
  | "prod" => some .prod
  | _ => none

end DwProviderEnvironmentSuitability

def DwProviderCatalog.filterBySuitability (catalog : DwProviderCatalog) :
    Option DwProviderEnvironmentSuitability → DwProviderCatalog
  | none => catalog
  | some suitability =>
    ⟨catalog.entries.filter fun entry => suitability ∈ entry.suitability⟩

inductive DwReviewWarningLevel where
  | info
  | warning
  deriving DecidableEq, Repr

structure DwReviewWarning where
  warningId : String
  level : DwReviewWarningLevel
  summary : String
  appliesToAgents : List String
  requirementId : Option String
  deriving DecidableEq, Repr

structure DwReviewProvenance where
  applicationId : String
  generatedPackId : Option String
  generatedBundleId : Option String
  compositionSourceProvenance : CompositionSourceProvenance
  deriving DecidableEq, Repr

structure DwReviewEnvelope where
  composition : DwCompositionDocument
  applicationPackSpec : DwApplicationPackSpec
  bundlePlan : DwBundlePlan
  setupRequirements : List SetupRequirement
  warnings : List DwReviewWarning
  provenance : DwReviewProvenance

inductive DwReviewEnvelopeGenerationError where
  | packMaterialization (e : DwApplicationPackMaterializationError)
  | bundlePlan (e : DwBundlePlanGenerationError)
  deriving DecidableEq, Repr

def SetupRequirement.warning (item : SetupRequirement) : DwReviewWarning where
  warningId := "warning." ++ item.requirementId
  level := .warning
  summary := item.summary
  appliesToAgents := item.appliesToAgents
  requirementId := some item.requirementId

def DwCompositionDocument.toReviewEnvelope (document : DwCompositionDocument) :
    Except DwReviewEnvelopeGenerationError DwReviewEnvelope := do
  let applicationPackSpec ← document.toApplicationPackSpec.mapError .packMaterialization
  let bundlePlan ← document.toBundlePlan.mapError .bundlePlan
  return {
    composition := document
    applicationPackSpec := applicationPackSpec
    bundlePlan := bundlePlan
    setupRequirements := document.unresolvedSetupItems
    warnings := (document.unresolvedSetupItems.filter (·.status ≠ .satisfied)).map (·.warning)
    provenance := {
      applicationId := document.application.applicationId
      generatedPackId := document.outputPlan.generatedPackId
      generatedBundleId := document.outputPlan.generatedBundleId
      compositionSourceProvenance := document.sourceProvenance.getD ⟨none, []⟩ } }

lemma DwCompositionDocument.of_toReviewEnvelope {document : DwCompositionDocument}
    {envelope : DwReviewEnvelope} (h : document.toReviewEnvelope = .ok envelope) :
    envelope.composition = document ∧ envelope.applicationPackSpec = document.packSpec ∧
      document.toBundlePlan = .ok envelope.bundlePlan ∧
      envelope.setupRequirements = document.unresolvedSetupItems ∧
      envelope.warnings =
        (document.unresolvedSetupItems.filter (·.status ≠ .satisfied)).map (·.warning) := by
  rw [toReviewEnvelope] at h
  cases hspec : document.toApplicationPackSpec with
  | error e => simp [hspec, Except.mapError, bind, Except.bind] at h
  | ok spec =>
    cases hplan : document.toBundlePlan with
    | error e => simp [hspec, hplan, Except.mapError, bind, Except.bind] at h
    | ok plan =>
      simp only [hspec, hplan, Except.mapError, bind, Except.bind, pure, Except.pure,
        Except.ok.injEq] at h
      subst h
      exact ⟨rfl, (DwCompositionDocument.toApplicationPackSpec_eq_ok.mp hspec).2, rfl, rfl, rfl⟩

lemma DwCompositionDocument.exists_review {document : DwCompositionDocument}
    (hagents : document.agents ≠ [])
    (free : contains "://" document.application.applicationId = false) :
    ∃ envelope, document.toReviewEnvelope = .ok envelope := by
  have hspec := toApplicationPackSpec_eq_ok.mpr ⟨hagents, rfl⟩
  have hplan := toBundlePlan_eq_ok.mpr ⟨hagents, free, rfl⟩
  rw [toReviewEnvelope, hspec, hplan]
  exact ⟨_, rfl⟩

inductive CliError where
  | compositionResolve (e : DwCompositionResolveError)
  | reviewEnvelope (e : DwReviewEnvelopeGenerationError)
  deriving DecidableEq, Repr

section DryRun

variable (newCapabilityId : String → Option CapabilityId) (answers : AnswerDocument)
  (template : DigitalWorkerTemplate) (selectedTemplateEntry : Option TemplateCatalogEntry)
  (providerCatalog : Option DwProviderCatalog)

def buildReviewEnvelope : Except CliError DwReviewEnvelope := do
  let catalog := providerCatalog.getD ⟨[]⟩
  let document ← ((answers.reviewRequest newCapabilityId template catalog
    selectedTemplateEntry).resolve catalog).mapError .compositionResolve
  document.toReviewEnvelope.mapError .reviewEnvelope

variable {newCapabilityId answers template selectedTemplateEntry providerCatalog} in
lemma of_buildReviewEnvelope {envelope : DwReviewEnvelope}
    (h : buildReviewEnvelope newCapabilityId answers template selectedTemplateEntry providerCatalog =
      .ok envelope) :
    ∃ document, (answers.reviewRequest newCapabilityId template (providerCatalog.getD ⟨[]⟩)
        selectedTemplateEntry).resolve (providerCatalog.getD ⟨[]⟩) = .ok document ∧
      document.toReviewEnvelope = .ok envelope := by
  rw [buildReviewEnvelope] at h
  cases hresolve : (answers.reviewRequest newCapabilityId template (providerCatalog.getD ⟨[]⟩)
      selectedTemplateEntry).resolve (providerCatalog.getD ⟨[]⟩) with
  | error e => simp [hresolve, Except.mapError, bind, Except.bind] at h
  | ok document =>
    cases henvelope : document.toReviewEnvelope with
    | error e => simp [hresolve, henvelope, Except.mapError, bind, Except.bind] at h
    | ok found =>
      simp only [hresolve, henvelope, Except.mapError, bind, Except.bind, Except.ok.injEq] at h
      exact ⟨document, rfl, h ▸ henvelope⟩

def setupBlockIsRequired (block : DwWizardQuestionBlock) (reviewEnvelope : DwReviewEnvelope) : Bool :=
  reviewEnvelope.setupRequirements.any fun requirement =>
    requirement.questionBlockId = some block.blockId ||
      match block.source, requirement.providerId with
      | .provider providerId, some requiredProviderId => providerId = requiredProviderId
      | _, _ => false

def scopedAnswerKeyForOutput (block : DwWizardQuestionBlock) (answerKey : String) (agentIndex : ℕ) :
    String :=
  if startsWith "provider.select." block.blockId then
    "agent." ++ toString agentIndex ++ ".provider." ++ answerKey
  else "agent." ++ toString agentIndex ++ "." ++ answerKey

def scopedVisibleBlockForOutput (block : DwWizardQuestionBlock) (agentIndex : ℕ)
    (includeScopePrefix : Bool) : DwWizardQuestionBlock :=
  let agentId := "agent-" ++ toString agentIndex
  { block with
    blockId := block.blockId ++ ".agent-" ++ toString agentIndex
    path := block.path ++ ".agent-" ++ toString agentIndex
    prompt := block.prompt.map fun prompt => "Agent " ++ toString agentIndex ++ ": " ++ prompt
    answerKey := block.answerKey.map fun answerKey =>
      scopedAnswerKeyForOutput block answerKey agentIndex
    scope :=
      match block.scope with
      | .agent _ => .agent (some agentId)
      | .provider providerId _ => .provider providerId (some agentId)
      | scope => if includeScopePrefix then .agent (some agentId) else scope }

def resolveVisibleBlocksForOutput (blocks : List DwWizardQuestionBlock) : List DwWizardQuestionBlock :=
  let agentCount := answers.resolvedAgentCount template
  let perAgent (block : DwWizardQuestionBlock) : List DwWizardQuestionBlock :=
    (List.range agentCount).map fun index => scopedVisibleBlockForOutput block (index + 1) true
  if agentCount ≤ 1 then blocks
  else
    blocks.flatMap fun block =>
      match block.scope with
      | .agent none => perAgent block
      | .provider _ none => if !answers.usesSharedProviderStrategy then perAgent block else [block]
      | _ => [block]

structure TemplateReview where
  questionAssembly : DwWizardQuestionAssembly
  visibleDesignBlocks : List DwWizardQuestionBlock
  visibleSetupBlocks : List DwWizardQuestionBlock
  resolvedVisibleDesignBlocks : List DwWizardQuestionBlock
  resolvedVisibleSetupBlocks : List DwWizardQuestionBlock
  reviewEnvelope : DwReviewEnvelope

structure DryRunData where
  manifestId : String
  tenant : TenantId
  team : Option TeamId
  state : TaskLifecycleState
  effectiveLocale : Option String
  requestedLocale : Option String
  humanLocale : Option String
  reviewMode : DwResolutionMode
  review : Option TemplateReview

structure WizardOutput where
  contractVersion : String
  command : String
  mode : String
  env : String
  answers : Option AnswerDocument
  data : DryRunData

def LocaleContext.resolveEffectiveLocale (locale : LocaleContext) : Option String :=
  match locale.policy with
  | .workerDefault => some locale.workerDefaultLocale
  | .preferRequested => locale.requestedLocale <|> some locale.workerDefaultLocale
  | .preferHuman =>
    locale.humanLocale <|> locale.requestedLocale <|> some locale.workerDefaultLocale
  | .strictRequested => locale.requestedLocale

def templateReview : Except CliError TemplateReview := do
  let questionAssembly := buildQuestionAssembly template selectedTemplateEntry providerCatalog
  let reviewEnvelope ← buildReviewEnvelope newCapabilityId answers template selectedTemplateEntry
    providerCatalog
  let depth : QuestionDepthMode :=
    match answers.reviewMode.getD .recommended with
    | .reviewAll => .reviewAll
    | .recommended => .recommended
  let visibleDesignBlocks := questionAssembly.blocksFor .design depth false
  let visibleSetupBlocks := (questionAssembly.blocks.filter (·.phase = .setup)).filter
    (setupBlockIsRequired · reviewEnvelope)
  return {
    questionAssembly := questionAssembly
    visibleDesignBlocks := visibleDesignBlocks
    visibleSetupBlocks := visibleSetupBlocks
    resolvedVisibleDesignBlocks := resolveVisibleBlocksForOutput answers template visibleDesignBlocks
    resolvedVisibleSetupBlocks := resolveVisibleBlocksForOutput answers template visibleSetupBlocks
    reviewEnvelope := reviewEnvelope }

def buildDryRunOutput (manifestId : String) (envelope : TaskEnvelope) (env : String)
    (selectedTemplate : Option DigitalWorkerTemplate) (emitAnswers : Bool) :
    Except CliError WizardOutput := do
  let review ← selectedTemplate.mapM fun template =>
    templateReview newCapabilityId answers template selectedTemplateEntry providerCatalog
  return {
    contractVersion := "greentic-dw-cli/v1"
    command := "wizard"
    mode := "dry_run"
    env := env
    answers := if emitAnswers then some answers else none
    data := {
      manifestId := manifestId
      tenant := envelope.scope.tenant
      team := envelope.scope.team
      state := envelope.state
      effectiveLocale := envelope.locale.resolveEffectiveLocale
      requestedLocale := envelope.locale.requestedLocale
      humanLocale := envelope.locale.humanLocale
      reviewMode := answers.reviewMode.getD .recommended
      review := review } }

def runWizardDryRun (manifestId : String) (envelope : TaskEnvelope) (env : String)
    (selectedTemplate : Option DigitalWorkerTemplate) (emitAnswers : Bool) :
    Except CliError WizardOutput :=
  buildDryRunOutput newCapabilityId answers selectedTemplateEntry
    (providerCatalog.map fun catalog =>
      catalog.filterBySuitability (DwProviderEnvironmentSuitability.fromStr env))
    manifestId envelope env selectedTemplate emitAnswers

variable {newCapabilityId answers template selectedTemplateEntry providerCatalog}

lemma of_templateReview {review : TemplateReview}
    (h : templateReview newCapabilityId answers template selectedTemplateEntry providerCatalog =
      .ok review) :
    buildReviewEnvelope newCapabilityId answers template selectedTemplateEntry providerCatalog =
        .ok review.reviewEnvelope ∧
      review.visibleSetupBlocks =
        ((buildQuestionAssembly template selectedTemplateEntry providerCatalog).blocks.filter
          (·.phase = .setup)).filter (setupBlockIsRequired · review.reviewEnvelope) := by
  rw [templateReview] at h
  cases henvelope : buildReviewEnvelope newCapabilityId answers template selectedTemplateEntry
      providerCatalog with
  | error e => simp [henvelope, bind, Except.bind] at h
  | ok envelope =>
    simp only [henvelope, bind, Except.bind, pure, Except.pure, Except.ok.injEq] at h
    subst h
    exact ⟨rfl, rfl⟩

lemma of_buildDryRunOutput {manifestId env : String} {envelope : TaskEnvelope}
    {selectedTemplate : Option DigitalWorkerTemplate} {emitAnswers : Bool} {output : WizardOutput}
    {review : TemplateReview}
    (h : buildDryRunOutput newCapabilityId answers selectedTemplateEntry providerCatalog manifestId
      envelope env selectedTemplate emitAnswers = .ok output)
    (reviewed : output.data.review = some review) :
    ∃ template, selectedTemplate = some template ∧
      templateReview newCapabilityId answers template selectedTemplateEntry providerCatalog =
        .ok review := by
  rw [buildDryRunOutput] at h
  cases selectedTemplate with
  | none =>
    cases h
    cases reviewed
  | some template =>
    refine ⟨template, rfl, ?_⟩
    cases hreview : templateReview newCapabilityId answers template selectedTemplateEntry
        providerCatalog with
    | error e => simp [hreview, bind, Except.bind, Functor.map, Except.map] at h
    | ok found =>
      simp only [Option.mapM_some, hreview, bind, Except.bind, pure, Except.pure, Functor.map,
        Except.map, Except.ok.injEq] at h
      subst h
      exact congrArg Except.ok (Option.some.inj reviewed)

def reviewOf (run : Except CliError WizardOutput) : Option TemplateReview :=
  match run with
  | .ok output => output.data.review
  | .error _ => none

lemma reviewOf_eq_some {run : Except CliError WizardOutput} {review : TemplateReview} :
    reviewOf run = some review ↔ ∃ output, run = .ok output ∧ output.data.review = some review := by
  cases run <;> simp [reviewOf]

end DryRun

def capabilityUri (capabilityId : String) : Option CapabilityId :=
  if startsWith "cap://" capabilityId then some capabilityId else none

def deskAnswers (providerOverrides : List (String × String)) : AnswerDocument where
  manifestId := "dw.desk"
  displayName := "Desk"
  manifestVersion := "0.5"
  tenant := "tenant-a"
  reviewMode := none
  providerOverrides := .ofEntries providerOverrides
  designAnswers := ∅
  agentAnswers := ∅

def deskTask : TaskEnvelope where
  taskId := "dw.desk-task"
  workerId := "dw.desk"
  state := .created
  scope := ⟨"tenant-a", none⟩
  locale := ⟨"en-US", none, none, .workerDefault, .currentTaskOnly, .workerDefault⟩

end GreenticDw

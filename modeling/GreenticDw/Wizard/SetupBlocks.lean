import GreenticDw.Wizard.Review

/-! Which setup requirements of a dry run can be answered: the questions are those of the recommended
providers, and the requirements those of the providers that the answers choose. -/

namespace GreenticDw

def TemplateReview.AsksSetup (review : TemplateReview) : Prop :=
  ∀ requirement ∈ review.reviewEnvelope.setupRequirements, ∀ blockId ∈ requirement.questionBlockId,
    ∃ block ∈ review.visibleSetupBlocks, block.phase = .setup ∧ block.blockId = blockId

instance (review : TemplateReview) : Decidable review.AsksSetup :=
  inferInstanceAs (Decidable (∀ requirement ∈ review.reviewEnvelope.setupRequirements,
    ∀ blockId ∈ requirement.questionBlockId,
      ∃ block ∈ review.visibleSetupBlocks, block.phase = .setup ∧ block.blockId = blockId))

def DigitalWorkerTemplate.Asks (template : DigitalWorkerTemplate) (catalog : DwProviderCatalog)
    (blockId : String) : Prop :=
  ∃ spec ∈ template.capabilities, ∃ recommended,
    selectProviderForCapability template catalog spec.1 = some recommended ∧
      blockId ∈ recommended.providerBlockIds ∧ recommended.isSetupBlock blockId = true

section Chosen

variable (newCapabilityId : String → Option CapabilityId) (answers : AnswerDocument)
  (template : DigitalWorkerTemplate) (catalog : DwProviderCatalog)

def AnswerDocument.namedProvider (agentId : String) (capabilityId : CapabilityId) : Option String :=
  (SortedMap.ofEntries (validOverrides newCapabilityId answers.providerOverrides.entries ++
    answers.agentProviderOverrides newCapabilityId agentId)).get capabilityId

def AnswerDocument.chosenProvider (agentId : String) (capabilityId : CapabilityId) :
    Option DwProviderCatalogEntry :=
  (answers.namedProvider newCapabilityId agentId capabilityId <|>
    (selectProviderForCapability template catalog capabilityId).map (·.providerId)).bind catalog.find

/-- Whatever is chosen with a setup and a block to ask for has a block that is asked for. -/
def AnswerDocument.ChoosesAsked : Prop :=
  ∀ index < answers.resolvedAgentCount template, ∀ spec ∈ template.capabilities,
    ∀ provider ∈ answers.chosenProvider newCapabilityId template catalog
      (answers.agentIdAt (answers.resolvedAgentCount template) index) spec.1,
    provider.requiredSetupSchemaRefs ≠ [] →
    ∀ blockId ∈ provider.requiredQuestionBlockIds.head?, template.Asks catalog blockId

end Chosen

lemma mem_unknownOf {α : Type} [DecidableEq α] {a : α} {known as : List α} :
    a ∈ unknownOf known as ↔ a ∈ as ∧ a ∉ known := by
  induction as generalizing known with
  | nil => simp [unknownOf]
  | cons b as ih =>
    rw [unknownOf]
    by_cases hknown : b ∈ known
    · rw [if_pos hknown, ih, List.mem_cons]
      constructor
      · exact fun h => ⟨.inr h.1, h.2⟩
      · rintro ⟨rfl | h, hnot⟩
        · exact absurd hknown hnot
        · exact ⟨h, hnot⟩
    · rw [if_neg hknown, List.mem_cons, ih, List.mem_cons, List.mem_cons]
      by_cases hab : a = b
      · simp [hab, hknown]
      · simp [hab]

lemma selectProviderForCapability_empty (template : DigitalWorkerTemplate)
    (capabilityId : CapabilityId) :
    selectProviderForCapability template ⟨[]⟩ capabilityId = none := by
  rw [selectProviderForCapability]
  cases template.capabilityPlan.defaultProviderIds.get capabilityId <;> rfl

section Assembly

variable {template : DigitalWorkerTemplate} {selectedTemplateEntry : Option TemplateCatalogEntry}
  {blockId : String}

lemma setup_of_providerBlocks {catalog : DwProviderCatalog} {spec : CapabilityId × Bool} :
    (∃ block ∈ providerBlocks template catalog spec, block.phase = .setup ∧
        block.blockId = blockId) ↔
      ∃ recommended, selectProviderForCapability template catalog spec.1 = some recommended ∧
        blockId ∈ recommended.providerBlockIds ∧ recommended.isSetupBlock blockId = true := by
  rw [providerBlocks]
  cases hselect : selectProviderForCapability template catalog spec.1 with
  | none => simp
  | some recommended =>
    simp only [List.mem_cons, List.mem_map, Option.some.injEq, exists_eq_left']
    constructor
    · rintro ⟨block, rfl | ⟨id, hid, rfl⟩, hphase, rfl⟩
      · cases hphase
      · exact ⟨hid, DwProviderCatalogEntry.phase_followUpBlock.mp hphase⟩
    · rintro ⟨hid, hsetup⟩
      exact ⟨_, .inr ⟨blockId, hid, rfl⟩,
        DwProviderCatalogEntry.phase_followUpBlock.mpr hsetup, rfl⟩

lemma mem_blocks_of_providerBlocks {providerCatalog : Option DwProviderCatalog}
    {block : DwWizardQuestionBlock} {spec : CapabilityId × Bool} (hspec : spec ∈ template.capabilities)
    (hblock : block ∈ providerBlocks template (providerCatalog.getD ⟨[]⟩) spec) :
    block ∈ (buildQuestionAssembly template selectedTemplateEntry providerCatalog).blocks := by
  cases providerCatalog with
  | none =>
    rw [Option.getD_none, providerBlocks, selectProviderForCapability_empty] at hblock
    cases hblock
  | some catalog =>
    simp only [buildQuestionAssembly, List.mem_append, List.mem_flatMap]
    exact .inl (.inl (.inr ⟨catalog, Option.mem_toList.mpr rfl, spec, hspec, hblock⟩))

lemma mem_blocks_cases {providerCatalog : Option DwProviderCatalog} {block : DwWizardQuestionBlock}
    (hblock : block ∈ (buildQuestionAssembly template selectedTemplateEntry providerCatalog).blocks) :
    (∃ spec ∈ template.capabilities,
      block ∈ providerBlocks template (providerCatalog.getD ⟨[]⟩) spec) ∨
      block.phase ≠ .setup ∧ ∀ providerId, block.source ≠ .provider providerId := by
  simp only [buildQuestionAssembly, List.mem_append] at hblock
  rcases hblock with ((((hcore | htemplate) | hbehavior) | hprovider) | hstrategy) | hbundle
  · rw [coreBlocks, List.mem_pair] at hcore
    right
    rcases hcore with rfl | rfl <;> exact ⟨nofun, nofun⟩
  · obtain ⟨_, _, rfl⟩ := List.mem_map.mp htemplate
    exact .inr ⟨nofun, nofun⟩
  · obtain ⟨_, _, rfl⟩ := List.mem_map.mp hbehavior
    exact .inr ⟨nofun, nofun⟩
  · obtain ⟨catalog, hcatalog, hprovider⟩ := List.mem_flatMap.mp hprovider
    rw [Option.mem_toList.mp hcatalog]
    exact .inl (List.mem_flatMap.mp hprovider)
  · rw [List.mem_ite_nil_right, List.mem_singleton] at hstrategy
    rw [hstrategy.2]
    exact .inr ⟨nofun, nofun⟩
  · rw [List.mem_ite_nil_right, List.mem_singleton] at hbundle
    rw [hbundle.2]
    exact .inr ⟨nofun, nofun⟩

theorem setup_of_buildQuestionAssembly {providerCatalog : Option DwProviderCatalog} :
    (∃ block ∈ (buildQuestionAssembly template selectedTemplateEntry providerCatalog).blocks,
        block.phase = .setup ∧ block.blockId = blockId) ↔
      template.Asks (providerCatalog.getD ⟨[]⟩) blockId := by
  constructor
  · rintro ⟨block, hblock, hphase, hid⟩
    rcases mem_blocks_cases hblock with ⟨spec, hspec, hprovider⟩ | ⟨hother, -⟩
    · exact ⟨spec, hspec, setup_of_providerBlocks.mp ⟨block, hprovider, hphase, hid⟩⟩
    · exact absurd hphase hother
  · rintro ⟨spec, hspec, hasks⟩
    obtain ⟨block, hblock, hsetup⟩ := setup_of_providerBlocks.mpr hasks
    exact ⟨block, mem_blocks_of_providerBlocks hspec hblock, hsetup⟩

end Assembly

namespace DwCompositionResolveRequest

variable {request : DwCompositionResolveRequest} {catalog : DwProviderCatalog} {blockId : String}

lemma questionBlockId_of_refusal {agent : DwAgentResolveRequest} {spec : CapabilityId × Bool}
    {item : SetupRequirement} (h : item ∈ request.refusalsOf catalog agent spec) :
    item.questionBlockId = none := by
  rw [refusalsOf] at h
  cases hselected : request.selectedProviderId agent spec.1 with
  | none =>
    simp only [hselected] at h
    split_ifs at h
    · cases h
    · rw [List.mem_singleton.mp h]
      rfl
  | some providerId =>
    simp only [hselected] at h
    cases hfind : catalog.find providerId with
    | none =>
      simp only [hfind] at h
      rw [List.mem_singleton.mp h]
      rfl
    | some provider =>
      simp only [hfind] at h
      cases h

theorem questionBlockId_mem_iff :
    (∃ item ∈ (request.document catalog).unresolvedSetupItems, blockId ∈ item.questionBlockId) ↔
      ∃ agent ∈ request.agents, ∃ spec ∈ agent.capabilitySpecs,
        ∃ provider ∈ request.boundProvider catalog agent spec.1,
        provider.requiredSetupSchemaRefs ≠ [] ∧ blockId ∈ provider.requiredQuestionBlockIds.head? := by
  simp only [document, itemsOf, List.mem_flatMap, List.mem_append]
  constructor
  · rintro ⟨item, ⟨agent, hagent, spec, hspec, hrefusal | hsetup⟩, hblock⟩
    · rw [questionBlockId_of_refusal hrefusal] at hblock
      cases hblock
    · obtain ⟨provider, hbound, hsetup⟩ := List.mem_flatMap.mp hsetup
      obtain ⟨schemaRef, hschema, rfl⟩ := List.mem_map.mp hsetup
      exact ⟨agent, hagent, spec, hspec, provider, Option.mem_toList.mp hbound,
        List.ne_nil_of_mem hschema, hblock⟩
  · rintro ⟨agent, hagent, spec, hspec, provider, hbound, hschemas, hblock⟩
    obtain ⟨schemaRef, hschema⟩ := List.exists_mem_of_ne_nil _ hschemas
    refine ⟨agent.setupItem provider schemaRef, ⟨agent, hagent, spec, hspec, .inr ?_⟩, hblock⟩
    exact List.mem_flatMap.mpr ⟨provider, Option.mem_toList.mpr hbound,
      List.mem_map_of_mem hschema⟩

end DwCompositionResolveRequest

section Bound

variable {newCapabilityId : String → Option CapabilityId} {answers : AnswerDocument}
  {template : DigitalWorkerTemplate} {catalog : DwProviderCatalog}
  {selectedTemplateEntry : Option TemplateCatalogEntry} {capabilityId : CapabilityId}

lemma get_collectDefaultProviderOverrides
    (h : capabilityId ∈ template.capabilityPlan.requiredCapabilities ++
      template.capabilityPlan.optionalCapabilities) :
    (SortedMap.ofEntries (collectDefaultProviderOverrides template catalog)).get capabilityId =
      (selectProviderForCapability template catalog capabilityId).map (·.providerId) := by
  have hentries : collectDefaultProviderOverrides template catalog =
      (template.capabilityPlan.requiredCapabilities ++
        template.capabilityPlan.optionalCapabilities).filterMap fun capabilityId =>
          ((selectProviderForCapability template catalog capabilityId).map
            (·.providerId)).map (capabilityId, ·) := by
    simp only [collectDefaultProviderOverrides, Option.map_map]
    rfl
  rw [hentries, SortedMap.get_ofEntries_filterMap, if_pos h]

lemma selectedProviderId_reviewRequest (agentCount index : ℕ)
    (h : capabilityId ∈ template.capabilityPlan.requiredCapabilities ++
      template.capabilityPlan.optionalCapabilities) :
    (answers.reviewRequest newCapabilityId template catalog selectedTemplateEntry).selectedProviderId
        (answers.agentRequest newCapabilityId template catalog selectedTemplateEntry agentCount index)
        capabilityId =
      ((answers.namedProvider newCapabilityId (answers.agentIdAt agentCount index) capabilityId <|>
        (selectProviderForCapability template catalog capabilityId).map (·.providerId)) <|>
          template.capabilityPlan.defaultProviderIds.get capabilityId) := by
  rw [DwCompositionResolveRequest.selectedProviderId, AnswerDocument.agentRequest,
    AnswerDocument.reviewRequest, AnswerDocument.scopedAgentProviderOverrides,
    AnswerDocument.namedProvider, SortedMap.get_ofEntries_append]
  cases hshared : answers.usesSharedProviderStrategy with
  | true =>
    simp only [if_true, AnswerDocument.collectSelectedProviderOverrides,
      SortedMap.get_ofEntries_append, SortedMap.ofEntries_nil, SortedMap.get_empty,
      get_collectDefaultProviderOverrides h, Option.orElse_eq_orElse, Option.orElse_eq_or,
      Option.or_assoc, Option.none_or]
  | false =>
    simp only [Bool.false_eq_true, if_false, AnswerDocument.collectSelectedProviderOverrides,
      SortedMap.get_ofEntries_append, get_collectDefaultProviderOverrides h, SortedMap.get_empty,
      Option.orElse_eq_orElse, Option.orElse_eq_or, Option.or_assoc, Option.none_or]

lemma find_default_of_select_eq_none
    (h : selectProviderForCapability template catalog capabilityId = none) :
    (template.capabilityPlan.defaultProviderIds.get capabilityId).bind catalog.find = none := by
  rw [selectProviderForCapability] at h
  cases hdefault : (template.capabilityPlan.defaultProviderIds.get capabilityId).bind
      catalog.find with
  | none => rfl
  | some provider =>
    rw [hdefault] at h
    cases h

theorem boundProvider_reviewRequest {spec : CapabilityId × Bool} (agentCount index : ℕ)
    (h : spec ∈ template.capabilities) :
    (answers.reviewRequest newCapabilityId template catalog selectedTemplateEntry).boundProvider
        catalog (answers.agentRequest newCapabilityId template catalog selectedTemplateEntry
          agentCount index) spec.1 =
      answers.chosenProvider newCapabilityId template catalog (answers.agentIdAt agentCount index)
        spec.1 := by
  have hcapability := DigitalWorkerTemplate.capability_mem h
  rw [DwCompositionResolveRequest.boundProvider,
    selectedProviderId_reviewRequest agentCount index hcapability, AnswerDocument.chosenProvider]
  cases answers.namedProvider newCapabilityId (answers.agentIdAt agentCount index) spec.1 with
  | some providerId => rfl
  | none =>
    cases hselect : selectProviderForCapability template catalog spec.1 with
    | some recommended => rfl
    | none => exact find_default_of_select_eq_none hselect

lemma asks_of_recommended {spec : CapabilityId × Bool} {recommended : DwProviderCatalogEntry}
    {blockId : String} (hspec : spec ∈ template.capabilities)
    (hselect : selectProviderForCapability template catalog spec.1 = some recommended)
    (hschemas : recommended.requiredSetupSchemaRefs ≠ [])
    (hblock : blockId ∈ recommended.requiredQuestionBlockIds.head?) :
    template.Asks catalog blockId := by
  refine ⟨spec, hspec, recommended, hselect, ?_, ?_⟩
  · rw [DwProviderCatalogEntry.providerBlockIds, mem_unknownOf, List.mem_append]
    exact ⟨.inl (List.mem_of_mem_head? hblock), List.not_mem_nil⟩
  · rw [DwProviderCatalogEntry.isSetupBlock, Bool.or_eq_true, Bool.not_eq_true',
      List.isEmpty_eq_false_iff]
    exact .inr hschemas

theorem choosesAsked_of_unnamed (hids : (catalog.entries.map (·.providerId)).Nodup)
    (hnamed : ∀ agentId capabilityId,
      answers.namedProvider newCapabilityId agentId capabilityId = none) :
    answers.ChoosesAsked newCapabilityId template catalog := by
  intro index _ spec hspec provider hchosen hschemas blockId hblock
  rw [AnswerDocument.chosenProvider, hnamed] at hchosen
  obtain ⟨providerId, hrecommended, hfind⟩ := Option.bind_eq_some_iff.mp hchosen
  obtain ⟨recommended, hselect, rfl⟩ := Option.map_eq_some_iff.mp hrecommended
  have hsame : provider = recommended :=
    List.inj_on_of_nodup_map hids (DwProviderCatalog.mem_of_find hfind)
      (mem_of_selectProviderForCapability hselect) (DwProviderCatalog.providerId_of_find hfind)
  subst hsame
  exact asks_of_recommended hspec hselect hschemas hblock

end Bound

section Runs

variable {newCapabilityId : String → Option CapabilityId} {answers : AnswerDocument}
  {template : DigitalWorkerTemplate} {selectedTemplateEntry : Option TemplateCatalogEntry}
  {providerCatalog : Option DwProviderCatalog} {review : TemplateReview}

lemma asksSetup_iff
    (h : templateReview newCapabilityId answers template selectedTemplateEntry providerCatalog =
      .ok review) :
    review.AsksSetup ↔ ∀ blockId, (∃ requirement ∈ review.reviewEnvelope.setupRequirements,
      blockId ∈ requirement.questionBlockId) → template.Asks (providerCatalog.getD ⟨[]⟩) blockId := by
  obtain ⟨-, hvisible⟩ := of_templateReview h
  constructor
  · rintro hasks blockId ⟨requirement, hrequirement, hblock⟩
    obtain ⟨block, hmem, hsetup⟩ := hasks requirement hrequirement blockId hblock
    rw [hvisible, List.filter_filter] at hmem
    exact setup_of_buildQuestionAssembly.mp ⟨block, List.mem_of_mem_filter hmem, hsetup⟩
  · intro hasks requirement hrequirement blockId hblock
    obtain ⟨block, hmem, hphase, hid⟩ := setup_of_buildQuestionAssembly.mpr
      (hasks blockId ⟨requirement, hrequirement, hblock⟩)
    refine ⟨block, ?_, hphase, hid⟩
    rw [hvisible, List.mem_filter, List.mem_filter]
    refine ⟨⟨hmem, decide_eq_true hphase⟩, ?_⟩
    rw [setupBlockIsRequired, List.any_eq_true]
    refine ⟨requirement, hrequirement, ?_⟩
    rw [Bool.or_eq_true]
    exact .inl (decide_eq_true (hid ▸ hblock))

lemma requirement_iff {blockId : String}
    (h : templateReview newCapabilityId answers template selectedTemplateEntry providerCatalog =
      .ok review) :
    (∃ requirement ∈ review.reviewEnvelope.setupRequirements, blockId ∈ requirement.questionBlockId) ↔
      ∃ index < answers.resolvedAgentCount template, ∃ spec ∈ template.capabilities,
        ∃ provider ∈ answers.chosenProvider newCapabilityId template (providerCatalog.getD ⟨[]⟩)
          (answers.agentIdAt (answers.resolvedAgentCount template) index) spec.1,
        provider.requiredSetupSchemaRefs ≠ [] ∧ blockId ∈ provider.requiredQuestionBlockIds.head? := by
  obtain ⟨document, hresolved, henvelope⟩ := of_buildReviewEnvelope (of_templateReview h).1
  obtain ⟨-, rfl⟩ := DwCompositionResolveRequest.resolve_eq_ok.mp hresolved
  obtain ⟨-, -, -, hitems, -⟩ := DwCompositionDocument.of_toReviewEnvelope henvelope
  rw [hitems, DwCompositionResolveRequest.questionBlockId_mem_iff]
  constructor
  · rintro ⟨agent, hagent, spec, hspec, provider, hbound, hneeds⟩
    obtain ⟨index, hindex, rfl⟩ := List.mem_map.mp hagent
    have hspec : spec ∈ template.capabilities := hspec
    rw [boundProvider_reviewRequest _ index hspec] at hbound
    exact ⟨index, List.mem_range.mp hindex, spec, hspec, provider, hbound, hneeds⟩
  · rintro ⟨index, hindex, spec, hspec, provider, hchosen, hneeds⟩
    refine ⟨_, List.mem_map_of_mem (List.mem_range.mpr hindex), spec, hspec, provider, ?_, hneeds⟩
    exact (boundProvider_reviewRequest _ index hspec).trans hchosen

theorem asks_setup_iff {manifestId env : String} {envelope : TaskEnvelope} {emitAnswers : Bool}
    {output : WizardOutput}
    (run : buildDryRunOutput newCapabilityId answers selectedTemplateEntry providerCatalog manifestId
      envelope env (some template) emitAnswers = .ok output)
    (reviewed : output.data.review = some review) :
    review.AsksSetup ↔
      answers.ChoosesAsked newCapabilityId template (providerCatalog.getD ⟨[]⟩) := by
  obtain ⟨_, htemplate, hreview⟩ := of_buildDryRunOutput run reviewed
  cases htemplate
  rw [asksSetup_iff hreview]
  simp only [requirement_iff hreview]
  constructor
  · intro hasks index hindex spec hspec provider hchosen hschemas blockId hblock
    exact hasks blockId ⟨index, hindex, spec, hspec, provider, hchosen, hschemas, hblock⟩
  · rintro hchooses blockId ⟨index, hindex, spec, hspec, provider, hchosen, hschemas, hblock⟩
    exact hchooses index hindex spec hspec provider hchosen hschemas blockId hblock

def twoMemories : DwProviderCatalog := ⟨[
  chatProvider,
  { memoryProvider with
    providerId := "provider.memory.remote"
    requiredQuestionBlockIds := ["memory.url"] },
  memoryProvider]⟩

theorem asks_setup_iff_local : ∃ output review,
    buildDryRunOutput capabilityUri (deskAnswers []) none (some twoMemories) "dw.desk" deskTask "local"
        (some deskTemplate) false = .ok output ∧
      output.data.review = some review ∧
      (review.AsksSetup ↔ (deskAnswers []).ChoosesAsked capabilityUri deskTemplate twoMemories) := by
  have hsome : (reviewOf (buildDryRunOutput capabilityUri (deskAnswers []) none (some twoMemories)
      "dw.desk" deskTask "local" (some deskTemplate) false)).isSome = true := by decide +kernel
  obtain ⟨review, hreview⟩ := Option.isSome_iff_exists.mp hsome
  obtain ⟨output, hrun, hreviewed⟩ := reviewOf_eq_some.mp hreview
  exact ⟨output, review, hrun, hreviewed, asks_setup_iff hrun hreviewed⟩

theorem unasked_override : ¬∀ (newCapabilityId : String → Option CapabilityId)
    (answers : AnswerDocument) (selectedTemplateEntry : Option TemplateCatalogEntry)
    (providerCatalog : Option DwProviderCatalog) (manifestId env : String) (envelope : TaskEnvelope)
    (template : DigitalWorkerTemplate) (emitAnswers : Bool) (output : WizardOutput)
    (review : TemplateReview),
    buildDryRunOutput newCapabilityId answers selectedTemplateEntry providerCatalog manifestId envelope
      env (some template) emitAnswers = .ok output →
    output.data.review = some review → review.AsksSetup := by
  intro h
  have hsome : (reviewOf (buildDryRunOutput capabilityUri
      (deskAnswers [("cap://memory/short-term", "provider.memory.remote")]) none (some twoMemories)
      "dw.desk" deskTask "local" (some deskTemplate) false)).any (fun review => ¬review.AsksSetup) =
        true := by decide +kernel
  obtain ⟨review, hreview, hasks⟩ := (Option.any_eq_true _ _).mp hsome
  obtain ⟨output, hrun, hreviewed⟩ := reviewOf_eq_some.mp hreview
  exact of_decide_eq_true hasks (h _ _ _ _ _ _ _ _ _ _ _ hrun hreviewed)

end Runs

end GreenticDw

import GreenticDw.Wizard.AgentAddresses
import GreenticDw.Wizard.SetupBlocks

namespace GreenticDw

open Text

/-- The block asks whether this provider is to be taken for the capability. -/
structure DwWizardQuestionBlock.Shows (block : DwWizardQuestionBlock) (capabilityId : CapabilityId)
    (providerId : String) : Prop where
  source : block.source = .provider providerId
  blockId : block.blockId = "provider.select." ++ providerId
  path : block.path = "provider." ++ providerId ++ ".selection." ++ capabilitySlug capabilityId
  answerKey : block.answerKey = some capabilityId

structure AnswerDocument.Unscoped (answers : AnswerDocument) : Prop where
  providerOverrides : answers.providerOverrides.entries = []
  agentAnswers : answers.agentAnswers.entries = []
  designAnswers : ∀ entry ∈ answers.designAnswers.entries, startsWith "agent." entry.1 = false

lemma mem_capabilities_iff {template : DigitalWorkerTemplate} {capabilityId : CapabilityId} :
    capabilityId ∈ template.capabilityPlan.requiredCapabilities ++
        template.capabilityPlan.optionalCapabilities ↔
      ∃ spec ∈ template.capabilities, spec.1 = capabilityId := by
  rw [← List.mem_map]
  simp [DigitalWorkerTemplate.capabilities, Function.comp_def]

section Blocks

variable {template : DigitalWorkerTemplate} {catalog : DwProviderCatalog}
  {selectedTemplateEntry : Option TemplateCatalogEntry}
  {providerCatalog : Option DwProviderCatalog} {block : DwWizardQuestionBlock}
  {capabilityId : CapabilityId} {providerId : String}

lemma not_shows_followUpBlock (provider : DwProviderCatalogEntry) (questionBlockId : String) :
    ¬(provider.followUpBlock questionBlockId).Shows capabilityId providerId := by
  intro h
  obtain rfl : provider.providerId = providerId := QuestionSource.provider.inj h.source
  obtain rfl : questionBlockId = "provider.select." ++ provider.providerId := h.blockId
  have hpath : "provider." ++ provider.providerId ++ "." ++
      ("provider.select." ++ provider.providerId) =
      "provider." ++ provider.providerId ++ ".selection." ++ capabilitySlug capabilityId := h.path
  simp only [String.append_assoc, String.append_right_inj] at hpath
  have hlist := congrArg (fun s => s.toList.take 2) hpath
  simp [String.toList_append] at hlist

lemma shows_of_providerBlocks {spec : CapabilityId × Bool}
    (hblock : block ∈ providerBlocks template catalog spec)
    (hshows : block.Shows capabilityId providerId) :
    spec.1 = capabilityId ∧ ∃ provider,
      selectProviderForCapability template catalog capabilityId = some provider ∧
        provider.providerId = providerId := by
  rw [providerBlocks] at hblock
  cases hselect : selectProviderForCapability template catalog spec.1 with
  | none =>
    rw [hselect] at hblock
    cases hblock
  | some provider =>
    rw [hselect, List.mem_cons, List.mem_map] at hblock
    obtain rfl | ⟨questionBlockId, -, rfl⟩ := hblock
    · obtain rfl : spec.1 = capabilityId := Option.some.inj hshows.answerKey
      exact ⟨rfl, provider, hselect, QuestionSource.provider.inj hshows.source⟩
    · exact (not_shows_followUpBlock provider questionBlockId hshows).elim

theorem shows_iff (hcapability : capabilityId ∈ template.capabilityPlan.requiredCapabilities ++
      template.capabilityPlan.optionalCapabilities) :
    (∃ block ∈ (buildQuestionAssembly template selectedTemplateEntry providerCatalog).blocks,
      block.Shows capabilityId providerId) ↔
    ∃ provider, selectProviderForCapability template (providerCatalog.getD ⟨[]⟩) capabilityId =
      some provider ∧ provider.providerId = providerId := by
  constructor
  · rintro ⟨block, hblock, hshows⟩
    rcases mem_blocks_cases hblock with ⟨spec, -, hprovider⟩ | ⟨-, hother⟩
    · exact (shows_of_providerBlocks hprovider hshows).2
    · exact absurd hshows.source (hother providerId)
  · rintro ⟨provider, hselect, rfl⟩
    obtain ⟨spec, hspec, rfl⟩ := mem_capabilities_iff.mp hcapability
    refine ⟨provider.selectionBlock spec.1 spec.2, ?_, ⟨rfl, rfl, rfl, rfl⟩⟩
    apply mem_blocks_of_providerBlocks hspec
    rw [providerBlocks, hselect]
    exact List.mem_cons_self

end Blocks

section Bound

variable {newCapabilityId : String → Option CapabilityId} {answers : AnswerDocument}
  {template : DigitalWorkerTemplate} {catalog : DwProviderCatalog}
  {selectedTemplateEntry : Option TemplateCatalogEntry}
  {providerCatalog : Option DwProviderCatalog} {capabilityId : CapabilityId}
  {envelope : DwReviewEnvelope}

namespace AnswerDocument.Unscoped

variable (unscoped : answers.Unscoped)

include unscoped

lemma findAgentAnswers (agentId : String) : answers.findAgentAnswers agentId = none := by
  simp [AnswerDocument.findAgentAnswers, SortedMap.get, unscoped.agentAnswers]

lemma agentProviderOverrides (agentId : String) :
    answers.agentProviderOverrides newCapabilityId agentId = [] := by
  simp only [AnswerDocument.agentProviderOverrides, unscoped.findAgentAnswers, Option.map_none,
    Option.getD_none, validOverrides, List.filterMap_nil, List.nil_append,
    List.filterMap_eq_nil_iff]
  intro entry hentry
  have hnone : ∀ more : String, stripPrefix ("agent." ++ more) entry.1 = none := by
    intro more
    rw [stripPrefix_eq_none, ← Bool.not_eq_true]
    intro h
    exact Bool.eq_false_iff.mp (unscoped.designAnswers entry hentry) (startsWith_of_append h)
  simp only [agentNumericAnswerPrefix, String.append_assoc, hnone]
  rfl

lemma namedProvider (agentId : String) (capabilityId : CapabilityId) :
    answers.namedProvider newCapabilityId agentId capabilityId = none := by
  rw [AnswerDocument.namedProvider, unscoped.agentProviderOverrides, unscoped.providerOverrides]
  rfl

end AnswerDocument.Unscoped

lemma find_of_mem (hids : (catalog.entries.map (·.providerId)).Nodup)
    {provider : DwProviderCatalogEntry} (h : provider ∈ catalog.entries) :
    catalog.find provider.providerId = some provider := by
  have hsome : (catalog.find provider.providerId).isSome = true := by
    rw [DwProviderCatalog.find, List.find?_isSome]
    exact ⟨provider, h, by simp⟩
  obtain ⟨found, hfound⟩ := Option.isSome_iff_exists.mp hsome
  rw [hfound, List.inj_on_of_nodup_map hids (DwProviderCatalog.mem_of_find hfound) h
    (DwProviderCatalog.providerId_of_find hfound)]

lemma chosenProvider_of_unscoped (hids : (catalog.entries.map (·.providerId)).Nodup)
    (unscoped : answers.Unscoped) (agentId : String) (capabilityId : CapabilityId) :
    answers.chosenProvider newCapabilityId template catalog agentId capabilityId =
      selectProviderForCapability template catalog capabilityId := by
  rw [AnswerDocument.chosenProvider, unscoped.namedProvider]
  cases hselect : selectProviderForCapability template catalog capabilityId with
  | none => rfl
  | some provider => exact find_of_mem hids (mem_of_selectProviderForCapability hselect)

lemma mem_bindings_of_unscoped {index : ℕ} {binding : CapabilityBinding}
    (hids : (catalog.entries.map (·.providerId)).Nodup) (unscoped : answers.Unscoped) :
    binding ∈ ((answers.reviewRequest newCapabilityId template catalog
      selectedTemplateEntry).agentComposition catalog (answers.agentRequest newCapabilityId template
        catalog selectedTemplateEntry (answers.resolvedAgentCount template)
          index)).capabilityBindings ↔
    ∃ spec ∈ template.capabilities, ∃ provider,
      selectProviderForCapability template catalog spec.1 = some provider ∧
        provider.capabilityBinding spec.1 spec.2 = binding := by
  have hbound : ∀ spec ∈ template.capabilities, (answers.reviewRequest newCapabilityId template catalog
      selectedTemplateEntry).boundProvider catalog (answers.agentRequest newCapabilityId template
        catalog selectedTemplateEntry (answers.resolvedAgentCount template) index) spec.1 =
      selectProviderForCapability template catalog spec.1 := fun spec hspec => by
    rw [boundProvider_reviewRequest _ index hspec, chosenProvider_of_unscoped hids unscoped]
  rw [DwCompositionResolveRequest.agentComposition, DwCompositionResolveRequest.composition]
  simp only [List.mem_flatMap, DwCompositionResolveRequest.bindingsOf, List.mem_map,
    Option.mem_toList]
  constructor
  · rintro ⟨spec, hspec, provider, hprovider, hbinding⟩
    exact ⟨spec, hspec, provider, (hbound spec hspec).symm.trans hprovider, hbinding⟩
  · rintro ⟨spec, hspec, provider, hselect, hbinding⟩
    exact ⟨spec, hspec, provider, (hbound spec hspec).trans hselect, hbinding⟩

theorem shown_provider_bound
    (hids : ((providerCatalog.getD ⟨[]⟩).entries.map (·.providerId)).Nodup)
    (unscoped : answers.Unscoped)
    (reviewed : buildReviewEnvelope newCapabilityId answers template selectedTemplateEntry
      providerCatalog = .ok envelope) :
    ∀ agent ∈ envelope.composition.agents,
      ∀ capabilityId ∈ template.capabilityPlan.requiredCapabilities ++
        template.capabilityPlan.optionalCapabilities,
      ((∃ binding ∈ agent.capabilityBindings, binding.capabilityId = capabilityId) ↔
        ∃ block ∈ (buildQuestionAssembly template selectedTemplateEntry providerCatalog).blocks,
          ∃ providerId, block.Shows capabilityId providerId) ∧
      ∀ binding ∈ agent.capabilityBindings, binding.capabilityId = capabilityId →
        ∀ block ∈ (buildQuestionAssembly template selectedTemplateEntry providerCatalog).blocks,
          ∀ providerId, block.Shows capabilityId providerId →
            binding.providerBinding.providerId = providerId := by
  obtain ⟨document, hresolved, henvelope⟩ := of_buildReviewEnvelope reviewed
  obtain ⟨-, rfl⟩ := DwCompositionResolveRequest.resolve_eq_ok.mp hresolved
  rw [(DwCompositionDocument.of_toReviewEnvelope henvelope).1]
  intro agent hagent capabilityId hcapability
  obtain ⟨request, hrequest, rfl⟩ := List.mem_map.mp hagent
  obtain ⟨index, -, rfl⟩ := List.mem_map.mp hrequest
  have hselected : ∀ binding, binding ∈ ((answers.reviewRequest newCapabilityId template
      (providerCatalog.getD ⟨[]⟩) selectedTemplateEntry).agentComposition (providerCatalog.getD ⟨[]⟩)
        (answers.agentRequest newCapabilityId template (providerCatalog.getD ⟨[]⟩)
          selectedTemplateEntry (answers.resolvedAgentCount template) index)).capabilityBindings →
      binding.capabilityId = capabilityId → ∃ provider,
        selectProviderForCapability template (providerCatalog.getD ⟨[]⟩) capabilityId =
          some provider ∧ provider.providerId = binding.providerBinding.providerId := by
    intro binding hbinding hid
    obtain ⟨spec, -, provider, hselect, rfl⟩ := (mem_bindings_of_unscoped hids unscoped).mp hbinding
    exact ⟨provider, hid ▸ hselect, rfl⟩
  constructor
  · constructor
    · rintro ⟨binding, hbinding, hid⟩
      obtain ⟨provider, hselect, -⟩ := hselected binding hbinding hid
      obtain ⟨block, hblock, hshows⟩ := (shows_iff hcapability).mpr ⟨provider, hselect, rfl⟩
      exact ⟨block, hblock, _, hshows⟩
    · rintro ⟨block, hblock, providerId, hshows⟩
      obtain ⟨provider, hselect, -⟩ := (shows_iff hcapability).mp ⟨block, hblock, hshows⟩
      obtain ⟨spec, hspec, rfl⟩ := mem_capabilities_iff.mp hcapability
      exact ⟨_, (mem_bindings_of_unscoped hids unscoped).mpr ⟨spec, hspec, provider, hselect, rfl⟩,
        rfl⟩
  · intro binding hbinding hid block hblock providerId hshows
    obtain ⟨provider, hselect, hprovider⟩ := hselected binding hbinding hid
    obtain ⟨shown, hshown, rfl⟩ := (shows_iff hcapability).mp ⟨block, hblock, hshows⟩
    rw [hselect] at hshown
    rw [← hprovider, Option.some.inj hshown]

theorem shown_provider_bound_desk : ∃ envelope,
    buildReviewEnvelope capabilityUri (deskAnswers []) deskTemplate none (some twoMemories) =
      .ok envelope ∧
    ∀ agent ∈ envelope.composition.agents,
      ((∃ binding ∈ agent.capabilityBindings, binding.capabilityId = "cap://memory/short-term") ↔
        ∃ block ∈ (buildQuestionAssembly deskTemplate none (some twoMemories)).blocks,
          ∃ providerId, block.Shows "cap://memory/short-term" providerId) := by
  have hok : (buildReviewEnvelope capabilityUri (deskAnswers []) deskTemplate none
      (some twoMemories)).toOption.isSome = true := by decide +kernel
  cases hrun : buildReviewEnvelope capabilityUri (deskAnswers []) deskTemplate none
      (some twoMemories) with
  | error e =>
    rw [hrun] at hok
    cases hok
  | ok envelope =>
    have hids : (((some twoMemories).getD ⟨[]⟩).entries.map (·.providerId)).Nodup := by decide
    exact ⟨envelope, rfl, fun agent hagent => (shown_provider_bound hids
      ⟨rfl, rfl, List.forall_mem_nil _⟩ hrun agent hagent "cap://memory/short-term"
        (by decide)).1⟩

end Bound

end GreenticDw

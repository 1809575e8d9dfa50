import GreenticDw.Wizard.PromptedAnswers

/-! Which agent reads a response. With one agent it is shared by all there are, and anything that is
addressed to the agent goes before it. With many agents it stands under the number of the agent. -/

namespace GreenticDw

open Text

def DwWizardQuestionBlock.resolvedFor (block : DwWizardQuestionBlock) (agentCount index : ℕ) :
    DwWizardQuestionBlock :=
  if agentCount ≤ 1 then block else scopedVisibleBlockForOutput block (index + 1) true

def responseKey (agentCount index : ℕ) (k : String) : String :=
  if agentCount ≤ 1 then k else "agent." ++ toString (index + 1) ++ "." ++ k

/-- While the prompts go through the blocks, this response is given to the question of this block,
asked for the agent with this index. -/
structure AnsweredFor {σ ε : Type} (prompt : String → σ → Except ε (String × σ))
    (blocks : List DwWizardQuestionBlock) (start : AnswerDocument × σ)
    (block : DwWizardQuestionBlock) (agentCount index : ℕ) (k response : String) : Prop
    extends Answered prompt blocks start (block.resolvedFor agentCount index)
      (responseKey agentCount index k) response where
  scope : block.scope = .agent none
  key : block.answerKey = some k
  index_lt : index < agentCount

namespace AnswerDocument

def ReadsLast (answers : AnswerDocument) (agentCount index : ℕ) (k : String) : Prop :=
  let agentId := answers.agentIdAt agentCount index
  if agentCount ≤ 1 then
    startsWith "agent." k = false ∧
      (∀ document, answers.findAgentAnswers agentId = some document →
        document.designAnswers.get k = none) ∧
      ∀ key, agentScopedName agentId key = some k → answers.designAnswers.get key = none
  else
    ∀ key value, answers.designAnswers.get key = some value →
      agentScopedName agentId key = some k → key ≤ responseKey agentCount index k

variable {answers answers' : AnswerDocument} {agentCount index j : ℕ} {k : String} {value : Value}

lemma get_shared {agentId : String}
    (hget : answers.designAnswers.get k = some value) (hshared : startsWith "agent." k = false)
    (hexplicit : ∀ document, answers.findAgentAnswers agentId = some document →
      document.designAnswers.get k = none)
    (hscoped : ∀ key, agentScopedName agentId key = some k → answers.designAnswers.get key = none) :
    (answers.scopedAgentDesignAnswers agentId).get k = some value := by
  have hagent : (SortedMap.ofEntries (answers.designAnswers.entries.filterMap fun entry =>
      (stripPrefix (agentNumericAnswerPrefix agentId) entry.1 <|>
        stripPrefix ("agent." ++ agentId ++ ".") entry.1).map (·, entry.2))).get k = none := by
    apply SortedMap.get_ofEntries_eq_none
    intro read hmem heq
    obtain ⟨entry, hentry, hmap⟩ := List.mem_filterMap.mp hmem
    obtain ⟨name, hname, rfl⟩ := Option.map_eq_some_iff.mp hmap
    obtain rfl : name = k := heq
    have hnone := hscoped entry.1 hname
    rw [SortedMap.get_eq_some.mpr hentry] at hnone
    cases hnone
  have hown : (SortedMap.ofEntries (((answers.findAgentAnswers agentId).map
      (·.designAnswers.entries)).getD [])).get k = none := by
    cases hfind : answers.findAgentAnswers agentId with
    | none => rfl
    | some document =>
      rw [Option.map_some, Option.getD_some, SortedMap.get_ofEntries_entries]
      exact hexplicit document hfind
  have hkept : (SortedMap.ofEntries (answers.designAnswers.entries.filter fun entry =>
      !startsWith "agent." entry.1)).get k = some value := by
    rw [SortedMap.get_ofEntries_filter_entries (p := fun key => !startsWith "agent." key)
      (by rw [hshared]; rfl)]
    exact hget
  simp only [scopedAgentDesignAnswers, SortedMap.get_ofEntries_append, hagent, hown, hkept]
  rfl

lemma get_effectiveValues {agent : DwAgentResolveRequest} (h : agent.answers.get k = some value) :
    agent.effectiveValues.get k = some value := by
  have hnodup : (agent.answers.entries.map Prod.fst).Nodup :=
    agent.answers.ascending.imp fun hlt => hlt.ne
  exact SortedMap.get_foldl_insert hnodup (SortedMap.get_eq_some.mp h) _

lemma get_scoped_of_readsLast
    (hget : answers.designAnswers.get (responseKey agentCount index k) = some value)
    (last : answers.ReadsLast agentCount index k) :
    (answers.scopedAgentDesignAnswers (answers.agentIdAt agentCount index)).get k = some value := by
  rw [ReadsLast] at last
  rw [responseKey] at hget
  split_ifs at hget last with hone
  · exact get_shared hget last.1 last.2.1 last.2.2
  · have many : 1 < agentCount := not_le.mp hone
    have hnumber : agentNumericAnswerPrefix (answers.agentIdAt agentCount index) = _ :=
      agentNumericAnswerPrefix_agentIdAt many index
    rw [← hnumber] at hget
    apply get_scopedAgentDesignAnswers hget (agentScopedName_of_number (stripPrefix_append _ k))
    intro key value' hget' hname
    rw [agentNumericAnswerPrefix_agentIdAt many]
    have hle := last key value' hget' hname
    rwa [responseKey, if_neg hone] at hle

lemma agentScopedName_responseKey_ne (many : 1 < agentCount) (hne : j ≠ index) :
    agentScopedName (answers.agentIdAt agentCount j) (responseKey agentCount index k) ≠ some k := by
  intro h
  rw [responseKey, if_neg (not_le.mpr many), agentScopedName, Option.orElse_eq_orElse,
    Option.orElse_eq_or, Option.or_eq_some_iff] at h
  obtain hnumber | ⟨-, hid⟩ := h
  · rw [stripPrefix_eq_some, agentNumericAnswerPrefix_agentIdAt many, String.append_left_inj,
      String.append_left_inj, String.append_right_inj] at hnumber
    have hindex := toString_injective (congrArg String.toList hnumber)
    omega
  · rw [stripPrefix_eq_some, agentKeyPrefix, String.append_left_inj, String.append_left_inj,
      String.append_right_inj, agentIdAt_of_many many] at hid
    have hdash : '-' ∉ (toString (index + 1)).toList := notMem_toString rfl (index + 1)
    rw [hid] at hdash
    simp at hdash

lemma get_scoped_of_other (many : 1 < agentCount) (hne : j ≠ index)
    (differ : DifferWithin (fun key => key = responseKey agentCount index k)
      ("agent-" ++ toString (index + 1)) answers answers') :
    (answers'.scopedAgentDesignAnswers (answers.agentIdAt agentCount j)).get k =
      (answers.scopedAgentDesignAnswers (answers.agentIdAt agentCount j)).get k := by
  have hmeant : ∀ key, decide (key = responseKey agentCount index k) = true →
      startsWith "agent." key = true := by
    intro key hkey
    rw [of_decide_eq_true hkey, responseKey, if_neg (not_le.mpr many), String.append_assoc,
      String.append_assoc]
    exact startsWith_iff.mpr ⟨_, rfl⟩
  have hsuffix : agentNumericSuffix ("agent-" ++ toString (index + 1)) = toString (index + 1) := by
    rw [← String.empty_append (s := "agent-"), agentNumericSuffix_numbered]
  simp only [scopedAgentDesignAnswers, SortedMap.get_ofEntries_append,
    findAgentAnswers_of_differ differ many hne hsuffix, filter_designAnswers_of_differ differ hmeant]
  congr 1
  rw [← SortedMap.get_ofEntries_filter, ← SortedMap.get_ofEntries_filter (List.filterMap _ _),
    List.filter_filterMap, List.filter_filterMap, filterMap_designAnswers_of_differ differ]
  intro entry hentry
  rw [Option.filter_eq_none_iff]
  intro read hread hk
  obtain ⟨name, hname, rfl⟩ := Option.map_eq_some_iff.mp hread
  obtain rfl : name = k := of_decide_eq_true hk
  rw [of_decide_eq_true hentry] at hname
  exact agentScopedName_responseKey_ne many hne hname

end AnswerDocument

namespace AnswerDocument

variable {answers answers' : AnswerDocument} {template : DigitalWorkerTemplate}

lemma one_le_resolvedAgentCount : 1 ≤ answers.resolvedAgentCount template := by
  rw [resolvedAgentCount]
  split_ifs
  · exact le_rfl
  · generalize ((answers.designAnswers.get "agent_count").bind Value.asStr).bind
      (fun value => parseUsize (trim value)) = count
    cases hcount : count.filter fun count => count > 1 with
    | none => exact le_rfl
    | some n =>
      have hn := (Option.filter_eq_some_iff.mp hcount).2
      simp only [gt_iff_lt, decide_eq_true_eq] at hn
      exact hn.le

lemma resolvedAgentCount_of_extends (many : 1 < answers.resolvedAgentCount template)
    (h : answers'.Extends answers) :
    answers'.resolvedAgentCount template = answers.resolvedAgentCount template := by
  cases hget : answers.designAnswers.get "agent_count" with
  | none =>
    rw [resolvedAgentCount, hget] at many
    split_ifs at many
    · exact absurd many (lt_irrefl 1)
    · exact absurd many (lt_irrefl 1)
  | some value => rw [resolvedAgentCount, resolvedAgentCount, h _ _ hget, hget]

end AnswerDocument

lemma exists_reviewEnvelope {answers : AnswerDocument} {template : DigitalWorkerTemplate}
    (newCapabilityId : String → Option CapabilityId)
    (selectedTemplateEntry : Option TemplateCatalogEntry)
    (providerCatalog : Option DwProviderCatalog) (free : contains "://" answers.manifestId = false) :
    ∃ envelope, buildReviewEnvelope newCapabilityId answers template selectedTemplateEntry
      providerCatalog = .ok envelope := by
  have hcount : 1 ≤ answers.resolvedAgentCount template := AnswerDocument.one_le_resolvedAgentCount
  have hagents : (answers.reviewRequest newCapabilityId template (providerCatalog.getD ⟨[]⟩)
      selectedTemplateEntry).agents ≠ [] := by
    rw [AnswerDocument.reviewRequest, ne_eq, List.map_eq_nil_iff, List.range_eq_nil]
    omega
  have hresolve : (answers.reviewRequest newCapabilityId template (providerCatalog.getD ⟨[]⟩)
      selectedTemplateEntry).resolve (providerCatalog.getD ⟨[]⟩) = .ok _ :=
    DwCompositionResolveRequest.resolve_eq_ok.mpr ⟨hagents, rfl⟩
  obtain ⟨envelope, hreview⟩ : ∃ envelope, ((answers.reviewRequest newCapabilityId template
      (providerCatalog.getD ⟨[]⟩) selectedTemplateEntry).document
        (providerCatalog.getD ⟨[]⟩)).toReviewEnvelope = .ok envelope :=
    DwCompositionDocument.exists_review (mt List.map_eq_nil_iff.mp hagents) free
  rw [buildReviewEnvelope, hresolve]
  simp only [Except.mapError, bind, Except.bind]
  rw [hreview]
  exact ⟨envelope, rfl⟩

lemma getElem?_agents_envelope {newCapabilityId : String → Option CapabilityId}
    {answers : AnswerDocument} {template : DigitalWorkerTemplate}
    {selectedTemplateEntry : Option TemplateCatalogEntry}
    {providerCatalog : Option DwProviderCatalog} {envelope : DwReviewEnvelope} {index : ℕ}
    (reviewed : buildReviewEnvelope newCapabilityId answers template selectedTemplateEntry
      providerCatalog = .ok envelope)
    (h : index < answers.resolvedAgentCount template) :
    ∃ agent, envelope.composition.agents[index]? = some agent ∧
      agent.agentId = answers.agentIdAt (answers.resolvedAgentCount template) index ∧
      agent.behaviorConfig.values = (answers.agentRequest newCapabilityId template
        (providerCatalog.getD ⟨[]⟩) selectedTemplateEntry (answers.resolvedAgentCount template)
        index).effectiveValues := by
  obtain ⟨document, hresolved, henvelope⟩ := of_buildReviewEnvelope reviewed
  obtain ⟨-, rfl⟩ := DwCompositionResolveRequest.resolve_eq_ok.mp hresolved
  rw [(DwCompositionDocument.of_toReviewEnvelope henvelope).1, DwCompositionResolveRequest.document,
    List.getElem?_map, AnswerDocument.getElem?_agents, if_pos h]
  exact ⟨_, rfl, rfl, rfl⟩

section Reach

variable {σ ε : Type} {prompt : String → σ → Except ε (String × σ)}
  {newCapabilityId : String → Option CapabilityId} {template : DigitalWorkerTemplate}
  {selectedTemplateEntry : Option TemplateCatalogEntry}
  {providerCatalog : Option DwProviderCatalog} {blocks : List DwWizardQuestionBlock}
  {start reached final : AnswerDocument × σ} {block : DwWizardQuestionBlock} {index : ℕ}
  {k response : String} {envelope : DwReviewEnvelope}

theorem response_reaches_agent
    (layout : promptLayout prompt template selectedTemplateEntry providerCatalog start =
      .ok (blocks, reached))
    (run : promptDesignFlow prompt template selectedTemplateEntry providerCatalog start = .ok final)
    (answered : AnsweredFor prompt blocks reached block (reached.1.resolvedAgentCount template) index k
      response)
    (nonblank : isBlank response = false)
    (settled : reached.1.resolvedAgentCount template ≤ 1 →
      final.1.resolvedAgentCount template ≤ 1)
    (last : final.1.ReadsLast (reached.1.resolvedAgentCount template) index k)
    (reviewed : buildReviewEnvelope newCapabilityId final.1 template selectedTemplateEntry
      providerCatalog = .ok envelope) :
    (∃ agent, envelope.composition.agents[index]? = some agent ∧
      agent.agentId = final.1.agentIdAt (reached.1.resolvedAgentCount template) index ∧
      agent.behaviorConfig.values.get k = some (.string (trim response))) ∧
    ∀ answers' : AnswerDocument, DifferWithin
        (fun key => key = responseKey (reached.1.resolvedAgentCount template) index k)
        ("agent-" ++ toString (index + 1)) final.1 answers' →
      ∀ j < reached.1.resolvedAgentCount template, j ≠ index →
        (answers'.scopedAgentDesignAnswers
          (final.1.agentIdAt (reached.1.resolvedAgentCount template) j)).get k =
        (final.1.scopedAgentDesignAnswers
          (final.1.agentIdAt (reached.1.resolvedAgentCount template) j)).get k := by
  rw [promptDesignFlow, except_bind_eq_ok] at run
  obtain ⟨⟨blocks', reached'⟩, hlayout, hrun⟩ := run
  obtain ⟨rfl, rfl⟩ := Prod.mk.inj (Except.ok.inj (layout.symm.trans hlayout))
  have hget := get_of_answered answered.toAnswered nonblank hrun
  have hread := AnswerDocument.get_scoped_of_readsLast hget last
  have hcount : final.1.resolvedAgentCount template = reached.1.resolvedAgentCount template := by
    by_cases hone : reached.1.resolvedAgentCount template ≤ 1
    · exact le_antisymm ((settled hone).trans AnswerDocument.one_le_resolvedAgentCount)
        (hone.trans AnswerDocument.one_le_resolvedAgentCount)
    · exact AnswerDocument.resolvedAgentCount_of_extends (not_le.mp hone) (extends_of_prompts hrun)
  constructor
  · obtain ⟨agent, hagent, hid, hvalues⟩ := getElem?_agents_envelope reviewed
      (hcount.symm ▸ answered.index_lt)
    rw [hcount] at hid hvalues
    refine ⟨agent, hagent, hid, ?_⟩
    rw [hvalues]
    exact AnswerDocument.get_effectiveValues hread
  · intro answers' differ j hj hne
    have many : 1 < reached.1.resolvedAgentCount template := by
      have hindex := answered.index_lt
      omega
    exact AnswerDocument.get_scoped_of_other many hne differ

end Reach

def toneTemplate : DigitalWorkerTemplate where
  metadata := ⟨"dw.tone", "Tone"⟩
  capabilityPlan := ⟨[], [], ∅⟩
  questionBlocks := [⟨"dw.tone.ask", none, some "tone", none, true, none⟩]
  defaults := ⟨∅⟩
  behaviorScaffold := ⟨⟨[]⟩, ⟨[]⟩⟩
  packagingHints := ⟨[], []⟩
  supportsMultiAgentAppPack := false

def toneAnswers (agentAnswers : List (String × AgentAnswerDocument)) : AnswerDocument :=
  { deskAnswers [] with
    reviewMode := some .recommended
    agentAnswers := .ofEntries agentAnswers }

def toneBlock : DwWizardQuestionBlock :=
  toneTemplate.questionBlock none ⟨"dw.tone.ask", none, some "tone", none, true, none⟩

def identityBlock : DwWizardQuestionBlock := (coreBlocks toneTemplate).head (List.cons_ne_nil _ _)

def sayWarm (_ : String) (s : Unit) : Except Unit (String × Unit) := .ok ("warm", s)

section Tone

variable (agentAnswers : List (String × AgentAnswerDocument))

lemma promptLayout_tone : promptLayout sayWarm toneTemplate none none (toneAnswers agentAnswers, ()) =
    .ok ([identityBlock, toneBlock], (toneAnswers agentAnswers, ())) := by
  have hvisible : visibleDesignBlocks toneTemplate none none (toneAnswers agentAnswers) =
      [identityBlock, toneBlock] := by
    have hassembly : (buildQuestionAssembly toneTemplate none none).blocksFor .design .recommended
        false = [identityBlock, toneBlock] := by decide +kernel
    exact hassembly
  have hmode : promptReviewMode sayWarm (toneAnswers agentAnswers, ()) =
      .ok (toneAnswers agentAnswers, ()) := rfl
  rw [promptLayout, hmode]
  simp only [bind, Except.bind, hvisible]
  rfl

lemma answeredFor_tone : AnsweredFor sayWarm [identityBlock, toneBlock]
    (toneAnswers agentAnswers, ()) toneBlock 1 0 "tone" "warm" where
  asks := ⟨rfl, by decide, by decide, by decide⟩
  prompted := ⟨[identityBlock], [], (toneAnswers agentAnswers, ()), (), rfl, rfl, rfl, rfl⟩
  scope := rfl
  key := rfl
  index_lt := Nat.one_pos

lemma promptDesignFlow_tone : promptDesignFlow sayWarm toneTemplate none none
    (toneAnswers agentAnswers, ()) =
      .ok ((toneAnswers agentAnswers).insertDesignAnswer "tone" "warm", ()) := by
  rw [promptDesignFlow, promptLayout_tone]
  rfl

end Tone

def pairTemplate : DigitalWorkerTemplate := { toneTemplate with supportsMultiAgentAppPack := true }
def pairAnswers : AnswerDocument :=
  { toneAnswers [] with designAnswers := .ofEntries [("agent_count", .string "2")] }

def pairBlock : DwWizardQuestionBlock :=
  pairTemplate.questionBlock none ⟨"dw.tone.ask", none, some "tone", none, true, none⟩

def pairIdentityBlock : DwWizardQuestionBlock :=
  (coreBlocks pairTemplate).head (List.cons_ne_nil _ _)

def pairBlocks : List DwWizardQuestionBlock :=
  [pairIdentityBlock, pairBlock.resolvedFor 2 0, pairBlock.resolvedFor 2 1]

lemma promptLayout_pair : promptLayout sayWarm pairTemplate none none (pairAnswers, ()) =
    .ok (pairBlocks, (pairAnswers, ())) := by
  have hvisible : visibleDesignBlocks pairTemplate none none pairAnswers =
      [pairIdentityBlock, pairBlock] := by
    have hassembly : (buildQuestionAssembly pairTemplate none none).blocksFor .design .recommended
        false = [pairIdentityBlock, pairBlock] := by decide +kernel
    exact hassembly
  have hmode : promptReviewMode sayWarm (pairAnswers, ()) = .ok (pairAnswers, ()) := rfl
  rw [promptLayout, hmode]
  simp only [bind, Except.bind, hvisible]
  rfl

def pairStep (index : ℕ) (answers : AnswerDocument) : AnswerDocument :=
  answers.recordAnswer (pairBlock.resolvedFor 2 index) (responseKey 2 index "tone") "warm"

def pairFinal : AnswerDocument := pairStep 1 (pairStep 0 pairAnswers)

lemma promptDesignFlow_pair : promptDesignFlow sayWarm pairTemplate none none (pairAnswers, ()) =
    .ok (pairFinal, ()) := by
  rw [promptDesignFlow, promptLayout_pair]
  rfl

lemma answeredFor_pair : AnsweredFor sayWarm pairBlocks (pairAnswers, ()) pairBlock 2 1 "tone"
    "warm" where
  asks := ⟨rfl, by decide, by decide, by decide⟩
  prompted := ⟨[pairIdentityBlock, pairBlock.resolvedFor 2 0], [], (pairStep 0 pairAnswers, ()), (),
    rfl, rfl, by decide +kernel, rfl⟩
  scope := rfl
  key := rfl
  index_lt := by decide

lemma readsLast_pair : pairFinal.ReadsLast 2 1 "tone" := by
  have hkeys : ∀ entry ∈ pairFinal.designAnswers.entries,
      agentScopedName "dw.desk.agent-2" entry.1 = some "tone" → entry.1 ≤ "agent.2.tone" := by
    decide +kernel
  have hid : pairFinal.agentIdAt 2 1 = "dw.desk.agent-2" := by decide +kernel
  rw [AnswerDocument.ReadsLast, if_neg (by decide), hid]
  exact fun key value hget => hkeys (key, value) (SortedMap.get_eq_some.mp hget)

theorem response_reaches_agent_pair : ∃ envelope agent,
    buildReviewEnvelope some pairFinal pairTemplate none none = .ok envelope ∧
    envelope.composition.agents[1]? = some agent ∧
    agent.behaviorConfig.values.get "tone" = some (.string (trim "warm")) := by
  obtain ⟨envelope, hreview⟩ : ∃ envelope, buildReviewEnvelope some pairFinal pairTemplate none
      none = .ok envelope := exists_reviewEnvelope some none none (by decide)
  obtain ⟨⟨agent, hagent, -, hvalue⟩, -⟩ := response_reaches_agent promptLayout_pair
    promptDesignFlow_pair answeredFor_pair (by decide) (fun h => absurd h (by decide +kernel))
    readsLast_pair hreview
  exact ⟨envelope, agent, hreview, hagent, hvalue⟩

def drilyNamed : List (String × AgentAnswerDocument) :=
  [("dw.desk", ⟨∅, .ofEntries [("tone", .string "dry")]⟩)]

theorem response_loses_to_agent_answers : ∃ final envelope agent,
    promptDesignFlow sayWarm toneTemplate none none (toneAnswers drilyNamed, ()) = .ok (final, ()) ∧
    AnsweredFor sayWarm [identityBlock, toneBlock] (toneAnswers drilyNamed, ()) toneBlock 1 0 "tone"
      "warm" ∧
    buildReviewEnvelope some final toneTemplate none none = .ok envelope ∧
    envelope.composition.agents[0]? = some agent ∧
    agent.behaviorConfig.values.get "tone" ≠ some (.string (trim "warm")) := by
  obtain ⟨envelope, hreview⟩ : ∃ envelope, buildReviewEnvelope some
      ((toneAnswers drilyNamed).insertDesignAnswer "tone" "warm") toneTemplate none none =
        .ok envelope := exists_reviewEnvelope some none none (by decide)
  obtain ⟨agent, hagent, -, hvalues⟩ := getElem?_agents_envelope hreview
    (AnswerDocument.one_le_resolvedAgentCount)
  refine ⟨_, envelope, agent, promptDesignFlow_tone _, answeredFor_tone _, hreview, hagent, ?_⟩
  intro hwarm
  rw [hvalues] at hwarm
  have hread := congrArg (fun value => value.bind Value.asStr) hwarm
  revert hread
  decide

end GreenticDw

import GreenticDw.Composition.Resolved
import GreenticDw.Wizard.AgentAddresses

/-! Whether the answers that are meant for one agent reach another one. They do when the manifest id
leads with the number of that agent. -/

namespace GreenticDw

open Text

abbrev DifferOnlyFor (agentId : String) (answers answers' : AnswerDocument) : Prop :=
  DifferWithin (addressedTo agentId) agentId answers answers'

namespace AnswerDocument

variable {newCapabilityId : String → Option CapabilityId} {template : DigitalWorkerTemplate}
  {catalog : DwProviderCatalog} {selectedTemplateEntry : Option TemplateCatalogEntry}
  {answers answers' : AnswerDocument} {agentCount i j : ℕ}

lemma stripPrefix_of_addressedTo {key : String} (many : 1 < agentCount) (hne : j ≠ i)
    (apart : ¬LeadsWith (j + 1) answers.manifestId) (more : String)
    (h : addressedTo (answers.agentIdAt agentCount i) key = true) :
    stripPrefix (agentNumericAnswerPrefix (answers.agentIdAt agentCount j) ++ more) key = none ∧
      stripPrefix (agentKeyPrefix (answers.agentIdAt agentCount j) ++ more) key = none := by
  rw [stripPrefix_eq_none, stripPrefix_eq_none]
  constructor
  · by_contra hread
    exact apart (leadsWith_of_numbered many h
      (startsWith_of_append (Bool.not_eq_false _ ▸ hread)))
  · by_contra hread
    have hown := not_addressedTo_agentIdAt many hne h
    exact Bool.eq_false_iff.mp hown (startsWith_of_append (Bool.not_eq_false _ ▸ hread))

section Same

variable (differ : DifferOnlyFor (answers.agentIdAt agentCount i) answers answers')

include differ

lemma get_of_shared {key : String} (h : startsWith "agent." key = false) :
    answers'.designAnswers.get key = answers.designAnswers.get key := by
  apply differ.designAnswers
  by_contra haddressed
  exact Bool.eq_false_iff.mp h (startsWith_of_addressedTo (Bool.not_eq_false _ ▸ haddressed))

lemma resolvedAgentCount_of_differ :
    answers'.resolvedAgentCount template = answers.resolvedAgentCount template := by
  rw [resolvedAgentCount, resolvedAgentCount, get_of_shared differ (by decide)]

lemma usesSharedProviderStrategy_of_differ :
    answers'.usesSharedProviderStrategy = answers.usesSharedProviderStrategy := by
  rw [usesSharedProviderStrategy, usesSharedProviderStrategy, get_of_shared differ (by decide)]

lemma scopedAgentDesignAnswers_of_differ (many : 1 < agentCount) (hne : j ≠ i)
    (apart : ¬LeadsWith (j + 1) answers.manifestId) :
    answers'.scopedAgentDesignAnswers (answers.agentIdAt agentCount j) =
      answers.scopedAgentDesignAnswers (answers.agentIdAt agentCount j) := by
  have hfind := findAgentAnswers_of_differ differ many hne (agentNumericSuffix_agentIdAt many i)
  simp only [scopedAgentDesignAnswers, hfind,
    filter_designAnswers_of_differ differ fun _ => startsWith_of_addressedTo]
  rw [filterMap_designAnswers_of_differ differ]
  intro entry h
  obtain ⟨hnumber, hid⟩ := stripPrefix_of_addressedTo many hne apart "" h
  rw [String.append_empty] at hnumber hid
  rw [hnumber, ← agentKeyPrefix, hid]
  rfl

lemma agentProviderOverrides_of_differ (many : 1 < agentCount) (hne : j ≠ i)
    (apart : ¬LeadsWith (j + 1) answers.manifestId) :
    answers'.agentProviderOverrides newCapabilityId (answers.agentIdAt agentCount j) =
      answers.agentProviderOverrides newCapabilityId (answers.agentIdAt agentCount j) := by
  have hfind := findAgentAnswers_of_differ differ many hne (agentNumericSuffix_agentIdAt many i)
  simp only [agentProviderOverrides, hfind]
  rw [filterMap_designAnswers_of_differ differ]
  intro entry h
  obtain ⟨hnumber, hid⟩ := stripPrefix_of_addressedTo many hne apart "provider." h
  rw [agentKeyPrefix_provider] at hid
  rw [hnumber, hid]
  rfl

lemma agentRequest_of_differ (many : 1 < agentCount) (hne : j ≠ i)
    (apart : ¬LeadsWith (j + 1) answers.manifestId) :
    answers'.agentRequest newCapabilityId template catalog selectedTemplateEntry agentCount j =
      answers.agentRequest newCapabilityId template catalog selectedTemplateEntry agentCount j := by
  have hname : answers'.displayName = answers.displayName := by rw [differ.rest]
  have hoverrides : answers'.providerOverrides = answers.providerOverrides := by rw [differ.rest]
  simp only [agentRequest, agentIdAt_of_differ differ, hname,
    scopedAgentDesignAnswers_of_differ differ many hne apart, scopedAgentProviderOverrides,
    collectSelectedProviderOverrides, hoverrides, usesSharedProviderStrategy_of_differ differ,
    agentProviderOverrides_of_differ differ many hne apart]

end Same

section Misread

def withAnswerFor (answers : AnswerDocument) (agentId name : String) (value : Value) :
    AnswerDocument :=
  { answers with
    designAnswers := answers.designAnswers.insert (agentKeyPrefix agentId ++ name) value }

lemma differ_withAnswerFor (agentId name : String) (value : Value) :
    DifferOnlyFor agentId answers (answers.withAnswerFor agentId name value) where
  rest := rfl
  designAnswers key h := by
    rw [withAnswerFor, SortedMap.get_insert]
    apply if_neg
    rintro rfl
    exact Bool.eq_false_iff.mp h (startsWith_iff.mpr ⟨name, rfl⟩)
  agentAnswers _ _ := rfl

lemma agentIdBase_of_leadsWith {n : ℕ} (leads : LeadsWith n answers.manifestId) :
    ∃ t, answers.agentIdBase = toString n ++ "." ++ t := by
  obtain ⟨t, ht⟩ := leads.dotted
  exact ⟨t, by rw [agentIdBase, if_neg (Bool.eq_false_iff.mp leads.isBlank_eq_false), ht]⟩

lemma exists_misread (many : 1 < agentCount) (leads : LeadsWith (j + 1) answers.manifestId) :
    ∃ name, ∀ value, ((answers.withAnswerFor (answers.agentIdAt agentCount i) "x" value
      ).scopedAgentDesignAnswers (answers.agentIdAt agentCount j)).get name = some value := by
  obtain ⟨t, ht⟩ := agentIdBase_of_leadsWith leads
  have hkeys : ∀ index, agentKeyPrefix (answers.agentIdAt agentCount index) =
      agentNumericAnswerPrefix (answers.agentIdAt agentCount j) ++
        (t ++ "agent-" ++ toString (index + 1) ++ ".") := by
    intro index
    rw [agentKeyPrefix, agentNumericAnswerPrefix_agentIdAt many, agentIdAt_of_many many, ht]
    simp only [String.append_assoc]
  refine ⟨t ++ "agent-" ++ toString (i + 1) ++ "." ++ "x", fun value => ?_⟩
  have hread : agentScopedName (answers.agentIdAt agentCount j)
      (agentKeyPrefix (answers.agentIdAt agentCount i) ++ "x") =
        some (t ++ "agent-" ++ toString (i + 1) ++ "." ++ "x") := by
    apply agentScopedName_of_number
    rw [hkeys i, String.append_assoc, stripPrefix_append]
  apply get_scopedAgentDesignAnswers _ hread
  · intro other value' hget hname
    -- The id leads with the number too, so the number is stripped off every key.
    have hnumber : other = agentKeyPrefix (answers.agentIdAt agentCount i) ++ "x" := by
      rw [hkeys i, String.append_assoc]
      exact stripPrefix_eq_some.mp (stripPrefix_of_agentScopedName (hkeys j) hname)
    exact le_of_eq hnumber
  · rw [withAnswerFor, SortedMap.get_insert, if_pos rfl]

end Misread

theorem agents_isolated_iff (many : 1 < answers.resolvedAgentCount template) :
    (∀ answers', DifferOnlyFor (answers.agentIdAt (answers.resolvedAgentCount template) i) answers
        answers' → ∀ j, j ≠ i →
      (answers'.reviewRequest newCapabilityId template catalog selectedTemplateEntry).agents[j]? =
        (answers.reviewRequest newCapabilityId template catalog selectedTemplateEntry).agents[j]?) ↔
    ∀ j < answers.resolvedAgentCount template, j ≠ i → ¬LeadsWith (j + 1) answers.manifestId := by
  constructor
  · intro isolated j hj hne leads
    obtain ⟨name, hname⟩ := exists_misread (i := i) many leads
    have hsame : ∀ value, (answers.scopedAgentDesignAnswers
        (answers.agentIdAt (answers.resolvedAgentCount template) j)).get name = some value := by
      intro value
      have hdiffer : DifferOnlyFor _ answers _ :=
        differ_withAnswerFor (answers.agentIdAt (answers.resolvedAgentCount template) i) "x" value
      have hagent := isolated _ hdiffer j hne
      rw [getElem?_agents, getElem?_agents, resolvedAgentCount_of_differ hdiffer, if_pos hj,
        if_pos hj, Option.some.injEq] at hagent
      rw [← hname value, ← agentIdAt_of_differ hdiffer]
      exact congrArg (fun agent => agent.answers.get name) hagent.symm
    have hvalues := (hsame .null).symm.trans (hsame (.bool true))
    cases hvalues
  · intro apart answers' differ j hne
    rw [getElem?_agents, getElem?_agents, resolvedAgentCount_of_differ differ]
    split_ifs with hj
    · rw [agentRequest_of_differ differ many hne (apart j hj hne)]
    · rfl

def crewTemplate : DigitalWorkerTemplate := { deskTemplate with supportsMultiAgentAppPack := true }

def crewAnswers (manifestId : String) : AnswerDocument where
  manifestId := manifestId
  displayName := "Crew"
  manifestVersion := "0.5"
  tenant := "tenant-a"
  reviewMode := none
  providerOverrides := ∅
  designAnswers := .ofEntries [("agent_count", .string "2")]
  agentAnswers := ∅

theorem agents_isolated_crew :
    (∀ answers', DifferOnlyFor "dw.crew.agent-1" (crewAnswers "dw.crew") answers' → ∀ j, j ≠ 0 →
      (answers'.reviewRequest some crewTemplate ⟨[]⟩ none).agents[j]? =
        ((crewAnswers "dw.crew").reviewRequest some crewTemplate ⟨[]⟩ none).agents[j]?) ↔
    ∀ j < 2, j ≠ 0 → ¬LeadsWith (j + 1) "dw.crew" := by
  have hid : (crewAnswers "dw.crew").agentIdAt 2 0 = "dw.crew.agent-1" := by decide
  have hcount : (crewAnswers "dw.crew").resolvedAgentCount crewTemplate = 2 := by decide
  rw [← hid, ← hcount]
  exact agents_isolated_iff (by rw [hcount]; decide)

theorem second_agent_reads_first : ∃ answers', DifferOnlyFor "2.agent-1" (crewAnswers "2") answers' ∧
    (answers'.reviewRequest some crewTemplate ⟨[]⟩ none).agents[1]? ≠
      ((crewAnswers "2").reviewRequest some crewTemplate ⟨[]⟩ none).agents[1]? := by
  refine ⟨_, differ_withAnswerFor "2.agent-1" "tone" (.string "dry"), fun h => ?_⟩
  have hread := congrArg (Option.map fun agent => (agent.answers.get "agent-1.tone").isSome) h
  revert hread
  decide

end AnswerDocument

end GreenticDw

import GreenticDw.Text.Prefixes
import GreenticDw.Wizard.Answers

/-! Where the answers that are meant for one of many agents stand: under the number of the agent, or
under its id. -/

namespace GreenticDw

open Text

lemma agentNumericSuffix_numbered (base : String) (n : ℕ) :
    agentNumericSuffix (base ++ "agent-" ++ toString n) = toString n := by
  have hlast : "agent-".toList = ['a', 'g', 'e', 'n', 't'] ++ ['-'] := rfl
  have hsplit : rsplitOnce "agent-" (base ++ "agent-" ++ toString n) = some (base, toString n) :=
    rsplitOnce_of_notMem base hlast (notMem_toString rfl n)
  rw [agentNumericSuffix, hsplit]
  exact if_neg (Bool.eq_false_iff.mp (toString_isEmpty n))

def agentKeyPrefix (agentId : String) : String := "agent." ++ agentId ++ "."

lemma agentKeyPrefix_provider (agentId : String) :
    agentKeyPrefix agentId ++ "provider." = "agent." ++ agentId ++ ".provider." := by
  have hdot : ".provider." = "." ++ "provider." := rfl
  rw [agentKeyPrefix, hdot, String.append_assoc]

def addressedTo (agentId key : String) : Bool := startsWith (agentKeyPrefix agentId) key

def agentScopedName (agentId key : String) : Option String :=
  stripPrefix (agentNumericAnswerPrefix agentId) key <|> stripPrefix (agentKeyPrefix agentId) key

lemma agentScopedName_of_number {agentId key name : String}
    (h : stripPrefix (agentNumericAnswerPrefix agentId) key = some name) :
    agentScopedName agentId key = some name := by
  rw [agentScopedName, h]
  rfl

lemma stripPrefix_of_agentScopedName {agentId key name rest : String}
    (hstart : agentKeyPrefix agentId = agentNumericAnswerPrefix agentId ++ rest)
    (h : agentScopedName agentId key = some name) :
    stripPrefix (agentNumericAnswerPrefix agentId) key = some name := by
  rw [agentScopedName] at h
  cases hnumber : stripPrefix (agentNumericAnswerPrefix agentId) key with
  | some numbered =>
    rw [hnumber] at h
    exact h
  | none =>
    rw [hnumber] at h
    rw [stripPrefix_eq_some.mp h, hstart, String.append_assoc, stripPrefix_append] at hnumber
    cases hnumber

lemma startsWith_of_addressedTo {agentId key : String} (h : addressedTo agentId key = true) :
    startsWith "agent." key = true :=
  startsWith_of_append (startsWith_of_append h)

/-- The documents differ at most in the answers under the keys that are meant, and in the answers
document of one agent. -/
structure DifferWithin (meant : String → Bool) (agentId : String)
    (answers answers' : AnswerDocument) : Prop where
  rest : answers' = { answers with
    designAnswers := answers'.designAnswers
    agentAnswers := answers'.agentAnswers }
  designAnswers : ∀ key, meant key = false →
    answers'.designAnswers.get key = answers.designAnswers.get key
  agentAnswers : ∀ id, id ≠ agentId → answers'.agentAnswers.get id = answers.agentAnswers.get id

namespace AnswerDocument

variable {answers : AnswerDocument} {agentCount : ℕ}

def agentIdBase (answers : AnswerDocument) : String :=
  if isBlank answers.manifestId then "" else answers.manifestId ++ "."

lemma agentIdAt_of_many (many : 1 < agentCount) (index : ℕ) :
    answers.agentIdAt agentCount index =
      answers.agentIdBase ++ "agent-" ++ toString (index + 1) := by
  have hone : agentCount ≠ 1 := many.ne'
  rw [agentIdAt, if_neg hone, agentIdBase]
  split_ifs
  · rw [String.empty_append]
  · have hdot : ".agent-" = "." ++ "agent-" := rfl
    rw [hdot]
    simp only [String.append_assoc]

lemma agentNumericSuffix_agentIdAt (many : 1 < agentCount) (index : ℕ) :
    agentNumericSuffix (answers.agentIdAt agentCount index) = toString (index + 1) := by
  rw [agentIdAt_of_many many, agentNumericSuffix_numbered]

lemma agentNumericAnswerPrefix_agentIdAt (many : 1 < agentCount) (index : ℕ) :
    agentNumericAnswerPrefix (answers.agentIdAt agentCount index) =
      "agent." ++ toString (index + 1) ++ "." := by
  rw [agentNumericAnswerPrefix, agentNumericSuffix_agentIdAt many]

lemma not_addressedTo_agentIdAt {i j : ℕ} {key : String} (many : 1 < agentCount) (hne : j ≠ i)
    (h : addressedTo (answers.agentIdAt agentCount i) key = true) :
    addressedTo (answers.agentIdAt agentCount j) key = false := by
  by_contra hread
  rw [Bool.not_eq_false] at hread
  obtain ⟨t, ht⟩ := startsWith_iff.mp h
  obtain ⟨u, hu⟩ := startsWith_iff.mp hread
  rw [ht, agentKeyPrefix, agentKeyPrefix, agentIdAt_of_many many, agentIdAt_of_many many] at hu
  simp only [String.append_assoc, String.append_right_inj] at hu
  rw [← String.append_assoc, ← String.append_assoc] at hu
  have hindex := (number_dot_inj hu).1
  omega

lemma leadsWith_of_numbered {i j : ℕ} {key : String} (many : 1 < agentCount)
    (h : addressedTo (answers.agentIdAt agentCount i) key = true)
    (hread : startsWith (agentNumericAnswerPrefix (answers.agentIdAt agentCount j)) key = true) :
    LeadsWith (j + 1) answers.manifestId := by
  obtain ⟨t, rfl⟩ := startsWith_iff.mp h
  obtain ⟨u, hu⟩ := startsWith_iff.mp hread
  rw [agentNumericAnswerPrefix_agentIdAt many, agentKeyPrefix, agentIdAt_of_many many,
    agentIdBase] at hu
  split_ifs at hu
  · simp only [String.append_assoc, String.append_right_inj, String.empty_append] at hu
    have hletter : ("agent-" ++ (toString (i + 1) ++ ("." ++ t))).toList =
        'a' :: ("gent-" ++ (toString (i + 1) ++ ("." ++ t))).toList := by
      simp only [String.toList_append]
      rfl
    exact absurd hu (ne_number_append hletter rfl (j + 1) ("." ++ u))
  · simp only [String.append_assoc, String.append_right_inj] at hu
    apply leadsWith_of_dotted
    rw [String.append_assoc, hu, String.append_assoc]

section Differ

variable {answers' : AnswerDocument} {meant : String → Bool} {agentId : String} {i j : ℕ}
  (differ : DifferWithin meant agentId answers answers')

include differ

lemma agentIdAt_of_differ (agentCount index : ℕ) :
    answers'.agentIdAt agentCount index = answers.agentIdAt agentCount index := by
  rw [differ.rest]
  rfl

lemma filterMap_designAnswers_of_differ {β : Type} {read : String × Value → Option β}
    (hread : ∀ entry : String × Value, meant entry.1 = true → read entry = none) :
    answers'.designAnswers.entries.filterMap read =
      answers.designAnswers.entries.filterMap read := by
  apply SortedMap.filterMap_entries_congr (p := fun key => !meant key)
  · intro entry h
    exact hread entry (by simpa using h)
  · intro key h
    exact differ.designAnswers key (by simpa using h)

lemma filter_designAnswers_of_differ
    (hmeant : ∀ key, meant key = true → startsWith "agent." key = true) :
    answers'.designAnswers.entries.filter (fun entry => !startsWith "agent." entry.1) =
      answers.designAnswers.entries.filter fun entry => !startsWith "agent." entry.1 := by
  apply SortedMap.filter_entries_congr (p := fun key => !startsWith "agent." key)
  intro key h
  apply differ.designAnswers
  by_contra hm
  rw [hmeant key (Bool.not_eq_false _ ▸ hm)] at h
  cases h

lemma findAgentAnswers_of_differ (many : 1 < agentCount) (hne : j ≠ i)
    (hid : agentNumericSuffix agentId = toString (i + 1)) :
    answers'.findAgentAnswers (answers.agentIdAt agentCount j) =
      answers.findAgentAnswers (answers.agentIdAt agentCount j) := by
  have hnumber : agentNumericSuffix ("agent-" ++ toString (j + 1)) = toString (j + 1) := by
    rw [← String.empty_append (s := "agent-"), agentNumericSuffix_numbered]
  have hapart : ∀ id, agentNumericSuffix id = toString (j + 1) → id ≠ agentId := by
    rintro id hsuffix rfl
    rw [hsuffix] at hid
    exact hne (Nat.succ_injective (toString_injective (congrArg String.toList hid)))
  rw [findAgentAnswers, findAgentAnswers, agentNumericSuffix_agentIdAt many,
    differ.agentAnswers _ (hapart _ (agentNumericSuffix_agentIdAt many j)),
    differ.agentAnswers _ (hapart _ hnumber)]

end Differ

lemma get_scopedAgentDesignAnswers {agentId key name : String} {value : Value}
    (hget : answers.designAnswers.get key = some value)
    (hname : agentScopedName agentId key = some name)
    (last : ∀ other value', answers.designAnswers.get other = some value' →
      agentScopedName agentId other = some name → other ≤ key) :
    (answers.scopedAgentDesignAnswers agentId).get name = some value := by
  obtain ⟨before, after, hentries⟩ := List.append_of_mem (SortedMap.get_eq_some.mp hget)
  have hascends := answers.designAnswers.ascending
  rw [hentries, List.map_append, List.map_cons, List.pairwise_append, List.pairwise_cons]
    at hascends
  have hread : (stripPrefix (agentNumericAnswerPrefix agentId) key <|>
      stripPrefix ("agent." ++ agentId ++ ".") key) = some name := hname
  rw [scopedAgentDesignAnswers, hentries, List.filterMap_append, List.filterMap_cons]
  simp only [hread, Option.map_some]
  rw [← List.append_assoc]
  apply SortedMap.get_ofEntries_append_cons
  intro read hmem heq
  obtain ⟨entry, hentry, hmap⟩ := List.mem_filterMap.mp hmem
  obtain ⟨name', hname', rfl⟩ := Option.map_eq_some_iff.mp hmap
  obtain rfl : name' = name := heq
  have hgetEntry : answers.designAnswers.get entry.1 = some entry.2 := by
    rw [SortedMap.get_eq_some, hentries]
    exact List.mem_append_right _ (List.mem_cons_of_mem _ hentry)
  have hlater := hascends.2.1.1 entry.1 (List.mem_map_of_mem hentry)
  exact absurd (last entry.1 entry.2 hgetEntry hname') (not_le.mpr hlater)

variable {template : DigitalWorkerTemplate} {catalog : DwProviderCatalog}
  {selectedTemplateEntry : Option TemplateCatalogEntry}
  {newCapabilityId : String → Option CapabilityId}

lemma getElem?_agents (index : ℕ) :
    (answers.reviewRequest newCapabilityId template catalog selectedTemplateEntry).agents[index]? =
      if index < answers.resolvedAgentCount template then
        some (answers.agentRequest newCapabilityId template catalog selectedTemplateEntry
          (answers.resolvedAgentCount template) index)
      else none := by
  rw [reviewRequest, List.getElem?_map]
  split_ifs with h
  · rw [List.getElem?_range h, Option.map_some]
  · rw [List.getElem?_eq_none (by simpa using h), Option.map_none]

end AnswerDocument

end GreenticDw

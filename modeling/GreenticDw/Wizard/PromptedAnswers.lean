import GreenticDw.Traced.Checks
import GreenticDw.Wizard.DesignPrompts

namespace GreenticDw

open Text

section Flow

variable {σ ε : Type} {prompt : String → σ → Except ε (String × σ)}
  {template : DigitalWorkerTemplate} {selectedTemplateEntry : Option TemplateCatalogEntry}
  {providerCatalog : Option DwProviderCatalog} {block : DwWizardQuestionBlock}
  {blocks : List DwWizardQuestionBlock} {answers : AnswerDocument}
  {reached next : AnswerDocument × σ} {answerKey key response : String} {value : Value}

namespace AnswerDocument

@[simp] lemma designAnswers_recordAnswer :
    (answers.recordAnswer block answerKey response).designAnswers =
      answers.designAnswers.insert answerKey (.string (trim response)) := by
  rw [recordAnswer, insertDesignAnswer]
  cases block.scope.agentId <;> rfl

def Extends (answers' answers : AnswerDocument) : Prop :=
  ∀ key value, answers.designAnswers.get key = some value →
    answers'.designAnswers.get key = some value

lemma Extends.refl (answers : AnswerDocument) : answers.Extends answers := fun _ _ h => h

lemma Extends.trans {first second third : AnswerDocument} (h : third.Extends second)
    (h' : second.Extends first) : third.Extends first :=
  fun key value hget => h key value (h' key value hget)

lemma extends_of_insert {answers' : AnswerDocument}
    (hinsert : answers'.designAnswers = answers.designAnswers.insert key value)
    (hnew : answers.designAnswers.get key = none) : answers'.Extends answers := by
  intro other value' hget
  rw [hinsert, SortedMap.get_insert, if_neg]
  · exact hget
  · rintro rfl
    rw [hnew] at hget
    cases hget

lemma extends_of_recordSelection {scopeAgentId : Option String}
    (hnew : answers.hasSelection scopeAgentId key = false) :
    (answers.recordSelection scopeAgentId key response).Extends answers := by
  cases scopeAgentId with
  | none => exact fun _ _ h => h
  | some agentId =>
    have hnone : answers.designAnswers.get key = none := by simpa [hasSelection] using hnew
    exact extends_of_insert rfl hnone

end AnswerDocument

lemma extends_of_reply {text : String} {s : σ}
    {record : String → AnswerDocument} (hrecord : ∀ response, (record response).Extends answers)
    (h : (do
      let (response, s) ← prompt text s
      return (if isBlank response then answers else record response, s)) = Except.ok next) :
    next.1.Extends answers := by
  obtain ⟨⟨response, s'⟩, -, hnext⟩ := except_bind_eq_ok.mp h
  obtain rfl := Except.ok.inj hnext
  dsimp only
  split_ifs
  · exact AnswerDocument.Extends.refl _
  · exact hrecord response

lemma extends_of_promptAnswer (h : promptAnswer prompt block answerKey reached = .ok next) :
    next.1.Extends reached.1 := by
  obtain ⟨answers, s⟩ := reached
  rw [promptAnswer] at h
  split_ifs at h with hanswered
  · cases h
    exact AnswerDocument.Extends.refl _
  · refine extends_of_reply (fun response => ?_) h
    exact AnswerDocument.extends_of_insert AnswerDocument.designAnswers_recordAnswer
      (by simpa using hanswered)

lemma extends_of_promptSelection (h : promptSelection prompt block reached = .ok next) :
    next.1.Extends reached.1 := by
  obtain ⟨answers, s⟩ := reached
  rw [promptSelection] at h
  cases hprovider : block.sourceProvider with
  | none =>
    rw [hprovider] at h
    dsimp only at h
    obtain rfl := Except.ok.inj h
    exact AnswerDocument.Extends.refl _
  | some recommendedProviderId =>
    cases hkey : (block.answerKey <|> capabilityIdFromSelectionPath block.path) with
    | none =>
      rw [hprovider, hkey] at h
      dsimp only at h
      obtain rfl := Except.ok.inj h
      exact AnswerDocument.Extends.refl _
    | some capabilityId =>
      rw [hprovider, hkey] at h
      dsimp only at h
      split_ifs at h with hanswered
      · cases h
        exact AnswerDocument.Extends.refl _
      · refine extends_of_reply (fun response => ?_) h
        exact AnswerDocument.extends_of_recordSelection (Bool.not_eq_true _ ▸ hanswered)

lemma extends_of_promptBlock (h : promptBlock prompt reached block = .ok next) :
    next.1.Extends reached.1 := by
  rw [promptBlock] at h
  split_ifs at h
  · cases h
    exact AnswerDocument.Extends.refl _
  · exact extends_of_promptSelection h
  · cases hkey : block.answerKey with
    | none =>
      rw [hkey] at h
      cases h
      exact AnswerDocument.Extends.refl _
    | some answerKey =>
      rw [hkey] at h
      exact extends_of_promptAnswer h

theorem extends_of_prompts (h : blocks.foldlM (promptBlock prompt) reached = .ok next) :
    next.1.Extends reached.1 := by
  induction blocks generalizing reached with
  | nil =>
    cases h
    exact AnswerDocument.Extends.refl _
  | cons block blocks ih =>
    rw [List.foldlM_cons, except_bind_eq_ok] at h
    obtain ⟨middle, hblock, hblocks⟩ := h
    exact (ih hblocks).trans (extends_of_promptBlock hblock)

structure DwWizardQuestionBlock.AsksFor (block : DwWizardQuestionBlock) (answerKey : String) :
    Prop where
  key : block.answerKey = some answerKey
  selection : startsWith "provider.select." block.blockId = false
  topology : block.path ≠ "core.agent.topology"
  strategy : answerKey ≠ "provider_strategy"

structure Answered (prompt : String → σ → Except ε (String × σ)) (blocks : List DwWizardQuestionBlock)
    (start : AnswerDocument × σ) (block : DwWizardQuestionBlock) (answerKey response : String) :
    Prop where
  asks : block.AsksFor answerKey
  prompted : ∃ before after reached s, blocks = before ++ block :: after ∧
    before.foldlM (promptBlock prompt) start = .ok reached ∧
    reached.1.designAnswers.get answerKey = none ∧
    prompt (block.prompt.getD ("Enter value for " ++ answerKey ++ ": ")) reached.2 = .ok (response, s)

lemma promptBlock_of_asks {s : σ} (asks : block.AsksFor answerKey)
    (hnew : reached.1.designAnswers.get answerKey = none)
    (hprompt : prompt (block.prompt.getD ("Enter value for " ++ answerKey ++ ": ")) reached.2 =
      .ok (response, s))
    (nonblank : isBlank response = false) :
    promptBlock prompt reached block = .ok (reached.1.recordAnswer block answerKey response, s) := by
  have hskip : ¬(block.path = "core.agent.topology" ∨ block.answerKey = some "provider_strategy") := by
    rintro (hpath | hkey)
    · exact asks.topology hpath
    · exact asks.strategy (Option.some.inj (asks.key.symm.trans hkey))
  rw [promptBlock, if_neg hskip, if_neg (Bool.eq_false_iff.mp asks.selection), asks.key]
  simp [promptAnswer, hnew, hprompt, nonblank, bind, Except.bind, pure, Except.pure]

theorem get_of_answered {start final : AnswerDocument × σ}
    (answered : Answered prompt blocks start block answerKey response)
    (nonblank : isBlank response = false)
    (run : blocks.foldlM (promptBlock prompt) start = .ok final) :
    final.1.designAnswers.get answerKey = some (.string (trim response)) := by
  obtain ⟨before, after, reached, s, rfl, hbefore, hnew, hprompt⟩ := answered.prompted
  rw [List.foldlM_append, except_bind_eq_ok] at run
  obtain ⟨middle, hmiddle, hrest⟩ := run
  obtain rfl : reached = middle := Except.ok.inj (hbefore.symm.trans hmiddle)
  rw [List.foldlM_cons, promptBlock_of_asks answered.asks hnew hprompt nonblank] at hrest
  apply extends_of_prompts hrest
  rw [AnswerDocument.designAnswers_recordAnswer, SortedMap.get_insert, if_pos rfl]

end Flow

end GreenticDw

import GreenticDw.Wizard.AgentAddresses
import GreenticDw.Wizard.Review

namespace GreenticDw

open Text

namespace Text

def trimStartChars (pattern : List Char) : ℕ → List Char → List Char
  | 0, cs => cs
  | n + 1, cs =>
    if pattern.isPrefixOf cs then trimStartChars pattern n (cs.drop pattern.length) else cs

def trimStartMatches (pattern s : String) : String :=
  String.ofList (trimStartChars pattern.toList s.toList.length s.toList)

end Text

def DwWizardQuestionBlock.sourceProvider (block : DwWizardQuestionBlock) : Option String :=
  match block.source with
  | .provider providerId => some providerId
  | _ => none

def capabilityIdFromSelectionPath (path : String) : Option String :=
  (splitOnce ".selection." path).map fun (_, rest) =>
    let slug := ((splitOnce ".selection." rest).map Prod.fst).getD rest
    "cap://" ++ replace "." "/" slug

def QuestionScope.agentId : QuestionScope → Option String
  | .agent agentId => agentId
  | .provider _ agentId => agentId
  | _ => none

def QuestionScope.providerAgentId : QuestionScope → Option String
  | .provider _ agentId => agentId
  | _ => none

namespace AnswerDocument

variable (answers : AnswerDocument)

def upsertAgentAnswerDocument (agentId : String)
    (update : AgentAnswerDocument → AgentAnswerDocument) : AnswerDocument :=
  { answers with
    agentAnswers := answers.agentAnswers.insert agentId
      (update ((answers.agentAnswers.get agentId).getD ⟨∅, ∅⟩)) }

def insertDesignAnswer (key response : String) : AnswerDocument :=
  { answers with
    designAnswers := answers.designAnswers.insert key (.string (trim response)) }

def recordAnswer (block : DwWizardQuestionBlock) (answerKey response : String) : AnswerDocument :=
  let recorded :=
    match block.scope.agentId with
    | some agentId =>
      let scopedKey := trimStartMatches ("agent." ++ agentId ++ ".")
        (trimStartMatches (agentNumericAnswerPrefix agentId) answerKey)
      answers.upsertAgentAnswerDocument agentId fun document =>
        { document with
          designAnswers := document.designAnswers.insert scopedKey (.string (trim response)) }
    | none => answers
  recorded.insertDesignAnswer answerKey response

def hasSelection (scopeAgentId : Option String) (capabilityId : String) : Bool :=
  match scopeAgentId with
  | none => (answers.providerOverrides.get capabilityId).isSome
  | some _ => (answers.designAnswers.get capabilityId).isSome

def recordSelection (scopeAgentId : Option String) (capabilityId response : String) :
    AnswerDocument :=
  match scopeAgentId with
  | some agentId =>
    let scopedCapabilityId := trimStartMatches ("agent." ++ agentId ++ ".provider.")
      (trimStartMatches (agentNumericAnswerPrefix agentId ++ "provider.") capabilityId)
    (answers.upsertAgentAnswerDocument agentId fun document =>
      { document with
        providerOverrides := document.providerOverrides.insert scopedCapabilityId
          (trim response) }).insertDesignAnswer capabilityId response
  | none =>
    { answers with
      providerOverrides := answers.providerOverrides.insert capabilityId (trim response) }

end AnswerDocument

section Prompts

variable {σ ε : Type} (prompt : String → σ → Except ε (String × σ))

def promptReviewMode : AnswerDocument × σ → Except ε (AnswerDocument × σ)
  | (answers, s) =>
    if answers.reviewMode.isSome then .ok (answers, s)
    else do
      let (mode, s) ←
        prompt "Use the recommended setup and only answer required questions? [Y/n]: " s
      let normalized := toAsciiLowercase (trim mode)
      return ({ answers with
        reviewMode := some
          (if normalized = "n" ∨ normalized = "no" then .reviewAll else .recommended) }, s)

def promptTopology (template : DigitalWorkerTemplate) :
    AnswerDocument × σ → DwWizardQuestionBlock → Except ε (AnswerDocument × σ)
  | (answers, s), block =>
    if block.path = "core.agent.topology" ∧ answers.designAnswers.get "agent_count" = none ∧
        template.supportsMultiAgentAppPack then do
      let (response, s) ← prompt (block.prompt.getD "Enter agent count [1]: ") s
      return (if isBlank response ∨ trim response = "1" then answers
        else answers.insertDesignAnswer "agent_count" response, s)
    else if block.answerKey = some "provider_strategy" ∧
        answers.designAnswers.get "provider_strategy" = none then do
      let (response, s) ←
        prompt (block.prompt.getD "Use shared providers across agents? [Y/n]: ") s
      return (if isBlank response then answers
        else answers.insertDesignAnswer "provider_strategy" response, s)
    else .ok (answers, s)

def promptSelection (block : DwWizardQuestionBlock) :
    AnswerDocument × σ → Except ε (AnswerDocument × σ)
  | (answers, s) =>
    match block.sourceProvider, block.answerKey <|> capabilityIdFromSelectionPath block.path with
    | some recommendedProviderId, some capabilityId =>
      let scopeAgentId := block.scope.providerAgentId
      if answers.hasSelection scopeAgentId capabilityId then .ok (answers, s)
      else do
        let (response, s) ← prompt (block.prompt.getD ("Provider override for " ++ capabilityId ++
          " (Enter to keep " ++ recommendedProviderId ++ "): ")) s
        return (if isBlank response then answers
          else answers.recordSelection scopeAgentId capabilityId response, s)
    | _, _ => .ok (answers, s)

def promptAnswer (block : DwWizardQuestionBlock) (answerKey : String) :
    AnswerDocument × σ → Except ε (AnswerDocument × σ)
  | (answers, s) =>
    if (answers.designAnswers.get answerKey).isSome then .ok (answers, s)
    else do
      let (response, s) ← prompt (block.prompt.getD ("Enter value for " ++ answerKey ++ ": ")) s
      return (if isBlank response then answers else answers.recordAnswer block answerKey response, s)

def promptBlock (reached : AnswerDocument × σ) (block : DwWizardQuestionBlock) :
    Except ε (AnswerDocument × σ) :=
  if block.path = "core.agent.topology" ∨ block.answerKey = some "provider_strategy" then .ok reached
  else if startsWith "provider.select." block.blockId then promptSelection prompt block reached
  else
    match block.answerKey with
    | some answerKey => promptAnswer prompt block answerKey reached
    | none => .ok reached

variable (template : DigitalWorkerTemplate) (selectedTemplateEntry : Option TemplateCatalogEntry)
  (providerCatalog : Option DwProviderCatalog)

def visibleDesignBlocks (answers : AnswerDocument) : List DwWizardQuestionBlock :=
  let depth : QuestionDepthMode :=
    if answers.reviewMode = some .reviewAll then .reviewAll else .recommended
  (buildQuestionAssembly template selectedTemplateEntry providerCatalog).blocksFor .design depth false

/-- The first pass over the questions, after which the number of agents is settled, and the questions
of the second pass. -/
def promptLayout (start : AnswerDocument × σ) :
    Except ε (List DwWizardQuestionBlock × AnswerDocument × σ) := do
  let (answers, s) ← promptReviewMode prompt start
  let visible := visibleDesignBlocks template selectedTemplateEntry providerCatalog answers
  let reached ← visible.foldlM (promptTopology prompt template) (answers, s)
  return (resolveVisibleBlocksForOutput reached.1 template visible, reached)

def promptDesignFlow (start : AnswerDocument × σ) : Except ε (AnswerDocument × σ) := do
  let (blocks, reached) ← promptLayout prompt template selectedTemplateEntry providerCatalog start
  blocks.foldlM (promptBlock prompt) reached

end Prompts

end GreenticDw

import GreenticDw.Text.Json
import GreenticDw.Traced.Cells

namespace GreenticDw

structure ToolCall where
  id : String
  name : String
  arguments : Value

structure ToolDef where
  name : String
  description : String
  schema : Value

inductive ChatMessage where
  | system (content : String)
  | user (content : String)
  | assistantWithToolCalls (content : String) (toolCalls : List ToolCall)
  | toolResult (callId : String) (content : String)

structure ChatRequest where
  messages : List ChatMessage
  tools : List ToolDef
  toolChoice : Option String
  maxTokens : Option ℕ
  temperature : Option ℚ

structure ChatResponse where
  content : String
  toolCalls : List ToolCall

structure LlmError where
  message : String
  deriving DecidableEq, Repr

structure LlmProvider (σ : Type) where
  toolsSupported : Bool
  chat : ChatRequest → σ → Except LlmError ChatResponse × σ

def LlmProvider.through {σ τ : Type} (cell : Cell σ τ) (llm : LlmProvider τ) : LlmProvider σ where
  toolsSupported := llm.toolsSupported
  chat request := cell.through (llm.chat request)

structure Codec (α : Type) where
  schema : Option String
  encode : α → Option String
  decode : String → Except String α

namespace Llm

variable {σ α ε : Type}

/-- The text between the first opening and the last closing bracket. Both ends are character
boundaries, so the slice is always there. -/
def extractJson (reply : String) : String :=
  let cs := reply.toList
  let start := (Text.find (fun c => c = '\x7b' ∨ c = '[') cs).getD 0
  let stop := ((Text.rfind (fun c => c = '\x7d' ∨ c = ']') cs).map (· + 1)).getD (Text.byteLen cs)
  if start < stop then ((Text.slice cs start stop).map String.ofList).getD reply
  else reply

def jsonSchemaFor (codec : Codec α) : String := codec.schema.getD "\x7b\x7d"

def toStringPretty (codec : Codec α) (a : α) : String := (codec.encode a).getD "\x7b\x7d"

def completionRequest (system user : String) : ChatRequest where
  messages := [.system system, .user user]
  tools := []
  toolChoice := none
  maxTokens := some 4096
  temperature := some (1 / 5)

def completeJson (llm : LlmProvider σ) (codec : Codec α) (subject : String) (wrap : String → ε)
    (system user : String) (s : σ) : Except ε α × σ :=
  match llm.chat (completionRequest system user) s with
  | (.error e, s') => (.error (wrap e.message), s')
  | (.ok response, s') =>
    match codec.decode (extractJson response.content) with
    | .error e => (.error (wrap (subject ++ " LLM output not valid JSON: " ++ e)), s')
    | .ok a => (.ok a, s')

lemma completeJson_reply {llm : LlmProvider σ} {codec : Codec α} {subject : String}
    {wrap : String → ε} {system user text : String} {calls : List ToolCall} {s s' : σ} {a : α}
    (hchat : llm.chat (completionRequest system user) s = (.ok ⟨text, calls⟩, s'))
    (hdecode : codec.decode (extractJson text) = .ok a) :
    completeJson llm codec subject wrap system user s = (.ok a, s') := by
  simp only [completeJson, hchat, hdecode]

example : extractJson "```json\n[1, 2]\n``` done" = "[1, 2]" := by decide

end Llm

end GreenticDw

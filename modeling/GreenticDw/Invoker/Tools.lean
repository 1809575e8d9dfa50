import GreenticDw.DeepLoop.StepExecutor
import GreenticDw.Llm.Chat

namespace GreenticDw

open Text

structure ToolSpec where
  name : String
  description : String
  parameters : Value

structure DeepWorkerTools (σ : Type) where
  list : List ToolSpec
  call : String → Value → σ → Except String Value × σ

def DeepWorkerTools.through {σ τ : Type} (cell : Cell σ τ) (tools : DeepWorkerTools τ) :
    DeepWorkerTools σ where
  list := tools.list
  call name arguments := cell.through (tools.call name arguments)

def toolResultLimit : ℕ := 8 * 1024

def cachedRoundAllowance : ℕ := 3

def executorSystemPrompt : String :=
  "You are a deep worker carrying out ONE step of a plan. " ++
  "Use the available tools when they help you complete the step; call only the tools you are " ++
  "offered, with arguments matching their schemas. When the step is done — or you cannot make " ++
  "further progress — answer with a concise plain-text result of the step: the facts you found " ++
  "and anything you changed. Do not describe steps other than this one."

def budgetExhaustedResult : String :=
  "tool call budget exhausted for this step; answer with what you have"

def truncateMarked (text : String) (limit : ℕ) : String :=
  let cs := text.toList
  if byteLen cs ≤ limit then text
  else
    let cut := floorBoundary cs limit
    String.ofList ((sliceTo cs cut).getD []) ++ "…[truncated " ++ toString (byteLen cs - cut) ++
      " bytes]"

namespace Value

mutual
def sorted : Value → Value
  | array items => array (sortedItems items)
  | object fields =>
    object ((sortedFields fields).insertionSort fun a b => a.1 ≤ b.1)
  | value => value

def sortedItems : List Value → List Value
  | [] => []
  | item :: items => sorted item :: sortedItems items

def sortedFields : List (String × Value) → List (String × Value)
  | [] => []
  | (key, value) :: fields => (key, sorted value) :: sortedFields fields
end

end Value

def canonicalJson (value : Value) : String := value.sorted.toText

inductive CallOutcome where
  | ran (value : Value)
  | cached (value : Value)
  | failed (error : String)
  | overBudget

namespace CallOutcome

def status : CallOutcome → String
  | ran _ => "ok"
  | cached _ => "cached"
  | failed _ => "error"
  | overBudget => "skipped_budget"

def modelPayload : CallOutcome → Value
  | ran value => value
  | cached value => value
  | failed error => .object [("error", .string error)]
  | overBudget => .object [("error", .string budgetExhaustedResult)]

end CallOutcome

abbrev ToolCache := List ((String × String) × Value)

namespace ToolCache

def cached (key : String × String) (cache : ToolCache) : Option Value :=
  (cache.find? (·.1 = key)).map (·.2)

def remember (key : String × String) (value : Value) (cache : ToolCache) : ToolCache :=
  (key, value) :: cache

end ToolCache

example : canonicalJson (.object [("b", .number "1"), ("a", .object [("y", .null), ("x", .null)])]) =
    "\x7b\"a\":\x7b\"x\":null,\"y\":null\x7d,\"b\":1\x7d" := by decide +kernel

example : truncateMarked "ééééé" 3 = "é…[truncated 8 bytes]" := by decide +kernel

end GreenticDw

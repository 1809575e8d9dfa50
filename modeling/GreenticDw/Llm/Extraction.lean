import GreenticDw.Llm.Chat
import GreenticDw.Text.Between

/-! The JSON document that planning, delegation and reflection read out of a reply, each with a copy
of the extraction. -/

namespace GreenticDw

open Text

def LlmPlanning.extractJson (reply : String) : Option String :=
  between ['\x7b', '['] ['\x7d', ']'] reply

def LlmDelegation.extractJson (reply : String) : Option String :=
  between ['\x7b', '['] ['\x7d', ']'] reply

def LlmReflection.extractJson (reply : String) : Option String :=
  between ['\x7b', '['] ['\x7d', ']'] reply

lemma brackets_narrow : ∀ c ∈ ['\x7d', ']'], c.utf8Size = 1 := by
  intro c hc
  rw [List.mem_pair] at hc
  obtain rfl | rfl := hc
  · rfl
  · rfl

theorem extractJson_recovers :
    (∀ before document after : String,
      Framed ['\x7b', '['] ['\x7d', ']'] before document after →
        LlmPlanning.extractJson (before ++ document ++ after) = some document) ∧
    (∀ reply : String, ∃ before document after : String, reply = before ++ document ++ after ∧
      LlmPlanning.extractJson reply = some document ∧
      LlmPlanning.extractJson document = some document) ∧
    ∀ reply : String, LlmDelegation.extractJson reply = LlmPlanning.extractJson reply ∧
      LlmReflection.extractJson reply = LlmPlanning.extractJson reply := by
  refine ⟨?_, ?_, ?_⟩
  · intro before document after h
    exact between_of_framed brackets_narrow h
  · exact between_part brackets_narrow
  · intro reply
    exact ⟨rfl, rfl⟩

example : LlmPlanning.extractJson "1] or [2" = some "1] or [2" := by decide

namespace Llm

variable {σ α ε : Type}

lemma extractJson_eq (reply : String) :
    LlmPlanning.extractJson reply = some (extractJson reply) := by
  obtain ⟨-, document, -, -, hextract, -⟩ := between_part brackets_narrow reply
  have hopens : (fun c : Char => decide (c ∈ ['\x7b', '['])) =
      fun c => decide (c = '\x7b' ∨ c = '[') := by
    funext c
    simp
  have hcloses : (fun c : Char => decide (c ∈ ['\x7d', ']'])) =
      fun c => decide (c = '\x7d' ∨ c = ']') := by
    funext c
    simp
  rw [LlmPlanning.extractJson, hextract]
  simp only [between, startAt, stopAfter, hopens, hcloses] at hextract
  rw [extractJson]
  split_ifs at hextract ⊢ with hlt
  · rw [hextract]
    rfl
  · exact hextract.symm

theorem completeJson_framed {llm : LlmProvider σ} {codec : Codec α} {subject : String}
    {wrap : String → ε} {system user before document after : String} {calls : List ToolCall}
    {s s' : σ} {a : α} (h : Framed ['\x7b', '['] ['\x7d', ']'] before document after)
    (hchat : llm.chat (completionRequest system user) s =
      (.ok ⟨before ++ document ++ after, calls⟩, s'))
    (hdecode : codec.decode document = .ok a) :
    completeJson llm codec subject wrap system user s = (.ok a, s') := by
  have hextract : extractJson (before ++ document ++ after) = document := by
    have hsome := between_of_framed brackets_narrow h
    exact Option.some.inj ((extractJson_eq _).symm.trans hsome)
  apply completeJson_reply hchat
  rw [hextract]
  exact hdecode

end Llm

end GreenticDw

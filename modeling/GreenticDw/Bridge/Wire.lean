import GreenticDw.Bridge.Messages
import GreenticDw.Text.Records

namespace GreenticDw

open Value

def uint64Encoding : Encoding UInt64 where
  write n := ofNat n.toNat
  read v := (readNat (2 ^ 64) v).map UInt64.ofNat
  read_write n := by simp [readNat_ofNat n.toNat_lt]
  write_ne_null _ := nofun

namespace DispatchMode

def name : DispatchMode → String
  | await => "await"
  | fireAndForget => "fire_and_forget"

def variant : String → Option Value → Option DispatchMode
  | "await" => unitVariant await
  | "fire_and_forget" => unitVariant fireAndForget
  | _ => fun _ => none

def encoding : Encoding DispatchMode := .ofNames name variant (by intro a; cases a <;> rfl)

end DispatchMode

namespace RuntimeDispatchRequest

def write (req : RuntimeDispatchRequest) : Value :=
  object [
    ("target", string req.target),
    ("operation", string req.operation),
    ("mode", DispatchMode.encoding.write req.mode),
    ("input", req.input),
    ("deadline_ms", ofOption uint64Encoding.write req.deadlineMs)]

def fields : FieldReader RuntimeDispatchRequest := do
  let target ← required readString "target"
  let operation ← required readString "operation"
  let mode ← required DispatchMode.encoding.read "mode"
  let input ← required some "input"
  let deadlineMs ← nullable uint64Encoding.read "deadline_ms"
  pure { target, operation, mode, input, deadlineMs }

def encoding : Encoding RuntimeDispatchRequest where
  write := write
  read := readStruct fields
  read_write a := by simp [readStruct_object, write, fields]
  write_ne_null _ := nofun

lemma readsOnly_fields :
    ReadsOnly ["target", "operation", "mode", "input", "deadline_ms"] fields := by
  refine (readsOnly_field (by simp)).bind fun _ => ?_
  refine (readsOnly_field (by simp)).bind fun _ => ?_
  refine (readsOnly_field (by simp)).bind fun _ => ?_
  refine (readsOnly_field (by simp)).bind fun _ => ?_
  exact (readsOnly_field (by simp)).bind fun _ => readsOnly_pure _

lemma wellFormed_write (req : RuntimeDispatchRequest) (h : req.input.WellFormed) :
    req.write.WellFormed := by
  have hdeadline : (ofOption uint64Encoding.write req.deadlineMs).WellFormed := by
    cases req.deadlineMs with
    | none => trivial
    | some n => exact wellFormed_ofNat _
  exact ⟨by simp, trivial, trivial, trivial, h, hdeadline, trivial⟩

end RuntimeDispatchRequest

namespace DispatchError

def write (error : DispatchError) : Value :=
  object [("code", string error.code), ("message", string error.message)]

def fields : FieldReader DispatchError := do
  let code ← required readString "code"
  let message ← required readString "message"
  pure { code, message }

def encoding : Encoding DispatchError where
  write := write
  read := readStruct fields
  read_write a := by simp [readStruct_object, write, fields]
  write_ne_null _ := nofun

end DispatchError

namespace RuntimeDispatchResponse

def write (response : RuntimeDispatchResponse) : Value :=
  object ([
    ("ok", bool response.ok),
    ("output", response.output),
    ("events", array response.events)] ++
    (response.error.map fun error => ("error", DispatchError.encoding.write error)).toList)

def fields : FieldReader RuntimeDispatchResponse := do
  let ok ← required readBool "ok"
  let output ← required some "output"
  let events ← defaulted [] (readArray some) "events"
  let error ← defaulted none (readOption DispatchError.encoding.read) "error"
  pure { ok, output, events, error }

def encoding : Encoding RuntimeDispatchResponse where
  write := write
  read := readStruct fields
  read_write a := by
    have hmapM : ∀ vs : List Value, vs.mapM some = some vs := by
      intro vs
      induction vs with
      | nil => rfl
      | cons v vs ih => simp [ih]
    obtain ⟨ok, output, events, error⟩ := a
    have herror := DispatchError.encoding.readOption_ofOption error
    cases error <;> simp_all [readStruct_object, write, fields, readArray, ofOption]
  write_ne_null _ := nofun

lemma readsOnly_fields : ReadsOnly ["ok", "output", "events", "error"] fields := by
  refine (readsOnly_field (by simp)).bind fun _ => ?_
  refine (readsOnly_field (by simp)).bind fun _ => ?_
  refine (readsOnly_field (by simp)).bind fun _ => ?_
  exact (readsOnly_field (by simp)).bind fun _ => readsOnly_pure _

lemma wellFormed_write (response : RuntimeDispatchResponse) (ho : response.output.WellFormed)
    (he : WellFormedItems response.events) : response.write.WellFormed := by
  obtain ⟨ok, output, events, _ | error⟩ := response
  · exact ⟨by simp, trivial, ho, he, trivial⟩
  · exact ⟨by simp, trivial, ho, he, ⟨by simp, trivial, trivial, trivial⟩, trivial⟩

end RuntimeDispatchResponse

end GreenticDw

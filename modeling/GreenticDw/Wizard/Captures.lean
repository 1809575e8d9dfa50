import GreenticDw.Manifest.Scopes
import GreenticDw.Text.Maps
import GreenticDw.Wizard.Answers

namespace GreenticDw

open Value

structure ExtensionToolSnapshot (μ : Type) extends ExtensionTool where
  outputSchemaJson : Option String
  agenticWorkerMetadata : μ

structure WizardAnswers (μ : Type) extends AnswerDocument where
  templateId : Option String
  team : Option String
  requestedLocale : Option String
  humanLocale : Option String
  workerDefaultLocale : String
  extensionTools : List (ExtensionToolSnapshot μ)

namespace DwResolutionMode

def name : DwResolutionMode → String
  | recommended => "recommended"
  | reviewAll => "review_all"

def variant : String → Option Value → Option DwResolutionMode
  | "recommended" => unitVariant recommended
  | "default" => unitVariant recommended
  | "review_all" => unitVariant reviewAll
  | "personalised" => unitVariant reviewAll
  | _ => fun _ => none

def encoding : Encoding DwResolutionMode := .ofNames name variant (by intro a; cases a <;> rfl)

end DwResolutionMode

namespace AgentAnswerDocument

def write (document : AgentAnswerDocument) : Value :=
  object (present [
    ("provider_overrides",
      unlessEmpty document.providerOverrides (ofMap string document.providerOverrides)),
    ("design_answers", unlessEmpty document.designAnswers (ofMap id document.designAnswers))])

def fields : FieldReader AgentAnswerDocument := do
  let providerOverrides ← defaulted ∅ (readMap readString) "provider_overrides"
  let designAnswers ← defaulted ∅ (readMap some) "design_answers"
  pure { providerOverrides, designAnswers }

def encoding : Encoding AgentAnswerDocument where
  write := write
  read := readStruct fields
  read_write a := by
    have hoverrides := @read_unlessEmpty String string readString fun _ => rfl
    have hdesign := @read_unlessEmpty Value id some fun _ => rfl
    simp [readStruct_object, write, fields, hoverrides, hdesign]
  write_ne_null _ := nofun

lemma wellFormed_write {document : AgentAnswerDocument}
    (h : ∀ entry ∈ document.designAnswers.entries, entry.2.WellFormed) :
    document.write.WellFormed := by
  apply wellFormed_present (by simp)
  simp only [List.forall_mem_cons]
  refine ⟨forall_mem_unlessEmpty (wellFormed_ofMap fun _ _ => trivial),
    forall_mem_unlessEmpty (wellFormed_ofMap h), by simp⟩

end AgentAnswerDocument

namespace ExtensionToolSnapshot

variable {μ : Type} (metadata : Encoding μ)

def write (tool : ExtensionToolSnapshot μ) : Value :=
  object (present [
    ("extension_id", some (string tool.extensionId)),
    ("extension_version", some (string tool.extensionVersion)),
    ("tool_name", some (string tool.toolName)),
    ("description", some (string tool.description)),
    ("input_schema_json", some (string tool.inputSchemaJson)),
    ("output_schema_json", tool.outputSchemaJson.map string),
    ("capabilities", some (ofList string tool.capabilities)),
    ("agentic_worker_metadata", some (metadata.write tool.agenticWorkerMetadata))])

def fields : FieldReader (ExtensionToolSnapshot μ) := do
  let extensionId ← required readString "extension_id"
  let extensionVersion ← required readString "extension_version"
  let toolName ← required readString "tool_name"
  let description ← required readString "description"
  let inputSchemaJson ← required readString "input_schema_json"
  let outputSchemaJson ← defaulted none (readOption readString) "output_schema_json"
  let capabilities ← required (readArray readString) "capabilities"
  let agenticWorkerMetadata ← required metadata.read "agentic_worker_metadata"
  pure { extensionId, extensionVersion, toolName, description, inputSchemaJson, outputSchemaJson,
         capabilities, agenticWorkerMetadata }

def encoding : Encoding (ExtensionToolSnapshot μ) where
  write := write metadata
  read := readStruct (fields metadata)
  read_write a := by
    have hcapabilities := @readArray_ofList String string readString (fun _ => rfl) a.capabilities
    have houtput : ∀ o : Option String,
        (o.map string).elim (some none) (readOption readString) = some o := by
      intro o
      cases o <;> rfl
    simp [readStruct_object, write, fields, hcapabilities, houtput]
  write_ne_null _ := nofun

lemma wellFormed_write {tool : ExtensionToolSnapshot μ}
    (h : (metadata.write tool.agenticWorkerMetadata).WellFormed) :
    (tool.write metadata).WellFormed := by
  apply wellFormed_present (by simp)
  have hcapabilities : (ofList string tool.capabilities).WellFormed :=
    wellFormed_ofList fun _ _ => trivial
  simp [WellFormed, hcapabilities, h]

end ExtensionToolSnapshot

namespace WizardAnswers

variable {μ : Type} (metadata : Encoding μ)

def entries (answers : WizardAnswers μ) : List (String × Option Value) := [
    ("manifest_id", some (string answers.manifestId)),
    ("display_name", some (string answers.displayName)),
    ("manifest_version", some (string answers.manifestVersion)),
    ("tenant", some (string answers.tenant)),
    ("template_id", answers.templateId.map string),
    ("review_mode", answers.reviewMode.map DwResolutionMode.encoding.write),
    ("provider_overrides",
      unlessEmpty answers.providerOverrides (ofMap string answers.providerOverrides)),
    ("design_answers", unlessEmpty answers.designAnswers (ofMap id answers.designAnswers)),
    ("agent_answers",
      unlessEmpty answers.agentAnswers (ofMap AgentAnswerDocument.write answers.agentAnswers)),
    ("team", some (ofOption string answers.team)),
    ("requested_locale", some (ofOption string answers.requestedLocale)),
    ("human_locale", some (ofOption string answers.humanLocale)),
    ("worker_default_locale", some (string answers.workerDefaultLocale)),
    ("extension_tools",
      if answers.extensionTools.isEmpty then none
      else some (ofList (ExtensionToolSnapshot.write metadata) answers.extensionTools))]

def write (answers : WizardAnswers μ) : Value := object (present (answers.entries metadata))

def fields : FieldReader (WizardAnswers μ) := do
  let manifestId ← required readString "manifest_id"
  let displayName ← required readString "display_name"
  let manifestVersion ← required readString "manifest_version"
  let tenant ← required readString "tenant"
  let templateId ← defaulted none (readOption readString) "template_id"
  let reviewMode ← defaulted none (readOption DwResolutionMode.encoding.read) "review_mode"
  let providerOverrides ← defaulted ∅ (readMap readString) "provider_overrides"
  let designAnswers ← defaulted ∅ (readMap some) "design_answers"
  let agentAnswers ← defaulted ∅ (readMap AgentAnswerDocument.encoding.read) "agent_answers"
  let team ← nullable readString "team"
  let requestedLocale ← nullable readString "requested_locale"
  let humanLocale ← nullable readString "human_locale"
  let workerDefaultLocale ← required readString "worker_default_locale"
  let extensionTools ← defaulted []
    (readArray (ExtensionToolSnapshot.encoding metadata).read) "extension_tools"
  pure { manifestId, displayName, manifestVersion, tenant, templateId, reviewMode,
         providerOverrides, designAnswers, agentAnswers, team, requestedLocale, humanLocale,
         workerDefaultLocale, extensionTools }

def encoding : Encoding (WizardAnswers μ) where
  write := write metadata
  read := readStruct (fields metadata)
  read_write a := by
    have hname : ∀ o : Option String,
        (o.map string).elim (some none) (readOption readString) = some o := by
      intro o
      cases o <;> rfl
    have hmode : (a.reviewMode.map DwResolutionMode.encoding.write).elim (some none)
        (readOption DwResolutionMode.encoding.read) = some a.reviewMode := by
      cases a.reviewMode with
      | none => rfl
      | some mode => exact DwResolutionMode.encoding.readOption_ofOption (some mode)
    have hoverrides := @read_unlessEmpty String string readString fun _ => rfl
    have hdesign := @read_unlessEmpty Value id some fun _ => rfl
    have hagents := @read_unlessEmpty AgentAnswerDocument AgentAnswerDocument.write
      AgentAnswerDocument.encoding.read AgentAnswerDocument.encoding.read_write
    have htools : (if a.extensionTools.isEmpty then none else
        some (ofList (ExtensionToolSnapshot.write metadata) a.extensionTools)).elim (some [])
          (readArray (ExtensionToolSnapshot.encoding metadata).read) = some a.extensionTools := by
      split_ifs with hempty
      · rw [List.isEmpty_iff.mp hempty]
        rfl
      · exact readArray_ofList (ExtensionToolSnapshot.encoding metadata).read_write _
    have hn : ((a.entries metadata).map Prod.fst).Nodup := by simp [entries]
    apply Reads.readStruct
    unfold fields
    refine .bind (reads_present hn 0 rfl rfl) ?_
    refine .bind (reads_present hn 1 rfl rfl) ?_
    refine .bind (reads_present hn 2 rfl rfl) ?_
    refine .bind (reads_present hn 3 rfl rfl) ?_
    refine .bind (reads_present hn 4 rfl (hname _)) ?_
    refine .bind (reads_present hn 5 rfl hmode) ?_
    refine .bind (reads_present hn 6 rfl (hoverrides _)) ?_
    refine .bind (reads_present hn 7 rfl (hdesign _)) ?_
    refine .bind (reads_present hn 8 rfl (hagents _)) ?_
    refine .bind (reads_present hn 9 rfl (readOption_string _)) ?_
    refine .bind (reads_present hn 10 rfl (readOption_string _)) ?_
    refine .bind (reads_present hn 11 rfl (readOption_string _)) ?_
    refine .bind (reads_present hn 12 rfl rfl) ?_
    refine .bind (reads_present hn 13 rfl htools) ?_
    exact reads_pure _ _
  write_ne_null _ := nofun

structure Storable (answers : WizardAnswers μ) : Prop where
  design : ∀ entry ∈ answers.designAnswers.entries, entry.2.WellFormed
  agents : ∀ entry ∈ answers.agentAnswers.entries,
    ∀ own ∈ entry.2.designAnswers.entries, own.2.WellFormed
  tools : ∀ tool ∈ answers.extensionTools,
    (metadata.write tool.agenticWorkerMetadata).WellFormed

variable {metadata} in
lemma Storable.wellFormed {answers : WizardAnswers μ} (h : answers.Storable metadata) :
    (answers.write metadata).WellFormed := by
  apply wellFormed_present (by simp [entries])
  have hoverrides : (ofMap string answers.providerOverrides).WellFormed :=
    wellFormed_ofMap fun _ _ => trivial
  have hdesign : (ofMap id answers.designAnswers).WellFormed := wellFormed_ofMap h.design
  have hagents : (ofMap AgentAnswerDocument.write answers.agentAnswers).WellFormed :=
    wellFormed_ofMap fun entry hentry =>
      AgentAnswerDocument.wellFormed_write (h.agents entry hentry)
  have htools : (ofList (ExtensionToolSnapshot.write metadata) answers.extensionTools).WellFormed :=
    wellFormed_ofList fun tool htool => ExtensionToolSnapshot.wellFormed_write metadata
      (h.tools tool htool)
  have hmode : ∀ mode, (DwResolutionMode.encoding.write mode).WellFormed := fun _ => trivial
  have hoption : ∀ o : Option String, (ofOption string o).WellFormed := by
    intro o
    cases o <;> trivial
  simpa [entries, WellFormed, hmode, hoption, htools] using
    ⟨forall_mem_unlessEmpty hoverrides, forall_mem_unlessEmpty hdesign,
      forall_mem_unlessEmpty hagents⟩

def keys : List String := ["manifest_id", "display_name", "manifest_version", "tenant",
  "template_id", "review_mode", "provider_overrides", "design_answers", "agent_answers", "team",
  "requested_locale", "human_locale", "worker_default_locale", "extension_tools"]

lemma readsOnly_fields : ReadsOnly keys (fields metadata) := by
  iterate 14 refine (readsOnly_field (by simp [keys])).bind fun _ => ?_
  exact readsOnly_pure _

def noMetadata : Encoding Unit := ⟨fun _ => object [], fun _ => some (), fun _ => rfl, fun _ => nofun⟩

def deskAnswered : WizardAnswers Unit where
  manifestId := "dw.tone"
  displayName := "Tone"
  manifestVersion := "0.5"
  tenant := "tenant-a"
  templateId := some "dw.tone"
  reviewMode := some .recommended
  providerOverrides := ∅
  designAnswers := .ofEntries [("tone", .string "warm")]
  agentAnswers := ∅
  team := some "desk"
  requestedLocale := none
  humanLocale := none
  workerDefaultLocale := "en-US"
  extensionTools := []

lemma storable_deskAnswered : deskAnswered.Storable noMetadata where
  design entry hentry := by
    obtain rfl := List.mem_singleton.mp hentry
    trivial
  agents _ hentry := nomatch hentry
  tools _ htool := nomatch htool

end WizardAnswers

end GreenticDw

import GreenticDw.Catalog.Templates
import GreenticDw.Manifest.EmittedFiles
import GreenticDw.Manifest.TaskEnvelopes
import GreenticDw.Wizard.Captures
import GreenticDw.Wizard.DesignPrompts

/-! Runs of the wizard: from its arguments, the answers are collected, and a manifest is made of them
that is run or only reviewed. -/

namespace GreenticDw

open Files Text Value

structure WizardArgs where
  env : String
  answers : Option PathBuf
  emitAnswers : Bool
  emitManifest : Option PathBuf
  dryRun : Bool
  locale : String
  nonInteractive : Bool
  templateCatalog : Option PathBuf
  providerCatalog : Option PathBuf
  template : Option String
  reviewAll : Bool
  providerOverrides : List String
  manifestId : Option String
  displayName : Option String
  tenant : Option String
  team : Option String
  requestedLocale : Option String
  humanLocale : Option String

inductive DwProviderCatalogError where
  | read (path : String) (source : IoError)
  | parse (origin : String) (source : String)
  deriving DecidableEq, Repr

inductive WizardError (χ : Type) where
  | answersParse (path : String)
  | answersRead (path : String) (source : IoError)
  | answersFetch (url message : String)
  | insecureAnswersUrl (url : String)
  | invalidProviderOverride (value : String)
  | input (e : IoError)
  | templateCatalogPathRequired (usage : String)
  | templateCatalog (e : TemplateCatalogError)
  | providerCatalog (e : DwProviderCatalogError)
  | review (e : CliError)
  | manifest (e : ManifestValidationError χ)
  | runtime (e : RuntimeError)
  | emit (e : EmitError)

structure WizardHost (σ : Type) where
  files : FileSystem
  fetch : String → Except String String
  readLine : String → σ → Except IoError (String × σ)
  createDirAll : σ → PathBuf → Except IoError σ
  write : σ → PathBuf → String → Except IoError σ

structure WizardFormats (μ δ χ : Type) where
  metadata : Encoding μ
  templateCatalog : String → Except String (List TemplateCatalogEntry)
  template : String → Except String DigitalWorkerTemplate
  providerCatalog : String → Except String DwProviderCatalog
  displayName : TemplateCatalogEntry → String
  newCapabilityId : String → Option CapabilityId
  capabilities : δ
  validateCapabilities : δ → Except χ Unit
  parseJson : String → Except String Unit
  manifest : DigitalWorkerManifest δ → Except String String

inductive MsgKey where
  | manifestId
  | displayName
  | tenant
  | team
  | requestedLocale
  | humanLocale
  deriving DecidableEq, Repr

def localized (locale : String) (key : MsgKey) : String :=
  let lang := String.ofList (locale.toList.takeWhile fun c => c ≠ '-' ∧ c ≠ '_')
  if lang = "nl" then
    match key with
    | .manifestId => "Manifest-ID invoeren: "
    | .displayName => "Weergavenaam invoeren: "
    | .tenant => "Tenant invoeren: "
    | .team => "Team invoeren (optioneel): "
    | .requestedLocale => "Gevraagde locale invoeren (optioneel): "
    | .humanLocale => "Human locale invoeren (optioneel): "
  else
    match key with
    | .manifestId => "Enter manifest id: "
    | .displayName => "Enter display name: "
    | .tenant => "Enter tenant: "
    | .team => "Enter team (optional): "
    | .requestedLocale => "Enter requested locale (optional): "
    | .humanLocale => "Enter human locale (optional): "

def isRemoteAnswersUrl (value : String) : Bool := Text.startsWith "https://" value

def isInsecureHttpUrl (value : String) : Bool := Text.startsWith "http://" value

def parseProviderOverride {χ : Type} (value : String) : Except (WizardError χ) (String × String) :=
  match splitOnce "=" value with
  | none => .error (.invalidProviderOverride value)
  | some (capabilityId, providerId) =>
    if isBlank capabilityId ∨ isBlank providerId then .error (.invalidProviderOverride value)
    else .ok (trim capabilityId, trim providerId)

namespace WizardAnswers

variable {μ χ : Type}

def empty : WizardAnswers μ where
  manifestId := ""
  displayName := ""
  manifestVersion := "0.5"
  tenant := ""
  templateId := none
  reviewMode := none
  providerOverrides := ∅
  designAnswers := ∅
  agentAnswers := ∅
  team := none
  requestedLocale := none
  humanLocale := none
  workerDefaultLocale := "en-US"
  extensionTools := []

def applyDefault (answers : WizardAnswers μ) (entry : String × Value) : WizardAnswers μ :=
  match entry.1, entry.2.asStr with
  | "manifest_id", some v =>
    if isBlank answers.manifestId then { answers with manifestId := v } else answers
  | "display_name", some v =>
    if isBlank answers.displayName then { answers with displayName := v } else answers
  | "manifest_version", some v =>
    if isBlank answers.manifestVersion then { answers with manifestVersion := v } else answers
  | "tenant", some v =>
    if isBlank answers.tenant then { answers with tenant := v } else answers
  | "agent_count", some v =>
    if (answers.designAnswers.get "agent_count").isNone then
      { answers with designAnswers := answers.designAnswers.insert "agent_count" (.string v) }
    else answers
  | "team", some v => if answers.team.isNone then { answers with team := some v } else answers
  | "requested_locale", some v =>
    if answers.requestedLocale.isNone then { answers with requestedLocale := some v } else answers
  | "human_locale", some v =>
    if answers.humanLocale.isNone then { answers with humanLocale := some v } else answers
  | "worker_default_locale", some v =>
    if isBlank answers.workerDefaultLocale then { answers with workerDefaultLocale := v }
    else answers
  | _, _ => answers

def applyTemplateDefaults (answers : WizardAnswers μ) (template : DigitalWorkerTemplate) :
    WizardAnswers μ :=
  let answers :=
    if isBlank answers.manifestId then { answers with manifestId := template.metadata.id }
    else answers
  let answers :=
    if answers.templateId.isNone then { answers with templateId := some template.metadata.id }
    else answers
  let answers :=
    if isBlank answers.displayName then { answers with displayName := template.metadata.name }
    else answers
  template.defaults.values.entries.foldl applyDefault answers

def applyOverrides (answers : WizardAnswers μ) (args : WizardArgs) :
    Except (WizardError χ) (WizardAnswers μ) := do
  let overrides ← args.providerOverrides.mapM parseProviderOverride
  return { answers with
    manifestId := args.manifestId.getD answers.manifestId
    displayName := args.displayName.getD answers.displayName
    tenant := args.tenant.getD answers.tenant
    team := args.team <|> answers.team
    requestedLocale := args.requestedLocale <|> answers.requestedLocale
    humanLocale := args.humanLocale <|> answers.humanLocale
    reviewMode := if args.reviewAll then some .reviewAll else answers.reviewMode
    providerOverrides := overrides.foldl (fun m entry => m.insert entry.1 entry.2)
      answers.providerOverrides }

def buildManifest {δ : Type} (answers : WizardAnswers μ) (capabilities : δ) :
    DigitalWorkerManifest δ where
  version := manifestSchemaVersion
  id := answers.manifestId
  displayName := answers.displayName
  workerVersion := some answers.manifestVersion
  capabilities := capabilities
  tenancy := ⟨answers.tenant, .optional answers.team true⟩
  locale := ⟨answers.workerDefaultLocale, .preferRequested, .propagateToDelegates, .matchRequested⟩
  deepAgent := none
  extensionTools := answers.extensionTools.map ExtensionToolSnapshot.toExtensionTool

end WizardAnswers

structure SelectedTemplate where
  templateId : String
  template : DigitalWorkerTemplate
  entry : Option TemplateCatalogEntry

structure CollectedAnswers (μ : Type) where
  answers : WizardAnswers μ
  selected : Option SelectedTemplate
  providerCatalog : Option DwProviderCatalog

inductive WizardData where
  | dryRun (data : DryRunData)
  | executed (finalState : TaskLifecycleState) (events : List RuntimeOperation)

structure PrintedOutput (μ : Type) where
  contractVersion : String
  command : String
  mode : String
  env : String
  answers : Option (WizardAnswers μ)
  data : WizardData
  selectedTemplate : Option (String × String × Bool)

namespace WizardArgs

def discoverStarterCatalogPath (files : FileSystem) (relative : String) : Option PathBuf :=
  let candidate := join "examples" relative
  match files.canonicalize candidate with
  | .ok _ => some candidate
  | .error _ => none

variable (args : WizardArgs) (files : FileSystem)

def templateCatalogPath : Option PathBuf :=
  if args.nonInteractive then args.templateCatalog
  else args.templateCatalog <|> discoverStarterCatalogPath files "templates/catalog.json"

def providerCatalogPath : Option PathBuf :=
  if args.nonInteractive then args.providerCatalog
  else args.providerCatalog <|> discoverStarterCatalogPath files "providers/catalog.json"

end WizardArgs

section Selection

variable {σ μ δ χ : Type} (formats : WizardFormats μ δ χ) (host : WizardHost σ) (args : WizardArgs)

def WizardHost.prompt (message : String) (s : σ) : Except IoError (String × σ) := do
  let (line, s) ← host.readLine message s
  return (trim line, s)

def answersText (path : PathBuf) : Except (WizardError χ) String :=
  if isRemoteAnswersUrl path then (host.fetch path).mapError (.answersFetch path)
  else if isInsecureHttpUrl path then .error (.insecureAnswersUrl path)
  else (host.files.readToString path).mapError (.answersRead path)

def loadAnswers (path : PathBuf) : Except (WizardError χ) (WizardAnswers μ) := do
  let raw ← answersText host path
  match (JsonReader.read raw).bind (WizardAnswers.encoding formats.metadata).read with
  | some answers => return answers
  | none => throw (.answersParse path)

def loadTemplateCatalog (files : FileSystem) (path : PathBuf) :
    Except (WizardError χ) TemplateCatalog :=
  ((TemplateCatalog.fromJsonPath formats.templateCatalog path).run files).result.mapError
    .templateCatalog

def selectTemplate (files : FileSystem) (catalog : TemplateCatalog) (templateId : String) :
    Except (WizardError χ) SelectedTemplate := do
  let template ← ((catalog.resolveTemplate formats.template templateId).run files).result.mapError
    .templateCatalog
  return ⟨templateId, template, catalog.find templateId⟩

def selectTemplateFrom (files : FileSystem) (path : PathBuf) (templateId : String) :
    Except (WizardError χ) SelectedTemplate := do
  let catalog ← loadTemplateCatalog formats files path
  selectTemplate formats files catalog templateId

def loadProviderCatalog (files : FileSystem) (path : PathBuf) :
    Except (WizardError χ) DwProviderCatalog := do
  let contents ← (files.readToString path).mapError fun e => .providerCatalog (.read path e)
  (formats.providerCatalog contents).mapError fun e => .providerCatalog (.parse path e)

def templateSelectionLine (index : ℕ) (entry : TemplateCatalogEntry) : String :=
  toString (index + 1) ++ ". " ++ formats.displayName entry ++ " (" ++ entry.templateId ++ ")\n"

def promptTemplateSelection (catalog : TemplateCatalog) (s : σ) :
    Except IoError (Option String × σ) :=
  if catalog.entries.isEmpty then .ok (none, s)
  else do
    let lines := (catalog.entries.zipIdx.map fun (entry, index) =>
      templateSelectionLine formats index entry).foldl (· ++ ·) ""
    let (response, s) ← host.prompt
      ("Select a digital worker template:\n" ++ lines ++ "Enter template number [1]: ") s
    let trimmed := trim response
    let selectedIndex := if trimmed.isEmpty then 0 else (parseUsize trimmed).getD 0 - 1
    return ((catalog.entries[selectedIndex]? <|> catalog.entries.head?).map
      TemplateCatalogEntry.templateId, s)

def selectedTemplate (s : σ) : Except (WizardError χ) (Option SelectedTemplate × σ) :=
  match args.template, args.templateCatalogPath host.files with
  | some _, none => .error (.templateCatalogPathRequired "--template")
  | some templateId, some path => do
    let selected ← selectTemplateFrom formats host.files path templateId
    return (some selected, s)
  | none, some path =>
    if args.nonInteractive then .ok (none, s)
    else do
      let catalog ← loadTemplateCatalog formats host.files path
      let (chosen, s) ← (promptTemplateSelection formats host catalog s).mapError .input
      match chosen with
      | some templateId => do
        let selected ← selectTemplate formats host.files catalog templateId
        return (some selected, s)
      | none => return (none, s)
  | none, none => .ok (none, s)

def selectedProviders : Except (WizardError χ) (Option DwProviderCatalog) := do
  let catalog ← (args.providerCatalogPath host.files).mapM (loadProviderCatalog formats host.files)
  return catalog.map fun catalog =>
    catalog.filterBySuitability (DwProviderEnvironmentSuitability.fromStr args.env)

end Selection

section Run

variable {σ μ δ χ : Type} (formats : WizardFormats μ δ χ) (host : WizardHost σ) (args : WizardArgs)

def promptBlank (key : MsgKey) (current : String) (s : σ) : Except IoError (String × σ) :=
  if isBlank current then host.prompt (localized args.locale key) s else .ok (current, s)

def promptAbsent (key : MsgKey) (current : Option String) (s : σ) :
    Except IoError (Option String × σ) :=
  match current with
  | some v => .ok (some v, s)
  | none => do
    let (v, s) ← host.prompt (localized args.locale key) s
    return (if isBlank v then none else some v, s)

def promptIfMissing (answers : WizardAnswers μ) (s : σ) :
    Except IoError (WizardAnswers μ × σ) := do
  let (manifestId, s) ← promptBlank host args .manifestId answers.manifestId s
  let (displayName, s) ← promptBlank host args .displayName answers.displayName s
  let (tenant, s) ← promptBlank host args .tenant answers.tenant s
  let (team, s) ← promptAbsent host args .team answers.team s
  let (requestedLocale, s) ← promptAbsent host args .requestedLocale answers.requestedLocale s
  let (humanLocale, s) ← promptAbsent host args .humanLocale answers.humanLocale s
  return ({ answers with
    manifestId := manifestId
    displayName := displayName
    tenant := tenant
    team := team
    requestedLocale := requestedLocale
    humanLocale := humanLocale }, s)

def promptDesign (selected : Option SelectedTemplate) (providerCatalog : Option DwProviderCatalog)
    (answers : WizardAnswers μ) (s : σ) : Except IoError (WizardAnswers μ × σ) :=
  match selected with
  | none => .ok (answers, s)
  | some selected => do
    let (asked, s) ← promptDesignFlow host.prompt selected.template selected.entry providerCatalog
      (answers.toAnswerDocument, s)
    return ({ answers with toAnswerDocument := asked }, s)

def promptAll (selected : Option SelectedTemplate) (providerCatalog : Option DwProviderCatalog)
    (answers : WizardAnswers μ) (s : σ) : Except IoError (WizardAnswers μ × σ) :=
  if args.nonInteractive then .ok (answers, s)
  else do
    let (answers, s) ← promptDesign host selected providerCatalog answers s
    promptIfMissing host args answers s

def collectAnswers (s : σ) : Except (WizardError χ) (CollectedAnswers μ × σ) := do
  let given ← args.answers.mapM (loadAnswers formats host)
  let (selected, s) ← selectedTemplate formats host args s
  let defaulted := selected.elim (given.getD .empty) fun selected =>
    (given.getD .empty).applyTemplateDefaults selected.template
  let providerCatalog ← selectedProviders formats host args
  let overridden ← defaulted.applyOverrides args
  let (answers, s) ← (promptAll host args selected providerCatalog overridden s).mapError .input
  return (⟨answers, selected, providerCatalog⟩, s)

def executingRuntime : DwRuntime Unit :=
  ⟨StaticEngine Unit (.batch [.start, .complete]), ⟨[], []⟩, none⟩

def execute (envelope : TaskEnvelope) : Except (WizardError χ) WizardData := do
  let o := executingRuntime.tick.run ⟨(), envelope⟩
  let events ← o.result.mapError .runtime
  return .executed o.world.envelope.state (events.map (·.operation))

def wizardData (collected : CollectedAnswers μ) (envelope : TaskEnvelope) :
    Except (WizardError χ) WizardData :=
  if args.dryRun then do
    let output ← (buildDryRunOutput formats.newCapabilityId collected.answers.toAnswerDocument
      (collected.selected.bind (·.entry)) collected.providerCatalog collected.answers.manifestId
      envelope args.env (collected.selected.map (·.template)) args.emitAnswers).mapError .review
    return .dryRun output.data
  else execute envelope

def emitManifest (answers : WizardAnswers μ) (s : σ) : Except (WizardError χ) σ :=
  match args.emitManifest with
  | none => .ok s
  | some dir => ((emitManifestFile host.createDirAll host.write formats.manifest s
      (answers.buildManifest formats.capabilities) dir).map Prod.snd).mapError .emit

def concludeRun (collected : CollectedAnswers μ) (s : σ) :
    Except (WizardError χ) (PrintedOutput μ × σ) := do
  let answers := collected.answers
  let manifest := answers.buildManifest formats.capabilities
  (manifest.validate formats.validateCapabilities formats.parseJson).mapError .manifest
  let s ← emitManifest formats host args answers s
  let envelope ← (manifest.toTaskEnvelope formats.validateCapabilities formats.parseJson
    (answers.manifestId ++ "-task") answers.manifestId ⟨answers.tenant, answers.team⟩
    answers.requestedLocale answers.humanLocale).mapError .manifest
  let data ← wizardData formats args collected envelope
  return ({
    contractVersion := "greentic-dw-cli/v1"
    command := "wizard"
    mode := if args.dryRun then "dry_run" else "execute"
    env := args.env
    answers := if args.emitAnswers then some answers else none
    data := data
    selectedTemplate := collected.selected.map fun selected =>
      (selected.template.metadata.id, selected.template.metadata.name,
        selected.template.supportsMultiAgentAppPack) }, s)

def runWizard (s : σ) : Except (WizardError χ) (PrintedOutput μ × σ) := do
  let (collected, s) ← collectAnswers formats host args s
  concludeRun formats host args collected s

end Run

end GreenticDw

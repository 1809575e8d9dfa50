import GreenticDw.Wizard.Responses
import GreenticDw.Wizard.Runs

/-! Runs that are repeated from the answers that they captured. What a run fills in, it does not fill
in again. -/

namespace GreenticDw

open Files Text Value

namespace WizardAnswers

variable {μ χ : Type} {answers later earlier : WizardAnswers μ} {entry : String × Value}

def has (answers : WizardAnswers μ) : String → Bool
  | "agent_count" => (answers.designAnswers.get "agent_count").isSome
  | "team" => answers.team.isSome
  | "requested_locale" => answers.requestedLocale.isSome
  | "human_locale" => answers.humanLocale.isSome
  | _ => true

structure Grown (later earlier : WizardAnswers μ) : Prop where
  templateId : earlier.templateId.isSome → later.templateId.isSome
  has : ∀ key, earlier.has key → later.has key

lemma Grown.refl (answers : WizardAnswers μ) : answers.Grown answers := ⟨id, fun _ => id⟩

lemma Grown.trans {first second third : WizardAnswers μ} (h : third.Grown second)
    (h' : second.Grown first) : third.Grown first where
  templateId hfirst := h.templateId (h'.templateId hfirst)
  has key hfirst := h.has key (h'.has key hfirst)

lemma grown_of_fields (htemplate : earlier.templateId.isSome → later.templateId.isSome)
    (hcount : (earlier.designAnswers.get "agent_count").isSome →
      (later.designAnswers.get "agent_count").isSome)
    (hteam : earlier.team.isSome → later.team.isSome)
    (hrequested : earlier.requestedLocale.isSome → later.requestedLocale.isSome)
    (hhuman : earlier.humanLocale.isSome → later.humanLocale.isSome) : later.Grown earlier := by
  refine ⟨htemplate, fun key hkey => ?_⟩
  unfold WizardAnswers.has at hkey ⊢
  split <;> simp_all

structure Named (answers : WizardAnswers μ) : Prop where
  manifestId : isBlank answers.manifestId = false
  displayName : isBlank answers.displayName = false
  manifestVersion : isBlank answers.manifestVersion = false
  tenant : isBlank answers.tenant = false
  workerDefaultLocale : isBlank answers.workerDefaultLocale = false

section Defaults

lemma applyDefault_grown (answers : WizardAnswers μ) (entry : String × Value) :
    (answers.applyDefault entry).Grown answers := by
  unfold applyDefault
  split <;> (try split_ifs) <;> apply grown_of_fields <;> simp_all

lemma has_applyDefault {v : String} (h : entry.2.asStr = some v) :
    (answers.applyDefault entry).has entry.1 := by
  unfold applyDefault
  split <;> (try split_ifs) <;> simp_all [has, Option.isSome_iff_ne_none]

lemma applyDefault_eq_self (hn : answers.Named)
    (h : ∀ v, entry.2.asStr = some v → answers.has entry.1) : answers.applyDefault entry = answers := by
  obtain ⟨hid, hname, hversion, htenant, hlocale⟩ := hn
  unfold applyDefault
  split <;> simp_all [has, Option.isSome_iff_ne_none]

lemma foldl_applyDefault_grown (entries : List (String × Value)) (answers : WizardAnswers μ) :
    (entries.foldl applyDefault answers).Grown answers := by
  induction entries generalizing answers with
  | nil => exact Grown.refl _
  | cons entry entries ih => exact (ih _).trans (answers.applyDefault_grown entry)

lemma has_foldl_applyDefault {entries : List (String × Value)} {v : String}
    (hmem : entry ∈ entries) (h : entry.2.asStr = some v) :
    (entries.foldl applyDefault answers).has entry.1 := by
  induction entries generalizing answers with
  | nil => cases hmem
  | cons first entries ih =>
    rw [List.foldl_cons]
    rcases List.mem_cons.mp hmem with rfl | hmem
    · exact (foldl_applyDefault_grown entries _).has _ (has_applyDefault h)
    · exact ih hmem

variable {template : DigitalWorkerTemplate}

structure Settled (template : DigitalWorkerTemplate) (answers : WizardAnswers μ) : Prop where
  templateId : answers.templateId.isSome
  defaults : ∀ entry ∈ template.defaults.values.entries, ∀ v, entry.2.asStr = some v →
    answers.has entry.1

lemma applyTemplateDefaults_settled (answers : WizardAnswers μ) (template : DigitalWorkerTemplate) :
    (answers.applyTemplateDefaults template).Settled template where
  templateId := by
    apply (foldl_applyDefault_grown _ _).templateId
    split_ifs <;> simp_all [Option.isSome_iff_ne_none]
  defaults entry hentry v hv := has_foldl_applyDefault hentry hv

lemma Settled.mono (hs : earlier.Settled template) (h : later.Grown earlier) :
    later.Settled template where
  templateId := h.templateId hs.templateId
  defaults entry hentry v hv := h.has _ (hs.defaults entry hentry v hv)

lemma foldl_applyDefault_eq_self {entries : List (String × Value)} (hn : answers.Named)
    (h : ∀ entry ∈ entries, ∀ v, entry.2.asStr = some v → answers.has entry.1) :
    entries.foldl applyDefault answers = answers := by
  induction entries with
  | nil => rfl
  | cons entry entries ih =>
    rw [List.forall_mem_cons] at h
    rw [List.foldl_cons, applyDefault_eq_self hn h.1]
    exact ih h.2

lemma applyTemplateDefaults_eq_self (hn : answers.Named) (hs : answers.Settled template) :
    answers.applyTemplateDefaults template = answers := by
  have hid : answers.templateId.isNone = false := by
    rw [Option.isNone_eq_false_iff]
    exact hs.templateId
  simp only [applyTemplateDefaults, hn.manifestId, hn.displayName, hid, Bool.false_eq_true, if_false]
  exact foldl_applyDefault_eq_self hn hs.defaults

end Defaults

lemma applyOverrides_grown {args : WizardArgs}
    (h : answers.applyOverrides args = (.ok later : Except (WizardError χ) _)) :
    later.Grown answers := by
  obtain ⟨overrides, -, hlater⟩ := except_bind_eq_ok.mp h
  obtain rfl := Except.ok.inj hlater
  apply grown_of_fields
  · exact id
  · exact id
  · cases args.team <;> simp
  · cases args.requestedLocale <;> simp
  · cases args.humanLocale <;> simp

end WizardAnswers

section Prompts

variable {σ ε μ : Type} {prompt : String → σ → Except ε (String × σ)}
  {template : DigitalWorkerTemplate} {selectedTemplateEntry : Option TemplateCatalogEntry}
  {providerCatalog : Option DwProviderCatalog} {reached next : AnswerDocument × σ}

lemma extends_of_promptReviewMode (h : promptReviewMode prompt reached = .ok next) :
    next.1.Extends reached.1 := by
  obtain ⟨answers, s⟩ := reached
  rw [promptReviewMode] at h
  split_ifs at h
  · cases h
    exact AnswerDocument.Extends.refl _
  · obtain ⟨⟨mode, s'⟩, -, hnext⟩ := except_bind_eq_ok.mp h
    obtain rfl := Except.ok.inj hnext
    exact fun _ _ hget => hget

lemma extends_of_promptTopology {block : DwWizardQuestionBlock}
    (h : promptTopology prompt template reached block = .ok next) : next.1.Extends reached.1 := by
  obtain ⟨answers, s⟩ := reached
  rw [promptTopology] at h
  split_ifs at h with htopology hstrategy
  · obtain ⟨⟨response, s'⟩, -, hnext⟩ := except_bind_eq_ok.mp h
    obtain rfl := Except.ok.inj hnext
    dsimp only
    split_ifs
    · exact AnswerDocument.Extends.refl _
    · exact AnswerDocument.extends_of_insert rfl htopology.2.1
  · refine extends_of_reply (fun response => ?_) h
    exact AnswerDocument.extends_of_insert rfl hstrategy.2
  · cases h
    exact AnswerDocument.Extends.refl _

lemma extends_of_topologies {blocks : List DwWizardQuestionBlock}
    (h : blocks.foldlM (promptTopology prompt template) reached = .ok next) :
    next.1.Extends reached.1 := by
  induction blocks generalizing reached with
  | nil =>
    cases h
    exact AnswerDocument.Extends.refl _
  | cons block blocks ih =>
    rw [List.foldlM_cons, except_bind_eq_ok] at h
    obtain ⟨middle, hblock, hblocks⟩ := h
    exact (ih hblocks).trans (extends_of_promptTopology hblock)

lemma extends_of_promptDesignFlow
    (h : promptDesignFlow prompt template selectedTemplateEntry providerCatalog reached = .ok next) :
    next.1.Extends reached.1 := by
  rw [promptDesignFlow, except_bind_eq_ok] at h
  obtain ⟨⟨blocks, laid⟩, hlayout, hprompts⟩ := h
  rw [promptLayout, except_bind_eq_ok] at hlayout
  obtain ⟨⟨answers, s⟩, hmode, hlayout⟩ := hlayout
  obtain ⟨asked, htopology, hlaid⟩ := except_bind_eq_ok.mp hlayout
  obtain ⟨-, rfl⟩ := Prod.mk.inj (Except.ok.inj hlaid)
  exact (extends_of_prompts hprompts).trans
    ((extends_of_topologies htopology).trans (extends_of_promptReviewMode hmode))

variable {host : WizardHost σ} {args : WizardArgs} {key : MsgKey} {selected : Option SelectedTemplate}
  {answers later : WizardAnswers μ} {s s' : σ}

lemma promptDesign_grown
    (h : promptDesign host selected providerCatalog answers s = .ok (later, s')) :
    later.Grown answers := by
  cases selected with
  | none =>
    obtain ⟨rfl, -⟩ := Prod.mk.inj (Except.ok.inj h)
    exact .refl _
  | some selected =>
    obtain ⟨⟨asked, s₁⟩, hflow, hlater⟩ := except_bind_eq_ok.mp h
    obtain ⟨rfl, -⟩ := Prod.mk.inj (Except.ok.inj hlater)
    have hextends := extends_of_promptDesignFlow hflow
    refine WizardAnswers.grown_of_fields id (fun hcount => ?_) id id id
    obtain ⟨value, hvalue⟩ := Option.isSome_iff_exists.mp hcount
    exact Option.isSome_iff_exists.mpr ⟨value, hextends _ _ hvalue⟩

lemma isSome_of_promptAbsent {current found : Option String}
    (h : promptAbsent host args key current s = .ok (found, s')) (hc : current.isSome) :
    found.isSome := by
  cases current with
  | none => cases hc
  | some v =>
    obtain ⟨rfl, -⟩ := Prod.mk.inj (Except.ok.inj h)
    rfl

lemma promptIfMissing_grown (h : promptIfMissing host args answers s = .ok (later, s')) :
    later.Grown answers := by
  obtain ⟨⟨manifestId, s₁⟩, -, h⟩ := except_bind_eq_ok.mp h
  obtain ⟨⟨displayName, s₂⟩, -, h⟩ := except_bind_eq_ok.mp h
  obtain ⟨⟨tenant, s₃⟩, -, h⟩ := except_bind_eq_ok.mp h
  obtain ⟨⟨team, s₄⟩, hteam, h⟩ := except_bind_eq_ok.mp h
  obtain ⟨⟨requestedLocale, s₅⟩, hrequested, h⟩ := except_bind_eq_ok.mp h
  obtain ⟨⟨humanLocale, s₆⟩, hhuman, h⟩ := except_bind_eq_ok.mp h
  obtain ⟨rfl, -⟩ := Prod.mk.inj (Except.ok.inj h)
  exact WizardAnswers.grown_of_fields id id (isSome_of_promptAbsent hteam)
    (isSome_of_promptAbsent hrequested) (isSome_of_promptAbsent hhuman)

lemma promptAll_grown
    (h : promptAll host args selected providerCatalog answers s = .ok (later, s')) :
    later.Grown answers := by
  rw [promptAll] at h
  split_ifs at h
  · obtain ⟨rfl, -⟩ := Prod.mk.inj (Except.ok.inj h)
    exact .refl _
  · obtain ⟨⟨asked, s₁⟩, hdesign, hmissing⟩ := except_bind_eq_ok.mp h
    exact (promptIfMissing_grown hmissing).trans (promptDesign_grown hdesign)

end Prompts

section Runs

variable {σ μ δ χ : Type} {formats : WizardFormats μ δ χ} {host host' : WizardHost σ}
  {args : WizardArgs} {path : PathBuf} {collected : CollectedAnswers μ}
  {selected : Option SelectedTemplate} {answers : WizardAnswers μ} {s s' s₁ s₂ : σ}

def WizardArgs.replaying (args : WizardArgs) (files : FileSystem) (selected : Option SelectedTemplate)
    (path : PathBuf) : WizardArgs :=
  { args with
    answers := some path
    nonInteractive := true
    templateCatalog := args.templateCatalogPath files
    providerCatalog := args.providerCatalogPath files
    template := selected.map (·.templateId)
    reviewAll := false
    providerOverrides := []
    manifestId := none
    displayName := none
    tenant := none
    team := none
    requestedLocale := none
    humanLocale := none }

/-- The template and the providers of a run are found again as they were. -/
structure SameCatalogs (formats : WizardFormats μ δ χ) (files files' : FileSystem)
    (args : WizardArgs) (selected : Option SelectedTemplate) : Prop where
  templates : ∀ path, args.templateCatalogPath files = some path → ∀ template ∈ selected,
    selectTemplateFrom formats files' path template.templateId =
      selectTemplateFrom formats files path template.templateId
  providers : ∀ path, args.providerCatalogPath files = some path →
    loadProviderCatalog formats files' path = loadProviderCatalog formats files path

structure Collected (formats : WizardFormats μ δ χ) (host : WizardHost σ) (args : WizardArgs) (s : σ)
    (collected : CollectedAnswers μ) : Prop where
  selected : ∃ s₁, selectedTemplate formats host args s = .ok (collected.selected, s₁)
  providers : selectedProviders formats host args = .ok collected.providerCatalog
  settled : ∀ selected, collected.selected = some selected →
    collected.answers.Settled selected.template

lemma collected_of_collectAnswers
    (h : collectAnswers formats host args s = .ok (collected, s₁)) :
    Collected formats host args s collected := by
  obtain ⟨given, -, h⟩ := except_bind_eq_ok.mp h
  obtain ⟨⟨selected, s₂⟩, hselected, h⟩ := except_bind_eq_ok.mp h
  obtain ⟨providerCatalog, hproviders, h⟩ := except_bind_eq_ok.mp h
  obtain ⟨overridden, hoverridden, h⟩ := except_bind_eq_ok.mp h
  obtain ⟨⟨answers, s₃⟩, hprompted, h⟩ := except_bind_eq_ok.mp h
  obtain ⟨rfl, -⟩ := Prod.mk.inj (Except.ok.inj h)
  refine ⟨⟨s₂, hselected⟩, hproviders, fun template htemplate => ?_⟩
  obtain rfl : selected = some template := htemplate
  have hgrown := promptAll_grown (except_mapError_eq_ok.mp hprompted)
  exact ((WizardAnswers.applyTemplateDefaults_settled _ _).mono
    (WizardAnswers.applyOverrides_grown hoverridden)).mono hgrown

lemma templateId_of_selectTemplate {files : FileSystem} {catalog : TemplateCatalog}
    {templateId : String} {found : SelectedTemplate}
    (h : selectTemplate formats files catalog templateId = .ok found) :
    found.templateId = templateId := by
  obtain ⟨template, -, h⟩ := except_bind_eq_ok.mp h
  rw [← Except.ok.inj h]

lemma selectTemplateFrom_of_selected {template : SelectedTemplate}
    (h : selectedTemplate formats host args s = .ok (some template, s₁)) :
    ∃ path, args.templateCatalogPath host.files = some path ∧
      selectTemplateFrom formats host.files path template.templateId = .ok template := by
  rw [selectedTemplate] at h
  cases htemplate : args.template with
  | some templateId =>
    cases hpath : args.templateCatalogPath host.files with
    | none => simp [htemplate, hpath] at h
    | some path =>
      simp only [htemplate, hpath] at h
      obtain ⟨found, hfound, h⟩ := except_bind_eq_ok.mp h
      obtain ⟨hsome, -⟩ := Prod.mk.inj (Except.ok.inj h)
      obtain rfl := Option.some.inj hsome
      obtain ⟨catalog, hcatalog, hselect⟩ := except_bind_eq_ok.mp hfound
      obtain rfl := templateId_of_selectTemplate hselect
      exact ⟨path, rfl, hfound⟩
  | none =>
    cases hpath : args.templateCatalogPath host.files with
    | none => simp [htemplate, hpath] at h
    | some path =>
      simp only [htemplate, hpath] at h
      split_ifs at h
      · cases h
      · obtain ⟨catalog, hcatalog, h⟩ := except_bind_eq_ok.mp h
        obtain ⟨⟨chosen, s₂⟩, -, h⟩ := except_bind_eq_ok.mp h
        cases chosen with
        | none => simp at h
        | some templateId =>
          obtain ⟨found, hselect, h⟩ := except_bind_eq_ok.mp h
          obtain ⟨hsome, -⟩ := Prod.mk.inj (Except.ok.inj h)
          obtain rfl := Option.some.inj hsome
          obtain rfl := templateId_of_selectTemplate hselect
          exact ⟨path, rfl, except_bind_eq_ok.mpr ⟨catalog, hcatalog, hselect⟩⟩

lemma selectedTemplate_replaying
    (h : selectedTemplate formats host args s = .ok (selected, s₁))
    (same : SameCatalogs formats host.files host'.files args selected) :
    selectedTemplate formats host' (args.replaying host.files selected path) s' =
      .ok (selected, s') := by
  cases selected with
  | none =>
    rw [selectedTemplate]
    cases hpath : (args.replaying host.files none path).templateCatalogPath host'.files <;> rfl
  | some template =>
    obtain ⟨catalogPath, hpath, hselect⟩ := selectTemplateFrom_of_selected h
    have hfound := (same.templates catalogPath hpath template rfl).trans hselect
    have hreplayed : (args.replaying host.files (some template) path).templateCatalogPath
        host'.files = some catalogPath := hpath
    have hid : (args.replaying host.files (some template) path).template =
        some template.templateId := rfl
    rw [selectedTemplate, hreplayed, hid]
    exact except_bind_eq_ok.mpr ⟨template, hfound, rfl⟩

lemma selectedProviders_replaying
    (same : SameCatalogs formats host.files host'.files args selected) :
    selectedProviders formats host' (args.replaying host.files selected path) =
      selectedProviders formats host args := by
  have hpath : (args.replaying host.files selected path).providerCatalogPath host'.files =
      args.providerCatalogPath host.files := rfl
  have hload : (args.providerCatalogPath host.files).mapM (loadProviderCatalog formats host'.files) =
      (args.providerCatalogPath host.files).mapM (loadProviderCatalog formats host.files) := by
    cases hprovider : args.providerCatalogPath host.files with
    | none => rfl
    | some providerPath =>
      rw [Option.mapM_some, Option.mapM_some, same.providers providerPath hprovider]
  rw [selectedProviders, selectedProviders, hpath, hload]
  rfl

theorem collectAnswers_replaying
    (h : collectAnswers formats host args s = .ok (collected, s₁))
    (named : collected.answers.Named) (saved : loadAnswers formats host' path = .ok collected.answers)
    (same : SameCatalogs formats host.files host'.files args collected.selected) :
    collectAnswers formats host' (args.replaying host.files collected.selected path) s' =
      .ok (collected, s') := by
  obtain ⟨⟨s₂, hselected⟩, hproviders, hsettled⟩ := collected_of_collectAnswers h
  have hgiven : (args.replaying host.files collected.selected path).answers.mapM
      (loadAnswers formats host') = .ok (some collected.answers) := by
    change Option.mapM _ (some path) = _
    rw [Option.mapM_some, saved]
    rfl
  have hdefaults : collected.selected.elim collected.answers (fun selected =>
      collected.answers.applyTemplateDefaults selected.template) = collected.answers := by
    cases hs : collected.selected with
    | none => rfl
    | some selected =>
      exact WizardAnswers.applyTemplateDefaults_eq_self named (hsettled selected hs)
  have hoverrides : collected.answers.applyOverrides
      (args.replaying host.files collected.selected path) =
        (.ok collected.answers : Except (WizardError χ) _) := rfl
  rw [collectAnswers]
  refine except_bind_eq_ok.mpr ⟨_, hgiven, ?_⟩
  refine except_bind_eq_ok.mpr ⟨_, selectedTemplate_replaying hselected same, ?_⟩
  refine except_bind_eq_ok.mpr ⟨_, (selectedProviders_replaying same).trans hproviders, ?_⟩
  refine except_bind_eq_ok.mpr ⟨collected.answers, ?_, ?_⟩
  · rw [Option.getD_some, hdefaults, hoverrides]
  · refine except_bind_eq_ok.mpr ⟨(collected.answers, s'), rfl, rfl⟩

lemma named_of_validate {validateCapabilities : δ → Except χ Unit}
    {parseJson : String → Except String Unit} {capabilities : δ}
    (h : (answers.buildManifest capabilities).validate validateCapabilities parseJson = .ok ()) :
    answers.Named := by
  simp only [DigitalWorkerManifest.validate, LocaleContract.validate, except_bind_eq_ok,
    rejectIf_eq_ok, exists_const, Bool.not_eq_true] at h
  obtain ⟨-, -, hid, hname, hversion, htenant, -, -, -, ⟨hlocale, -⟩, -⟩ := h
  exact ⟨hid, hname, hversion, htenant, hlocale⟩

lemma of_concludeRun {printed : PrintedOutput μ}
    (h : concludeRun formats host args collected s = .ok (printed, s₁)) :
    collected.answers.Named ∧
      ∀ answers, printed.answers = some answers → collected.answers = answers := by
  obtain ⟨_, hvalid, h⟩ := except_bind_eq_ok.mp h
  obtain ⟨s₂, -, h⟩ := except_bind_eq_ok.mp h
  obtain ⟨envelope, -, h⟩ := except_bind_eq_ok.mp h
  obtain ⟨data, -, h⟩ := except_bind_eq_ok.mp h
  obtain ⟨rfl, -⟩ := Prod.mk.inj (Except.ok.inj h)
  refine ⟨named_of_validate (except_mapError_eq_ok.mp hvalid), fun answers hanswers => ?_⟩
  dsimp only at hanswers
  split_ifs at hanswers
  exact Option.some.inj hanswers

lemma concludeRun_replaying {printed : PrintedOutput μ}
    (h : concludeRun formats host args collected s = .ok (printed, s₁))
    (emitted : emitManifest formats host' args collected.answers s' = .ok s₂) :
    concludeRun formats host' (args.replaying host.files selected path) collected s' =
      .ok (printed, s₂) := by
  obtain ⟨_, hvalid, h⟩ := except_bind_eq_ok.mp h
  obtain ⟨s₃, -, h⟩ := except_bind_eq_ok.mp h
  obtain ⟨envelope, henvelope, h⟩ := except_bind_eq_ok.mp h
  obtain ⟨data, hdata, h⟩ := except_bind_eq_ok.mp h
  obtain ⟨rfl, -⟩ := Prod.mk.inj (Except.ok.inj h)
  refine except_bind_eq_ok.mpr ⟨(), hvalid, ?_⟩
  refine except_bind_eq_ok.mpr ⟨s₂, emitted, ?_⟩
  refine except_bind_eq_ok.mpr ⟨envelope, henvelope, ?_⟩
  exact except_bind_eq_ok.mpr ⟨data, hdata, rfl⟩

end Runs

open WizardAnswers (deskAnswered noMetadata storable_deskAnswered)

def deskFiles : FileSystem where
  node := FileSystem.nodeIn [([], .directory), (["srv"], .directory),
    (["srv", "catalog.json"], .file "[]"), (["srv", "tone.json"], .file "{}")]
  cwd := []
  root := by decide

def toneEntry : TemplateCatalogEntry where
  templateId := "dw.tone"
  sourceRef := ⟨.ofPath "tone.json"⟩

def deskHost (fetched : Option String) : WizardHost (List String) where
  files := deskFiles
  fetch _ := fetched.elim (.error "offline") .ok
  readLine _
    | [] => .error .notFound
    | line :: lines => .ok (line, lines)
  createDirAll lines _ := .ok lines
  write lines _ _ := .ok lines

def deskFormats : WizardFormats Unit Unit Empty where
  metadata := noMetadata
  templateCatalog _ := .ok [toneEntry]
  template _ := .ok toneTemplate
  providerCatalog _ := .ok ⟨[]⟩
  displayName entry := entry.templateId
  newCapabilityId := some
  capabilities := ()
  validateCapabilities _ := .ok ()
  parseJson _ := .ok ()
  manifest manifest := .ok manifest.id

def deskArgs : WizardArgs where
  env := "local"
  answers := none
  emitAnswers := true
  emitManifest := none
  dryRun := false
  locale := "en"
  nonInteractive := false
  templateCatalog := some "/srv/catalog.json"
  providerCatalog := none
  template := some "dw.tone"
  reviewAll := false
  providerOverrides := []
  manifestId := none
  displayName := none
  tenant := some "tenant-a"
  team := none
  requestedLocale := none
  humanLocale := none

def toneSelected : SelectedTemplate := ⟨"dw.tone", toneTemplate, some (toneEntry.rebased "/srv")⟩

def deskPrinted : PrintedOutput Unit where
  contractVersion := "greentic-dw-cli/v1"
  command := "wizard"
  mode := "execute"
  env := "local"
  answers := some deskAnswered
  data := .executed .completed [.start, .complete]
  selectedTemplate := some ("dw.tone", "Tone", false)

lemma collectAnswers_desk :
    collectAnswers deskFormats (deskHost none) deskArgs ["", "warm", "desk", "", ""] =
      .ok (⟨deskAnswered, some toneSelected, none⟩, []) := rfl

lemma execute_desk (envelope : TaskEnvelope) (h : envelope.state = .created) :
    (execute envelope : Except (WizardError Empty) _) =
      .ok (.executed .completed [.start, .complete]) := by
  cases envelope
  obtain rfl := h
  rfl

lemma concludeRun_desk :
    concludeRun deskFormats (deskHost none) deskArgs ⟨deskAnswered, some toneSelected, none⟩ [] =
      .ok (deskPrinted, []) := by
  refine except_bind_eq_ok.mpr ⟨(), rfl, ?_⟩
  refine except_bind_eq_ok.mpr ⟨[], rfl, ?_⟩
  refine except_bind_eq_ok.mpr ⟨_, rfl, ?_⟩
  refine except_bind_eq_ok.mpr ⟨.executed .completed [.start, .complete], ?_, rfl⟩
  exact execute_desk _ rfl

end GreenticDw

import GreenticDw.Catalog.Templates

/-! Which files loading a template may read. A reference is checked against the directory of the
catalog, which is not known when the catalog is named without one. -/

namespace GreenticDw

open Files

namespace TemplateCatalog

/-- Loading reads no file outside the directory, and yields a template only from a file inside it. -/
structure Contained (fs : FileSystem) (fromStr : String → Except String DigitalWorkerTemplate)
    (catalog : TemplateCatalog) (templateId : String) (directory : Location) : Prop where
  reads : ∀ file ∈ ((catalog.resolveTemplate fromStr templateId).run fs).trace,
    ∀ location contents, fs.canonicalize file = .ok location →
      fs.node location = some (.file contents) → directory <+: location
  returns : ∀ template, ((catalog.resolveTemplate fromStr templateId).run fs).result = .ok template →
    ∃ location contents, directory <+: location ∧ fs.node location = some (.file contents) ∧
      fromStr contents = .ok template

variable {fromStr : String → Except String (List TemplateCatalogEntry)}
  {fromStr' : String → Except String DigitalWorkerTemplate} {fs : FileSystem}
  {path base file : PathBuf} {templateId contents : String} {entries : List TemplateCatalogEntry}
  {entry : TemplateCatalogEntry} {catalog : TemplateCatalog} {directory location : Location}
  {template : DigitalWorkerTemplate}

section Opened

lemma fromJsonPath_ok
    (h : ((DigitalWorkerTemplate.fromJsonPath fromStr' path).run fs).result = .ok template) :
    ∃ contents, fs.readToString path = .ok contents ∧ fromStr' contents = .ok template := by
  cases hread : fs.readToString path with
  | error e => simp [DigitalWorkerTemplate.fromJsonPath, readToString, hread, Except.mapError] at h
  | ok contents =>
    refine ⟨contents, rfl, ?_⟩
    cases hparse : fromStr' contents with
    | error e =>
      simp [DigitalWorkerTemplate.fromJsonPath, readToString, hread, hparse, Except.mapError] at h
    | ok template' =>
      simpa [DigitalWorkerTemplate.fromJsonPath, readToString, hread, hparse, Except.mapError] using h

lemma resolveTemplate_ok
    (h : ((catalog.resolveTemplate fromStr' templateId).run fs).result = .ok template) :
    ∃ file ∈ ((catalog.resolveTemplate fromStr' templateId).run fs).trace,
      ∃ contents, fs.readToString file = .ok contents ∧ fromStr' contents = .ok template := by
  rw [trace_resolveTemplate]
  rw [resolveTemplate] at h
  cases hfind : catalog.find templateId with
  | none => simp [hfind] at h
  | some entry =>
    rw [hfind] at h
    dsimp only at h ⊢
    split_ifs at h ⊢ with hlocal
    · cases hfile : catalog.resolveLocalRefWithinCatalog fs entry.rawRef with
      | error e => simp [hfile] at h
      | ok file =>
        rw [Traced.run_bind, Traced.run_get, Traced.andThen_ok, hfile] at h
        cases hok : ((DigitalWorkerTemplate.fromJsonPath fromStr' file).run fs).result with
        | error e => simp [hok, Except.mapError] at h
        | ok template' =>
          simp only [Traced.run_bind, Traced.run_ofExcept, Traced.andThen_ok, Outcome.after_result,
            Traced.run_mapError, hok, Except.mapError] at h
          cases h
          exact ⟨file, List.mem_singleton_self file, fromJsonPath_ok hok⟩
    · simp at h

lemma contained_of_reads
    (h : ∀ file ∈ ((catalog.resolveTemplate fromStr' templateId).run fs).trace,
      ∀ location contents, fs.canonicalize file = .ok location →
        fs.node location = some (.file contents) → directory <+: location) :
    Contained fs fromStr' catalog templateId directory := by
  refine ⟨h, ?_⟩
  intro template hok
  obtain ⟨file, hm, contents, hread, hparse⟩ := resolveTemplate_ok hok
  obtain ⟨location, hc, hnode⟩ := FileSystem.readToString_ok hread
  exact ⟨location, contents, h file hm location contents hc hnode, hnode, hparse⟩

end Opened

section Checked

lemma prefix_of_checked {raw : String} (hbase : catalog.baseDir = some directory.path)
    (h : catalog.resolveLocalRefWithinCatalog fs raw = .ok file)
    (hc : fs.canonicalize file = .ok location) : directory <+: location := by
  simp only [resolveLocalRefWithinCatalog, hbase] at h
  split_ifs at h with hcheck
  cases h
  rw [checkedTarget, hc] at hcheck
  exact ((plain_path location).startsWith directory).mp hcheck

lemma mem_trace_bare (hparent : parent path = some "") :
    file ∈ (((loaded fs path entries).resolveTemplate fromStr' templateId).run fs).trace ↔
      ∃ entry, entries.find? (fun entry => entry.templateId = templateId) = some entry ∧
        entry.kind.isLocal = true ∧ file = normalizePath entry.rawRef := by
  have hnone : (loaded fs path entries).baseDir = none := by
    rw [baseDir_loaded hparent]
    rfl
  have hresolve : ∀ raw, resolveLocalRefWithinCatalog fs (loaded fs path entries) raw =
      .ok (normalizePath raw) := by
    intro raw
    rw [resolveLocalRefWithinCatalog, hnone, resolveLocalRefPath, hnone, ite_self]
  have hfind : (loaded fs path entries).find templateId =
      entries.find? fun entry => entry.templateId = templateId := by
    rw [loaded, hparent, find_rebased, find]
    simp only [TemplateCatalogEntry.rebased_empty, Option.map_id']
  rw [mem_trace_resolveTemplate, hfind]
  constructor
  · rintro ⟨entry, hentry, hlocal, hfile⟩
    rw [hresolve] at hfile
    exact ⟨entry, hentry, hlocal, (Except.ok.inj hfile).symm⟩
  · rintro ⟨entry, hentry, hlocal, rfl⟩
    exact ⟨entry, hentry, hlocal, hresolve entry.rawRef⟩

end Checked

section Leaking

def etc : Name := ⟨"etc", by decide⟩
def secret : Name := ⟨"secret.json", by decide⟩

def leakyTree : List (List String × Node) :=
  [([], .directory), (["etc"], .directory), (["etc", "secret.json"], .file "{}"),
    (["srv"], .directory), (["srv", "catalog.json"], .file "{}")]

def leakyFiles : FileSystem where
  node := FileSystem.nodeIn leakyTree
  cwd := [srv]
  root := by decide

def leak : TemplateCatalogEntry where
  templateId := "dw.leak"
  sourceRef := ⟨.ofPath "/etc/secret.json"⟩

def leakyFromStr (_ : String) : Except String (List TemplateCatalogEntry) := .ok [leak]

end Leaking

theorem contained_unless_bare (fromStr : String → Except String (List TemplateCatalogEntry))
    (fromStr' : String → Except String DigitalWorkerTemplate) {fs : FileSystem} {path : PathBuf}
    {contents : String} {entries : List TemplateCatalogEntry} {catalog : TemplateCatalog}
    (hread : fs.readToString path = .ok contents) (hparse : fromStr contents = .ok entries)
    (hload : ((fromJsonPath fromStr path).run fs).result = .ok catalog) (templateId : String) :
    ∃ directory, fs.directory path = some directory ∧
      (Contained fs fromStr' catalog templateId directory ↔
        ¬ (parent path = some "" ∧
          ∃ entry location contents,
            entries.find? (fun entry => entry.templateId = templateId) = some entry ∧
              entry.kind.isLocal = true ∧
              fs.canonicalize (normalizePath entry.rawRef) = .ok location ∧
              fs.node location = some (.file contents) ∧ ¬ directory <+: location)) := by
  rw [fromJsonPath_result hread hparse] at hload
  cases hload
  obtain ⟨base, hparent⟩ := FileSystem.parent_of_readToString hread
  obtain ⟨location, hc, -⟩ := FileSystem.readToString_ok hread
  by_cases hbare : base = ""
  · subst hbare
    refine ⟨fs.cwd, by simp [FileSystem.directory, hparent], ?_⟩
    rw [and_iff_right hparent]
    constructor
    · rintro hcontained ⟨entry, location, contents, hfind, hlocal, hc, hnode, hout⟩
      apply hout
      apply hcontained.reads (normalizePath entry.rawRef) _ location contents hc hnode
      exact (mem_trace_bare hparent).mpr ⟨entry, hfind, hlocal, rfl⟩
    · intro hnone
      apply contained_of_reads
      intro file hm location contents hc hnode
      by_contra hout
      apply hnone
      obtain ⟨entry, hfind, hlocal, rfl⟩ := (mem_trace_bare hparent).mp hm
      exact ⟨entry, location, contents, hfind, hlocal, hc, hnode, hout⟩
  · obtain ⟨directory, hdirectory⟩ := FileSystem.canonicalize_parent hc hparent hbare
    refine ⟨directory, by simp [FileSystem.directory, hparent, hbare, hdirectory, Except.toOption], ?_⟩
    apply iff_of_true
    · apply contained_of_reads
      intro file hm location contents hc _
      have hbase : (loaded fs path entries).baseDir = some directory.path := by
        rw [baseDir_loaded hparent, hdirectory]
        rfl
      obtain ⟨entry, -, -, hfile⟩ := mem_trace_resolveTemplate.mp hm
      exact prefix_of_checked hbase hfile hc
    · rw [hparent]
      rintro ⟨hempty, -⟩
      exact hbare (Option.some.inj hempty)

theorem contained_unless_bare_leak :
    ∃ directory, leakyFiles.directory "/srv/catalog.json" = some directory ∧
      (Contained leakyFiles Except.error (loaded leakyFiles "/srv/catalog.json" [leak]) "dw.leak"
          directory ↔
        ¬ (parent "/srv/catalog.json" = some "" ∧
          ∃ entry location contents,
            [leak].find? (fun entry => entry.templateId = "dw.leak") = some entry ∧
              entry.kind.isLocal = true ∧
              leakyFiles.canonicalize (normalizePath entry.rawRef) = .ok location ∧
              leakyFiles.node location = some (.file contents) ∧ ¬ directory <+: location)) := by
  have hread : leakyFiles.readToString "/srv/catalog.json" = .ok "{}" := by decide +kernel
  exact contained_unless_bare leakyFromStr Except.error hread rfl (fromJsonPath_result hread rfl)
    "dw.leak"

theorem bare_catalog_escapes :
    leakyFiles.directory "catalog.json" = some [srv] ∧
      ∃ catalog, ((fromJsonPath leakyFromStr "catalog.json").run leakyFiles).result = .ok catalog ∧
        ∀ fromStr', ¬ Contained leakyFiles fromStr' catalog "dw.leak" [srv] := by
  have hread : leakyFiles.readToString "catalog.json" = .ok "{}" := by decide +kernel
  refine ⟨by decide +kernel, _, fromJsonPath_result hread rfl, ?_⟩
  intro fromStr' hcontained
  have hfile : leakyFiles.canonicalize "/etc/secret.json" = .ok [etc, secret] := by decide +kernel
  have hnode : leakyFiles.node [etc, secret] = some (.file "{}") := by decide +kernel
  have hopened : "/etc/secret.json" ∈ (((loaded leakyFiles "catalog.json" [leak]).resolveTemplate
      fromStr' "dw.leak").run leakyFiles).trace := by
    rw [trace_resolveTemplate]
    decide +kernel
  exact absurd (hcontained.reads _ hopened _ _ hfile hnode) (by decide +kernel)

end TemplateCatalog

end GreenticDw

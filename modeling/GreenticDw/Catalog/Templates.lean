import GreenticDw.Composition.Documents
import GreenticDw.Files.FileSystem
import GreenticDw.Traced.Computation

/-! The catalog of templates: loading it from a file, and resolving the templates it refers to. The
trace of a computation lists the files that it opens. -/

namespace GreenticDw

open Files

inductive TemplateDescriptorError where
  | read (path : String) (source : IoError)
  | parse (origin : String) (source : String)
  deriving DecidableEq, Repr

inductive TemplateCatalogError where
  | read (path : String) (source : IoError)
  | parse (origin : String) (source : String)
  | notFound (templateId : String)
  | unsupportedLocalResolution (rawRef : String) (kind : SourceRefKind)
  | escapesCatalogRoot (rawRef : String) (baseDir : String)
  | descriptor (error : TemplateDescriptorError)
  deriving DecidableEq, Repr

structure TemplateCatalog where
  entries : List TemplateCatalogEntry
  baseDir : Option PathBuf
  deriving DecidableEq

def readToString (path : PathBuf) : Traced FileSystem PathBuf IoError String :=
  .ask (fun fs => (fs.readToString path, fs)) fun _ => path

def DigitalWorkerTemplate.fromJsonPath (fromStr : String → Except String DigitalWorkerTemplate)
    (path : PathBuf) : Traced FileSystem PathBuf TemplateDescriptorError DigitalWorkerTemplate := do
  let contents ← (readToString path).mapError (.read path)
  .ofExcept ((fromStr contents).mapError (.parse path))

lemma DigitalWorkerTemplate.trace_fromJsonPath
    (fromStr : String → Except String DigitalWorkerTemplate) (path : PathBuf) (fs : FileSystem) :
    ((fromJsonPath fromStr path).run fs).trace = [path] := by
  cases h : fs.readToString path with
  | error e => simp [fromJsonPath, readToString, h, Except.mapError]
  | ok contents => simp [fromJsonPath, readToString, h, Except.mapError]

def SourceRefKind.isLocal : SourceRefKind → Bool
  | localPath => true
  | devPath => true
  | _ => false

namespace TemplateCatalogEntry

def rawRef (entry : TemplateCatalogEntry) : String := entry.sourceRef.source.rawRef

def kind (entry : TemplateCatalogEntry) : SourceRefKind := entry.sourceRef.source.kind

def withRawRef (entry : TemplateCatalogEntry) (rawRef : String) : TemplateCatalogEntry :=
  { entry with sourceRef := ⟨{ entry.sourceRef.source with rawRef := rawRef }⟩ }

def rebased (entry : TemplateCatalogEntry) (baseDir : PathBuf) : TemplateCatalogEntry :=
  if entry.kind.isLocal ∧ ¬ isAbsolute entry.rawRef then entry.withRawRef (join baseDir entry.rawRef)
  else entry

lemma rebased_empty (entry : TemplateCatalogEntry) : entry.rebased "" = entry := by
  rw [rebased]
  split_ifs
  · rw [join_empty]
    rfl
  · rfl

end TemplateCatalogEntry

namespace TemplateCatalog

def rebaseLocalRefs (catalog : TemplateCatalog) : Option PathBuf → TemplateCatalog
  | none => catalog
  | some baseDir => { catalog with entries := catalog.entries.map fun entry => entry.rebased baseDir }

def fromJsonPath (fromStr : String → Except String (List TemplateCatalogEntry)) (path : PathBuf) :
    Traced FileSystem PathBuf TemplateCatalogError TemplateCatalog := do
  let contents ← (readToString path).mapError (.read path)
  let entries ← Traced.ofExcept ((fromStr contents).mapError (.parse path))
  let fs ← Traced.get
  let baseDir := (parent path).bind fun parent => (fs.canonicalize parent).toOption
  let catalog : TemplateCatalog := ⟨entries, baseDir.map Location.path⟩
  return catalog.rebaseLocalRefs (parent path)

def find (catalog : TemplateCatalog) (templateId : String) : Option TemplateCatalogEntry :=
  catalog.entries.find? fun entry => entry.templateId = templateId

def pushComponent (normalized : PathBuf) : Component → PathBuf
  | .curDir => normalized
  | .parentDir => pop normalized
  | .rootDir => join normalized "/"
  | .normal name => join normalized name.text

def normalizePath (path : PathBuf) : PathBuf := (components path).foldl pushComponent ""

def resolveLocalRefPath (catalog : TemplateCatalog) (rawRef : String) : PathBuf :=
  let resolved :=
    if isAbsolute rawRef then rawRef
    else
      match catalog.baseDir with
      | some baseDir => join baseDir rawRef
      | none => rawRef
  normalizePath resolved

def checkedTarget (fs : FileSystem) (baseDir candidate : PathBuf) : PathBuf :=
  match fs.canonicalize candidate with
  | .ok location => location.path
  | .error _ =>
    let parent := (parent candidate).getD baseDir
    let normalizedParent :=
      match fs.canonicalize parent with
      | .ok location => location.path
      | .error _ => normalizePath parent
    match fileName candidate with
    | some name => join normalizedParent name.text
    | none => normalizedParent

def resolveLocalRefWithinCatalog (fs : FileSystem) (catalog : TemplateCatalog) (rawRef : String) :
    Except TemplateCatalogError PathBuf :=
  let candidate := catalog.resolveLocalRefPath rawRef
  match catalog.baseDir with
  | none => .ok candidate
  | some baseDir =>
    if startsWith (checkedTarget fs baseDir candidate) baseDir then .ok candidate
    else .error (.escapesCatalogRoot rawRef baseDir)

def resolveTemplate (fromStr : String → Except String DigitalWorkerTemplate)
    (catalog : TemplateCatalog) (templateId : String) :
    Traced FileSystem PathBuf TemplateCatalogError DigitalWorkerTemplate := do
  match catalog.find templateId with
  | none => .throw (.notFound templateId)
  | some entry =>
    if entry.kind.isLocal then do
      let fs ← Traced.get
      let resolvedPath ← Traced.ofExcept (catalog.resolveLocalRefWithinCatalog fs entry.rawRef)
      (DigitalWorkerTemplate.fromJsonPath fromStr resolvedPath).mapError .descriptor
    else .throw (.unsupportedLocalResolution entry.rawRef entry.kind)

section Normalized

lemma foldl_pushComponent {s : Start} (hs : s ≠ .here) {cs : List Component}
    (hcs : ∀ c ∈ cs, c = .parentDir ∨ ∃ name, c = .normal name) {normalized : PathBuf}
    {names : List Name} (h : Plain normalized s names) :
    Plain (cs.foldl pushComponent normalized) s (walk names cs) := by
  induction cs generalizing normalized names with
  | nil => exact h
  | cons c cs ih =>
    have hrest := fun d hd => hcs d (List.mem_cons_of_mem c hd)
    rcases hcs c List.mem_cons_self with rfl | ⟨name, rfl⟩
    · exact ih hrest (h.pop hs)
    · exact ih hrest (h.join name)

theorem normalizePath_plain (path : PathBuf) :
    Plain (normalizePath path) (if isAbsolute path then .root else .bare)
      (walk [] (components path)) := by
  have hbody := fun c (hc : c ∈ body (pieces path)) => mem_body hc
  rw [normalizePath, components, List.foldl_append, walk_append]
  cases hs : start path with
  | root =>
    rw [if_pos (by simp [isAbsolute, hs])]
    exact foldl_pushComponent (by simp) hbody (plain_text .root (by simp))
  | here =>
    rw [if_neg (by simp [isAbsolute, hs])]
    exact foldl_pushComponent (by simp) hbody (plain_text .bare (by simp))
  | bare =>
    rw [if_neg (by simp [isAbsolute, hs])]
    exact foldl_pushComponent (by simp) hbody (plain_text .bare (by simp))

end Normalized

section Loading

variable {fromStr : String → Except String (List TemplateCatalogEntry)}
  {fromStr' : String → Except String DigitalWorkerTemplate} {fs : FileSystem} {path q : PathBuf}
  {contents templateId : String} {entries : List TemplateCatalogEntry}
  {catalog : TemplateCatalog} {entry : TemplateCatalogEntry}

def loaded (fs : FileSystem) (path : PathBuf) (entries : List TemplateCatalogEntry) :
    TemplateCatalog :=
  let baseDir := (parent path).bind fun parent => (fs.canonicalize parent).toOption
  rebaseLocalRefs ⟨entries, baseDir.map Location.path⟩ (parent path)

lemma fromJsonPath_result (hread : fs.readToString path = .ok contents)
    (hparse : fromStr contents = .ok entries) :
    ((fromJsonPath fromStr path).run fs).result = .ok (loaded fs path entries) := by
  simp [fromJsonPath, readToString, hread, hparse, Except.mapError, loaded]

lemma find_rebased (entries : List TemplateCatalogEntry) (base : Option PathBuf) (baseDir : PathBuf)
    (templateId : String) :
    (rebaseLocalRefs ⟨entries, base⟩ (some baseDir)).find templateId =
      ((TemplateCatalog.mk entries base).find templateId).map fun entry => entry.rebased baseDir := by
  rw [find, rebaseLocalRefs, find, List.find?_map]
  congr 2
  funext entry
  simp only [Function.comp_apply, TemplateCatalogEntry.rebased]
  split_ifs <;> rfl

lemma baseDir_loaded (hparent : parent path = some q) :
    (loaded fs path entries).baseDir = (fs.canonicalize q).toOption.map Location.path := by
  rw [loaded, hparent]
  rfl

lemma trace_resolveTemplate (catalog : TemplateCatalog) (templateId : String) :
    ((catalog.resolveTemplate fromStr' templateId).run fs).trace =
      match catalog.find templateId with
      | none => []
      | some entry =>
        if entry.kind.isLocal then
          match catalog.resolveLocalRefWithinCatalog fs entry.rawRef with
          | .ok file => [file]
          | .error _ => []
        else [] := by
  rw [resolveTemplate]
  cases catalog.find templateId with
  | none => rfl
  | some entry =>
    dsimp only
    split_ifs with hl
    · rw [Traced.run_bind, Traced.run_get, Traced.andThen_ok]
      cases catalog.resolveLocalRefWithinCatalog fs entry.rawRef with
      | error e => rfl
      | ok file =>
        simp [DigitalWorkerTemplate.trace_fromJsonPath]
    · rfl

lemma mem_trace_resolveTemplate {file : PathBuf} :
    file ∈ ((catalog.resolveTemplate fromStr' templateId).run fs).trace ↔
      ∃ entry, catalog.find templateId = some entry ∧ entry.kind.isLocal = true ∧
        catalog.resolveLocalRefWithinCatalog fs entry.rawRef = .ok file := by
  rw [trace_resolveTemplate]
  cases catalog.find templateId with
  | none => simp
  | some entry =>
    cases hfile : catalog.resolveLocalRefWithinCatalog fs entry.rawRef with
    | error e => simp [hfile]
    | ok found =>
      have hsome : (∃ entry', some entry = some entry' ∧ entry'.kind.isLocal = true ∧
          catalog.resolveLocalRefWithinCatalog fs entry'.rawRef = .ok file) ↔
          entry.kind.isLocal = true ∧ found = file := by
        simp [hfile]
      rw [hsome]
      dsimp only
      split_ifs with hlocal
      · simp only [hfile, List.mem_singleton]
        exact ⟨fun h => ⟨hlocal, h.symm⟩, fun h => h.2.symm⟩
      · exact ⟨fun h => absurd h List.not_mem_nil, fun h => absurd h.1 hlocal⟩

end Loading

def srv : Name := ⟨"srv", by decide⟩

end TemplateCatalog

end GreenticDw

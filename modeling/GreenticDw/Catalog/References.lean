import GreenticDw.Catalog.Templates

/-! The file that a reference of a template catalog leads to when there are no links. The directory of
a relative catalog is joined to a reference twice: when the catalog is loaded, and when the reference is
resolved. -/

namespace GreenticDw

open Files

namespace TemplateCatalog

variable {fs : FileSystem} {path candidate raw q : PathBuf} {directory location : Location}
  {names : List Name}

section Places

lemma place_of_plain (h : Plain path .root names) : fs.place path = names := by
  rw [FileSystem.place, h.walk, if_pos rfl, List.nil_append]

end Places

section Checking

lemma normalizePath_of_plain (h : Plain path .root names) :
    Plain (normalizePath path) .root names := by
  have hp := normalizePath_plain path
  have habs : isAbsolute path := h.1
  rw [if_pos habs, h.walk, if_pos rfl, List.nil_append] at hp
  exact hp

lemma canonicalOrNormalized_plain (hfree : fs.LinkFree) (h : Plain path .root names) :
    Plain (match fs.canonicalize path with
      | .ok location => location.path
      | .error _ => normalizePath path) .root names := by
  cases hc : fs.canonicalize path with
  | ok location =>
    dsimp only
    rw [FileSystem.canonicalize_linkFree hfree hc, place_of_plain h]
    exact plain_path names
  | error e => exact normalizePath_of_plain h

lemma checkedTarget_plain (hfree : fs.LinkFree) (h : Plain candidate .root names)
    (hdir : directory <+: names) :
    Plain (checkedTarget fs directory.path candidate) .root names := by
  rw [checkedTarget]
  cases hc : fs.canonicalize candidate with
  | ok location =>
    dsimp only
    rw [FileSystem.canonicalize_linkFree hfree hc, place_of_plain h]
    exact plain_path names
  | error e =>
    dsimp only
    rcases List.eq_nil_or_concat' names with rfl | ⟨front, name, rfl⟩
    · have hdirectory : directory = [] := List.prefix_nil.mp hdir
      have hparent : parent candidate = none := parent_eq_none.mpr ⟨h.2, by simp [h.1]⟩
      have hname : fileName candidate = none := by
        rw [fileName, h.components]
        rfl
      rw [hparent, hname, hdirectory]
      exact canonicalOrNormalized_plain hfree (plain_path [])
    · have hname : fileName candidate = some name := by
        rw [fileName, h.components]
        simp
      have hpop := h.pop (by simp)
      rw [List.dropLast_concat, pop] at hpop
      have hparent : ∃ q, parent candidate = some q := by
        by_contra hnone
        rw [← Option.ne_none_iff_exists', not_not, parent_eq_none, h.2] at hnone
        simp at hnone
      obtain ⟨q, hq⟩ := hparent
      rw [hq, Option.getD_some] at hpop
      rw [hq, hname]
      exact (canonicalOrNormalized_plain hfree hpop).join name

lemma resolveLocalRefWithinCatalog_linkFree {catalog : TemplateCatalog} (hfree : fs.LinkFree)
    (hbase : catalog.baseDir = some directory.path)
    (h : Plain (catalog.resolveLocalRefPath raw) .root names) (hdir : directory <+: names) :
    catalog.resolveLocalRefWithinCatalog fs raw = .ok (catalog.resolveLocalRefPath raw) := by
  simp only [resolveLocalRefWithinCatalog, hbase]
  rw [if_pos]
  exact ((checkedTarget_plain hfree h hdir).startsWith directory).mpr hdir

lemma resolveLocalRefWithinCatalog_ok {catalog : TemplateCatalog} {file : PathBuf}
    (h : catalog.resolveLocalRefWithinCatalog fs raw = .ok file) :
    file = catalog.resolveLocalRefPath raw := by
  rw [resolveLocalRefWithinCatalog] at h
  split at h
  · exact (Except.ok.inj h).symm
  · split_ifs at h
    exact (Except.ok.inj h).symm

end Checking

section Starter

def examples : Name := ⟨"examples", by decide⟩
def templates : Name := ⟨"templates", by decide⟩

def starterTree : List (List String × Node) :=
  [([], .directory), (["srv"], .directory), (["srv", "examples"], .directory),
    (["srv", "examples", "templates"], .directory),
    (["srv", "examples", "templates", "catalog.json"], .file "{}"),
    (["srv", "examples", "templates", "support-assistant.json"], .file "{}")]

def starterFiles : FileSystem where
  node := FileSystem.nodeIn starterTree
  cwd := [srv]
  root := by decide

def supportAssistant : TemplateCatalogEntry where
  templateId := "dw.support-assistant"
  sourceRef := ⟨.ofPath "support-assistant.json"⟩

def starterFromStr (_ : String) : Except String (List TemplateCatalogEntry) := .ok [supportAssistant]

lemma starterFiles_linkFree : starterFiles.LinkFree := by
  apply FileSystem.nodeIn_ne_link
  simp [starterTree]

end Starter

section Joined

variable {fromStr : String → Except String (List TemplateCatalogEntry)}
  {fromStr' : String → Except String DigitalWorkerTemplate} {contents templateId : String}
  {entries : List TemplateCatalogEntry} {entry : TemplateCatalogEntry} {catalog : TemplateCatalog}

lemma resolveLocalRefPath_joined (fs : FileSystem) (hbase : catalog.baseDir = some directory.path)
    (base : PathBuf) (hrel : ¬ isAbsolute raw) :
    Plain (catalog.resolveLocalRefPath (join base raw)) .root
      (walk (if isAbsolute base then fs.place base else walk directory (components base))
        (components raw)) := by
  have habs : isAbsolute (join base raw) ↔ isAbsolute base := by
    rw [isAbsolute_join, or_iff_left hrel]
  by_cases hb : isAbsolute base
  · have hp := normalizePath_plain (join base raw)
    rw [if_pos (habs.mpr hb), walk_join, walk_start [] base, if_pos hb] at hp
    rw [resolveLocalRefPath, if_pos (habs.mpr hb), if_pos hb, FileSystem.place, walk_start fs.cwd base,
      if_pos hb]
    exact hp
  · have hdirectory : isAbsolute directory.path := (plain_path directory).1
    have hjoined : isAbsolute (join directory.path (join base raw)) :=
      (isAbsolute_join _ _).mpr (Or.inl hdirectory)
    have hp := normalizePath_plain (join directory.path (join base raw))
    rw [if_pos hjoined, walk_join, walk_join, (plain_path directory).walk, if_pos rfl,
      List.nil_append] at hp
    rw [resolveLocalRefPath, if_neg (fun h => hb (habs.mp h)), if_neg hb, hbase]
    exact hp

lemma find_loaded (fs : FileSystem)
    (hfind : entries.find? (fun entry => entry.templateId = templateId) = some entry)
    (hlocal : entry.kind.isLocal = true) (hrel : ¬ isAbsolute entry.rawRef)
    (hparent : parent path = some q) :
    ∃ rebased, (loaded fs path entries).find templateId = some rebased ∧
      rebased.kind = entry.kind ∧ rebased.rawRef = join q entry.rawRef := by
  rw [loaded, hparent, find_rebased, find, hfind]
  refine ⟨entry.rebased q, rfl, ?_, ?_⟩
  · rw [TemplateCatalogEntry.rebased, if_pos ⟨hlocal, hrel⟩]
    rfl
  · rw [TemplateCatalogEntry.rebased, if_pos ⟨hlocal, hrel⟩]
    rfl

theorem resolves_beside_catalog (fromStr : String → Except String (List TemplateCatalogEntry))
    (fromStr' : String → Except String DigitalWorkerTemplate) {fs : FileSystem} (hfree : fs.LinkFree)
    {path : PathBuf} {contents templateId : String} {entries : List TemplateCatalogEntry}
    {entry : TemplateCatalogEntry} {catalog : TemplateCatalog}
    (hread : fs.readToString path = .ok contents) (hparse : fromStr contents = .ok entries)
    (hload : ((fromJsonPath fromStr path).run fs).result = .ok catalog)
    (hfind : entries.find? (fun entry => entry.templateId = templateId) = some entry)
    (hlocal : entry.kind.isLocal = true) (hrel : ¬ isAbsolute entry.rawRef)
    (hup : .parentDir ∉ components entry.rawRef) :
    ∃ directory, fs.directory path = some directory ∧
      ((∃ file, ((catalog.resolveTemplate fromStr' templateId).run fs).trace = [file] ∧
          fs.place file = walk directory (components entry.rawRef)) ↔
        isAbsolute path ∨ walk directory (components ((parent path).getD "")) = directory) := by
  rw [fromJsonPath_result hread hparse] at hload
  cases hload
  obtain ⟨base, hparent⟩ := FileSystem.parent_of_readToString hread
  obtain ⟨rebased, hrebased, hkind, hraw⟩ := find_loaded fs hfind hlocal hrel hparent
  obtain ⟨location, hc, -⟩ := FileSystem.readToString_ok hread
  simp only [trace_resolveTemplate, hrebased, hkind, hlocal, if_true, hraw, hparent, Option.getD_some]
  by_cases hbare : base = ""
  · refine ⟨fs.cwd, by simp [FileSystem.directory, hparent, hbare], ?_⟩
    have hnone : (loaded fs path entries).baseDir = none := by
      rw [baseDir_loaded hparent, hbare]
      rfl
    apply iff_of_true
    · refine ⟨normalizePath entry.rawRef, ?_, ?_⟩
      · rw [resolveLocalRefWithinCatalog, hnone, hbare, join_empty, resolveLocalRefPath, if_neg hrel,
          hnone]
      · have hp := normalizePath_plain entry.rawRef
        rw [if_neg hrel] at hp
        rw [FileSystem.place, hp.walk, if_neg (by simp), walk_descends hrel hup fs.cwd]
    · right
      rw [hbare]
      rfl
  · obtain ⟨directory, hdirectory⟩ := FileSystem.canonicalize_parent hc hparent hbare
    have hbase : (loaded fs path entries).baseDir = some directory.path := by
      rw [baseDir_loaded hparent, hdirectory]
      rfl
    have hcand := resolveLocalRefPath_joined fs hbase base hrel
    rw [walk_descends hrel hup, ← FileSystem.canonicalize_linkFree hfree hdirectory] at hcand
    simp only [isAbsolute_parent hparent] at hcand
    refine ⟨directory, by simp [FileSystem.directory, hparent, hbare, hdirectory, Except.toOption], ?_⟩
    constructor
    · rintro ⟨file, htrace, hplace⟩
      cases hres : resolveLocalRefWithinCatalog fs (loaded fs path entries) (join base entry.rawRef) with
      | error e => simp [hres] at htrace
      | ok file' =>
        rw [hres] at htrace
        have hfile : file' = file := List.singleton_inj.mp htrace
        rw [← hfile, resolveLocalRefWithinCatalog_ok hres, place_of_plain hcand,
          walk_descends hrel hup directory] at hplace
        have hsame := List.append_cancel_right hplace
        split_ifs at hsame with habs
        · exact Or.inl habs
        · exact Or.inr hsame
    · intro hsame
      have hfront : (if isAbsolute path then directory else walk directory (components base)) =
          directory := by
        split_ifs with habs
        · rfl
        · exact hsame.resolve_left habs
      rw [hfront] at hcand
      refine ⟨(loaded fs path entries).resolveLocalRefPath (join base entry.rawRef), ?_, ?_⟩
      · rw [resolveLocalRefWithinCatalog_linkFree hfree hbase hcand (List.prefix_append _ _)]
      · rw [place_of_plain hcand, walk_descends hrel hup directory]

theorem resolves_beside_catalog_starter :
    ∃ directory, starterFiles.directory "/srv/examples/templates/catalog.json" = some directory ∧
      ((∃ file, (((loaded starterFiles "/srv/examples/templates/catalog.json"
          [supportAssistant]).resolveTemplate Except.error "dw.support-assistant").run
            starterFiles).trace = [file] ∧
          starterFiles.place file = walk directory (components supportAssistant.rawRef)) ↔
        isAbsolute "/srv/examples/templates/catalog.json" ∨
          walk directory (components
            ((parent "/srv/examples/templates/catalog.json").getD "")) = directory) := by
  have hread : starterFiles.readToString "/srv/examples/templates/catalog.json" = .ok "{}" := by
    decide +kernel
  have hfind : [supportAssistant].find? (fun entry => entry.templateId = "dw.support-assistant") =
      some supportAssistant := by decide +kernel
  exact resolves_beside_catalog starterFromStr Except.error starterFiles_linkFree hread rfl
    (fromJsonPath_result hread rfl) hfind rfl (by decide +kernel) (by decide +kernel)

theorem starter_catalog_joined_twice :
    starterFiles.directory "examples/templates/catalog.json" = some [srv, examples, templates] ∧
      ∃ catalog, ((fromJsonPath starterFromStr "examples/templates/catalog.json").run
          starterFiles).result = .ok catalog ∧
        (∀ fromStr', ((catalog.resolveTemplate fromStr' "dw.support-assistant").run
            starterFiles).trace =
          ["/srv/examples/templates/examples/templates/support-assistant.json"]) ∧
        starterFiles.place "/srv/examples/templates/examples/templates/support-assistant.json" ≠
          walk [srv, examples, templates] (components "support-assistant.json") := by
  have hread : starterFiles.readToString "examples/templates/catalog.json" = .ok "{}" := by
    decide +kernel
  refine ⟨by decide +kernel, _, fromJsonPath_result hread rfl, ?_, by decide +kernel⟩
  intro fromStr'
  rw [trace_resolveTemplate]
  decide +kernel

end Joined

end TemplateCatalog

end GreenticDw

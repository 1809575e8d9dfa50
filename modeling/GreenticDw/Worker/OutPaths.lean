import GreenticDw.Files.Writing
import GreenticDw.Worker.Knowledge

/-! Building a pack: which directory it is written into, and where it is in the end. -/

namespace GreenticDw.Worker

open Files FileSystem

structure ValidationError where
  field : String
  message : String

structure WorkerPack where
  packPath : PathBuf

structure Authoring (Authored Precomputed : Type) where
  validate : WorkerSpec Authored → Except (List ValidationError) Unit
  extractTextFromMem : ByteArray → Except String String
  buildWorkerPack : FileSystem → WorkerSpec Authored → List (KnowledgeInput Precomputed) →
    PathBuf → Except String (WorkerPack × FileSystem)
  packFileName : WorkerSpec Authored → Name
  archive : WorkerSpec Authored → List (KnowledgeInput Precomputed) → String
  /-- The pack is one file, written into the directory that is given. -/
  writes : ∀ fs spec knowledge dir pack fs',
    buildWorkerPack fs spec knowledge dir = .ok (pack, fs') →
      pack.packPath = join dir (packFileName spec).text ∧
        fs.Wrote fs' pack.packPath (archive spec knowledge)

def reportValidationErrors (errors : List ValidationError) : String :=
  "\n".intercalate (errors.map fun error => error.field ++ ": " ++ error.message)

def resolveOutDir (out : Option PathBuf) : PathBuf :=
  match out with
  | some path =>
    match parent path with
    | some parent => if parent ≠ "" then parent else "."
    | none => "."
  | none => "."

def outNamesDirectory (fs : FileSystem) (out : PathBuf) : Bool :=
  if out = "" then true
  else if out.toList.getLast? = some '/' then true
  else fs.isDir out

def finalizePackPath (fs : FileSystem) (builtPath : PathBuf) (out : Option PathBuf) :
    Except CliError (PathBuf × FileSystem) :=
  match out with
  | some outPath =>
    if ¬ outNamesDirectory fs outPath then do
      let fs ← (fs.rename builtPath outPath).mapError fun source => .workerPackWrite outPath source
      return (outPath, fs)
    else return (builtPath, fs)
  | none => return (builtPath, fs)

section Building

variable {Authored Precomputed : Type} (authoring : Authoring Authored Precomputed)

def readKnowledge (fs : FileSystem) (spec : WorkerSpec Authored) (specDir : PathBuf) :
    Except CliError (List (KnowledgeInput Precomputed)) :=
  loadKnowledgeInputs fs.read authoring.extractTextFromMem spec specDir

def buildFromSpec (fs : FileSystem) (spec : WorkerSpec Authored) (specDir : PathBuf)
    (out : Option PathBuf) : Except CliError (PathBuf × FileSystem) := do
  (authoring.validate spec).mapError fun errors =>
    .workerSpecInvalid (reportValidationErrors errors)
  let knowledge ← readKnowledge authoring fs spec specDir
  let outDir := resolveOutDir out
  let (pack, fs) ← (authoring.buildWorkerPack fs spec knowledge outDir).mapError .workerAssemble
  finalizePackPath fs pack.packPath out

end Building

/-- The pack is at the path that is printed. It is directly inside the directory that `out` names,
or it is at `out`. -/
def PlacedAsAsked (fs fs' : FileSystem) (out printed : PathBuf) (archive : String) : Prop :=
  ∃ d name, fs'.entry printed = .ok (d ++ [name]) ∧ fs'.readToString printed = .ok archive ∧
    if outNamesDirectory fs out then fs'.NamesDirectory out d else fs'.entry out = .ok (d ++ [name])

/-- The directory that a path leads to is the one that its last component stands in. -/
def LeadsBack (fs : FileSystem) (out : PathBuf) : Prop :=
  match (components out).getLast? with
  | some .rootDir => fs.cwd = []
  | some .parentDir => fs.NamesDirectory ((parent out).getD "") []
  | some (.normal name) => ∃ home, fs.NamesDirectory ((parent out).getD "") home ∧
      fs.follow (home ++ [name]) = .ok home
  | _ => True

variable {fs fs' : FileSystem} {out printed : PathBuf} {d : Location}

lemma namesDirectory_resolveOutDir : fs.NamesDirectory (resolveOutDir (some out)) d ↔
    fs.NamesDirectory ((parent out).getD "") d := by
  have hempty : fs.NamesDirectory "." d ↔ fs.NamesDirectory "" d := Iff.rfl
  rw [resolveOutDir]
  cases parent out with
  | none => exact hempty
  | some q =>
    simp only [Option.getD_some]
    split_ifs with hq
    · exact Iff.rfl
    · rw [not_not.mp hq, hempty]

lemma resolveOutDir_ne_empty (out : Option PathBuf) : resolveOutDir out ≠ "" := by
  rw [resolveOutDir.eq_def]
  split
  · split
    · split_ifs with h
      · exact h
      · decide
    · decide
  · decide

lemma namesDirectory_iff_leadsBack (h : fs.NamesDirectory (resolveOutDir (some out)) d) :
    fs.NamesDirectory out d ↔ LeadsBack fs out := by
  rw [namesDirectory_resolveOutDir] at h
  have hdir := h.2
  rcases List.eq_nil_or_concat' (body (pieces out)) with hnil | ⟨cs, c, hcs⟩
  · rw [namesDirectory_of_body_nil hnil, and_iff_left hdir, LeadsBack, components, hnil,
      List.append_nil]
    have hhome : parent out = none ∨ parent out = some "" := by
      cases hq : parent out with
      | none => exact Or.inl rfl
      | some q =>
        rcases parent_cases hq with ⟨-, -, rfl⟩ | ⟨front, c, -, hfront, -⟩
        · exact Or.inr rfl
        · exact absurd (hnil.symm.trans hfront) (by simp)
    have hcwd : fs.cwd = d := by
      have hempty : fs.NamesDirectory "" d := by
        rcases hhome with hq | hq <;> rwa [hq] at h
      exact ((namesDirectory_of_body_nil (by decide)).mp hempty).1
    cases hs : start out with
    | root =>
      have habs : isAbsolute out := hs
      rw [origin, if_pos habs, hcwd]
      exact eq_comm
    | here | bare =>
      rw [origin, if_neg (by simp [isAbsolute, hs])]
      exact iff_of_true hcwd trivial
  · have hlast : (components out).getLast? = some c := by
      rw [components, hcs, ← List.append_assoc, List.getLast?_concat]
    have hhome : ∀ home, fs.NamesDirectory ((parent out).getD "") home ↔ home = d :=
      fun home => ⟨fun hh => hh.unique h, fun hh => hh ▸ h⟩
    have hc : c ∈ body (pieces out) := hcs ▸ List.mem_append_right cs List.mem_cons_self
    simp only [namesDirectory_of_body_concat hcs, hhome, exists_eq_left, and_iff_left hdir]
    rw [LeadsBack, hlast]
    rcases mem_body hc with rfl | ⟨name, rfl⟩
    · have hroot : d.dropLast = d ↔ [] = d := by
        constructor
        · intro hd
          by_contra hne
          have hlength := congrArg List.length hd
          have hpos := List.length_pos_of_ne_nil (Ne.symm hne)
          rw [List.length_dropLast] at hlength
          omega
        · rintro rfl
          rfl
      simp only [enter, if_pos hdir, Except.ok.injEq, hroot, hhome]
    · simp only [enter, if_pos hdir, hhome, exists_eq_left]

section Placed

variable {Authored Precomputed : Type} {authoring : Authoring Authored Precomputed}
  {spec : WorkerSpec Authored} {specDir : PathBuf} {archive : String}
  {knowledge : List (KnowledgeInput Precomputed)} {built : FileSystem} {name : Name}

lemma buildFromSpec_ok {out : Option PathBuf}
    (h : buildFromSpec authoring fs spec specDir out = .ok (printed, fs')) :
    ∃ knowledge pack built, readKnowledge authoring fs spec specDir = .ok knowledge ∧
      authoring.buildWorkerPack fs spec knowledge (resolveOutDir out) = .ok (pack, built) ∧
      finalizePackPath built pack.packPath out = .ok (printed, fs') := by
  obtain ⟨-, -, h⟩ := except_bind_eq_ok.mp h
  obtain ⟨knowledge, hknowledge, h⟩ := except_bind_eq_ok.mp h
  obtain ⟨⟨pack, built⟩, hbuilt, h⟩ := except_bind_eq_ok.mp h
  exact ⟨knowledge, pack, built, hknowledge, except_mapError_eq_ok.mp hbuilt, h⟩

lemma outNamesDirectory_same (h : SameDirectories fs fs') (out : PathBuf) :
    outNamesDirectory fs out = outNamesDirectory fs' out := by
  rw [outNamesDirectory, outNamesDirectory, h.isDir]

lemma outNamesDirectory_of_isDir (h : fs.isDir out = true) : outNamesDirectory fs out = true := by
  rw [outNamesDirectory, h]
  split_ifs <;> rfl

lemma placedAsAsked_iff
    (hwrote : fs.Wrote built (join (resolveOutDir (some out)) name.text) archive)
    (h : finalizePackPath built (join (resolveOutDir (some out)) name.text) (some out) =
      .ok (printed, fs')) :
    PlacedAsAsked fs fs' out printed archive ↔
      outNamesDirectory fs out = false ∨ LeadsBack fs out := by
  have hsame := hwrote.sameDirectories
  have hout := outNamesDirectory_same hsame out
  obtain ⟨e, he, hfile⟩ := hwrote.entry
  simp only [finalizePackPath, ← hout] at h
  by_cases hdirectory : outNamesDirectory fs out = true
  · rw [if_neg (not_not.mpr hdirectory), except_pure_eq_ok] at h
    cases h
    obtain ⟨home, hhome, rfl⟩ := (entry_join (resolveOutDir_ne_empty _) name).mp he
    have hback := namesDirectory_iff_leadsBack (hsame.namesDirectory.mpr hhome)
    constructor
    · rintro ⟨d, name', hprinted, -, hplace⟩
      rw [if_pos hdirectory] at hplace
      have hd := List.append_inj' (Except.ok.inj (hprinted.symm.trans he)) rfl
      rw [hd.1] at hplace
      exact Or.inr (hback.mp (hsame.namesDirectory.mpr hplace))
    · rintro (hnot | hleads)
      · exact absurd hdirectory (by simp [hnot])
      · refine ⟨home, name, he, readToString_of_entry he hfile, ?_⟩
        rw [if_pos hdirectory]
        exact hsame.namesDirectory.mp (hback.mpr hleads)
  · rw [if_pos hdirectory, except_bind_eq_ok] at h
    obtain ⟨moved, hrename, h⟩ := h
    rw [except_pure_eq_ok] at h
    cases h
    have hisDir : built.isDir out = false := by
      rw [← Bool.not_eq_true]
      exact fun hd => hdirectory (hout.trans (outNamesDirectory_of_isDir hd))
    obtain ⟨-, new, hnew, hnode⟩ :=
      rename_ok (except_mapError_eq_ok.mp hrename) he hfile hisDir
    refine iff_of_true ?_ (Or.inl (by simpa using hdirectory))
    obtain ⟨d, name', -, -, -, rfl⟩ := entry_ok_iff.mp hnew
    refine ⟨d, name', hnew, readToString_of_entry hnew hnode, ?_⟩
    rw [if_neg hdirectory]
    exact hnew

theorem pack_placed_iff (hload : readKnowledge authoring fs spec specDir = .ok knowledge)
    (h : buildFromSpec authoring fs spec specDir (some out) = .ok (printed, fs')) :
    PlacedAsAsked fs fs' out printed (authoring.archive spec knowledge) ↔
      outNamesDirectory fs out = false ∨ LeadsBack fs out := by
  obtain ⟨knowledge', pack, built, hload', hbuilt, hfinal⟩ := buildFromSpec_ok h
  obtain rfl := Except.ok.inj (hload.symm.trans hload')
  obtain ⟨hpath, hwrote⟩ := authoring.writes _ _ _ _ _ _ hbuilt
  rw [hpath] at hwrote hfinal
  exact placedAsAsked_iff hwrote hfinal

end Placed

def helpDesk : FileSystem where
  node := nodeIn [([], .directory), (["desk"], .directory), (["desk", "packs"], .directory)]
  cwd := [⟨"desk", by decide⟩]
  root := rfl

def packsName : Name := ⟨"packs", by decide⟩

def buildSupportPack (fs : FileSystem) (_ : WorkerSpec Unit) (_ : List (KnowledgeInput Unit))
    (dir : PathBuf) : Except String (WorkerPack × FileSystem) :=
  let packPath := join dir "support.gtpack"
  match fs.entry packPath with
  | .error _ => .error "no directory to write into"
  | .ok e =>
    if fs.isDir packPath then .error "a directory is in the way"
    else .ok ({ packPath }, fs.put e (some (.file "support")))

def supportAuthoring : Authoring Unit Unit where
  validate _ := .ok ()
  extractTextFromMem := noPages
  buildWorkerPack := buildSupportPack
  packFileName _ := ⟨"support.gtpack", by decide⟩
  archive _ _ := "support"
  writes fs spec knowledge dir pack fs' h := by
    rw [buildSupportPack] at h
    split at h
    · cases h
    · rename_i e he
      split_ifs at h with hdir
      cases h
      refine ⟨rfl, e, he, fun d hd => ?_, rfl⟩
      exact hdir (isDir_of_leadsTo he hd)

lemma built_of_printed {α β ε : Type} {x : Except ε (α × β)} {a : α}
    (h : x.toOption.map Prod.fst = some a) : ∃ b, x = .ok (a, b) := by
  cases x with
  | error e => cases h
  | ok ab =>
    cases h
    exact ⟨ab.2, rfl⟩

theorem pack_placed_in_packs : ∃ fs',
    buildFromSpec supportAuthoring helpDesk (deskSpec []) "specs" (some "packs/v2.gtpack") =
      .ok ("packs/v2.gtpack", fs') ∧
    (PlacedAsAsked helpDesk fs' "packs/v2.gtpack" "packs/v2.gtpack" "support" ↔
      outNamesDirectory helpDesk "packs/v2.gtpack" = false ∨
        LeadsBack helpDesk "packs/v2.gtpack") := by
  have hprinted : (buildFromSpec supportAuthoring helpDesk (deskSpec []) "specs"
      (some "packs/v2.gtpack")).toOption.map Prod.fst = some "packs/v2.gtpack" := by decide
  obtain ⟨fs', h⟩ := built_of_printed hprinted
  exact ⟨fs', h, pack_placed_iff rfl h⟩

theorem pack_beside_directory : ∃ fs',
    buildFromSpec supportAuthoring helpDesk (deskSpec []) "specs" (some "packs") =
      .ok ("./support.gtpack", fs') ∧
    outNamesDirectory helpDesk "packs" = true ∧
    ¬ PlacedAsAsked helpDesk fs' "packs" "./support.gtpack" "support" := by
  have hprinted : (buildFromSpec supportAuthoring helpDesk (deskSpec []) "specs"
      (some "packs")).toOption.map Prod.fst = some "./support.gtpack" := by decide
  obtain ⟨fs', h⟩ := built_of_printed hprinted
  refine ⟨fs', h, by decide, ?_⟩
  obtain ⟨knowledge, pack, built, -, hbuilt, hfinal⟩ := buildFromSpec_ok h
  obtain ⟨hpath, hwrote⟩ := supportAuthoring.writes _ _ _ _ _ _ hbuilt
  rw [hpath] at hwrote hfinal
  refine (placedAsAsked_iff hwrote hfinal).not.mpr ?_
  rintro (hfile | hback)
  · exact absurd hfile (by decide)
  · have hlast : (components "packs").getLast? = some (.normal packsName) := by decide
    rw [LeadsBack, hlast] at hback
    obtain ⟨home, hhome, hfollow⟩ := hback
    have hcwd : helpDesk.canonicalize "." = .ok helpDesk.cwd := by decide
    cases hhome.1.symm.trans hcwd
    exact absurd hfollow (by decide)

end GreenticDw.Worker

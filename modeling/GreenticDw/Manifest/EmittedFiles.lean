import GreenticDw.Composition.AssetPaths
import GreenticDw.Manifest.Scopes

/-! The loose file that a manifest is written to, and the paths that are made of ids, together. -/

namespace GreenticDw

open Files

inductive EmitError where
  | manifestWrite (path : PathBuf) (source : IoError)
  | outputSerialize (e : String)

section Emission

variable {Disk δ : Type} (createDirAll : Disk → PathBuf → Except IoError Disk)
  (write : Disk → PathBuf → String → Except IoError Disk)
  (toStringPretty : DigitalWorkerManifest δ → Except String String)

def emitManifestFile (disk : Disk) (manifest : DigitalWorkerManifest δ) (dir : PathBuf) :
    Except EmitError (PathBuf × Disk) := do
  let disk ← (createDirAll disk dir).mapError (.manifestWrite dir)
  let path := join dir (manifest.id ++ ".json")
  let json ← (toStringPretty manifest).mapError .outputSerialize
  let disk ← (write disk path json).mapError (.manifestWrite path)
  return (path, disk)

end Emission

lemma isName_json {piece : List Char} (h : '/' ∉ piece) : IsName (piece ++ ".json".toList) := by
  have hlength : 5 ≤ (piece ++ ".json".toList).length := by
    rw [List.length_append]
    exact Nat.le_add_left _ _
  have hne : ∀ short : List Char, short.length < 5 → piece ++ ".json".toList ≠ short := by
    intro short hshort heq
    rw [heq] at hlength
    omega
  refine ⟨hne _ (by decide), hne _ (by decide), hne _ (by decide), ?_⟩
  rw [List.mem_append, not_or]
  exact ⟨h, by decide⟩

def manifestFile (manifestId : String) : Name where
  text := String.ofList ((pieces manifestId).getLast (pieces_ne_nil manifestId)) ++ ".json"
  isName := by
    rw [String.toList_append, String.toList_ofList]
    exact isName_json (not_mem_of_mem_splitOn _ (List.getLast_mem _))

/-- The id does not start at the root and does not climb, unless to come back by the same names. -/
def ManifestIdStays (root : Location) (manifestId : String) : Prop :=
  let climb := climbOf (body (pieces manifestId).dropLast)
  (if manifestId.toList.head? = some '/' then root else root.rtake climb.levels) <+:
    climb.names ++ [manifestFile manifestId]

instance (root : Location) (manifestId : String) : Decidable (ManifestIdStays root manifestId) :=
  inferInstanceAs (Decidable (_ <+: _))

variable {Disk δ : Type} {createDirAll : Disk → PathBuf → Except IoError Disk}
  {write : Disk → PathBuf → String → Except IoError Disk}
  {toStringPretty : DigitalWorkerManifest δ → Except String String} {disk disk' : Disk}
  {manifest : DigitalWorkerManifest δ} {dir written : PathBuf} {cwd : Location}

lemma emitManifestFile_ok
    (h : emitManifestFile createDirAll write toStringPretty disk manifest dir = .ok (written, disk')) :
    written = join dir (manifest.id ++ ".json") ∧
      ∃ between json, write between written json = .ok disk' := by
  obtain ⟨between, -, h⟩ := except_bind_eq_ok.mp h
  obtain ⟨json, -, h⟩ := except_bind_eq_ok.mp h
  obtain ⟨after, hwrite, h⟩ := except_bind_eq_ok.mp h
  cases except_pure_eq_ok.mp h
  exact ⟨rfl, between, json, except_mapError_eq_ok.mp hwrite⟩

lemma isAbsolute_json (manifestId : String) :
    isAbsolute (manifestId ++ ".json") ↔ manifestId.toList.head? = some '/' := by
  rw [isAbsolute_iff, String.toList_append]
  cases manifestId.toList with
  | nil => decide
  | cons c cs => rfl

lemma body_json (manifestId : String) : body (pieces (manifestId ++ ".json")) =
    body (pieces manifestId).dropLast ++ [.normal (manifestFile manifestId)] := by
  have htext : (manifestFile manifestId).text.toList =
      (pieces manifestId).getLast (pieces_ne_nil manifestId) ++ ".json".toList := by
    rw [manifestFile, String.toList_append, String.toList_ofList]
  have hlast : body [(manifestFile manifestId).text.toList] =
      [.normal (manifestFile manifestId)] := by
    rw [body, List.filterMap_cons, componentOf_name]
    rfl
  rw [pieces_append_of_notMem (by decide), body_append, ← htext, hlast]

lemma below_json (base : PathBuf) (manifestId : String) :
    Below cwd base (join base (manifestId ++ ".json")) ↔
      ManifestIdStays (walk cwd (components base)) manifestId := by
  rw [ManifestIdStays]
  by_cases habs : isAbsolute (manifestId ++ ".json")
  · rw [below_join_of_isAbsolute habs, body_json, climbOf_concat,
      if_pos ((isAbsolute_json manifestId).mp habs)]
  · rw [below_join habs, body_json, climbOf_concat, if_neg (habs ∘ (isAbsolute_json manifestId).mpr)]
    rfl

theorem derived_paths_below_iff (cwd : Location) (document : DwCompositionDocument)
    (supplier : FsAssetSupplier) (createDirAll : Disk → PathBuf → Except IoError Disk)
    (write : Disk → PathBuf → String → Except IoError Disk)
    (toStringPretty : DigitalWorkerManifest δ → Except String String) (disk : Disk)
    (manifest : DigitalWorkerManifest δ) (dir : PathBuf) :
    (∀ spec, document.toApplicationPackSpec = .ok spec →
      ((∀ descriptor ∈ spec.configured,
          Below cwd supplier.baseDir (supplier.fullPath descriptor)) ↔
        ∀ agent ∈ document.agents,
          AgentIdStays (walk cwd (components supplier.baseDir)) agent.agentId)) ∧
    ∀ written disk', emitManifestFile createDirAll write toStringPretty disk manifest dir =
        .ok (written, disk') →
      (Below cwd dir written ↔ ManifestIdStays (walk cwd (components dir)) manifest.id) := by
  constructor
  · intro spec hspec
    exact DwCompositionDocument.below_configured_iff hspec
  · intro written disk' hemit
    rw [(emitManifestFile_ok hemit).1]
    exact below_json dir manifest.id

def writePath (disk : List PathBuf) (path : PathBuf) (_ : String) :
    Except IoError (List PathBuf) :=
  .ok (path :: disk)

def emitted (manifestId : String) (dir : PathBuf) : Except EmitError (PathBuf × List PathBuf) :=
  emitManifestFile (fun disk _ => .ok disk) writePath (fun _ => .ok "{}") []
    { supportManifest with id := manifestId } dir

theorem derived_paths_below_desk :
    (∀ descriptor ∈ ((deskRequest ∅).document deskCatalog).packSpec.configured,
      Below [] "/srv/packs" ((FsAssetSupplier.mk "/srv/packs").fullPath descriptor)) ∧
    Below [] "/srv/out" "/srv/out/dw.support.bot.json" := by
  have hboth := derived_paths_below_iff [] ((deskRequest ∅).document deskCatalog)
    ⟨"/srv/packs"⟩ (fun disk _ => .ok disk) writePath (fun _ => .ok "{}") []
    { supportManifest with id := "dw.support.bot" } "/srv/out"
  constructor
  · exact (hboth.1 _ PackBuilder.materialized_desk).mpr (by decide)
  · exact (hboth.2 _ _ rfl).mpr (by decide)

def climbingAgents : DwCompositionDocument :=
  { deskRequest ∅ with agents := [deskAgent "../../secret" ∅] }.document deskCatalog

theorem derived_paths_escape :
    (∃ spec, climbingAgents.toApplicationPackSpec = .ok spec ∧ ∃ descriptor ∈ spec.configured,
      ¬ Below [] "/srv/packs" ((FsAssetSupplier.mk "/srv/packs").fullPath descriptor)) ∧
    ∃ written disk, emitted "/etc/worker" "/srv/out" = .ok (written, disk) ∧
      ¬ Below [] "/srv/out" written := by
  have hspec : climbingAgents.toApplicationPackSpec = .ok climbingAgents.packSpec :=
    DwCompositionDocument.toApplicationPackSpec_eq_ok.mpr ⟨List.cons_ne_nil _ _, rfl⟩
  exact ⟨⟨_, hspec, by decide⟩, _, _, rfl, by decide⟩

end GreenticDw

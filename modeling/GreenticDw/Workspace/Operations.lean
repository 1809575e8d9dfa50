import GreenticDw.Orders.KeyedLists
import GreenticDw.Providers.WorkspaceMem
import Mathlib.Data.String.Basic

namespace GreenticDw

open Text

structure ArtifactSummary where
  artifact : ArtifactRef
  latestVersion : ArtifactVersion
  metadata : ArtifactMetadata
  deriving DecidableEq, Repr

structure UpdateArtifactRequest where
  artifactId : String
  body : String
  derivedFrom : List ArtifactRef
  provenance : List String
  deriving DecidableEq, Repr

structure ListArtifactsRequest where
  scope : WorkspaceScope
  deriving DecidableEq, Repr

structure LinkArtifactsRequest where
  fromArtifactId : String
  toArtifactId : String
  relation : String
  deriving DecidableEq, Repr

def validateVersionProgression (previous next : ArtifactVersion) : Except WorkspaceError Unit := do
  rejectIf (previous.artifactId ≠ next.artifactId)
    (.validation "artifact versions must reference the same artifact_id")
  rejectIf (next.version ≠ previous.version + 1)
    (.validation "artifact version increments must be immutable and sequential")

namespace ArtifactStore

def modify (store : ArtifactStore) (artifactId : String) (change : StoredArtifact → StoredArtifact) :
    ArtifactStore :=
  store.map fun entry => if entry.1 = artifactId then (entry.1, change entry.2) else entry

variable {store : ArtifactStore} {artifactId : String}

lemma find_cons (key : String) (stored : StoredArtifact) (store : ArtifactStore) :
    ArtifactStore.find ((key, stored) :: store) artifactId =
      if key = artifactId then some stored else store.find artifactId := by
  by_cases hk : key = artifactId <;> simp [find, hk]

lemma find_insert (key : String) (stored : StoredArtifact) :
    (store.insert key stored).find artifactId =
      if key = artifactId then some stored else store.find artifactId :=
  find_cons key stored store

lemma find_modify (key : String) (change : StoredArtifact → StoredArtifact) :
    (store.modify key change).find artifactId =
      if key = artifactId then (store.find artifactId).map change else store.find artifactId := by
  induction store with
  | nil => simp [modify, find]
  | cons entry store ih =>
    obtain ⟨id, stored⟩ := entry
    rw [modify, List.map_cons, ← modify]
    by_cases hk : id = key
    · subst hk
      rw [if_pos rfl, find_cons, find_cons, ih]
      by_cases hid : id = artifactId <;> simp [hid]
    · rw [if_neg hk, find_cons, find_cons, ih]
      by_cases hid : id = artifactId
      · subst hid
        simp [Ne.symm hk]
      · simp [hid]

lemma ids_modify (key : String) (change : StoredArtifact → StoredArtifact) :
    (store.modify key change).map Prod.fst = store.map Prod.fst := by
  rw [modify, List.map_map]
  apply List.map_congr_left
  intro entry _
  by_cases hk : entry.1 = key <;> simp [hk]

lemma find_eq_some_iff {stored : StoredArtifact} (h : (store.map Prod.fst).Nodup) :
    store.find artifactId = some stored ↔ (artifactId, stored) ∈ store := by
  induction store with
  | nil => simp [find]
  | cons entry store ih =>
    obtain ⟨id, other⟩ := entry
    obtain ⟨hid, hstore⟩ := List.nodup_cons.mp h
    rw [find_cons, List.mem_cons, ← ih hstore, Prod.mk.injEq]
    by_cases hk : id = artifactId
    · subst hk
      have hnone : ArtifactStore.find store id ≠ some stored := fun hs =>
        hid (List.mem_map.mpr ⟨_, (ih hstore).mp hs, rfl⟩)
      simp [hnone, eq_comm (a := other)]
    · simp [hk, Ne.symm hk]

def summary (stored : StoredArtifact) : Option ArtifactSummary :=
  stored.versions.getLast?.map fun latest => ⟨stored.artifact, latest, stored.metadata⟩

def listed (store : ArtifactStore) (scope : WorkspaceScope) : List ArtifactSummary :=
  sortBy (·.artifact.artifactId)
    (((store.map Prod.snd).filter fun stored => stored.artifact.scope = scope).filterMap summary)

end ArtifactStore

inductive WorkspaceOperation where
  | create (req : CreateArtifactRequest)
  | read (req : ReadArtifactRequest)
  | update (req : UpdateArtifactRequest)
  | list (req : ListArtifactsRequest)
  | link (req : LinkArtifactsRequest)
  deriving DecidableEq, Repr

inductive WorkspaceReply where
  | created (artifact : ArtifactRef)
  | content (content : ArtifactContent)
  | updated (version : ArtifactVersion)
  | listed (summaries : List ArtifactSummary)
  | linked
  deriving DecidableEq, Repr

abbrev WorkspaceAnswer := Except WorkspaceError WorkspaceReply

def WorkspaceOperation.target : WorkspaceOperation → Option String
  | .create req => some req.artifact.artifactId
  | .update req => some req.artifactId
  | .link req => some req.fromArtifactId
  | .read _ => none
  | .list _ => none

namespace InMemoryWorkspace

variable {σ : Type} (workspace : InMemoryWorkspace σ)

def nextVersion (req : UpdateArtifactRequest) (previous : ArtifactVersion) (createdAt : String) :
    ArtifactVersion where
  artifactId := req.artifactId
  version := previous.version + 1
  checksum := workspace.checksum req.body
  createdAt := createdAt
  derivedFrom := req.derivedFrom
  provenance := req.provenance

def updateArtifact (req : UpdateArtifactRequest) (s : σ) :
    Except WorkspaceError ArtifactVersion × σ :=
  match (workspace.store.read s).find req.artifactId with
  | none => (.error (notFound req.artifactId), s)
  | some entry =>
    match entry.versions.getLast? with
    | none => (.error (.provider "artifact has no versions"), s)
    | some previous =>
      let (createdAt, s) := workspace.clock s
      let next := workspace.nextVersion req previous createdAt
      match validateVersionProgression previous next with
      | .error e => (.error e, s)
      | .ok _ => (.ok next, workspace.store.write ((workspace.store.read s).modify req.artifactId
          fun entry => { entry with body := req.body, versions := entry.versions ++ [next] }) s)

def listArtifacts (req : ListArtifactsRequest) (s : σ) :
    Except WorkspaceError (List ArtifactSummary) × σ :=
  (.ok ((workspace.store.read s).listed req.scope), s)

def linkArtifacts (req : LinkArtifactsRequest) (s : σ) : Except WorkspaceError Unit × σ :=
  if isBlank req.relation then
    (.error (.validation "link relation must not be empty"), s)
  else if ((workspace.store.read s).find req.toArtifactId).isNone then
    (.error (notFound req.toArtifactId), s)
  else if ((workspace.store.read s).find req.fromArtifactId).isNone then
    (.error (notFound req.fromArtifactId), s)
  else
    (.ok (), workspace.store.write ((workspace.store.read s).modify req.fromArtifactId
      fun entry => { entry with links := entry.links ++ [⟨req.toArtifactId, req.relation⟩] }) s)

def apply (operation : WorkspaceOperation) (s : σ) : WorkspaceAnswer × σ :=
  match operation with
  | .create req => Prod.map (Except.map .created) id (workspace.createArtifact req s)
  | .read req => Prod.map (Except.map .content) id (workspace.readArtifact req s)
  | .update req => Prod.map (Except.map .updated) id (workspace.updateArtifact req s)
  | .list req => Prod.map (Except.map .listed) id (workspace.listArtifacts req s)
  | .link req => Prod.map (Except.map fun _ => .linked) id (workspace.linkArtifacts req s)

def run : List WorkspaceOperation → σ → List (WorkspaceOperation × WorkspaceAnswer) × σ
  | [], s => ([], s)
  | operation :: operations, s =>
    let (answer, s) := workspace.apply operation s
    let (history, s) := run operations s
    ((operation, answer) :: history, s)

lemma run_cons (operation : WorkspaceOperation) (operations : List WorkspaceOperation) (s : σ) :
    workspace.run (operation :: operations) s =
      ((operation, (workspace.apply operation s).1) ::
          (workspace.run operations (workspace.apply operation s).2).1,
        (workspace.run operations (workspace.apply operation s).2).2) := rfl

inductive Stepped (store : ArtifactStore) :
    WorkspaceOperation → WorkspaceAnswer → ArtifactStore → Prop
  | refused {operation : WorkspaceOperation} {e : WorkspaceError} :
      Stepped store operation (.error e) store
  | created {req : CreateArtifactRequest} {createdAt : String} :
      validateCreateArtifactRequest req = .ok () → store.find req.artifact.artifactId = none →
      Stepped store (.create req) (.ok (.created req.artifact))
        (store.insert req.artifact.artifactId ⟨req.artifact, req.metadata, req.body,
          [workspace.firstVersion req createdAt], []⟩)
  | looked {req : ReadArtifactRequest} {entry : StoredArtifact} {version : ArtifactVersion} :
      store.find req.artifactId = some entry → entry.versions.getLast? = some version →
      Stepped store (.read req)
        (.ok (.content ⟨entry.artifact, entry.metadata, version, entry.body⟩)) store
  | updated {req : UpdateArtifactRequest} {entry : StoredArtifact} {previous : ArtifactVersion}
      {createdAt : String} :
      store.find req.artifactId = some entry → entry.versions.getLast? = some previous →
      Stepped store (.update req) (.ok (.updated (workspace.nextVersion req previous createdAt)))
        (store.modify req.artifactId fun entry => { entry with
          body := req.body
          versions := entry.versions ++ [workspace.nextVersion req previous createdAt] })
  | listed {req : ListArtifactsRequest} :
      Stepped store (.list req) (.ok (.listed (store.listed req.scope))) store
  | linked {req : LinkArtifactsRequest} {entry : StoredArtifact} :
      store.find req.fromArtifactId = some entry →
      Stepped store (.link req) (.ok .linked) (store.modify req.fromArtifactId fun entry =>
        { entry with links := entry.links ++ [⟨req.toArtifactId, req.relation⟩] })

def SteadyClock : Prop := ∀ s, workspace.store.read (workspace.clock s).2 = workspace.store.read s

variable {workspace}

theorem stepped (hclock : workspace.SteadyClock) (operation : WorkspaceOperation) (s : σ) :
    workspace.Stepped (workspace.store.read s) operation (workspace.apply operation s).1
      (workspace.store.read (workspace.apply operation s).2) := by
  cases operation with
  | create req =>
    simp only [apply, createArtifact, Prod.map_fst, Prod.map_snd, id_eq]
    cases hv : validateCreateArtifactRequest req with
    | error e => exact .refused
    | ok _ =>
      by_cases hf : ((workspace.store.read s).find req.artifact.artifactId).isSome = true
      · rw [if_pos hf]
        exact .refused
      · rw [if_neg hf]
        simp only [Except.map, workspace.store.read_write, hclock s]
        exact .created hv (by simpa using hf)
  | read req =>
    simp only [apply, readArtifact, Prod.map_fst, Prod.map_snd, id_eq]
    cases hf : (workspace.store.read s).find req.artifactId with
    | none => exact .refused
    | some entry =>
      cases hl : entry.versions.getLast? with
      | none =>
        simp only [hl]
        exact .refused
      | some version =>
        simp only [hl]
        exact .looked hf hl
  | update req =>
    simp only [apply, updateArtifact, Prod.map_fst, Prod.map_snd, id_eq]
    cases hf : (workspace.store.read s).find req.artifactId with
    | none => exact .refused
    | some entry =>
      cases hl : entry.versions.getLast? with
      | none =>
        simp only [hl]
        exact .refused
      | some previous =>
        simp only [hl]
        cases validateVersionProgression previous
          (workspace.nextVersion req previous (workspace.clock s).1) with
        | error e =>
          simp only [Except.map, hclock s]
          exact .refused
        | ok _ =>
          simp only [Except.map, workspace.store.read_write, hclock s]
          exact .updated hf hl
  | list req => exact .listed
  | link req =>
    simp only [apply, linkArtifacts, Prod.map_fst, Prod.map_snd, id_eq]
    split_ifs with hblank hto hfrom
    · exact .refused
    · exact .refused
    · exact .refused
    · rw [workspace.store.read_write]
      obtain ⟨entry, hf⟩ := Option.ne_none_iff_exists'.mp (by simpa using hfrom)
      exact .linked hf

end InMemoryWorkspace

end GreenticDw

import GreenticDw.Providers.Workspace
import GreenticDw.Traced.Cells

namespace GreenticDw

structure ArtifactLink where
  toArtifactId : String
  relation : String
  deriving DecidableEq, Repr

structure StoredArtifact where
  artifact : ArtifactRef
  metadata : ArtifactMetadata
  body : String
  versions : List ArtifactVersion
  links : List ArtifactLink
  deriving DecidableEq, Repr

abbrev ArtifactStore := List (String × StoredArtifact)

namespace ArtifactStore

def find (store : ArtifactStore) (artifactId : String) : Option StoredArtifact :=
  (store.find? fun entry => entry.1 = artifactId).map Prod.snd

def insert (store : ArtifactStore) (artifactId : String) (stored : StoredArtifact) :
    ArtifactStore :=
  (artifactId, stored) :: store

end ArtifactStore

/-- The store is a part of the environment, which also keeps the time. -/
structure InMemoryWorkspace (σ : Type) where
  store : Cell σ ArtifactStore
  clock : σ → String × σ
  blake3Hex : String → String

namespace InMemoryWorkspace

variable {σ : Type} (workspace : InMemoryWorkspace σ)

def checksum (body : String) : String := "blake3:" ++ workspace.blake3Hex body

def notFound (artifactId : String) : WorkspaceError :=
  .provider ("artifact not found: " ++ artifactId)

def firstVersion (req : CreateArtifactRequest) (createdAt : String) : ArtifactVersion where
  artifactId := req.artifact.artifactId
  version := 1
  checksum := workspace.checksum req.body
  createdAt := createdAt
  derivedFrom := []
  provenance := []

def createArtifact (req : CreateArtifactRequest) (s : σ) : Except WorkspaceError ArtifactRef × σ :=
  match validateCreateArtifactRequest req with
  | .error e => (.error e, s)
  | .ok _ =>
    if ((workspace.store.read s).find req.artifact.artifactId).isSome then
      (.error (.provider ("artifact already exists: " ++ req.artifact.artifactId)), s)
    else
      let (createdAt, s) := workspace.clock s
      let stored : StoredArtifact :=
        ⟨req.artifact, req.metadata, req.body, [workspace.firstVersion req createdAt], []⟩
      (.ok req.artifact, workspace.store.write
        ((workspace.store.read s).insert req.artifact.artifactId stored) s)

def readArtifact (req : ReadArtifactRequest) (s : σ) :
    Except WorkspaceError ArtifactContent × σ :=
  match (workspace.store.read s).find req.artifactId with
  | none => (.error (notFound req.artifactId), s)
  | some entry =>
    match entry.versions.getLast? with
    | none => (.error (.provider "artifact has no versions"), s)
    | some version => (.ok ⟨entry.artifact, entry.metadata, version, entry.body⟩, s)

def alreadyExists (artifactId : String) : WorkspaceError :=
  .provider ("artifact already exists: " ++ artifactId)

def ids (s : σ) : List String := (workspace.store.read s).map Prod.fst

variable {workspace} {req : CreateArtifactRequest} {s : σ}

lemma find_isSome_iff {artifactId : String} :
    ((workspace.store.read s).find artifactId).isSome ↔ artifactId ∈ workspace.ids s := by
  simp [ArtifactStore.find, ids]

lemma createArtifact_alreadyExists_iff :
    (workspace.createArtifact req s).1 = .error (alreadyExists req.artifact.artifactId) ↔
      validateCreateArtifactRequest req = .ok () ∧ req.artifact.artifactId ∈ workspace.ids s := by
  cases hv : validateCreateArtifactRequest req with
  | error e =>
    have he := isValidation_of_validate hv
    cases e with
    | validation message => simp [createArtifact, hv, alreadyExists]
    | provider message => exact he.elim
  | ok u =>
    rw [← find_isSome_iff]
    by_cases hf : ((workspace.store.read s).find req.artifact.artifactId).isSome
    · simp [createArtifact, hv, hf, alreadyExists]
    · simp [createArtifact, hv, hf]

lemma createArtifact_error {e : WorkspaceError}
    (h : (workspace.createArtifact req s).1 = .error e) : (workspace.createArtifact req s).2 = s := by
  cases hv : validateCreateArtifactRequest req with
  | error e => simp [createArtifact, hv]
  | ok u =>
    by_cases hf : ((workspace.store.read s).find req.artifact.artifactId).isSome
    · simp [createArtifact, hv, hf]
    · simp [createArtifact, hv, hf] at h

lemma createArtifact_ok {artifact : ArtifactRef}
    (h : (workspace.createArtifact req s).1 = .ok artifact)
    (hclock : ∀ s, workspace.ids (workspace.clock s).2 = workspace.ids s) :
    artifact = req.artifact ∧
      workspace.ids (workspace.createArtifact req s).2 =
        req.artifact.artifactId :: workspace.ids s := by
  cases hv : validateCreateArtifactRequest req with
  | error e => simp [createArtifact, hv] at h
  | ok u =>
    by_cases hf : ((workspace.store.read s).find req.artifact.artifactId).isSome
    · simp [createArtifact, hv, hf] at h
    · have hids := hclock s
      simp only [ids] at hids
      refine ⟨?_, ?_⟩
      · simpa [createArtifact, hv, hf, eq_comm] using h
      · simp [createArtifact, hv, hf, ids, workspace.store.read_write, ArtifactStore.insert, hids]

end InMemoryWorkspace

def InMemoryWorkspaceProvider {σ : Type} (workspace : InMemoryWorkspace σ) :
    WorkspaceProvider σ where
  createArtifact := workspace.createArtifact
  readArtifact := workspace.readArtifact

lemma InMemoryWorkspaceProvider_createArtifact {σ : Type} (workspace : InMemoryWorkspace σ) :
    (InMemoryWorkspaceProvider workspace).createArtifact = workspace.createArtifact := by
  rw [InMemoryWorkspaceProvider]

end GreenticDw

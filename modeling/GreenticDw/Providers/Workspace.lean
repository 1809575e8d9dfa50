import GreenticDw.Text.Strings
import GreenticDw.Traced.Checks

namespace GreenticDw

open Text

inductive ArtifactKind where
  | note
  | draft
  | evidence
  | toolOutput
  | promptFragment
  | table
  | reportSection
  | custom (name : String)
  deriving DecidableEq, Repr

structure WorkspaceScope where
  tenant : String
  team : Option String
  session : String
  agent : Option String
  run : String
  deriving DecidableEq, Repr

structure ArtifactRef where
  artifactId : String
  kind : ArtifactKind
  scope : WorkspaceScope
  deriving DecidableEq, Repr

structure ArtifactMetadata where
  title : String
  tags : List String
  mimeType : Option String
  deriving DecidableEq, Repr

structure ArtifactVersion where
  artifactId : String
  version : UInt32
  checksum : String
  createdAt : String
  derivedFrom : List ArtifactRef
  provenance : List String
  deriving DecidableEq, Repr

structure ArtifactContent where
  artifact : ArtifactRef
  metadata : ArtifactMetadata
  version : ArtifactVersion
  body : String
  deriving DecidableEq, Repr

structure CreateArtifactRequest where
  artifact : ArtifactRef
  metadata : ArtifactMetadata
  body : String
  deriving DecidableEq, Repr

structure ReadArtifactRequest where
  artifactId : String
  deriving DecidableEq, Repr

inductive WorkspaceError where
  | validation (message : String)
  | provider (message : String)
  deriving DecidableEq, Repr

structure WorkspaceProvider (σ : Type) where
  createArtifact : CreateArtifactRequest → σ → Except WorkspaceError ArtifactRef × σ
  readArtifact : ReadArtifactRequest → σ → Except WorkspaceError ArtifactContent × σ

def validateMetadata (metadata : ArtifactMetadata) : Except WorkspaceError Unit :=
  rejectIf (isBlank metadata.title) (.validation "artifact title must not be empty")

def validateCreateArtifactRequest (req : CreateArtifactRequest) : Except WorkspaceError Unit := do
  rejectIf (isBlank req.artifact.artifactId) (.validation "artifact_id must not be empty")
  rejectIf (isBlank req.artifact.scope.tenant) (.validation "scope tenant must not be empty")
  rejectIf (isBlank req.artifact.scope.session) (.validation "scope session must not be empty")
  rejectIf (isBlank req.artifact.scope.run) (.validation "scope run must not be empty")
  validateMetadata req.metadata

def WorkspaceError.IsValidation : WorkspaceError → Prop
  | .validation _ => True
  | .provider _ => False

lemma isValidation_of_validate {req : CreateArtifactRequest} {e : WorkspaceError}
    (h : validateCreateArtifactRequest req = .error e) : e.IsValidation := by
  simp only [validateCreateArtifactRequest, validateMetadata, except_bind_eq_error,
    rejectIf_eq_error] at h
  rcases h with ⟨_, rfl⟩ | ⟨_, _, ⟨_, rfl⟩ | ⟨_, _, ⟨_, rfl⟩ | ⟨_, _, ⟨_, rfl⟩ | ⟨_, _, _, rfl⟩⟩⟩⟩ <;>
    trivial

structure CreateArtifactRequest.Complete (req : CreateArtifactRequest) : Prop where
  artifactId : isBlank req.artifact.artifactId = false
  tenant : isBlank req.artifact.scope.tenant = false
  session : isBlank req.artifact.scope.session = false
  run : isBlank req.artifact.scope.run = false
  title : isBlank req.metadata.title = false

lemma validateCreateArtifactRequest_eq_ok {req : CreateArtifactRequest} {u : Unit} :
    validateCreateArtifactRequest req = .ok u ↔ req.Complete := by
  simp only [validateCreateArtifactRequest, validateMetadata, except_bind_eq_ok, rejectIf_eq_ok,
    Bool.not_eq_true]
  constructor
  · rintro ⟨_, h₁, _, h₂, _, h₃, _, h₄, h₅⟩
    exact ⟨h₁, h₂, h₃, h₄, h₅⟩
  · rintro ⟨h₁, h₂, h₃, h₄, h₅⟩
    exact ⟨(), h₁, (), h₂, (), h₃, (), h₄, h₅⟩

end GreenticDw

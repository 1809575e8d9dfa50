import GreenticDw.Llm.Chat
import GreenticDw.Llm.Rendering
import GreenticDw.Providers.WorkspaceMem
import GreenticDw.Text.Numbered

/-! Context packages that are compressed or summarized by a model and kept as artifacts. -/

namespace GreenticDw

structure CompressContextRequest where
  package : ContextPackage
  deriving DecidableEq, Repr

structure SummarizeContextRequest where
  package : ContextPackage
  deriving DecidableEq, Repr

structure CompressedContext where
  sourcePackageId : String
  compressedArtifactRef : String
  fragmentCount : UInt32
  deriving DecidableEq, Repr

structure SummaryArtifactRef where
  artifactRef : String
  deriving DecidableEq, Repr

def WorkspaceError.display : WorkspaceError → String
  | .validation message => "validation error: " ++ message
  | .provider message => "provider error: " ++ message

lemma validation_ne_provider (message message' : String) :
    "validation error: " ++ message ≠ "provider error: " ++ message' := by
  intro h
  have hletter := congrArg (fun s : String => s.toList.head?) h
  simp at hletter

lemma WorkspaceError.display_inj {e e' : WorkspaceError} : e.display = e'.display ↔ e = e' := by
  constructor
  · intro h
    cases e with
    | validation message =>
      cases e' with
      | validation message' => exact congrArg _ ((String.append_right_inj _).mp h)
      | provider message' => exact (validation_ne_provider _ _ h).elim
    | provider message =>
      cases e' with
      | validation message' => exact (validation_ne_provider _ _ h.symm).elim
      | provider message' => exact congrArg _ ((String.append_right_inj _).mp h)
  · exact congrArg display

namespace LlmContext

def systemForCompress : String :=
  "You are a context-compression assistant in a deep-worker system. Condense the supplied " ++
  "context into the smallest faithful form that preserves every fact needed for downstream " ++
  "reasoning. Respond with ONLY the compressed text — no preamble, no JSON, no markdown fences."

def systemForSummarize : String :=
  "You are a context-summarization assistant in a deep-worker system. Produce a concise " ++
  "prose summary of the supplied context. Respond with ONLY the summary text — no preamble, no " ++
  "JSON, no markdown fences."

def userForCompress (rendered : String) : String :=
  "Compress the following context:\n\n" ++ rendered

def userForSummarize (rendered : String) : String :=
  "Summarize the following context:\n\n" ++ rendered

inductive Condensing where
  | compress
  | summarize
  deriving DecidableEq, Repr

namespace Condensing

def system : Condensing → String
  | .compress => systemForCompress
  | .summarize => systemForSummarize

def user : Condensing → String → String
  | .compress => userForCompress
  | .summarize => userForSummarize

def label : Condensing → String
  | .compress => "::compressed::"
  | .summarize => "::summary::"

def kind : Condensing → ArtifactKind
  | .compress => .promptFragment
  | .summarize => .reportSection

def title : Condensing → String
  | .compress => "compressed context"
  | .summarize => "context summary"

def artifactId (method : Condensing) (packageId : String) (id : UInt64) : String :=
  packageId ++ method.label ++ toString id

lemma toList_artifactId (method : Condensing) (packageId : String) (id : UInt64) :
    (method.artifactId packageId id).toList =
      (packageId.toList ++ method.label.toList.dropLast) ++ ':' :: (toString id.toNat).toList := by
  have hlabel : method.label.toList = method.label.toList.dropLast ++ [':'] := by
    cases method <;> rfl
  have hnumber : toString id = toString id.toNat := rfl
  rw [artifactId, String.toList_append, String.toList_append, hlabel, hnumber,
    List.dropLast_concat]
  simp

theorem artifactId_inj {method method' : Condensing} {packageId packageId' : String}
    {id id' : UInt64} : method.artifactId packageId id = method'.artifactId packageId' id' ↔
      method = method' ∧ packageId = packageId' ∧ id = id' := by
  constructor
  · intro h
    rw [← String.toList_inj, toList_artifactId, toList_artifactId, Text.append_number_inj rfl,
      UInt64.toNat_inj] at h
    obtain ⟨hfront, hid⟩ := h
    have hmethod : method = method' := by
      -- the labels differ in the letter before their last two colons
      have hletter := congrArg (fun cs => cs.reverse[1]?) hfront
      cases method <;> cases method' <;> simp [label] at hletter ⊢
    subst hmethod
    exact ⟨rfl, String.toList_inj.mp (List.append_cancel_right hfront), hid⟩
  · rintro ⟨rfl, rfl, rfl⟩
    rfl

end Condensing

def textRequest (system user : String) : ChatRequest where
  messages := [.system system, .user user]
  tools := []
  toolChoice := none
  maxTokens := some 2048
  temperature := some (1 / 5)

section

variable {σ : Type}

def nextId (counter : Cell σ UInt64) (s : σ) : UInt64 × σ :=
  (counter.read s, counter.write (counter.read s + 1) s)

def completeText (llm : LlmProvider σ) (system user : String) (s : σ) :
    Except ContextError String × σ :=
  match llm.chat (textRequest system user) s with
  | (.error e, s) => (.error (.provider e.message), s)
  | (.ok response, s) => (.ok response.content, s)

def artifactRequest (scope : WorkspaceScope) (artifactId : String) (kind : ArtifactKind)
    (title body : String) : CreateArtifactRequest where
  artifact := ⟨artifactId, kind, scope⟩
  metadata := ⟨title, [], some "text/plain"⟩
  body := body

def writeArtifact (workspace : WorkspaceProvider σ) (scope : WorkspaceScope) (artifactId : String)
    (kind : ArtifactKind) (title body : String) (s : σ) : Except ContextError Unit × σ :=
  match workspace.createArtifact (artifactRequest scope artifactId kind title body) s with
  | (.error e, s) => (.error (.provider ("workspace write failed: " ++ e.display)), s)
  | (.ok _, s) => (.ok (), s)

section

variable {workspace : WorkspaceProvider σ} {scope : WorkspaceScope} {artifactId : String}
  {kind : ArtifactKind} {title body : String} {s : σ}

lemma writeArtifact_snd : (writeArtifact workspace scope artifactId kind title body s).2 =
    (workspace.createArtifact (artifactRequest scope artifactId kind title body) s).2 := by
  rw [writeArtifact]
  split <;> simp [*]

lemma writeArtifact_eq_ok : (writeArtifact workspace scope artifactId kind title body s).1 = .ok () ↔
    ∃ artifact, (workspace.createArtifact (artifactRequest scope artifactId kind title body) s).1 =
      .ok artifact := by
  rw [writeArtifact]
  split <;> simp [*]

lemma writeArtifact_eq_error {e : ContextError} :
    (writeArtifact workspace scope artifactId kind title body s).1 = .error e ↔
      ∃ e', (workspace.createArtifact (artifactRequest scope artifactId kind title body) s).1 =
        .error e' ∧ .provider ("workspace write failed: " ++ e'.display) = e := by
  rw [writeArtifact]
  split <;> simp [*]

end

variable (llm : LlmProvider σ) (workspace : WorkspaceProvider σ) (scope : WorkspaceScope)
  (counter : Cell σ UInt64)

def condense (method : Condensing) (package : ContextPackage) (s : σ) :
    Except ContextError String × σ :=
  match validateContextPackage package with
  | .error e => (.error e, s)
  | .ok _ =>
    match completeText llm method.system (method.user (renderPackage package)) s with
    | (.error e, s) => (.error e, s)
    | (.ok text, s) =>
      let (id, s) := nextId counter s
      let artifactId := method.artifactId package.packageId id
      match writeArtifact workspace scope artifactId method.kind method.title text s with
      | (.error e, s) => (.error e, s)
      | (.ok _, s) => (.ok artifactId, s)

def compressContext (req : CompressContextRequest) (s : σ) :
    Except ContextError CompressedContext × σ :=
  let (result, s) := condense llm workspace scope counter .compress req.package s
  (result.map fun artifactId =>
    ⟨req.package.packageId, artifactId, UInt32.ofNat req.package.fragments.length⟩, s)

def summarizeContext (req : SummarizeContextRequest) (s : σ) :
    Except ContextError SummaryArtifactRef × σ :=
  let (result, s) := condense llm workspace scope counter .summarize req.package s
  (result.map fun artifactId => ⟨artifactId⟩, s)

end

end LlmContext

end GreenticDw

import GreenticDw.Files.FileSystem
import GreenticDw.Files.Stems

namespace GreenticDw.Worker

open Files Text

structure KnowledgeSpec where
  documents : List String

structure WorkerSpec (Authored : Type) where
  knowledge : Option KnowledgeSpec
  authored : Authored

structure KnowledgeInput (Precomputed : Type) where
  id : String
  text : String
  precomputed : Option Precomputed

inductive ReadError where
  | io (error : IoError)
  | invalidData

inductive CliError where
  | workerSpecInvalid (report : String)
  | workerAssemble (message : String)
  | knowledgeDocumentRead (path : PathBuf) (source : ReadError)
  | knowledgeDocumentExtract (path : PathBuf) (message : String)
  | workerPackWrite (path : PathBuf) (source : IoError)

section Loading

variable {Authored Precomputed : Type}

def WorkerSpec.documents (spec : WorkerSpec Authored) : List String :=
  spec.knowledge.elim [] KnowledgeSpec.documents

variable (read : PathBuf → Except IoError ByteArray)
variable (extractTextFromMem : ByteArray → Except String String)

def readToString (path : PathBuf) : Except ReadError String := do
  let bytes ← (read path).mapError .io
  match String.fromUTF8? bytes with
  | some text => return text
  | none => throw .invalidData

def isPdf (path : PathBuf) : Bool := (extension path).elim false fun ext => eqIgnoreAsciiCase ext "pdf"

def extractDocumentText (path : PathBuf) : Except CliError String :=
  if isPdf path then do
    let bytes ← (read path).mapError fun source => .knowledgeDocumentRead path (.io source)
    (extractTextFromMem bytes).mapError fun error => .knowledgeDocumentExtract path error
  else (readToString read path).mapError fun source => .knowledgeDocumentRead path source

def resolveDocument (specDir : PathBuf) (document : String) : PathBuf :=
  if isAbsolute document then document else join specDir document

def knowledgeInput (specDir : PathBuf) (document : String) :
    Except CliError (KnowledgeInput Precomputed) := do
  let resolved := resolveDocument specDir document
  let text ← extractDocumentText read extractTextFromMem resolved
  return { id := (fileStem resolved).getD document, text, precomputed := none }

def loadKnowledgeInputs (spec : WorkerSpec Authored) (specDir : PathBuf) :
    Except CliError (List (KnowledgeInput Precomputed)) :=
  match spec.knowledge with
  | none => return []
  | some knowledge =>
    knowledge.documents.mapM (knowledgeInput read extractTextFromMem specDir)

def ReadsNames : Prop := ∀ path bytes, read path = .ok bytes → fileName path ≠ none

end Loading

section Distinct

variable {ε α β : Type} {f : α → Except ε β} {xs : List α} {ys : List β}

lemma forall₂_of_mapM (h : xs.mapM f = .ok ys) : List.Forall₂ (fun x y => f x = .ok y) xs ys := by
  induction xs generalizing ys with
  | nil =>
    rw [List.mapM_nil, except_pure_eq_ok] at h
    rw [← h]
    exact .nil
  | cons x xs ih =>
    rw [List.mapM_cons, except_bind_eq_ok] at h
    obtain ⟨y, hy, h⟩ := h
    obtain ⟨rest, hrest, h⟩ := except_bind_eq_ok.mp h
    rw [except_pure_eq_ok] at h
    rw [← h]
    exact .cons hy (ih hrest)

variable {read : PathBuf → Except IoError ByteArray}
  {extractTextFromMem : ByteArray → Except String String} {path specDir : PathBuf}
  {document text : String} {Authored Precomputed : Type} {spec : WorkerSpec Authored}
  {input : KnowledgeInput Precomputed} {inputs : List (KnowledgeInput Precomputed)}

lemma read_of_extractDocumentText (h : extractDocumentText read extractTextFromMem path = .ok text) :
    ∃ bytes, read path = .ok bytes := by
  rw [extractDocumentText] at h
  split_ifs at h with hpdf
  · obtain ⟨bytes, hread, -⟩ := except_bind_eq_ok.mp h
    exact ⟨bytes, except_mapError_eq_ok.mp hread⟩
  · rw [except_mapError_eq_ok, readToString, except_bind_eq_ok] at h
    obtain ⟨bytes, hread, -⟩ := h
    exact ⟨bytes, except_mapError_eq_ok.mp hread⟩

lemma knowledgeInput_ok
    (h : knowledgeInput read extractTextFromMem specDir document = .ok input) :
    extractDocumentText read extractTextFromMem (resolveDocument specDir document) = .ok input.text ∧
      input.id = (fileStem (resolveDocument specDir document)).getD document := by
  obtain ⟨text, htext, hinput⟩ := except_bind_eq_ok.mp h
  rw [except_pure_eq_ok] at hinput
  rw [← hinput]
  exact ⟨htext, rfl⟩

lemma loadKnowledgeInputs_forall₂
    (h : loadKnowledgeInputs read extractTextFromMem spec specDir = .ok inputs) :
    List.Forall₂ (fun document input =>
      knowledgeInput read extractTextFromMem specDir document = .ok input)
      spec.documents inputs := by
  rw [loadKnowledgeInputs] at h
  rw [WorkerSpec.documents]
  cases hknowledge : spec.knowledge with
  | none =>
    rw [hknowledge] at h
    rw [← except_pure_eq_ok.mp h]
    exact .nil
  | some knowledge =>
    rw [hknowledge] at h
    exact forall₂_of_mapM h

lemma map_eq_of_forall₂ {γ : Type} {p : α → β → Prop} {g : α → γ} {k : β → γ}
    (h : List.Forall₂ p xs ys) (hp : ∀ x y, p x y → k y = g x) : ys.map k = xs.map g := by
  induction h with
  | nil => rfl
  | cons hxy _ ih => rw [List.map_cons, List.map_cons, hp _ _ hxy, ih]

lemma stem_of_read (hread : ReadsNames read)
    (h : knowledgeInput read extractTextFromMem specDir document = .ok input) :
    fileStem (resolveDocument specDir document) = some input.id := by
  obtain ⟨htext, hid⟩ := knowledgeInput_ok h
  obtain ⟨bytes, hbytes⟩ := read_of_extractDocumentText htext
  obtain ⟨name, hname⟩ := Option.ne_none_iff_exists'.mp (hread _ _ hbytes)
  rw [hid, fileStem, hname]
  rfl

theorem knowledge_ids_nodup_iff (hread : ReadsNames read)
    (h : loadKnowledgeInputs read extractTextFromMem spec specDir = .ok inputs) :
    (List.Forall₂ (fun document input => extractDocumentText read extractTextFromMem
        (resolveDocument specDir document) = .ok input.text) spec.documents inputs ∧
      (inputs.map KnowledgeInput.id).Nodup) ↔
    spec.documents.Pairwise fun document document' =>
      ¬ SameStem (resolveDocument specDir document) (resolveDocument specDir document') := by
  have hloaded := loadKnowledgeInputs_forall₂ h
  have htexts := hloaded.imp fun document input hinput => (knowledgeInput_ok hinput).1
  have hstems : (inputs.map KnowledgeInput.id).map some =
      spec.documents.map fun document => fileStem (resolveDocument specDir document) := by
    rw [List.map_map]
    exact map_eq_of_forall₂ hloaded fun document input hinput => (stem_of_read hread hinput).symm
  have hpresent : ∀ document ∈ spec.documents,
      ∃ stem, fileStem (resolveDocument specDir document) = some stem := by
    intro document hdocument
    have hmem := List.mem_map_of_mem (f := fun document =>
      fileStem (resolveDocument specDir document)) hdocument
    rw [← hstems] at hmem
    obtain ⟨stem, -, hstem⟩ := List.mem_map.mp hmem
    exact ⟨stem, hstem.symm⟩
  rw [and_iff_right htexts, ← List.nodup_map_iff (Option.some_injective _), hstems, List.Nodup,
    List.pairwise_map]
  apply List.Pairwise.iff_of_mem
  intro document document' hdocument hdocument'
  rw [sameStem_iff, not_iff_not]
  obtain ⟨stem, hstem⟩ := hpresent document hdocument
  constructor
  · exact fun hsame => ⟨stem, hstem, hsame ▸ hstem⟩
  · rintro ⟨stem', hdoc, hdoc'⟩
    rw [hdoc, hdoc']

lemma readToString_toUTF8 (h : read path = .ok text.toUTF8) : readToString read path = .ok text := by
  have htext : String.fromUTF8? text.toUTF8 = some text := dif_pos text.isValidUTF8
  rw [readToString, h]
  simp only [Except.mapError, bind, Except.bind, htext]
  rfl

lemma knowledgeInput_of_text (hpdf : isPdf (resolveDocument specDir document) = false)
    (h : read (resolveDocument specDir document) = .ok text.toUTF8) :
    knowledgeInput read extractTextFromMem specDir document = .ok
      (⟨(fileStem (resolveDocument specDir document)).getD document, text, none⟩ :
        KnowledgeInput Precomputed) := by
  have htext : extractDocumentText read extractTextFromMem (resolveDocument specDir document) =
      .ok text := by
    rw [extractDocumentText, hpdf, readToString_toUTF8 h]
    rfl
  rw [knowledgeInput, htext]
  rfl

def policies (path : PathBuf) : Except IoError ByteArray :=
  if path = "desk/refunds/policy.md" then .ok "Refunds take 30 days.".toUTF8
  else if path = "desk/returns/policy.txt" then .ok "Returns are free.".toUTF8
  else if path = "desk/returns/questions.md" then .ok "Ask at the desk.".toUTF8
  else .error .notFound

def noPages (_ : ByteArray) : Except String String := .error "no pages"

def deskSpec (documents : List String) : WorkerSpec Unit :=
  { knowledge := some { documents }, authored := () }

lemma readsNames_policies : ReadsNames policies := by
  have hnames : ∀ known ∈ ["desk/refunds/policy.md", "desk/returns/policy.txt",
      "desk/returns/questions.md"], fileName known ≠ none := by decide
  intro path bytes h
  apply hnames
  by_contra hnot
  simp only [List.mem_cons, List.not_mem_nil, or_false, not_or] at hnot
  rw [policies, if_neg hnot.1, if_neg hnot.2.1, if_neg hnot.2.2] at h
  cases h

lemma load_two {document' : String} {input' : KnowledgeInput Precomputed}
    (h : knowledgeInput read extractTextFromMem specDir document = .ok input)
    (h' : knowledgeInput read extractTextFromMem specDir document' = .ok input') :
    loadKnowledgeInputs read extractTextFromMem (deskSpec [document, document']) specDir =
      .ok [input, input'] := by
  change [document, document'].mapM (knowledgeInput read extractTextFromMem specDir) = _
  rw [List.mapM_cons, h, List.mapM_cons, h', List.mapM_nil]
  rfl

lemma load_policy_questions : loadKnowledgeInputs policies noPages
    (deskSpec ["refunds/policy.md", "returns/questions.md"]) "desk" = .ok
      [(⟨"policy", "Refunds take 30 days.", none⟩ : KnowledgeInput Unit),
        ⟨"questions", "Ask at the desk.", none⟩] :=
  load_two (knowledgeInput_of_text (by decide) rfl) (knowledgeInput_of_text (by decide) rfl)

theorem knowledge_ids_nodup_policy_questions :
    (List.Forall₂ (fun document input => extractDocumentText policies noPages
        (resolveDocument "desk" document) = .ok input.text)
        ["refunds/policy.md", "returns/questions.md"]
        [(⟨"policy", "Refunds take 30 days.", none⟩ : KnowledgeInput Unit),
          ⟨"questions", "Ask at the desk.", none⟩] ∧
      (["policy", "questions"] : List String).Nodup) ↔
    ["refunds/policy.md", "returns/questions.md"].Pairwise fun document document' =>
      ¬ SameStem (resolveDocument "desk" document) (resolveDocument "desk" document') :=
  knowledge_ids_nodup_iff readsNames_policies load_policy_questions

theorem policies_share_id : ∃ inputs : List (KnowledgeInput Unit),
    loadKnowledgeInputs policies noPages
      (deskSpec ["refunds/policy.md", "returns/policy.txt"]) "desk" = .ok inputs ∧
    (["refunds/policy.md", "returns/policy.txt"].map (resolveDocument "desk")).Nodup ∧
    ¬ (inputs.map KnowledgeInput.id).Nodup := by
  have hload : loadKnowledgeInputs policies noPages
      (deskSpec ["refunds/policy.md", "returns/policy.txt"]) "desk" = .ok
        [(⟨"policy", "Refunds take 30 days.", none⟩ : KnowledgeInput Unit),
          ⟨"policy", "Returns are free.", none⟩] :=
    load_two (knowledgeInput_of_text (by decide) rfl) (knowledgeInput_of_text (by decide) rfl)
  exact ⟨_, hload, by decide, by decide⟩

end Distinct

end GreenticDw.Worker

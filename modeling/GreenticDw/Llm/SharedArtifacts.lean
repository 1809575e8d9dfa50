import GreenticDw.Llm.Condensing
import Mathlib.Logic.Relation

/-! Context providers that write to one workspace, with their calls interleaved. -/

namespace GreenticDw

structure LlmContextPool (σ ι : Type) where
  counter : ι → Cell σ UInt64
  llm : ι → LlmProvider σ
  scope : ι → WorkspaceScope
  workspace : InMemoryWorkspace σ
  counter_write : ∀ i j n s, i ≠ j → (counter j).read ((counter i).write n s) = (counter j).read s
  counter_store : ∀ i store s, (counter i).read (workspace.store.write store s) = (counter i).read s
  counter_clock : ∀ i s, (counter i).read (workspace.clock s).2 = (counter i).read s
  counter_chat : ∀ i j request s,
    (counter j).read ((llm i).chat request s).2 = (counter j).read s
  store_write : ∀ i n s, workspace.store.read ((counter i).write n s) = workspace.store.read s
  store_clock : ∀ s, workspace.store.read (workspace.clock s).2 = workspace.store.read s
  store_chat : ∀ i request s,
    workspace.store.read ((llm i).chat request s).2 = workspace.store.read s

namespace LlmContextPool

open LlmContext

structure Replied (ι : Type) where
  provider : ι
  method : Condensing
  packageId : String
  text : String
  deriving DecidableEq

structure Drawn (ι : Type) extends Replied ι where
  turn : ℕ
  id : UInt64
  deriving DecidableEq

def Drawn.artifactId {ι : Type} (call : Drawn ι) : String :=
  call.method.artifactId call.packageId call.id

structure State (σ ι : Type) where
  world : σ
  taken : ι → ℕ
  replied : List (Replied ι)
  drawn : List (Drawn ι)
  /-- The last write comes first. -/
  written : List (Drawn ι × Except ContextError Unit)

variable {σ ι : Type} (pool : LlmContextPool σ ι)

def completed (i : ι) (method : Condensing) (package : ContextPackage) (s : σ) :
    Except ContextError String × σ :=
  completeText (pool.llm i) method.system (method.user (renderPackage package)) s

def request (call : Drawn ι) : CreateArtifactRequest :=
  artifactRequest (pool.scope call.provider) call.artifactId call.method.kind call.method.title
    call.text

def write (call : Drawn ι) (s : σ) : Except ContextError Unit × σ :=
  writeArtifact (InMemoryWorkspaceProvider pool.workspace) (pool.scope call.provider)
    call.artifactId call.method.kind call.method.title call.text s

def condensed (i : ι) (method : Condensing) (package : ContextPackage) (s : σ) :
    Except ContextError String × σ :=
  condense (pool.llm i) (InMemoryWorkspaceProvider pool.workspace) (pool.scope i) (pool.counter i)
    method package s

def existed (artifactId : String) : ContextError :=
  .provider ("workspace write failed: " ++ (InMemoryWorkspace.alreadyExists artifactId).display)

section

variable {pool} {call : Drawn ι} {world : σ}

lemma mem_ids_nextId {i : ι} {id : String} :
    id ∈ pool.workspace.ids (nextId (pool.counter i) world).2 ↔ id ∈ pool.workspace.ids world := by
  simp only [InMemoryWorkspace.ids, nextId, pool.store_write]

lemma snd_completed (pool : LlmContextPool σ ι) (i : ι) (method : Condensing)
    (package : ContextPackage) (world : σ) : ∃ request,
      (pool.completed i method package world).2 = ((pool.llm i).chat request world).2 := by
  refine ⟨textRequest method.system (method.user (renderPackage package)), ?_⟩
  rw [completed, completeText]
  split <;> simp [*]

lemma write_snd (call : Drawn ι) (world : σ) :
    (pool.write call world).2 = (pool.workspace.createArtifact (pool.request call) world).2 := by
  rw [write, writeArtifact_snd, InMemoryWorkspaceProvider_createArtifact, request]

lemma counter_write_call (i : ι) (call : Drawn ι) (world : σ) :
    (pool.counter i).read (pool.write call world).2 = (pool.counter i).read world := by
  rw [write_snd, InMemoryWorkspace.createArtifact]
  split
  · rfl
  · split_ifs
    · rfl
    · simp only [pool.counter_store, pool.counter_clock]

lemma write_eq_ok : (pool.write call world).1 = .ok () ↔
    ∃ artifact, (pool.workspace.createArtifact (pool.request call) world).1 = .ok artifact := by
  rw [write, writeArtifact_eq_ok, InMemoryWorkspaceProvider_createArtifact, request]

lemma write_eq_error {e : ContextError} : (pool.write call world).1 = .error e ↔
    ∃ e', (pool.workspace.createArtifact (pool.request call) world).1 = .error e' ∧
      .provider ("workspace write failed: " ++ e'.display) = e := by
  rw [write, writeArtifact_eq_error, InMemoryWorkspaceProvider_createArtifact, request]

lemma ids_write_error {e : ContextError} (h : (pool.write call world).1 = .error e) :
    pool.workspace.ids (pool.write call world).2 = pool.workspace.ids world := by
  obtain ⟨e', he, _⟩ := write_eq_error.mp h
  rw [write_snd, InMemoryWorkspace.createArtifact_error he]

lemma ids_write_ok (h : (pool.write call world).1 = .ok ()) :
    pool.workspace.ids (pool.write call world).2 =
      call.artifactId :: pool.workspace.ids world := by
  obtain ⟨artifact, hartifact⟩ := write_eq_ok.mp h
  have hclock : ∀ s, pool.workspace.ids (pool.workspace.clock s).2 = pool.workspace.ids s :=
    fun s => congrArg (List.map Prod.fst) (pool.store_clock s)
  rw [write_snd, (InMemoryWorkspace.createArtifact_ok hartifact hclock).2]
  rfl

lemma write_existed_iff : (pool.write call world).1 = .error (existed call.artifactId) ↔
    validateCreateArtifactRequest (pool.request call) = .ok () ∧
      call.artifactId ∈ pool.workspace.ids world := by
  rw [write_eq_error]
  apply Iff.trans ?_ InMemoryWorkspace.createArtifact_alreadyExists_iff
  constructor
  · rintro ⟨e, he, heq⟩
    rw [existed, ContextError.provider.injEq, String.append_right_inj,
      WorkspaceError.display_inj] at heq
    exact heq ▸ he
  · exact fun h => ⟨_, h, rfl⟩

end

section

variable {pool} {i : ι} {method : Condensing} {package : ContextPackage} {e : ContextError}
  {world : σ}

lemma condensed_of_refused (h : validateContextPackage package = .error e) :
    pool.condensed i method package world = (.error e, world) := by
  simp only [condensed, condense, h]

lemma condensed_of_error (h : validateContextPackage package = .ok ())
    (hreply : (pool.completed i method package world).1 = .error e) :
    pool.condensed i method package world =
      (.error e, (pool.completed i method package world).2) := by
  rw [completed] at hreply ⊢
  rw [condensed, condense, h]
  cases hchat : completeText (pool.llm i) method.system (method.user (renderPackage package)) world
  rw [hchat] at hreply
  subst hreply
  rfl

lemma condensed_of_reply {text : String} (h : validateContextPackage package = .ok ())
    (hreply : (pool.completed i method package world).1 = .ok text) {id : UInt64} {world' : σ}
    (hid : nextId (pool.counter i) (pool.completed i method package world).2 = (id, world'))
    {turn : ℕ} {call : Drawn ι} (hcall : call = ⟨⟨i, method, package.packageId, text⟩, turn, id⟩)
    {result : Except ContextError Unit} {world'' : σ}
    (hwrite : pool.write call world' = (result, world'')) :
    pool.condensed i method package world =
      (result.map fun _ => call.artifactId, world'') := by
  subst hcall
  rw [completed] at hreply hid
  rw [condensed, condense, h]
  cases hchat : completeText (pool.llm i) method.system (method.user (renderPackage package)) world
  rw [hchat] at hreply hid
  subst hreply
  rw [write, Drawn.artifactId] at hwrite
  simp only [hid, hwrite, Drawn.artifactId]
  cases result <;> rfl

end

def start (world : σ) : State σ ι := ⟨world, fun _ => 0, [], [], []⟩

structure Fresh (world : σ) : Prop where
  store : pool.workspace.store.read world = []
  counter : ∀ i, (pool.counter i).read world = 0

def State.calls (s : State σ ι) : List (Drawn ι) := s.drawn ++ s.written.map Prod.fst

structure Ledger (s : State σ ι) : Prop where
  counted : ∀ i, (pool.counter i).read s.world = UInt64.ofNat (s.taken i)
  numbered : ∀ call ∈ s.calls, call.turn < s.taken call.provider ∧ call.id = UInt64.ofNat call.turn
  apart : (s.calls.map fun call => (call.provider, call.turn)).Nodup
  stored : ∀ id, id ∈ pool.workspace.ids s.world ↔
    ∃ call, (call, .ok ()) ∈ s.written ∧ call.artifactId = id
  answered : ∀ call result earlier, (call, result) :: earlier <:+ s.written →
    (result = .error (existed call.artifactId) ↔
      validateCreateArtifactRequest (pool.request call) = .ok () ∧
        ∃ other, (other, .ok ()) ∈ earlier ∧ other.artifactId = call.artifactId)

lemma ledger_start {pool : LlmContextPool σ ι} {world : σ} (h : pool.Fresh world) :
    pool.Ledger (start world) where
  counted i := h.counter i
  numbered call hcall := by cases hcall
  apart := List.nodup_nil
  stored id := by simp [start, InMemoryWorkspace.ids, h.store]
  answered call result earlier hsuffix := by
    have hnil := List.suffix_nil.mp hsuffix
    cases hnil

lemma Ledger.chatted {pool : LlmContextPool σ ι} {s s' : State σ ι} (h : pool.Ledger s)
    (i : ι) (request : ChatRequest)
    (hworld : s'.world = ((pool.llm i).chat request s.world).2) (htaken : s'.taken = s.taken)
    (hdrawn : s'.drawn = s.drawn) (hwritten : s'.written = s.written) : pool.Ledger s' := by
  have hcalls : s'.calls = s.calls := by rw [State.calls, hdrawn, hwritten, State.calls]
  have hids : pool.workspace.ids s'.world = pool.workspace.ids s.world := by
    rw [hworld, InMemoryWorkspace.ids, pool.store_chat, InMemoryWorkspace.ids]
  exact {
    counted := fun j => by rw [hworld, pool.counter_chat, h.counted, htaken]
    numbered := by rw [hcalls, htaken]; exact h.numbered
    apart := hcalls ▸ h.apart
    stored := by rw [hids, hwritten]; exact h.stored
    answered := by rw [hwritten]; exact h.answered }

lemma Ledger.wrote {pool : LlmContextPool σ ι} {s s' : State σ ι} (h : pool.Ledger s)
    {call : Drawn ι} {before after : List (Drawn ι)} {result : Except ContextError Unit}
    (hcall : s.drawn = before ++ call :: after)
    (hwrite : pool.write call s.world = (result, s'.world)) (htaken : s'.taken = s.taken)
    (hdrawn : s'.drawn = before ++ after) (hwritten : s'.written = (call, result) :: s.written) :
    pool.Ledger s' := by
  have hresult : (pool.write call s.world).1 = result := congrArg Prod.fst hwrite
  have hworld : (pool.write call s.world).2 = s'.world := congrArg Prod.snd hwrite
  have hperm : s'.calls.Perm s.calls := by
    rw [State.calls, State.calls, hdrawn, hwritten, hcall, List.map_cons, List.append_assoc,
      List.append_assoc]
    apply List.Perm.append_left
    exact List.perm_middle
  exact {
    counted := fun i => by rw [← hworld, counter_write_call, h.counted, htaken]
    numbered := by
      intro other hother
      rw [htaken]
      exact h.numbered other (hperm.mem_iff.mp hother)
    apart := (hperm.map _).nodup_iff.mpr h.apart
    stored := by
      intro id
      rw [← hworld, hwritten]
      cases result with
      | error e =>
        rw [ids_write_error hresult, h.stored]
        simp
      | ok _ =>
        rw [ids_write_ok hresult, List.mem_cons, h.stored]
        simp [eq_comm]
    answered := by
      intro other result' earlier hsuffix
      rw [hwritten] at hsuffix
      obtain heq | hsuffix := List.suffix_cons_iff.mp hsuffix
      · obtain ⟨he, rfl⟩ := List.cons.inj heq
        obtain ⟨rfl, rfl⟩ := Prod.mk.inj he
        rw [← hresult, write_existed_iff, h.stored]
      · exact h.answered other result' earlier hsuffix }

lemma Ledger.ids_apart {pool : LlmContextPool σ ι} {s : State σ ι} (h : pool.Ledger s) :
    s.calls.Pairwise fun a b =>
      a.provider = b.provider → s.taken a.provider ≤ 2 ^ 64 → a.artifactId ≠ b.artifactId := by
  apply (List.pairwise_map.mp h.apart).imp_of_mem
  intro a b ha hb hne hprovider htaken hid
  obtain ⟨-, -, hid⟩ := Condensing.artifactId_inj.mp hid
  obtain ⟨hlta, hida⟩ := h.numbered a ha
  obtain ⟨hltb, hidb⟩ := h.numbered b hb
  rw [← hprovider] at hltb
  apply hne
  rw [hida, hidb, ← UInt64.toNat_inj, UInt64.toNat_ofNat_of_lt' (hlta.trans_le htaken),
    UInt64.toNat_ofNat_of_lt' (hltb.trans_le htaken)] at hid
  rw [hprovider, hid]

variable [DecidableEq ι]

/-- The calls of the providers run at the same time. What one of them does to the counters or to
the store happens at once, and anything may happen in between. -/
inductive Step : State σ ι → State σ ι → Prop
  | build (s : State σ ι) (i : ι) (req : BuildContextRequest) : Step s
      { s with
        world := (buildContext (pool.counter i) req s.world).2
        taken := Function.update s.taken i (s.taken i + 1) }
  | fail (s : State σ ι) (i : ι) (method : Condensing) (package : ContextPackage)
      (e : ContextError) (hvalid : validateContextPackage package = .ok ())
      (hreply : (pool.completed i method package s.world).1 = .error e) : Step s
      { s with world := (pool.completed i method package s.world).2 }
  | reply (s : State σ ι) (i : ι) (method : Condensing) (package : ContextPackage) (text : String)
      (hvalid : validateContextPackage package = .ok ())
      (hreply : (pool.completed i method package s.world).1 = .ok text) : Step s
      { s with
        world := (pool.completed i method package s.world).2
        replied := ⟨i, method, package.packageId, text⟩ :: s.replied }
  | draw (s : State σ ι) (call : Replied ι) (before after : List (Replied ι))
      (hcall : s.replied = before ++ call :: after) : Step s
      { s with
        world := (nextId (pool.counter call.provider) s.world).2
        taken := Function.update s.taken call.provider (s.taken call.provider + 1)
        replied := before ++ after
        drawn := ⟨call, s.taken call.provider,
          (nextId (pool.counter call.provider) s.world).1⟩ :: s.drawn }
  | write (s : State σ ι) (call : Drawn ι) (before after : List (Drawn ι))
      (hcall : s.drawn = before ++ call :: after) : Step s
      { s with
        world := (pool.write call s.world).2
        drawn := before ++ after
        written := (call, (pool.write call s.world).1) :: s.written }

def Reachable (world : σ) : State σ ι → Prop := Relation.ReflTransGen pool.Step (start world)

variable {pool} {s s' : State σ ι} {world : σ}

lemma counter_nextId (i j : ι) (world : σ) :
    (pool.counter j).read (nextId (pool.counter i) world).2 =
      if j = i then (pool.counter i).read world + 1 else (pool.counter j).read world := by
  split_ifs with h
  · subst h
    exact (pool.counter j).read_write _ _
  · exact pool.counter_write i j _ world (Ne.symm h)

lemma counted_nextId (h : ∀ i, (pool.counter i).read s.world = UInt64.ofNat (s.taken i)) (i j : ι) :
    (pool.counter j).read (nextId (pool.counter i) s.world).2 =
      UInt64.ofNat (Function.update s.taken i (s.taken i + 1) j) := by
  rw [counter_nextId, Function.update_apply, h i, h j]
  split_ifs
  · rw [UInt64.ofNat_add]
    rfl
  · rfl

lemma lt_update {call : Drawn ι} (h : call.turn < s.taken call.provider) (i : ι) :
    call.turn < Function.update s.taken i (s.taken i + 1) call.provider := by
  rw [Function.update_apply]
  split_ifs with hi
  · rw [← hi]
    omega
  · exact h

theorem Ledger.step (h : pool.Ledger s) (hstep : pool.Step s s') : pool.Ledger s' := by
  cases hstep with
  | build i req =>
    exact {
      counted := counted_nextId h.counted i
      numbered := fun call hcall =>
        ⟨lt_update (h.numbered call hcall).1 i, (h.numbered call hcall).2⟩
      apart := h.apart
      stored := fun id => mem_ids_nextId.trans (h.stored id)
      answered := h.answered }
  | fail i method package e hvalid hreply =>
    obtain ⟨request, hworld⟩ := pool.snd_completed i method package s.world
    exact h.chatted i request hworld rfl rfl rfl
  | reply i method package text hvalid hreply =>
    obtain ⟨request, hworld⟩ := pool.snd_completed i method package s.world
    exact h.chatted i request hworld rfl rfl rfl
  | draw call before after hcall =>
    exact {
      counted := counted_nextId h.counted call.provider
      numbered := by
        intro other hother
        obtain rfl | hother := List.mem_cons.mp hother
        · refine ⟨?_, h.counted call.provider⟩
          simp
        · exact ⟨lt_update (h.numbered other hother).1 _, (h.numbered other hother).2⟩
      apart := by
        refine List.nodup_cons.mpr ⟨?_, h.apart⟩
        intro hmem
        obtain ⟨other, hother, he⟩ := List.mem_map.mp hmem
        obtain ⟨hprovider, hturn⟩ := Prod.mk.inj he
        have hlt := (h.numbered other hother).1
        simp only at hprovider hturn
        rw [hprovider] at hlt
        omega
      stored := fun id => mem_ids_nextId.trans (h.stored id)
      answered := h.answered }
  | write call before after hcall =>
    rcases hwrite : pool.write call s.world with ⟨result, world'⟩
    exact h.wrote hcall hwrite rfl rfl rfl

theorem ledger (hfresh : pool.Fresh world) (hs : pool.Reachable world s) : pool.Ledger s := by
  induction hs with
  | refl => exact ledger_start hfresh
  | tail _ hstep ih => exact ih.step hstep

theorem condensed_steps (s : State σ ι) (i : ι) (method : Condensing) (package : ContextPackage) :
    ∃ s', Relation.ReflTransGen pool.Step s s' ∧
      s'.world = (pool.condensed i method package s.world).2 ∧
      s'.replied = s.replied ∧ s'.drawn = s.drawn ∧
      (s'.written = s.written ∧ (pool.condensed i method package s.world).1.isOk = false ∨
        ∃ call result, s'.written = (call, result) :: s.written ∧ call.provider = i ∧
          call.method = method ∧ call.packageId = package.packageId ∧
          (pool.condensed i method package s.world).1 = result.map fun _ => call.artifactId) := by
  cases hvalid : validateContextPackage package with
  | error e =>
    rw [condensed_of_refused hvalid]
    exact ⟨s, .refl, rfl, rfl, rfl, .inl ⟨rfl, rfl⟩⟩
  | ok _ =>
    cases hreply : (pool.completed i method package s.world).1 with
    | error e =>
      rw [condensed_of_error hvalid hreply]
      exact ⟨_, .single (.fail s i method package e hvalid hreply), rfl, rfl, rfl, .inl ⟨rfl, rfl⟩⟩
    | ok text =>
      obtain ⟨id, world', hid⟩ : ∃ id world',
          nextId (pool.counter i) (pool.completed i method package s.world).2 = (id, world') :=
        ⟨_, _, rfl⟩
      obtain ⟨call, hcall⟩ : ∃ call : Drawn ι,
          call = ⟨⟨i, method, package.packageId, text⟩, s.taken i, id⟩ := ⟨_, rfl⟩
      have hdraw : pool.Step _ _ := Step.draw { s with
        world := (pool.completed i method package s.world).2
        replied := ⟨i, method, package.packageId, text⟩ :: s.replied } _ [] s.replied rfl
      simp only [hid, ← hcall] at hdraw
      have hsteps := (Relation.ReflTransGen.single
        (Step.reply s i method package text hvalid hreply)).tail hdraw
      have hlast := hsteps.tail (.write _ call [] s.drawn rfl)
      rcases hwrite : pool.write call world' with ⟨result, world''⟩
      simp only [hwrite] at hlast
      rw [condensed_of_reply hvalid hreply hid hcall hwrite]
      refine ⟨_, hlast, rfl, rfl, rfl, .inr ⟨call, result, rfl, ?_, ?_, ?_, rfl⟩⟩
      · rw [hcall]
      · rw [hcall]
      · rw [hcall]

theorem artifactIds_apart (pool : LlmContextPool σ ι) {world : σ} (hfresh : pool.Fresh world)
    {s : State σ ι} (hs : pool.Reachable world s) :
    (∀ i, s.taken i ≤ 2 ^ 64 →
      ((s.calls.filter fun call => call.provider = i).map Drawn.artifactId).Nodup) ∧
    ∀ call result earlier, (call, result) :: earlier <:+ s.written →
      (result = .error (existed call.artifactId) ↔
        validateCreateArtifactRequest (pool.request call) = .ok () ∧
          ∃ other, (other, .ok ()) ∈ earlier ∧ other.method = call.method ∧
            other.packageId = call.packageId ∧ other.id = call.id) ∧
      (s.taken call.provider ≤ 2 ^ 64 → ∀ other, (other, .ok ()) ∈ earlier →
        other.artifactId = call.artifactId → other.provider ≠ call.provider) := by
  have hledger := ledger hfresh hs
  refine ⟨?_, fun call result earlier hsuffix => ⟨?_, ?_⟩⟩
  · intro i htaken
    rw [List.Nodup, List.pairwise_map]
    apply (hledger.ids_apart.filter _).imp_of_mem
    intro a b ha hb hne
    have hi := (List.mem_filter.mp ha).2
    have hj := (List.mem_filter.mp hb).2
    rw [decide_eq_true_eq] at hi hj
    exact hne (hi.trans hj.symm) (hi ▸ htaken)
  · rw [hledger.answered call result earlier hsuffix]
    simp only [Drawn.artifactId, Condensing.artifactId_inj]
  · intro htaken other hother hid hprovider
    have hsublist : (call :: earlier.map Prod.fst).Sublist s.calls :=
      (hsuffix.sublist.map Prod.fst).trans (List.sublist_append_right _ _)
    have hhead := (List.pairwise_cons.mp (hledger.ids_apart.sublist hsublist)).1
    exact hhead other (List.mem_map_of_mem hother) hprovider.symm htaken hid.symm

abbrev Desk := (UInt64 × UInt64) × ArtifactStore

def deskCounter : Bool → Cell Desk UInt64
  | true => ⟨fun s => s.1.1, fun n s => ((n, s.1.2), s.2), fun _ _ => rfl⟩
  | false => ⟨fun s => s.1.2, fun n s => ((s.1.1, n), s.2), fun _ _ => rfl⟩

def deskWorkspace : InMemoryWorkspace Desk where
  store := ⟨fun s => s.2, fun store s => (s.1, store), fun _ _ => rfl⟩
  clock s := ("2026-06-21", s)
  blake3Hex body := body

def desk : LlmContextPool Desk Bool where
  counter := deskCounter
  llm _ := ⟨false, fun _ s => (.ok ⟨"short", []⟩, s)⟩
  scope i := ⟨"tenant", none, "session", none, if i then "morning" else "evening"⟩
  workspace := deskWorkspace
  counter_write i j n s hne := by
    cases i <;> cases j <;> first | rfl | exact (hne rfl).elim
  counter_store i store s := by cases i <;> rfl
  counter_clock i s := rfl
  counter_chat i j request s := rfl
  store_write i n s := by cases i <;> rfl
  store_clock s := rfl
  store_chat i request s := rfl

lemma desk_fresh : desk.Fresh ((0, 0), []) where
  store := rfl
  counter i := by cases i <;> rfl

def deskRequest : BuildContextRequest := ⟨["ref"], none, ⟨8, 4096⟩⟩

def deskPackage : ContextPackage := ⟨"context-0", [fragment "ref" 0], ⟨8, 4096⟩⟩

def deskCall (i : Bool) : Drawn Bool := ⟨⟨i, .compress, "context-0", "short"⟩, 1, 1⟩

def deskRefused : ContextError := existed "context-0::compressed::1"

lemma desk_written : ∃ s, desk.Reachable ((0, 0), []) s ∧
    s.written = [(deskCall false, .error deskRefused), (deskCall true, .ok ())] := by
  have hvalid : validateContextPackage deskPackage = .ok () := rfl
  refine ⟨_, ((((((((Relation.ReflTransGen.refl.tail (.build _ true deskRequest)).tail
    (.build _ false deskRequest)).tail
    (.reply _ true .compress deskPackage "short" hvalid rfl)).tail
    (.draw _ _ [] [] rfl)).tail (.write _ _ [] [] rfl)).tail
    (.reply _ false .compress deskPackage "short" hvalid rfl)).tail
    (.draw _ _ [] [] rfl)).tail (.write _ _ [] [] rfl)), ?_⟩
  decide +kernel

theorem desk_collides :
    (buildContext (desk.counter true) deskRequest ((0, 0), [])).1 = .ok deskPackage ∧
    (buildContext (desk.counter false) deskRequest ((1, 0), [])).1 = .ok deskPackage ∧
    ∃ s, desk.Reachable ((0, 0), []) s ∧ ¬(s.calls.map Drawn.artifactId).Nodup ∧
      ∃ call, (call, .error (existed call.artifactId)) ∈ s.written := by
  obtain ⟨s, hs, hwritten⟩ := desk_written
  refine ⟨by decide +kernel, by decide +kernel, s, hs, ?_, deskCall false, ?_⟩
  · intro hnodup
    have hids := hnodup.sublist ((List.sublist_append_right s.drawn _).map Drawn.artifactId)
    rw [hwritten] at hids
    revert hids
    decide +kernel
  · rw [hwritten]
    decide +kernel

theorem artifactIds_apart_desk : ∃ s, desk.Reachable ((0, 0), []) s ∧ s.written ≠ [] ∧
    (∀ i, s.taken i ≤ 2 ^ 64 →
      ((s.calls.filter fun call => call.provider = i).map Drawn.artifactId).Nodup) := by
  obtain ⟨s, hs, hwritten⟩ := desk_written
  refine ⟨s, hs, by simp [hwritten], (artifactIds_apart desk desk_fresh hs).1⟩

end LlmContextPool

end GreenticDw

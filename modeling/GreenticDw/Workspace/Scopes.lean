import GreenticDw.Workspace.History

namespace GreenticDw

open Text

namespace WorkspaceOperation

def asks (scope : WorkspaceScope) : WorkspaceOperation → Option String
  | .create req => if req.artifact.scope = scope then some req.artifact.artifactId else none
  | _ => none

end WorkspaceOperation

variable (scope : WorkspaceScope) (operations : List WorkspaceOperation)

def askedIn : List String := operations.filterMap (WorkspaceOperation.asks scope)

def Own : WorkspaceOperation → Prop
  | .create req => req.artifact.scope = scope
  | .read req => req.artifactId ∈ askedIn scope operations
  | .update req => req.artifactId ∈ askedIn scope operations
  | .list req => req.scope = scope
  | .link _ => False

instance : DecidablePred (Own scope operations)
  | .create req => inferInstanceAs (Decidable (req.artifact.scope = scope))
  | .read req => inferInstanceAs (Decidable (req.artifactId ∈ askedIn scope operations))
  | .update req => inferInstanceAs (Decidable (req.artifactId ∈ askedIn scope operations))
  | .list req => inferInstanceAs (Decidable (req.scope = scope))
  | .link _ => inferInstanceAs (Decidable False)

def OnlyOthersAsk (artifactId : String) : Prop :=
  artifactId ∉ askedIn scope operations ∧ ∃ other, other ≠ scope ∧
    artifactId ∈ askedIn other operations

def Others : WorkspaceOperation → Prop
  | .create req => req.artifact.scope ≠ scope
  | .read req => OnlyOthersAsk scope operations req.artifactId
  | .update req => OnlyOthersAsk scope operations req.artifactId
  | .list req => req.scope ≠ scope
  | .link _ => False

/-- A sequence in which a scope does its own operations, and the others only ask to create artifacts
with names they are free to use. -/
structure Interleaved (own : List WorkspaceOperation) (free : Set String) : Prop where
  own : operations.filter (Own scope operations) = own
  others : ∀ operation ∈ operations, Own scope operations operation ∨
    Others scope operations operation
  names : ∀ req, .create req ∈ operations → req.artifact.scope ≠ scope →
    req.artifact.artifactId ∈ free

def WorkspaceOperation.Touches (artifactId : String) : WorkspaceOperation → Prop
  | .create req => req.artifact.artifactId = artifactId ∧
      validateCreateArtifactRequest req = .ok ()
  | .read req => req.artifactId = artifactId
  | .update req => req.artifactId = artifactId
  | .list _ => False
  | .link req => req.fromArtifactId = artifactId

namespace InMemoryWorkspace

variable {σ : Type} (workspace : InMemoryWorkspace σ)

def outcomes (s : σ) : List WorkspaceAnswer :=
  ((workspace.run operations s).1.filter fun step => Own scope operations step.1).map Prod.snd

def Scoped (names : Set String) (store : ArtifactStore) : Prop :=
  ∀ artifactId stored, store.find artifactId = some stored → stored.artifact.scope = scope →
    artifactId ∈ names

structure Agree (names : Set String) (s r : σ) : Prop where
  same : ∀ artifactId ∈ names,
    (workspace.store.read s).find artifactId = (workspace.store.read r).find artifactId
  left : Scoped scope names (workspace.store.read s)
  right : Scoped scope names (workspace.store.read r)
  leftHistory : ∃ history, workspace.Recorded history (workspace.store.read s)
  rightHistory : ∃ history, workspace.Recorded history (workspace.store.read r)

variable {scope operations workspace} {names : Set String} {s r : σ}
  {operation : WorkspaceOperation} {now : String}

lemma steady (hnow : ∀ s, workspace.clock s = (now, s)) : workspace.SteadyClock := fun s => by
  rw [hnow]

lemma find_of_not_touches (hclock : workspace.SteadyClock) {artifactId : String}
    (h : ¬operation.Touches artifactId) (s : σ) :
    (workspace.store.read (workspace.apply operation s).2).find artifactId =
      (workspace.store.read s).find artifactId := by
  have hs := stepped hclock operation s
  generalize (workspace.apply operation s).1 = answer at hs
  generalize workspace.store.read (workspace.apply operation s).2 = store' at hs
  cases hs with
  | refused => rfl
  | created hv _ => rw [ArtifactStore.find_insert, if_neg fun he => h ⟨he, hv⟩]
  | looked _ _ => rfl
  | updated _ _ =>
    rw [ArtifactStore.find_modify]
    split_ifs with hid
    · exact (h hid).elim
    · rfl
  | listed => rfl
  | linked _ =>
    rw [ArtifactStore.find_modify]
    split_ifs with hid
    · exact (h hid).elim
    · rfl

lemma Scoped.step (hclock : workspace.SteadyClock)
    (h : Scoped scope names (workspace.store.read s))
    (hc : ∀ req, operation = .create req → validateCreateArtifactRequest req = .ok () →
      req.artifact.scope = scope → req.artifact.artifactId ∈ names) :
    Scoped scope names (workspace.store.read (workspace.apply operation s).2) := by
  have hkeep : ∀ {key : String} {change : StoredArtifact → StoredArtifact},
      (∀ stored, (change stored).artifact = stored.artifact) →
      Scoped scope names ((workspace.store.read s).modify key change) := by
    intro key change hchange id stored hf hscope
    rw [ArtifactStore.find_modify] at hf
    split_ifs at hf with hid
    · obtain ⟨before, hb, rfl⟩ := Option.map_eq_some_iff.mp hf
      exact h id before hb (hchange before ▸ hscope)
    · exact h id stored hf hscope
  have hs := stepped hclock operation s
  generalize (workspace.apply operation s).1 = answer at hs
  generalize workspace.store.read (workspace.apply operation s).2 = store' at hs
  cases hs with
  | refused => exact h
  | created hv _ =>
    intro id stored hf hscope
    rw [ArtifactStore.find_insert] at hf
    split_ifs at hf with hid
    · cases hf
      exact hid ▸ hc _ rfl hv hscope
    · exact h id stored hf hscope
  | looked _ _ => exact h
  | updated _ _ => exact hkeep fun _ => rfl
  | listed => exact h
  | linked _ => exact hkeep fun _ => rfl

lemma Recorded.listed_eq {history history' : List (WorkspaceOperation × WorkspaceAnswer)}
    {store store' : ArtifactStore} (h : workspace.Recorded history store)
    (h' : workspace.Recorded history' store')
    (hsame : ∀ artifactId ∈ names, store.find artifactId = store'.find artifactId)
    (hl : Scoped scope names store) (hr : Scoped scope names store') :
    store.listed scope = store'.listed scope := by
  apply sortBy_ext (h.nodup_listed scope) (h'.nodup_listed scope)
  intro summary
  have hm : summary ∈ store.listed scope ↔ _ := h.mem_listed
  have hm' : summary ∈ store'.listed scope ↔ _ := h'.mem_listed
  simp only [ArtifactStore.listed, mem_sortBy] at hm hm'
  rw [hm, hm']
  constructor
  · rintro ⟨id, stored, hf, hscope, hs⟩
    exact ⟨id, stored, hsame id (hl id stored hf hscope) ▸ hf, hscope, hs⟩
  · rintro ⟨id, stored, hf, hscope, hs⟩
    exact ⟨id, stored, (hsame id (hr id stored hf hscope)).trans hf, hscope, hs⟩

lemma Agree.foreign (hclock : workspace.SteadyClock) (h : workspace.Agree scope names s r)
    (ht : ∀ artifactId ∈ names, ¬operation.Touches artifactId)
    (hc : ∀ req, operation = .create req → req.artifact.scope ≠ scope) :
    workspace.Agree scope names (workspace.apply operation s).2 r where
  same id hid := by rw [find_of_not_touches hclock (ht id hid), h.same id hid]
  left := h.left.step hclock fun req he _ hscope => (hc req he hscope).elim
  right := h.right
  leftHistory := by
    obtain ⟨history, hr⟩ := h.leftHistory
    exact ⟨_, hr.step (stepped hclock operation s)⟩
  rightHistory := h.rightHistory

lemma apply_congr (hnow : ∀ s, workspace.clock s = (now, s)) {artifactId : String}
    (hf : (workspace.store.read s).find artifactId = (workspace.store.read r).find artifactId)
    (hop : operation = .read ⟨artifactId⟩ ∨
      (∃ req, operation = .create req ∧ req.artifact.artifactId = artifactId) ∨
      ∃ req, operation = .update req ∧ req.artifactId = artifactId) :
    (workspace.apply operation s).1 = (workspace.apply operation r).1 ∧
      (workspace.store.read (workspace.apply operation s).2).find artifactId =
        (workspace.store.read (workspace.apply operation r).2).find artifactId := by
  obtain rfl | ⟨req, rfl, rfl⟩ | ⟨req, rfl, rfl⟩ := hop
  · simp only [apply, readArtifact, Prod.map_fst, Prod.map_snd, id_eq, ← hf]
    cases hs : (workspace.store.read s).find artifactId with
    | none => exact ⟨rfl, hf⟩
    | some entry =>
      cases hl : entry.versions.getLast? with
      | none =>
        simp only [hl]
        exact ⟨trivial, hf⟩
      | some version =>
        simp only [hl]
        exact ⟨trivial, hf⟩
  · simp only [apply, createArtifact, Prod.map_fst, Prod.map_snd, id_eq, hnow, ← hf]
    cases validateCreateArtifactRequest req with
    | error e => exact ⟨rfl, hf⟩
    | ok _ =>
      by_cases hs : ((workspace.store.read s).find req.artifact.artifactId).isSome = true
      · simp only [if_pos hs]
        exact ⟨trivial, hf⟩
      · simp only [if_neg hs, workspace.store.read_write, ArtifactStore.find_insert, if_pos,
          and_self]
  · simp only [apply, updateArtifact, Prod.map_fst, Prod.map_snd, id_eq, hnow, ← hf]
    cases hs : (workspace.store.read s).find req.artifactId with
    | none => exact ⟨rfl, hf⟩
    | some entry =>
      cases hl : entry.versions.getLast? with
      | none =>
        simp only [hl]
        exact ⟨trivial, hf⟩
      | some previous =>
        simp only [hl]
        cases validateVersionProgression previous (workspace.nextVersion req previous now) with
        | error e => exact ⟨rfl, hf⟩
        | ok _ => simp only [workspace.store.read_write, ArtifactStore.find_modify, hf, and_self]

lemma Agree.own (hnow : ∀ s, workspace.clock s = (now, s)) (h : workspace.Agree scope names s r)
    (hown : Own scope operations operation)
    (ht : ∀ artifactId, operation.Touches artifactId → artifactId ∈ names) :
    (workspace.apply operation s).1 = (workspace.apply operation r).1 ∧
      workspace.Agree scope names (workspace.apply operation s).2
        (workspace.apply operation r).2 := by
  have hclock := steady hnow
  obtain ⟨history, hl⟩ := h.leftHistory
  obtain ⟨history', hr⟩ := h.rightHistory
  have hagree : (∀ artifactId ∈ names, operation.Touches artifactId →
      (workspace.store.read (workspace.apply operation s).2).find artifactId =
        (workspace.store.read (workspace.apply operation r).2).find artifactId) →
      workspace.Agree scope names (workspace.apply operation s).2
        (workspace.apply operation r).2 := by
    intro htouched
    refine ⟨fun id hid => ?_, h.left.step hclock ?_, h.right.step hclock ?_,
      ⟨_, hl.step (stepped hclock operation s)⟩, ⟨_, hr.step (stepped hclock operation r)⟩⟩
    · by_cases htouch : operation.Touches id
      · exact htouched id hid htouch
      · rw [find_of_not_touches hclock htouch, find_of_not_touches hclock htouch, h.same id hid]
    · rintro req rfl hv _
      exact ht _ ⟨rfl, hv⟩
    · rintro req rfl hv _
      exact ht _ ⟨rfl, hv⟩
  cases operation with
  | create req =>
    by_cases hv : validateCreateArtifactRequest req = .ok ()
    · have hid := ht _ ⟨rfl, hv⟩
      obtain ⟨hanswer, hfind⟩ := apply_congr hnow (h.same _ hid) (.inr (.inl ⟨req, rfl, rfl⟩))
      refine ⟨hanswer, hagree ?_⟩
      rintro id _ ⟨rfl, _⟩
      exact hfind
    · refine ⟨?_, hagree fun _ _ htouch => (hv htouch.2).elim⟩
      simp only [apply, createArtifact, Prod.map_fst]
      cases he : validateCreateArtifactRequest req with
      | error e => rfl
      | ok _ => exact (hv he).elim
  | read req =>
    obtain ⟨hanswer, hfind⟩ := apply_congr hnow (h.same _ (ht _ rfl)) (.inl rfl)
    refine ⟨hanswer, hagree ?_⟩
    rintro id _ rfl
    exact hfind
  | update req =>
    obtain ⟨hanswer, hfind⟩ :=
      apply_congr hnow (h.same _ (ht _ rfl)) (.inr (.inr ⟨req, rfl, rfl⟩))
    refine ⟨hanswer, hagree ?_⟩
    rintro id _ rfl
    exact hfind
  | list req =>
    refine ⟨?_, hagree fun _ _ htouch => htouch.elim⟩
    have hscope : req.scope = scope := hown
    simp only [apply, listArtifacts, Prod.map_fst, hscope]
    rw [hl.listed_eq hr h.same h.left h.right]
  | link req => exact (show False from hown).elim

theorem outcomes_eq (hnow : ∀ s, workspace.clock s = (now, s)) {own : WorkspaceOperation → Prop}
    [DecidablePred own] (hown : ∀ operation, own operation → Own scope operations operation)
    {sequence : List WorkspaceOperation}
    (ht : ∀ operation ∈ sequence, own operation → ∀ artifactId, operation.Touches artifactId →
      artifactId ∈ names)
    (hf : ∀ operation ∈ sequence, ¬own operation →
      (∀ artifactId ∈ names, ¬operation.Touches artifactId) ∧
      ∀ req, operation = .create req → req.artifact.scope ≠ scope)
    (h : workspace.Agree scope names s r) :
    ((workspace.run sequence s).1.filter fun step => own step.1).map Prod.snd =
      (workspace.run (sequence.filter own) r).1.map Prod.snd := by
  induction sequence generalizing s r with
  | nil => rfl
  | cons operation sequence ih =>
    have ht' := fun other hm => ht other (List.mem_cons_of_mem _ hm)
    have hf' := fun other hm => hf other (List.mem_cons_of_mem _ hm)
    by_cases ho : own operation
    · obtain ⟨hanswer, hagree⟩ := h.own hnow (hown _ ho) (ht operation List.mem_cons_self ho)
      simp [run_cons, ho, hanswer, ih ht' hf' hagree]
    · obtain ⟨huntouched, hcreate⟩ := hf operation List.mem_cons_self ho
      simp [run_cons, ho, ih ht' hf' (h.foreign (steady hnow) huntouched hcreate)]

lemma agree_refl (hclock : workspace.SteadyClock) (hempty : workspace.store.read s = []) :
    workspace.Agree scope names s s := by
  have hscoped : Scoped scope names (workspace.store.read s) := by
    intro id stored hf
    rw [hempty] at hf
    cases hf
  exact ⟨fun _ _ => rfl, hscoped, hscoped, ⟨_, recorded_run hclock hempty []⟩,
    ⟨_, recorded_run hclock hempty []⟩⟩

lemma asked_of_touches {artifactId : String} (hm : operation ∈ operations)
    (ho : Own scope operations operation) (ht : operation.Touches artifactId) :
    artifactId ∈ askedIn scope operations := by
  cases operation with
  | create req =>
    have hscope : req.artifact.scope = scope := ho
    exact List.mem_filterMap.mpr ⟨_, hm, by rw [WorkspaceOperation.asks, if_pos hscope, ht.1]⟩
  | read req => exact ht ▸ ho
  | update req => exact ht ▸ ho
  | list req => exact ht.elim
  | link req => exact (show False from ho).elim

lemma outcomes_of_kept_off (hnow : ∀ s, workspace.clock s = (now, s))
    (hempty : workspace.store.read s = []) {own : List WorkspaceOperation} {free : Set String}
    (hfree : ∀ artifactId ∈ free, isBlank artifactId = false →
      ∀ operation ∈ own, ¬operation.Touches artifactId)
    (h : Interleaved scope operations own free) :
    workspace.outcomes scope operations s = (workspace.run own s).1.map Prod.snd := by
  have hown : ∀ operation, operation ∈ own ↔
      operation ∈ operations ∧ Own scope operations operation := by
    intro operation
    rw [← h.own, List.mem_filter, decide_eq_true_eq]
  have htouched : ∀ artifactId, (∃ operation ∈ own, operation.Touches artifactId) →
      artifactId ∈ askedIn scope operations := by
    rintro id ⟨operation, hm, ht⟩
    obtain ⟨hm, ho⟩ := (hown operation).mp hm
    exact asked_of_touches hm ho ht
  rw [outcomes, ← h.own]
  have hagree : workspace.Agree scope {id | ∃ operation ∈ own, operation.Touches id} s s :=
    agree_refl (steady hnow) hempty
  have hnames : ∀ operation ∈ operations, Own scope operations operation →
      ∀ artifactId, operation.Touches artifactId →
        artifactId ∈ {id | ∃ operation ∈ own, operation.Touches id} :=
    fun operation hm ho id ht => ⟨operation, (hown _).mpr ⟨hm, ho⟩, ht⟩
  refine outcomes_eq hnow (fun _ => id) hnames ?_ hagree
  intro operation hm ho
  have hother := (h.others operation hm).resolve_left ho
  cases operation with
  | create req =>
    refine ⟨?_, fun req' he => ?_⟩
    · rintro id ⟨mine, hmine, htouch⟩ ⟨rfl, hv⟩
      have hnonblank := (validateCreateArtifactRequest_eq_ok.mp hv).artifactId
      exact hfree _ (h.names req hm hother) hnonblank mine hmine htouch
    · cases he
      exact hother
  | read req =>
    refine ⟨?_, fun _ he => by cases he⟩
    rintro id hid rfl
    exact hother.1 (htouched _ hid)
  | update req =>
    refine ⟨?_, fun _ he => by cases he⟩
    rintro id hid rfl
    exact hother.1 (htouched _ hid)
  | list req => exact ⟨fun _ _ ht => ht, fun _ he => by cases he⟩
  | link req => exact (show False from hother).elim

def intruder (scope : WorkspaceScope) (artifactId : String) : CreateArtifactRequest where
  artifact := ⟨artifactId, .note, ⟨"intruder", none, "session", none, "x" ++ scope.run⟩⟩
  metadata := ⟨"intruder", [], none⟩
  body := ""

lemma intruder_valid {artifactId : String} (h : isBlank artifactId = false) :
    validateCreateArtifactRequest (intruder scope artifactId) = .ok () := by
  have htenant : isBlank "intruder" = false := by decide
  have hsession : isBlank "session" = false := by decide
  have hrun : isBlank "x" = false := by decide
  exact validateCreateArtifactRequest_eq_ok.mpr
    ⟨h, htenant, hsession, isBlank_append_left hrun _, htenant⟩

lemma intruder_scope_ne (scope : WorkspaceScope) (artifactId : String) :
    (intruder scope artifactId).artifact.scope ≠ scope := by
  intro h
  have hlength := congrArg (fun scope => scope.run.length) h
  simp only [intruder, String.length_append] at hlength
  have hone : "x".length = 1 := rfl
  omega

lemma own_intruder {artifactId : String} :
    Own scope (.create (intruder scope artifactId) :: operations) = Own scope operations := by
  have hasked : askedIn scope (.create (intruder scope artifactId) :: operations) =
      askedIn scope operations := by
    have hasks : (WorkspaceOperation.create (intruder scope artifactId)).asks scope = none :=
      if_neg (intruder_scope_ne scope artifactId)
    rw [askedIn, List.filterMap_cons_none hasks, askedIn]
  funext operation
  cases operation <;> simp only [Own, hasked]

lemma interleaved_self {own : List WorkspaceOperation} {free : Set String}
    (hown : ∀ operation ∈ own, Own scope own operation) : Interleaved scope own own free where
  own := List.filter_eq_self.mpr fun operation hm => decide_eq_true (hown operation hm)
  others operation hm := .inl (hown operation hm)
  names _ hm hscope := (hscope (hown _ hm)).elim

lemma interleaved_intruder {own : List WorkspaceOperation} {free : Set String} {artifactId : String}
    (hown : ∀ operation ∈ own, Own scope own operation) (hid : artifactId ∈ free) :
    Interleaved scope (.create (intruder scope artifactId) :: own) own free where
  own := by
    have hnot : ¬Own scope own (.create (intruder scope artifactId)) :=
      intruder_scope_ne scope artifactId
    simp only [own_intruder]
    rw [List.filter_cons_of_neg (by simpa using hnot)]
    exact List.filter_eq_self.mpr fun operation hm => decide_eq_true (hown operation hm)
  others operation hm := by
    rw [own_intruder]
    obtain rfl | hm := List.mem_cons.mp hm
    · exact .inr (intruder_scope_ne scope artifactId)
    · exact .inl (hown operation hm)
  names req hm hscope := by
    obtain he | hm := List.mem_cons.mp hm
    · cases he
      exact hid
    · exact (hscope (hown _ hm)).elim

lemma run_append (before later : List WorkspaceOperation) (s : σ) :
    workspace.run (before ++ later) s =
      ((workspace.run before s).1 ++ (workspace.run later (workspace.run before s).2).1,
        (workspace.run later (workspace.run before s).2).2) := by
  induction before generalizing s with
  | nil => rfl
  | cons operation before ih => simp only [List.cons_append, run_cons, ih]

lemma map_fst_run (operations : List WorkspaceOperation) (s : σ) :
    (workspace.run operations s).1.map Prod.fst = operations := by
  induction operations generalizing s with
  | nil => rfl
  | cons operation operations ih => rw [run_cons, List.map_cons, ih]

lemma find_run (hclock : workspace.SteadyClock) {artifactId : String}
    (h : ∀ operation ∈ operations, ¬operation.Touches artifactId) (s : σ) :
    (workspace.store.read (workspace.run operations s).2).find artifactId =
      (workspace.store.read s).find artifactId := by
  induction operations generalizing s with
  | nil => rfl
  | cons operation operations ih =>
    rw [run_cons, ih fun other hm => h other (List.mem_cons_of_mem _ hm),
      find_of_not_touches hclock (h operation List.mem_cons_self)]

lemma intruder_found (hclock : workspace.SteadyClock) (hempty : workspace.store.read s = [])
    (scope : WorkspaceScope) {artifactId : String} (h : isBlank artifactId = false)
    (operations : List WorkspaceOperation) :
    ∃ stored, (workspace.store.read (workspace.run operations
        (workspace.apply (.create (intruder scope artifactId)) s).2).2).find artifactId =
      some stored ∧ workspace.Versioned artifactId stored := by
  have hrecord := recorded_run hclock hempty (.create (intruder scope artifactId) :: operations)
  have hanswer : (workspace.apply (.create (intruder scope artifactId)) s).1 =
      .ok (.created (intruder scope artifactId).artifact) := by
    simp [apply, createArtifact, intruder_valid h, hempty, ArtifactStore.find, Except.map]
  rw [run_cons, hanswer] at hrecord
  obtain ⟨stored, hstored, _⟩ := hrecord.kept (intruder scope artifactId) ⟨_, List.mem_cons_self⟩
  exact ⟨stored, hstored, hrecord.versioned _ _ hstored⟩

lemma answer_ne (hnow : ∀ s, workspace.clock s = (now, s)) {artifactId : String}
    {stored : StoredArtifact} (ho : Own scope operations operation)
    (ht : operation.Touches artifactId) (hs : (workspace.store.read s).find artifactId = none)
    (hr : (workspace.store.read r).find artifactId = some stored)
    (hv : workspace.Versioned artifactId stored) :
    (workspace.apply operation s).1 ≠ (workspace.apply operation r).1 := by
  obtain ⟨version, hl, _⟩ := hv.latest
  cases operation with
  | create req =>
    obtain ⟨rfl, hvalid⟩ := ht
    simp [apply, createArtifact, hvalid, hs, hr, Except.map]
  | read req =>
    obtain rfl : req.artifactId = artifactId := ht
    simp [apply, readArtifact, hs, hr, hl, Except.map]
  | update req =>
    obtain rfl : req.artifactId = artifactId := ht
    have hid : version.artifactId = req.artifactId :=
      hv.versionIds version (List.mem_of_getLast? hl)
    have hnext : validateVersionProgression version (workspace.nextVersion req version now) =
        .ok () := by
      simp [validateVersionProgression, nextVersion, hid]
    simp [apply, updateArtifact, hs, hr, hl, hnow, hnext, Except.map]
  | list req => exact ht.elim
  | link req => exact (show False from ho).elim

lemma outcomes_of_all_own {own : List WorkspaceOperation}
    (hown : ∀ operation ∈ own, Own scope operations operation) (s : σ) :
    ((workspace.run own s).1.filter fun step => Own scope operations step.1).map Prod.snd =
      (workspace.run own s).1.map Prod.snd := by
  rw [List.filter_eq_self.mpr]
  intro step hm
  refine decide_eq_true (hown step.1 ?_)
  rw [← map_fst_run own s]
  exact List.mem_map_of_mem hm

theorem scopes_apart_iff (workspace : InMemoryWorkspace σ) (now : String)
    (hnow : ∀ s, workspace.clock s = (now, s)) (s₀ : σ) (hempty : workspace.store.read s₀ = [])
    (scope : WorkspaceScope) (own : List WorkspaceOperation)
    (hown : ∀ operation ∈ own, Own scope own operation) (free : Set String) :
    (∀ operations operations', Interleaved scope operations own free →
      Interleaved scope operations' own free →
      workspace.outcomes scope operations s₀ = workspace.outcomes scope operations' s₀) ↔
    ∀ artifactId ∈ free, isBlank artifactId = false →
      ∀ operation ∈ own, ¬operation.Touches artifactId := by
  classical
  constructor
  · intro hsame id hid hnonblank operation hm htouch
    have hclock := steady hnow
    have hfirst : ∃ first, own.find? (fun operation => operation.Touches id) = some first :=
      Option.isSome_iff_exists.mp (List.find?_isSome.mpr ⟨operation, hm, by simpa using htouch⟩)
    obtain ⟨first, hfirst⟩ := hfirst
    obtain ⟨ht, before, later, rfl, hbefore⟩ := List.find?_eq_some_iff_append.mp hfirst
    have ht : first.Touches id := by simpa using ht
    have hbefore : ∀ operation ∈ before, ¬operation.Touches id := by simpa using hbefore
    have houtcomes := hsame _ _ (interleaved_self hown) (interleaved_intruder hown hid)
    have hnot : ¬Own scope (before ++ first :: later) (.create (intruder scope id)) :=
      intruder_scope_ne scope id
    simp only [outcomes, own_intruder, run_cons] at houtcomes
    rw [List.filter_cons_of_neg (by simpa using hnot), outcomes_of_all_own hown,
      outcomes_of_all_own hown] at houtcomes
    have hlength : ∀ s, ((workspace.run before s).1.map Prod.snd).length = before.length := by
      intro s
      rw [List.length_map, ← List.length_map Prod.fst, map_fst_run]
    simp only [run_append, run_cons, List.map_append, List.map_cons] at houtcomes
    have hanswers := (List.append_inj houtcomes (by rw [hlength, hlength])).2
    obtain ⟨stored, hstored, hv⟩ := intruder_found hclock hempty scope hnonblank before
    have hnone : (workspace.store.read (workspace.run before s₀).2).find id = none := by
      rw [find_run hclock hbefore, hempty]
      rfl
    exact answer_ne hnow (hown first (by simp)) ht hnone hstored hv (List.cons.inj hanswers).1
  · intro hfree operations operations' h h'
    rw [outcomes_of_kept_off hnow hempty hfree h, outcomes_of_kept_off hnow hempty hfree h']

def runScope : WorkspaceScope := ⟨"tenant", none, "session", none, "run"⟩

def createAndRead : List WorkspaceOperation := [.create (note "a" "run" "one"), .read ⟨"a"⟩]

theorem scopes_apart_iff_shelf :
    (∀ operations operations', Interleaved runScope operations createAndRead {"b"} →
      Interleaved runScope operations' createAndRead {"b"} →
      shelf.outcomes runScope operations [] = shelf.outcomes runScope operations' []) ↔
    ∀ artifactId ∈ ({"b"} : Set String), isBlank artifactId = false →
      ∀ operation ∈ createAndRead, ¬operation.Touches artifactId :=
  scopes_apart_iff shelf "2026-04-16" (fun _ => rfl) [] rfl runScope createAndRead (by decide) {"b"}

theorem other_scope_read :
    Interleaved runScope createAndRead createAndRead Set.univ ∧
    Interleaved runScope (.create (note "a" "other" "two") :: createAndRead) createAndRead
      Set.univ ∧
    (shelf.outcomes runScope createAndRead []).map Except.isOk = [true, true] ∧
    (shelf.outcomes runScope (.create (note "a" "other" "two") :: createAndRead) []).map
      Except.isOk = [false, true] ∧
    ∃ content, (shelf.outcomes runScope (.create (note "a" "other" "two") :: createAndRead)
      [])[1]? = some (.ok (.content content)) ∧ content.body = "two" := by
  have hown : ∀ operation ∈ createAndRead, Own runScope createAndRead operation := by decide
  have hother : (note "a" "other" "two").artifact.scope ≠ runScope := by decide
  refine ⟨interleaved_self hown, ⟨by decide, ?_, fun _ _ _ => trivial⟩, by decide, by decide,
    _, rfl, rfl⟩
  intro operation hm
  obtain rfl | hm := List.mem_cons.mp hm
  · exact .inr hother
  · exact .inl (by revert operation; decide)

end InMemoryWorkspace

end GreenticDw

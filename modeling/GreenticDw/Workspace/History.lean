import GreenticDw.Workspace.Operations

/-! What the in-memory workspace holds is what its history wrote. -/

namespace GreenticDw

def writtenBy (artifactId : String) : WorkspaceOperation × WorkspaceAnswer → Option String
  | (.create req, .ok _) => if req.artifact.artifactId = artifactId then some req.body else none
  | (.update req, .ok _) => if req.artifactId = artifactId then some req.body else none
  | _ => none

def lastWritten (artifactId : String) (history : List (WorkspaceOperation × WorkspaceAnswer)) :
    Option String :=
  history.reverse.findSome? (writtenBy artifactId)

def CreatedIn (history : List (WorkspaceOperation × WorkspaceAnswer))
    (req : CreateArtifactRequest) : Prop :=
  ∃ reply, (.create req, .ok reply) ∈ history

namespace InMemoryWorkspace

variable {σ : Type} (workspace : InMemoryWorkspace σ)

structure Versioned (artifactId : String) (stored : StoredArtifact) : Prop where
  named : stored.artifact.artifactId = artifactId
  versionIds : ∀ version ∈ stored.versions, version.artifactId = artifactId
  numbers : stored.versions.map (·.version) =
    (List.range' 1 stored.versions.length).map UInt32.ofNat
  latest : ∃ version, stored.versions.getLast? = some version ∧
    version.checksum = workspace.checksum stored.body

structure Recorded (history : List (WorkspaceOperation × WorkspaceAnswer))
    (store : ArtifactStore) : Prop where
  keys : (store.map Prod.fst).Nodup
  versioned : ∀ artifactId stored, store.find artifactId = some stored →
    workspace.Versioned artifactId stored
  written : ∀ artifactId, (store.find artifactId).map (·.body) = lastWritten artifactId history
  found : ∀ artifactId stored, store.find artifactId = some stored → ∃ req, CreatedIn history req ∧
    stored.artifact = req.artifact ∧ stored.metadata = req.metadata
  kept : ∀ req, CreatedIn history req → ∃ stored, store.find req.artifact.artifactId = some stored ∧
    stored.artifact = req.artifact ∧ stored.metadata = req.metadata

variable {workspace}

section

variable {artifactId : String} {stored : StoredArtifact}

lemma Versioned.first (req : CreateArtifactRequest) (createdAt : String) :
    workspace.Versioned req.artifact.artifactId ⟨req.artifact, req.metadata, req.body,
      [workspace.firstVersion req createdAt], []⟩ where
  named := rfl
  versionIds := by simp [firstVersion]
  numbers := rfl
  latest := ⟨_, rfl, rfl⟩

lemma Versioned.next {req : UpdateArtifactRequest} {previous : ArtifactVersion} {createdAt : String}
    (h : workspace.Versioned req.artifactId stored)
    (hl : stored.versions.getLast? = some previous) :
    workspace.Versioned req.artifactId { stored with
      body := req.body
      versions := stored.versions ++ [workspace.nextVersion req previous createdAt] } where
  named := h.named
  versionIds := by
    refine List.forall_mem_append.mpr ⟨h.versionIds, ?_⟩
    simp [nextVersion]
  numbers := by
    have hlast : previous.version = UInt32.ofNat stored.versions.length := by
      have hlasts := congrArg List.getLast? h.numbers
      rw [List.getLast?_map, hl, List.getLast?_map] at hlasts
      have hpos : stored.versions ≠ [] := by
        rintro hnil
        rw [hnil] at hl
        cases hl
      obtain ⟨n, hn⟩ := Nat.exists_eq_succ_of_ne_zero (List.length_eq_zero_iff.not.mpr hpos)
      rw [hn, List.range'_1_concat, List.getLast?_concat] at hlasts
      rw [hn]
      simpa [Nat.add_comm] using hlasts
    rw [List.map_append, h.numbers, List.length_append, List.length_singleton,
      List.range'_1_concat, List.map_append, List.map_singleton, List.map_singleton, nextVersion,
      hlast, Nat.add_comm 1, UInt32.ofNat_add]
    rfl
  latest := ⟨_, List.getLast?_concat, rfl⟩

lemma Versioned.link (h : workspace.Versioned artifactId stored) (links : List ArtifactLink) :
    workspace.Versioned artifactId { stored with links } :=
  ⟨h.named, h.versionIds, h.numbers, h.latest⟩

end

section

variable {history : List (WorkspaceOperation × WorkspaceAnswer)} {store : ArtifactStore}
  {operation : WorkspaceOperation} {answer : WorkspaceAnswer} {artifactId : String}

@[simp] lemma lastWritten_concat (step : WorkspaceOperation × WorkspaceAnswer) :
    lastWritten artifactId (history ++ [step]) =
      (writtenBy artifactId step).or (lastWritten artifactId history) := by
  rw [lastWritten, List.reverse_append, List.reverse_singleton, List.singleton_append,
    List.findSome?_cons]
  cases writtenBy artifactId step <;> rfl

lemma createdIn_concat_of {req : CreateArtifactRequest} (h : CreatedIn history req) :
    CreatedIn (history ++ [(operation, answer)]) req := by
  obtain ⟨reply, hm⟩ := h
  exact ⟨reply, List.mem_append_left _ hm⟩

lemma createdIn_concat {req : CreateArtifactRequest}
    (h : CreatedIn (history ++ [(operation, answer)]) req) :
    CreatedIn history req ∨ (operation = .create req ∧ ∃ reply, answer = .ok reply) := by
  obtain ⟨reply, hm⟩ := h
  obtain hm | hm := List.mem_append.mp hm
  · exact .inl ⟨reply, hm⟩
  · simp only [List.mem_singleton, Prod.mk.injEq] at hm
    exact .inr ⟨hm.1.symm, reply, hm.2.symm⟩

lemma Recorded.idle (h : workspace.Recorded history store)
    (hw : ∀ artifactId, writtenBy artifactId (operation, answer) = none)
    (hc : ∀ req, operation = .create req → ∃ e, answer = .error e) :
    workspace.Recorded (history ++ [(operation, answer)]) store where
  keys := h.keys
  versioned := h.versioned
  written id := by rw [lastWritten_concat, hw, Option.none_or, h.written]
  found id stored hf := by
    obtain ⟨req, hreq, he⟩ := h.found id stored hf
    exact ⟨req, createdIn_concat_of hreq, he⟩
  kept req hreq := by
    obtain hreq | ⟨rfl, reply, rfl⟩ := createdIn_concat hreq
    · exact h.kept req hreq
    · obtain ⟨e, he⟩ := hc req rfl
      cases he

lemma Recorded.create (h : workspace.Recorded history store) {req : CreateArtifactRequest}
    {createdAt : String} (hf : store.find req.artifact.artifactId = none) :
    workspace.Recorded (history ++ [(.create req, .ok (.created req.artifact))])
      (store.insert req.artifact.artifactId ⟨req.artifact, req.metadata, req.body,
        [workspace.firstVersion req createdAt], []⟩) where
  keys := by
    refine List.nodup_cons.mpr ⟨fun hm => ?_, h.keys⟩
    obtain ⟨entry, hentry, he⟩ := List.mem_map.mp hm
    have hs := (ArtifactStore.find_eq_some_iff h.keys).mpr hentry
    rw [show entry.1 = req.artifact.artifactId from he, hf] at hs
    cases hs
  versioned id stored hs := by
    rw [ArtifactStore.find_insert] at hs
    split_ifs at hs with hid
    · cases hs
      exact hid ▸ Versioned.first req createdAt
    · exact h.versioned id stored hs
  written id := by
    rw [ArtifactStore.find_insert, lastWritten_concat, writtenBy]
    split_ifs with hid
    · rfl
    · rw [Option.none_or, h.written]
  found id stored hs := by
    rw [ArtifactStore.find_insert] at hs
    split_ifs at hs with hid
    · cases hs
      exact ⟨req, ⟨_, List.mem_append_right _ (List.mem_singleton_self _)⟩, rfl, rfl⟩
    · obtain ⟨req', hreq', he⟩ := h.found id stored hs
      exact ⟨req', createdIn_concat_of hreq', he⟩
  kept req' hreq' := by
    rw [ArtifactStore.find_insert]
    obtain hreq' | ⟨he, _⟩ := createdIn_concat hreq'
    · obtain ⟨stored, hs, he⟩ := h.kept req' hreq'
      refine ⟨stored, ?_, he⟩
      rw [if_neg, hs]
      intro hid
      rw [← hid, hf] at hs
      cases hs
    · cases he
      exact ⟨_, if_pos rfl, rfl, rfl⟩

lemma Recorded.modify (h : workspace.Recorded history store) {key : String} {entry : StoredArtifact}
    {change : StoredArtifact → StoredArtifact} (hf : store.find key = some entry)
    (hv : workspace.Versioned key (change entry))
    (ha : (change entry).artifact = entry.artifact ∧ (change entry).metadata = entry.metadata)
    (hc : ∀ req, operation ≠ .create req)
    (hw : ∀ id old, (key = id → old = some entry.body) →
      (writtenBy id (operation, answer)).or old =
        if key = id then some (change entry).body else old) :
    workspace.Recorded (history ++ [(operation, answer)]) (store.modify key change) where
  keys := by
    rw [ArtifactStore.ids_modify]
    exact h.keys
  versioned id stored hs := by
    rw [ArtifactStore.find_modify] at hs
    split_ifs at hs with hid
    · subst hid
      rw [hf, Option.map_some, Option.some.injEq] at hs
      exact hs ▸ hv
    · exact h.versioned id stored hs
  written id := by
    have hold : key = id → (store.find id).map (·.body) = some entry.body := by
      rintro rfl
      rw [hf, Option.map_some]
    rw [ArtifactStore.find_modify, lastWritten_concat, ← h.written, hw id _ hold]
    split_ifs with hid
    · rw [← hid, hf]
      rfl
    · rfl
  found id stored hs := by
    rw [ArtifactStore.find_modify] at hs
    split_ifs at hs with hid
    · subst hid
      rw [hf, Option.map_some, Option.some.injEq] at hs
      obtain ⟨req, hreq, hartifact, hmetadata⟩ := h.found key entry hf
      subst hs
      exact ⟨req, createdIn_concat_of hreq, ha.1.trans hartifact, ha.2.trans hmetadata⟩
    · obtain ⟨req, hreq, he⟩ := h.found id stored hs
      exact ⟨req, createdIn_concat_of hreq, he⟩
  kept req hreq := by
    obtain hreq | ⟨he, _⟩ := createdIn_concat hreq
    · obtain ⟨stored, hs, hartifact, hmetadata⟩ := h.kept req hreq
      rw [ArtifactStore.find_modify]
      by_cases hid : key = req.artifact.artifactId
      · rw [← hid, hf] at hs
        cases hs
        rw [if_pos hid, ← hid, hf]
        exact ⟨_, rfl, ha.1.trans hartifact, ha.2.trans hmetadata⟩
      · exact ⟨stored, by rw [if_neg hid, hs], hartifact, hmetadata⟩
    · exact absurd he (hc req)

end

section

variable {history : List (WorkspaceOperation × WorkspaceAnswer)} {store store' : ArtifactStore}
  {operation : WorkspaceOperation} {answer : WorkspaceAnswer}

theorem Recorded.step (h : workspace.Recorded history store)
    (hs : workspace.Stepped store operation answer store') :
    workspace.Recorded (history ++ [(operation, answer)]) store' := by
  cases hs with
  | refused => exact h.idle (by cases operation <;> exact fun _ => rfl) fun _ _ => ⟨_, rfl⟩
  | created _ hf => exact h.create hf
  | looked _ _ => exact h.idle (fun _ => rfl) fun _ he => by cases he
  | @updated req entry previous createdAt hf hl =>
    apply h.modify hf ((h.versioned _ _ hf).next hl) ⟨rfl, rfl⟩ (fun _ he => by cases he)
    intro id old _
    rw [writtenBy]
    split_ifs <;> rfl
  | listed => exact h.idle (fun _ => rfl) fun _ he => by cases he
  | @linked req entry hf =>
    apply h.modify hf ((h.versioned _ _ hf).link _) ⟨rfl, rfl⟩ (fun _ he => by cases he)
    intro id old hold
    have hnone : writtenBy id (.link req, .ok .linked) = none := rfl
    rw [hnone, Option.none_or]
    split_ifs with hid
    · exact hold hid
    · rfl

lemma Stepped.find_of_ne (hs : workspace.Stepped store operation answer store') {id : String}
    (hid : operation.target ≠ some id) : store'.find id = store.find id := by
  cases hs with
  | refused => rfl
  | created _ _ => rw [ArtifactStore.find_insert, if_neg fun he => hid (congrArg some he)]
  | looked _ _ => rfl
  | updated _ _ => rw [ArtifactStore.find_modify, if_neg fun he => hid (congrArg some he)]
  | listed => rfl
  | linked _ => rw [ArtifactStore.find_modify, if_neg fun he => hid (congrArg some he)]

lemma Stepped.eq_of_error {e : WorkspaceError}
    (hs : workspace.Stepped store operation (.error e) store') : store' = store := by
  cases hs
  rfl

lemma Versioned.numbered {artifactId : String} {stored : StoredArtifact}
    (h : workspace.Versioned artifactId stored) (hfew : stored.versions.length < 2 ^ 32) :
    stored.versions.map (·.version.toNat) = List.range' 1 stored.versions.length := by
  have hmap : stored.versions.map (·.version.toNat) =
      (stored.versions.map (·.version)).map UInt32.toNat := by
    rw [List.map_map]
    rfl
  rw [hmap, h.numbers, List.map_map]
  refine (List.map_congr_left fun n hn => ?_).trans (List.map_id _)
  have hn := List.mem_range'_1.mp hn
  exact UInt32.toNat_ofNat_of_lt' (by rw [UInt32.size]; omega)

lemma Recorded.mem_listed (h : workspace.Recorded history store) {scope : WorkspaceScope}
    {summary : ArtifactSummary} :
    summary ∈ store.listed scope ↔ ∃ id stored, store.find id = some stored ∧
      stored.artifact.scope = scope ∧ ArtifactStore.summary stored = some summary := by
  simp only [ArtifactStore.listed, mem_sortBy, List.mem_filterMap, List.mem_filter,
    decide_eq_true_eq, ArtifactStore.find_eq_some_iff h.keys, List.mem_map, Prod.exists,
    exists_eq_right]
  constructor
  · rintro ⟨stored, ⟨⟨id, hm⟩, hscope⟩, hs⟩
    exact ⟨id, stored, hm, hscope, hs⟩
  · rintro ⟨id, stored, hm, hscope, hs⟩
    exact ⟨stored, ⟨⟨id, hm⟩, hscope⟩, hs⟩

lemma summary_artifact {stored : StoredArtifact} {summary : ArtifactSummary}
    (h : ArtifactStore.summary stored = some summary) :
    summary.artifact = stored.artifact ∧ summary.metadata = stored.metadata ∧
      stored.versions.getLast? = some summary.latestVersion := by
  obtain ⟨latest, hl, rfl⟩ := Option.map_eq_some_iff.mp h
  exact ⟨rfl, rfl, hl⟩

lemma map_summary_sublist (entries : List StoredArtifact) :
    ((entries.filterMap ArtifactStore.summary).map (·.artifact.artifactId)).Sublist
      (entries.map (·.artifact.artifactId)) := by
  induction entries with
  | nil => exact List.Sublist.slnil
  | cons stored entries ih =>
    cases hs : ArtifactStore.summary stored with
    | none =>
      rw [List.filterMap_cons_none hs]
      exact ih.cons _
    | some summary =>
      rw [List.filterMap_cons_some hs, List.map_cons, List.map_cons, (summary_artifact hs).1]
      exact ih.cons_cons _

lemma Recorded.nodup_listed (h : workspace.Recorded history store) (scope : WorkspaceScope) :
    ((((store.map Prod.snd).filter fun stored => stored.artifact.scope = scope).filterMap
      ArtifactStore.summary).map (·.artifact.artifactId)).Nodup := by
  have hids : (store.map Prod.snd).map (·.artifact.artifactId) = store.map Prod.fst := by
    rw [List.map_map]
    apply List.map_congr_left
    intro entry hm
    exact (h.versioned _ _ ((ArtifactStore.find_eq_some_iff h.keys).mpr hm)).named
  apply ((map_summary_sublist _).trans (List.filter_sublist.map _)).nodup
  rw [hids]
  exact h.keys

lemma run_concat (operations : List WorkspaceOperation) (operation : WorkspaceOperation) (s : σ) :
    workspace.run (operations ++ [operation]) s =
      ((workspace.run operations s).1 ++
          [(operation, (workspace.apply operation (workspace.run operations s).2).1)],
        (workspace.apply operation (workspace.run operations s).2).2) := by
  induction operations generalizing s with
  | nil => rfl
  | cons first operations ih => simp [run, ih]

theorem recorded_run (hclock : workspace.SteadyClock) {s₀ : σ}
    (hempty : workspace.store.read s₀ = []) (operations : List WorkspaceOperation) :
    workspace.Recorded (workspace.run operations s₀).1
      (workspace.store.read (workspace.run operations s₀).2) := by
  induction operations using List.reverseRecOn with
  | nil =>
    rw [run, hempty]
    refine ⟨List.nodup_nil, ?_, fun _ => rfl, ?_, ?_⟩
    · rintro _ _ hf
      cases hf
    · rintro _ _ hf
      cases hf
    · rintro _ ⟨_, hm⟩
      cases hm
  | append_singleton operations operation ih =>
    rw [run_concat]
    exact ih.step (stepped hclock operation _)

end

structure Faithful (workspace : InMemoryWorkspace σ)
    (history : List (WorkspaceOperation × WorkspaceAnswer)) (s : σ) : Prop where
  numbered : ∀ artifactId stored, (workspace.store.read s).find artifactId = some stored →
    stored.versions ≠ [] ∧
      stored.versions.map (·.version.toNat) = List.range' 1 stored.versions.length
  named : ∀ artifactId stored, (workspace.store.read s).find artifactId = some stored →
    stored.artifact.artifactId = artifactId ∧
      ∀ version ∈ stored.versions, version.artifactId = artifactId
  checksums : ∀ artifactId stored, (workspace.store.read s).find artifactId = some stored →
    ∃ version, stored.versions.getLast? = some version ∧
      version.checksum = workspace.checksum stored.body
  reads : ∀ req body,
    (∃ content, (workspace.apply (.read req) s).1 = .ok (.content content) ∧
      content.body = body) ↔ lastWritten req.artifactId history = some body
  frame : ∀ operation artifactId, operation.target ≠ some artifactId →
    (workspace.store.read (workspace.apply operation s).2).find artifactId =
      (workspace.store.read s).find artifactId
  atomic : ∀ operation e, (workspace.apply operation s).1 = .error e →
    workspace.store.read (workspace.apply operation s).2 = workspace.store.read s
  lists : ∀ req, ∃ summaries, (workspace.apply (.list req) s).1 = .ok (.listed summaries) ∧
    (summaries.map (·.artifact.artifactId)).Pairwise (· < ·) ∧
    ∀ summary, summary ∈ summaries ↔ ∃ create, CreatedIn history create ∧
      create.artifact.scope = req.scope ∧ summary.artifact = create.artifact ∧
      summary.metadata = create.metadata ∧
      ∃ stored, (workspace.store.read s).find create.artifact.artifactId = some stored ∧
        stored.versions.getLast? = some summary.latestVersion

def shelf : InMemoryWorkspace ArtifactStore where
  store := ⟨id, fun store _ => store, fun _ _ => rfl⟩
  clock store := ("2026-04-16", store)
  blake3Hex := id

def note (artifactId run body : String) : CreateArtifactRequest :=
  ⟨⟨artifactId, .note, ⟨"tenant", none, "session", none, run⟩⟩, ⟨"note", [], none⟩, body⟩

def revisions : List WorkspaceOperation :=
  [.create (note "a" "run" "one"), .update ⟨"a", "two", [], []⟩, .create (note "a" "other" "three")]

end InMemoryWorkspace

end GreenticDw

import GreenticDw.Composition.Resolved
import GreenticDw.Orders.Grouping

namespace GreenticDw

namespace PackDependencyRef

variable {dependency : PackDependencyRef} {agentId : String}

@[simp] lemma packId_addAgent : (dependency.addAgent agentId).packId = dependency.packId := by
  rw [addAgent]
  split_ifs <;> rfl

@[simp] lemma sourceRef_addAgent :
    (dependency.addAgent agentId).sourceRef = dependency.sourceRef := by
  rw [addAgent]
  split_ifs <;> rfl

@[simp] lemma version_addAgent : (dependency.addAgent agentId).version = dependency.version := by
  rw [addAgent]
  split_ifs <;> rfl

@[simp] lemma providerId_addAgent :
    (dependency.addAgent agentId).providerId = dependency.providerId := by
  rw [addAgent]
  split_ifs <;> rfl

lemma mem_addAgent {a : String} : a ∈ (dependency.addAgent agentId).appliesToAgents ↔
    a ∈ dependency.appliesToAgents ∨ a = agentId := by
  rw [addAgent]
  split_ifs with h
  · constructor
    · exact Or.inl
    · rintro (ha | rfl)
      · exact ha
      · exact h
  · simp

lemma nodup_addAgent (h : dependency.appliesToAgents.Nodup) :
    (dependency.addAgent agentId).appliesToAgents.Nodup := by
  rw [addAgent]
  split_ifs with hmem
  · exact h
  · exact List.nodup_append'.mpr ⟨h, List.nodup_singleton _, by simpa using hmem⟩

end PackDependencyRef

def packGrouping : Grouping PackUse PackDependencyRef (Bool × String) where
  key packUse := (packUse.providerId.isSome, packUse.packId)
  name dependency := (dependency.providerId.isSome, dependency.packId)
  first := PackUse.dependency
  join dependency packUse := dependency.addAgent packUse.agentId
  name_first _ := rfl
  name_join _ _ := by simp

structure PackDependencyRef.Gathers (dependency : PackDependencyRef) (first : PackUse)
    (uses : List PackUse) : Prop where
  packId : dependency.packId = first.packId
  sourceRef : dependency.sourceRef = first.sourceRef
  version : dependency.version = first.version
  providerId : dependency.providerId = first.providerId
  nodup : dependency.appliesToAgents.Nodup
  agents : ∀ a, a ∈ dependency.appliesToAgents ↔ ∃ packUse ∈ uses, packUse.agentId = a

lemma gathers_foldl (first : PackUse) (rest : List PackUse) :
    (rest.foldl packGrouping.join (packGrouping.first first)).Gathers first (first :: rest) := by
  induction rest using List.reverseRecOn with
  | nil => exact ⟨rfl, rfl, rfl, rfl, List.nodup_singleton _, by simp [packGrouping,
      PackUse.dependency, eq_comm]⟩
  | append_singleton rest packUse ih =>
    rw [List.foldl_concat]
    generalize rest.foldl packGrouping.join (packGrouping.first first) = dependency at ih
    refine ⟨?_, ?_, ?_, ?_, PackDependencyRef.nodup_addAgent ih.nodup, fun a => ?_⟩
    · exact PackDependencyRef.packId_addAgent.trans ih.packId
    · exact PackDependencyRef.sourceRef_addAgent.trans ih.sourceRef
    · exact PackDependencyRef.version_addAgent.trans ih.version
    · exact PackDependencyRef.providerId_addAgent.trans ih.providerId
    · rw [← List.cons_append]
      apply PackDependencyRef.mem_addAgent.trans
      rw [ih.agents a]
      simp only [List.mem_append, List.mem_singleton, or_and_right, exists_or, exists_eq_left,
        eq_comm (a := a)]

lemma group_gathers {uses : List PackUse} {key : Bool × String} {dependency : PackDependencyRef} :
    packGrouping.group uses key = some dependency →
      ∃ first, (uses.filter fun packUse => packGrouping.key packUse = key).head? = some first ∧
        dependency.Gathers first (uses.filter fun packUse => packGrouping.key packUse = key) := by
  intro h
  obtain ⟨first, rest, hf, rfl⟩ := Grouping.group_eq_some.mp h
  rw [hf]
  exact ⟨first, rfl, gathers_foldl first rest⟩

namespace SharedPacks

def position (packs : SharedPacks) (key : Bool × String) : Option ℕ :=
  if key.1 then packs.providerDependencyIndex.get key.2 else packs.supportPackIndex.get key.2

def Indexed (packs : SharedPacks) : Prop :=
  ∀ key, packs.position key =
    packs.sharedPackDependencies.findIdx? fun dependency => packGrouping.name dependency = key

def Planned (packs : SharedPacks) : Prop :=
  packs.bundlePlan.map (fun entry => (entry.packId, entry.sourceRef, entry.rationale)) =
    packs.sharedPackDependencies.filterMap fun dependency =>
      if dependency.providerId.isSome then none
      else some (dependency.packId, dependency.sourceRef,
        some "Template packaging support pack")

variable {packs : SharedPacks} {packUse : PackUse}

lemma position_add (key : Bool × String) : (packs.add packUse).position key =
    if packGrouping.key packUse = key then
      some ((packs.position key).getD packs.sharedPackDependencies.length)
    else packs.position key := by
  obtain ⟨isProvider, packId⟩ := key
  simp only [packGrouping, Prod.mk.injEq, position, add]
  cases hkind : packUse.providerId.isSome with
  | true =>
    cases hget : packs.providerDependencyIndex.get packUse.packId with
    | some index =>
      cases isProvider <;> by_cases hid : packUse.packId = packId <;> simp_all
    | none =>
      cases isProvider <;> by_cases hid : packUse.packId = packId <;> simp_all
  | false =>
    cases hget : packs.supportPackIndex.get packUse.packId with
    | some index =>
      cases isProvider <;> by_cases hid : packUse.packId = packId <;> simp_all
    | none =>
      cases isProvider <;> by_cases hid : packUse.packId = packId <;> simp_all

lemma sharedPackDependencies_add : (packs.add packUse).sharedPackDependencies =
    match packs.position (packGrouping.key packUse) with
    | some index => packs.sharedPackDependencies.modify index
        (PackDependencyRef.addAgent packUse.agentId)
    | none => packs.sharedPackDependencies ++ [packUse.dependency] := by
  cases hkind : packUse.providerId.isSome with
  | true =>
    cases hget : packs.providerDependencyIndex.get packUse.packId <;>
      simp [add, position, packGrouping, hkind, hget]
  | false =>
    cases hget : packs.supportPackIndex.get packUse.packId <;>
      simp [add, position, packGrouping, hkind, hget]

lemma bundlePlan_add : (packs.add packUse).bundlePlan = packs.bundlePlan ++
    if (packs.position (packGrouping.key packUse)).isSome then []
    else if packUse.providerId.isSome then [] else [packUse.inclusionPlan] := by
  cases hkind : packUse.providerId.isSome with
  | true =>
    cases hget : packs.providerDependencyIndex.get packUse.packId <;>
      simp [add, position, packGrouping, hkind, hget]
  | false =>
    cases hget : packs.supportPackIndex.get packUse.packId <;>
      simp [add, position, packGrouping, hkind, hget]

lemma Indexed.place (h : packs.Indexed) : (packs.add packUse).sharedPackDependencies =
    packGrouping.place packUse packs.sharedPackDependencies := by
  rw [sharedPackDependencies_add]
  cases hposition : packs.position (packGrouping.key packUse) with
  | some index =>
    rw [Grouping.place_of_findIdx?_eq_some ((h _).symm.trans hposition)]
    rfl
  | none =>
    rw [Grouping.place_of_findIdx?_eq_none ((h _).symm.trans hposition)]
    rfl

lemma Indexed.add (h : packs.Indexed) : (packs.add packUse).Indexed := by
  intro key
  rw [position_add, h.place, Grouping.findIdx?_place]
  split_ifs with hkey
  · rw [hkey, ← h key]
  · exact h key

lemma Planned.add (hindexed : packs.Indexed) (h : packs.Planned) : (packs.add packUse).Planned := by
  rw [Planned, bundlePlan_add, hindexed.place, Grouping.filterMap_place, List.map_append, h,
    ← hindexed]
  · cases packs.position (packGrouping.key packUse) with
    | some index => rfl
    | none =>
      cases hkind : packUse.providerId.isSome <;>
        simp [packGrouping, PackUse.dependency, PackUse.inclusionPlan, hkind]
  · simp [packGrouping]

theorem add_all (uses : List PackUse) : (uses.foldl SharedPacks.add ∅).Indexed ∧
    (uses.foldl SharedPacks.add ∅).Planned ∧
    (uses.foldl SharedPacks.add ∅).sharedPackDependencies = packGrouping.placeAll [] uses := by
  induction uses using List.reverseRecOn with
  | nil =>
    refine ⟨fun key => ?_, rfl, rfl⟩
    cases key.1 <;> simp [position, show (∅ : SharedPacks) = ⟨[], [], ∅, ∅⟩ from rfl]
  | append_singleton uses packUse ih =>
    obtain ⟨hindexed, hplanned, hplaced⟩ := ih
    rw [List.foldl_concat]
    refine ⟨hindexed.add, hplanned.add hindexed, ?_⟩
    rw [hindexed.place, hplaced, Grouping.placeAll, Grouping.placeAll, List.foldl_concat]

end SharedPacks

end GreenticDw

import GreenticDw.Composition.BundlePlan
import GreenticDw.Composition.Dependencies

namespace GreenticDw

open Text

def providerGrouping : Grouping (PackDependencyRef × String) ProviderPackRef String where
  key entry := entry.1.packId
  name provider := provider.packId
  first entry := (ProviderPackRef.ofDependency entry.1 entry.2).extend entry.1
  join provider entry := provider.extend entry.1
  name_first _ := rfl
  name_join _ _ := rfl

def supportGrouping (rationales : SortedMap String (Option String)) :
    Grouping PackDependencyRef SupportPackRef String where
  key dependency := dependency.packId
  name support := support.packId
  first dependency := (SupportPackRef.ofDependency rationales dependency).extend dependency
  join support dependency := support.extend dependency
  name_first _ := rfl
  name_join _ _ := rfl

def providerDependencies (dependencies : List PackDependencyRef) :
    List (PackDependencyRef × String) :=
  dependencies.filterMap fun dependency => dependency.providerId.map (dependency, ·)

def supportDependencies (dependencies : List PackDependencyRef) : List PackDependencyRef :=
  dependencies.filter (·.providerId.isNone)

variable {rationales : SortedMap String (Option String)} {dependencies : List PackDependencyRef}

lemma BundlePacks.add_provider (packs : BundlePacks) {dependency : PackDependencyRef}
    {providerId : String} (h : dependency.providerId = some providerId) :
    packs.add rationales dependency = { packs with
      providerPacksById :=
        providerGrouping.enter packs.providerPacksById (dependency, providerId) } := by
  simp only [add, h, Grouping.enter, providerGrouping]
  cases packs.providerPacksById.get dependency.packId <;> rfl

lemma BundlePacks.add_support (packs : BundlePacks) {dependency : PackDependencyRef}
    (h : dependency.providerId = none) :
    packs.add rationales dependency = { packs with
      supportPacksById :=
        (supportGrouping rationales).enter packs.supportPacksById dependency } := by
  simp only [add, h, Grouping.enter, supportGrouping]
  cases packs.supportPacksById.get dependency.packId <;> rfl

lemma BundlePacks.foldl_add (packs : BundlePacks) :
    dependencies.foldl (BundlePacks.add rationales) packs =
      ⟨(providerDependencies dependencies).foldl providerGrouping.enter packs.providerPacksById,
        (supportDependencies dependencies).foldl (supportGrouping rationales).enter
          packs.supportPacksById⟩ := by
  induction dependencies generalizing packs with
  | nil => rfl
  | cons dependency dependencies ih =>
    rw [List.foldl_cons, ih]
    cases hprovider : dependency.providerId with
    | some providerId =>
      rw [add_provider packs hprovider]
      simp [providerDependencies, supportDependencies, hprovider]
    | none =>
      rw [add_support packs hprovider]
      simp [providerDependencies, supportDependencies, hprovider]

section Enter

variable {α β : Type} {g : Grouping α β String} {xs : List α}

lemma pairwise_values_enterAll (xs : List α) :
    (((xs.foldl g.enter ∅).values).map g.name).Pairwise (· < ·) := by
  have hkeys : ((xs.foldl g.enter ∅).values).map g.name =
      (xs.foldl g.enter ∅).entries.map Prod.fst := by
    rw [SortedMap.values, List.map_map]
    apply List.map_congr_left
    rintro ⟨key, b⟩ hmem
    have hget := SortedMap.get_eq_some.mpr hmem
    rw [Grouping.get_enterAll] at hget
    exact Grouping.name_of_group hget
  rw [hkeys]
  exact (xs.foldl g.enter ∅).ascending

lemma mem_values_enterAll {b : β} (hxs : (xs.map g.key).Nodup) :
    b ∈ (xs.foldl g.enter ∅).values ↔ ∃ x ∈ xs, b = g.first x := by
  rw [SortedMap.mem_values]
  simp only [Grouping.get_enterAll, Grouping.group_of_nodup hxs]
  constructor
  · rintro ⟨_, x, hx, _, rfl⟩
    exact ⟨x, hx, rfl⟩
  · rintro ⟨x, hx, rfl⟩
    exact ⟨_, x, hx, rfl, rfl⟩

end Enter

def Distinct (dependencies : List PackDependencyRef) : Prop :=
  (dependencies.map packGrouping.name).Nodup

lemma Distinct.sorted (h : Distinct dependencies) :
    Distinct (sortBy PackDependencyRef.packId dependencies) :=
  ((perm_sortBy PackDependencyRef.packId dependencies).map packGrouping.name).nodup_iff.mpr h

lemma Distinct.providers (h : Distinct dependencies) :
    ((providerDependencies dependencies).map providerGrouping.key).Nodup := by
  rw [Distinct, List.Nodup, List.pairwise_map] at h
  rw [List.Nodup, List.pairwise_map, providerDependencies, List.pairwise_filterMap]
  refine h.imp fun {dependency other} hne entry hentry entry' hentry' heq => hne ?_
  obtain ⟨_, hsome, rfl⟩ := Option.map_eq_some_iff.mp hentry
  obtain ⟨_, hsome', rfl⟩ := Option.map_eq_some_iff.mp hentry'
  exact Prod.ext (by simp [packGrouping, hsome, hsome']) heq

lemma Distinct.supports (h : Distinct dependencies) :
    ((supportDependencies dependencies).map (supportGrouping rationales).key).Nodup := by
  rw [Distinct, List.Nodup, List.pairwise_map] at h
  rw [List.Nodup, List.pairwise_map, supportDependencies, List.pairwise_filter]
  refine h.imp fun {dependency other} hne hnone hnone' heq => hne (Prod.ext ?_ heq)
  rw [Option.isNone_iff_eq_none] at hnone hnone'
  simp [packGrouping, hnone, hnone']

namespace DwCompositionDocument

variable (document : DwCompositionDocument)

def generatedAppPack : GeneratedAppPackRef where
  packId := document.outputPlan.generatedPackId.getD
    s!"pack.generated.{document.application.applicationId}"
  resolution := ⟨⟨.ofPath ("./" ++ (document.application.applicationId ++ ".pack"))⟩,
    document.application.version, none⟩
  appliesToAgents := sortedUnique document.agentIds

def providerPacks : List ProviderPackRef :=
  ((providerDependencies (sortBy PackDependencyRef.packId document.sharedPackDependencies)).foldl
    providerGrouping.enter ∅).values

def supportPacks : List SupportPackRef :=
  ((supportDependencies (sortBy PackDependencyRef.packId document.sharedPackDependencies)).foldl
    (supportGrouping document.supportRationaleById).enter ∅).values

def bundle : DwBundlePlan where
  applicationId := document.application.applicationId
  multiAgent := document.multiAgent
  generatedAppPack := document.generatedAppPack
  providerPacks := document.providerPacks
  supportPacks := document.supportPacks
  inclusions := [document.generatedAppPack.inclusion] ++
    document.providerPacks.map (·.inclusion) ++ document.supportPacks.map (·.inclusion)

variable {document}

theorem toBundlePlan_eq : document.toBundlePlan =
    if document.agents.isEmpty then .error (.packMaterialization .noAgents)
    else if contains "://" document.application.applicationId then
      .error (.sourceRef (.unsupportedScheme
        ("./" ++ (document.application.applicationId ++ ".pack"))))
    else .ok document.bundle := by
  have hids : document.packSpec.agents.map (·.agentId) = document.agentIds := by
    rw [DwCompositionDocument.packSpec, List.map_map]
    rfl
  have hroot : PackSourceRef.fromRaw ("./" ++ document.packSpec.layout.appRoot) =
      if contains "://" document.application.applicationId then
        .error (.unsupportedScheme ("./" ++ (document.application.applicationId ++ ".pack")))
      else .ok ⟨.ofPath ("./" ++ (document.application.applicationId ++ ".pack"))⟩ :=
    PackSourceRef.fromRaw_relative document.application.applicationId
  rw [toBundlePlan, toApplicationPackSpec]
  by_cases hempty : document.agents.isEmpty = true
  · rw [if_pos hempty, if_pos hempty]
    rfl
  · rw [if_neg hempty, if_neg hempty]
    simp only [Except.mapError, bind, Except.bind, hroot]
    by_cases hscheme : contains "://" document.application.applicationId = true
    · rw [if_pos hscheme, if_pos hscheme]
    · rw [if_neg hscheme, if_neg hscheme]
      simp only [BundlePacks.foldl_add, hids]
      rfl

lemma toBundlePlan_eq_ok {plan : DwBundlePlan} : document.toBundlePlan = .ok plan ↔
    document.agents ≠ [] ∧ contains "://" document.application.applicationId = false ∧
      plan = document.bundle := by
  rw [toBundlePlan_eq, ← Bool.not_eq_true (contains _ _), ne_eq, ← List.isEmpty_iff]
  split_ifs with hempty hscheme
  · simp [hempty]
  · simp [hscheme]
  · simp [hempty, hscheme, eq_comm]

lemma pairwise_providerPacks :
    (document.providerPacks.map ProviderPackRef.packId).Pairwise (· < ·) :=
  pairwise_values_enterAll (g := providerGrouping) _

lemma pairwise_supportPacks :
    (document.supportPacks.map SupportPackRef.packId).Pairwise (· < ·) :=
  pairwise_values_enterAll (g := supportGrouping document.supportRationaleById) _

lemma mem_providerPacks (h : Distinct document.sharedPackDependencies) {pack : ProviderPackRef} :
    pack ∈ document.providerPacks ↔ ∃ dependency ∈ document.sharedPackDependencies,
      ∃ providerId, dependency.providerId = some providerId ∧
        pack = providerGrouping.first (dependency, providerId) := by
  rw [providerPacks, mem_values_enterAll h.sorted.providers]
  simp only [providerDependencies, List.mem_filterMap, mem_sortBy, Option.map_eq_some_iff]
  constructor
  · rintro ⟨_, ⟨dependency, hmem, providerId, hprovider, rfl⟩, rfl⟩
    exact ⟨dependency, hmem, providerId, hprovider, rfl⟩
  · rintro ⟨dependency, hmem, providerId, hprovider, rfl⟩
    exact ⟨_, ⟨dependency, hmem, providerId, hprovider, rfl⟩, rfl⟩

lemma mem_supportPacks (h : Distinct document.sharedPackDependencies) {pack : SupportPackRef} :
    pack ∈ document.supportPacks ↔ ∃ dependency ∈ document.sharedPackDependencies,
      dependency.providerId = none ∧
        pack = (supportGrouping document.supportRationaleById).first dependency := by
  rw [supportPacks, mem_values_enterAll h.sorted.supports]
  simp only [supportDependencies, List.mem_filter, mem_sortBy, Option.isNone_iff_eq_none, and_assoc]

section Inclusions

variable {γ : Type} {packs : List γ} {packId : γ → String} {inclusion : γ → BundlePackInclusion}
  {kind : BundlePackKind}

lemma filter_map_inclusion (hkind : ∀ pack, (inclusion pack).kind = kind)
    (hid : ∀ pack, (inclusion pack).packId = packId pack)
    (hascends : (packs.map packId).Pairwise (· < ·)) {pack : γ} (h : pack ∈ packs) :
    (packs.map inclusion).filter (fun i => i.kind = kind ∧ i.packId = packId pack) =
      [inclusion pack] := by
  have hnodup : (packs.map packId).Nodup := hascends.imp fun hlt => hlt.ne
  rw [List.filter_map, ← List.map_singleton, ← filter_key_eq hnodup h]
  congr 1
  apply List.filter_congr
  intro other _
  apply decide_eq_decide.mpr
  rw [hkind, hid]
  exact and_iff_right rfl

lemma filter_map_inclusion_of_ne (hkind : ∀ pack, (inclusion pack).kind ≠ kind) (id : String) :
    (packs.map inclusion).filter (fun i => i.kind = kind ∧ i.packId = id) = [] := by
  rw [List.filter_eq_nil_iff, List.forall_mem_map]
  intro pack _ h
  exact hkind pack (of_decide_eq_true h).1

lemma nodup_map_inclusionId {start : String}
    (hid : ∀ pack, (inclusion pack).inclusionId = start ++ packId pack)
    (hascends : (packs.map packId).Pairwise (· < ·)) :
    ((packs.map inclusion).map (·.inclusionId)).Nodup := by
  rw [List.map_map, List.Nodup, List.pairwise_map]
  apply (List.pairwise_map.mp hascends).imp
  intro pack other hlt heq
  apply hlt.ne
  rw [Function.comp_apply, Function.comp_apply, hid, hid] at heq
  exact (String.append_right_inj _).mp heq

end Inclusions

lemma filter_inclusions_provider {pack : ProviderPackRef} (h : pack ∈ document.providerPacks) :
    document.bundle.inclusions.filter
      (fun inclusion => inclusion.kind = .providerPack ∧ inclusion.packId = pack.packId) =
      [pack.inclusion] := by
  have hproviders := filter_map_inclusion ProviderPackRef.kind_inclusion
    ProviderPackRef.packId_inclusion pairwise_providerPacks h
  have hsupports : (document.supportPacks.map (·.inclusion)).filter
      (fun inclusion => inclusion.kind = .providerPack ∧ inclusion.packId = pack.packId) = [] :=
    filter_map_inclusion_of_ne (by simp) pack.packId
  rw [bundle, List.filter_append, List.filter_append, hproviders, hsupports]
  simp

lemma filter_inclusions_support {pack : SupportPackRef} (h : pack ∈ document.supportPacks) :
    document.bundle.inclusions.filter
      (fun inclusion => inclusion.kind = .supportPack ∧ inclusion.packId = pack.packId) =
      [pack.inclusion] := by
  have hproviders : (document.providerPacks.map (·.inclusion)).filter
      (fun inclusion => inclusion.kind = .supportPack ∧ inclusion.packId = pack.packId) = [] :=
    filter_map_inclusion_of_ne (by simp) pack.packId
  have hsupports := filter_map_inclusion SupportPackRef.kind_inclusion
    SupportPackRef.packId_inclusion pairwise_supportPacks h
  rw [bundle, List.filter_append, List.filter_append, hproviders, hsupports]
  simp

lemma filter_inclusions_generated : document.bundle.inclusions.filter
    (fun inclusion => inclusion.kind = .generatedApplicationPack) =
    [document.generatedAppPack.inclusion] := by
  simp [bundle, List.filter_map, Function.comp_def]

lemma take_append_string {s : String} (hs : 9 ≤ s.toList.length) (t : String) :
    (s ++ t).toList.take 9 = s.toList.take 9 := by
  rw [String.toList_append, List.take_append_of_le_length hs]

lemma disjoint_inclusionIds {inclusions others : List BundlePackInclusion} {start start' : List Char}
    (hstart : ∀ inclusion ∈ inclusions, inclusion.inclusionId.toList.take 9 = start)
    (hstart' : ∀ inclusion ∈ others, inclusion.inclusionId.toList.take 9 = start')
    (hne : start ≠ start') :
    (inclusions.map (·.inclusionId)).Disjoint (others.map (·.inclusionId)) := by
  intro id hid hid'
  obtain ⟨inclusion, hmem, rfl⟩ := List.mem_map.mp hid
  obtain ⟨other, hmem', heq⟩ := List.mem_map.mp hid'
  exact hne ((hstart inclusion hmem).symm.trans (heq ▸ hstart' other hmem'))

lemma nodup_inclusionIds : (document.bundle.inclusions.map (·.inclusionId)).Nodup := by
  have hproviders : ((document.providerPacks.map (·.inclusion)).map (·.inclusionId)).Nodup :=
    nodup_map_inclusionId (fun _ => rfl) pairwise_providerPacks
  have hsupports : ((document.supportPacks.map (·.inclusion)).map (·.inclusionId)).Nodup :=
    nodup_map_inclusionId (fun _ => rfl) pairwise_supportPacks
  have hgenerated : ∀ inclusion ∈ [document.generatedAppPack.inclusion],
      inclusion.inclusionId.toList.take 9 = "include.g".toList := by
    rw [List.forall_mem_singleton]
    exact take_append_string (s := "include.generated_app_pack") (by decide) ""
  have hprovider : ∀ inclusion ∈ document.providerPacks.map (·.inclusion),
      inclusion.inclusionId.toList.take 9 = "include.p".toList := by
    simp only [List.forall_mem_map]
    exact fun pack _ => take_append_string (by decide) _
  have hsupport : ∀ inclusion ∈ document.supportPacks.map (·.inclusion),
      inclusion.inclusionId.toList.take 9 = "include.s".toList := by
    simp only [List.forall_mem_map]
    exact fun pack _ => take_append_string (by decide) _
  rw [bundle, List.append_assoc, List.map_append, List.map_append, List.nodup_append',
    List.nodup_append', List.disjoint_append_right]
  exact ⟨List.nodup_singleton _, ⟨hproviders, hsupports,
    disjoint_inclusionIds hprovider hsupport (by decide)⟩,
    disjoint_inclusionIds hgenerated hprovider (by decide),
    disjoint_inclusionIds hgenerated hsupport (by decide)⟩

end DwCompositionDocument

end GreenticDw

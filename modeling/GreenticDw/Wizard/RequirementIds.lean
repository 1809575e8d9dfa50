import GreenticDw.Wizard.Review

namespace GreenticDw

inductive NameKind where
  | setup
  | missing
  | unresolved
  | requirement
  deriving DecidableEq, Repr

namespace NameKind

def text : NameKind → String
  | setup => "setup."
  | missing => "provider.missing."
  | unresolved => "provider.unresolved."
  | requirement => "requirement."

def label (kind : NameKind) (agentId name : String) : String :=
  kind.text ++ agentId ++ "." ++ name

lemma label_inj {kind : NameKind} {agentId otherId name other : String} :
    kind.label agentId name = kind.label otherId other ↔
      agentId ++ "." ++ name = otherId ++ "." ++ other := by
  simp only [label, String.append_assoc, String.append_right_inj]

lemma label_injective (kind : NameKind) (agentId : String) :
    Function.Injective (kind.label agentId) :=
  fun _ _ => (String.append_right_inj _).mp

lemma setup_ne_missing {agentId otherId name other : String} :
    setup.label agentId name ≠ missing.label otherId other := by
  intro h
  have hlist := congrArg (fun s => s.toList.head?) h
  simp [label, text] at hlist

lemma setup_ne_unresolved {agentId otherId name other : String} :
    setup.label agentId name ≠ unresolved.label otherId other := by
  intro h
  have hlist := congrArg (fun s => s.toList.head?) h
  simp [label, text] at hlist

lemma missing_ne_unresolved {agentId otherId name other : String} :
    missing.label agentId name ≠ unresolved.label otherId other := by
  intro h
  have hlist := congrArg (fun s => s.toList[9]?) h
  simp [label, text] at hlist

end NameKind

def DwAgentResolveRequest.capabilities (agent : DwAgentResolveRequest) : List CapabilityId :=
  agent.template.capabilityPlan.requiredCapabilities ++
    agent.template.capabilityPlan.optionalCapabilities

inductive Names (request : DwCompositionResolveRequest) (catalog : DwProviderCatalog)
    (agent : DwAgentResolveRequest) : NameKind → String → Prop where
  | setup {capabilityId : CapabilityId} {providerId : String} {provider : DwProviderCatalogEntry}
      (listed : capabilityId ∈ agent.capabilities)
      (selected : Selects request agent capabilityId (some providerId))
      (found : catalog.find providerId = some provider)
      (needed : provider.requiredSetupSchemaRefs ≠ []) :
      Names request catalog agent .setup providerId
  | missing {capabilityId : CapabilityId} {providerId : String}
      (listed : capabilityId ∈ agent.capabilities)
      (selected : Selects request agent capabilityId (some providerId))
      (absent : catalog.find providerId = none) :
      Names request catalog agent .missing capabilityId
  | unresolved {capabilityId : CapabilityId}
      (listed : capabilityId ∈ agent.template.capabilityPlan.requiredCapabilities)
      (selected : Selects request agent capabilityId none) :
      Names request catalog agent .unresolved capabilityId
  | requirement {capabilityId : CapabilityId} {providerId : String}
      {provider : DwProviderCatalogEntry}
      (listed : capabilityId ∈ agent.capabilities)
      (selected : Selects request agent capabilityId (some providerId))
      (found : catalog.find providerId = some provider) :
      Names request catalog agent .requirement capabilityId

structure NamesOnce (request : DwCompositionResolveRequest) (catalog : DwProviderCatalog)
    (agent : DwAgentResolveRequest) : Prop where
  selected : ∀ capabilityId providerId, Selects request agent capabilityId (some providerId) →
    agent.capabilities.count capabilityId ≤ 1
  unselected : ∀ capabilityId, Selects request agent capabilityId none →
    agent.template.capabilityPlan.requiredCapabilities.count capabilityId ≤ 1
  schemas : ∀ capabilityId ∈ agent.capabilities, ∀ providerId provider,
    Selects request agent capabilityId (some providerId) →
    catalog.find providerId = some provider → provider.requiredSetupSchemaRefs.length ≤ 1
  providers : ∀ capabilityId ∈ agent.capabilities, ∀ otherId ∈ agent.capabilities,
    ∀ providerId provider, Selects request agent capabilityId (some providerId) →
    Selects request agent otherId (some providerId) → catalog.find providerId = some provider →
    provider.requiredSetupSchemaRefs ≠ [] → capabilityId = otherId

structure NamesApart (request : DwCompositionResolveRequest) (catalog : DwProviderCatalog) :
    Prop where
  once : ∀ agent ∈ request.agents, NamesOnce request catalog agent
  apart : ∀ agent ∈ request.agents, ∀ other ∈ request.agents, agent.agentId ≠ other.agentId →
    ∀ kind name otherName, Names request catalog agent kind name →
      Names request catalog other kind otherName →
      agent.agentId ++ "." ++ name ≠ other.agentId ++ "." ++ otherName

structure DwReviewEnvelope.IdsDistinct (envelope : DwReviewEnvelope)
    (document : DwCompositionDocument) : Prop where
  items : (document.unresolvedSetupItems.map (·.requirementId)).Nodup
  requirements : (envelope.applicationPackSpec.requirements.map (·.requirementId)).Nodup
  warnings : (envelope.warnings.map (·.warningId)).Nodup

namespace DwCompositionResolveRequest

variable (request : DwCompositionResolveRequest) (catalog : DwProviderCatalog)
  (agent : DwAgentResolveRequest)

def setupNames (capabilityId : CapabilityId) : List String :=
  (request.boundProvider catalog agent capabilityId).toList.flatMap fun provider =>
    provider.requiredSetupSchemaRefs.map fun _ => provider.providerId

def namesOf : NameKind → List String
  | .setup => agent.capabilities.flatMap (request.setupNames catalog agent)
  | .missing => agent.capabilities.filter fun capabilityId =>
      (request.selectedProviderId agent capabilityId).isSome &&
        (request.boundProvider catalog agent capabilityId).isNone
  | .unresolved => agent.template.capabilityPlan.requiredCapabilities.filter fun capabilityId =>
      (request.selectedProviderId agent capabilityId).isNone
  | .requirement => agent.capabilities.filter fun capabilityId =>
      (request.boundProvider catalog agent capabilityId).isSome

def labelsOf (kind : NameKind) : List String :=
  (request.namesOf catalog agent kind).map (kind.label agent.agentId)

variable {request catalog agent} {document : DwCompositionDocument} {envelope : DwReviewEnvelope}
  {kind : NameKind} {name : String}

lemma boundProvider_eq_some {capabilityId : CapabilityId} {provider : DwProviderCatalogEntry} :
    request.boundProvider catalog agent capabilityId = some provider ↔
      ∃ providerId, Selects request agent capabilityId (some providerId) ∧
        catalog.find providerId = some provider := by
  simp only [boundProvider, Option.bind_eq_some_iff, selects_iff]

lemma mem_setupNames {capabilityId : CapabilityId} :
    name ∈ request.setupNames catalog agent capabilityId ↔
      ∃ provider, Selects request agent capabilityId (some name) ∧
        catalog.find name = some provider ∧ provider.requiredSetupSchemaRefs ≠ [] := by
  simp only [setupNames, List.mem_flatMap, Option.mem_toList, List.mem_map, boundProvider_eq_some]
  constructor
  · rintro ⟨provider, ⟨providerId, hselected, hfind⟩, setupRef, hmem, rfl⟩
    rw [DwProviderCatalog.providerId_of_find hfind]
    exact ⟨provider, hselected, hfind, List.ne_nil_of_mem hmem⟩
  · rintro ⟨provider, hselected, hfind, hne⟩
    obtain ⟨setupRef, hmem⟩ := List.exists_mem_of_ne_nil _ hne
    exact ⟨provider, ⟨name, hselected, hfind⟩, setupRef, hmem,
      DwProviderCatalog.providerId_of_find hfind⟩

lemma mem_namesOf : name ∈ request.namesOf catalog agent kind ↔ Names request catalog agent kind name := by
  cases kind with
  | setup =>
    rw [namesOf, List.mem_flatMap]
    simp only [mem_setupNames]
    constructor
    · rintro ⟨capabilityId, hlisted, provider, hselected, hfind, hne⟩
      exact .setup hlisted hselected hfind hne
    · intro hnames
      cases hnames with
      | setup hlisted hselected hfind hne => exact ⟨_, hlisted, _, hselected, hfind, hne⟩
  | missing =>
    rw [namesOf, List.mem_filter, Bool.and_eq_true, Option.isSome_iff_exists, Option.isNone_iff_eq_none]
    constructor
    · rintro ⟨hlisted, ⟨providerId, hselected⟩, hnone⟩
      rw [boundProvider, hselected, Option.bind_some] at hnone
      exact .missing hlisted (selects_iff.mpr hselected) hnone
    · intro hnames
      cases hnames with
      | missing hlisted hselected hnone =>
        have hselected := selects_iff.mp hselected
        refine ⟨hlisted, ⟨_, hselected⟩, ?_⟩
        rw [boundProvider, hselected, Option.bind_some, hnone]
  | unresolved =>
    rw [namesOf, List.mem_filter, Option.isNone_iff_eq_none, ← selects_iff]
    constructor
    · rintro ⟨hlisted, hselected⟩
      exact .unresolved hlisted hselected
    · intro hnames
      cases hnames with
      | unresolved hlisted hselected => exact ⟨hlisted, hselected⟩
  | requirement =>
    rw [namesOf, List.mem_filter, Option.isSome_iff_exists]
    simp only [boundProvider_eq_some]
    constructor
    · rintro ⟨hlisted, provider, providerId, hselected, hfind⟩
      exact .requirement hlisted hselected hfind
    · intro hnames
      cases hnames with
      | requirement hlisted hselected hfind => exact ⟨hlisted, _, _, hselected, hfind⟩

lemma setupNames_eq_nil {capabilityId : CapabilityId}
    (h : request.boundProvider catalog agent capabilityId = none) :
    request.setupNames catalog agent capabilityId = [] := by
  rw [setupNames, h]
  rfl

lemma flatMap_setupNames (capabilityIds : List CapabilityId) :
    capabilityIds.flatMap (request.setupNames catalog agent) =
      (capabilityIds.filter fun capabilityId =>
        (request.boundProvider catalog agent capabilityId).isSome).flatMap
          (request.setupNames catalog agent) := by
  induction capabilityIds with
  | nil => rfl
  | cons capabilityId capabilityIds ih =>
    rw [List.flatMap_cons, List.filter_cons]
    cases hbound : request.boundProvider catalog agent capabilityId with
    | none => simpa [setupNames_eq_nil hbound] using ih
    | some provider => simpa using ih

lemma nodup_setupNames {capabilityId : CapabilityId} :
    (request.setupNames catalog agent capabilityId).Nodup ↔ ∀ providerId provider,
      Selects request agent capabilityId (some providerId) →
      catalog.find providerId = some provider →
      provider.requiredSetupSchemaRefs.length ≤ 1 := by
  have hlength : (∀ providerId provider, Selects request agent capabilityId (some providerId) →
      catalog.find providerId = some provider → provider.requiredSetupSchemaRefs.length ≤ 1) ↔
      ∀ provider, request.boundProvider catalog agent capabilityId = some provider →
        provider.requiredSetupSchemaRefs.length ≤ 1 := by
    simp only [boundProvider_eq_some]
    constructor
    · rintro h provider ⟨providerId, hselected, hfind⟩
      exact h providerId provider hselected hfind
    · intro h providerId provider hselected hfind
      exact h provider ⟨providerId, hselected, hfind⟩
  rw [hlength, setupNames]
  cases request.boundProvider catalog agent capabilityId with
  | none => simp
  | some provider => simp [List.map_const', List.nodup_replicate]

lemma nodup_namesOf : (∀ kind, (request.namesOf catalog agent kind).Nodup) ↔
    NamesOnce request catalog agent := by
  constructor
  · intro hnodup
    have hmissing := nodup_filter_iff.mp (hnodup .missing)
    have hrequirement := nodup_filter_iff.mp (hnodup .requirement)
    have hsetup := hnodup .setup
    rw [namesOf, flatMap_setupNames, @nodup_flatMap_iff _ _ _ id _ _
      (by rw [List.map_id]; exact hnodup .requirement)] at hsetup
    constructor
    · intro capabilityId providerId hselected
      have hselected := selects_iff.mp hselected
      cases hbound : request.boundProvider catalog agent capabilityId with
      | none => exact hmissing capabilityId (by simp [hselected, hbound])
      | some provider => exact hrequirement capabilityId (by simp [hbound])
    · intro capabilityId hselected
      apply nodup_filter_iff.mp (hnodup .unresolved)
      rw [selects_iff.mp hselected]
      rfl
    · intro capabilityId hlisted providerId provider hselected hfind
      apply nodup_setupNames.mp (hsetup.1 capabilityId _) providerId provider hselected hfind
      rw [List.mem_filter, boundProvider_eq_some.mpr ⟨providerId, hselected, hfind⟩]
      exact ⟨hlisted, rfl⟩
    · intro capabilityId hlisted otherId hother providerId provider hselected hotherSelected hfind hne
      by_contra hdiffer
      have hmem : ∀ c ∈ agent.capabilities, Selects request agent c (some providerId) →
          c ∈ agent.capabilities.filter (fun c => (request.boundProvider catalog agent c).isSome) ∧
            providerId ∈ request.setupNames catalog agent c := by
        intro c hc hselected
        refine ⟨List.mem_filter.mpr ⟨hc, ?_⟩, mem_setupNames.mpr ⟨provider, hselected, hfind, hne⟩⟩
        rw [boundProvider_eq_some.mpr ⟨providerId, hselected, hfind⟩]
        rfl
      obtain ⟨hbound, hname⟩ := hmem capabilityId hlisted hselected
      obtain ⟨hotherBound, hotherName⟩ := hmem otherId hother hotherSelected
      exact hsetup.2 capabilityId hbound otherId hotherBound hdiffer hname hotherName
  · intro h kind
    have hrequirement : (request.namesOf catalog agent .requirement).Nodup := by
      apply nodup_filter_iff.mpr
      intro capabilityId hbound
      obtain ⟨provider, hbound⟩ := Option.isSome_iff_exists.mp hbound
      obtain ⟨providerId, hselected, _⟩ := boundProvider_eq_some.mp hbound
      exact h.selected capabilityId providerId hselected
    cases kind with
    | setup =>
      rw [namesOf, flatMap_setupNames,
        @nodup_flatMap_iff _ _ _ id _ _ (by rw [List.map_id]; exact hrequirement)]
      constructor
      · intro capabilityId hmem
        rw [nodup_setupNames]
        exact h.schemas capabilityId (List.mem_filter.mp hmem).1
      · intro capabilityId hmem otherId hother hdiffer name hname hotherName
        obtain ⟨provider, hselected, hfind, hne⟩ := mem_setupNames.mp hname
        obtain ⟨_, hotherSelected, _, _⟩ := mem_setupNames.mp hotherName
        apply hdiffer
        exact h.providers capabilityId (List.mem_filter.mp hmem).1 otherId
          (List.mem_filter.mp hother).1 name provider hselected hotherSelected hfind hne
    | missing =>
      apply nodup_filter_iff.mpr
      intro capabilityId hmissing
      rw [Bool.and_eq_true, Option.isSome_iff_exists] at hmissing
      obtain ⟨⟨providerId, hselected⟩, _⟩ := hmissing
      exact h.selected capabilityId providerId (selects_iff.mpr hselected)
    | unresolved =>
      apply nodup_filter_iff.mpr
      intro capabilityId hnone
      exact h.unselected capabilityId (selects_iff.mpr (Option.isNone_iff_eq_none.mp hnone))
    | requirement => exact hrequirement

lemma flatMap_filtered {α β : Type} (p : α → Bool) (f : α → β) (xs : List α) :
    (xs.flatMap fun x => if p x then [f x] else []) = (xs.filter p).map f := by
  induction xs with
  | nil => rfl
  | cons x xs ih => cases hp : p x <;> simp [hp, ih]

lemma map_fst_capabilitySpecs : agent.capabilitySpecs.map Prod.fst = agent.capabilities := by
  simp [DwAgentResolveRequest.capabilitySpecs, DwAgentResolveRequest.capabilities, Function.comp_def]

lemma filter_capabilitySpecs (p : CapabilityId → Bool) :
    (agent.capabilitySpecs.filter fun spec => p spec.1).map Prod.fst =
      agent.capabilities.filter p := by
  rw [← map_fst_capabilitySpecs, List.filter_map]
  rfl

lemma filter_required (p : CapabilityId → Bool) :
    (agent.capabilitySpecs.filter fun spec => !spec.2 && p spec.1).map Prod.fst =
      agent.template.capabilityPlan.requiredCapabilities.filter p := by
  simp [DwAgentResolveRequest.capabilitySpecs, List.filter_map, Function.comp_def]

lemma map_refusalsOf (spec : CapabilityId × Bool) :
    (request.refusalsOf catalog agent spec).map (·.requirementId) =
      (if (request.selectedProviderId agent spec.1).isSome &&
          (request.boundProvider catalog agent spec.1).isNone then
        [NameKind.missing.label agent.agentId spec.1] else []) ++
      if !spec.2 && (request.selectedProviderId agent spec.1).isNone then
        [NameKind.unresolved.label agent.agentId spec.1] else [] := by
  rw [refusalsOf, boundProvider]
  cases hselected : request.selectedProviderId agent spec.1 with
  | none => cases spec.2 <;> rfl
  | some providerId =>
    obtain hfind | ⟨provider, hfind⟩ := (catalog.find providerId).eq_none_or_eq_some
    · simp only [hfind, Option.bind_some, Option.isSome_some, Option.isNone_none,
        Option.isNone_some, Bool.and_true, Bool.and_false, if_true]
      rfl
    · simp [hfind]

lemma map_setupsOf (spec : CapabilityId × Bool) :
    (request.setupsOf catalog agent spec).map (·.requirementId) =
      (request.setupNames catalog agent spec.1).map (NameKind.setup.label agent.agentId) := by
  rw [setupsOf, setupNames]
  cases request.boundProvider catalog agent spec.1 with
  | none => rfl
  | some provider =>
    simp only [Option.toList_some, List.flatMap_singleton, List.map_map]
    rfl

lemma perm_itemIds : ((request.itemsOf catalog agent).map (·.requirementId)).Perm
    (request.labelsOf catalog agent .missing ++ request.labelsOf catalog agent .unresolved ++
      request.labelsOf catalog agent .setup) := by
  rw [itemsOf, List.map_flatMap]
  simp only [List.map_append, map_refusalsOf, map_setupsOf]
  apply (List.flatMap_append_perm _ _ _).symm.trans
  apply List.Perm.append
  · apply (List.flatMap_append_perm _ _ _).symm.trans
    rw [flatMap_filtered, flatMap_filtered, labelsOf, labelsOf, namesOf, namesOf,
      ← filter_capabilitySpecs, ← filter_required, List.map_map, List.map_map]
    rfl
  · rw [labelsOf, namesOf, ← map_fst_capabilitySpecs, List.flatMap_map, List.map_flatMap]

lemma map_bindings : (request.agentComposition catalog agent).capabilityBindings.map
    (fun binding => ((request.agentComposition catalog agent).requirement binding).requirementId) =
      request.labelsOf catalog agent .requirement := by
  rw [labelsOf, namesOf, ← filter_capabilitySpecs, List.map_map, ← flatMap_filtered]
  simp only [agentComposition, composition, List.map_flatMap]
  congr 1
  funext spec
  rw [bindingsOf]
  cases request.boundProvider catalog agent spec.1 <;> rfl

lemma nodup_labels (distinct : (request.agents.map (·.agentId)).Nodup) :
    (request.agents.flatMap fun agent => request.labelsOf catalog agent kind).Nodup ↔
      (∀ agent ∈ request.agents, (request.namesOf catalog agent kind).Nodup) ∧
      ∀ agent ∈ request.agents, ∀ other ∈ request.agents, agent.agentId ≠ other.agentId →
        ∀ name otherName, Names request catalog agent kind name →
          Names request catalog other kind otherName →
          agent.agentId ++ "." ++ name ≠ other.agentId ++ "." ++ otherName := by
  rw [nodup_flatMap_iff distinct]
  simp only [labelsOf, List.nodup_map_iff (kind.label_injective _)]
  apply and_congr_right
  intro _
  constructor
  · intro hdisjoint agent hagent other hother hne name otherName hname hotherName heq
    apply hdisjoint agent hagent other hother hne
      (List.mem_map_of_mem (mem_namesOf.mpr hname))
    rw [NameKind.label_inj.mpr heq]
    exact List.mem_map_of_mem (mem_namesOf.mpr hotherName)
  · intro hapart agent hagent other hother hne label hlabel hotherLabel
    obtain ⟨name, hname, rfl⟩ := List.mem_map.mp hlabel
    obtain ⟨otherName, hotherName, heq⟩ := List.mem_map.mp hotherLabel
    exact hapart agent hagent other hother hne name otherName (mem_namesOf.mp hname)
      (mem_namesOf.mp hotherName) (NameKind.label_inj.mp heq.symm)

lemma nodup_itemIds : ((request.document catalog).unresolvedSetupItems.map (·.requirementId)).Nodup ↔
    ∀ kind, kind ≠ .requirement →
      (request.agents.flatMap fun agent => request.labelsOf catalog agent kind).Nodup := by
  have hperm : ((request.document catalog).unresolvedSetupItems.map (·.requirementId)).Perm
      ((request.agents.flatMap fun agent => request.labelsOf catalog agent .missing) ++
        (request.agents.flatMap fun agent => request.labelsOf catalog agent .unresolved) ++
          request.agents.flatMap fun agent => request.labelsOf catalog agent .setup) := by
    simp only [DwCompositionResolveRequest.document, List.map_flatMap]
    apply (List.Perm.flatMap_left _ fun _ _ => perm_itemIds).trans
    apply (List.flatMap_append_perm _ _ _).symm.trans
    exact (List.flatMap_append_perm _ _ _).symm.append_right _
  have hmem : ∀ {kind label}, label ∈ (request.agents.flatMap fun agent =>
      request.labelsOf catalog agent kind) → ∃ agentId name, label = kind.label agentId name := by
    intro kind label hlabel
    obtain ⟨agent, _, hlabel⟩ := List.mem_flatMap.mp hlabel
    obtain ⟨name, _, rfl⟩ := List.mem_map.mp hlabel
    exact ⟨agent.agentId, name, rfl⟩
  rw [hperm.nodup_iff, List.nodup_append', List.nodup_append']
  constructor
  · rintro ⟨⟨hmissing, hunresolved, _⟩, hsetup, _⟩ kind hkind
    cases kind with
    | setup => exact hsetup
    | missing => exact hmissing
    | unresolved => exact hunresolved
    | requirement => exact absurd rfl hkind
  · intro h
    refine ⟨⟨h .missing (by decide), h .unresolved (by decide), ?_⟩, h .setup (by decide), ?_⟩
    · intro label hmissing hunresolved
      obtain ⟨_, _, rfl⟩ := hmem hmissing
      obtain ⟨_, _, heq⟩ := hmem hunresolved
      exact NameKind.missing_ne_unresolved heq
    · intro label hrefused hsetup
      obtain ⟨_, _, rfl⟩ := hmem hsetup
      obtain hmissing | hunresolved := List.mem_append.mp hrefused
      · obtain ⟨_, _, heq⟩ := hmem hmissing
        exact NameKind.setup_ne_missing heq
      · obtain ⟨_, _, heq⟩ := hmem hunresolved
        exact NameKind.setup_ne_unresolved heq

lemma requirementIds_packSpec :
    (request.document catalog).packSpec.requirements.map (·.requirementId) =
      request.agents.flatMap fun agent => request.labelsOf catalog agent .requirement := by
  simp only [DwCompositionDocument.packSpec, DwCompositionResolveRequest.document,
    List.flatMap_map, List.map_flatMap, List.map_map]
  congr 1
  funext agent
  exact map_bindings

lemma status_itemsOf {item : SetupRequirement} (h : item ∈ request.itemsOf catalog agent) :
    item.status = .required := by
  obtain ⟨spec, _, hitem⟩ := List.mem_flatMap.mp h
  obtain hitem | hitem := List.mem_append.mp hitem
  · rw [refusalsOf] at hitem
    split at hitem
    · split at hitem
      · cases hitem
      · rw [List.mem_singleton.mp hitem]
        rfl
    · split_ifs at hitem
      · cases hitem
      · rw [List.mem_singleton.mp hitem]
        rfl
  · obtain ⟨provider, _, hitem⟩ := List.mem_flatMap.mp hitem
    obtain ⟨setupRef, _, rfl⟩ := List.mem_map.mp hitem
    rfl

lemma warningIds_document (hwarnings : envelope.warnings =
    ((request.document catalog).unresolvedSetupItems.filter (·.status ≠ .satisfied)).map
      (·.warning)) : envelope.warnings.map (·.warningId) =
    ((request.document catalog).unresolvedSetupItems.map (·.requirementId)).map
      ("warning." ++ ·) := by
  have hall : (request.document catalog).unresolvedSetupItems.filter (·.status ≠ .satisfied) =
      (request.document catalog).unresolvedSetupItems := by
    rw [List.filter_eq_self]
    intro item hitem
    obtain ⟨agent, _, hitem⟩ := List.mem_flatMap.mp hitem
    rw [status_itemsOf hitem]
    rfl
  rw [hwarnings, hall, List.map_map, List.map_map]
  rfl

theorem reviewIds_distinct_iff (resolved : request.resolve catalog = .ok document)
    (reviewed : document.toReviewEnvelope = .ok envelope)
    (distinct : (request.agents.map (·.agentId)).Nodup) :
    envelope.IdsDistinct document ↔ NamesApart request catalog := by
  obtain ⟨_, rfl⟩ := resolve_eq_ok.mp resolved
  obtain ⟨-, hspec, -, -, hwarnings⟩ := DwCompositionDocument.of_toReviewEnvelope reviewed
  have hkinds : envelope.IdsDistinct (request.document catalog) ↔ ∀ kind,
      (request.agents.flatMap fun agent => request.labelsOf catalog agent kind).Nodup := by
    constructor
    · rintro ⟨hitems, hrequirements, _⟩ kind
      rw [hspec, requirementIds_packSpec] at hrequirements
      by_cases hkind : kind = .requirement
      · rw [hkind]
        exact hrequirements
      · exact nodup_itemIds.mp hitems kind hkind
    · intro h
      have hitems := nodup_itemIds.mpr fun kind _ => h kind
      refine ⟨hitems, ?_, ?_⟩
      · rw [hspec, requirementIds_packSpec]
        exact h .requirement
      · rw [warningIds_document hwarnings]
        exact hitems.map fun _ _ => (String.append_right_inj _).mp
  rw [hkinds]
  simp only [nodup_labels distinct]
  constructor
  · intro h
    constructor
    · intro agent hagent
      exact nodup_namesOf.mp fun kind => (h kind).1 agent hagent
    · intro agent hagent other hother hne kind name otherName
      exact (h kind).2 agent hagent other hother hne name otherName
  · intro h kind
    constructor
    · intro agent hagent
      exact nodup_namesOf.mpr (h.once agent hagent) kind
    · intro agent hagent other hother hne name otherName
      exact h.apart agent hagent other hother hne kind name otherName

theorem reviewIds_distinct_desk : NamesApart (deskRequest ∅) deskCatalog := by
  have hreview : ∃ envelope,
      ((deskRequest ∅).document deskCatalog).toReviewEnvelope = .ok envelope :=
    DwCompositionDocument.exists_review (List.cons_ne_nil _ _) (by decide)
  obtain ⟨envelope, hreview⟩ := hreview
  obtain ⟨-, hspec, -, -, hwarnings⟩ := DwCompositionDocument.of_toReviewEnvelope hreview
  apply (reviewIds_distinct_iff (resolve_deskRequest ∅) hreview (by decide)).mp
  refine ⟨by decide, ?_, ?_⟩
  · rw [hspec]
    decide
  · rw [hwarnings]
    decide

def twiceSetUp : DwProviderCatalog :=
  ⟨[{ memoryProvider with
    requiredSetupSchemaRefs := [⟨(packRef "repo://schemas/memory").source⟩,
      ⟨(packRef "repo://schemas/retention").source⟩] }]⟩

theorem requirementId_repeated : ¬∀ (request : DwCompositionResolveRequest)
    (catalog : DwProviderCatalog) (document : DwCompositionDocument) (envelope : DwReviewEnvelope),
    request.resolve catalog = .ok document → document.toReviewEnvelope = .ok envelope →
      (request.agents.map (·.agentId)).Nodup → envelope.IdsDistinct document := by
  intro h
  have hreview : ∃ envelope,
      ((deskRequest ∅).document twiceSetUp).toReviewEnvelope = .ok envelope :=
    DwCompositionDocument.exists_review (List.cons_ne_nil _ _) (by decide)
  obtain ⟨envelope, hreview⟩ := hreview
  have hdistinct := h _ _ _ _ (resolve_eq_ok.mpr ⟨List.cons_ne_nil _ _, rfl⟩) hreview (by decide)
  exact absurd hdistinct.items (by decide)

end DwCompositionResolveRequest

end GreenticDw

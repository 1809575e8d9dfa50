import GreenticDw.Composition.Archives

namespace GreenticDw

open Text

def AssetDescriptor.assetId : AssetDescriptor → String
  | .asset a => a.assetId
  | .config a => a.assetId
  | .flow a => a.assetId
  | .prompt a => a.assetId

structure MapAssetSupplier where
  bytesByAssetId : SortedMap String (List UInt8)

namespace MapAssetSupplier

def new : MapAssetSupplier := ⟨∅⟩

def withBytes (supplier : MapAssetSupplier) (assetId : String) (bytes : List UInt8) :
    MapAssetSupplier :=
  ⟨supplier.bytesByAssetId.insert assetId bytes⟩

def provide (supplier : MapAssetSupplier) : AssetSupplier := fun descriptor =>
  match supplier.bytesByAssetId.get descriptor.assetId with
  | some bytes => .ok bytes
  | none => .error (.notFound descriptor.assetId)

end MapAssetSupplier

inductive HttpFailure where
  | statusCode404
  | call (e : String)
  | read (e : String)
  deriving DecidableEq, Repr

abbrev BlobFetch := String → Except HttpFailure (List UInt8)

structure OciAssetSupplier where
  registry : String
  repository : String
  digestByAssetId : SortedMap String String
  https : Bool

namespace OciAssetSupplier

def new (registry repository : String) : OciAssetSupplier := ⟨registry, repository, ∅, true⟩

def withDigest (supplier : OciAssetSupplier) (assetId digest : String) : OciAssetSupplier :=
  { supplier with digestByAssetId := supplier.digestByAssetId.insert assetId digest }

def blobUrl (supplier : OciAssetSupplier) (digest : String) : String :=
  let scheme := if supplier.https then "https" else "http"
  scheme ++ "://" ++ trimMatches '/' supplier.registry ++ "/v2/" ++
    trimMatches '/' supplier.repository ++ "/blobs/" ++ digest

def pull (fetch : BlobFetch) (url assetId : String) : Except AssetSupplierError (List UInt8) :=
  match fetch url with
  | .ok bytes => .ok bytes
  | .error .statusCode404 => .error (.notFound assetId)
  | .error (.call e) => .error (.io assetId ("ureq: " ++ e))
  | .error (.read e) => .error (.io assetId e)

def provide (supplier : OciAssetSupplier) (fetch : BlobFetch) : AssetSupplier := fun descriptor =>
  match supplier.digestByAssetId.get descriptor.assetId with
  | some digest => pull fetch (supplier.blobUrl digest) descriptor.assetId
  | none => .error (.notFound descriptor.assetId)

end OciAssetSupplier

namespace DwApplicationPackSpec

variable (spec : DwApplicationPackSpec)

def configured : List AssetDescriptor :=
  spec.assets.map .asset ++ spec.generatedConfigs.map .config

def seedBytes (contents : AssetDescriptor → List UInt8) : MapAssetSupplier :=
  spec.configured.foldl (fun supplier descriptor =>
    supplier.withBytes descriptor.assetId (contents descriptor)) .new

def seedDigests (supplier : OciAssetSupplier) (digests : AssetDescriptor → String) :
    OciAssetSupplier :=
  spec.configured.foldl (fun supplier descriptor =>
    supplier.withDigest descriptor.assetId (digests descriptor)) supplier

/-- No two assets share an id, and a supplier that is keyed by ids serves each asset its own
bytes. -/
structure KeyedByAssetId : Prop where
  nodup : (spec.configured.map AssetDescriptor.assetId).Nodup
  bytes : ∀ contents, ∀ descriptor ∈ spec.configured,
    (spec.seedBytes contents).provide descriptor = .ok (contents descriptor)
  blobs : ∀ supplier digests fetch, ∀ descriptor ∈ spec.configured,
    (spec.seedDigests supplier digests).provide fetch descriptor =
      OciAssetSupplier.pull fetch (supplier.blobUrl (digests descriptor)) descriptor.assetId

variable {spec} {descriptor : AssetDescriptor}

lemma bytesByAssetId_seedBytes (contents : AssetDescriptor → List UInt8) :
    (spec.seedBytes contents).bytesByAssetId = spec.configured.foldl
      (fun m descriptor => m.insert descriptor.assetId (contents descriptor)) ∅ := by
  symm
  apply List.foldl_hom MapAssetSupplier.bytesByAssetId
  exact fun _ _ => rfl

lemma digestByAssetId_seedDigests (supplier : OciAssetSupplier)
    (digests : AssetDescriptor → String) :
    (spec.seedDigests supplier digests).digestByAssetId = spec.configured.foldl
      (fun m descriptor => m.insert descriptor.assetId (digests descriptor))
      supplier.digestByAssetId := by
  symm
  apply List.foldl_hom OciAssetSupplier.digestByAssetId
  exact fun _ _ => rfl

lemma blobUrl_seedDigests (supplier : OciAssetSupplier) (digests : AssetDescriptor → String) :
    (spec.seedDigests supplier digests).blobUrl = supplier.blobUrl := by
  rw [seedDigests]
  induction spec.configured generalizing supplier with
  | nil => rfl
  | cons descriptor descriptors ih =>
    rw [List.foldl_cons, ih]
    rfl

lemma keyedByAssetId_iff_nodup :
    spec.KeyedByAssetId ↔ (spec.configured.map AssetDescriptor.assetId).Nodup := by
  refine ⟨KeyedByAssetId.nodup, fun hn => ⟨hn, ?_, ?_⟩⟩
  · intro contents descriptor hmem
    rw [MapAssetSupplier.provide, bytesByAssetId_seedBytes, SortedMap.get_foldl_insert hn hmem]
  · intro supplier digests fetch descriptor hmem
    rw [OciAssetSupplier.provide, digestByAssetId_seedDigests, SortedMap.get_foldl_insert hn hmem,
      blobUrl_seedDigests]

end DwApplicationPackSpec

namespace DwCompositionDocument

variable {document : DwCompositionDocument} {spec : DwApplicationPackSpec}

def configNames (document : DwCompositionDocument) : List String :=
  document.agentIds ++ if document.multiAgent then ["application"] else []

lemma assetIds_configured : document.packSpec.configured.map AssetDescriptor.assetId =
    document.configNames.map ("asset.config." ++ ·) ++
      document.configNames.map ("generated.config." ++ ·) := by
  simp only [DwApplicationPackSpec.configured, packSpec, configNames, agentIds, List.map_append,
    List.map_map]
  cases document.multiAgent <;> rfl

lemma nodup_configNames (distinct : document.agentIds.Nodup) : document.configNames.Nodup ↔
    (document.agents.length > 1 ∨ document.outputPlan.supportsMultiAgentAppPack = true →
      "application" ∉ document.agentIds) := by
  have hmulti : document.multiAgent = true ↔ document.agents.length > 1 ∨
      document.outputPlan.supportsMultiAgentAppPack = true := by
    rw [multiAgent, Bool.or_eq_true, decide_eq_true_eq]
  rw [← hmulti, configNames, List.nodup_append']
  cases document.multiAgent <;> simp [distinct]

lemma nodup_assetIds : (document.packSpec.configured.map AssetDescriptor.assetId).Nodup ↔
    document.configNames.Nodup := by
  have hinjective : ∀ s : String, Function.Injective (s ++ ·) :=
    fun s _ _ => (String.append_right_inj s).mp
  rw [assetIds_configured, List.nodup_append', List.nodup_map_iff (hinjective _),
    List.nodup_map_iff (hinjective _)]
  have happart : (document.configNames.map ("asset.config." ++ ·)).Disjoint
      (document.configNames.map ("generated.config." ++ ·)) := by
    intro assetId hasset hconfig
    obtain ⟨name, _, rfl⟩ := List.mem_map.mp hasset
    obtain ⟨other, _, h⟩ := List.mem_map.mp hconfig
    have hlist := congrArg (fun s => s.toList.head?) h
    simp at hlist
  tauto

theorem keyedByAssetId_iff (materialized : document.toApplicationPackSpec = .ok spec)
    (distinct : document.agentIds.Nodup) : spec.KeyedByAssetId ↔
      (document.agents.length > 1 ∨ document.outputPlan.supportsMultiAgentAppPack = true →
        "application" ∉ document.agentIds) := by
  obtain ⟨_, rfl⟩ := toApplicationPackSpec_eq_ok.mp materialized
  rw [DwApplicationPackSpec.keyedByAssetId_iff_nodup, nodup_assetIds, nodup_configNames distinct]

theorem keyedByAssetId_desk : ((deskRequest ∅).document deskCatalog).packSpec.KeyedByAssetId :=
  (keyedByAssetId_iff PackBuilder.materialized_desk (by decide)).mpr fun _ => by decide

def applicationAgents : DwCompositionDocument :=
  { deskRequest ∅ with agents := [deskAgent "application" ∅, deskAgent "back" ∅] }.document deskCatalog

theorem assetId_repeated : ¬∀ (document : DwCompositionDocument) (spec : DwApplicationPackSpec),
    document.toApplicationPackSpec = .ok spec → document.agentIds.Nodup →
      spec.KeyedByAssetId := by
  intro h
  have hkeyed := h applicationAgents applicationAgents.packSpec
    (toApplicationPackSpec_eq_ok.mpr ⟨List.cons_ne_nil _ _, rfl⟩) (by decide)
  exact absurd hkeyed.nodup (by decide)

end DwCompositionDocument

end GreenticDw

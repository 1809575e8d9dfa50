import GreenticDw.Composition.PackSpec
import GreenticDw.Orders.Grouping

namespace GreenticDw

open Text

inductive BundlePackKind where
  | generatedApplicationPack
  | providerPack
  | supportPack
  deriving DecidableEq, Repr

structure BundleSourceResolution where
  sourceRef : PackSourceRef
  version : Option String
  channel : Option String
  deriving DecidableEq, Repr

structure GeneratedAppPackRef where
  packId : String
  resolution : BundleSourceResolution
  appliesToAgents : List String
  deriving DecidableEq, Repr

structure ProviderPackRef where
  packId : String
  providerId : String
  resolution : BundleSourceResolution
  appliesToAgents : List String
  deriving DecidableEq, Repr

structure SupportPackRef where
  packId : String
  resolution : BundleSourceResolution
  appliesToAgents : List String
  rationale : Option String
  deriving DecidableEq, Repr

structure BundlePackInclusion where
  inclusionId : String
  packId : String
  kind : BundlePackKind
  resolution : BundleSourceResolution
  appliesToAgents : List String
  rationale : Option String
  deriving DecidableEq, Repr

structure DwBundlePlan where
  applicationId : String
  multiAgent : Bool
  generatedAppPack : GeneratedAppPackRef
  providerPacks : List ProviderPackRef
  supportPacks : List SupportPackRef
  inclusions : List BundlePackInclusion
  deriving DecidableEq, Repr

inductive DwBundlePlanGenerationError where
  | packMaterialization (e : DwApplicationPackMaterializationError)
  | sourceRef (e : SourceRefError)
  deriving DecidableEq, Repr

def PackDependencyRef.resolution (dependency : PackDependencyRef) : BundleSourceResolution where
  sourceRef := dependency.sourceRef
  version := dependency.version
  channel := none

namespace ProviderPackRef

def ofDependency (dependency : PackDependencyRef) (providerId : String) : ProviderPackRef where
  packId := dependency.packId
  providerId := providerId
  resolution := dependency.resolution
  appliesToAgents := []

def extend (entry : ProviderPackRef) (dependency : PackDependencyRef) : ProviderPackRef :=
  { entry with appliesToAgents := sortedUnique (entry.appliesToAgents ++ dependency.appliesToAgents) }

def inclusion (provider : ProviderPackRef) : BundlePackInclusion where
  inclusionId := "include.provider." ++ provider.packId
  packId := provider.packId
  kind := .providerPack
  resolution := provider.resolution
  appliesToAgents := provider.appliesToAgents
  rationale := some ("Provider dependency `" ++ provider.providerId ++ "`")

@[simp] lemma kind_inclusion (provider : ProviderPackRef) :
    provider.inclusion.kind = .providerPack := rfl

@[simp] lemma packId_inclusion (provider : ProviderPackRef) :
    provider.inclusion.packId = provider.packId := rfl

end ProviderPackRef

namespace SupportPackRef

def ofDependency (rationales : SortedMap String (Option String)) (dependency : PackDependencyRef) :
    SupportPackRef where
  packId := dependency.packId
  resolution := dependency.resolution
  appliesToAgents := []
  rationale := (rationales.get dependency.packId).join

def extend (entry : SupportPackRef) (dependency : PackDependencyRef) : SupportPackRef :=
  { entry with appliesToAgents := sortedUnique (entry.appliesToAgents ++ dependency.appliesToAgents) }

def inclusion (support : SupportPackRef) : BundlePackInclusion where
  inclusionId := "include.support." ++ support.packId
  packId := support.packId
  kind := .supportPack
  resolution := support.resolution
  appliesToAgents := support.appliesToAgents
  rationale := support.rationale

@[simp] lemma kind_inclusion (support : SupportPackRef) :
    support.inclusion.kind = .supportPack := rfl

@[simp] lemma packId_inclusion (support : SupportPackRef) :
    support.inclusion.packId = support.packId := rfl

end SupportPackRef

def GeneratedAppPackRef.inclusion (pack : GeneratedAppPackRef) : BundlePackInclusion where
  inclusionId := "include.generated_app_pack"
  packId := pack.packId
  kind := .generatedApplicationPack
  resolution := pack.resolution
  appliesToAgents := pack.appliesToAgents
  rationale := some "Generated application pack"

@[simp] lemma GeneratedAppPackRef.kind_inclusion (pack : GeneratedAppPackRef) :
    pack.inclusion.kind = .generatedApplicationPack := rfl

structure BundlePacks where
  providerPacksById : SortedMap String ProviderPackRef
  supportPacksById : SortedMap String SupportPackRef

def BundlePacks.add (rationales : SortedMap String (Option String)) (packs : BundlePacks)
    (dependency : PackDependencyRef) : BundlePacks :=
  match dependency.providerId with
  | some providerId =>
    let entry := (packs.providerPacksById.get dependency.packId).getD
      (.ofDependency dependency providerId)
    { packs with
      providerPacksById := packs.providerPacksById.insert dependency.packId
        (entry.extend dependency) }
  | none =>
    let entry := (packs.supportPacksById.get dependency.packId).getD
      (.ofDependency rationales dependency)
    { packs with
      supportPacksById := packs.supportPacksById.insert dependency.packId
        (entry.extend dependency) }

namespace DwCompositionDocument

variable (document : DwCompositionDocument)

def supportRationaleById : SortedMap String (Option String) :=
  .ofEntries (document.bundlePlan.map fun entry => (entry.packId, entry.rationale))

def toBundlePlan : Except DwBundlePlanGenerationError DwBundlePlan := do
  let packSpec ← document.toApplicationPackSpec.mapError .packMaterialization
  let sourceRef ← (PackSourceRef.fromRaw ("./" ++ packSpec.layout.appRoot)).mapError .sourceRef
  let generatedAppPack : GeneratedAppPackRef := {
    packId := packSpec.metadata.packId
    resolution := ⟨sourceRef, packSpec.metadata.version, none⟩
    appliesToAgents := sortedUnique (packSpec.agents.map (·.agentId)) }
  let packs := packSpec.dependencyPackRefs.foldl (BundlePacks.add document.supportRationaleById)
    ⟨∅, ∅⟩
  let providerPacks := packs.providerPacksById.values
  let supportPacks := packs.supportPacksById.values
  return {
    applicationId := document.application.applicationId
    multiAgent := packSpec.metadata.multiAgent
    generatedAppPack := generatedAppPack
    providerPacks := providerPacks
    supportPacks := supportPacks
    inclusions := [generatedAppPack.inclusion] ++ providerPacks.map (·.inclusion) ++
      supportPacks.map (·.inclusion) }

end DwCompositionDocument

end GreenticDw

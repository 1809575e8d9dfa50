import GreenticDw.Composition.PackSpec
import GreenticDw.Composition.Resolved
import GreenticDw.Traced.Computation

namespace GreenticDw

inductive AssetDescriptor where
  | asset (asset : DwApplicationPackAsset)
  | config (config : DwGeneratedConfigAsset)
  | flow (flow : DwGeneratedFlowAsset)
  | prompt (prompt : DwGeneratedPromptAsset)
  deriving DecidableEq, Repr

def AssetDescriptor.path : AssetDescriptor → String
  | .asset a => a.path
  | .config a => a.path
  | .flow a => a.path
  | .prompt a => a.path

inductive AssetSupplierError where
  | notFound (assetId : String)
  | io (assetId : String) (source : String)
  deriving DecidableEq, Repr

inductive DwPackBuildError where
  | supplier (e : AssetSupplierError)
  deriving DecidableEq, Repr

abbrev AssetSupplier := AssetDescriptor → Except AssetSupplierError (List UInt8)

/-- What attach_assets calls of the builder of packs, which is code of another repository. -/
structure PackBuilder (B : Type) where
  withAssetBytes : B → String → List UInt8 → B

abbrev AttachedFile := String × List UInt8

namespace PackBuilder

variable {B : Type} (packBuilder : PackBuilder B) (supplier : AssetSupplier)

def attach (path : String) (bytes : List UInt8) : Traced B AttachedFile DwPackBuildError Unit :=
  Traced.answer (fun builder => ((), packBuilder.withAssetBytes builder path bytes))
    fun _ => (path, bytes)

def attachEach : List AssetDescriptor → Traced B AttachedFile DwPackBuildError Unit
  | [] => pure ()
  | descriptor :: descriptors => do
    let bytes ← Traced.ofExcept ((supplier descriptor).mapError .supplier)
    packBuilder.attach descriptor.path bytes
    attachEach descriptors

def attachAssets (spec : DwApplicationPackSpec) : Traced B AttachedFile DwPackBuildError Unit := do
  packBuilder.attachEach supplier (spec.assets.map .asset)
  packBuilder.attachEach supplier (spec.generatedConfigs.map .config)
  packBuilder.attachEach supplier (spec.generatedFlows.map .flow)
  packBuilder.attachEach supplier (spec.generatedPrompts.map .prompt)

def attachedPaths (files : List AttachedFile) : List String := files.map Prod.fst

variable {packBuilder supplier} {builder : B} {spec : DwApplicationPackSpec}

section

variable {m n : Traced B AttachedFile DwPackBuildError Unit} {paths others : List String}

def Attaches (m : Traced B AttachedFile DwPackBuildError Unit) (paths : List String) : Prop :=
  ∀ builder, (m.run builder).result = .ok () → attachedPaths (m.run builder).trace = paths

lemma Attaches.bind (hm : Attaches m paths) (hn : Attaches n others) :
    Attaches (do m; n) (paths ++ others) := by
  intro builder h
  obtain ⟨_, builder', files, hfirst, hrun, hrest⟩ := Traced.run_bind_eq_ok h
  have hpaths := hm builder (by rw [hfirst])
  rw [hfirst] at hpaths
  rw [hrun, Outcome.after_trace, attachedPaths, List.map_append]
  exact congrArg₂ (· ++ ·) hpaths (hn builder' hrest)

lemma attaches_attach (path : String) (bytes : List UInt8) :
    Attaches (packBuilder.attach path bytes) [path] :=
  fun _ _ => rfl

lemma attaches_attachEach (descriptors : List AssetDescriptor) :
    Attaches (packBuilder.attachEach supplier descriptors)
      (descriptors.map AssetDescriptor.path) := by
  induction descriptors with
  | nil => exact fun _ _ => rfl
  | cons descriptor descriptors ih =>
    intro builder h
    cases hbytes : supplier descriptor with
    | error e => simp [attachEach, hbytes, Except.mapError] at h
    | ok bytes =>
      have hrun : (packBuilder.attachEach supplier (descriptor :: descriptors)).run builder =
          (do packBuilder.attach descriptor.path bytes
              packBuilder.attachEach supplier descriptors).run builder := by
        simp [attachEach, hbytes, Except.mapError]
      rw [hrun] at h ⊢
      exact (attaches_attach descriptor.path bytes).bind ih builder h

lemma attaches_attachAssets (spec : DwApplicationPackSpec) :
    Attaches (packBuilder.attachAssets supplier spec)
      (spec.assets.map (·.path) ++ (spec.generatedConfigs.map (·.path) ++
        (spec.generatedFlows.map (·.path) ++ spec.generatedPrompts.map (·.path)))) := by
  have h : Attaches (packBuilder.attachAssets supplier spec)
      ((spec.assets.map .asset).map AssetDescriptor.path ++
        ((spec.generatedConfigs.map .config).map AssetDescriptor.path ++
          ((spec.generatedFlows.map .flow).map AssetDescriptor.path ++
            (spec.generatedPrompts.map .prompt).map AssetDescriptor.path))) :=
    (attaches_attachEach _).bind ((attaches_attachEach _).bind
      ((attaches_attachEach _).bind (attaches_attachEach _)))
  simp only [List.map_map] at h
  exact h

end

section Specification

variable {document : DwCompositionDocument}

theorem config_attached_twice (materialized : document.toApplicationPackSpec = .ok spec)
    (attached : ((packBuilder.attachAssets supplier spec).run builder).result = .ok ())
    {agent : DwAgentComposition} (hagent : agent ∈ document.agents) :
    2 ≤ (attachedPaths ((packBuilder.attachAssets supplier spec).run builder).trace).count
      agent.configPath := by
  obtain ⟨_, rfl⟩ := DwCompositionDocument.toApplicationPackSpec_eq_ok.mp materialized
  have hassets : 1 ≤ (document.packSpec.assets.map (·.path)).count agent.configPath := by
    rw [List.one_le_count_iff, List.mem_map]
    exact ⟨agent.configAsset, List.mem_append_left _ (List.mem_map_of_mem hagent), rfl⟩
  have hconfigs : 1 ≤ (document.packSpec.generatedConfigs.map (·.path)).count agent.configPath := by
    rw [List.one_le_count_iff, List.mem_map]
    exact ⟨agent.generatedConfig, List.mem_append_left _ (List.mem_map_of_mem hagent), rfl⟩
  rw [attaches_attachAssets document.packSpec builder attached]
  simp only [List.count_append]
  omega

theorem assetPaths_never_distinct (materialized : document.toApplicationPackSpec = .ok spec)
    (attached : ((packBuilder.attachAssets supplier spec).run builder).result = .ok ()) :
    ¬(attachedPaths ((packBuilder.attachAssets supplier spec).run builder).trace).Nodup := by
  obtain ⟨hne, _⟩ := DwCompositionDocument.toApplicationPackSpec_eq_ok.mp materialized
  obtain ⟨agent, hagent⟩ := List.exists_mem_of_ne_nil _ hne
  intro hnodup
  have htwice := config_attached_twice materialized attached hagent
  have honce := List.nodup_iff_count_le_one.mp hnodup agent.configPath
  omega

def overwriting : PackBuilder (List AttachedFile) where
  withAssetBytes files path bytes := files.filter (·.1 ≠ path) ++ [(path, bytes)]

lemma materialized_desk : ((deskRequest ∅).document deskCatalog).toApplicationPackSpec =
    .ok ((deskRequest ∅).document deskCatalog).packSpec :=
  DwCompositionDocument.toApplicationPackSpec_eq_ok.mpr ⟨List.cons_ne_nil _ _, rfl⟩

def deskFiles : List AttachedFile :=
  (overwriting.attachAssets (fun _ => .ok []) ((deskRequest ∅).document deskCatalog).packSpec).run []
    |>.trace

lemma attachedPaths_desk : attachedPaths deskFiles =
    ["agents/front/config.json", "agents/back/config.json", "shared/application.json",
      "agents/front/config.json", "agents/back/config.json", "shared/application.json"] := by
  rfl

theorem assetPaths_never_distinct_desk : ¬(attachedPaths deskFiles).Nodup := by
  have attached : ((overwriting.attachAssets (fun _ => .ok [])
      ((deskRequest ∅).document deskCatalog).packSpec).run []).result = .ok () := rfl
  exact assetPaths_never_distinct materialized_desk attached

theorem config_path_repeated : ¬∀ (request : DwCompositionResolveRequest)
    (catalog : DwProviderCatalog) (document : DwCompositionDocument) (spec : DwApplicationPackSpec)
    (supplier : AssetSupplier), request.resolve catalog = .ok document →
    document.toApplicationPackSpec = .ok spec →
    ((overwriting.attachAssets supplier spec).run []).result = .ok () →
    (attachedPaths ((overwriting.attachAssets supplier spec).run []).trace).Nodup := by
  intro h
  have hnodup := h _ _ _ _ (fun _ => .ok []) (resolve_deskRequest ∅) materialized_desk rfl
  change (attachedPaths deskFiles).Nodup at hnodup
  rw [attachedPaths_desk] at hnodup
  exact absurd hnodup (by decide)

end Specification

end PackBuilder

end GreenticDw

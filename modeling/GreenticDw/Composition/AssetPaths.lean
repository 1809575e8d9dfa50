import GreenticDw.Composition.AssetIds
import GreenticDw.Files.Climbing
import GreenticDw.Files.FileSystem

namespace GreenticDw

open Files

structure FsAssetSupplier where
  baseDir : PathBuf

namespace FsAssetSupplier

def fullPath (supplier : FsAssetSupplier) (descriptor : AssetDescriptor) : PathBuf :=
  join supplier.baseDir descriptor.path

def provide (supplier : FsAssetSupplier) (read : PathBuf → Except IoError (List UInt8))
    (describe : IoError → String) : AssetSupplier := fun descriptor =>
  match read (supplier.fullPath descriptor) with
  | .ok bytes => .ok bytes
  | .error .notFound => .error (.notFound descriptor.assetId)
  | .error e => .error (.io descriptor.assetId (describe e))

end FsAssetSupplier

def agentsDirectory : Name := ⟨"agents", by decide⟩
def configFile : Name := ⟨"config.json", by decide⟩

/-- The id may climb one level, that of the directory of all agents. Further up it goes only to come
back by the same names. -/
def AgentIdStays (root : Location) (agentId : String) : Prop :=
  let climb := climbOf (body (pieces agentId))
  root.rtake (climb.levels - 1) <+: climb.names ++ [configFile]

instance (root : Location) (agentId : String) : Decidable (AgentIdStays root agentId) :=
  inferInstanceAs (Decidable (_ <+: _))

namespace DwAgentComposition

variable {agent : DwAgentComposition} {cwd : Location} {base : PathBuf}

lemma pieces_configPath (agent : DwAgentComposition) : pieces agent.configPath =
    pieces "agents" ++ pieces agent.agentId ++ pieces "config.json" := by
  have hpath : agent.configPath = "agents" ++ "/" ++ agent.agentId ++ "/" ++ "config.json" := by
    have hfront : "agents/" = "agents" ++ "/" := by decide
    have hback : "/config.json" = "/" ++ "config.json" := by decide
    change "agents/" ++ agent.agentId ++ "/config.json" = _
    rw [hback, hfront]
    simp only [String.append_assoc]
  rw [hpath, pieces_append_sep, pieces_append_sep]

lemma below_configPath : Below cwd base (join base agent.configPath) ↔
    AgentIdStays (walk cwd (components base)) agent.agentId := by
  have habs : ¬ isAbsolute agent.configPath := by
    rw [isAbsolute, start, pieces_configPath, List.append_assoc, startOf_append (by decide)
      (by decide)]
    decide
  have hbody : body (pieces agent.configPath) =
      .normal agentsDirectory :: (body (pieces agent.agentId) ++ [.normal configFile]) := by
    have hfront : body (pieces "agents") = [.normal agentsDirectory] := by decide
    have hback : body (pieces "config.json") = [.normal configFile] := by decide
    rw [pieces_configPath, body_append, body_append, hfront, hback]
    rfl
  rw [below_join habs, hbody, climbOf_cons, returns_within, climbOf_concat]
  rfl

end DwAgentComposition

namespace DwCompositionDocument

variable {document : DwCompositionDocument} {spec : DwApplicationPackSpec} {cwd : Location}
  {supplier : FsAssetSupplier}

lemma below_shared (base : PathBuf) : Below cwd base (join base "shared/application.json") := by
  have hclimb : (climbOf (body (pieces "shared/application.json"))).levels = 0 := by decide
  rw [below_join (by decide), Climb.Returns, hclimb, List.rtake_zero]
  exact List.nil_prefix

def configPaths (document : DwCompositionDocument) : List PathBuf :=
  document.agents.map (·.configPath) ++
    if document.multiAgent then ["shared/application.json"] else []

lemma paths_configured : document.packSpec.configured.map AssetDescriptor.path =
    document.configPaths ++ document.configPaths := by
  simp only [DwApplicationPackSpec.configured, packSpec, configPaths, List.map_append,
    List.map_map]
  cases document.multiAgent <;> rfl

lemma below_configured_iff (h : document.toApplicationPackSpec = .ok spec) :
    (∀ descriptor ∈ spec.configured, Below cwd supplier.baseDir (supplier.fullPath descriptor)) ↔
      ∀ agent ∈ document.agents,
        AgentIdStays (walk cwd (components supplier.baseDir)) agent.agentId := by
  obtain ⟨-, rfl⟩ := toApplicationPackSpec_eq_ok.mp h
  calc (∀ descriptor ∈ document.packSpec.configured,
        Below cwd supplier.baseDir (supplier.fullPath descriptor))
      ↔ ∀ path ∈ document.packSpec.configured.map AssetDescriptor.path,
          Below cwd supplier.baseDir (join supplier.baseDir path) := by
        rw [List.forall_mem_map]
        exact Iff.rfl
    _ ↔ ∀ path ∈ document.configPaths, Below cwd supplier.baseDir (join supplier.baseDir path) := by
        rw [paths_configured, List.forall_mem_append, and_self]
    _ ↔ ∀ agent ∈ document.agents,
          AgentIdStays (walk cwd (components supplier.baseDir)) agent.agentId := by
        have hshared : ∀ path ∈ if document.multiAgent then ["shared/application.json"] else [],
            Below cwd supplier.baseDir (join supplier.baseDir path) := by
          intro path hpath
          rw [List.mem_ite_nil_right, List.mem_singleton] at hpath
          rw [hpath.2]
          exact below_shared _
        rw [configPaths, List.forall_mem_append, and_iff_left hshared, List.forall_mem_map]
        simp only [DwAgentComposition.below_configPath]

end DwCompositionDocument

end GreenticDw

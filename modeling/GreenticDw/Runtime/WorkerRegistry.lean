import GreenticDw.Providers.Delegation
import GreenticDw.Text.Strings
import GreenticDw.Traced.Checks

namespace GreenticDw

open Text

structure CallableWorkerTool where
  toolId : String
  targetAgentId : String
  description : String
  inputSchemaRef : String
  outputSchemaRef : String
  deriving DecidableEq, Repr

structure AgentRoute where
  fromAgentId : String
  toAgentId : String
  allowed : Bool
  deriving DecidableEq, Repr

structure InterAgentRoutingConfig where
  allowedRoutes : List String
  coordinatorAgentId : Option String
  finalizerAgentId : Option String
  routes : List AgentRoute
  callableWorkers : List CallableWorkerTool
  deriving DecidableEq, Repr

inductive CallableWorkerRegistryError where
  | notConfigured
  | noCallableWorkers
  | duplicateToolId (toolId : String)
  | unknownTool (toolId : String)
  | targetMismatch (toolId expected actual : String)
  | routeNotAllowed (sourceAgentId targetAgentId : String)
  | outputSchemaMismatch (toolId expected actual : String)
  deriving DecidableEq, Repr

structure CallableWorkerRegistry where
  coordinatorAgentId : Option String
  finalizerAgentId : Option String
  toolsById : List (String × CallableWorkerTool)
  allowedRoutes : Finset (String × String)

namespace CallableWorkerRegistry

def insertTools (toolsById : List (String × CallableWorkerTool)) : List CallableWorkerTool →
    Except CallableWorkerRegistryError (List (String × CallableWorkerTool))
  | [] => pure toolsById
  | tool :: tools => do
    rejectIf (toolsById.lookup tool.toolId).isSome (.duplicateToolId tool.toolId)
    insertTools ((tool.toolId, tool) :: toolsById) tools

def insertRoutes (allowed : Finset (String × String)) : List AgentRoute → Finset (String × String)
  | [] => allowed
  | route :: routes =>
    insertRoutes (if route.allowed then insert (route.fromAgentId, route.toAgentId) allowed
      else allowed) routes

def insertNamed (allowed : Finset (String × String)) : List String → Finset (String × String)
  | [] => allowed
  | route :: routes =>
    insertNamed (match splitOnce "->" route with
      | some pair => insert pair allowed
      | none => allowed) routes

def fromRouting (routing : InterAgentRoutingConfig) :
    Except CallableWorkerRegistryError CallableWorkerRegistry := do
  rejectIf (routing.callableWorkers = []) .noCallableWorkers
  let toolsById ← insertTools [] routing.callableWorkers
  pure
    { coordinatorAgentId := routing.coordinatorAgentId
      finalizerAgentId := routing.finalizerAgentId
      toolsById
      allowedRoutes := insertNamed (insertRoutes ∅ routing.routes) routing.allowedRoutes }

def isRouteAllowed (registry : CallableWorkerRegistry) (source target : String) : Bool :=
  if (source, target) ∈ registry.allowedRoutes then true
  else registry.allowedRoutes = ∅ && registry.coordinatorAgentId = some source &&
    registry.toolsById.any fun (_, tool) => tool.targetAgentId = target

def validateHandoff (registry : CallableWorkerRegistry) (envelope : SubtaskEnvelope) :
    Except CallableWorkerRegistryError CallableWorkerTool :=
  match registry.toolsById.lookup envelope.toolId with
  | none => .error (.unknownTool envelope.toolId)
  | some tool => do
    rejectIf (tool.targetAgentId ≠ envelope.targetAgent)
      (.targetMismatch envelope.toolId tool.targetAgentId envelope.targetAgent)
    rejectIf (registry.isRouteAllowed envelope.sourceAgentId envelope.targetAgent = false)
      (.routeNotAllowed envelope.sourceAgentId envelope.targetAgent)
    rejectIf (tool.outputSchemaRef ≠ envelope.expectedOutputSchema)
      (.outputSchemaMismatch envelope.toolId tool.outputSchemaRef envelope.expectedOutputSchema)
    pure tool

section

variable {allowed : Finset (String × String)} {pair : String × String}

lemma mem_insertRoutes {routes : List AgentRoute} :
    pair ∈ insertRoutes allowed routes ↔ pair ∈ allowed ∨ ⟨pair.1, pair.2, true⟩ ∈ routes := by
  induction routes generalizing allowed with
  | nil => simp [insertRoutes]
  | cons route routes ih =>
    obtain ⟨source, target, ok⟩ := route
    rw [insertRoutes, ih, List.mem_cons]
    cases ok with
    | true => simp [Prod.ext_iff, or_assoc, or_left_comm]
    | false => simp

lemma mem_insertNamed {routes : List String} :
    pair ∈ insertNamed allowed routes ↔
      pair ∈ allowed ∨ ∃ route ∈ routes, splitOnce "->" route = some pair := by
  induction routes generalizing allowed with
  | nil => simp [insertNamed]
  | cons route routes ih =>
    rw [insertNamed, ih, List.exists_mem_cons_iff]
    cases splitOnce "->" route with
    | none => simp
    | some named => simp [eq_comm, or_assoc, or_left_comm]

end

section

variable {toolsById tools : List (String × CallableWorkerTool)} {workers : List CallableWorkerTool}
  {toolId : String} {tool : CallableWorkerTool}

lemma mem_insertTools (h : insertTools toolsById workers = .ok tools) :
    (toolId, tool) ∈ tools ↔ (toolId, tool) ∈ toolsById ∨ (tool ∈ workers ∧ tool.toolId = toolId) := by
  induction workers generalizing toolsById with
  | nil =>
    cases h
    simp
  | cons worker workers ih =>
    simp only [insertTools, except_bind_eq_ok] at h
    obtain ⟨_, _, h⟩ := h
    rw [ih h, List.mem_cons, List.mem_cons, Prod.mk.injEq]
    constructor
    · rintro ((⟨rfl, rfl⟩ | hold) | ⟨hm, hid⟩)
      · exact .inr ⟨.inl rfl, rfl⟩
      · exact .inl hold
      · exact .inr ⟨.inr hm, hid⟩
    · rintro (hold | ⟨rfl | hm, hid⟩)
      · exact .inl (.inr hold)
      · exact .inl (.inl ⟨hid.symm, rfl⟩)
      · exact .inr ⟨hm, hid⟩

lemma lookup_insertTools (h : insertTools toolsById workers = .ok tools) :
    tools.lookup toolId = some tool ↔
      toolsById.lookup toolId = some tool ∨ (tool ∈ workers ∧ tool.toolId = toolId) := by
  induction workers generalizing toolsById with
  | nil =>
    cases h
    simp
  | cons worker workers ih =>
    simp only [insertTools, except_bind_eq_ok, rejectIf_eq_ok, Bool.not_eq_true,
      Option.isSome_eq_false_iff, Option.isNone_iff_eq_none] at h
    obtain ⟨_, hnew, h⟩ := h
    rw [ih h, List.lookup_cons, List.mem_cons]
    by_cases hid : toolId = worker.toolId
    · subst hid
      simp only [beq_self_eq_true, Option.some.injEq, hnew, reduceCtorEq, false_or]
      constructor
      · rintro (rfl | ⟨hm, hid⟩)
        · exact ⟨.inl rfl, rfl⟩
        · exact ⟨.inr hm, hid⟩
      · rintro ⟨rfl | hm, hid⟩
        · exact .inl rfl
        · exact .inr ⟨hm, hid⟩
    · rw [beq_eq_false_iff_ne.mpr hid]
      have hne : ¬(tool = worker ∧ tool.toolId = toolId) := by
        rintro ⟨rfl, rfl⟩
        exact hid rfl
      simp only [or_and_right, hne, false_or]

end

variable {routing : InterAgentRoutingConfig} {registry : CallableWorkerRegistry}
  {source target : String} {envelope : SubtaskEnvelope} {tool : CallableWorkerTool}

def Named (routing : InterAgentRoutingConfig) (source target : String) : Prop :=
  ⟨source, target, true⟩ ∈ routing.routes ∨
    ∃ route ∈ routing.allowedRoutes, splitOnce "->" route = some (source, target)

def NamesRoute (routing : InterAgentRoutingConfig) : Prop :=
  (∃ route ∈ routing.routes, route.allowed = true) ∨
    ∃ route ∈ routing.allowedRoutes, (splitOnce "->" route).isSome = true

lemma fromRouting_ok (h : fromRouting routing = .ok registry) :
    registry.coordinatorAgentId = routing.coordinatorAgentId ∧
      (∀ source target, (source, target) ∈ registry.allowedRoutes ↔ Named routing source target) ∧
      insertTools [] routing.callableWorkers = .ok registry.toolsById := by
  simp only [fromRouting, except_bind_eq_ok, except_pure_eq_ok] at h
  obtain ⟨_, _, tools, htools, rfl⟩ := h
  refine ⟨rfl, fun source target => ?_, htools⟩
  simp [Named, mem_insertNamed, mem_insertRoutes]

lemma allowedRoutes_eq_empty (h : fromRouting routing = .ok registry) :
    registry.allowedRoutes = ∅ ↔ ¬NamesRoute routing := by
  obtain ⟨_, hallowed, _⟩ := fromRouting_ok h
  rw [Finset.eq_empty_iff_forall_notMem, ← not_exists, not_iff_not]
  constructor
  · rintro ⟨⟨source, target⟩, hm⟩
    obtain hm | ⟨route, hm, hs⟩ := (hallowed source target).mp hm
    · exact .inl ⟨_, hm, rfl⟩
    · exact .inr ⟨route, hm, by rw [hs]; rfl⟩
  · rintro (⟨⟨source, target, _⟩, hm, rfl⟩ | ⟨route, hm, hs⟩)
    · exact ⟨(source, target), (hallowed source target).mpr (.inl hm)⟩
    · obtain ⟨⟨source, target⟩, hs⟩ := Option.isSome_iff_exists.mp hs
      exact ⟨(source, target), (hallowed source target).mpr (.inr ⟨route, hm, hs⟩)⟩

lemma isRouteAllowed_iff (h : fromRouting routing = .ok registry) :
    registry.isRouteAllowed source target = true ↔
      Named routing source target ∨ (¬NamesRoute routing ∧
        routing.coordinatorAgentId = some source ∧
        ∃ tool ∈ routing.callableWorkers, tool.targetAgentId = target) := by
  obtain ⟨hcoordinator, hallowed, htools⟩ := fromRouting_ok h
  have hworkers : (registry.toolsById.any fun (_, tool) => tool.targetAgentId = target) = true ↔
      ∃ tool ∈ routing.callableWorkers, tool.targetAgentId = target := by
    simp [List.any_eq_true, mem_insertTools htools]
  unfold isRouteAllowed
  rw [← allowedRoutes_eq_empty h, ← hworkers, ← hcoordinator, ← hallowed]
  split_ifs with hm <;> simp [hm, and_assoc]

lemma validateHandoff_ok_iff (h : fromRouting routing = .ok registry) :
    registry.validateHandoff envelope = .ok tool ↔
      tool ∈ routing.callableWorkers ∧ tool.toolId = envelope.toolId ∧
      tool.targetAgentId = envelope.targetAgent ∧
      registry.isRouteAllowed envelope.sourceAgentId envelope.targetAgent = true ∧
      tool.outputSchemaRef = envelope.expectedOutputSchema := by
  obtain ⟨_, _, htools⟩ := fromRouting_ok h
  have hlookup : ∀ tool, registry.toolsById.lookup envelope.toolId = some tool ↔
      tool ∈ routing.callableWorkers ∧ tool.toolId = envelope.toolId := by
    intro tool
    rw [lookup_insertTools htools, List.lookup_nil]
    simp
  unfold validateHandoff
  cases hf : registry.toolsById.lookup envelope.toolId with
  | none =>
    have hno := (hlookup tool).not.mp (by simp [hf])
    simp only [reduceCtorEq, false_iff]
    exact fun hall => hno ⟨hall.1, hall.2.1⟩
  | some found =>
    simp only [except_bind_eq_ok, rejectIf_eq_ok, not_not, Bool.not_eq_false, except_pure_eq_ok]
    constructor
    · rintro ⟨_, htarget, _, hroute, _, hschema, rfl⟩
      obtain ⟨hm, hid⟩ := (hlookup found).mp hf
      exact ⟨hm, hid, htarget, hroute, hschema⟩
    · rintro ⟨hm, hid, htarget, hroute, hschema⟩
      have hfound := (hlookup tool).mpr ⟨hm, hid⟩
      rw [hf, Option.some.injEq] at hfound
      subst hfound
      exact ⟨(), htarget, (), hroute, (), hschema, rfl⟩

structure Denied (routing : InterAgentRoutingConfig) (source target : String) : Prop where
  listed : ⟨source, target, false⟩ ∈ routing.routes
  unnamed : ¬Named routing source target

def Rejects (registry : CallableWorkerRegistry) (source target : String) : Prop :=
  ∀ envelope : SubtaskEnvelope, envelope.sourceAgentId = source → envelope.targetAgent = target →
    ∃ e, registry.validateHandoff envelope = .error e

def handoffFor (source : String) (tool : CallableWorkerTool) : SubtaskEnvelope where
  subtaskId := "subtask"
  parentRunId := "run"
  correlationId := "correlation"
  sourceAgentId := source
  targetAgent := tool.targetAgentId
  toolId := tool.toolId
  goal := "goal"
  contextPackageRef := "context://package"
  contextScope := .parentTaskOnly
  expectedOutputSchema := tool.outputSchemaRef
  permissionsProfile := "restricted"
  deadline := "2026-04-16T00:00:00Z"
  returnPolicy := .sync

lemma rejects_iff (h : fromRouting routing = .ok registry) :
    registry.Rejects source target ↔
      ¬(registry.isRouteAllowed source target = true ∧
        ∃ tool ∈ routing.callableWorkers, tool.targetAgentId = target) := by
  constructor
  · rintro hreject ⟨hroute, tool, hm, rfl⟩
    obtain ⟨e, he⟩ := hreject (handoffFor source tool) rfl rfl
    have hok := (@validateHandoff_ok_iff routing registry (handoffFor source tool) tool h).mpr
      ⟨hm, rfl, rfl, hroute, rfl⟩
    rw [hok] at he
    cases he
  · rintro hclosed envelope rfl rfl
    cases hv : registry.validateHandoff envelope with
    | error e => exact ⟨e, rfl⟩
    | ok tool =>
      obtain ⟨hm, _, htarget, hroute, _⟩ := (validateHandoff_ok_iff h).mp hv
      exact (hclosed ⟨hroute, tool, hm, htarget⟩).elim

theorem deny_wins_iff (routing : InterAgentRoutingConfig) (registry : CallableWorkerRegistry)
    (source target : String) (h : fromRouting routing = .ok registry)
    (hd : Denied routing source target) :
    registry.Rejects source target ↔
      NamesRoute routing ∨ routing.coordinatorAgentId ≠ some source ∨
        ∀ tool ∈ routing.callableWorkers, tool.targetAgentId ≠ target := by
  rw [rejects_iff h, isRouteAllowed_iff h]
  have hunnamed := hd.unnamed
  constructor
  · intro hclosed
    by_contra hopen
    simp only [not_or, not_not, not_forall] at hopen
    obtain ⟨hnone, hcoordinator, tool, hm, htarget⟩ := hopen
    exact hclosed ⟨.inr ⟨hnone, hcoordinator, tool, hm, htarget⟩, tool, hm, htarget⟩
  · rintro hguard ⟨hnamed | ⟨hnone, hcoordinator, tool, hm, htarget⟩, _⟩
    · exact hunnamed hnamed
    · obtain hnames | hother | htargets := hguard
      · exact hnone hnames
      · exact hother hcoordinator
      · exact htargets tool hm htarget

def deniedRouting (coordinator : String) : InterAgentRoutingConfig where
  allowedRoutes := []
  coordinatorAgentId := some coordinator
  finalizerAgentId := none
  routes := [⟨"planner", "worker", false⟩]
  callableWorkers := [⟨"tool", "worker", "work", "in", "out"⟩]

theorem deny_wins_other_coordinator :
    ∃ registry, fromRouting (deniedRouting "coordinator") = .ok registry ∧
      (registry.Rejects "planner" "worker" ↔
        NamesRoute (deniedRouting "coordinator") ∨
          (deniedRouting "coordinator").coordinatorAgentId ≠ some "planner" ∨
          ∀ tool ∈ (deniedRouting "coordinator").callableWorkers, tool.targetAgentId ≠ "worker") :=
  ⟨_, rfl, deny_wins_iff _ _ _ _ rfl ⟨by decide, by simp [Named, deniedRouting]⟩⟩

theorem denied_route_open :
    Denied (deniedRouting "planner") "planner" "worker" ∧
      ∃ registry, fromRouting (deniedRouting "planner") = .ok registry ∧
        ¬registry.Rejects "planner" "worker" := by
  refine ⟨⟨by decide, by simp [Named, deniedRouting]⟩, _, rfl, fun hreject => ?_⟩
  obtain ⟨e, he⟩ := hreject (handoffFor "planner" ⟨"tool", "worker", "work", "in", "out"⟩) rfl rfl
  cases he

end CallableWorkerRegistry

end GreenticDw

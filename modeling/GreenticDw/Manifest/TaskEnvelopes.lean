import GreenticDw.DeepLoop.Replay
import GreenticDw.DeepLoop.Script
import GreenticDw.DeepLoop.Told
import GreenticDw.Manifest.Scopes
import GreenticDw.Workspace.Operations

namespace GreenticDw

open Text

section

variable {δ χ : Type} (validateCapabilities : δ → Except χ Unit)
  (parseJson : String → Except String Unit)

def DigitalWorkerManifest.toTaskEnvelope (manifest : DigitalWorkerManifest δ)
    (taskId workerId : String) (requestScope : RequestScope)
    (requestedLocale humanLocale : Option String) :
    Except (ManifestValidationError χ) TaskEnvelope := do
  let scope ← manifest.resolveScope validateCapabilities parseJson requestScope
  return {
    taskId := taskId
    workerId := workerId
    state := .created
    scope := ⟨scope.tenant, scope.team⟩
    locale := {
      workerDefaultLocale := manifest.locale.workerDefaultLocale
      requestedLocale := requestedLocale
      humanLocale := humanLocale
      policy := manifest.locale.policy
      propagation := manifest.locale.propagation
      output := manifest.locale.output } }

end

section

variable {σ : Type}

def Call.Confined (task : TaskEnvelope) : Call σ → Prop
  | .runtime call => call.About task
  | .createArtifact _ request _ =>
    request.artifact.scope.tenant = task.scope.tenant ∧
      request.artifact.scope.team = task.scope.team ∧
        request.artifact.scope.session = task.taskId ∧
          request.artifact.scope.agent = some task.workerId
  | .startSubtask _ request _ =>
    request.envelope.parentRunId = task.taskId ∧ request.envelope.sourceAgentId = task.workerId
  | .reviewFinal request _ => request.runId = task.taskId
  | _ => True

lemma DeepLoopCoordinator.run_confined (c : DeepLoopCoordinator σ) (plan : PlanDocument)
    (w : World σ) : ∀ x ∈ ((c.run plan).run w).trace, x.Confined w.envelope := by
  intro x hx
  obtain ⟨pre, post, ht⟩ := List.append_of_mem hx
  have hfits := (c.run_replayed plan w).calls.fits ht
  cases x with
  | runtime call => exact (c.run_told plan w).about call (List.mem_filterMap.mpr ⟨_, hx, rfl⟩)
  | createArtifact moment request answer =>
    obtain ⟨_, _, ⟨action, body, _, hrequest⟩, _⟩ := hfits
    rw [hrequest]
    exact ⟨rfl, rfl, rfl, rfl⟩
  | startSubtask moment request answer =>
    obtain ⟨_, _, ⟨decision, _, henvelope⟩, _⟩ := hfits
    rw [Call.Confined, henvelope]
    exact ⟨rfl, rfl⟩
  | reviewFinal request answer =>
    obtain ⟨⟨_, hrequest⟩, _⟩ := hfits
    rw [Call.Confined, hrequest]
    rfl
  | _ => trivial

def Call.artifactOperation : Call σ → Option WorkspaceOperation
  | .createArtifact _ request _ => some (.create request)
  | _ => none

def artifactOperations (t : List (Call σ)) : List WorkspaceOperation :=
  t.filterMap Call.artifactOperation

lemma created_of_confined {task : TaskEnvelope} {t : List (Call σ)}
    (ht : ∀ x ∈ t, x.Confined task) : ∀ operation ∈ artifactOperations t,
      ∃ req, operation = .create req ∧ req.artifact.scope.tenant = task.scope.tenant := by
  intro operation hoperation
  obtain ⟨x, hx, hop⟩ := List.mem_filterMap.mp hoperation
  have hconfined := ht x hx
  cases x with
  | createArtifact moment request answer =>
    cases hop
    exact ⟨request, rfl, hconfined.1⟩
  | _ => cases hop

end

namespace InMemoryWorkspace

variable {σ : Type} {workspace : InMemoryWorkspace σ} {scope : WorkspaceScope}

lemma listed_insert {store : ArtifactStore} {artifactId : String} {stored : StoredArtifact}
    (h : stored.artifact.scope ≠ scope) : (store.insert artifactId stored).listed scope =
      store.listed scope := by
  simp [ArtifactStore.listed, ArtifactStore.insert, h]

lemma run_creates_elsewhere (hclock : workspace.SteadyClock) {operations : List WorkspaceOperation}
    (h : ∀ operation ∈ operations, ∃ req, operation = .create req ∧ req.artifact.scope ≠ scope)
    (s : σ) : (workspace.store.read (workspace.run operations s).2).listed scope =
      (workspace.store.read s).listed scope := by
  induction operations generalizing s with
  | nil => rfl
  | cons operation operations ih =>
    obtain ⟨⟨req, rfl, hscope⟩, hrest⟩ := List.forall_mem_cons.mp h
    have hstep := stepped hclock (.create req) s
    rw [run_cons, ih hrest]
    generalize (workspace.apply (.create req) s).1 = answer at hstep
    generalize workspace.store.read (workspace.apply (.create req) s).2 = store at hstep
    cases hstep with
    | refused => rfl
    | created _ _ => exact listed_insert hscope

end InMemoryWorkspace

section

variable {δ χ : Type} {validateCapabilities : δ → Except χ Unit}
  {parseJson : String → Except String Unit} {manifest : DigitalWorkerManifest δ}
  {taskId workerId : String} {requestScope : RequestScope}
  {requestedLocale humanLocale : Option String} {task : TaskEnvelope}

namespace DigitalWorkerManifest

lemma tenant_of_validate (h : manifest.validate validateCapabilities parseJson = .ok ()) :
    isBlank manifest.tenancy.tenant = false := by
  simp only [validate, except_bind_eq_ok, rejectIf_eq_ok] at h
  obtain ⟨-, -, -, -, -, -, -, -, -, -, -, htenant, -⟩ := h
  exact Bool.not_eq_true _ ▸ htenant

lemma toTaskEnvelope_eq_ok :
    manifest.toTaskEnvelope validateCapabilities parseJson taskId workerId requestScope
        requestedLocale humanLocale = .ok task ↔
      manifest.validate validateCapabilities parseJson = .ok () ∧
        requestScope.tenant = manifest.tenancy.tenant ∧
          task = ⟨taskId, workerId, .created,
            ⟨manifest.tenancy.tenant, manifest.resolvedTeam requestScope⟩,
            ⟨manifest.locale.workerDefaultLocale, requestedLocale, humanLocale,
              manifest.locale.policy, manifest.locale.propagation, manifest.locale.output⟩⟩ := by
  simp only [toTaskEnvelope, except_bind_eq_ok, resolveScope_eq_ok, except_pure_eq_ok]
  constructor
  · rintro ⟨_, ⟨hvalid, htenant, rfl⟩, rfl⟩
    exact ⟨hvalid, htenant, rfl⟩
  · rintro ⟨hvalid, htenant, rfl⟩
    exact ⟨_, ⟨hvalid, htenant, rfl⟩, rfl⟩

end DigitalWorkerManifest

/-- A run keeps to the tenant of a manifest, which the request names too: it leaves the task in its
scope, every call is made for the task, and whatever the run stores, the listings of other tenants
are as they were. -/
structure KeepsToTenant {σ : Type} (manifest : DigitalWorkerManifest δ) (requestScope : RequestScope)
    (task : TaskEnvelope) (o : Outcome (World σ) (Call σ) DeepLoopError DeepLoopRun) : Prop where
  named : isBlank manifest.tenancy.tenant = false ∧ requestScope.tenant = manifest.tenancy.tenant
  scope : task.scope = ⟨manifest.tenancy.tenant, manifest.resolvedTeam requestScope⟩
  kept : o.world.envelope = { task with state := o.world.envelope.state }
  calls : ∀ x ∈ o.trace, x.Confined task
  unseen : ∀ {τ : Type} (workspace : InMemoryWorkspace τ), workspace.SteadyClock →
    ∀ (scope : WorkspaceScope) (s : τ), scope.tenant ≠ manifest.tenancy.tenant →
      (workspace.store.read (workspace.run (artifactOperations o.trace) s).2).listed scope =
        (workspace.store.read s).listed scope

namespace DigitalWorkerManifest

theorem task_keepsToTenant {σ : Type} (c : DeepLoopCoordinator σ) (plan : PlanDocument) (s : σ)
    (h : manifest.toTaskEnvelope validateCapabilities parseJson taskId workerId requestScope
      requestedLocale humanLocale = .ok task) :
    KeepsToTenant manifest requestScope task ((c.run plan).run ⟨s, task⟩) := by
  obtain ⟨hvalid, htenant, htask⟩ := toTaskEnvelope_eq_ok.mp h
  obtain ⟨events, htold⟩ := (c.run_told plan ⟨s, task⟩).history
  have hscope : task.scope = ⟨manifest.tenancy.tenant, manifest.resolvedTeam requestScope⟩ := by
    rw [htask]
  have hconfined := c.run_confined plan ⟨s, task⟩
  refine ⟨⟨tenant_of_validate hvalid, htenant⟩, hscope, htold.frame, hconfined, ?_⟩
  intro τ workspace hclock scope s' hother
  refine InMemoryWorkspace.run_creates_elsewhere hclock (fun operation hoperation => ?_) s'
  obtain ⟨req, rfl, hreq⟩ := created_of_confined hconfined operation hoperation
  refine ⟨req, rfl, fun heq => hother ?_⟩
  rw [← heq, hreq, hscope]

theorem task_keepsToTenant_support :
    KeepsToTenant supportManifest ⟨"tenant-a", some "team-b"⟩
      ⟨"task-1", "dw.support.bot", .created, ⟨"tenant-a", some "team-b"⟩,
        ⟨"en-US", some "nl-NL", none, .preferRequested, .propagateToDelegates, .matchRequested⟩⟩
      (((⟨.operation .step, .accept, .accept, 2⟩ : Script).coordinator.run Script.onePlan).run
        ⟨[[⟨"a", "go"⟩]], ⟨"task-1", "dw.support.bot", .created, ⟨"tenant-a", some "team-b"⟩,
          ⟨"en-US", some "nl-NL", none, .preferRequested, .propagateToDelegates,
            .matchRequested⟩⟩⟩) := by
  refine @task_keepsToTenant _ Empty (fun _ => .ok ()) (fun _ => .ok ()) supportManifest "task-1"
    "dw.support.bot" _ (some "nl-NL") none _ _ _ _ _ ?_
  exact toTaskEnvelope_eq_ok.mpr ⟨by decide +kernel, rfl, rfl⟩

end DigitalWorkerManifest

end

end GreenticDw

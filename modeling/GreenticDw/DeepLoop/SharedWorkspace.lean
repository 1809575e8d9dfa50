import GreenticDw.DeepLoop.Outputs
import GreenticDw.Providers.WorkspaceMem
import GreenticDw.Runtime.Frames

namespace GreenticDw

section

variable {σ S : Type}

structure DeepLoopCoordinator.LeavesAlone (c : DeepLoopCoordinator σ) (part : σ → S) : Prop where
  runtime : c.runtime.LeavesAlone part
  nextActions : ∀ req s, part (c.planner.nextActions req s).2 = part s
  evaluateCompletion : ∀ req s, part (c.planner.evaluateCompletion req s).2 = part s
  recordStepResult : ∀ req s, part (c.planner.recordStepResult req s).2 = part s
  revisePlan : ∀ req s, part (c.planner.revisePlan req s).2 = part s
  buildContext : ∀ req s, part (c.context.buildContext req s).2 = part s
  reviewStep : ∀ req s, part (c.reflector.reviewStep req s).2 = part s
  reviewFinal : ∀ req s, part (c.reflector.reviewFinal req s).2 = part s
  chooseDelegate : ∀ req s, part (c.delegator.chooseDelegate req s).2 = part s
  startSubtask : ∀ req s, part (c.delegator.startSubtask req s).2 = part s
  executeStep : ∀ executor, c.executor = some executor →
    ∀ req s, part (executor.executeStep req s).2 = part s

def holding (held : List String) : Call σ → List String
  | .createArtifact _ _ (.ok artifact) => artifact.artifactId :: held
  | _ => held

def AnswersHeld (held : List String) : Call σ → Prop
  | .createArtifact _ request answer =>
    answer = .error (InMemoryWorkspace.alreadyExists request.artifact.artifactId) ↔
      validateCreateArtifactRequest request = .ok () ∧ request.artifact.artifactId ∈ held
  | _ => True

def InMemoryWorkspace.ledger (workspace : InMemoryWorkspace σ) :
    Ledger (World σ) (Call σ) (List String) :=
  ⟨fun w => workspace.ids w.env, holding, AnswersHeld⟩

end

namespace DeepLoopCoordinator

section

variable {σ : Type} {workspace : InMemoryWorkspace σ} {c : DeepLoopCoordinator σ}

lemma LeavesAlone.operated (h : c.LeavesAlone workspace.ids) (operation : RuntimeOperation) :
    workspace.ledger.Kept (operated operation (c.runtime.applyOperation operation)) := by
  have hrun : (workspace.ledger.comap .runtime).Kept (c.runtime.applyOperation operation) :=
    h.runtime.applyOperation operation
  have hidle : ∀ r (w : World σ), workspace.ledger.Idle (.operation operation r w.envelope.state) :=
    fun _ _ _ => ⟨trivial, rfl⟩
  exact (hrun.relabel.logged hidle).mapError _

lemma LeavesAlone.executeAction (h : c.LeavesAlone workspace.ids) :
    workspace.ledger.Kept c.executeAction := by
  have hrun : (workspace.ledger.comap .runtime).Kept c.runtime.tick := h.runtime.tick
  have hidle : ∀ r (w : World σ), workspace.ledger.Idle (.tick r w.envelope.state) :=
    fun _ _ _ => ⟨trivial, rfl⟩
  exact (hrun.relabel.logged hidle).mapError _

lemma LeavesAlone.renderedContext (h : c.LeavesAlone workspace.ids) (query ref : String) :
    workspace.ledger.Kept (c.renderedContext query ref) :=
  (World.kept_ask (fun _ => trivial) fun _ => h.buildContext ..).bind fun _ => Ledger.kept_pure _

lemma LeavesAlone.choosing (h : c.LeavesAlone workspace.ids) (s : LoopState) (step : PlanStep)
    (goal : String) : workspace.ledger.Kept (c.chooseDelegate s step goal) :=
  Ledger.kept_get.bind fun _ => World.kept_ask (fun _ => trivial) fun _ => h.chooseDelegate ..

lemma LeavesAlone.recordCompleted (h : c.LeavesAlone workspace.ids) (plan : PlanDocument)
    (step : PlanStep) : workspace.ledger.Kept (c.recordCompleted plan step) :=
  World.kept_ask (fun _ => trivial) fun _ => h.recordStepResult ..

lemma LeavesAlone.emitSubtask (h : c.LeavesAlone workspace.ids) (s : LoopState) (step : PlanStep)
    (subtask : SubtaskEnvelope) : workspace.ledger.Kept (c.emitSubtask s step subtask) := by
  apply Ledger.kept_get.bind
  intro w
  apply (World.kept_ask (fun _ => trivial) fun _ => h.startSubtask ..).bind
  intro _
  exact (h.recordCompleted s.plan step).bind fun _ => Ledger.kept_pure _

lemma LeavesAlone.delegateStep (h : c.LeavesAlone workspace.ids) (s : LoopState)
    (step : PlanStep) : workspace.ledger.Kept (c.delegateStep s step) := by
  apply (h.choosing s step step.title).bind
  intro decision
  apply Ledger.kept_get.bind
  intro w
  exact (h.operated _).bind fun _ => h.emitSubtask _ _ _

lemma LeavesAlone.produceBody (h : c.LeavesAlone workspace.ids) (s : LoopState) (step : PlanStep)
    (stepContext : Option String) : workspace.ledger.Kept (c.produceBody s step stepContext) := by
  unfold DeepLoopCoordinator.produceBody
  cases hx : c.executor with
  | none => exact Ledger.kept_pure _
  | some executor =>
    apply Ledger.kept_get.bind
    intro w
    exact (World.kept_ask (fun _ => trivial) fun _ => h.executeStep executor hx ..).bind
      fun _ => Ledger.kept_pure _

lemma kept_asked (hclock : ∀ s, workspace.ids (workspace.clock s).2 = workspace.ids s)
    (moment : Moment σ) (request : CreateArtifactRequest) :
    workspace.ledger.Kept (World.ask (workspace.createArtifact request)
      (.createArtifact moment request) DeepLoopError.workspace) := by
  refine World.kept_ask (fun w => ?_) fun w => ?_
  · exact InMemoryWorkspace.createArtifact_alreadyExists_iff
  · cases ha : (workspace.createArtifact request w.env).1 with
    | error e =>
      have henv := InMemoryWorkspace.createArtifact_error ha
      simp [InMemoryWorkspace.ledger, henv, holding]
    | ok artifact =>
      obtain ⟨hartifact, hids⟩ := InMemoryWorkspace.createArtifact_ok ha hclock
      simp [InMemoryWorkspace.ledger, hids, holding, hartifact]

lemma kept_createArtifact (hc : c.workspace = InMemoryWorkspaceProvider workspace)
    (hclock : ∀ s, workspace.ids (workspace.clock s).2 = workspace.ids s) (s : LoopState)
    (action : PlannedAction) (step : PlanStep) (body : String) :
    workspace.ledger.Kept (c.createArtifact s action step body) := by
  have hprovider : c.workspace.createArtifact = workspace.createArtifact := by
    rw [hc, InMemoryWorkspaceProvider_createArtifact]
  unfold DeepLoopCoordinator.createArtifact
  rw [hprovider]
  apply Ledger.kept_get.bind
  intro w
  exact kept_asked hclock ⟨s.plan, step, w⟩ (stepArtifact w.envelope s action step body)

lemma LeavesAlone.reviewing (h : c.LeavesAlone workspace.ids) (step : PlanStep)
    (artifactId : String) (stepContext : Option String) :
    workspace.ledger.Kept (c.reviewStep step artifactId stepContext) := by
  apply (World.kept_ask (fun _ => trivial) fun _ => h.reviewStep ..).bind
  intro review
  exact (Ledger.kept_ofExcept _).bind fun _ => Ledger.kept_pure _

lemma LeavesAlone.onVerdict (h : c.LeavesAlone workspace.ids) (s : LoopState) (step : PlanStep)
    (stepContext : Option String) (verdict : ReviewVerdict) :
    workspace.ledger.Kept (c.onVerdict s step stepContext verdict) := by
  cases verdict with
  | accept => exact (h.recordCompleted s.plan step).bind fun _ => Ledger.kept_pure _
  | retry => exact (h.recordCompleted s.plan step).bind fun _ => Ledger.kept_pure _
  | revise =>
    exact (World.kept_ask (fun _ => trivial) fun _ => h.revisePlan ..).bind
      fun _ => Ledger.kept_pure _
  | delegate =>
    exact (h.choosing s step _).bind fun _ => Ledger.kept_get.bind fun _ => h.emitSubtask _ _ _
  | fail => exact (h.operated _).bind fun _ => Ledger.kept_pure _

/-- The loop works on the workspace, and nothing else writes to it. -/
structure Shares (c : DeepLoopCoordinator σ) (workspace : InMemoryWorkspace σ) : Prop where
  provider : c.workspace = InMemoryWorkspaceProvider workspace
  clock : ∀ s, workspace.ids (workspace.clock s).2 = workspace.ids s
  alone : c.LeavesAlone workspace.ids

lemma Shares.executeStep (h : c.Shares workspace) (s : LoopState) (action : PlannedAction)
    (step : PlanStep) (stepContext : Option String) :
    workspace.ledger.Kept (c.executeStep s action step stepContext) := by
  apply h.alone.executeAction.bind
  intro _
  apply (h.alone.produceBody s step stepContext).bind
  intro p
  apply (kept_createArtifact h.provider h.clock p.2 action step p.1).bind
  intro artifact
  apply (h.alone.reviewing step artifact.artifactId stepContext).bind
  intro verdict
  exact h.alone.onVerdict _ step stepContext verdict

lemma Shares.runAction (h : c.Shares workspace) (s : LoopState) (action : PlannedAction) :
    workspace.ledger.Kept (c.runAction s action) := by
  unfold DeepLoopCoordinator.runAction
  cases s.plan.steps.find? fun step => step.stepId = action.stepId with
  | none => exact Ledger.kept_throw _
  | some step =>
    apply (h.alone.renderedContext step.title step.stepId).bind
    intro stepContext
    cases step.kind with
    | delegate => exact h.alone.delegateStep s step
    | _ => exact h.executeStep s action step stepContext

lemma LeavesAlone.reviewingFinal (h : c.LeavesAlone workspace.ids) (s : LoopState)
    (planContext : Option String) : workspace.ledger.Kept (c.reviewFinal s planContext) := by
  apply Ledger.kept_get.bind
  intro w
  apply (World.kept_ask (fun _ => trivial) fun _ => h.reviewFinal ..).bind
  intro outcome
  exact (Ledger.kept_ofExcept _).bind fun _ => Ledger.kept_pure _

lemma LeavesAlone.settle (h : c.LeavesAlone workspace.ids) (s : LoopState)
    (planContext : Option String) : workspace.ledger.Kept (c.settle s planContext) := by
  unfold DeepLoopCoordinator.settle
  by_cases hs : s.emittedSubtasks = []
  swap
  · rw [if_pos hs]
    exact Ledger.kept_pure _
  rw [if_neg (not_not.mpr hs)]
  apply (World.kept_ask (fun _ => trivial) fun _ => h.evaluateCompletion ..).bind
  intro state
  cases state with
  | incomplete => exact Ledger.kept_pure _
  | unsatisfied => exact (h.operated _).bind fun _ => Ledger.kept_pure _
  | satisfied =>
    apply (h.reviewingFinal s planContext).bind
    intro verdict
    cases verdict with
    | fail => exact (h.operated _).bind fun _ => Ledger.kept_pure _
    | _ => exact (h.operated .complete).bind fun _ => Ledger.kept_pure _

lemma Shares.runIteration (h : c.Shares workspace) (s : LoopState) (i : ℕ) :
    workspace.ledger.Kept (c.runIteration s i) := by
  apply (h.alone.renderedContext s.plan.goal s.plan.planId).bind
  intro planContext
  refine (World.kept_ask (fun _ => trivial) fun _ => h.alone.nextActions ..).bind
    fun actions => ?_
  by_cases ha : actions = []
  · rw [if_pos ha]
    exact h.alone.settle s planContext
  · rw [if_neg ha]
    exact Ledger.kept_forEach h.runAction actions s

theorem Shares.run (h : c.Shares workspace) (plan : PlanDocument) :
    workspace.ledger.Kept (c.run plan) := by
  have hstart : workspace.ledger.Kept c.startTask := by
    apply Ledger.kept_get.bind
    intro w
    by_cases hw : w.envelope.state = .created
    · rw [if_pos hw]
      exact (h.alone.operated .start).bind fun _ => Ledger.kept_pure _
    · rw [if_neg hw]
      exact Ledger.kept_pure _
  apply hstart.bind
  intro _
  apply (Ledger.kept_forEach h.runIteration (List.range c.maxIterations) _).bind
  intro flow
  exact Ledger.kept_pure _

end

def places {σ : Type} (t : List (Call σ)) : List (String × UInt32) :=
  (outputs t).mapIdx fun k output => (output.1.stepId, .ofNat k)

def artifactName (planId : String) (place : String × UInt32) : String :=
  Text.numbered ("artifact://" ++ planId ++ "/" ++ place.1) place.2.toNat

lemma artifactName_injective (planId : String) : Function.Injective (artifactName planId) := by
  rintro ⟨stepId, n⟩ ⟨stepId', n'⟩ h
  obtain ⟨hbase, hn⟩ := Text.numbered_inj.mp h
  have hlist := congrArg String.toList hbase
  simp only [String.toList_append, List.append_assoc] at hlist
  have hstep := List.append_cancel_left (List.append_cancel_left (List.append_cancel_left hlist))
  exact Prod.ext (String.toList_inj.mp hstep) (UInt32.toNat_inj.mp hn)

def KeepsPlanId {σ : Type} (c : DeepLoopCoordinator σ) : Prop :=
  ∀ request env plan, (c.planner.recordStepResult request env).1 = .ok plan →
    plan.planId = request.plan.planId

section

variable {σ : Type} {c c' : DeepLoopCoordinator σ} {task : TaskEnvelope} {plan : PlanDocument}
  {s : LoopState} {t : List (Call σ)} {workspace : InMemoryWorkspace σ}

lemma Follows.planId (h : c.Follows task s t) (hplan : c.KeepsPlanId) :
    (s.replay t).plan.planId = s.plan.planId := by
  induction t generalizing s with
  | nil => rfl
  | cons x t ih =>
    have hx : (s.observe x).plan.planId = s.plan.planId := by
      cases x with
      | recordStepResult request answer =>
        cases answer with
        | error e => rfl
        | ok plan =>
          obtain ⟨⟨hrequest, _⟩, env, hanswer⟩ := h.1
          exact (hplan request env plan hanswer).trans (congrArg PlanDocument.planId hrequest)
      | executeStep _ _ answer | startSubtask _ _ answer | createArtifact _ _ answer
      | revisePlan _ answer => cases answer <;> rfl
      | _ => rfl
    rw [LoopState.replay_cons, ih h.2, hx]

lemma Shares.echoes (h : c.Shares workspace) : c.Echoes := by
  intro request env artifact ha
  have hprovider : c.workspace.createArtifact = workspace.createArtifact := by
    rw [h.provider, InMemoryWorkspaceProvider_createArtifact]
  rw [hprovider] at ha
  exact congrArg ArtifactRef.artifactId (InMemoryWorkspace.createArtifact_ok ha h.clock).1

lemma Follows.request_name (h : c.Follows task (c.initialState plan) t) (hplan : c.KeepsPlanId)
    {pre post : List (Call σ)} {moment : Moment σ} {request : CreateArtifactRequest}
    {answer : Except WorkspaceError ArtifactRef}
    (ht : t = pre ++ .createArtifact moment request answer :: post) :
    request.artifact.artifactId =
      artifactName plan.planId (moment.step.stepId, .ofNat (outputs pre).length) := by
  have hpre : c.Follows task (c.initialState plan) pre := by
    rw [ht, follows_append] at h
    exact h.1
  have hmoment : moment.plan.planId = plan.planId := by
    rw [(h.fits ht).1.plan]
    exact hpre.planId hplan
  rw [h.artifactId ht, hmoment]
  rfl

lemma Follows.outputs_name (h : c.Follows task (c.initialState plan) t) (hplan : c.KeepsPlanId)
    (echo : c.Echoes) : (outputs t).map Prod.snd = (places t).map (artifactName plan.planId) := by
  induction t using List.reverseRecOn with
  | nil => rfl
  | append_singleton t x ih =>
    have hfits : x.Fits c task _ := (follows_append.mp h).2.1
    have ih := ih (follows_append.mp h).1
    cases hx : x.output with
    | none =>
      have houtputs : outputs (t ++ [x]) = outputs t := by simp [outputs, hx]
      rw [places, houtputs, ih]
      rfl
    | some output =>
      cases x with
      | createArtifact moment request answer =>
        cases answer with
        | error e => cases hx
        | ok artifact =>
          have hid := echo request _ artifact hfits.2.2.2
          rw [h.request_name hplan (rfl : _ = t ++ _ :: [])] at hid
          have houtputs : outputs (t ++ [.createArtifact moment request (.ok artifact)]) =
              outputs t ++ [(moment.step, artifact.artifactId)] := by
            rw [outputs_append]
            rfl
          rw [places, houtputs, List.mapIdx_concat, List.map_append, List.map_append, ih,
            List.map_singleton, List.map_singleton, hid]
          rfl
      | _ => cases hx

lemma holding_foldl (held : List String) (t : List (Call σ)) {id : String} :
    id ∈ t.foldl holding held ↔ id ∈ (outputs t).map Prod.snd ∨ id ∈ held := by
  induction t generalizing held with
  | nil => simp [outputs]
  | cons x t ih =>
    rw [List.foldl_cons, ih]
    cases x with
    | createArtifact moment request answer =>
      cases answer with
      | error e => rfl
      | ok artifact =>
        have houtputs : outputs (.createArtifact moment request (.ok artifact) :: t) =
            (moment.step, artifact.artifactId) :: outputs t := rfl
        rw [houtputs, List.map_cons, List.mem_cons, holding, List.mem_cons]
        tauto
    | _ => rfl

lemma Shares.held (h : c.Shares workspace) (plan : PlanDocument) (w : World σ) :
    workspace.ids ((c.run plan).run w).world.env =
      ((c.run plan).run w).trace.foldl holding (workspace.ids w.env) :=
  (h.run plan w).2

lemma Shares.answered (h : c.Shares workspace) {w : World σ} {pre post : List (Call σ)}
    {moment : Moment σ} {request : CreateArtifactRequest}
    {answer : Except WorkspaceError ArtifactRef}
    (ht : ((c.run plan).run w).trace = pre ++ .createArtifact moment request answer :: post) :
    AnswersHeld (pre.foldl holding (workspace.ids w.env))
      (Call.createArtifact moment request answer) :=
  Accords.fits (h.run plan w).1 ht

theorem runs_on_one_workspace (h : c.Shares workspace) (h' : c'.Shares workspace)
    (hplan : c.KeepsPlanId) (hplan' : c'.KeepsPlanId) {w w' : World σ} {report : DeepLoopRun}
    (hr : ((c.run plan).run w).result = .ok report)
    (hids : workspace.ids w'.env = workspace.ids ((c.run plan).run w).world.env)
    {pre post : List (Call σ)} {moment : Moment σ} {request : CreateArtifactRequest}
    {answer : Except WorkspaceError ArtifactRef}
    (ht : ((c'.run report.plan).run w').trace =
      pre ++ .createArtifact moment request answer :: post) :
    let first := places ((c.run plan).run w).trace
    let place := (moment.step.stepId, UInt32.ofNat (outputs pre).length)
    (request.artifact.artifactId ∈ (outputs ((c.run plan).run w).trace).map Prod.snd ↔
      place ∈ first) ∧
    (answer = .error (InMemoryWorkspace.alreadyExists request.artifact.artifactId) ↔
      validateCreateArtifactRequest request = .ok () ∧
        (place ∈ first ∨ request.artifact.artifactId ∈ workspace.ids w.env ∨
          place ∈ places pre)) := by
  intro first place
  have hrun := c.run_replayed plan w
  have hrun' := c'.run_replayed report.plan w'
  have hplanId : report.plan.planId = plan.planId := by
    rw [hrun.report report hr]
    exact hrun.calls.planId hplan
  have hname : request.artifact.artifactId = artifactName plan.planId place := by
    rw [← hplanId]
    exact hrun'.calls.request_name hplan' ht
  have hfirst : (outputs ((c.run plan).run w).trace).map Prod.snd =
      first.map (artifactName plan.planId) := hrun.calls.outputs_name hplan h.echoes
  have hown : (outputs pre).map Prod.snd = (places pre).map (artifactName plan.planId) := by
    have hpre : c'.Follows w'.envelope (c'.initialState report.plan) pre := by
      have hcalls := hrun'.calls
      rw [ht, follows_append] at hcalls
      exact hcalls.1
    rw [← hplanId]
    exact hpre.outputs_name hplan' h'.echoes
  have hagain : request.artifact.artifactId ∈ (outputs ((c.run plan).run w).trace).map Prod.snd ↔
      place ∈ first := by
    rw [hfirst, hname]
    exact List.mem_map_of_injective (artifactName_injective plan.planId)
  have hanswered := h'.answered ht
  rw [hids, h.held plan w] at hanswered
  refine ⟨hagain, hanswered.trans (and_congr_right fun _ => ?_)⟩
  have hmem : request.artifact.artifactId ∈ (outputs pre).map Prod.snd ↔ place ∈ places pre := by
    rw [hown, hname]
    exact List.mem_map_of_injective (artifactName_injective plan.planId)
  rw [holding_foldl, holding_foldl, hagain, hmem]
  exact or_comm.trans or_assoc

lemma exists_request {id : String} (h : id ∈ requestedIds t) :
    ∃ pre moment request answer post,
      t = pre ++ .createArtifact moment request answer :: post ∧
        request.artifact.artifactId = id := by
  obtain ⟨x, hx, hid⟩ := List.mem_filterMap.mp h
  obtain ⟨pre, post, ht⟩ := List.append_of_mem hx
  cases x with
  | createArtifact moment request answer =>
    exact ⟨pre, moment, request, answer, post, ht, Option.some.inj hid⟩
  | _ => cases hid

end

end DeepLoopCoordinator

namespace Script

abbrev Desk := Replies × ArtifactStore

def workspace : InMemoryWorkspace Desk where
  store := ⟨Prod.snd, fun store s => (s.1, store), fun _ _ => rfl⟩
  clock s := ("2026-01-01T00:00:00Z", s)
  blake3Hex _ := "94bd19b12606d20b8cf82b5e6ece4e72c3a71f25ce0000c47173e5134af2c559"

def deskPlanner : PlanningProvider Desk where
  createPlan req s := ((planner.createPlan req s.1).1, s)
  revisePlan req s := ((planner.revisePlan req s.1).1, s)
  nextActions req s := ((planner.nextActions req s.1).1, (planner.nextActions req s.1).2, s.2)
  recordStepResult req s := ((planner.recordStepResult req s.1).1, s)
  evaluateCompletion req s := ((planner.evaluateCompletion req s.1).1, s)

def atDesk (script : Script) : DeepLoopCoordinator Desk :=
  { script.coordinatorOf deskPlanner with workspace := InMemoryWorkspaceProvider workspace }

lemma atDesk_shares (script : Script) : script.atDesk.Shares workspace where
  provider := rfl
  clock _ := rfl
  alone :=
    { runtime :=
        { engine := fun _ _ => rfl
          preOperation := by simp [atDesk, coordinatorOf]
          postOperation := by simp [atDesk, coordinatorOf]
          onOperation := by simp [atDesk, coordinatorOf]
          saveState := by simp [atDesk, coordinatorOf] }
      nextActions := fun _ _ => rfl
      evaluateCompletion := fun _ _ => rfl
      recordStepResult := fun _ _ => rfl
      revisePlan := fun _ _ => rfl
      buildContext := fun _ _ => rfl
      reviewStep := fun _ _ => rfl
      reviewFinal := fun _ _ => rfl
      chooseDelegate := fun _ _ => rfl
      startSubtask := fun _ _ => rfl
      executeStep := by simp [atDesk, coordinatorOf] }

lemma atDesk_keepsPlanId (script : Script) : script.atDesk.KeepsPlanId := by
  intro request env plan h
  cases h
  rfl

def reviser : Script := ⟨.operation .step, .revise, .accept, 3⟩

def oneDesk : World Desk := ⟨([[⟨"a", "go"⟩], [⟨"a", "go"⟩]], []), task .created⟩

end Script

namespace DeepLoopCoordinator

open Script

theorem runs_on_one_workspace_scripted :
    ∃ (report : DeepLoopRun) (pre : _) (moment : _) (request : _) (answer : _) (post : _),
      ((reviser.atDesk.run report.plan).run ((reviser.atDesk.run onePlan).run oneDesk).world).trace =
        pre ++ .createArtifact moment request answer :: post ∧
      (request.artifact.artifactId ∈
          (outputs ((reviser.atDesk.run onePlan).run oneDesk).trace).map Prod.snd ↔
        (moment.step.stepId, UInt32.ofNat (outputs pre).length) ∈
          places ((reviser.atDesk.run onePlan).run oneDesk).trace) := by
  obtain ⟨report, hr, hid⟩ : ∃ report : DeepLoopRun,
      ((reviser.atDesk.run onePlan).run oneDesk).result = .ok report ∧
      "artifact://plan/a/0" ∈ requestedIds ((reviser.atDesk.run report.plan).run
        ((reviser.atDesk.run onePlan).run oneDesk).world).trace :=
    ⟨_, rfl, by decide +kernel⟩
  obtain ⟨pre, moment, request, answer, post, ht, _⟩ := exists_request hid
  exact ⟨report, pre, moment, request, answer, post, ht,
    (runs_on_one_workspace (atDesk_shares reviser) (atDesk_shares reviser)
      (atDesk_keepsPlanId reviser) (atDesk_keepsPlanId reviser) hr rfl ht).1⟩

theorem second_run_refused :
    ∃ report, ((reviser.atDesk.run onePlan).run oneDesk).result = .ok report ∧
      report.status = .revising ∧ report.plan.planId = onePlan.planId ∧
      ((reviser.atDesk.run report.plan).run
        ((reviser.atDesk.run onePlan).run oneDesk).world).result =
          .error (.workspace (InMemoryWorkspace.alreadyExists "artifact://plan/a/0")) :=
  ⟨_, rfl, rfl, rfl, rfl⟩

end DeepLoopCoordinator

end GreenticDw

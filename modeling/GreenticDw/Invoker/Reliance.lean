import GreenticDw.DeepLoop.Liveness
import GreenticDw.DeepLoop.Lifecycle
import GreenticDw.DeepLoop.SharedWorkspace
import GreenticDw.Invoker.Undelegated

/-! What a run relies on. Where the runtime, the context and the workspace serve every call, a run
that hands nothing over can only fail by what its planner, its reviewer and its executor say. -/

namespace GreenticDw

open Text (isBlank)

lemma validateSteps_identified {steps : List PlanStep} {stepIds ids : List String}
    (h : validateSteps stepIds steps = .ok ids) :
    ∀ step ∈ steps, isBlank step.stepId = false := by
  induction steps generalizing stepIds with
  | nil => simp
  | cons step steps ih =>
    simp only [validateSteps, except_bind_eq_ok, rejectIf_eq_ok, Bool.not_eq_true] at h
    obtain ⟨_, hid, _, _, _, _, _, _, h⟩ := h
    exact List.forall_mem_cons.mpr ⟨hid, ih h⟩

lemma validatePlan_identified {plan : PlanDocument} (h : validatePlan plan = .ok ()) :
    isBlank plan.planId = false ∧ ∀ step ∈ plan.steps, isBlank step.stepId = false := by
  simp only [validatePlan, except_bind_eq_ok, rejectIf_eq_ok, Bool.not_eq_true] at h
  obtain ⟨_, hid, _, _, _, _, ids, hs, _⟩ := h
  exact ⟨hid, validateSteps_identified hs⟩

namespace Call

variable {σ : Type}

def Supported : Call σ → Prop
  | .nextActions _ (.error _) | .reviewStep _ (.error _) | .reviewFinal _ (.error _)
  | .executeStep _ _ (.error _) => False
  | .nextActions request (.ok actions) => request.plan.Furthered actions
  | .reviewStep _ (.ok outcome) =>
    outcome.Valid ∧ outcome.verdict ≠ .revise ∧ outcome.verdict ≠ .fail
  | .reviewFinal _ (.ok outcome) => outcome.Valid ∧ outcome.verdict ≠ .fail
  | _ => True

instance : (x : Call σ) → Decidable x.Supported
  | .nextActions _ (.error _) | .reviewStep _ (.error _) | .reviewFinal _ (.error _)
  | .executeStep _ _ (.error _) => isFalse id
  | .nextActions request (.ok actions) => inferInstanceAs (Decidable (request.plan.Furthered actions))
  | .reviewStep _ (.ok outcome) => inferInstanceAs (Decidable
      (outcome.Valid ∧ outcome.verdict ≠ .revise ∧ outcome.verdict ≠ .fail))
  | .reviewFinal _ (.ok outcome) =>
    inferInstanceAs (Decidable (outcome.Valid ∧ outcome.verdict ≠ .fail))
  | .runtime _ | .operation _ _ _ | .tick _ _ | .buildContext _ _ | .evaluateCompletion _ _
  | .recordStepResult _ _ | .revisePlan _ _ | .chooseDelegate _ _ _ | .startSubtask _ _ _
  | .executeStep _ _ (.ok _) | .createArtifact _ _ _ => isTrue trivial

def Carried : Call σ → Prop
  | .operation _ (.error _) _ | .tick (.error _) _ | .buildContext _ (.error _) => False
  | _ => True

def Stored : Call σ → Prop
  | .createArtifact _ _ (.error _) => False
  | _ => True

lemma cooperative_of_served {x : Call σ} (hs : x.Supported) (hc : x.Carried) (ha : x.Stored)
    (hd : ¬x.Delegating) : x.Cooperative := by
  cases x with
  | runtime call => trivial
  | chooseDelegate moment request answer => exact (hd trivial).elim
  | startSubtask moment request answer => exact (hd trivial).elim
  | operation operation answer state => cases answer <;> exact hc
  | tick answer state => cases answer <;> exact hc
  | buildContext request answer => cases answer <;> exact hc
  | nextActions request answer => cases answer <;> exact hs
  | evaluateCompletion request answer => trivial
  | recordStepResult request answer => trivial
  | revisePlan request answer => trivial
  | reviewStep request answer => cases answer <;> exact hs
  | reviewFinal request answer => cases answer <;> exact hs
  | executeStep moment request answer => cases answer <;> exact hs
  | createArtifact moment request answer => cases answer <;> exact ha

end Call

namespace DwRuntime

variable {σ : Type} {rt : DwRuntime σ}

lemma Permissive.applyOperation_ok (h : rt.Permissive) {operation : RuntimeOperation} {w : World σ}
    (hlegal : w.envelope.state = Core.targetState operation w.envelope.state ∨
      w.envelope.state.canTransitionTo (Core.targetState operation w.envelope.state) = true) :
    ∃ event, ((rt.applyOperation operation).run w).result = .ok event := by
  have ha := rt.applyOperation_cases operation w
  rcases hr : (rt.applyOperation operation).run w with ⟨e | event, w', t⟩
  · rw [hr] at ha
    obtain ⟨e', hcore, _⟩ := h.refused ha
    rw [Core.applyOperation_of_legal hlegal] at hcore
    cases hcore
  · exact ⟨event, rfl⟩

lemma Permissive.tick_ok (h : rt.Permissive)
    (hd : ∀ envelope s, ∃ decision, (rt.engine.decideWithEnvelope envelope s).1 = .ok decision)
    (w : World σ) : ∃ events, (rt.tick.run w).result = .ok events := by
  obtain ⟨decision, hok⟩ := hd w.envelope w.env
  rcases hr : rt.engine.decideWithEnvelope w.envelope w.env with ⟨_, s⟩
  rw [hr] at hok
  cases hok
  obtain rfl | rfl := h.engine w.envelope w.env decision (by rw [hr])
  · exact ⟨[], by simp [tick, hr, Except.mapError, applyDecision]⟩
  · have hlegal : (w.withEnv s).envelope.state =
        Core.targetState .step (w.withEnv s).envelope.state := rfl
    obtain ⟨event, hevent⟩ := h.applyOperation_ok (Or.inl hlegal)
    rcases ho : (rt.applyOperation .step).run (w.withEnv s) with ⟨_, w', t⟩
    rw [ho] at hevent
    cases hevent
    exact ⟨[event], by simp [tick, hr, Except.mapError, applyDecision, ho]⟩

end DwRuntime

namespace DeepLoopCoordinator

variable {σ : Type} {c : DeepLoopCoordinator σ}

structure Serves (c : DeepLoopCoordinator σ) : Prop where
  permissive : c.runtime.Permissive
  decides : ∀ envelope s,
    ∃ decision, (c.runtime.engine.decideWithEnvelope envelope s).1 = .ok decision
  context : ∀ query ref s, isBlank ref = false →
    ∃ package, (c.context.buildContext (contextRequest query ref) s).1 = .ok package

structure Steady (o : Ran σ) : Prop where
  carried : ∀ x ∈ o.trace, x.Carried
  next : ∀ s', o.result = .ok (.next s') →
    validatePlan s'.plan = .ok () ∧ o.world.envelope.state = .running

section

variable {s s₁ : LoopState} {action : PlannedAction} {step : PlanStep}
  {stepContext planContext : Option String} {w : World σ} {o : Ran σ} {t : List (Call σ)}

def Undelegating (t : List (Call σ)) : Prop := ∀ x ∈ t, ¬x.Delegating

lemma carried_authorised {before after : TaskEnvelope} {event : RuntimeEvent} :
    ∀ x ∈ c.authorised before event after, x.Carried := by
  simp only [authorised, List.mem_append, List.mem_map, List.mem_singleton]
  rintro x (⟨r, _, rfl⟩ | rfl) <;> trivial

lemma carried_ticking {ts : List RuntimeCall} {events : List RuntimeEvent} {w' : World σ} :
    ∀ x ∈ (ticking ts (.ok events) w' : List (Call σ)), x.Carried := by
  simp only [ticking, List.mem_append, List.mem_map, List.mem_singleton]
  rintro x (⟨r, _, rfl⟩ | rfl) <;> trivial

lemma Steady.after (ht : ∀ x ∈ t, x.Carried) (ho : Steady o) : Steady (o.after t) :=
  ⟨List.forall_mem_append.mpr ⟨ht, ho.carried⟩, ho.next⟩

lemma Closed.steady (hs : c.Serves) {operation : RuntimeOperation} {report : DeepLoopRun}
    (hlegal : w.envelope.state = Core.targetState operation w.envelope.state ∨
      w.envelope.state.canTransitionTo (Core.targetState operation w.envelope.state) = true)
    (hc : c.Closed operation report w o) : Steady o := by
  cases hc with
  | refused ha =>
    obtain ⟨e, hcore, _⟩ := hs.permissive.refused ha
    rw [Core.applyOperation_of_legal hlegal] at hcore
    cases hcore
  | closed _ => exact ⟨carried_authorised, by simp⟩

lemma Judged.steady (hc : c.RecordsItself) (hs : c.Serves) {verdict : ReviewVerdict}
    (hj : c.Judged s step stepContext w verdict o) (hv : validatePlan s.plan = .ok ())
    (hw : w.envelope.state = .running) (ht : Undelegating o.trace) : Steady o := by
  cases hj with
  | unrecorded _ _ => exact ⟨by simp [Call.Carried], by simp⟩
  | recorded _ ha =>
    rw [hc] at ha
    cases ha
    refine ⟨by simp [Call.Carried], ?_⟩
    rintro _ ⟨⟩
    exact ⟨LlmPlanning.validatePlan_recorded hv step.stepId, hw⟩
  | unrevised _ => exact ⟨by simp [Call.Carried], by simp⟩
  | revised _ => exact ⟨by simp [Call.Carried], by simp⟩
  | unchosen _ => exact (ht _ (List.mem_cons_self ..) trivial).elim
  | handed _ _ => exact (ht _ (List.mem_cons_self ..) trivial).elim
  | failed hclosed => exact hclosed.steady hs (by rw [hw]; right; rfl)

lemma Produced.carried {body : String} {env : σ} {calls : List (Call σ)}
    (hp : c.Produced s step stepContext w body s₁ env calls) : ∀ x ∈ calls, x.Carried := by
  cases hp <;> simp [Call.Carried]

lemma Worked.steady (hc : c.RecordsItself) (hs : c.Serves)
    (hwork : c.Worked s action step stepContext w o) (hv : validatePlan s.plan = .ok ())
    (hw : w.envelope.state = .running) (ht : Undelegating o.trace) : Steady o := by
  cases hwork with
  | unexecuted _ _ => exact ⟨by simp [Call.Carried], by simp⟩
  | unstored hp _ =>
    exact ⟨List.forall_mem_append.mpr ⟨hp.carried, by simp [Call.Carried]⟩, by simp⟩
  | unreviewed hp _ _ =>
    exact ⟨List.forall_mem_append.mpr ⟨hp.carried, by simp [Call.Carried]⟩, by simp⟩
  | invalid hp _ _ _ =>
    exact ⟨List.forall_mem_append.mpr ⟨hp.carried, by simp [Call.Carried]⟩, by simp⟩
  | @judged _ s₁ _ artifact _ _ _ _ _ hp _ _ _ hj =>
    have hplan : (s₁.stored artifact).plan = s.plan := hp.plan
    have hj := hj.steady hc hs (hplan ▸ hv) hw (List.forall_mem_append.mp ht).2
    exact hj.after (List.forall_mem_append.mpr ⟨hp.carried, by simp [Call.Carried]⟩)

lemma Executed.steady (hc : c.RecordsItself) (hs : c.Serves)
    (he : c.Executed s action step stepContext w o) (hv : validatePlan s.plan = .ok ())
    (hw : w.envelope.state = .running) (ht : Undelegating o.trace) : Steady o := by
  have htick := DwRuntime.tick_of_onlySteps hs.permissive.engine w
  cases he with
  | refused hr =>
    obtain ⟨events, hok⟩ := hs.permissive.tick_ok hs.decides w
    rw [hr] at hok
    cases hok
  | ticked hr hwork =>
    rw [hr] at htick
    have hw' := congrArg TaskEnvelope.state htick
    have := hwork.steady hc hs hv (hw'.trans hw) (List.forall_mem_append.mp ht).2
    exact this.after carried_ticking

lemma runAction_found (hs : c.Serves) (hv : validatePlan s.plan = .ok ())
    (hf : s.plan.steps.find? (fun step => step.stepId = action.stepId) = some step) :
    ∃ package, ∃ o : Ran σ, (c.runAction s action).run w =
      o.after [.buildContext (contextRequest step.title step.stepId) (.ok package)] := by
  have hid := (validatePlan_identified hv).2 step (List.mem_of_find?_eq_some hf)
  obtain ⟨package, hok⟩ := hs.context step.title step.stepId w.env hid
  rcases hr : c.context.buildContext (contextRequest step.title step.stepId) w.env with ⟨_, env⟩
  rw [hr] at hok
  cases hok
  refine ⟨package, (if step.kind = .delegate then c.delegateStep s step
    else c.executeStep s action step (rendered package)).run (w.withEnv env), ?_⟩
  cases hk : step.kind <;> simp [runAction, hf, renderedContext, hr, hk, Except.mapError]

lemma Delegated.delegates (hd : c.Delegated s step w o) : ¬Undelegating o.trace := by
  intro ht
  cases hd <;> exact ht _ (List.mem_cons_self ..) trivial

lemma runAction_steady (hc : c.RecordsItself) (hs : c.Serves) (s : LoopState)
    (action : PlannedAction) (w : World σ) (hv : validatePlan s.plan = .ok ())
    (hw : w.envelope.state = .running) (ht : Undelegating ((c.runAction s action).run w).trace) :
    Steady ((c.runAction s action).run w) := by
  have ha := c.runAction_cases s action w
  cases hf : s.plan.steps.find? fun step => step.stepId = action.stepId with
  | none => exact ⟨by simp [runAction, hf], by simp [runAction, hf]⟩
  | some step =>
    obtain ⟨package, o, hrun⟩ := runAction_found (w := w) hs hv hf
    have hhead : .buildContext (contextRequest step.title step.stepId) (.ok package) ∈
        ((c.runAction s action).run w).trace := by
      rw [hrun]
      exact List.mem_cons_self ..
    generalize (c.runAction s action).run w = o' at ha ht hhead
    cases ha with
    | missing _ => cases hhead
    | noContext _ => simp at hhead
    | delegated _ _ _ hd => exact (hd.delegates (List.forall_mem_append.mp ht).2).elim
    | executed _ _ _ he =>
      exact (he.steady hc hs hv hw (List.forall_mem_append.mp ht).2).after (by simp [Call.Carried])

lemma actions_steady (hc : c.RecordsItself) (hs : c.Serves) (actions : List PlannedAction)
    (s : LoopState) (w : World σ) (hv : validatePlan s.plan = .ok ())
    (hw : w.envelope.state = .running)
    (ht : Undelegating ((Traced.forEach c.runAction s actions).run w).trace) :
    Steady ((Traced.forEach c.runAction s actions).run w) := by
  induction actions generalizing s w with
  | nil =>
    refine ⟨by simp, ?_⟩
    rintro s' ⟨⟩
    exact ⟨hv, hw⟩
  | cons action actions ih =>
    have ha := runAction_steady hc hs s action w hv hw
    rcases hr : (c.runAction s action).run w with ⟨e | s' | report, w', t⟩
    · rw [hr] at ha
      rw [Traced.run_forEach_error actions hr] at ht ⊢
      exact ha ht
    · rw [hr] at ha
      rw [Traced.run_forEach_next actions hr] at ht ⊢
      obtain ⟨hhead, hrest⟩ := List.forall_mem_append.mp ht
      have ha := ha hhead
      obtain ⟨hv', hw'⟩ := ha.next s' rfl
      exact (ih s' w' hv' hw' hrest).after ha.carried
    · rw [hr] at ha
      rw [Traced.run_forEach_done actions hr] at ht ⊢
      exact ha ht

lemma Settled.steady (hs : c.Serves) (hset : c.Settled s planContext w o)
    (hv : validatePlan s.plan = .ok ()) (hw : w.envelope.state = .running) : Steady o := by
  have hclosed : ∀ {operation : RuntimeOperation} {report : DeepLoopRun} {w' : World σ} {o : Ran σ},
      c.Closed operation report w' o → w'.envelope = w.envelope →
      TaskLifecycleState.running.canTransitionTo (Core.targetState operation .running) = true →
      Steady o := by
    intro operation report w' o hc he hlegal
    refine hc.steady hs (Or.inr ?_)
    rw [he, hw]
    exact hlegal
  cases hset with
  | delegating _ => exact ⟨by simp, by simp⟩
  | unchecked _ _ => exact ⟨by simp [Call.Carried], by simp⟩
  | incomplete _ _ =>
    refine ⟨by simp [Call.Carried], ?_⟩
    rintro s' ⟨⟩
    exact ⟨hv, hw⟩
  | unsatisfied _ _ hc => exact (hclosed hc rfl rfl).after (by simp [Call.Carried])
  | unreviewed _ _ _ => exact ⟨by simp [Call.Carried], by simp⟩
  | invalid _ _ _ _ => exact ⟨by simp [Call.Carried], by simp⟩
  | failed _ _ _ _ _ hc => exact (hclosed hc rfl rfl).after (by simp [Call.Carried])
  | completed _ _ _ _ _ hc => exact (hclosed hc rfl rfl).after (by simp [Call.Carried])

lemma iteration_steady (hc : c.RecordsItself) (hs : c.Serves) (s : LoopState) (i : ℕ)
    (w : World σ) (hv : validatePlan s.plan = .ok ()) (hw : w.envelope.state = .running)
    (ht : Undelegating ((c.runIteration s i).run w).trace) :
    Steady ((c.runIteration s i).run w) := by
  have hi := c.runIteration_cases s i w
  generalize (c.runIteration s i).run w = o at hi ht
  cases hi with
  | noContext he =>
    obtain ⟨package, hok⟩ := hs.context s.plan.goal s.plan.planId w.env (validatePlan_identified hv).1
    rw [he] at hok
    cases hok
  | noActions _ _ => exact ⟨by simp [Call.Carried], by simp⟩
  | settled _ _ hset => exact (hset.steady hs hv hw).after (by simp [Call.Carried])
  | @acted _ _ _ env' _ _ _ =>
    have hacted := actions_steady hc hs _ s (w.withEnv env') hv hw (List.forall_mem_append.mp ht).2
    exact hacted.after (by simp [Call.Carried])

lemma run_carried (hc : c.RecordsItself) (hs : c.Serves) {plan : PlanDocument} {w : World σ}
    (hv : validatePlan plan = .ok ()) (hw : w.envelope.state = .created)
    (ht : Undelegating ((c.run plan).run w).trace) :
    ∀ x ∈ ((c.run plan).run w).trace, x.Carried := by
  have hsequential : Traced.Sequential fun (s : LoopState) (w : World σ) (o : Ran σ) =>
      validatePlan s.plan = .ok () → w.envelope.state = .running → Undelegating o.trace →
        Steady o :=
    { skip := by
        intro s w hv hw _
        refine ⟨by simp, ?_⟩
        rintro s' ⟨⟩
        exact ⟨hv, hw⟩
      seq := by
        intro s w s' w' t o h ho hv hw ht
        obtain ⟨hhead, hrest⟩ := List.forall_mem_append.mp ht
        have h := h hv hw hhead
        obtain ⟨hv', hw'⟩ := h.next s' rfl
        exact (ho hv' hw' hrest).after h.carried }
  refine run_of_iterations hsequential (iteration_steady hc hs)
    (P := fun o => Undelegating o.trace → ∀ x ∈ o.trace, x.Carried) ?_ ?_ ht
  · intro e w' t hstart _
    cases (hstart.permissive hs.permissive).1
  · intro w₁ t o hstart ho ht
    obtain ⟨_, hw₁, _⟩ := hstart.permissive hs.permissive
    have hcarried : ∀ x ∈ t, x.Carried := by
      cases hstart with
      | skipped _ => simp
      | started _ _ => exact carried_authorised
    have hrunning : w₁.envelope.state = .running := by
      simp only at hw₁
      rw [hw₁, startedEnvelope, if_pos hw]
    refine List.forall_mem_append.mpr ⟨hcarried, ?_⟩
    exact (ho hv hrunning (List.forall_mem_append.mp ht).2).carried

end

section

variable {workspace : InMemoryWorkspace σ} {plan : PlanDocument} {w : World σ}

lemma createArtifact_complete {req : CreateArtifactRequest} {env : σ} (hreq : req.Complete)
    {e : WorkspaceError} (h : (workspace.createArtifact req env).1 = .error e) :
    e = InMemoryWorkspace.alreadyExists req.artifact.artifactId := by
  have hvalid : validateCreateArtifactRequest req = .ok () :=
    validateCreateArtifactRequest_eq_ok.mpr hreq
  simp only [InMemoryWorkspace.createArtifact, hvalid] at h
  split_ifs at h
  cases h
  rfl

lemma stepArtifact_complete {task : TaskEnvelope} {s : LoopState} {action : PlannedAction}
    {step : PlanStep} {body : String} (htenant : isBlank task.scope.tenant = false)
    (htask : isBlank task.taskId = false) (hplan : isBlank s.plan.planId = false) :
    (stepArtifact task s action step body).Complete where
  artifactId := by
    simp only [stepArtifact, String.append_assoc]
    exact Text.isBlank_append_left (by decide) _
  tenant := htenant
  session := htask
  run := hplan
  title := Text.isBlank_append_left (by decide) _

lemma run_stored (h : c.Shares workspace) (hplan : c.KeepsPlanId)
    (hfresh : workspace.ids w.env = []) (hid : isBlank plan.planId = false)
    (htenant : isBlank w.envelope.scope.tenant = false) (htask : isBlank w.envelope.taskId = false)
    (hn : (outputs ((c.run plan).run w).trace).length < 2 ^ 32) :
    ∀ x ∈ ((c.run plan).run w).trace, x.Stored := by
  intro x hx
  cases x with
  | createArtifact moment request answer =>
    cases answer with
    | ok artifact => trivial
    | error e =>
      obtain ⟨pre, post, ht⟩ := List.append_of_mem hx
      have hcalls := (c.run_replayed plan w).calls
      have hpre : c.Follows w.envelope (c.initialState plan) pre := by
        rw [ht, follows_append] at hcalls
        exact hcalls.1
      obtain ⟨_, _, ⟨action, body, _, hrequest⟩, hanswer⟩ := hcalls.fits ht
      have hcomplete : request.Complete := by
        rw [hrequest]
        exact stepArtifact_complete htenant htask ((hpre.planId hplan).symm ▸ hid)
      have hexists : e = InMemoryWorkspace.alreadyExists request.artifact.artifactId := by
        rw [h.provider, InMemoryWorkspaceProvider_createArtifact] at hanswer
        exact createArtifact_complete hcomplete hanswer
      have hheld : request.artifact.artifactId ∈ pre.foldl holding (workspace.ids w.env) :=
        ((h.answered ht).mp (congrArg Except.error hexists)).2
      rw [hfresh, holding_foldl, or_iff_left List.not_mem_nil,
        hpre.outputs_name hplan h.echoes, hcalls.request_name hplan ht,
        List.mem_map_of_injective (artifactName_injective _)] at hheld
      -- an earlier output has the same number, which the numbers are enough to rule out
      obtain ⟨k, hk, hplace⟩ := List.mem_iff_getElem.mp hheld
      have hlength : (outputs pre).length < 2 ^ 32 := by
        refine lt_of_le_of_lt ?_ hn
        rw [ht, outputs_append, List.length_append]
        exact Nat.le_add_right _ _
      simp only [places, List.length_mapIdx] at hk
      simp only [places, List.getElem_mapIdx, Prod.mk.injEq] at hplace
      have hnumber := congrArg UInt32.toNat hplace.2
      rw [UInt32.toNat_ofNat_of_lt' hlength, UInt32.toNat_ofNat_of_lt' (hk.trans hlength)] at hnumber
      omega
  | _ => trivial

end

theorem run_supported {workspace : InMemoryWorkspace σ} {plan : PlanDocument} {w : World σ}
    (hp : c.PlansItself) (hs : c.Serves) (hd : c.Undelegated plan) (hw : c.Shares workspace)
    (hfresh : workspace.ids w.env = []) (hcreated : w.envelope.state = .created)
    (htenant : isBlank w.envelope.scope.tenant = false) (htask : isBlank w.envelope.taskId = false)
    (hplan : plan.Workable) (hn : plan.unfinished.length < c.maxIterations)
    (hout : (outputs ((c.run plan).run w).trace).length < 2 ^ 32)
    (ht : ∀ x ∈ ((c.run plan).run w).trace, x.Supported) :
    ∃ report, ((c.run plan).run w).result = .ok report ∧ report.status = .completed ∧
      ∀ step ∈ report.plan.steps, step.status = .completed := by
  have hnone := hd.run w
  have hkeeps : c.KeepsPlanId := by
    intro request env plan' h
    rw [hp.records] at h
    cases h
    rfl
  have hcarried := run_carried hp.records hs hplan.valid hcreated hnone.calls
  have hstored := run_stored hw hkeeps hfresh (validatePlan_identified hplan.valid).1 htenant htask
    hout
  have hcooperates : Cooperates ((c.run plan).run w).trace := fun x hx =>
    Call.cooperative_of_served (ht x hx) (hcarried x hx) (hstored x hx) (hnone.calls x hx)
  obtain ⟨⟨report, hresult, hreport⟩, _⟩ := run_worksOff hp hplan hn hcooperates
  refine ⟨report, hresult, ?_, hreport.steps⟩
  rw [hreport.status, if_pos (hnone.report report hresult).1]

end DeepLoopCoordinator

end GreenticDw

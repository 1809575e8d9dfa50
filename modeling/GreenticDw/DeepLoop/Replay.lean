import GreenticDw.DeepLoop.Runs

/-! The calls of a run determine what the loop carries: its state is replayed from them. Each call
asks for what that state dictates and is answered by the provider it is put to, and a call that
fails ends the run. -/

namespace GreenticDw

def TaskEnvelope.Same (envelope envelope' : TaskEnvelope) : Prop :=
  envelope' = { envelope with state := envelope'.state }

lemma TaskEnvelope.Same.refl (envelope : TaskEnvelope) : envelope.Same envelope := rfl

lemma TaskEnvelope.Same.trans {a b c : TaskEnvelope} (h : a.Same b) (h' : b.Same c) : a.Same c := by
  unfold TaskEnvelope.Same at *
  rw [h', h]

lemma TaskEnvelope.Same.taskId {a b : TaskEnvelope} (h : a.Same b) : b.taskId = a.taskId := by rw [h]
lemma TaskEnvelope.Same.workerId {a b : TaskEnvelope} (h : a.Same b) : b.workerId = a.workerId := by
  rw [h]
lemma TaskEnvelope.Same.scope {a b : TaskEnvelope} (h : a.Same b) : b.scope = a.scope := by rw [h]

lemma Core.applyOperation_same {a b : TaskEnvelope} {operation : RuntimeOperation}
    {event : RuntimeEvent} (h : Core.applyOperation a operation = .ok (event, b)) : a.Same b := by
  obtain ⟨_, _, _, _, hb⟩ := Core.applyOperation_ok h
  rw [hb]
  rfl

section

variable {σ : Type}

/-- What a call, once answered, makes of the state of the loop. -/
def LoopState.observe (s : LoopState) : Call σ → LoopState
  | .executeStep _ _ (.ok execution) => s.charged execution
  | .createArtifact _ _ (.ok artifact) => s.stored artifact
  | .startSubtask _ request (.ok _) =>
    { s with emittedSubtasks := s.emittedSubtasks ++ [request.envelope] }
  | .recordStepResult _ (.ok plan) => s.recorded plan
  | .revisePlan _ (.ok revision) => s.revised revision
  | _ => s

def LoopState.replay (s : LoopState) (t : List (Call σ)) : LoopState := t.foldl LoopState.observe s

@[simp] lemma LoopState.replay_nil (s : LoopState) : s.replay ([] : List (Call σ)) = s := rfl

@[simp] lemma LoopState.replay_cons (s : LoopState) (x : Call σ) (t : List (Call σ)) :
    s.replay (x :: t) = (s.observe x).replay t := rfl

lemma LoopState.replay_append (s : LoopState) (t u : List (Call σ)) :
    s.replay (t ++ u) = (s.replay t).replay u :=
  List.foldl_append ..

lemma LoopState.replay_mediating (s : LoopState) {t : List (Call σ)} (ht : ∀ x ∈ t, x.Mediating) :
    s.replay t = s := by
  induction t with
  | nil => rfl
  | cons x t ih =>
    rw [List.forall_mem_cons] at ht
    have hx : s.observe x = s := by
      have := ht.1
      cases x <;> first | rfl | exact this.elim
    rw [LoopState.replay_cons, hx, ih ht.2]

def Call.failure : Call σ → Option DeepLoopError
  | .operation _ (.error e) _ => some (.runtime e)
  | .tick (.error e) _ => some (.runtime e)
  | .buildContext _ (.error e) => some (.context e)
  | .nextActions _ (.error e) => some (.planning e)
  | .evaluateCompletion _ (.error e) => some (.planning e)
  | .recordStepResult _ (.error e) => some (.planning e)
  | .revisePlan _ (.error e) => some (.planning e)
  | .reviewStep _ (.error e) => some (.reflection e)
  | .reviewFinal _ (.error e) => some (.reflection e)
  | .chooseDelegate _ _ (.error e) => some (.delegation e)
  | .startSubtask _ _ (.error e) => some (.delegation e)
  | .executeStep _ _ (.error e) => some (.execution e)
  | .createArtifact _ _ (.error e) => some (.workspace e)
  | _ => none

def DeepLoopError.Own : DeepLoopError → Prop
  | .missingStep _ => True
  | .reflection _ => True
  | _ => False

structure Moment.Fits (task : TaskEnvelope) (s : LoopState) (moment : Moment σ) : Prop where
  plan : moment.plan = s.plan
  step : moment.step ∈ s.plan.steps
  task : task.Same moment.world.envelope

namespace DeepLoopCoordinator

variable (c : DeepLoopCoordinator σ)

def HandsOver (step : PlanStep) : Prop :=
  step.kind = .delegate ∨ ∃ request env outcome,
    (c.reflector.reviewStep request env).1 = .ok outcome ∧ outcome.verdict = .delegate

def Grants (decision : DelegationDecision) : Prop :=
  ∃ request env, (c.delegator.chooseDelegate request env).1 = .ok decision

def BodyFor (s : LoopState) (step : PlanStep) (body : String) : Prop :=
  (c.executor = none ∧ body = placeholderBody step) ∨
    ∃ output, s.stepOutputs.getLast? = some output ∧ body = output.toText

end DeepLoopCoordinator

def Call.Fits (c : DeepLoopCoordinator σ) (task : TaskEnvelope) (s : LoopState) : Call σ → Prop
  | .runtime _ => True
  | .operation _ _ _ => True
  | .tick _ _ => True
  | .buildContext request answer => ∃ env, (c.context.buildContext request env).1 = answer
  | .nextActions request answer =>
    request.plan = s.plan ∧ ∃ env, (c.planner.nextActions request env).1 = answer
  | .evaluateCompletion request answer =>
    request.plan = s.plan ∧ ∃ env, (c.planner.evaluateCompletion request env).1 = answer
  | .recordStepResult request answer =>
    (request.plan = s.plan ∧ request.stepId ∈ s.plan.stepIds ∧ request.status = .completed) ∧
      ∃ env, (c.planner.recordStepResult request env).1 = answer
  | .revisePlan request answer =>
    request.plan = s.plan ∧ ∃ env, (c.planner.revisePlan request env).1 = answer
  | .reviewStep request answer => ∃ env, (c.reflector.reviewStep request env).1 = answer
  | .reviewFinal request answer =>
    (∃ planContext, request = finalReviewRequest task s planContext) ∧
      ∃ env, (c.reflector.reviewFinal request env).1 = answer
  | .chooseDelegate moment request answer =>
    moment.Fits task s ∧ c.HandsOver moment.step ∧
      (c.delegator.chooseDelegate request moment.world.env).1 = answer
  | .startSubtask moment request answer =>
    moment.Fits task s ∧ c.HandsOver moment.step ∧
      (∃ decision, c.Grants decision ∧
        request.envelope = buildSubtaskEnvelope task moment.step decision) ∧
      (c.delegator.startSubtask request moment.world.env).1 = answer
  | .executeStep moment request answer =>
    moment.Fits task s ∧ moment.step.kind ≠ .delegate ∧
      (∃ stepContext, request = executionRequest s moment.step stepContext) ∧
      ∃ executor, c.executor = some executor ∧
        (executor.executeStep request moment.world.env).1 = answer
  | .createArtifact moment request answer =>
    moment.Fits task s ∧ moment.step.kind ≠ .delegate ∧
      (∃ action body, c.BodyFor s moment.step body ∧
        request = stepArtifact task s action moment.step body) ∧
      (c.workspace.createArtifact request moment.world.env).1 = answer

namespace DeepLoopCoordinator

abbrev Follows (c : DeepLoopCoordinator σ) (task : TaskEnvelope) :
    LoopState → List (Call σ) → Prop :=
  Accords LoopState.observe fun s x => x.Fits c task s

variable {c : DeepLoopCoordinator σ} {task : TaskEnvelope} {s : LoopState} {t u : List (Call σ)}

lemma follows_append :
    c.Follows task s (t ++ u) ↔ c.Follows task s t ∧ c.Follows task (s.replay t) u :=
  accords_append ..

lemma Follows.fits (h : c.Follows task s t) {pre post : List (Call σ)} {x : Call σ}
    (ht : t = pre ++ x :: post) : x.Fits c task (s.replay pre) :=
  Accords.fits h ht

lemma follows_mediating (ht : ∀ x ∈ t, x.Mediating) : c.Follows task s t := by
  induction t generalizing s with
  | nil => trivial
  | cons x t ih =>
    rw [List.forall_mem_cons] at ht
    refine ⟨?_, ih ht.2⟩
    have := ht.1
    cases x <;> trivial

structure Replays (c : DeepLoopCoordinator σ) (task : TaskEnvelope) (s : LoopState)
    (o : Ran σ) : Prop where
  calls : c.Follows task s o.trace
  fails : ∀ x ∈ o.trace, ∀ e, x.failure = some e → o.result = .error e
  failed : ∀ e, o.result = .error e → e.Own ∨ ∃ x ∈ o.trace, x.failure = some e
  next : ∀ s', o.result = .ok (.next s') → s' = s.replay o.trace
  done : ∀ report, o.result = .ok (.done report) →
    report = (s.replay o.trace).report report.status
  task : task.Same o.world.envelope

def Sound (t : List (Call σ)) : Prop := ∀ x ∈ t, x.failure = none

lemma sound_authorised {before after : TaskEnvelope} {event : RuntimeEvent} :
    Sound (c.authorised before event after) := by
  simp only [Sound, authorised, List.mem_append, List.mem_map, List.mem_singleton]
  rintro x (⟨r, _, rfl⟩ | rfl) <;> rfl

lemma sound_ticking {t : List RuntimeCall} {events : List RuntimeEvent} {w : World σ} :
    Sound (ticking t (.ok events) w) := by
  simp only [Sound, ticking, List.mem_append, List.mem_map, List.mem_singleton]
  rintro x (⟨r, _, rfl⟩ | rfl) <;> rfl

lemma Sound.append (ht : Sound t) (hu : Sound u) : Sound (t ++ u) :=
  List.forall_mem_append.mpr ⟨ht, hu⟩

section

variable {s' s₁ : LoopState} {action : PlannedAction} {step : PlanStep}
  {stepContext : Option String} {w : World σ} {o : Ran σ}

lemma Replays.after (ht : c.Follows task s t) (hsound : Sound t)
    (ho : c.Replays task (s.replay t) o) : c.Replays task s (o.after t) where
  calls := follows_append.mpr ⟨ht, ho.calls⟩
  fails x hx e he := by
    rcases List.mem_append.mp hx with hx | hx
    · simp [hsound x hx] at he
    · exact ho.fails x hx e he
  failed e he := by
    obtain h | ⟨x, hx, hf⟩ := ho.failed e he
    · exact Or.inl h
    · exact Or.inr ⟨x, List.mem_append_right t hx, hf⟩
  next s' hr := by
    rw [Outcome.after_trace, LoopState.replay_append]
    exact ho.next s' hr
  done report hr := by
    rw [Outcome.after_trace, LoopState.replay_append]
    exact ho.done report hr
  task := ho.task

lemma replays_next (hw : task.Same w.envelope) (ht : c.Follows task s t) (hsound : Sound t)
    (hs : s' = s.replay t) : c.Replays task s ⟨.ok (.next s'), w, t⟩ where
  calls := ht
  fails x hx e he := by simp [hsound x hx] at he
  failed := by simp
  next s₂ hr := by
    cases hr
    exact hs
  done := by simp
  task := hw

lemma replays_done {report : DeepLoopRun} (hw : task.Same w.envelope) (ht : c.Follows task s t)
    (hsound : Sound t) (hr : report = (s.replay t).report report.status) :
    c.Replays task s ⟨.ok (.done report), w, t⟩ where
  calls := ht
  fails x hx e he := by simp [hsound x hx] at he
  failed := by simp
  next := by simp
  done report' h := by
    cases h
    exact hr
  task := hw

lemma replays_own {e : DeepLoopError} (hw : task.Same w.envelope) (ht : c.Follows task s t)
    (hsound : Sound t) (he : e.Own) : c.Replays task s ⟨.error e, w, t⟩ where
  calls := ht
  fails x hx e' he' := by simp [hsound x hx] at he'
  failed e' h := by
    cases h
    exact Or.inl he
  next := by simp
  done := by simp
  task := hw

lemma replays_failed {e : DeepLoopError} {x : Call σ} (hw : task.Same w.envelope)
    (ht : c.Follows task s (t ++ [x])) (hsound : Sound t) (hx : x.failure = some e) :
    c.Replays task s ⟨.error e, w, t ++ [x]⟩ where
  calls := ht
  fails y hy e' he' := by
    rcases List.mem_append.mp hy with hy | hy
    · simp [hsound y hy] at he'
    · obtain rfl := List.mem_singleton.mp hy
      exact congrArg Except.error (Option.some.inj (hx.symm.trans he'))
  failed e' h := by
    cases h
    exact Or.inr ⟨x, by simp, hx⟩
  next := by simp
  done := by simp
  task := hw

lemma replays_refused {before : List RuntimeCall} {operation : RuntimeOperation}
    {e : RuntimeError} (hw : task.Same w.envelope) :
    c.Replays task s ⟨.error (.runtime e), w, refusal before operation e w⟩ := by
  refine replays_failed hw (follows_mediating refusal_mediating) ?_ rfl
  intro x hx
  obtain ⟨r, _, rfl⟩ := List.mem_map.mp hx
  rfl

lemma applied_same {rt : DwRuntime σ} {operation : RuntimeOperation}
    {o : Outcome (World σ) RuntimeCall RuntimeError RuntimeEvent}
    (h : DwRuntime.Applied rt operation w o) : w.envelope.Same o.world.envelope := by
  cases h with
  | blocked _ _ => exact .refl _
  | illegal _ => exact .refl _
  | applied h => exact Core.applyOperation_same h
  | unsaved h => exact Core.applyOperation_same h

lemma Closed.replays {operation : RuntimeOperation} {report : DeepLoopRun}
    (h : c.Closed operation report w o) (hw : task.Same w.envelope)
    (hr : report = s.report report.status) : c.Replays task s o := by
  cases h with
  | refused ha => exact replays_refused (hw.trans (applied_same ha))
  | closed ha =>
    refine replays_done (hw.trans (Core.applyOperation_same ha))
      (follows_mediating c.authorised_mediating) sound_authorised ?_
    rw [LoopState.replay_mediating s c.authorised_mediating]
    exact hr

lemma buildSubtaskEnvelope_same {a b : TaskEnvelope} (h : a.Same b) (step : PlanStep)
    (decision : DelegationDecision) :
    buildSubtaskEnvelope b step decision = buildSubtaskEnvelope a step decision := by
  rw [buildSubtaskEnvelope, h.taskId, h.workerId]
  rfl

lemma stepArtifact_same {a b : TaskEnvelope} (h : a.Same b) (s : LoopState)
    (action : PlannedAction) (step : PlanStep) (body : String) :
    stepArtifact b s action step body = stepArtifact a s action step body := by
  unfold stepArtifact
  rw [h.taskId, h.workerId, h.scope]

lemma finalReviewRequest_same {a b : TaskEnvelope} (h : a.Same b) (s : LoopState)
    (planContext : Option String) :
    finalReviewRequest b s planContext = finalReviewRequest a s planContext := by
  rw [finalReviewRequest, h.taskId]
  rfl

lemma fits_recorded {env env' : σ} {answer : Except PlanningError PlanDocument}
    (hstep : step ∈ s.plan.steps)
    (h : c.planner.recordStepResult ⟨s.plan, step.stepId, .completed⟩ env = (answer, env')) :
    (Call.recordStepResult ⟨s.plan, step.stepId, .completed⟩ answer).Fits c task s :=
  ⟨⟨rfl, List.mem_map_of_mem hstep, rfl⟩, env, congrArg Prod.fst h⟩

lemma fits_chosen {request : DelegationRequest} {env' : σ}
    {answer : Except DelegationError DelegationDecision} (hw : task.Same w.envelope)
    (hstep : step ∈ s.plan.steps) (hover : c.HandsOver step)
    (h : c.delegator.chooseDelegate request w.env = (answer, env')) :
    (Call.chooseDelegate ⟨s.plan, step, w⟩ request answer).Fits c task s :=
  ⟨⟨rfl, hstep, hw⟩, hover, congrArg Prod.fst h⟩

lemma Emitted.replays {decision : DelegationDecision}
    (h : c.Emitted s step (buildSubtaskEnvelope task step decision) w o)
    (hw : task.Same w.envelope) (hstep : step ∈ s.plan.steps) (hover : c.HandsOver step)
    (hgrant : c.Grants decision) : c.Replays task s o := by
  have hstart : ∀ answer env,
      c.delegator.startSubtask ⟨buildSubtaskEnvelope task step decision⟩ w.env = (answer, env) →
      (Call.startSubtask ⟨s.plan, step, w⟩ ⟨buildSubtaskEnvelope task step decision⟩ answer).Fits
        c task s := fun answer env h =>
    ⟨⟨rfl, hstep, hw⟩, hover, ⟨decision, hgrant, rfl⟩, congrArg Prod.fst h⟩
  cases h with
  | refused h => exact replays_failed (t := []) hw ⟨hstart _ _ h, trivial⟩ (by simp [Sound]) rfl
  | unrecorded h h' =>
    exact replays_failed (t := [_]) hw
      ⟨hstart _ _ h, fits_recorded (s := s.observe _) hstep h', trivial⟩
      (by simp [Sound, Call.failure]) rfl
  | emitted h h' =>
    exact replays_next hw ⟨hstart _ _ h, fits_recorded (s := s.observe _) hstep h', trivial⟩
      (by simp [Sound, Call.failure]) rfl

lemma Delegated.replays (h : c.Delegated s step w o) (hw : task.Same w.envelope)
    (hstep : step ∈ s.plan.steps) (hkind : step.kind = .delegate) : c.Replays task s o := by
  have hover : c.HandsOver step := Or.inl hkind
  cases h with
  | unchosen h =>
    exact replays_failed (t := []) hw ⟨fits_chosen hw hstep hover h, trivial⟩ (by simp [Sound]) rfl
  | @refused _ _ env w' t _ h _ ha =>
    have hsame : task.Same w'.envelope := TaskEnvelope.Same.trans hw (applied_same ha)
    exact (replays_refused hsame).after (t := [_]) ⟨fits_chosen hw hstep hover h, trivial⟩
      (by simp [Sound, Call.failure])
  | @handed decision event envelope _ _ _ h ha he =>
    have hcalls : c.Follows task s (c.authorised w.envelope event envelope) :=
      follows_mediating c.authorised_mediating
    refine Replays.after ⟨fits_chosen hw hstep hover h, hcalls⟩
      (List.forall_mem_cons.mpr ⟨rfl, sound_authorised⟩) ?_
    have hreplay : s.replay (.chooseDelegate ⟨s.plan, step, w⟩
        (delegationRequest step step.title) (.ok decision) ::
          c.authorised w.envelope event envelope) = s := by
      rw [LoopState.replay_cons]
      exact s.replay_mediating c.authorised_mediating
    rw [hreplay]
    rw [buildSubtaskEnvelope_same hw] at he
    exact he.replays (hw.trans (Core.applyOperation_same ha)) hstep hover
      ⟨_, _, congrArg Prod.fst h⟩

lemma Judged.replays {verdict : ReviewVerdict} (h : c.Judged s step stepContext w verdict o)
    (hw : task.Same w.envelope) (hstep : step ∈ s.plan.steps)
    (hover : verdict = .delegate → c.HandsOver step) : c.Replays task s o := by
  cases h with
  | unrecorded _ h =>
    exact replays_failed (t := []) hw ⟨fits_recorded hstep h, trivial⟩ (by simp [Sound]) rfl
  | recorded _ h =>
    exact replays_next hw ⟨fits_recorded hstep h, trivial⟩ (by simp [Sound, Call.failure]) rfl
  | unrevised h =>
    exact replays_failed (t := []) hw ⟨⟨rfl, w.env, congrArg Prod.fst h⟩, trivial⟩
      (by simp [Sound]) rfl
  | revised h =>
    exact replays_done hw ⟨⟨rfl, w.env, congrArg Prod.fst h⟩, trivial⟩
      (by simp [Sound, Call.failure]) rfl
  | unchosen h =>
    exact replays_failed (t := []) hw ⟨fits_chosen hw hstep (hover rfl) h, trivial⟩
      (by simp [Sound]) rfl
  | handed h he =>
    refine Replays.after ⟨fits_chosen hw hstep (hover rfl) h, trivial⟩
      (by simp [Sound, Call.failure]) ?_
    rw [buildSubtaskEnvelope_same hw] at he
    exact he.replays hw hstep (hover rfl) ⟨_, _, congrArg Prod.fst h⟩
  | failed h => exact h.replays hw rfl

structure Produces (c : DeepLoopCoordinator σ) (task : TaskEnvelope) (s : LoopState)
    (step : PlanStep) (body : String) (s₁ : LoopState) (t : List (Call σ)) : Prop where
  calls : c.Follows task s t
  sound : Sound t
  state : s.replay t = s₁
  plan : s₁.plan = s.plan
  body : c.BodyFor s₁ step body

section

variable {body : String} {env env' : σ} {artifact : ArtifactRef}

lemma Produced.produces (h : c.Produced s step stepContext w body s₁ env t)
    (hw : task.Same w.envelope) (hstep : step ∈ s.plan.steps) (hkind : step.kind ≠ .delegate) :
    c.Produces task s step body s₁ t := by
  cases h with
  | placeholder hx => exact ⟨trivial, by simp [Sound], rfl, rfl, Or.inl ⟨hx, rfl⟩⟩
  | @executed executor execution _ hx h =>
    have hfits := congrArg Prod.fst h
    refine ⟨⟨⟨⟨rfl, hstep, hw⟩, hkind, ⟨_, rfl⟩, executor, hx, hfits⟩, trivial⟩,
      by simp [Sound, Call.failure], rfl, rfl, Or.inr ⟨execution.body, ?_, rfl⟩⟩
    simp [LoopState.charged]

lemma Produces.asked {answer : Except WorkspaceError ArtifactRef}
    (hp : c.Produces task s step body s₁ t) (hw : task.Same w.envelope)
    (hstep : step ∈ s.plan.steps) (hkind : step.kind ≠ .delegate)
    (ha : c.workspace.createArtifact (stepArtifact w.envelope s₁ action step body) env =
      (answer, env')) :
    c.Follows task s (t ++ [.createArtifact ⟨s.plan, step, w.withEnv env⟩
      (stepArtifact w.envelope s₁ action step body) answer]) := by
  refine follows_append.mpr ⟨hp.calls, ?_, trivial⟩
  rw [hp.state]
  refine ⟨⟨hp.plan.symm, hp.plan.symm ▸ hstep, hw⟩, hkind, ⟨action, body, hp.body, ?_⟩,
    congrArg Prod.fst ha⟩
  exact stepArtifact_same hw s₁ action step body

lemma Produces.stored (hp : c.Produces task s step body s₁ t) (hw : task.Same w.envelope)
    (hstep : step ∈ s.plan.steps) (hkind : step.kind ≠ .delegate)
    (ha : c.workspace.createArtifact (stepArtifact w.envelope s₁ action step body) env =
      (.ok artifact, env'))
    (ho : c.Replays task (s₁.stored artifact) o) :
    c.Replays task s (o.after (t ++ [.createArtifact ⟨s.plan, step, w.withEnv env⟩
      (stepArtifact w.envelope s₁ action step body) (.ok artifact)])) := by
  refine Replays.after (hp.asked hw hstep hkind ha)
    (hp.sound.append (by simp [Sound, Call.failure])) ?_
  rw [LoopState.replay_append, hp.state]
  exact ho

end

lemma follows_reviewed {request : ReviewStepRequest} {env env' : σ}
    {answer : Except ReflectionError ReviewOutcome}
    (h : c.reflector.reviewStep request env = (answer, env')) :
    c.Follows task s [.reviewStep request answer] :=
  ⟨⟨env, congrArg Prod.fst h⟩, trivial⟩

lemma Worked.replays (h : c.Worked s action step stepContext w o) (hw : task.Same w.envelope)
    (hstep : step ∈ s.plan.steps) (hkind : step.kind ≠ .delegate) : c.Replays task s o := by
  cases h with
  | @unexecuted executor e env hx h =>
    have hfits := congrArg Prod.fst h
    exact replays_failed (t := []) hw
      ⟨⟨⟨rfl, hstep, hw⟩, hkind, ⟨_, rfl⟩, executor, hx, hfits⟩, trivial⟩ (by simp [Sound]) rfl
  | unstored hp ha =>
    have hp := hp.produces hw hstep hkind
    exact replays_failed hw (hp.asked hw hstep hkind ha) hp.sound rfl
  | @unreviewed _ s₁ _ artifact _ _ _ env' hp ha hr =>
    have ho := replays_failed (s := s₁.stored artifact) (t := []) (w := w.withEnv env') hw
      (follows_reviewed hr) (by simp [Sound]) rfl
    simpa using (hp.produces hw hstep hkind).stored hw hstep hkind ha ho
  | @invalid _ s₁ _ artifact _ e _ _ env' hp ha hr _ =>
    have ho := replays_own (s := s₁.stored artifact) (e := .reflection e) (w := w.withEnv env') hw
      (follows_reviewed hr) (by simp [Sound, Call.failure]) trivial
    simpa using (hp.produces hw hstep hkind).stored hw hstep hkind ha ho
  | @judged _ _ _ _ outcome _ env₁ env' _ hp ha hr _ hj =>
    have hp := hp.produces hw hstep hkind
    have hover : outcome.verdict = .delegate → c.HandsOver step := fun hv =>
      Or.inr ⟨_, env₁, outcome, congrArg Prod.fst hr, hv⟩
    have ho := hj.replays hw (hp.plan.symm ▸ hstep) hover
    have ho := Replays.after (follows_reviewed hr) (by simp [Sound, Call.failure]) ho
    simpa using hp.stored hw hstep hkind ha ho

lemma ticked_same (w : World σ) : w.envelope.Same (c.runtime.tick.run w).world.envelope :=
  c.runtime.tick_envelope .refl .trans Core.applyOperation_same w

lemma Executed.replays (h : c.Executed s action step stepContext w o) (hw : task.Same w.envelope)
    (hstep : step ∈ s.plan.steps) (hkind : step.kind ≠ .delegate) : c.Replays task s o := by
  have hsame := hw.trans (ticked_same (c := c) w)
  cases h with
  | refused ht =>
    rw [ht] at hsame
    refine replays_failed hsame (follows_mediating ticking_mediating) ?_ rfl
    intro x hx
    obtain ⟨r, _, rfl⟩ := List.mem_map.mp hx
    rfl
  | ticked ht hwork =>
    rw [ht] at hsame
    apply Replays.after (follows_mediating ticking_mediating) sound_ticking
    rw [s.replay_mediating ticking_mediating]
    exact hwork.replays hsame hstep hkind

theorem Acted.replays (h : c.Acted s action w o) (hw : task.Same w.envelope) :
    c.Replays task s o := by
  cases h with
  | missing _ => exact replays_own hw trivial (by simp [Sound]) trivial
  | noContext h =>
    exact replays_failed (t := []) hw ⟨⟨w.env, congrArg Prod.fst h⟩, trivial⟩ (by simp [Sound]) rfl
  | delegated hf h hkind hd =>
    exact (hd.replays hw (List.mem_of_find?_eq_some hf) hkind).after (t := [_])
      ⟨⟨w.env, congrArg Prod.fst h⟩, trivial⟩ (by simp [Sound, Call.failure])
  | executed hf h hkind he =>
    exact (he.replays hw (List.mem_of_find?_eq_some hf) hkind).after (t := [_])
      ⟨⟨w.env, congrArg Prod.fst h⟩, trivial⟩ (by simp [Sound, Call.failure])

theorem Settled.replays {planContext : Option String} (h : c.Settled s planContext w o)
    (hw : task.Same w.envelope) : c.Replays task s o := by
  have hcheck : ∀ answer env, c.planner.evaluateCompletion ⟨s.plan⟩ w.env = (answer, env) →
      (Call.evaluateCompletion ⟨s.plan⟩ answer).Fits c task s := fun answer env h =>
    ⟨rfl, w.env, congrArg Prod.fst h⟩
  have hfinal : ∀ env answer env',
      c.reflector.reviewFinal (finalReviewRequest w.envelope s planContext) env = (answer, env') →
      (Call.reviewFinal (finalReviewRequest w.envelope s planContext) answer).Fits c task s :=
    fun env answer env' h =>
      ⟨⟨planContext, finalReviewRequest_same hw s planContext⟩, env, congrArg Prod.fst h⟩
  cases h with
  | delegating _ => exact replays_done hw trivial (by simp [Sound]) rfl
  | unchecked _ h => exact replays_failed (t := []) hw ⟨hcheck _ _ h, trivial⟩ (by simp [Sound]) rfl
  | incomplete _ h => exact replays_next hw ⟨hcheck _ _ h, trivial⟩ (by simp [Sound, Call.failure]) rfl
  | unsatisfied _ h ho =>
    exact (ho.replays hw rfl).after (t := [_]) ⟨hcheck _ _ h, trivial⟩
      (by simp [Sound, Call.failure])
  | unreviewed _ h hr =>
    exact replays_failed (t := [_]) hw ⟨hcheck _ _ h, hfinal _ _ _ hr, trivial⟩
      (by simp [Sound, Call.failure]) rfl
  | invalid _ h hr _ =>
    exact replays_own hw ⟨hcheck _ _ h, hfinal _ _ _ hr, trivial⟩
      (by simp [Sound, Call.failure]) trivial
  | failed _ h hr _ _ ho =>
    exact (ho.replays hw rfl).after (t := [_, _]) ⟨hcheck _ _ h, hfinal _ _ _ hr, trivial⟩
      (by simp [Sound, Call.failure])
  | completed _ h hr _ _ ho =>
    exact (ho.replays hw rfl).after (t := [_, _]) ⟨hcheck _ _ h, hfinal _ _ _ hr, trivial⟩
      (by simp [Sound, Call.failure])

end

lemma Replays.sound {o : Ran σ} {flow : Flow LoopState DeepLoopRun} (h : c.Replays task s o)
    (hr : o.result = .ok flow) : Sound o.trace := by
  intro x hx
  by_contra hf
  obtain ⟨e, he⟩ := Option.ne_none_iff_exists'.mp hf
  have := h.fails x hx e he
  rw [hr] at this
  cases this

theorem sequential_replays :
    Traced.Sequential fun s (w : World σ) (o : Ran σ) =>
      task.Same w.envelope → c.Replays task s o where
  skip _ _ hw := replays_next hw trivial (by simp [Sound]) rfl
  seq h ho hw := by
    have h := h hw
    apply Replays.after h.calls (h.sound rfl)
    rw [← h.next _ rfl]
    exact ho h.task

theorem iteration_replays (s : LoopState) (i : ℕ) (w : World σ) (hw : task.Same w.envelope) :
    c.Replays task s ((c.runIteration s i).run w) := by
  have hi := c.runIteration_cases s i w
  generalize (c.runIteration s i).run w = o at hi
  have hcontext : ∀ answer env, c.context.buildContext (contextRequest s.plan.goal s.plan.planId)
      w.env = (answer, env) → (Call.buildContext (contextRequest s.plan.goal s.plan.planId)
        answer).Fits c task s := fun answer env h => ⟨w.env, congrArg Prod.fst h⟩
  have hactions : ∀ planContext env answer env',
      c.planner.nextActions ⟨s.plan, planContext⟩ env = (answer, env') →
      (Call.nextActions ⟨s.plan, planContext⟩ answer).Fits c task s :=
    fun planContext env answer env' h => ⟨rfl, env, congrArg Prod.fst h⟩
  cases hi with
  | noContext h =>
    exact replays_failed (t := []) hw ⟨hcontext _ _ h, trivial⟩ (by simp [Sound]) rfl
  | noActions h hn =>
    exact replays_failed (t := [_]) hw ⟨hcontext _ _ h, hactions _ _ _ _ hn, trivial⟩
      (by simp [Sound, Call.failure]) rfl
  | settled h hn ho =>
    exact (ho.replays hw).after (t := [_, _]) ⟨hcontext _ _ h, hactions _ _ _ _ hn, trivial⟩
      (by simp [Sound, Call.failure])
  | @acted _ actions _ env' h hn _ =>
    have ho := sequential_replays.forEach
      (fun s action w hw => (c.runAction_cases s action w).replays hw) actions s (w.withEnv env') hw
    exact ho.after (t := [_, _]) ⟨hcontext _ _ h, hactions _ _ _ _ hn, trivial⟩
      (by simp [Sound, Call.failure])

structure Replayed (c : DeepLoopCoordinator σ) (task : TaskEnvelope) (plan : PlanDocument)
    (o : Outcome (World σ) (Call σ) DeepLoopError DeepLoopRun) : Prop where
  calls : c.Follows task (c.initialState plan) o.trace
  fails : ∀ x ∈ o.trace, ∀ e, x.failure = some e → o.result = .error e
  failed : ∀ e, o.result = .error e → e.Own ∨ ∃ x ∈ o.trace, x.failure = some e
  report : ∀ report, o.result = .ok report →
    report = ((c.initialState plan).replay o.trace).report report.status

lemma Replays.conclude {plan : PlanDocument} {o : Ran σ}
    (h : c.Replays task (c.initialState plan) o) : c.Replayed task plan (o.map conclude) where
  calls := h.calls
  fails x hx e he := by
    have := h.fails x hx e he
    simp [Outcome.map, this, Except.map]
  failed e he := by
    apply h.failed e
    rcases o with ⟨e' | flow, w, t⟩
    · simpa using he
    · simp at he
  report report hr := by
    rcases o with ⟨e' | s' | report', w, t⟩
    · simp at hr
    · have hs : s' = (c.initialState plan).replay t := h.next s' rfl
      simp only [Outcome.map_ok, DeepLoopCoordinator.conclude, Except.ok.injEq] at hr
      rw [← hr, hs]
      rfl
    · have hd := h.done report' rfl
      simp only [Outcome.map_ok, conclude_done, Except.ok.injEq] at hr
      rw [← hr]
      exact hd

lemma Replayed.sound {plan : PlanDocument} {report : DeepLoopRun}
    {o : Outcome (World σ) (Call σ) DeepLoopError DeepLoopRun} (h : c.Replayed task plan o)
    (hr : o.result = .ok report) : Sound o.trace := by
  intro x hx
  by_contra hf
  obtain ⟨e, he⟩ := Option.ne_none_iff_exists'.mp hf
  have := h.fails x hx e he
  rw [hr] at this
  cases this

theorem run_replayed (c : DeepLoopCoordinator σ) (plan : PlanDocument) (w : World σ) :
    c.Replayed w.envelope plan ((c.run plan).run w) := by
  refine run_of_iterations (@sequential_replays σ c w.envelope) iteration_replays ?_ ?_
  · intro e w' t hs
    cases hs with
    | refused _ ha =>
      have hsame : w.envelope.Same w'.envelope := applied_same ha
      exact (replays_refused (s := c.initialState plan) hsame).conclude
  · intro w₁ t o hs ho
    have hsame : w.envelope.Same w₁.envelope := by
      cases hs with
      | skipped _ => exact .refl _
      | started _ ha => exact Core.applyOperation_same ha
    have hsound : Sound t := by
      cases hs with
      | skipped _ => simp [Sound]
      | started _ _ => exact sound_authorised
    refine Replays.conclude (Replays.after (follows_mediating hs.mediating) hsound ?_)
    rw [LoopState.replay_mediating _ hs.mediating]
    exact ho hsame

end DeepLoopCoordinator

end

end GreenticDw

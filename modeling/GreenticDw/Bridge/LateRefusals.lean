import GreenticDw.Bridge.Messages
import GreenticDw.DeepLoop.Budget
import GreenticDw.Invoker.Undelegated

/-! Artifacts the workspace refuses as invalid when the work on a step is already done. -/

namespace GreenticDw

open Text

namespace Call

variable {σ : Type}

def works : Call σ → Bool
  | .tick (.ok _) _ => true
  | .executeStep _ _ _ => true
  | _ => false

def refusesArtifact : Call σ → Bool
  | .createArtifact _ _ (.error (.validation _)) => true
  | _ => false

end Call

/-- No artifact is refused as invalid after a step or a tool was at work. -/
def NeverLate {σ : Type} (t : List (Call σ)) : Prop :=
  t.Pairwise fun x y => x.works = true → y.refusesArtifact = false

instance {σ : Type} (t : List (Call σ)) : Decidable (NeverLate t) :=
  inferInstanceAs (Decidable (t.Pairwise fun x y => x.works = true → y.refusesArtifact = false))

def dispatchEvents {τ : Type} (t : List (BridgeEvent τ)) : List (DispatchEvent τ) :=
  t.filterMap fun
    | .dispatch event => some event
    | .published _ _ _ _ => none

def bridgeCalls {τ : Type} (t : List (BridgeEvent τ)) : List (Call (InvokerEnv τ)) :=
  loopCalls (dispatchEvents t)

namespace Message

variable (msg : Message)

def taskId : String := msg.idempotency.getD "task-unknown"

def Addressed : Prop := isBlank msg.tenant = false ∧ isBlank msg.taskId = false

def Accepted (decode : List UInt8 → Except String RuntimeDispatchRequest)
    (settings : Value → Except String DeepWorkerSettings) : Prop :=
  ∃ req given, decode msg.payload = .ok req ∧ validateOperation req.operation = .ok () ∧
    settingsFromInput settings req.input = .ok given

end Message

section

variable {τ : Type} {invoker : DeepWorkerInvoker τ} {resolved : ResolvedSettings}

lemma stepArtifact_complete {envelope : TaskEnvelope} {s : LoopState} {action : PlannedAction}
    {step : PlanStep} {body : String} (ht : isBlank envelope.scope.tenant = false)
    (hi : isBlank envelope.taskId = false) (hp : isBlank s.plan.planId = false) :
    (stepArtifact envelope s action step body).Complete where
  artifactId := by
    have hprefix : isBlank "artifact://" = false := by decide
    exact isBlank_append_left (isBlank_append_left (isBlank_append_left (isBlank_append_left
      (isBlank_append_left hprefix _) _) _) _) _
  tenant := ht
  session := hi
  run := hp
  title := isBlank_append_left (by decide) step.title

lemma createArtifact_valid {req : CreateArtifactRequest} (hc : req.Complete) {s : InvokerEnv τ}
    {message : String} : (invoker.workspace.createArtifact req s).1 ≠ .error (.validation message) := by
  intro h
  have hv : validateCreateArtifactRequest req = .ok () := validateCreateArtifactRequest_eq_ok.mpr hc
  simp only [DeepWorkerInvoker.workspace, InMemoryWorkspaceProvider,
    InMemoryWorkspace.createArtifact, hv] at h
  split_ifs at h
  · cases h

lemma createArtifact_incomplete {req : CreateArtifactRequest} (hc : ¬req.Complete)
    (s : InvokerEnv τ) :
    ∃ message, invoker.workspace.createArtifact req s = (.error (.validation message), s) := by
  cases hv : validateCreateArtifactRequest req with
  | ok u => exact (hc (validateCreateArtifactRequest_eq_ok.mp hv)).elim
  | error e =>
    have he := isValidation_of_validate hv
    cases e with
    | provider message => exact he.elim
    | validation message =>
      refine ⟨message, ?_⟩
      simp [DeepWorkerInvoker.workspace, InMemoryWorkspaceProvider,
        InMemoryWorkspace.createArtifact, hv]

lemma coordinator_executeAction (w : World (InvokerEnv τ)) :
    ∃ events t, ((invoker.coordinator resolved).executeAction).run w =
      ⟨.ok events, w, t ++ [.tick (.ok events) w.envelope.state]⟩ := by
  obtain ⟨env, ⟨taskId, workerId, state, scope, locale⟩⟩ := w
  refine ⟨[⟨taskId, workerId, .step, state, state⟩],
    [.runtime (.decide ⟨taskId, workerId, state, scope, locale⟩ (.ok (.operation .step)))], ?_⟩
  cases state <;> rfl

lemma validatePlan_planId {plan : PlanDocument} (h : validatePlan plan = .ok ()) :
    isBlank plan.planId = false := by
  simp only [validatePlan, except_bind_eq_ok, rejectIf_eq_ok, Bool.not_eq_true] at h
  obtain ⟨_, h, _⟩ := h
  exact h

lemma guarded_planId (plan : PlanDocument) : (resolved.guarded plan).planId = plan.planId := by
  unfold ResolvedSettings.guarded
  split_ifs <;> rfl

lemma DeepWorkerInvoker.Looped.not_refusesArtifact {envelope : TaskEnvelope} {plan : PlanDocument}
    {w : World (InvokerEnv τ)} {t : List (DispatchEvent τ)}
    (h : invoker.Looped resolved envelope plan w t) (ht : isBlank envelope.scope.tenant = false)
    (hi : isBlank envelope.taskId = false) : ∀ x ∈ loopCalls t, x.refusesArtifact = false := by
  rw [h.calls]
  have hfollows := ((invoker.coordinator resolved).run_replayed (resolved.guarded plan) w).calls
  rw [h.task] at hfollows
  intro x hx
  obtain ⟨pre, post, htrace⟩ := List.append_of_mem hx
  have hfits := hfollows.fits htrace
  rw [htrace, DeepLoopCoordinator.follows_append] at hfollows
  have hframe := hfollows.1.frame fun _ _ => rfl
  cases x with
  | createArtifact moment request answer =>
    obtain ⟨_, _, ⟨action, body, _, hrequest⟩, hanswer⟩ := hfits
    have hplan : isBlank (((invoker.coordinator resolved).initialState
        (resolved.guarded plan)).replay pre).plan.planId = false := by
      rw [hframe.document]
      exact (guarded_planId plan).symm ▸ validatePlan_planId h.valid
    cases answer with
    | ok artifact => rfl
    | error e =>
      cases e with
      | provider message => rfl
      | validation message =>
        rw [hrequest] at hanswer
        exact (createArtifact_valid (stepArtifact_complete ht hi hplan) hanswer).elim
  | _ => rfl

lemma not_neverLate_of_sublist {σ : Type} {t : List (Call σ)} {x y : Call σ}
    (h : List.Sublist [x, y] t) (hx : x.works = true) (hy : y.refusesArtifact = true) :
    ¬NeverLate t := by
  intro hnever
  have := List.pairwise_iff_forall_sublist.mp hnever h hx
  rw [hy] at this
  cases this

lemma neverLate_of_not_refusesArtifact {σ : Type} {t : List (Call σ)}
    (h : ∀ x ∈ t, x.refusesArtifact = false) : NeverLate t :=
  List.pairwise_of_forall_mem_list fun _ _ y hy _ => h y hy

end

section

variable {τ : Type} (bridge : OperalaBridge τ) {msg : Message} {host : τ}

lemma dispatchEvents_append (t u : List (BridgeEvent τ)) :
    dispatchEvents (t ++ u) = dispatchEvents t ++ dispatchEvents u :=
  List.filterMap_append ..

lemma dispatchEvents_dispatch (t : List (DispatchEvent τ)) :
    dispatchEvents (t.map BridgeEvent.dispatch) = t := by
  rw [dispatchEvents, List.filterMap_map]
  exact List.filterMap_some

lemma bridgeCalls_undecodable {message : String} (h : bridge.decode msg.payload = .error message) :
    bridgeCalls ((bridge.handleMessage msg).run host).trace = [] := by
  simp [OperalaBridge.handleMessage, h, Except.mapError, bridgeCalls, dispatchEvents, loopCalls]

lemma bridgeCalls_decoded {req : RuntimeDispatchRequest}
    (h : bridge.decode msg.payload = .ok req) :
    bridgeCalls ((bridge.handleMessage msg).run host).trace =
      loopCalls ((bridge.invoker.invoke msg.tenant msg.env req.target req.operation req.input
        msg.idempotency).run host).trace := by
  simp only [OperalaBridge.handleMessage, OperalaBridge.buildResponse, h, Except.mapError,
    Traced.run_bind, Traced.run_ofExcept, Traced.andThen_ok, Traced.run_attempt, Traced.run_relabel,
    Traced.run_pure, Traced.run_mapError, Traced.run_ask, Outcome.after_mk, bridgeCalls,
    List.append_nil, List.nil_append, dispatchEvents_append, dispatchEvents_dispatch]
  simp [dispatchEvents]

lemma loopCalls_unsupported (invoker : DeepWorkerInvoker τ) {tenant env target operation : String}
    {input : Value} {idempotencyKey : Option String} {e : InvokeError}
    (h : validateOperation operation = .error e) :
    loopCalls ((invoker.invoke tenant env target operation input idempotencyKey).run host).trace =
      [] := by
  simp [DeepWorkerInvoker.invoke, h, loopCalls]

lemma neverLate_of_addressed
    (h : msg.Accepted bridge.decode bridge.invoker.codecs.settings → msg.Addressed) :
    NeverLate (bridgeCalls ((bridge.handleMessage msg).run host).trace) := by
  have hnil : ∀ {t : List (Call (InvokerEnv τ))}, t = [] → NeverLate t := by
    rintro _ rfl
    exact .nil
  cases hd : bridge.decode msg.payload with
  | error message => exact hnil (bridgeCalls_undecodable bridge hd)
  | ok req =>
  rw [bridgeCalls_decoded bridge hd]
  cases ho : validateOperation req.operation with
  | error e => exact hnil (loopCalls_unsupported bridge.invoker ho)
  | ok u =>
  have hcases := bridge.invoker.invoke_cases msg.tenant msg.env req.target req.operation req.input
    msg.idempotency host
  generalize (bridge.invoker.invoke msg.tenant msg.env req.target req.operation req.input
    msg.idempotency).run host = o at hcases ⊢
  cases hcases with
  | refused _ ht => exact hnil ht
  | failed hs hl _ =>
    obtain ⟨htenant, htask⟩ := h ⟨req, _, hd, ho, hs⟩
    exact neverLate_of_not_refusesArtifact (hl.not_refusesArtifact htenant htask)
  | answered hs hl _ =>
    obtain ⟨htenant, htask⟩ := h ⟨req, _, hd, ho, hs⟩
    exact neverLate_of_not_refusesArtifact (hl.not_refusesArtifact htenant htask)

end

section

variable {τ : Type} (invoker : DeepWorkerInvoker τ)

lemma loopCalls_invoke {tenant env target operation : String} {input : Value}
    {idempotencyKey : Option String} {host : τ} {settings : Option DeepWorkerSettings}
    (ho : validateOperation operation = .ok ())
    (hs : settingsFromInput invoker.codecs.settings input = .ok settings) :
    loopCalls ((invoker.invoke tenant env target operation input idempotencyKey).run host).trace =
      loopCalls ((invoker.work (.resolve settings) (extractGoal input)).run ⟨.fresh host,
        buildEnvelope tenant target (idempotencyKey.getD "task-unknown")⟩).trace := by
  simp only [DeepWorkerInvoker.invoke, ho, hs, Traced.run_bind, Traced.run_ofExcept,
    Traced.andThen_ok, Traced.run_within, Outcome.after_nil]
  rcases (invoker.work (.resolve settings) (extractGoal input)).run _ with ⟨e | ⟨run, outputs⟩, w, t⟩
  · rfl
  · simp only [synthesizeReply, Traced.run_bind, Traced.run_answer, Traced.andThen_ok,
      Traced.run_pure, Outcome.after_mk, loopCalls_append]
    exact List.append_nil _

end

namespace DeepLoopCoordinator

section

variable {σ : Type} {c : DeepLoopCoordinator σ} {s : LoopState} {action : PlannedAction}
  {step : PlanStep} {w : World σ} {env env' : σ}

lemma runAction_refused {package : ContextPackage} {events : List RuntimeEvent}
    {t : List (Call σ)} {e : WorkspaceError}
    (hfind : s.plan.steps.find? (fun step => step.stepId = action.stepId) = some step)
    (hkind : step.kind ≠ .delegate) (hexecutor : c.executor = none)
    (hcontext : c.context.buildContext (contextRequest step.title step.stepId) w.env =
      (.ok package, env))
    (htick : c.executeAction.run (w.withEnv env) = ⟨.ok events, w.withEnv env, t⟩)
    (hrefused : c.workspace.createArtifact
      (stepArtifact w.envelope s action step (placeholderBody step)) env = (.error e, env')) :
    (c.runAction s action).run w = ⟨.error (.workspace e), w.withEnv env',
      .buildContext (contextRequest step.title step.stepId) (.ok package) ::
        (t ++ [.createArtifact ⟨s.plan, step, w.withEnv env⟩
          (stepArtifact w.envelope s action step (placeholderBody step)) (.error e)])⟩ := by
  have hexecute : (c.executeStep s action step (rendered package)).run (w.withEnv env) =
      ⟨.error (.workspace e), w.withEnv env',
        t ++ [.createArtifact ⟨s.plan, step, w.withEnv env⟩
          (stepArtifact w.envelope s action step (placeholderBody step)) (.error e)]⟩ := by
    simp [executeStep, produceBody, createArtifact, hexecutor, htick, hrefused, Except.mapError]
  cases hk : step.kind <;>
    first
    | exact absurd hk hkind
    | simp [runAction, hfind, renderedContext, hcontext, hk, hexecute, Except.mapError]

lemma runIteration_acted {i : ℕ} {package : ContextPackage} {e : DeepLoopError}
    {t : List (Call σ)} {w' : World σ} {env₁ : σ}
    (hcontext : c.context.buildContext (contextRequest s.plan.goal s.plan.planId) w.env =
      (.ok package, env))
    (hnext : c.planner.nextActions ⟨s.plan, rendered package⟩ env = (.ok [action], env₁))
    (hact : (c.runAction s action).run (w.withEnv env₁) = ⟨.error e, w', t⟩) :
    (c.runIteration s i).run w = ⟨.error e, w',
      [.buildContext (contextRequest s.plan.goal s.plan.planId) (.ok package),
        .nextActions ⟨s.plan, rendered package⟩ (.ok [action])] ++ t⟩ := by
  simp [runIteration, renderedContext, hcontext, hnext, Except.mapError,
    Traced.run_forEach_error [] hact]

lemma run_firstIteration {plan : PlanDocument} {e : DeepLoopError} {t u : List (Call σ)}
    {w₁ w' : World σ} (hn : 0 < c.maxIterations) (hstart : c.startTask.run w = ⟨.ok (), w₁, t⟩)
    (hiteration : (c.runIteration (c.initialState plan) 0).run w₁ = ⟨.error e, w', u⟩) :
    (c.run plan).run w = ⟨.error e, w', t ++ u⟩ := by
  obtain ⟨n, hn⟩ := Nat.exists_eq_succ_of_ne_zero hn.ne'
  have hrange : List.range c.maxIterations = 0 :: (List.range n).map Nat.succ := by
    rw [hn, List.range_succ_eq_map]
  simp [run, hstart, hrange, Traced.run_forEach_error _ hiteration]

end

end DeepLoopCoordinator

namespace Script

def readingInvoker (settings : Value → Except String DeepWorkerSettings) :
    DeepWorkerInvoker (List String) :=
  { invoker with codecs := { invoker.codecs with settings } }

lemma decode_planText :
    invoker.codecs.planning.plan.decode (Llm.extractJson (planText "ready")) = .ok onePlan := by
  decide +kernel

lemma decode_reply :
    invoker.codecs.planning.actions.decode (Llm.extractJson (reply "a")) = .ok [⟨"a", "go"⟩] := by
  decide +kernel

section

variable (settings : Value → Except String DeepWorkerSettings)

lemma readingInvoker_chat {env : InvokerEnv (List String)} {text : String} {texts : List String}
    (h : env.host = text :: texts) (request : ChatRequest) :
    (readingInvoker settings).model.chat request env =
      (.ok ⟨text, []⟩, { env with host := texts }) := by
  change (Cell.through InvokerEnv.hostCell (llm.chat request)) env = _
  simp only [Cell.through, InvokerEnv.hostCell, llm, h]

lemma readingInvoker_createPlan (request : CreatePlanRequest) {env : InvokerEnv (List String)}
    {texts : List String} (h : env.host = planText "ready" :: texts) :
    (readingInvoker settings).planner.createPlan request env =
      (.ok onePlan, { env with host := texts }) := by
  have hvalid : validatePlan onePlan = .ok () := by decide +kernel
  have hcodecs : (readingInvoker settings).codecs.planning = invoker.codecs.planning := rfl
  rw [DeepWorkerInvoker.planner, hcodecs]
  exact LlmPlanning.createPlan_reply (readingInvoker_chat settings h) decode_planText hvalid

lemma readingInvoker_nextActions (context : Option String) {env : InvokerEnv (List String)}
    {texts : List String} (h : env.host = reply "a" :: texts) :
    (readingInvoker settings).planner.nextActions ⟨onePlan, context⟩ env =
      (.ok [⟨"a", "go"⟩], { env with host := texts }) := by
  have hchecked : LlmPlanning.checkActions onePlan [⟨"a", "go"⟩] = .ok [⟨"a", "go"⟩] := by
    decide +kernel
  have hcodecs : (readingInvoker settings).codecs.planning = invoker.codecs.planning := rfl
  rw [← hchecked, DeepWorkerInvoker.planner, hcodecs]
  exact LlmPlanning.nextActions_reply (readingInvoker_chat settings h) decode_reply

lemma readingInvoker_buildContext (resolved : ResolvedSettings) (query : String) {ref : String}
    (h : isBlank ref = false) (env : InvokerEnv (List String)) :
    ∃ package env', ((readingInvoker settings).coordinator resolved).context.buildContext
      (contextRequest query ref) env = (.ok package, env') ∧ env'.host = env.host := by
  set package : ContextPackage :=
    ⟨"context-" ++ toString env.contextIds, LlmContext.fragments (contextRequest query ref),
      ⟨8, 16384⟩⟩ with hpackage
  have hfragments : package.fragments = [LlmContext.fragment ref 0] := rfl
  have hid : isBlank package.packageId = false := isBlank_append_left (by decide) _
  have hfragment : isBlank (LlmContext.fragment ref 0).fragmentId = false :=
    isBlank_append_left (by decide) _
  have hcontent : isBlank (LlmContext.fragment ref 0).contentRef = false := h
  have hprovenance : isBlank (LlmContext.fragment ref 0).provenance = false := by
    change isBlank "build_context" = false
    decide
  have hcount : ¬package.budget.maxFragments < UInt32.ofNat package.fragments.length := by
    rw [hfragments]
    change ¬(8 : UInt32) < UInt32.ofNat 1
    decide
  have hvalid : validateContextPackage package = .ok () := by
    simp only [validateContextPackage, hfragments, validateFragments, except_bind_eq_ok,
      rejectIf_eq_ok]
    refine ⟨(), by simp [hid], (), by simp [hpackage], (), by simp [hpackage], (), ?_, (), ?_, (),
      by simp, rfl⟩
    · rwa [hfragments] at hcount
    · simp [hfragment, hcontent, hprovenance]
  refine ⟨package, { env with contextIds := env.contextIds + 1 }, ?_, rfl⟩
  change ((validateContextPackage package).map fun _ => package, _) = _
  rw [hvalid]
  rfl

lemma readingInvoker_run {resolved : ResolvedSettings} (hn : 0 < resolved.maxIterations)
    {tenant target taskId : String} (h : isBlank tenant = true ∨ isBlank taskId = true)
    {env : InvokerEnv (List String)} {texts : List String} (henv : env.host = reply "a" :: texts) :
    ¬NeverLate ((((readingInvoker settings).coordinator resolved).run onePlan).run
      ⟨env, buildEnvelope tenant target taskId⟩).trace := by
  have hplan : isBlank "plan" = false := by decide
  have hstep : isBlank "a" = false := by decide
  set c := (readingInvoker settings).coordinator resolved
  set s := c.initialState onePlan
  set started : TaskEnvelope := { buildEnvelope tenant target taskId with state := .running }
  obtain ⟨t₀, hstart⟩ : ∃ t, c.startTask.run ⟨env, buildEnvelope tenant target taskId⟩ =
      ⟨.ok (), ⟨env, started⟩, t⟩ := ⟨_, rfl⟩
  obtain ⟨package, env₁, hcontext, hhost⟩ : ∃ package env', c.context.buildContext
      (contextRequest s.plan.goal s.plan.planId) env = (.ok package, env') ∧ env'.host = env.host :=
    readingInvoker_buildContext settings resolved "goal" hplan env
  have hnext : c.planner.nextActions ⟨s.plan, rendered package⟩ env₁ =
      (.ok [⟨"a", "go"⟩], { env₁ with host := texts }) :=
    readingInvoker_nextActions settings _ (hhost.trans henv)
  obtain ⟨package', env₂, hcontext', _⟩ : ∃ package env', c.context.buildContext
      (contextRequest "a" "a") { env₁ with host := texts } = (.ok package, env') ∧
        env'.host = texts :=
    readingInvoker_buildContext settings resolved "a" hstep _
  obtain ⟨events, t, htick⟩ : ∃ events t, c.executeAction.run ⟨env₂, started⟩ =
      ⟨.ok events, ⟨env₂, started⟩, t ++ [.tick (.ok events) .running]⟩ :=
    coordinator_executeAction _
  set request := stepArtifact started s ⟨"a", "go"⟩ (step "a" .toolCall .ready [])
    (placeholderBody (step "a" .toolCall .ready []))
  have hrequest : ¬request.Complete := by
    intro hcomplete
    have htenant : isBlank tenant = false := hcomplete.tenant
    have hsession : isBlank taskId = false := hcomplete.session
    rcases h with h | h
    · exact Bool.eq_false_iff.mp htenant h
    · exact Bool.eq_false_iff.mp hsession h
  obtain ⟨message, hrefused⟩ : ∃ message, c.workspace.createArtifact request env₂ =
      (.error (.validation message), env₂) := createArtifact_incomplete hrequest env₂
  have hfind : s.plan.steps.find? (fun step => step.stepId = "a") =
      some (step "a" .toolCall .ready []) := rfl
  have hkind : (step "a" .toolCall .ready []).kind ≠ .delegate := by simp [step]
  have hexecutor : c.executor = none := rfl
  have hact : (c.runAction s ⟨"a", "go"⟩).run ⟨{ env₁ with host := texts }, started⟩ =
      ⟨.error (.workspace (.validation message)), ⟨env₂, started⟩,
        .buildContext (contextRequest "a" "a") (.ok package') ::
          (t ++ [.tick (.ok events) .running] ++ [.createArtifact
            ⟨s.plan, step "a" .toolCall .ready [], ⟨env₂, started⟩⟩ request
              (.error (.validation message))])⟩ :=
    DeepLoopCoordinator.runAction_refused hfind hkind hexecutor hcontext' htick hrefused
  have hiteration := DeepLoopCoordinator.runIteration_acted (i := 0) (w := ⟨env, started⟩)
    hcontext hnext hact
  rw [DeepLoopCoordinator.run_firstIteration hn hstart hiteration]
  refine not_neverLate_of_sublist (x := .tick (.ok events) .running)
    (y := .createArtifact ⟨s.plan, step "a" .toolCall .ready [], ⟨env₂, started⟩⟩ request
      (.error (.validation message))) ?_ rfl rfl
  refine List.Sublist.trans ?_ ((List.sublist_append_right _ _).trans (List.sublist_append_right _ _))
  apply List.Sublist.cons _
  rw [List.append_assoc]
  exact List.sublist_append_right t _

def bridge (decode : List UInt8 → Except String RuntimeDispatchRequest) :
    OperalaBridge (List String) where
  invoker := readingInvoker settings
  decode := decode
  errorText _ := "validation error"
  publish _ _ _ host := (.ok (), host)

lemma bridge_late {decode : List UInt8 → Except String RuntimeDispatchRequest} {msg : Message}
    (hmsg : msg.Accepted decode settings) (h : ¬msg.Addressed) :
    ¬NeverLate (bridgeCalls
      (((bridge settings decode).handleMessage msg).run [planText "ready", reply "a"]).trace) := by
  obtain ⟨req, given, hd, ho, hs⟩ := hmsg
  have hincomplete : isBlank msg.tenant = true ∨ isBlank msg.taskId = true := by
    rw [Message.Addressed, not_and_or, Bool.not_eq_false, Bool.not_eq_false] at h
    exact h
  have hpositive : 0 < (ResolvedSettings.resolve given).maxIterations := by
    cases given with
    | none => decide
    | some given =>
      have hone : ∀ n : UInt32, 1 ≤ max n 1 := by
        intro n
        change 1 ≤ if n ≤ 1 then (1 : UInt32) else n
        split_ifs with hn
        · exact UInt32.le_refl 1
        · rw [UInt32.le_iff_toNat_le] at hn ⊢
          omega
      exact Nat.lt_of_lt_of_le Nat.zero_lt_one (UInt32.le_iff_toNat_le.mp (hone _))
  have hguarded : (ResolvedSettings.resolve given).guarded onePlan = onePlan := by
    unfold ResolvedSettings.guarded
    split_ifs <;> rfl
  have hcalls : bridgeCalls
      (((bridge settings decode).handleMessage msg).run [planText "ready", reply "a"]).trace =
        ((((readingInvoker settings).coordinator (.resolve given)).run onePlan).run
          ⟨{ InvokerEnv.fresh [planText "ready", reply "a"] with host := [reply "a"] },
            buildEnvelope msg.tenant req.target msg.taskId⟩).trace := by
    have hplan := readingInvoker_createPlan settings (planRequest (extractGoal req.input)
      (ResolvedSettings.resolve given).delegation
        ((readingInvoker settings).activeTools.map Prod.snd))
      (rfl : (InvokerEnv.fresh [planText "ready", reply "a"]).host = [planText "ready", reply "a"])
    have hwork := DeepWorkerInvoker.loopCalls_work (w := ⟨.fresh [planText "ready", reply "a"],
      buildEnvelope msg.tenant req.target msg.taskId⟩) hplan
    rw [hguarded] at hwork
    exact (bridgeCalls_decoded (bridge settings decode) hd).trans
      ((loopCalls_invoke (readingInvoker settings) ho hs).trans hwork)
  rw [hcalls]
  exact readingInvoker_run settings hpositive hincomplete rfl

end

end Script

theorem late_refusals (decode : List UInt8 → Except String RuntimeDispatchRequest)
    (settings : Value → Except String DeepWorkerSettings) (msg : Message) :
    (∀ (τ : Type) (bridge : OperalaBridge τ) (host : τ), bridge.decode = decode →
      bridge.invoker.codecs.settings = settings →
        NeverLate (bridgeCalls ((bridge.handleMessage msg).run host).trace)) ↔
      (msg.Accepted decode settings → msg.Addressed) := by
  constructor
  · intro h hmsg
    by_contra hno
    exact Script.bridge_late settings hmsg hno (h _ _ _ rfl rfl)
  · rintro h τ bridge host rfl rfl
    exact neverLate_of_addressed bridge h

namespace Script

def payloadText : String :=
  "\x7b\"target\":\"worker\",\"operation\":\"\",\"mode\":\"await\",\"input\":\x7b\x7d," ++
    "\"deadline_ms\":null\x7d"

def untenanted : Message where
  headers := some [("Greentic-Correlation-Id", "corr-1")]
  payload := payloadText.toUTF8.toList

def toolBridge : OperalaBridge (List ChatResponse) where
  invoker :=
    { llm :=
        { toolsSupported := true
          chat := fun _ replies =>
            match replies with
            | [] => (.error ⟨"no reply left"⟩, [])
            | response :: replies => (.ok response, replies) }
      tools := some ⟨[⟨"lookup", "finds an order", .object []⟩], fun _ _ s => (.ok (.string "paid"), s)⟩
      codecs := invoker.codecs
      clock := fun s => ("2026-01-01T00:00:00Z", s)
      blake3Hex := invoker.blake3Hex }
  decode bytes :=
    if bytes = payloadText.toUTF8.toList then .ok ⟨"worker", "", .await, .object [], none⟩
    else .error "EOF while parsing a value at line 1 column 0"
  errorText _ := "validation error: scope tenant must not be empty"
  publish _ _ _ host := (.ok (), host)

def toolReplies : List ChatResponse :=
  [⟨planText "ready", []⟩, ⟨reply "a", []⟩, ⟨"", [⟨"call-1", "lookup", .object []⟩]⟩, ⟨"paid", []⟩]

end Script

theorem refused_after_tool_call :
    (∃ x ∈ bridgeCalls ((Script.toolBridge.handleMessage Script.untenanted).run
      Script.toolReplies).trace, x.charge = 1) ∧
    ¬NeverLate (bridgeCalls ((Script.toolBridge.handleMessage Script.untenanted).run
      Script.toolReplies).trace) := by
  decide +kernel

end GreenticDw

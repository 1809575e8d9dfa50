import GreenticDw.Invoker.Reliance

/-! Dispatches that complete. Of what a worker without delegation is made of, only its model can keep
it from working off a plan. -/

namespace GreenticDw

open Text (isBlank)

section

variable {σ S : Type} {part : σ → S} {llm : LlmProvider σ}

def LlmProvider.LeavesAlone (llm : LlmProvider σ) (part : σ → S) : Prop :=
  ∀ request s, part (llm.chat request s).2 = part s

lemma completeJson_leaves {α ε : Type} (h : llm.LeavesAlone part) (codec : Codec α)
    (subject : String) (wrap : String → ε) (system user : String) (s : σ) :
    part (Llm.completeJson llm codec subject wrap system user s).2 = part s := by
  have hchat := h (Llm.completionRequest system user) s
  unfold Llm.completeJson
  rcases hr : llm.chat (Llm.completionRequest system user) s with ⟨e | response, s'⟩
  · rw [hr] at hchat
    exact hchat
  · rw [hr] at hchat
    cases hd : codec.decode (Llm.extractJson response.content) <;> simpa [hd] using hchat

lemma nextActions_leaves (h : llm.LeavesAlone part) (codecs : PlanningCodecs)
    (req : NextActionsRequest) (s : σ) :
    part (LlmPlanning.nextActions llm codecs req s).2 = part s := by
  have hjson := completeJson_leaves h codecs.actions "planner" PlanningError.provider
    (LlmPlanning.systemForNextActions codecs) (LlmPlanning.userForNextActions codecs req) s
  unfold LlmPlanning.nextActions
  split <;> rename_i hr <;> rw [hr] at hjson <;> exact hjson

lemma createPlan_leaves (h : llm.LeavesAlone part) (codecs : PlanningCodecs)
    (req : CreatePlanRequest) (s : σ) :
    part (LlmPlanning.createPlan llm codecs req s).2 = part s := by
  have hjson := completeJson_leaves h codecs.plan "planner" PlanningError.provider
    (LlmPlanning.systemForCreatePlan codecs) (LlmPlanning.userForCreatePlan codecs req) s
  unfold LlmPlanning.createPlan
  split <;> rename_i hr <;> rw [hr] at hjson <;> exact hjson

lemma review_leaves (h : llm.LeavesAlone part) (codecs : ReflectionCodecs) (system user : String)
    (s : σ) : part (LlmReflection.review llm codecs system user s).2 = part s := by
  have hjson := completeJson_leaves h codecs.outcome "reflection" ReflectionError.provider system
    user s
  unfold LlmReflection.review
  split <;> rename_i hr <;> rw [hr] at hjson <;> exact hjson

lemma chooseDelegate_leaves (h : llm.LeavesAlone part) (codecs : DelegationCodecs)
    (req : DelegationRequest) (s : σ) :
    part (LlmDelegation.chooseDelegate llm codecs req s).2 = part s := by
  have hjson := completeJson_leaves h codecs.decision "delegation" DelegationError.provider
    (LlmDelegation.systemForChooseDelegate codecs) (Llm.toStringPretty codecs.request req) s
  unfold LlmDelegation.chooseDelegate
  split <;> rename_i hr <;> rw [hr] at hjson <;> exact hjson

end

namespace LlmToolStepExecutor

variable {σ S : Type} {part : σ → S} {executor : LlmToolStepExecutor σ}

structure LeavesAlone (executor : LlmToolStepExecutor σ) (part : σ → S) : Prop where
  llm : executor.llm.LeavesAlone part
  tools : ∀ name arguments s, part (executor.tools.call name arguments s).2 = part s
  cache : ∀ cache s, part (executor.cache.write cache s) = part s

def untouched (part : σ → S) : Ledger σ ToolEvent S := ⟨part, fun s _ => s, fun _ _ => True⟩

lemma LeavesAlone.resolveCall (h : executor.LeavesAlone part) (call : ToolCall)
    (used maxToolCalls : ℕ) :
    (untouched part).Kept (executor.resolveCall call used maxToolCalls) := by
  apply Ledger.kept_get.bind
  intro s
  split
  · exact Ledger.kept_pure _
  · split_ifs
    · exact Ledger.kept_pure _
    · apply (Ledger.kept_answer (fun _ => trivial) fun s => h.tools _ _ s).bind
      intro answer
      cases answer with
      | ok value => exact (Ledger.kept_modify fun s => h.cache _ s).bind fun _ => Ledger.kept_pure _
      | error error => exact Ledger.kept_pure _

lemma LeavesAlone.resolveCalls (h : executor.LeavesAlone part) (maxToolCalls : ℕ)
    (calls : List ToolCall) (p : StepProgress) :
    (untouched part).Kept (executor.resolveCalls maxToolCalls p calls) := by
  induction calls generalizing p with
  | nil => exact Ledger.kept_pure _
  | cons call calls ih => exact (h.resolveCall call p.used maxToolCalls).bind fun _ => ih _

lemma LeavesAlone.chat (h : executor.LeavesAlone part) (request : ChatRequest) :
    (untouched part).Kept (executor.chat request) :=
  (Ledger.kept_ask (fun _ => trivial) fun s => h.llm request s).mapError _

lemma LeavesAlone.toolRounds (h : executor.LeavesAlone part) (request : ExecuteStepRequest)
    (left : ℕ) (p : StepProgress) : (untouched part).Kept (executor.toolRounds request left p) := by
  induction left generalizing p with
  | zero => exact (h.chat _).bind fun _ => Ledger.kept_pure _
  | succ left ih =>
    apply (h.chat _).bind
    intro response
    split_ifs
    · exact Ledger.kept_pure _
    · exact (h.resolveCalls _ _ _).bind fun p => ih p

lemma LeavesAlone.executeStep (h : executor.LeavesAlone part) (request : ExecuteStepRequest)
    (s : σ) : part (executor.stepExecutor.executeStep request s).2 = part s := by
  have hkept : part ((executor.executeStep request).run s).world = _ :=
    (h.toolRounds request _ _ s).2
  have hstill : ∀ (t : List ToolEvent) (a : S), t.foldl (untouched part).observe a = a := by
    intro t
    induction t with
    | nil => exact fun _ => rfl
    | cons _ t ih => exact ih
  rw [hstill] at hkept
  exact hkept

end LlmToolStepExecutor

namespace DeepWorkerInvoker

open DeepLoopCoordinator

variable {τ : Type} (invoker : DeepWorkerInvoker τ) (resolved : ResolvedSettings)

lemma shares : (invoker.coordinator resolved).Shares
    ⟨InvokerEnv.artifactsCell, InvokerEnv.hostCell.through invoker.clock, invoker.blake3Hex⟩ := by
  have hmodel : invoker.model.LeavesAlone fun env =>
      InMemoryWorkspace.ids ⟨InvokerEnv.artifactsCell, InvokerEnv.hostCell.through invoker.clock,
        invoker.blake3Hex⟩ env := fun _ _ => rfl
  refine ⟨rfl, fun _ => rfl, ?_⟩
  exact {
    runtime := ⟨fun _ _ => rfl, by simp [coordinator], by simp [coordinator], by simp [coordinator],
      by simp [coordinator]⟩
    nextActions := nextActions_leaves hmodel _
    evaluateCompletion := fun _ _ => rfl
    recordStepResult := fun _ _ => rfl
    revisePlan := fun _ _ => completeJson_leaves hmodel ..
    buildContext := fun _ _ => rfl
    reviewStep := by
      intro req s
      cases hr : resolved.reflection <;> cases hd : resolved.delegation <;>
        simp only [coordinator, reflector, hr, hd]
      · rfl
      · rfl
      · exact review_leaves hmodel ..
      · exact review_leaves hmodel ..
    reviewFinal := by
      intro req s
      cases hr : resolved.reflection <;> cases hd : resolved.delegation <;>
        simp only [coordinator, reflector, hr, hd]
      · rfl
      · rfl
      · exact review_leaves hmodel ..
      · exact review_leaves hmodel ..
    chooseDelegate := by
      intro req s
      cases hd : resolved.delegation <;> simp only [coordinator, delegator, hd]
      · rfl
      · exact chooseDelegate_leaves hmodel ..
    startSubtask := by
      intro req s
      cases hd : resolved.delegation <;> simp only [coordinator, delegator, hd] <;> rfl
    executeStep := by
      intro executor hx req s
      obtain ⟨inner, hinner, rfl⟩ := Option.map_eq_some_iff.mp hx
      obtain ⟨⟨tools, specs⟩, _, rfl⟩ := Option.map_eq_some_iff.mp hinner
      exact LlmToolStepExecutor.LeavesAlone.executeStep
        ⟨hmodel, fun _ _ _ => rfl, fun _ _ => rfl⟩ req s }

lemma buildContext_ok {σ : Type} (counter : Cell σ UInt64) (query : String) {ref : String}
    (href : isBlank ref = false) (s : σ) :
    (LlmContext.buildContext counter (contextRequest query ref) s).1 =
      .ok ⟨"context-" ++ toString (counter.read s), [LlmContext.fragment ref 0], ⟨8, 16384⟩⟩ := by
  have hfragments : LlmContext.fragments (contextRequest query ref) = [LlmContext.fragment ref 0] :=
    rfl
  have hid : isBlank ("context-" ++ toString (counter.read s)) = false :=
    Text.isBlank_append_left (by decide) _
  have hfragment : isBlank (LlmContext.fragment ref 0).fragmentId = false :=
    Text.isBlank_append_left (by decide) _
  have hprovenance : isBlank (LlmContext.fragment ref 0).provenance = false :=
    (by decide : isBlank "build_context" = false)
  have href : isBlank (LlmContext.fragment ref 0).contentRef = false := href
  have hvalid : validateContextPackage ⟨"context-" ++ toString (counter.read s),
      [LlmContext.fragment ref 0], ⟨8, 16384⟩⟩ = .ok () := by
    simp [validateContextPackage, validateFragments, hid, hfragment, hprovenance, href, rejectIf]
  unfold LlmContext.buildContext
  dsimp only
  rw [hfragments, show (contextRequest query ref).budget = ⟨8, 16384⟩ from rfl, hvalid, Except.map]

lemma serves : (invoker.coordinator resolved).Serves where
  permissive :=
    { hooks := by simp [coordinator]
      store := by simp [coordinator]
      engine := by
        intro envelope s decision hd
        simp only [coordinator, StaticEngine, StaticEngine.validateDecision, Except.map,
          Except.ok.injEq] at hd
        exact .inr hd.symm }
  decides _ _ := ⟨_, rfl⟩
  context query ref _ href := ⟨_, buildContext_ok _ query href _⟩

lemma plansItself : (invoker.coordinator resolved).PlansItself :=
  llmPlanner_plansItself (invoker.coordinator resolved) invoker.model invoker.codecs.planning

section

variable {plan : PlanDocument}

lemma stripDelegate_title (step : PlanStep) : (stripDelegate step).title = step.title := by
  unfold stripDelegate
  split_ifs <;> rfl

lemma stripDelegate_dependsOn (step : PlanStep) :
    (stripDelegate step).dependsOn = step.dependsOn := by
  unfold stripDelegate
  split_ifs <;> rfl

lemma validateSteps_stripDelegate (stepIds : List String) (steps : List PlanStep) :
    validateSteps stepIds (steps.map stripDelegate) = validateSteps stepIds steps := by
  induction steps generalizing stepIds with
  | nil => rfl
  | cons step steps ih =>
    simp only [List.map_cons, validateSteps, stripDelegate_stepId, stripDelegate_title,
      stripDelegate_dependsOn, ih]

lemma validateReferences_stripDelegate (stepIds : List String) (steps : List PlanStep) :
    validateReferences stepIds (steps.map stripDelegate) = validateReferences stepIds steps := by
  induction steps with
  | nil => rfl
  | cons step steps ih =>
    simp only [List.map_cons, validateReferences, stripDelegate_stepId, stripDelegate_dependsOn, ih]

lemma dependsOn_stripDelegateSteps : (stripDelegateSteps plan).DependsOn = plan.DependsOn := by
  funext x y
  apply propext
  unfold PlanDocument.DependsOn WaitsFor stripDelegateSteps
  constructor
  · rintro ⟨_, hm, rfl, hy⟩
    obtain ⟨step, hstep, rfl⟩ := List.mem_map.mp hm
    rw [stripDelegate_dependsOn] at hy
    exact ⟨step, hstep, (stripDelegate_stepId step).symm, hy⟩
  · rintro ⟨step, hm, rfl, hy⟩
    refine ⟨_, List.mem_map_of_mem hm, stripDelegate_stepId step, ?_⟩
    rwa [stripDelegate_dependsOn]

lemma guarded_workable (h : plan.Workable) : (resolved.guarded plan).Workable := by
  unfold ResolvedSettings.guarded
  split_ifs
  · exact h
  refine ⟨?_, ?_, ?_, ?_⟩
  · rw [← h.valid]
    unfold validatePlan stripDelegateSteps
    simp only [validateSteps_stripDelegate, validateReferences_stripDelegate]
  · rw [PlanDocument.NoCycle, dependsOn_stripDelegateSteps]
    exact h.acyclic
  · refine List.forall_mem_map.mpr fun step hm => ?_
    rw [stripDelegate_status]
    exact h.startable.statuses step hm
  · refine h.startable.start.imp ?_ fun hall => List.forall_mem_map.mpr fun step hm => ?_
    · rintro ⟨step, hm, hready⟩
      exact ⟨_, List.mem_map_of_mem hm, (stripDelegate_status step).trans hready⟩
    · rw [stripDelegate_status]
      exact hall step hm

lemma guarded_unfinished : (resolved.guarded plan).unfinished.length = plan.unfinished.length := by
  unfold ResolvedSettings.guarded
  split_ifs
  · rfl
  · simp only [PlanDocument.unfinished, stripDelegateSteps, List.filter_map, List.length_map,
      Function.comp_def, stripDelegate_status]

end

section

variable {invoker : DeepWorkerInvoker τ} {resolved : ResolvedSettings} {goal : String}
  {plan : PlanDocument} {w : World (InvokerEnv τ)}

lemma work_planned (h : createdPlans ((invoker.work resolved goal).run w).trace = [plan]) :
    ∃ s, invoker.planner.createPlan (planRequest goal resolved.delegation
      (invoker.activeTools.map Prod.snd)) w.env = (.ok plan, s) := by
  rcases hp : invoker.planner.createPlan (planRequest goal resolved.delegation
    (invoker.activeTools.map Prod.snd)) w.env with ⟨e | plan', s⟩
  · have htrace : ((invoker.work resolved goal).run w).trace =
        [.createPlan (planRequest goal resolved.delegation (invoker.activeTools.map Prod.snd))
          (.error e)] := by
      simp [work, hp, Except.mapError]
    rw [htrace] at h
    cases h
  · obtain ⟨t, htrace⟩ : ∃ t, ((invoker.work resolved goal).run w).trace =
        .createPlan (planRequest goal resolved.delegation (invoker.activeTools.map Prod.snd))
          (.ok plan') :: t := by
      simp [work, hp, Except.mapError]
    rw [htrace, createdPlans_createPlan] at h
    obtain ⟨rfl, _⟩ := List.cons.inj h
    exact ⟨s, rfl⟩

lemma work_ran {s : InvokerEnv τ} {report : DeepLoopRun}
    (hp : invoker.planner.createPlan (planRequest goal resolved.delegation
      (invoker.activeTools.map Prod.snd)) w.env = (.ok plan, s))
    (hr : (((invoker.coordinator resolved).run (resolved.guarded plan)).run (w.withEnv s)).result =
      .ok report) :
    ∃ outputs, ((invoker.work resolved goal).run w).result = .ok (report, outputs) := by
  rcases hrun : ((invoker.coordinator resolved).run (resolved.guarded plan)).run (w.withEnv s) with
    ⟨_, w', t⟩
  rw [hrun] at hr
  cases hr
  obtain ⟨outputs, hout⟩ := @stepOutputs_ok _ invoker InvokeError report w'
  rcases ho : (invoker.stepOutputs (ε := InvokeError) report).run w' with ⟨_, w₂, u⟩
  rw [ho] at hout
  cases hout
  exact ⟨outputs, by simp [work, hp, hrun, ho, Except.mapError]⟩

end

lemma invoke_worked {tenant env target operation : String} {input : Value}
    {idempotencyKey : Option String} {host : τ} {settings : Option DeepWorkerSettings}
    (hv : validateOperation operation = .ok ())
    (hs : settingsFromInput invoker.codecs.settings input = .ok settings)
    {o : Outcome (World (InvokerEnv τ)) (DispatchEvent τ) InvokeError
      (DeepLoopRun × List StepOutput)}
    (ho : (invoker.work (.resolve settings) (extractGoal input)).run
      ⟨.fresh host, buildEnvelope tenant target (idempotencyKey.getD "task-unknown")⟩ = o) :
    (∃ u, (∀ x ∈ u, x.Replying) ∧
      ((invoker.invoke tenant env target operation input idempotencyKey).run host).trace =
        o.trace ++ u) ∧
    ∀ report outputs, o.result = .ok (report, outputs) → ∃ reply,
      ((invoker.invoke tenant env target operation input idempotencyKey).run host).result =
        .ok (outcomeFromRun report operation reply invoker.activeTools.isSome) := by
  unfold invoke
  simp only [hv, hs, ho, Traced.run_bind, Traced.run_ofExcept, Traced.andThen_ok,
    Traced.run_within, Outcome.after_nil]
  obtain ⟨e | ⟨report, outputs⟩, w', t⟩ := o
  · refine ⟨⟨[], by simp, by simp⟩, ?_⟩
    rintro _ _ ⟨⟩
  · simp only [synthesizeReply, Traced.run_bind, Traced.run_answer, Traced.andThen_ok,
      Traced.run_pure, Outcome.after_mk]
    refine ⟨⟨_, ?_, rfl⟩, ?_⟩
    · simp [DispatchEvent.Replying]
    · rintro _ _ ⟨⟩
      exact ⟨_, rfl⟩

lemma invoke_planned {tenant env target operation : String} {input : Value}
    {idempotencyKey : Option String} {host : τ} {settings : Option DeepWorkerSettings}
    {plan : PlanDocument} (hs : settingsFromInput invoker.codecs.settings input = .ok settings)
    (hplan : createdPlans
      ((invoker.invoke tenant env target operation input idempotencyKey).run host).trace = [plan]) :
    ∃ s, s.artifacts = [] ∧ validatePlan plan = .ok () ∧
      loopCalls ((invoker.invoke tenant env target operation input idempotencyKey).run host).trace =
        (((invoker.coordinator (.resolve settings)).run
          ((ResolvedSettings.resolve settings).guarded plan)).run
            ⟨s, buildEnvelope tenant target (idempotencyKey.getD "task-unknown")⟩).trace ∧
      ∀ report, (((invoker.coordinator (.resolve settings)).run
          ((ResolvedSettings.resolve settings).guarded plan)).run
            ⟨s, buildEnvelope tenant target (idempotencyKey.getD "task-unknown")⟩).result =
              .ok report →
        ∃ out, ((invoker.invoke tenant env target operation input idempotencyKey).run host).result =
          .ok out ∧ (out.ok = true ↔ report.status = .completed) := by
  cases hv : validateOperation operation with
  | error e =>
    unfold invoke at hplan
    rw [hv] at hplan
    cases hplan
  | ok u =>
  obtain ⟨⟨u, hu, htrace⟩, hanswer⟩ := @invoke_worked _ invoker tenant env target operation input
    idempotencyKey host settings hv hs _ rfl
  rw [htrace, createdPlans_append, createdPlans_replying hu, List.append_nil] at hplan
  obtain ⟨s, hp⟩ := work_planned hplan
  have hleaves := @createPlan_leaves _ _ InvokerEnv.artifacts invoker.model (fun _ _ => rfl)
    invoker.codecs.planning (planRequest (extractGoal input)
      (ResolvedSettings.resolve settings).delegation (invoker.activeTools.map Prod.snd))
    (.fresh host)
  refine ⟨s, ?_, createPlan_valid (congrArg Prod.fst hp), ?_, fun report hr => ?_⟩
  · exact (congrArg InvokerEnv.artifacts (congrArg Prod.snd hp)).symm.trans hleaves
  · rw [htrace, loopCalls_append, loopCalls_replying hu, List.append_nil, loopCalls_work hp]
    rfl
  · obtain ⟨outputs, hok⟩ := work_ran hp hr
    obtain ⟨reply, hresult⟩ := hanswer report outputs hok
    exact ⟨_, hresult, by simp [outcomeFromRun]⟩

theorem dispatch_completes (tenant env target operation : String) (input : Value)
    (idempotencyKey : Option String) (host : τ) {settings : Option DeepWorkerSettings}
    {plan : PlanDocument} (hs : settingsFromInput invoker.codecs.settings input = .ok settings)
    (hoff : (ResolvedSettings.resolve settings).delegation = false)
    (htenant : isBlank tenant = false)
    (htask : isBlank (idempotencyKey.getD "task-unknown") = false)
    (hplan : createdPlans
      ((invoker.invoke tenant env target operation input idempotencyKey).run host).trace = [plan])
    (hacyclic : plan.NoCycle) (hstart : plan.Startable)
    (hn : plan.unfinished.length < (ResolvedSettings.resolve settings).maxIterations)
    (hout : (outputs (loopCalls
      ((invoker.invoke tenant env target operation input idempotencyKey).run host).trace)).length <
        2 ^ 32)
    (ht : ∀ x ∈ loopCalls
      ((invoker.invoke tenant env target operation input idempotencyKey).run host).trace,
        x.Supported) :
    ∃ out, ((invoker.invoke tenant env target operation input idempotencyKey).run host).result =
      .ok out ∧ out.ok = true := by
  obtain ⟨s, hfresh, hvalid, hcalls, hanswer⟩ := invoker.invoke_planned hs hplan
  rw [hcalls] at hout ht
  have hworkable := guarded_workable (.resolve settings) ⟨hvalid, hacyclic, hstart⟩
  have hlength : ((ResolvedSettings.resolve settings).guarded plan).unfinished.length <
      (invoker.coordinator (.resolve settings)).maxIterations := by
    rw [guarded_unfinished]
    exact hn
  have hids : InMemoryWorkspace.ids ⟨InvokerEnv.artifactsCell,
      InvokerEnv.hostCell.through invoker.clock, invoker.blake3Hex⟩ s = [] := by
    simp [InMemoryWorkspace.ids, InvokerEnv.artifactsCell, hfresh]
  obtain ⟨report, hreport, hstatus, _⟩ := @run_supported _ (invoker.coordinator (.resolve settings))
    _ ((ResolvedSettings.resolve settings).guarded plan)
    ⟨s, buildEnvelope tenant target (idempotencyKey.getD "task-unknown")⟩ (invoker.plansItself _)
    (invoker.serves _) (invoker.undelegated hoff plan) (invoker.shares _) hids rfl htenant htask
    hworkable hlength hout ht
  obtain ⟨out, hresult, hok⟩ := hanswer report hreport
  exact ⟨out, hresult, hok.mpr hstatus⟩

theorem dispatch_completes_scripted :
    ∃ out, ((Script.loneInvoker.invoke "tenant" "env" "worker" ""
      (.object [("deep_worker", .object [("delegation", .bool false)])]) none).run
        [Script.planText "ready", Script.reply "a", "[]", "Done."]).result = .ok out ∧
      out.ok = true := by
  have hs : settingsFromInput Script.loneInvoker.codecs.settings
      (.object [("deep_worker", .object [("delegation", .bool false)])]) =
        .ok (some ⟨none, none, some false⟩) := rfl
  have hv : validatePlan (Script.plan [Script.step "a" .toolCall .ready []]) = .ok () := by rfl
  have hrun : createdPlans ((Script.loneInvoker.invoke "tenant" "env" "worker" ""
        (.object [("deep_worker", .object [("delegation", .bool false)])]) none).run
        [Script.planText "ready", Script.reply "a", "[]", "Done."]).trace =
      [Script.plan [Script.step "a" .toolCall .ready []]] ∧
    (outputs (loopCalls ((Script.loneInvoker.invoke "tenant" "env" "worker" ""
        (.object [("deep_worker", .object [("delegation", .bool false)])]) none).run
        [Script.planText "ready", Script.reply "a", "[]", "Done."]).trace)).length < 2 ^ 32 ∧
    ∀ x ∈ loopCalls ((Script.loneInvoker.invoke "tenant" "env" "worker" ""
        (.object [("deep_worker", .object [("delegation", .bool false)])]) none).run
        [Script.planText "ready", Script.reply "a", "[]", "Done."]).trace, x.Supported := by
    decide +kernel
  refine dispatch_completes Script.loneInvoker "tenant" "env" "worker" "" _ none
    [Script.planText "ready", Script.reply "a", "[]", "Done."] hs rfl (by decide) (by decide)
    hrun.1 ?_ ?_ (by decide) hrun.2.1 hrun.2.2
  · refine (PlanDocument.noCycle_iff_listable hv).mpr ⟨_, .refl _, ?_⟩
    simp [InOrder, Script.plan, Script.step]
  · refine ⟨?_, .inl ?_⟩ <;> simp [Script.plan, Script.step]

end DeepWorkerInvoker

end GreenticDw

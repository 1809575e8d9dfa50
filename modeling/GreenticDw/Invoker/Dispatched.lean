import GreenticDw.DeepLoop.PlanFrame
import GreenticDw.DeepLoop.Replay
import GreenticDw.Invoker.EarnedCompletion

namespace GreenticDw

variable {τ : Type}

namespace DeepWorkerInvoker

variable (invoker : DeepWorkerInvoker τ) (resolved : ResolvedSettings)

structure Looped (envelope : TaskEnvelope) (plan : PlanDocument) (w : World (InvokerEnv τ))
    (t : List (DispatchEvent τ)) : Prop where
  valid : validatePlan plan = .ok ()
  task : w.envelope = envelope
  calls : loopCalls t = (((invoker.coordinator resolved).run (resolved.guarded plan)).run w).trace

inductive Performed (w : World (InvokerEnv τ)) :
    Outcome (World (InvokerEnv τ)) (DispatchEvent τ) InvokeError
      (DeepLoopRun × List StepOutput) → Prop
  | unplanned {e : PlanningError} {w' : World (InvokerEnv τ)} {t : List (DispatchEvent τ)} :
      loopCalls t = [] → Performed w ⟨.error (.planning e), w', t⟩
  | failed {plan : PlanDocument} {w₁ w' : World (InvokerEnv τ)} {e : DeepLoopError}
      {t : List (DispatchEvent τ)} :
      invoker.Looped resolved w.envelope plan w₁ t →
      (((invoker.coordinator resolved).run (resolved.guarded plan)).run w₁).result = .error e →
      Performed w ⟨.error (.deepLoop e), w', t⟩
  | ran {plan : PlanDocument} {w₁ w' : World (InvokerEnv τ)} {report : DeepLoopRun}
      {outputs : List StepOutput} {t : List (DispatchEvent τ)} :
      invoker.Looped resolved w.envelope plan w₁ t →
      (((invoker.coordinator resolved).run (resolved.guarded plan)).run w₁).result = .ok report →
      Performed w ⟨.ok (report, outputs), w', t⟩

inductive Dispatched (tenant target operation : String) (input : Value)
    (idempotencyKey : Option String) :
    Outcome τ (DispatchEvent τ) InvokeError InvokeOutcome → Prop
  | refused {e : InvokeError} {host : τ} {t : List (DispatchEvent τ)} :
      (∀ error, e ≠ .deepLoop error) → loopCalls t = [] →
      Dispatched tenant target operation input idempotencyKey ⟨.error e, host, t⟩
  | failed {settings : Option DeepWorkerSettings} {plan : PlanDocument}
      {w : World (InvokerEnv τ)} {e : DeepLoopError} {host : τ} {t : List (DispatchEvent τ)} :
      settingsFromInput invoker.codecs.settings input = .ok settings →
      invoker.Looped (.resolve settings)
        (buildEnvelope tenant target (idempotencyKey.getD "task-unknown")) plan w t →
      (((invoker.coordinator (.resolve settings)).run
        ((ResolvedSettings.resolve settings).guarded plan)).run w).result = .error e →
      Dispatched tenant target operation input idempotencyKey ⟨.error (.deepLoop e), host, t⟩
  | answered {settings : Option DeepWorkerSettings} {plan : PlanDocument}
      {w : World (InvokerEnv τ)} {report : DeepLoopRun} {reply : String} {wired : Bool} {host : τ}
      {t : List (DispatchEvent τ)} :
      settingsFromInput invoker.codecs.settings input = .ok settings →
      invoker.Looped (.resolve settings)
        (buildEnvelope tenant target (idempotencyKey.getD "task-unknown")) plan w t →
      (((invoker.coordinator (.resolve settings)).run
        ((ResolvedSettings.resolve settings).guarded plan)).run w).result = .ok report →
      Dispatched tenant target operation input idempotencyKey
        ⟨.ok (outcomeFromRun report operation reply wired), host, t⟩

variable {invoker resolved}

lemma Looped.after {envelope : TaskEnvelope} {plan : PlanDocument} {w : World (InvokerEnv τ)}
    {t u : List (DispatchEvent τ)} (h : invoker.Looped resolved envelope plan w t)
    (hu : ∀ x ∈ u, x.Replying) : invoker.Looped resolved envelope plan w (t ++ u) where
  valid := h.valid
  task := h.task
  calls := by rw [loopCalls_append, loopCalls_replying hu, List.append_nil, h.calls]

lemma readStepOutputs_ok {ε : Type} (workspace : WorkspaceProvider (InvokerEnv τ))
    (artifactIds : List String) (w : World (InvokerEnv τ)) :
    ∃ outputs, ((readStepOutputs (ε := ε) workspace artifactIds).run w).result = .ok outputs := by
  induction artifactIds generalizing w with
  | nil => exact ⟨[], rfl⟩
  | cons artifactId artifactIds ih =>
    obtain ⟨outputs, h⟩ := ih (w.withEnv (workspace.readArtifact ⟨artifactId⟩ w.env).2)
    rcases hr : (readStepOutputs (ε := ε) workspace artifactIds).run
      (w.withEnv (workspace.readArtifact ⟨artifactId⟩ w.env).2) with ⟨e | outputs', w', t⟩
    · rw [hr] at h
      cases h
    · refine ⟨(StepOutput.ofAnswer (workspace.readArtifact ⟨artifactId⟩ w.env).1).toList ++
        outputs', ?_⟩
      simp [readStepOutputs, hr]

lemma stepOutputs_ok {ε : Type} (run : DeepLoopRun) (w : World (InvokerEnv τ)) :
    ∃ outputs, ((invoker.stepOutputs (ε := ε) run).run w).result = .ok outputs := by
  unfold stepOutputs
  split_ifs
  · exact readStepOutputs_ok invoker.workspace run.outputArtifactIds w
  · exact ⟨[], rfl⟩

lemma createPlan_valid {request : CreatePlanRequest} {s : InvokerEnv τ} {plan : PlanDocument}
    (h : (invoker.planner.createPlan request s).1 = .ok plan) : validatePlan plan = .ok () :=
  have hanswer : invoker.planner.createPlan request s =
      (.ok plan, (invoker.planner.createPlan request s).2) := Prod.ext h rfl
  LlmPlanning.createPlan_valid hanswer

lemma loopCalls_work {goal : String} {w : World (InvokerEnv τ)} {plan : PlanDocument}
    {env : InvokerEnv τ}
    (h : invoker.planner.createPlan (planRequest goal resolved.delegation
      (invoker.activeTools.map Prod.snd)) w.env = (.ok plan, env)) :
    loopCalls ((invoker.work resolved goal).run w).trace =
      (((invoker.coordinator resolved).run (resolved.guarded plan)).run (w.withEnv env)).trace := by
  simp only [work, Traced.run_bind, World.run_ask, h, Except.mapError, Traced.andThen_ok,
    Traced.run_mapError, Traced.run_relabel]
  rcases ((invoker.coordinator resolved).run (resolved.guarded plan)).run (w.withEnv env) with
    ⟨e | report, w', t⟩
  · exact loopCalls_deepLoop t
  · have hreading := invoker.stepOutputs_replying (ε := InvokeError) report w'
    rcases hr : (invoker.stepOutputs (ε := InvokeError) report).run w' with ⟨e | outputs, w₂, u⟩ <;>
      rw [hr] at hreading <;>
      simpa [hr, loopCalls_append, loopCalls_deepLoop] using loopCalls_replying hreading

lemma work_cases (resolved : ResolvedSettings) (goal : String) (w : World (InvokerEnv τ)) :
    invoker.Performed resolved w ((invoker.work resolved goal).run w) := by
  rcases hp : invoker.planner.createPlan (planRequest goal resolved.delegation
    (invoker.activeTools.map Prod.snd)) w.env with ⟨e | plan, s⟩
  · have hwork : (invoker.work resolved goal).run w = ⟨.error (.planning e), w.withEnv s,
        [.createPlan (planRequest goal resolved.delegation (invoker.activeTools.map Prod.snd))
          (.error e)]⟩ := by
      simp [work, hp, Except.mapError]
    rw [hwork]
    exact .unplanned rfl
  · have hlooped : invoker.Looped resolved w.envelope plan (w.withEnv s)
        ((invoker.work resolved goal).run w).trace :=
      ⟨createPlan_valid (congrArg Prod.fst hp), rfl, loopCalls_work hp⟩
    rcases hr : ((invoker.coordinator resolved).run (resolved.guarded plan)).run (w.withEnv s) with
      ⟨e | report, w', t⟩
    · have hresult : ((invoker.work resolved goal).run w).result = .error (.deepLoop e) := by
        simp [work, hp, hr, Except.mapError]
      generalize (invoker.work resolved goal).run w = o at hlooped hresult ⊢
      obtain ⟨_, w'', u⟩ := o
      cases hresult
      exact .failed hlooped (by rw [hr])
    · obtain ⟨outputs, hout⟩ := @stepOutputs_ok _ invoker InvokeError report w'
      have hresult : ((invoker.work resolved goal).run w).result = .ok (report, outputs) := by
        rcases ho : (invoker.stepOutputs (ε := InvokeError) report).run w' with ⟨_, w₂, u⟩
        rw [ho] at hout
        cases hout
        simp [work, hp, hr, ho, Except.mapError]
      generalize (invoker.work resolved goal).run w = o at hlooped hresult ⊢
      obtain ⟨_, w'', u⟩ := o
      cases hresult
      exact .ran hlooped (by rw [hr])

theorem invoke_cases (invoker : DeepWorkerInvoker τ) (tenant env target operation : String)
    (input : Value) (idempotencyKey : Option String) (host : τ) :
    invoker.Dispatched tenant target operation input idempotencyKey
      ((invoker.invoke tenant env target operation input idempotencyKey).run host) := by
  unfold invoke
  cases hv : validateOperation operation with
  | error e =>
    refine .refused (fun error => ?_) rfl
    have he : e = .unsupportedOperation operation := by
      simp only [validateOperation, rejectIf_eq_error] at hv
      exact hv.2.symm
    simp [he]
  | ok u =>
  cases hs : settingsFromInput invoker.codecs.settings input with
  | error e =>
    refine .refused (fun error => ?_) rfl
    unfold settingsFromInput at hs
    split at hs
    · cases hs
    · cases hs
    · split at hs
      · cases hs
      · cases hs
        simp
  | ok settings =>
  have hw := @work_cases _ invoker (.resolve settings) (extractGoal input)
    ⟨.fresh host, buildEnvelope tenant target (idempotencyKey.getD "task-unknown")⟩
  simp only [Traced.run_bind, Traced.run_ofExcept, Traced.andThen_ok, Traced.run_within,
    Outcome.after_nil]
  generalize (invoker.work (.resolve settings) (extractGoal input)).run _ = o at hw
  cases hw with
  | unplanned ht => exact .refused (by simp) ht
  | failed hl hr => exact .failed hs hl hr
  | @ran plan w₁ w' report outputs t hl hr =>
    simp only [synthesizeReply, Traced.run_bind, Traced.run_answer, Traced.andThen_ok,
      Traced.run_pure, Outcome.after_mk]
    exact .answered hs (hl.after (by simp [DispatchEvent.Replying])) hr

end DeepWorkerInvoker

end GreenticDw

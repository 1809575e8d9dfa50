import GreenticDw.DeepLoop.Completion
import GreenticDw.DeepLoop.Script
import GreenticDw.Invoker.Dispatch

/-! What stands behind a dispatch that answers ok. -/

namespace GreenticDw

open DeepLoopCoordinator (WorkedOn namedIds run_workedOn run_done run_planKept)

namespace DispatchEvent

variable {τ : Type}

def createdPlan : DispatchEvent τ → Option PlanDocument
  | createPlan _ (.ok plan) => some plan
  | _ => none

def loopCall : DispatchEvent τ → Option (Call (InvokerEnv τ))
  | deepLoop call => some call
  | _ => none

def Replying : DispatchEvent τ → Prop
  | readArtifact _ _ => True
  | reply _ _ => True
  | _ => False

end DispatchEvent

open DispatchEvent (createdPlan loopCall Replying)

variable {τ : Type}

def createdPlans (t : List (DispatchEvent τ)) : List PlanDocument := t.filterMap createdPlan

def loopCalls (t : List (DispatchEvent τ)) : List (Call (InvokerEnv τ)) := t.filterMap loopCall

lemma createdPlans_append (t u : List (DispatchEvent τ)) :
    createdPlans (t ++ u) = createdPlans t ++ createdPlans u :=
  List.filterMap_append ..

lemma loopCalls_append (t u : List (DispatchEvent τ)) :
    loopCalls (t ++ u) = loopCalls t ++ loopCalls u :=
  List.filterMap_append ..

@[simp] lemma createdPlans_createPlan (request : CreatePlanRequest) (plan : PlanDocument)
    (t : List (DispatchEvent τ)) :
    createdPlans (.createPlan request (.ok plan) :: t) = plan :: createdPlans t := rfl

@[simp] lemma loopCalls_createPlan (request : CreatePlanRequest)
    (answer : Except PlanningError PlanDocument) (t : List (DispatchEvent τ)) :
    loopCalls (.createPlan request answer :: t) = loopCalls t := rfl

lemma createdPlans_replying {t : List (DispatchEvent τ)} (ht : ∀ x ∈ t, x.Replying) :
    createdPlans t = [] := by
  apply List.filterMap_eq_nil_iff.mpr
  intro x hx
  have := ht x hx
  cases x <;> first | rfl | exact this.elim

lemma loopCalls_replying {t : List (DispatchEvent τ)} (ht : ∀ x ∈ t, x.Replying) :
    loopCalls t = [] := by
  apply List.filterMap_eq_nil_iff.mpr
  intro x hx
  have := ht x hx
  cases x <;> first | rfl | exact this.elim

lemma createdPlans_deepLoop (calls : List (Call (InvokerEnv τ))) :
    createdPlans (calls.map DispatchEvent.deepLoop) = [] := by
  rw [createdPlans, List.filterMap_map]
  exact List.filterMap_eq_nil_iff.mpr fun _ _ => rfl

lemma loopCalls_deepLoop (calls : List (Call (InvokerEnv τ))) :
    loopCalls (calls.map DispatchEvent.deepLoop) = calls := by
  rw [loopCalls, List.filterMap_map]
  exact List.filterMap_some

lemma readStepOutputs_replying {ε : Type} (workspace : WorkspaceProvider (InvokerEnv τ))
    (artifactIds : List String) (w : World (InvokerEnv τ)) :
    ∀ x ∈ ((readStepOutputs (ε := ε) workspace artifactIds).run w).trace, x.Replying := by
  induction artifactIds generalizing w with
  | nil => simp [readStepOutputs]
  | cons artifactId artifactIds ih =>
    have hread := ih (w.withEnv (workspace.readArtifact ⟨artifactId⟩ w.env).2)
    simp only [readStepOutputs, Traced.run_bind, World.run_answer, Traced.andThen_ok]
    rcases hr : (readStepOutputs (ε := ε) workspace artifactIds).run
      (w.withEnv (workspace.readArtifact ⟨artifactId⟩ w.env).2) with ⟨e | outputs, w', t⟩
    · rw [hr] at hread
      simpa [Replying] using hread
    · rw [hr] at hread
      simpa [Replying] using hread

namespace DeepWorkerInvoker

variable (invoker : DeepWorkerInvoker τ) (resolved : ResolvedSettings) (goal : String)

structure Answered (plan : PlanDocument) (w : World (InvokerEnv τ)) (run : DeepLoopRun)
    (t : List (DispatchEvent τ)) : Prop where
  ran : (((invoker.coordinator resolved).run (resolved.guarded plan)).run w).result = .ok run
  trace : ∃ request u, (∀ x ∈ u, x.Replying) ∧ t = .createPlan request (.ok plan) ::
    ((((invoker.coordinator resolved).run (resolved.guarded plan)).run w).trace.map
      .deepLoop ++ u)

variable {invoker resolved goal}

variable (invoker) in
lemma stepOutputs_replying {ε : Type} (run : DeepLoopRun) (w : World (InvokerEnv τ)) :
    ∀ x ∈ ((invoker.stepOutputs (ε := ε) run).run w).trace, x.Replying := by
  unfold stepOutputs
  split_ifs
  · exact readStepOutputs_replying invoker.workspace run.outputArtifactIds w
  · simp

lemma work_answered {w : World (InvokerEnv τ)} {run : DeepLoopRun} {outputs : List StepOutput}
    (h : ((invoker.work resolved goal).run w).result = .ok (run, outputs)) :
    ∃ plan w', invoker.Answered resolved plan w' run ((invoker.work resolved goal).run w).trace := by
  obtain ⟨plan, w₁, t₁, hplan, hwork, h⟩ := Traced.run_bind_eq_ok h
  obtain ⟨run', w₂, t₂, hrun, hrest, h⟩ := Traced.run_bind_eq_ok h
  obtain ⟨outputs', w₃, t₃, houtputs, hlast, h⟩ := Traced.run_bind_eq_ok h
  obtain ⟨rfl, rfl⟩ : run' = run ∧ outputs' = outputs := by
    simpa using h
  have ht₁ : t₁ = [.createPlan (planRequest goal resolved.delegation
      (invoker.activeTools.map Prod.snd)) (.ok plan)] := by
    simp only [World.run_ask, Outcome.mk.injEq, except_mapError_eq_ok] at hplan
    rw [← hplan.2.2, hplan.1]
  have hloop : (((invoker.coordinator resolved).run (resolved.guarded plan)).run w₁).result =
        .ok run' ∧
      t₂ = (((invoker.coordinator resolved).run (resolved.guarded plan)).run w₁).trace.map
        .deepLoop := by
    simp only [Traced.run_mapError, Traced.run_relabel, Outcome.mk.injEq,
      except_mapError_eq_ok] at hrun
    exact ⟨hrun.1, hrun.2.2.symm⟩
  have hreading : ∀ x ∈ t₃, x.Replying := by
    have hread := invoker.stepOutputs_replying (ε := InvokeError) run' w₂
    rwa [houtputs] at hread
  refine ⟨plan, w₁, hloop.1, planRequest goal resolved.delegation
    (invoker.activeTools.map Prod.snd), t₃, hreading, ?_⟩
  unfold work
  rw [hwork, Outcome.after_trace, hrest, Outcome.after_trace, hlast, Outcome.after_trace, ht₁,
    hloop.2]
  simp

lemma Answered.after {plan : PlanDocument} {w : World (InvokerEnv τ)} {run : DeepLoopRun}
    {t u : List (DispatchEvent τ)} (h : invoker.Answered resolved plan w run t)
    (hu : ∀ x ∈ u, x.Replying) : invoker.Answered resolved plan w run (t ++ u) := by
  obtain ⟨request, v, hv, ht⟩ := h.trace
  refine ⟨h.ran, request, v ++ u, List.forall_mem_append.mpr ⟨hv, hu⟩, ?_⟩
  rw [ht, List.cons_append, List.append_assoc]

lemma invoke_answered {tenant env target operation : String} {input : Value}
    {idempotencyKey : Option String} {host : τ} {out : InvokeOutcome}
    (h : ((invoker.invoke tenant env target operation input idempotencyKey).run host).result =
      .ok out) :
    ∃ resolved plan w run, invoker.Answered resolved plan w run
        ((invoker.invoke tenant env target operation input idempotencyKey).run host).trace ∧
      (out.ok = true ↔ run.status = .completed) := by
  obtain ⟨_, w₁, t₁, hvalid, hinvoke, h⟩ := Traced.run_bind_eq_ok h
  obtain ⟨settings, w₂, t₂, hsettings, hrest, h⟩ := Traced.run_bind_eq_ok h
  obtain ⟨⟨run, outputs⟩, w₃, t₃, hwork, hreplying, h⟩ := Traced.run_bind_eq_ok h
  obtain ⟨reply, w₄, t₄, hreply, hlast, h⟩ := Traced.run_bind_eq_ok h
  obtain rfl : outcomeFromRun run operation reply invoker.activeTools.isSome = out := by
    simpa using h
  have ht₁ : t₁ = [] := by
    simp only [Traced.run_ofExcept, Outcome.mk.injEq] at hvalid
    exact hvalid.2.2.symm
  have ht₂ : t₂ = [] := by
    simp only [Traced.run_ofExcept, Outcome.mk.injEq] at hsettings
    exact hsettings.2.2.symm
  have ht₄ : ∀ x ∈ t₄, x.Replying := by
    simp only [synthesizeReply, Traced.run_bind, Traced.run_answer, Traced.andThen_ok,
      Traced.run_pure, Outcome.after_mk, Outcome.mk.injEq] at hreply
    simp [← hreply.2.2, Replying]
  simp only [Traced.run_within, Outcome.mk.injEq] at hwork
  obtain ⟨plan, w, hanswered⟩ := work_answered hwork.1
  rw [hwork.2.2] at hanswered
  refine ⟨ResolvedSettings.resolve settings, plan, w, run, ?_, by simp [outcomeFromRun]⟩
  unfold invoke
  rw [hinvoke, hrest, hreplying, hlast]
  simpa [ht₁, ht₂] using hanswered.after ht₄

lemma Answered.createdPlans {plan : PlanDocument} {w : World (InvokerEnv τ)} {run : DeepLoopRun}
    {t : List (DispatchEvent τ)} (h : invoker.Answered resolved plan w run t) :
    createdPlans t = [plan] := by
  obtain ⟨request, u, hu, rfl⟩ := h.trace
  rw [createdPlans_createPlan, createdPlans_append, createdPlans_deepLoop,
    createdPlans_replying hu]
  rfl

lemma Answered.loopCalls {plan : PlanDocument} {w : World (InvokerEnv τ)} {run : DeepLoopRun}
    {t : List (DispatchEvent τ)} (h : invoker.Answered resolved plan w run t) :
    loopCalls t = (((invoker.coordinator resolved).run (resolved.guarded plan)).run w).trace := by
  obtain ⟨request, u, hu, rfl⟩ := h.trace
  rw [loopCalls_createPlan, loopCalls_append, loopCalls_deepLoop, loopCalls_replying hu,
    List.append_nil]

lemma guarded_steps (resolved : ResolvedSettings) (plan : PlanDocument) :
    List.Forall₂ (fun a b : PlanStep => b.stepId = a.stepId ∧ b.status = a.status) plan.steps
      (resolved.guarded plan).steps := by
  unfold ResolvedSettings.guarded
  split_ifs
  · exact List.forall₂_same.mpr fun _ _ => ⟨rfl, rfl⟩
  · refine List.forall₂_map_right_iff.mpr (List.forall₂_same.mpr fun step _ => ?_)
    exact ⟨stripDelegate_stepId step, stripDelegate_status step⟩

end DeepWorkerInvoker

namespace Script

def planText (status : String) : String :=
  "\x7b\"plan_id\":\"plan\",\"goal\":\"goal\",\"status\":\"active\",\"revision\":1," ++
  "\"success_criteria\":[\"done\"],\"steps\":[\x7b\"step_id\":\"a\",\"title\":\"a\"," ++
  "\"kind\":\"tool_call\",\"status\":\"" ++ status ++ "\"\x7d]\x7d"

def acceptText : String := "\x7b\"verdict\":\"accept\"\x7d"

def invoker : DeepWorkerInvoker (List String) where
  llm := llm
  tools := none
  codecs :=
    { planning := codecs [(planText "ready", plan [step "a" .toolCall .ready []]),
        (planText "completed", plan [step "a" .toolCall .completed []])]
      reflection := ⟨codec [(acceptText, outcome .accept)], codec [], codec []⟩
      delegation := ⟨codec [], codec []⟩
      settings := fun _ => .error "invalid type: null, expected struct DeepWorkerSettings" }
  clock := fun s => ("2026-01-01T00:00:00Z", s)
  blake3Hex := fun _ => "94bd19b12606d20b8cf82b5e6ece4e72c3a71f25ce0000c47173e5134af2c559"

def dispatch (texts : List String) :
    Outcome (List String) (DispatchEvent (List String)) InvokeError InvokeOutcome :=
  (invoker.invoke "tenant" "env" "worker" "" (.object []) none).run texts

lemma dispatch_ok {texts : List String}
    (h : (dispatch texts).result.toOption.map InvokeOutcome.ok = some true) :
    ∃ out, (dispatch texts).result = .ok out ∧ out.ok = true := by
  cases hr : (dispatch texts).result with
  | error e =>
    rw [hr] at h
    cases h
  | ok out =>
    rw [hr] at h
    exact ⟨out, rfl, Option.some.inj h⟩

end Script

namespace DeepWorkerInvoker

theorem earned_completion (invoker : DeepWorkerInvoker τ) (tenant env target operation : String)
    (input : Value) (idempotencyKey : Option String) (host : τ) (out : InvokeOutcome)
    (h : ((invoker.invoke tenant env target operation input idempotencyKey).run host).result =
      .ok out) (hok : out.ok = true) :
    ∃ plan, createdPlans
        ((invoker.invoke tenant env target operation input idempotencyKey).run host).trace =
        [plan] ∧
      ((∀ step ∈ plan.steps, WorkedOn (loopCalls
          ((invoker.invoke tenant env target operation input idempotencyKey).run host).trace)
          step.stepId) ↔
        ∀ step ∈ plan.steps, step.status = .completed ∨ step.status = .skipped →
          step.stepId ∈ namedIds (loopCalls
            ((invoker.invoke tenant env target operation input idempotencyKey).run host).trace)) := by
  obtain ⟨resolved, plan, w, run, hanswered, hstatus⟩ := invoke_answered h
  have hcompleted : run.status = .completed := hstatus.mp hok
  refine ⟨plan, hanswered.createdPlans, ?_⟩
  rw [hanswered.loopCalls]
  have hnamed := run_workedOn hanswered.ran hcompleted
  constructor
  · intro hworked step hm _
    exact (hnamed step.stepId).mp (hworked step hm)
  · intro hpreset step hm
    have hkept := run_planKept (fun _ _ => rfl) hanswered.ran
    have hdone := run_done (fun _ _ => rfl) hanswered.ran hcompleted
    obtain ⟨step₁, hm₁, hid₁, hst₁⟩ :=
      LlmPlanning.exists_mem_of_forall₂ (guarded_steps resolved plan) hm
    obtain ⟨step₂, hm₂, hadvanced⟩ := LlmPlanning.exists_mem_of_forall₂ hkept.steps hm₁
    obtain hst | ⟨_, hworked⟩ | ⟨_, hready, _⟩ := hadvanced.status
    · refine (hnamed step.stepId).mpr (hpreset step hm ?_)
      rw [← hst₁, ← hst]
      exact hdone step₂ hm₂
    · exact hid₁ ▸ hworked
    · simpa [hready] using hdone step₂ hm₂

theorem earned_completion_scripted :
    ∃ plan, createdPlans (Script.dispatch [Script.planText "ready", Script.reply "a",
        Script.acceptText, "[]", Script.acceptText, "Done."]).trace = [plan] ∧
      ((∀ step ∈ plan.steps, WorkedOn (loopCalls (Script.dispatch [Script.planText "ready",
          Script.reply "a", Script.acceptText, "[]", Script.acceptText, "Done."]).trace)
          step.stepId) ↔
        ∀ step ∈ plan.steps, step.status = .completed ∨ step.status = .skipped →
          step.stepId ∈ namedIds (loopCalls (Script.dispatch [Script.planText "ready",
            Script.reply "a", Script.acceptText, "[]", Script.acceptText, "Done."]).trace)) :=
  have ⟨out, h, hok⟩ := Script.dispatch_ok (by decide +kernel)
  earned_completion Script.invoker "tenant" "env" "worker" "" (.object []) none _ out h hok

theorem completion_unearned :
    ∃ out plan, (Script.dispatch [Script.planText "completed", "[]", Script.acceptText,
        "Done."]).result = .ok out ∧ out.ok = true ∧
      createdPlans (Script.dispatch [Script.planText "completed", "[]", Script.acceptText,
        "Done."]).trace = [plan] ∧
      ∃ step ∈ plan.steps, ¬WorkedOn (loopCalls (Script.dispatch [Script.planText "completed",
        "[]", Script.acceptText, "Done."]).trace) step.stepId :=
  have hrun : (Script.dispatch [Script.planText "completed", "[]", Script.acceptText,
        "Done."]).result.toOption.map InvokeOutcome.ok = some true ∧
      createdPlans (Script.dispatch [Script.planText "completed", "[]", Script.acceptText,
        "Done."]).trace = [Script.plan [Script.step "a" .toolCall .completed []]] ∧
      ¬WorkedOn (loopCalls (Script.dispatch [Script.planText "completed", "[]",
        Script.acceptText, "Done."]).trace) "a" := by decide +kernel
  have ⟨out, h, hok⟩ := Script.dispatch_ok hrun.1
  ⟨out, _, h, hok, hrun.2.1, _, List.mem_cons_self, hrun.2.2⟩

end DeepWorkerInvoker

end GreenticDw

import GreenticDw.DeepLoop.PlanFrame

namespace GreenticDw

open LlmPlanning (DependenciesDone recordStepResult)

/-- The step has its turn: it is ready and nothing it waits for is outstanding. -/
structure PlanDocument.Ready (plan : PlanDocument) (step : PlanStep) : Prop where
  mem : step ∈ plan.steps
  ready : step.status = .ready
  dependencies : DependenciesDone plan.steps step

instance (plan : PlanDocument) (step : PlanStep) : Decidable (plan.Ready step) :=
  decidable_of_iff (step ∈ plan.steps ∧ step.status = .ready ∧ DependenciesDone plan.steps step)
    ⟨fun h => ⟨h.1, h.2.1, h.2.2⟩, fun h => ⟨h.mem, h.ready, h.dependencies⟩⟩

def Call.OnReady {σ : Type} : Call σ → Prop
  | .executeStep moment _ _ => moment.plan.Ready moment.step
  | .createArtifact moment _ _ => moment.plan.Ready moment.step
  | .startSubtask moment _ _ => moment.plan.Ready moment.step
  | _ => True

instance {σ : Type} : (x : Call σ) → Decidable x.OnReady
  | .executeStep moment _ _ => inferInstanceAs (Decidable (moment.plan.Ready moment.step))
  | .createArtifact moment _ _ => inferInstanceAs (Decidable (moment.plan.Ready moment.step))
  | .startSubtask moment _ _ => inferInstanceAs (Decidable (moment.plan.Ready moment.step))
  | .runtime _ | .operation _ _ _ | .tick _ _ | .buildContext _ _ | .nextActions _ _
  | .evaluateCompletion _ _ | .recordStepResult _ _ | .revisePlan _ _ | .reviewStep _ _
  | .reviewFinal _ _ | .chooseDelegate _ _ _ => isTrue trivial

def ReadyInTurn : PlanDocument → List PlannedAction → Prop
  | _, [] => True
  | plan, action :: actions =>
    (∀ step ∈ plan.steps.find? fun step => step.stepId = action.stepId, plan.Ready step) ∧
    ReadyInTurn (recordStepResult ⟨plan, action.stepId, .completed⟩) actions

instance decidableReadyInTurn : (plan : PlanDocument) → (actions : List PlannedAction) →
    Decidable (ReadyInTurn plan actions)
  | _, [] => isTrue trivial
  | plan, action :: actions =>
    have := decidableReadyInTurn (recordStepResult ⟨plan, action.stepId, .completed⟩) actions
    inferInstanceAs (Decidable ((∀ step ∈ plan.steps.find? fun step => step.stepId = action.stepId,
      plan.Ready step) ∧
      ReadyInTurn (recordStepResult ⟨plan, action.stepId, .completed⟩) actions))

namespace DeepLoopCoordinator

variable {σ : Type} {c : DeepLoopCoordinator σ}

def NamesReady (t : List (Call σ)) : Prop :=
  ∀ request actions, .nextActions request (.ok actions) ∈ t → ReadyInTurn request.plan actions

def OnlyReady (t : List (Call σ)) : Prop := ∀ x ∈ t, x.OnReady

instance (t : List (Call σ)) : Decidable (OnlyReady t) :=
  inferInstanceAs (Decidable (∀ x ∈ t, x.OnReady))

variable {t u : List (Call σ)}

lemma OnlyReady.append (ht : OnlyReady t) (hu : OnlyReady u) : OnlyReady (t ++ u) :=
  List.forall_mem_append.mpr ⟨ht, hu⟩

lemma onlyReady_mediating (ht : ∀ x ∈ t, x.Mediating) : OnlyReady t := by
  intro x hx
  have := ht x hx
  cases x <;> trivial

lemma namesReady_append : NamesReady (t ++ u) ↔ NamesReady t ∧ NamesReady u := by
  simp only [NamesReady, List.mem_append, or_imp, forall_and]

section

variable {s s' s₁ : LoopState} {action : PlannedAction} {step : PlanStep}
  {stepContext : Option String} {w : World σ} {o : Ran σ}

lemma Emitted.onlyReady {subtask : SubtaskEnvelope} (hready : s.plan.Ready step)
    (he : c.Emitted s step subtask w o) : OnlyReady o.trace := by
  cases he <;> simp [OnlyReady, Call.OnReady, hready]

lemma Emitted.next_plan (hp : c.RecordsItself) {subtask : SubtaskEnvelope}
    (he : c.Emitted s step subtask w o) (hr : o.result = .ok (.next s')) :
    s'.plan = recordStepResult ⟨s.plan, step.stepId, .completed⟩ := by
  cases he with
  | refused _ => cases hr
  | unrecorded _ _ => cases hr
  | emitted _ ha =>
    rw [hp] at ha
    cases ha
    cases hr
    rfl

lemma Delegated.onlyReady (hready : s.plan.Ready step) (hd : c.Delegated s step w o) :
    OnlyReady o.trace := by
  have hchoose : ∀ {m r d}, OnlyReady ([.chooseDelegate m r d] : List (Call σ)) := by
    simp [OnlyReady, Call.OnReady]
  cases hd with
  | unchosen _ => exact hchoose
  | refused _ _ _ => exact hchoose.append (onlyReady_mediating refusal_mediating)
  | handed _ _ he =>
    exact (hchoose.append (onlyReady_mediating c.authorised_mediating)).append (he.onlyReady hready)

lemma Delegated.next_plan (hp : c.RecordsItself) (hd : c.Delegated s step w o)
    (hr : o.result = .ok (.next s')) :
    s'.plan = recordStepResult ⟨s.plan, step.stepId, .completed⟩ := by
  cases hd with
  | unchosen _ => cases hr
  | refused _ _ _ => cases hr
  | handed _ _ he => exact he.next_plan hp hr

lemma Closed.onlyReady {operation : RuntimeOperation} {report : DeepLoopRun}
    (hc : c.Closed operation report w o) : OnlyReady o.trace := by
  cases hc with
  | refused _ => exact onlyReady_mediating refusal_mediating
  | closed _ => exact onlyReady_mediating c.authorised_mediating

lemma Judged.onlyReady {verdict : ReviewVerdict} (hready : s.plan.Ready step)
    (hj : c.Judged s step stepContext w verdict o) : OnlyReady o.trace := by
  cases hj with
  | unrecorded _ _ => simp [OnlyReady, Call.OnReady]
  | recorded _ _ => simp [OnlyReady, Call.OnReady]
  | unrevised _ => simp [OnlyReady, Call.OnReady]
  | revised _ => simp [OnlyReady, Call.OnReady]
  | unchosen _ => simp [OnlyReady, Call.OnReady]
  | handed _ he =>
    exact OnlyReady.append (by simp [OnlyReady, Call.OnReady]) (he.onlyReady hready)
  | failed hc => exact hc.onlyReady

lemma Judged.next_plan (hp : c.RecordsItself) {verdict : ReviewVerdict}
    (hj : c.Judged s step stepContext w verdict o) (hr : o.result = .ok (.next s')) :
    s'.plan = recordStepResult ⟨s.plan, step.stepId, .completed⟩ := by
  cases hj with
  | unrecorded _ _ => cases hr
  | recorded _ ha =>
    rw [hp] at ha
    cases ha
    cases hr
    rfl
  | unrevised _ => cases hr
  | revised _ => cases hr
  | unchosen _ => cases hr
  | handed _ he => exact he.next_plan hp hr
  | failed hc =>
    cases hc with
    | refused _ => cases hr
    | closed _ => cases hr

lemma Produced.onlyReady {body : String} {env : σ} {calls : List (Call σ)}
    (hready : s.plan.Ready step) (hp : c.Produced s step stepContext w body s₁ env calls) :
    OnlyReady calls := by
  cases hp <;> simp [OnlyReady, Call.OnReady, hready]

lemma Worked.onlyReady (hready : s.plan.Ready step)
    (hw : c.Worked s action step stepContext w o) : OnlyReady o.trace := by
  have hstored : ∀ {w' : World σ} {r a}, OnlyReady [.createArtifact ⟨s.plan, step, w'⟩ r a] := by
    simp [OnlyReady, Call.OnReady, hready]
  have hreviewed : ∀ {w' : World σ} {r a q b},
      OnlyReady [.createArtifact ⟨s.plan, step, w'⟩ r a, .reviewStep q b] := by
    simp [OnlyReady, Call.OnReady, hready]
  cases hw with
  | unexecuted _ _ => simp [OnlyReady, Call.OnReady, hready]
  | unstored hp _ => exact (hp.onlyReady hready).append hstored
  | unreviewed hp _ _ => exact (hp.onlyReady hready).append hreviewed
  | invalid hp _ _ _ => exact (hp.onlyReady hready).append hreviewed
  | @judged body s₁ calls artifact outcome env env₁ env' o hp _ _ _ hj =>
    have hready' : (s₁.stored artifact).plan.Ready step := by
      rw [show (s₁.stored artifact).plan = s.plan from hp.plan]
      exact hready
    exact ((hp.onlyReady hready).append hreviewed).append (hj.onlyReady hready')

lemma Worked.next_plan (hp : c.RecordsItself) (hw : c.Worked s action step stepContext w o)
    (hr : o.result = .ok (.next s')) :
    s'.plan = recordStepResult ⟨s.plan, step.stepId, .completed⟩ := by
  cases hw with
  | unexecuted _ _ => cases hr
  | unstored _ _ => cases hr
  | unreviewed _ _ _ => cases hr
  | invalid _ _ _ _ => cases hr
  | @judged body s₁ calls artifact outcome env env₁ env' o hprod _ _ _ hj =>
    have hs : (s₁.stored artifact).plan = s.plan := hprod.plan
    rw [← hs]
    exact hj.next_plan hp hr

lemma Executed.onlyReady (hready : s.plan.Ready step)
    (he : c.Executed s action step stepContext w o) : OnlyReady o.trace := by
  cases he with
  | refused _ => exact onlyReady_mediating ticking_mediating
  | ticked _ hw => exact (onlyReady_mediating ticking_mediating).append (hw.onlyReady hready)

lemma Executed.next_plan (hp : c.RecordsItself) (he : c.Executed s action step stepContext w o)
    (hr : o.result = .ok (.next s')) :
    s'.plan = recordStepResult ⟨s.plan, step.stepId, .completed⟩ := by
  cases he with
  | refused _ => cases hr
  | ticked _ hw => exact hw.next_plan hp hr

lemma Acted.onlyReady
    (hready : ∀ step ∈ s.plan.steps.find? fun step => step.stepId = action.stepId,
      s.plan.Ready step)
    (ha : c.Acted s action w o) : OnlyReady o.trace := by
  have hcontext : ∀ {r a}, OnlyReady ([.buildContext r a] : List (Call σ)) := by
    simp [OnlyReady, Call.OnReady]
  cases ha with
  | missing _ => simp [OnlyReady]
  | noContext _ => exact hcontext
  | delegated hf _ _ hd => exact hcontext.append (hd.onlyReady (hready _ hf))
  | executed hf _ _ he => exact hcontext.append (he.onlyReady (hready _ hf))

lemma Acted.next_plan (hp : c.RecordsItself) (ha : c.Acted s action w o)
    (hr : o.result = .ok (.next s')) :
    s'.plan = recordStepResult ⟨s.plan, action.stepId, .completed⟩ := by
  cases ha with
  | missing _ => cases hr
  | noContext _ => cases hr
  | delegated hf _ _ hd => exact LlmPlanning.stepId_of_find hf ▸ hd.next_plan hp hr
  | executed hf _ _ he => exact LlmPlanning.stepId_of_find hf ▸ he.next_plan hp hr

lemma Settled.onlyReady {planContext : Option String} (hs : c.Settled s planContext w o) :
    OnlyReady o.trace := by
  have hcheck : ∀ {r a}, OnlyReady ([.evaluateCompletion r a] : List (Call σ)) := by
    simp [OnlyReady, Call.OnReady]
  have hfinal : ∀ {r a q b},
      OnlyReady ([.evaluateCompletion r a, .reviewFinal q b] : List (Call σ)) := by
    simp [OnlyReady, Call.OnReady]
  cases hs with
  | delegating _ => simp [OnlyReady]
  | unchecked _ _ => exact hcheck
  | incomplete _ _ => exact hcheck
  | unsatisfied _ _ hc => exact hcheck.append hc.onlyReady
  | unreviewed _ _ _ => exact hfinal
  | invalid _ _ _ _ => exact hfinal
  | failed _ _ _ _ _ hc => exact hfinal.append hc.onlyReady
  | completed _ _ _ _ _ hc => exact hfinal.append hc.onlyReady

end

lemma actions_onlyReady (hp : c.RecordsItself) (actions : List PlannedAction) (s : LoopState)
    (w : World σ) (h : ReadyInTurn s.plan actions) :
    OnlyReady ((Traced.forEach c.runAction s actions).run w).trace := by
  refine @Traced.forEach_rule _ _ _ _ _ _ c.runAction
    (fun actions s _ o => ReadyInTurn s.plan actions → OnlyReady o.trace) ?_ ?_ ?_ ?_ actions s w h
  · exact fun _ _ _ => by simp [OnlyReady]
  · intro action actions s w s' w' t o hr ho h
    have ha := c.runAction_cases s action w
    rw [hr] at ha
    have ht : OnlyReady t := ha.onlyReady h.1
    have hplan : s'.plan = recordStepResult ⟨s.plan, action.stepId, .completed⟩ :=
      ha.next_plan hp rfl
    exact ht.append (ho (hplan ▸ h.2))
  · intro action _ s w r w' t hr h
    have ha := c.runAction_cases s action w
    rw [hr] at ha
    exact ha.onlyReady h.1
  · intro action _ s w e w' t hr h
    have ha := c.runAction_cases s action w
    rw [hr] at ha
    exact ha.onlyReady h.1

lemma iteration_onlyReady (hp : c.RecordsItself) (s : LoopState) (i : ℕ) (w : World σ)
    (h : NamesReady ((c.runIteration s i).run w).trace) :
    OnlyReady ((c.runIteration s i).run w).trace := by
  have hi := c.runIteration_cases s i w
  generalize (c.runIteration s i).run w = o at hi h
  cases hi with
  | noContext _ => simp [OnlyReady, Call.OnReady]
  | noActions _ _ => simp [OnlyReady, Call.OnReady]
  | settled _ _ hs => exact OnlyReady.append (by simp [OnlyReady, Call.OnReady]) hs.onlyReady
  | acted _ _ _ =>
    refine OnlyReady.append (by simp [OnlyReady, Call.OnReady]) (actions_onlyReady hp _ _ _ ?_)
    exact h _ _ (List.mem_cons_of_mem _ (List.mem_cons_self ..))

lemma run_onlyReady (hp : c.RecordsItself) (plan : PlanDocument) (w : World σ)
    (h : NamesReady ((c.run plan).run w).trace) : OnlyReady ((c.run plan).run w).trace := by
  have hseq : Traced.Sequential fun (_ : LoopState) (_ : World σ) (o : Ran σ) =>
      NamesReady o.trace → OnlyReady o.trace :=
    { skip := fun _ _ _ => by simp [OnlyReady]
      seq := fun h h' hn =>
        (h (namesReady_append.mp hn).1).append (h' (namesReady_append.mp hn).2) }
  refine run_of_iterations hseq (iteration_onlyReady hp)
    (P := fun o => NamesReady o.trace → OnlyReady o.trace) ?_ ?_ h
  · exact fun _ _ _ hs _ => onlyReady_mediating hs.mediating
  · intro w₁ t o hs ho hn
    exact (onlyReady_mediating hs.mediating).append (ho (namesReady_append.mp hn).2)

theorem only_ready_steps_run (c : DeepLoopCoordinator σ) (llm : LlmProvider σ)
    (codecs : PlanningCodecs) (plan : PlanDocument) (w : World σ)
    (h : NamesReady (((c.withPlanner (LlmPlanningProvider llm codecs)).run plan).run w).trace) :
    OnlyReady (((c.withPlanner (LlmPlanningProvider llm codecs)).run plan).run w).trace :=
  run_onlyReady (llmPlanner_recordsItself c llm codecs) plan w h

def namesReady : Call σ → Bool
  | .nextActions request (.ok actions) => ReadyInTurn request.plan actions
  | _ => true

lemma namesReady_of_all (ht : t.all namesReady = true) : NamesReady t := by
  rw [List.all_eq_true] at ht
  exact fun request actions hm => of_decide_eq_true (ht _ hm)

theorem only_ready_steps_run_scripted :
    OnlyReady (Script.runLlm ⟨.noop, .accept, .accept, 3⟩ [Script.step "a" .toolCall .ready [],
      Script.step "b" .toolCall .pending ["a"]] [Script.reply "a", Script.reply "b", "[]"]).trace :=
  only_ready_steps_run (Script.coordinatorOf ⟨.noop, .accept, .accept, 3⟩
      (LlmPlanningProvider Script.llm (Script.codecs []))) Script.llm (Script.codecs [])
    (Script.plan [Script.step "a" .toolCall .ready [], Script.step "b" .toolCall .pending ["a"]])
    ⟨[Script.reply "a", Script.reply "b", "[]"], Script.task .created⟩ 
    (namesReady_of_all (by decide +kernel))

theorem pending_step_executed :
    validatePlan (Script.plan [Script.step "a" .toolCall .ready [],
      Script.step "b" .toolCall .pending ["a"]]) = .ok () ∧
    ¬OnlyReady (Script.runLlm ⟨.noop, .accept, .accept, 3⟩ [Script.step "a" .toolCall .ready [],
      Script.step "b" .toolCall .pending ["a"]] [Script.reply "b", Script.reply "a", "[]"]).trace :=
  ⟨by rfl, by decide +kernel⟩

end DeepLoopCoordinator

end GreenticDw

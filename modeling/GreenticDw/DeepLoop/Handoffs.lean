import GreenticDw.DeepLoop.Transitions
import GreenticDw.Providers.Subtasks

namespace GreenticDw

open Text (isBlank isBlank_iff isBlank_append_left)

section

variable {σ : Type}

structure Populated (step : PlanStep) (decision : DelegationDecision) : Prop where
  title : isBlank step.title = false
  target : decision.mode ≠ .none → ∀ agent ∈ decision.targetAgents.head?, isBlank agent = false
  assigned : decision.mode = .none ∨ decision.targetAgents = [] →
    ∀ agent ∈ step.assignedAgent, isBlank agent = false
  schema : ∀ schema ∈ step.outputSchemaRef, isBlank schema = false

namespace Call

def ValidHandoff : Call σ → Prop
  | .startSubtask _ request _ => validateSubtaskEnvelope request.envelope = .ok ()
  | _ => True

instance : (x : Call σ) → Decidable x.ValidHandoff
  | .startSubtask _ request _ =>
    inferInstanceAs (Decidable (validateSubtaskEnvelope request.envelope = .ok ()))
  | .runtime _ | .operation _ _ _ | .tick _ _ | .buildContext _ _ | .nextActions _ _
  | .evaluateCompletion _ _ | .recordStepResult _ _ | .revisePlan _ _ | .reviewStep _ _
  | .reviewFinal _ _ | .chooseDelegate _ _ _ | .executeStep _ _ _
  | .createArtifact _ _ _ => isTrue trivial

def decision : Call σ → Option DelegationDecision
  | .chooseDelegate _ _ (.ok decision) => some decision
  | _ => none

end Call

def Call.choice : Call σ → Option (PlanStep × DelegationRequest × DelegationDecision)
  | .chooseDelegate moment request (.ok decision) => some (moment.step, request, decision)
  | _ => none

def lastDecision (h : List (Call σ)) : Option DelegationDecision :=
  (h.filterMap Call.decision).getLast?

def lastChoice (h : List (Call σ)) : Option (PlanStep × DelegationRequest × DelegationDecision) :=
  (h.filterMap Call.choice).getLast?

def FromPopulated (h : List (Call σ)) : Call σ → Prop
  | .startSubtask moment _ _ => ∀ decision ∈ lastDecision h, Populated moment.step decision
  | _ => True

def Built (h : List (Call σ)) : Call σ → Prop
  | .startSubtask moment request _ => ∃ decision, lastDecision h = some decision ∧
      request.envelope = buildSubtaskEnvelope moment.world.envelope moment.step decision
  | _ => True

def Chosen (h : List (Call σ)) : Call σ → Prop
  | .startSubtask moment request _ => ∃ goal decision,
      lastChoice h = some (moment.step, delegationRequest moment.step goal, decision) ∧
        request.envelope = buildSubtaskEnvelope moment.world.envelope moment.step decision
  | _ => True

lemma isBlank_getD {value : Option String} {fallback : String} (hf : isBlank fallback = false) :
    isBlank (value.getD fallback) = false ↔ ∀ s ∈ value, isBlank s = false := by
  cases value <;> simp [hf]

lemma subtaskTarget_populated_iff (step : PlanStep) (decision : DelegationDecision) :
    isBlank (subtaskTarget step decision) = false ↔
      (decision.mode ≠ .none → ∀ agent ∈ decision.targetAgents.head?, isBlank agent = false) ∧
      (decision.mode = .none ∨ decision.targetAgents = [] →
        ∀ agent ∈ step.assignedAgent, isBlank agent = false) := by
  have hf : isBlank "delegate" = false := by decide
  cases hm : decision.mode with
  | none => simp [subtaskTarget, hm, isBlank_getD hf]
  | _ => 
    rcases ht : decision.targetAgents with _ | ⟨agent, agents⟩
    · simp [subtaskTarget, hm, ht, isBlank_getD hf]
    · simp [subtaskTarget, hm, ht]

lemma toolId_populated (agent : Option String) :
    isBlank ((agent.map (· ++ "_delegate")).getD "delegate") = false := by
  cases agent with
  | none => decide
  | some agent => exact Text.isBlank_append_right agent (by decide)

lemma buildSubtaskEnvelope_valid_iff {task : TaskEnvelope} (step : PlanStep)
    (decision : DelegationDecision) (htask : isBlank task.taskId = false)
    (hworker : isBlank task.workerId = false) :
    validateSubtaskEnvelope (buildSubtaskEnvelope task step decision) = .ok () ↔
      Populated step decision := by
  have htool := toolId_populated step.assignedAgent
  have hid : isBlank (task.taskId ++ "::" ++ step.stepId) = false :=
    isBlank_append_left (isBlank_append_left htask _) _
  have hcorrelation := isBlank_append_left hid "::delegation"
  have hcontext : isBlank ("context://" ++ step.stepId) = false :=
    isBlank_append_left (by decide) _
  have hschema := @isBlank_getD step.outputSchemaRef "schema://step-output" (by decide)
  have htarget := subtaskTarget_populated_iff step decision
  rw [validateSubtaskEnvelope, rejectBlank_eq_ok]
  simp only [SubtaskEnvelope.fields, buildSubtaskEnvelope, List.forall_mem_cons, htarget, hschema,
    htask, hworker, htool, hid, hcorrelation, hcontext, List.not_mem_nil, false_implies,
    implies_true, true_and, and_true]
  constructor
  · rintro ⟨⟨htarget, hassigned⟩, htitle, hschema, _⟩
    exact ⟨htitle, htarget, hassigned, hschema⟩
  · intro h
    exact ⟨⟨h.target, h.assigned⟩, h.title, h.schema, by decide, by decide⟩

section

variable {h t : List (Call σ)} {decision : DelegationDecision}

lemma lastDecision_eq (h : List (Call σ)) :
    lastDecision h = (lastChoice h).map fun choice => choice.2.2 := by
  have hdecision : (Call.decision : Call σ → Option DelegationDecision) =
      fun x => x.choice.map fun choice => choice.2.2 := by
    funext x
    cases x with
    | chooseDelegate m r answer => cases answer <;> rfl
    | _ => rfl
  rw [lastDecision, lastChoice, hdecision, ← List.getLast?_map, List.map_filterMap]

lemma lastChoice_choose {m : Moment σ} {r : DelegationRequest} :
    lastChoice (h ++ [.chooseDelegate m r (.ok decision)]) = some (m.step, r, decision) := by
  simp [lastChoice, Call.choice]

lemma lastChoice_mediating {choice : PlanStep × DelegationRequest × DelegationDecision}
    (hd : lastChoice h = some choice) (ht : ∀ x ∈ t, x.Mediating) :
    lastChoice (h ++ t) = some choice := by
  have hnone : t.filterMap Call.choice = [] := by
    apply List.filterMap_eq_nil_iff.mpr
    intro x hx
    have := ht x hx
    cases x <;> first | rfl | exact this.elim
  rw [lastChoice, List.filterMap_append, hnone, List.append_nil]
  exact hd

lemma Chosen.built {x : Call σ} (hx : Chosen h x) : Built h x := by
  cases x with
  | startSubtask moment request answer =>
    obtain ⟨goal, decision, hchoice, henvelope⟩ := hx
    refine ⟨decision, ?_, henvelope⟩
    rw [lastDecision_eq, hchoice]
    rfl
  | _ => trivial

lemma chosen_mediating (ht : ∀ x ∈ t, x.Mediating) : Always Chosen h t := by
  apply always_of_forall
  intro x hx g
  have := ht x hx
  cases x <;> first | exact this.elim | trivial

lemma chosen_quiet (ht : ∀ x ∈ t, x.Quiet) : Always Chosen h t := by
  apply always_of_forall
  intro x hx g
  have := ht x hx
  cases x <;> first | exact this.elim | trivial

end

namespace DeepLoopCoordinator

variable {c : DeepLoopCoordinator σ} {s s₁ : LoopState} {action : PlannedAction} {step : PlanStep}
  {stepContext : Option String} {w : World σ} {o : Ran σ} {h : List (Call σ)}

lemma Emitted.chosen {goal : String} {decision : DelegationDecision} {subtask : SubtaskEnvelope}
    (he : c.Emitted s step subtask w o)
    (hd : lastChoice h = some (step, delegationRequest step goal, decision))
    (hsub : subtask = buildSubtaskEnvelope w.envelope step decision) :
    Always Chosen h o.trace := by
  have hb : ∀ answer, Chosen h (.startSubtask ⟨s.plan, step, w⟩ ⟨subtask⟩ answer) :=
    fun _ => ⟨goal, decision, hd, hsub⟩
  cases he with
  | refused _ => exact ⟨hb _, trivial⟩
  | unrecorded _ _ => exact ⟨hb _, trivial, trivial⟩
  | emitted _ _ => exact ⟨hb _, trivial, trivial⟩

lemma Delegated.chosen (hd : c.Delegated s step w o) : Always Chosen h o.trace := by
  cases hd with
  | unchosen _ => exact ⟨trivial, trivial⟩
  | refused _ _ _ => exact ⟨trivial, chosen_mediating refusal_mediating⟩
  | @handed decision event envelope _ _ _ _ hc he =>
    have hcalls : ∀ x ∈ c.authorised w.envelope event envelope, x.Mediating :=
      c.authorised_mediating
    refine (always_append _ _ _).mpr ⟨⟨trivial, chosen_mediating hcalls⟩, ?_⟩
    have hlast := lastChoice_mediating (h := h ++ [.chooseDelegate ⟨s.plan, step, w⟩
      (delegationRequest step step.title) (.ok decision)]) lastChoice_choose hcalls
    rw [List.append_assoc, List.singleton_append] at hlast
    exact he.chosen hlast
      (buildSubtaskEnvelope_same (Core.applyOperation_same hc) step decision).symm

lemma Closed.chosen {operation : RuntimeOperation} {report : DeepLoopRun}
    (hc : c.Closed operation report w o) : Always Chosen h o.trace := by
  cases hc with
  | refused _ => exact chosen_mediating refusal_mediating
  | closed _ => exact chosen_mediating c.authorised_mediating

lemma Judged.chosen {verdict : ReviewVerdict} (hj : c.Judged s step stepContext w verdict o) :
    Always Chosen h o.trace := by
  cases hj with
  | unrecorded _ _ => exact ⟨trivial, trivial⟩
  | recorded _ _ => exact ⟨trivial, trivial⟩
  | unrevised _ => exact ⟨trivial, trivial⟩
  | revised _ => exact ⟨trivial, trivial⟩
  | unchosen _ => exact ⟨trivial, trivial⟩
  | handed _ he => exact ⟨trivial, he.chosen lastChoice_choose rfl⟩
  | failed hc => exact hc.chosen

lemma Produced.chosen {body : String} {env : σ} {calls : List (Call σ)}
    (hp : c.Produced s step stepContext w body s₁ env calls) : Always Chosen h calls := by
  cases hp with
  | placeholder _ => trivial
  | executed _ _ => exact ⟨trivial, trivial⟩

lemma Worked.chosen (hw : c.Worked s action step stepContext w o) : Always Chosen h o.trace := by
  cases hw with
  | unexecuted _ _ => exact ⟨trivial, trivial⟩
  | unstored hp _ => exact (always_append _ _ _).mpr ⟨hp.chosen, trivial, trivial⟩
  | unreviewed hp _ _ => exact (always_append _ _ _).mpr ⟨hp.chosen, trivial, trivial, trivial⟩
  | invalid hp _ _ _ => exact (always_append _ _ _).mpr ⟨hp.chosen, trivial, trivial, trivial⟩
  | judged hp _ _ _ hj =>
    refine (always_append _ _ _).mpr ⟨(always_append _ _ _).mpr ⟨hp.chosen, ?_⟩, hj.chosen⟩
    exact ⟨trivial, trivial, trivial⟩

lemma Executed.chosen (he : c.Executed s action step stepContext w o) :
    Always Chosen h o.trace := by
  cases he with
  | refused _ => exact chosen_mediating ticking_mediating
  | ticked _ hw =>
    exact (always_append _ _ _).mpr ⟨chosen_mediating ticking_mediating, hw.chosen⟩

lemma Acted.chosen (ha : c.Acted s action w o) : Always Chosen h o.trace := by
  cases ha with
  | missing _ => trivial
  | noContext _ => exact ⟨trivial, trivial⟩
  | delegated _ _ _ hd => exact ⟨trivial, hd.chosen⟩
  | executed _ _ _ he => exact ⟨trivial, he.chosen⟩

lemma Settled.chosen {planContext : Option String} (hs : c.Settled s planContext w o) :
    Always Chosen h o.trace := by
  cases hs with
  | delegating _ => trivial
  | unchecked _ _ => exact ⟨trivial, trivial⟩
  | incomplete _ _ => exact ⟨trivial, trivial⟩
  | unsatisfied _ _ hc => exact ⟨trivial, hc.chosen⟩
  | unreviewed _ _ _ => exact ⟨trivial, trivial, trivial⟩
  | invalid _ _ _ _ => exact ⟨trivial, trivial, trivial⟩
  | failed _ _ _ _ _ hc => exact ⟨trivial, trivial, hc.chosen⟩
  | completed _ _ _ _ _ hc => exact ⟨trivial, trivial, hc.chosen⟩

lemma chosen_invariant : c.LoopInvariant fun _ _ o => ∀ h, Always Chosen h o.trace where
  skip _ _ _ := trivial
  seq ht ho h := (always_append _ _ _).mpr ⟨ht h, ho _⟩
  halt _ _ _ _ := trivial
  quiet ht ho _ := (always_append _ _ _).mpr ⟨chosen_quiet ht, ho _⟩
  acted ha _ := ha.chosen
  settled hs _ := hs.chosen

lemma run_chosen (c : DeepLoopCoordinator σ) (plan : PlanDocument) (w : World σ) :
    Always Chosen [] ((c.run plan).run w).trace := by
  refine chosen_invariant.run (P := fun o => Always Chosen [] o.trace) ?_ ?_
  · exact fun _ _ _ hs => chosen_mediating hs.mediating
  · exact fun _ _ _ hs ho => (always_append _ _ _).mpr ⟨chosen_mediating hs.mediating, ho _⟩

lemma run_built (c : DeepLoopCoordinator σ) (plan : PlanDocument) (w : World σ) :
    Always Built [] ((c.run plan).run w).trace := by
  rw [always_iff]
  intro pre x post hx
  exact ((always_iff _ _).mp (c.run_chosen plan w) pre x post hx).built

lemma Follows.validHandoff_iff {task : TaskEnvelope} {t pre post : List (Call σ)} {x : Call σ}
    (ht : c.Follows task s t) (hb : Always Built [] t) (htask : isBlank task.taskId = false)
    (hworker : isBlank task.workerId = false) (hx : t = pre ++ x :: post) :
    x.ValidHandoff ↔ FromPopulated pre x := by
  have hfits := ht.fits hx
  have hbuilt : Built pre x := (always_iff [] t).mp hb pre x post hx
  cases x with
  | startSubtask moment request answer =>
    obtain ⟨decision, hd, henvelope⟩ := hbuilt
    have hsame : task.Same moment.world.envelope := hfits.1.task
    have hvalid := buildSubtaskEnvelope_valid_iff moment.step decision (hsame.taskId.symm ▸ htask)
      (hsame.workerId.symm ▸ hworker)
    rw [← henvelope] at hvalid
    refine hvalid.trans ⟨fun h d hd' => ?_, fun h => h decision hd⟩
    rw [hd] at hd'
    exact Option.some.inj hd' ▸ h
  | _ => exact Iff.rfl

theorem emitted_handoffs (c : DeepLoopCoordinator σ) (plan : PlanDocument)
    (hplan : validatePlan plan = .ok ()) (w : World σ)
    (htask : isBlank w.envelope.taskId = false) (hworker : isBlank w.envelope.workerId = false) :
    ((∀ x ∈ ((c.run plan).run w).trace, x.ValidHandoff) ↔
      Always FromPopulated [] ((c.run plan).run w).trace) ∧
    (c.RecordsItself → ∀ moment request answer,
      .startSubtask moment request answer ∈ ((c.run plan).run w).trace →
        isBlank moment.step.title = false) := by
  have ht := (c.run_replayed plan w).calls
  refine ⟨?_, ?_⟩
  · rw [always_iff]
    constructor
    · intro hall pre x post hx
      have hm : x ∈ ((c.run plan).run w).trace := hx ▸ List.mem_append_cons_self
      exact (ht.validHandoff_iff (c.run_built plan w) htask hworker hx).mp (hall x hm)
    · intro hall x hm
      obtain ⟨pre, post, hx⟩ := List.append_of_mem hm
      exact (ht.validHandoff_iff (c.run_built plan w) htask hworker hx).mpr (hall pre x post hx)
  · intro hp moment request answer hm
    obtain ⟨pre, post, hx⟩ := List.append_of_mem hm
    have hfits := (ht.fits hx).1
    rw [hx, follows_append] at ht
    have hvalid := validatePlan_congr (ht.1.frame hp)
    exact validatePlan_titled (hvalid.trans hplan) _ hfits.step

theorem emitted_handoffs_scripted :
    ((∀ x ∈ (Script.run ⟨.operation .step, .accept, .accept, 3⟩ .created
        [Script.step "a" .delegate .ready []] [[⟨"a", "go"⟩]]).trace, x.ValidHandoff) ↔
      Always FromPopulated [] (Script.run ⟨.operation .step, .accept, .accept, 3⟩ .created
        [Script.step "a" .delegate .ready []] [[⟨"a", "go"⟩]]).trace) ∧
    ((Script.coordinator ⟨.operation .step, .accept, .accept, 3⟩).RecordsItself →
      ∀ moment request answer, .startSubtask moment request answer ∈
        (Script.run ⟨.operation .step, .accept, .accept, 3⟩ .created
          [Script.step "a" .delegate .ready []] [[⟨"a", "go"⟩]]).trace →
        isBlank moment.step.title = false) :=
  emitted_handoffs (Script.coordinator ⟨.operation .step, .accept, .accept, 3⟩)
    (Script.plan [Script.step "a" .delegate .ready []]) (by decide +kernel)
    ⟨[[⟨"a", "go"⟩]], Script.task .created⟩ (by decide) (by decide)

theorem blank_schema_handed_over :
    validatePlan (Script.plan [{ Script.step "a" .delegate .ready [] with
      outputSchemaRef := some " " }]) = .ok () ∧
    ¬∀ x ∈ (Script.run ⟨.operation .step, .accept, .accept, 3⟩ .created
      [{ Script.step "a" .delegate .ready [] with outputSchemaRef := some " " }]
      [[⟨"a", "go"⟩]]).trace, x.ValidHandoff :=
  ⟨by decide +kernel, by decide +kernel⟩

end DeepLoopCoordinator

end

end GreenticDw

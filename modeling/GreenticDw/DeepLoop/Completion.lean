import GreenticDw.DeepLoop.Lifecycle
import GreenticDw.DeepLoop.PlanFrame

namespace GreenticDw

namespace Call

variable {σ : Type}

def workedId : Call σ → Option String
  | .createArtifact moment _ (.ok _) => some moment.step.stepId
  | .startSubtask moment _ (.ok _) => some moment.step.stepId
  | _ => none

def namedIds : Call σ → List String
  | .nextActions _ (.ok actions) => actions.map PlannedAction.stepId
  | _ => []

def Checked (c : DeepLoopCoordinator σ) : Call σ → Prop
  | .evaluateCompletion request answer =>
    ∃ env, (c.planner.evaluateCompletion request env).1 = answer
  | _ => True

end Call

namespace DeepLoopCoordinator

variable {σ : Type} {c : DeepLoopCoordinator σ}

def workedIds (t : List (Call σ)) : List String := t.filterMap Call.workedId

def namedIds (t : List (Call σ)) : List String := t.flatMap Call.namedIds

variable {t u : List (Call σ)}

lemma workedOn_iff {stepId : String} : WorkedOn t stepId ↔ stepId ∈ workedIds t := by
  rw [workedIds, List.mem_filterMap]
  constructor
  · rintro ⟨moment, rfl, ⟨request, artifact, h⟩ | ⟨request, handle, h⟩⟩
    · exact ⟨_, h, rfl⟩
    · exact ⟨_, h, rfl⟩
  · rintro ⟨x, hx, hid⟩
    cases x with
    | createArtifact moment request answer =>
      cases answer with
      | error e => cases hid
      | ok artifact =>
        obtain rfl : moment.step.stepId = stepId := Option.some.inj hid
        exact ⟨moment, rfl, Or.inl ⟨request, artifact, hx⟩⟩
    | startSubtask moment request answer =>
      cases answer with
      | error e => cases hid
      | ok handle =>
        obtain rfl : moment.step.stepId = stepId := Option.some.inj hid
        exact ⟨moment, rfl, Or.inr ⟨request, handle, hx⟩⟩
    | _ => cases hid

instance (t : List (Call σ)) (stepId : String) : Decidable (WorkedOn t stepId) :=
  decidable_of_iff _ workedOn_iff.symm

lemma workedIds_append : workedIds (t ++ u) = workedIds t ++ workedIds u :=
  List.filterMap_append ..

lemma namedIds_append : namedIds (t ++ u) = namedIds t ++ namedIds u :=
  List.flatMap_append

lemma workedIds_mediating (ht : ∀ x ∈ t, x.Mediating) : workedIds t = [] := by
  apply List.filterMap_eq_nil_iff.mpr
  intro x hx
  have := ht x hx
  cases x <;> first | rfl | exact this.elim

lemma namedIds_mediating (ht : ∀ x ∈ t, x.Mediating) : namedIds t = [] := by
  apply List.flatMap_eq_nil_iff.mpr
  intro x hx
  have := ht x hx
  cases x <;> first | rfl | exact this.elim

lemma namedIds_not_settling (ht : ∀ x ∈ t, ¬x.Settling) : namedIds t = [] := by
  apply List.flatMap_eq_nil_iff.mpr
  intro x hx
  have := ht x hx
  cases x <;> first | rfl | exact (this trivial).elim

structure WorksOn (stepId : String) (o : Ran σ) : Prop where
  only : ∀ id ∈ workedIds o.trace, id = stepId
  next : ∀ s', o.result = .ok (.next s') → stepId ∈ workedIds o.trace

section

variable {s s₁ : LoopState} {action : PlannedAction} {step : PlanStep}
  {stepContext : Option String} {stepId : String} {w : World σ} {o : Ran σ}

lemma WorksOn.after (ht : workedIds t = []) (ho : WorksOn stepId o) :
    WorksOn stepId (o.after t) := by
  have htrace : workedIds (o.after t).trace = workedIds o.trace := by
    rw [Outcome.after_trace, workedIds_append, ht, List.nil_append]
  constructor
  · rw [htrace]
    exact ho.only
  · rw [htrace]
    exact ho.next

lemma worksOn_error {e : DeepLoopError} (ht : ∀ id ∈ workedIds t, id = stepId) :
    WorksOn stepId (⟨.error e, w, t⟩ : Ran σ) :=
  ⟨ht, by simp⟩

lemma Emitted.worksOn {subtask : SubtaskEnvelope} (he : c.Emitted s step subtask w o) :
    WorksOn step.stepId o := by
  cases he with
  | refused _ => exact worksOn_error (by simp [workedIds, Call.workedId])
  | unrecorded _ _ => exact worksOn_error (by simp [workedIds, Call.workedId])
  | emitted _ _ => constructor <;> simp [workedIds, Call.workedId]

lemma Delegated.worksOn (hd : c.Delegated s step w o) : WorksOn step.stepId o := by
  have hchoose : ∀ {m r d} {t : List (Call σ)}, (∀ x ∈ t, x.Mediating) →
      workedIds (.chooseDelegate m r d :: t) = [] := by
    intro m r d t ht
    exact (workedIds_append (t := [.chooseDelegate m r d])).trans (workedIds_mediating ht)
  cases hd with
  | unchosen _ => exact worksOn_error (by simp [workedIds, Call.workedId])
  | refused _ _ _ => exact worksOn_error (by simp [hchoose refusal_mediating])
  | handed _ _ he => exact he.worksOn.after (hchoose c.authorised_mediating)

lemma Closed.workedIds_eq_nil {operation : RuntimeOperation} {report : DeepLoopRun}
    (hc : c.Closed operation report w o) : workedIds o.trace = [] := by
  cases hc with
  | refused _ => exact workedIds_mediating refusal_mediating
  | closed _ => exact workedIds_mediating c.authorised_mediating

lemma Judged.worksOnly {verdict : ReviewVerdict}
    (hj : c.Judged s step stepContext w verdict o) : ∀ id ∈ workedIds o.trace, id = step.stepId := by
  cases hj with
  | unrecorded _ _ => simp [workedIds, Call.workedId]
  | recorded _ _ => simp [workedIds, Call.workedId]
  | unrevised _ => simp [workedIds, Call.workedId]
  | revised _ => simp [workedIds, Call.workedId]
  | unchosen _ => simp [workedIds, Call.workedId]
  | handed _ he => exact (he.worksOn.after rfl).only
  | failed hc => simp [hc.workedIds_eq_nil]

lemma Produced.workedIds_eq_nil {body : String} {env : σ} {calls : List (Call σ)}
    (hp : c.Produced s step stepContext w body s₁ env calls) : workedIds calls = [] := by
  cases hp <;> rfl

lemma Worked.worksOn (hw : c.Worked s action step stepContext w o) : WorksOn step.stepId o := by
  have hproduced : ∀ {body : String} {s₁ : LoopState} {env : σ} {calls t : List (Call σ)},
      c.Produced s step stepContext w body s₁ env calls →
      workedIds (calls ++ t) = workedIds t := by
    intro body s₁ env calls t hp
    rw [workedIds_append, hp.workedIds_eq_nil, List.nil_append]
  cases hw with
  | unexecuted _ _ => exact worksOn_error (by simp [workedIds, Call.workedId])
  | unstored hp _ => exact worksOn_error (by rw [hproduced hp]; simp [workedIds, Call.workedId])
  | unreviewed hp _ _ => exact worksOn_error (by rw [hproduced hp]; simp [workedIds, Call.workedId])
  | invalid hp _ _ _ => exact worksOn_error (by rw [hproduced hp]; simp [workedIds, Call.workedId])
  | @judged body s₁ calls artifact outcome env env₁ env' o hp _ _ _ hj =>
    have hstored : ∀ {m r v q}, workedIds ([.createArtifact m r (.ok artifact), .reviewStep v q] :
        List (Call σ)) = [m.step.stepId] := rfl
    constructor
    · rw [Outcome.after_trace, workedIds_append, hproduced hp, hstored]
      exact List.forall_mem_cons.mpr ⟨rfl, hj.worksOnly⟩
    · intro s' _
      rw [Outcome.after_trace, workedIds_append, hproduced hp, hstored]
      exact List.mem_cons_self ..

lemma Executed.worksOn (he : c.Executed s action step stepContext w o) :
    WorksOn step.stepId o := by
  cases he with
  | refused _ => exact worksOn_error (by simp [workedIds_mediating ticking_mediating])
  | ticked _ hw => exact hw.worksOn.after (workedIds_mediating ticking_mediating)

lemma Acted.worksOn (ha : c.Acted s action w o) : WorksOn action.stepId o := by
  cases ha with
  | missing _ => exact worksOn_error (by simp [workedIds])
  | noContext _ => exact worksOn_error (by simp [workedIds, Call.workedId])
  | delegated hf _ _ hd => exact LlmPlanning.stepId_of_find hf ▸ hd.worksOn.after rfl
  | executed hf _ _ he => exact LlmPlanning.stepId_of_find hf ▸ he.worksOn.after rfl

lemma Acted.not_completed (ha : c.Acted s action w o) {report : DeepLoopRun}
    (hr : o.result = .ok (.done report)) : report.status ≠ .completed := by
  intro hs
  have hagrees : c.Agrees report o.world o.trace := c.reportAgrees_invariant.acted ha report hr
  obtain ⟨_, _, request, outcome, before, event, _, _, ht⟩ := hagrees.completed hs
  exact ha.not_settling _ (ht.subset (List.mem_cons_self ..)) trivial

lemma Settled.workedIds_eq_nil {planContext : Option String}
    (hs : c.Settled s planContext w o) : workedIds o.trace = [] := by
  cases hs with
  | delegating _ => rfl
  | unchecked _ _ => rfl
  | incomplete _ _ => rfl
  | unsatisfied _ _ hc => exact hc.workedIds_eq_nil
  | unreviewed _ _ _ => rfl
  | invalid _ _ _ _ => rfl
  | failed _ _ _ _ _ hc => exact hc.workedIds_eq_nil
  | completed _ _ _ _ _ hc => exact hc.workedIds_eq_nil

lemma Settled.namedIds_eq_nil {planContext : Option String}
    (hs : c.Settled s planContext w o) : namedIds o.trace = [] := by
  have hclosed : ∀ {operation : RuntimeOperation} {report : DeepLoopRun} {w : World σ} {o : Ran σ}
      {t : List (Call σ)}, c.Closed operation report w o → namedIds t = [] →
      namedIds (o.after t).trace = [] := by
    intro operation report w o t hc ht
    rw [Outcome.after_trace, namedIds_append, ht, namedIds_not_settling hc.not_settling]
    rfl
  cases hs with
  | delegating _ => rfl
  | unchecked _ _ => rfl
  | incomplete _ _ => rfl
  | unsatisfied _ _ hc => exact hclosed hc rfl
  | unreviewed _ _ _ => rfl
  | invalid _ _ _ _ => rfl
  | failed _ _ _ _ _ hc => exact hclosed hc rfl
  | completed _ _ _ _ _ hc => exact hclosed hc rfl

lemma RunCall.checked {x : Call σ} (hx : c.RunCall x) : x.Checked c := by
  cases hx with
  | mediating hm => cases x <;> trivial
  | quiet hq => cases x <;> trivial
  | work hw =>
    have := hw.not_settling
    cases x <;> trivial
  | settling hs =>
    cases hs with
    | mediating hm => cases x <;> trivial
    | checking h => exact ⟨_, congrArg Prod.fst h⟩
    | reviewing => trivial

end

def Succeeds (o : Ran σ) : Prop :=
  (∃ s, o.result = .ok (.next s)) ∨
    ∃ report, o.result = .ok (.done report) ∧ report.status = .completed

lemma not_succeeds_error {e : DeepLoopError} {w : World σ} :
    ¬Succeeds (⟨.error e, w, t⟩ : Ran σ) := by
  simp [Succeeds]

lemma actions_workedIds (actions : List PlannedAction) (s : LoopState) (w : World σ)
    (h : Succeeds ((Traced.forEach c.runAction s actions).run w)) (stepId : String) :
    stepId ∈ workedIds ((Traced.forEach c.runAction s actions).run w).trace ↔
      stepId ∈ actions.map PlannedAction.stepId := by
  refine @Traced.forEach_rule _ _ _ _ _ _ c.runAction (fun actions _ _ o => Succeeds o →
    (stepId ∈ workedIds o.trace ↔ stepId ∈ actions.map PlannedAction.stepId))
    ?_ ?_ ?_ ?_ actions s w h
  · intro _ _ _
    rfl
  · intro action actions s w s' w' t o hr ih ho
    have ha := c.runAction_cases s action w
    rw [hr] at ha
    have hworks : WorksOn action.stepId (⟨.ok (.next s'), w', t⟩ : Ran σ) := ha.worksOn
    have hhead : stepId ∈ workedIds t ↔ stepId = action.stepId :=
      ⟨hworks.only stepId, fun hid => hid ▸ hworks.next s' rfl⟩
    rw [Outcome.after_trace, workedIds_append, List.mem_append, hhead, ih ho, List.map_cons,
      List.mem_cons]
  · intro action actions s w report w' t hr ho
    have ha := c.runAction_cases s action w
    rw [hr] at ha
    obtain ⟨s', hs'⟩ | ⟨report', hr', hcomplete⟩ := ho
    · cases hs'
    · exact (ha.not_completed hr' hcomplete).elim
  · intro action actions s w e w' t _ ho
    exact (not_succeeds_error ho).elim

lemma iteration_workedIds (s : LoopState) (i : ℕ) (w : World σ)
    (h : Succeeds ((c.runIteration s i).run w)) (stepId : String) :
    stepId ∈ workedIds ((c.runIteration s i).run w).trace ↔
      stepId ∈ namedIds ((c.runIteration s i).run w).trace := by
  have hi := c.runIteration_cases s i w
  generalize (c.runIteration s i).run w = o at hi h
  cases hi with
  | noContext _ => exact (not_succeeds_error h).elim
  | noActions _ _ => exact (not_succeeds_error h).elim
  | settled _ _ hs =>
    rw [Outcome.after_trace, workedIds_append, namedIds_append, hs.workedIds_eq_nil,
      hs.namedIds_eq_nil]
    rfl
  | @acted package actions env env' _ _ _ =>
    have hnamed : namedIds ((Traced.forEach c.runAction s actions).run (w.withEnv env')).trace =
        [] := by
      apply namedIds_not_settling
      refine @Traced.forEach_rule _ _ _ _ _ _ c.runAction
        (fun _ _ _ o => ∀ x ∈ o.trace, ¬x.Settling) ?_ ?_ ?_ ?_ actions s (w.withEnv env')
      · exact fun _ _ => by simp
      · intro action _ s w s' w' t o hr ho
        have ha := c.runAction_cases s action w
        rw [hr] at ha
        exact Outcome.forall_after ha.not_settling ho
      · intro action _ s w report w' t hr
        have ha := c.runAction_cases s action w
        rw [hr] at ha
        exact ha.not_settling
      · intro action _ s w e w' t hr
        have ha := c.runAction_cases s action w
        rw [hr] at ha
        exact ha.not_settling
    have hworked := actions_workedIds actions s (w.withEnv env') h stepId
    rw [Outcome.after_trace, workedIds_append, namedIds_append, hnamed, List.append_nil,
      List.mem_append, hworked]
    simp [workedIds, namedIds, Call.workedId, Call.namedIds]

theorem run_workedOn {plan : PlanDocument} {w : World σ} {report : DeepLoopRun}
    (h : ((c.run plan).run w).result = .ok report) (hs : report.status = .completed)
    (stepId : String) :
    WorkedOn ((c.run plan).run w).trace stepId ↔
      stepId ∈ namedIds ((c.run plan).run w).trace := by
  rw [workedOn_iff]
  have hseq : Traced.Sequential fun (_ : LoopState) (_ : World σ) (o : Ran σ) => Succeeds o →
      (stepId ∈ workedIds o.trace ↔ stepId ∈ namedIds o.trace) :=
    { skip := fun _ _ _ => by simp [workedIds, namedIds]
      seq := by
        intro s w s' w' t o ht ho hsucc
        have hhead : stepId ∈ workedIds t ↔ stepId ∈ namedIds t := ht (Or.inl ⟨s', rfl⟩)
        rw [Outcome.after_trace, workedIds_append, namedIds_append, List.mem_append,
          List.mem_append, hhead, ho hsucc] }
  refine run_of_iterations hseq (fun s i w hsucc => iteration_workedIds s i w hsucc stepId)
    (P := fun o => o.result = .ok report →
      (stepId ∈ workedIds o.trace ↔ stepId ∈ namedIds o.trace)) ?_ ?_ h
  · intro e w' t _ hr
    cases hr
  · rintro w₁ t ⟨_ | s | report', w', u⟩ hstart ho hr
    · cases hr
    · cases hr
      cases hs
    · cases hr
      rw [Outcome.after_trace, workedIds_append, namedIds_append,
        workedIds_mediating hstart.mediating, namedIds_mediating hstart.mediating]
      exact ho (Or.inr ⟨_, rfl, hs⟩)

theorem run_done {plan : PlanDocument} {w : World σ} {report : DeepLoopRun}
    (hc : ∀ request env, c.planner.evaluateCompletion request env =
      (.ok (LlmPlanning.evaluateCompletion request), env))
    (h : ((c.run plan).run w).result = .ok report) (hs : report.status = .completed) :
    ∀ step ∈ report.plan.steps, step.status = .completed ∨ step.status = .skipped := by
  obtain ⟨_, _, request, outcome, before, event, _, _, ht⟩ := (run_agrees h).completed hs
  obtain ⟨env, he⟩ := (run_calls c plan w _ (ht.subset (List.mem_cons_self ..))).checked
  rw [hc] at he
  exact LlmPlanning.done_of_satisfied (Except.ok.inj he)

end DeepLoopCoordinator

end GreenticDw

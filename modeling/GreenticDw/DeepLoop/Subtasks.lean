import GreenticDw.DeepLoop.Completion
import GreenticDw.DeepLoop.Outputs

namespace GreenticDw

section

variable {σ : Type}

namespace Call

def handedId : Call σ → Option String
  | .startSubtask moment _ (.ok _) => some moment.step.stepId
  | _ => none

/-- The step that an answer decides to hand over: a decision granted for a delegate step, or a
review of an executed step that answers Delegate. -/
def decidedId : Call σ → Option String
  | .chooseDelegate moment _ (.ok _) =>
    if moment.step.kind = .delegate then some moment.step.stepId else none
  | .reviewStep request (.ok outcome) =>
    if outcome.verdict = .delegate then some request.planStepId else none
  | _ => none

end Call

def handedIds (t : List (Call σ)) : List String := t.filterMap Call.handedId

def decidedIds (t : List (Call σ)) : List String := t.filterMap Call.decidedId

def subtaskId (task : TaskEnvelope) (stepId : String) : String := task.taskId ++ "::" ++ stepId

lemma subtaskId_injective (task : TaskEnvelope) : Function.Injective (subtaskId task) := by
  intro a b h
  exact (String.append_right_inj (task.taskId ++ "::")).mp h

namespace DeepLoopCoordinator

variable {c : DeepLoopCoordinator σ} {task : TaskEnvelope} {s : LoopState} {action : PlannedAction}
  {step : PlanStep} {stepContext planContext : Option String} {w : World σ} {o : Ran σ}
  {t u : List (Call σ)} {flow : Flow LoopState DeepLoopRun}

lemma handedIds_append : handedIds (t ++ u) = handedIds t ++ handedIds u :=
  List.filterMap_append ..

lemma decidedIds_append : decidedIds (t ++ u) = decidedIds t ++ decidedIds u :=
  List.filterMap_append ..

structure Hands (ids : List String) (t : List (Call σ)) : Prop where
  decided : decidedIds t = ids
  handed : handedIds t = ids

lemma Hands.append {ids ids' : List String} (ht : Hands ids t) (hu : Hands ids' u) :
    Hands (ids ++ ids') (t ++ u) where
  decided := by rw [decidedIds_append, ht.decided, hu.decided]
  handed := by rw [handedIds_append, ht.handed, hu.handed]

lemma hands_nothing (ht : ∀ x ∈ t, x.Mediating ∨ x.Quiet ∨ x.Settling) : Hands [] t := by
  have hnone : ∀ x ∈ t, x.decidedId = none ∧ x.handedId = none := by
    intro x hx
    rcases ht x hx with h | h | h <;> cases x <;> first | exact ⟨rfl, rfl⟩ | exact h.elim
  exact ⟨List.filterMap_eq_nil_iff.mpr fun x hx => (hnone x hx).1,
    List.filterMap_eq_nil_iff.mpr fun x hx => (hnone x hx).2⟩

lemma hands_mediating (ht : ∀ x ∈ t, x.Mediating) : Hands [] t :=
  hands_nothing fun x hx => .inl (ht x hx)

lemma hands_quiet (ht : ∀ x ∈ t, x.Quiet) : Hands [] t :=
  hands_nothing fun x hx => .inr (.inl (ht x hx))

lemma Emitted.handedIds_eq {subtask : SubtaskEnvelope} (h : c.Emitted s step subtask w o)
    (hr : o.result = .ok flow) : decidedIds o.trace = [] ∧ handedIds o.trace = [step.stepId] := by
  cases h with
  | refused _ => cases hr
  | unrecorded _ _ => cases hr
  | emitted _ _ => exact ⟨rfl, rfl⟩

lemma Delegated.hands (h : c.Delegated s step w o) (hk : step.kind = .delegate)
    (hr : o.result = .ok flow) : Hands [step.stepId] o.trace := by
  cases h with
  | unchosen _ => cases hr
  | refused _ _ _ => cases hr
  | @handed decision event envelope env env' o _ _ he =>
    obtain ⟨hdecided, hhanded⟩ := he.handedIds_eq hr
    have hstart : Hands [] (c.authorised w.envelope event envelope) :=
      hands_mediating c.authorised_mediating
    have hchoose : decidedIds [Call.chooseDelegate ⟨s.plan, step, w⟩
        (delegationRequest step step.title) (.ok decision)] = [step.stepId] := by
      simp [decidedIds, Call.decidedId, hk]
    rw [Outcome.after_trace]
    constructor
    · rw [← List.singleton_append, List.append_assoc, decidedIds_append, hchoose,
        decidedIds_append, hstart.decided, hdecided]
      rfl
    · rw [← List.singleton_append, List.append_assoc, handedIds_append, handedIds_append,
        hstart.handed, hhanded]
      rfl

def verdictIds (verdict : ReviewVerdict) (step : PlanStep) : List String :=
  if verdict = .delegate then [step.stepId] else []

lemma Judged.handedIds_eq {verdict : ReviewVerdict}
    (h : c.Judged s step stepContext w verdict o) (hk : step.kind ≠ .delegate)
    (hr : o.result = .ok flow) :
    decidedIds o.trace = [] ∧ handedIds o.trace = verdictIds verdict step := by
  cases h with
  | unrecorded _ _ => cases hr
  | recorded hv _ => rcases hv with rfl | rfl <;> exact ⟨rfl, rfl⟩
  | unrevised _ => cases hr
  | revised _ => exact ⟨rfl, rfl⟩
  | unchosen _ => cases hr
  | @handed decision env o _ he =>
    obtain ⟨hdecided, hhanded⟩ := he.handedIds_eq hr
    have hchoose : decidedIds [Call.chooseDelegate ⟨s.plan, step, w⟩
        (delegationRequest step ("review " ++ step.title)) (.ok decision)] = [] := by
      simp [decidedIds, Call.decidedId, hk]
    rw [Outcome.after_trace, decidedIds_append, hchoose, hdecided, handedIds_append, hhanded]
    exact ⟨rfl, rfl⟩
  | failed hc =>
    have hnone := hands_mediating hc.mediating
    exact ⟨hnone.decided, hnone.handed⟩

lemma Worked.hands (h : c.Worked s action step stepContext w o) (hk : step.kind ≠ .delegate)
    (hr : o.result = .ok flow) : ∃ verdict, Hands (verdictIds verdict step) o.trace := by
  cases h with
  | unexecuted _ _ => cases hr
  | unstored _ _ => cases hr
  | unreviewed _ _ _ => cases hr
  | invalid _ _ _ _ => cases hr
  | @judged body s₁ calls artifact outcome env env₁ env' o hp _ _ _ hj =>
    obtain ⟨hdecided, hhanded⟩ := hj.handedIds_eq hk hr
    have hcalls : decidedIds calls = [] ∧ handedIds calls = [] := by
      cases hp <;> exact ⟨rfl, rfl⟩
    have hreview : ∀ {m r q}, decidedIds ([.createArtifact m r (.ok artifact),
        .reviewStep ⟨step.stepId, artifact.artifactId, q⟩ (.ok outcome)] : List (Call σ)) =
        verdictIds outcome.verdict step := by
      intro m r q
      by_cases hv : outcome.verdict = .delegate <;>
        simp [decidedIds, Call.decidedId, verdictIds, hv, List.filterMap_cons]
    refine ⟨outcome.verdict, ?_, ?_⟩
    · rw [Outcome.after_trace, decidedIds_append, decidedIds_append, hcalls.1, hreview, hdecided,
        List.nil_append, List.append_nil]
    · rw [Outcome.after_trace, handedIds_append, handedIds_append, hcalls.2, hhanded]
      rfl

lemma Executed.hands (h : c.Executed s action step stepContext w o) (hk : step.kind ≠ .delegate)
    (hr : o.result = .ok flow) : ∃ verdict, Hands (verdictIds verdict step) o.trace := by
  cases h with
  | refused _ => cases hr
  | ticked _ hw =>
    obtain ⟨verdict, hhands⟩ := hw.hands hk hr
    exact ⟨verdict, (hands_mediating ticking_mediating).append hhands⟩

lemma Acted.hands (h : c.Acted s action w o) (hr : o.result = .ok flow) :
    ∃ ids, ids.Sublist [action.stepId] ∧ Hands ids o.trace := by
  have hquiet : ∀ {request answer}, Hands [] [(Call.buildContext request answer : Call σ)] :=
    hands_quiet (List.forall_mem_singleton.mpr trivial)
  cases h with
  | missing _ => cases hr
  | noContext _ => cases hr
  | delegated hf _ hk hd =>
    have hid := LlmPlanning.stepId_of_find hf
    exact ⟨[action.stepId], .refl _, hquiet.append (hid ▸ hd.hands hk hr)⟩
  | @executed step _ _ _ hf _ hk he =>
    have hid := LlmPlanning.stepId_of_find hf
    obtain ⟨verdict, hhands⟩ := he.hands hk hr
    refine ⟨verdictIds verdict step, ?_, hquiet.append hhands⟩
    unfold verdictIds
    split_ifs
    · rw [hid]
    · exact List.nil_sublist _

lemma Settled.hands (h : c.Settled s planContext w o) : Hands [] o.trace := by
  refine hands_nothing fun x hx => ?_
  cases h.calls x hx with
  | mediating hm => exact .inl hm
  | checking _ => exact .inr (.inr trivial)
  | reviewing => exact .inr (.inr trivial)

lemma actions_hands (actions : List PlannedAction) (s : LoopState) (w : World σ)
    {flow : Flow LoopState DeepLoopRun}
    (h : ((Traced.forEach c.runAction s actions).run w).result = .ok flow) :
    ∃ ids, ids.Sublist (actions.map PlannedAction.stepId) ∧
      Hands ids ((Traced.forEach c.runAction s actions).run w).trace := by
  refine @Traced.forEach_rule _ _ _ _ _ _ c.runAction (fun actions _ _ o => ∀ flow,
    o.result = .ok flow → ∃ ids, ids.Sublist (actions.map PlannedAction.stepId) ∧
      Hands ids o.trace) ?_ ?_ ?_ ?_ actions s w flow h
  · exact fun _ _ _ _ => ⟨[], .slnil, rfl, rfl⟩
  · intro action actions s w s' w' t o hr ih flow ho
    have ha := c.runAction_cases s action w
    rw [hr] at ha
    obtain ⟨ids, hids, hhands⟩ := ha.hands rfl
    obtain ⟨ids', hids', hhands'⟩ := ih flow ho
    exact ⟨ids ++ ids', hids.append hids', hhands.append hhands'⟩
  · intro action actions s w report w' t hr flow _
    have ha := c.runAction_cases s action w
    rw [hr] at ha
    obtain ⟨ids, hids, hhands⟩ := ha.hands rfl
    exact ⟨ids, hids.trans (List.singleton_sublist.mpr (List.mem_cons_self ..)), hhands⟩
  · intro _ _ _ _ e _ _ _ flow ho
    cases ho

def HandsNamed (o : Ran σ) : Prop :=
  ∀ flow, o.result = .ok flow → ∃ ids, ids.Sublist (namedIds o.trace) ∧ Hands ids o.trace

lemma iteration_hands (s : LoopState) (i : ℕ) (w : World σ) :
    HandsNamed ((c.runIteration s i).run w) := by
  intro flow hr
  have hi := c.runIteration_cases s i w
  generalize (c.runIteration s i).run w = o at hi hr
  have hquiet : ∀ {request answer request' answer'}, Hands []
      [(Call.buildContext request answer : Call σ), .nextActions request' answer'] :=
    hands_quiet (by simp [Call.Quiet])
  cases hi with
  | noContext _ => cases hr
  | noActions _ _ => cases hr
  | settled _ _ hs => exact ⟨[], List.nil_sublist _, hquiet.append hs.hands⟩
  | @acted package actions env env' _ _ _ =>
    obtain ⟨ids, hids, hhands⟩ := actions_hands actions s (w.withEnv env') hr
    refine ⟨ids, ?_, hquiet.append hhands⟩
    rw [Outcome.after_trace, namedIds_append]
    exact hids.trans (by simp [namedIds, Call.namedIds])

theorem run_hands {plan : PlanDocument} {w : World σ} {report : DeepLoopRun}
    (hr : ((c.run plan).run w).result = .ok report) :
    ∃ ids, ids.Sublist (namedIds ((c.run plan).run w).trace) ∧
      Hands ids ((c.run plan).run w).trace := by
  have hseq : Traced.Sequential fun (_ : LoopState) (_ : World σ) (o : Ran σ) => HandsNamed o :=
    { skip := fun _ _ _ _ => ⟨[], .slnil, rfl, rfl⟩
      seq := by
        intro s w s' w' t o ht ho flow hflow
        obtain ⟨ids, hids, hhands⟩ := ht _ rfl
        obtain ⟨ids', hids', hhands'⟩ := ho flow hflow
        refine ⟨ids ++ ids', ?_, hhands.append hhands'⟩
        rw [Outcome.after_trace, namedIds_append]
        exact hids.append hids' }
  refine run_of_iterations hseq iteration_hands (P := fun o => o.result = .ok report →
    ∃ ids, ids.Sublist (namedIds o.trace) ∧ Hands ids o.trace) ?_ ?_ hr
  · intro e w' t _ hr
    cases hr
  · rintro w₁ t ⟨e | flow, w', u⟩ hs ho hr
    · cases hr
    · obtain ⟨ids, hids, hhands⟩ := ho flow rfl
      refine ⟨ids, ?_, (hands_mediating hs.mediating).append hhands⟩
      rw [Outcome.after_trace, namedIds_append]
      exact hids.trans (List.sublist_append_right _ _)

lemma Follows.acceptedIds (h : c.Follows task s t) :
    (acceptedSubtasks t).map SubtaskEnvelope.subtaskId = (handedIds t).map (subtaskId task) := by
  induction t generalizing s with
  | nil => rfl
  | cons x t ih =>
    have ih := ih h.2
    cases x with
    | startSubtask moment request answer =>
      cases answer with
      | error e => exact ih
      | ok handle =>
        obtain ⟨_, _, ⟨decision, _, henvelope⟩, _⟩ := h.1
        have hid : request.envelope.subtaskId = subtaskId task moment.step.stepId := by
          rw [henvelope]
          rfl
        change request.envelope.subtaskId :: _ = subtaskId task moment.step.stepId :: _
        rw [hid]
        exact congrArg _ ih
    | _ => exact ih

theorem subtask_identity (c : DeepLoopCoordinator σ) (plan : PlanDocument) (w : World σ)
    (report : DeepLoopRun) (hr : ((c.run plan).run w).result = .ok report) :
    (report.emittedSubtasks.map SubtaskEnvelope.subtaskId).Nodup ↔
      ∀ stepId, 1 < (namedIds ((c.run plan).run w).trace).count stepId →
        (decidedIds ((c.run plan).run w).trace).count stepId ≤ 1 := by
  have h := c.run_replayed plan w
  obtain ⟨ids, hids, hhands⟩ := run_hands hr
  have hsubtasks : report.emittedSubtasks = acceptedSubtasks ((c.run plan).run w).trace := by
    rw [h.report report hr]
    exact (LoopState.replay_emittedSubtasks _ _).trans (List.nil_append _)
  rw [hsubtasks, h.calls.acceptedIds, hhands.handed, hhands.decided,
    List.nodup_map_iff (subtaskId_injective w.envelope), List.nodup_iff_count_le_one]
  constructor
  · exact fun hone stepId _ => hone stepId
  · intro hone stepId
    by_contra hmany
    have hnamed := hids.count_le stepId
    exact hmany (hone stepId (by omega))

theorem subtask_identity_scripted :
    let o := Script.run ⟨.operation .step, .accept, .accept, 3⟩ .created
      [Script.step "a" .toolCall .ready [], Script.step "b" .delegate .ready []]
      [[⟨"a", "go"⟩, ⟨"b", "go"⟩], [⟨"a", "go"⟩]]
    namedIds o.trace = ["a", "b", "a"] ∧ ∃ report : DeepLoopRun,
      o.result = .ok report ∧
      ((report.emittedSubtasks.map SubtaskEnvelope.subtaskId).Nodup ↔
        ∀ stepId, 1 < (namedIds o.trace).count stepId → (decidedIds o.trace).count stepId ≤ 1) := by
  have hran : ∀ {x : Except DeepLoopError DeepLoopRun}, x.toBool = true →
      ∃ report, x = .ok report := by
    rintro (e | report) hok
    · cases hok
    · exact ⟨report, rfl⟩
  intro o
  obtain ⟨report, hr⟩ : ∃ report, o.result = .ok report := hran (by decide +kernel)
  exact ⟨by decide +kernel, report, hr, subtask_identity _ _ _ _ hr⟩

theorem step_delegated_twice :
    (Script.plan [Script.step "a" .delegate .ready []]).stepIds.Nodup ∧
    ∃ report, (Script.run ⟨.operation .step, .accept, .accept, 3⟩ .created
      [Script.step "a" .delegate .ready []] [[⟨"a", "go"⟩], [⟨"a", "go"⟩]]).result = .ok report ∧
      ¬(report.emittedSubtasks.map SubtaskEnvelope.subtaskId).Nodup :=
  ⟨by decide, _, rfl, by decide⟩

end DeepLoopCoordinator

end

end GreenticDw

import GreenticDw.DeepLoop.Runs
import GreenticDw.DeepLoop.Script

/-! The status a deep loop reports and the lifecycle state it leaves the task in. -/

namespace GreenticDw

namespace DeepLoopCoordinator

variable {σ : Type} (c : DeepLoopCoordinator σ)

def CompletingCalls (report : DeepLoopRun) (after : TaskEnvelope) (t : List (Call σ)) : Prop :=
  ∃ request outcome before event, outcome.Valid ∧ outcome.verdict ≠ .fail ∧
    [.evaluateCompletion ⟨report.plan⟩ (.ok .satisfied), .reviewFinal request (.ok outcome)] ++
      c.authorised before event after <:+ t

structure Agrees (report : DeepLoopRun) (w : World σ) (t : List (Call σ)) : Prop where
  completed : report.status = .completed →
    w.envelope.state = .completed ∧ report.emittedSubtasks = [] ∧
      c.CompletingCalls report w.envelope t
  failed : report.status = .failed → w.envelope.state = .failed

def ReportAgrees (o : Ran σ) : Prop :=
  ∀ report, o.result = .ok (.done report) → c.Agrees report o.world o.trace

variable {c}

lemma Agrees.after {report : DeepLoopRun} {w : World σ} {t u : List (Call σ)}
    (h : c.Agrees report w u) : c.Agrees report w (t ++ u) where
  completed hs := by
    obtain ⟨hw, he, request, outcome, before, event, hv, hn, ht⟩ := h.completed hs
    exact ⟨hw, he, request, outcome, before, event, hv, hn, ht.trans (List.suffix_append t u)⟩
  failed := h.failed

lemma ReportAgrees.after {t : List (Call σ)} {o : Ran σ} (h : c.ReportAgrees o) :
    c.ReportAgrees (o.after t) :=
  fun report hr => (h report hr).after

lemma Emitted.not_done {s : LoopState} {step : PlanStep} {subtask : SubtaskEnvelope}
    {w : World σ} {o : Ran σ} (h : c.Emitted s step subtask w o) (report : DeepLoopRun) :
    o.result ≠ .ok (.done report) := by
  cases h <;> simp

lemma Delegated.not_done {s : LoopState} {step : PlanStep} {w : World σ} {o : Ran σ}
    (h : c.Delegated s step w o) (report : DeepLoopRun) : o.result ≠ .ok (.done report) := by
  cases h with
  | unchosen _ => simp
  | refused _ _ _ => simp
  | handed _ _ he => simpa using he.not_done report

lemma Closed.fail_state {reason : String} {report report' : DeepLoopRun} {w : World σ} {o : Ran σ}
    (h : c.Closed (.fail reason) report w o) (hr : o.result = .ok (.done report')) :
    report' = report ∧ o.world.envelope.state = .failed := by
  cases h with
  | refused _ => simp at hr
  | closed ha =>
    obtain ⟨_, _, _, ht, he⟩ := Core.applyOperation_ok ha
    simp only [Except.ok.injEq, Flow.done.injEq] at hr
    exact ⟨hr.symm, by rw [he]; exact ht⟩

lemma Closed.fail_agrees {reason : String} {s : LoopState} {w : World σ} {o : Ran σ}
    (h : c.Closed (.fail reason) (s.report .failed) w o) : c.ReportAgrees o := by
  intro report hr
  obtain ⟨rfl, hs⟩ := h.fail_state hr
  exact ⟨fun hc => by simp [LoopState.report] at hc, fun _ => hs⟩

lemma Judged.agrees {s : LoopState} {step : PlanStep} {stepContext : Option String}
    {w : World σ} {verdict : ReviewVerdict} {o : Ran σ}
    (h : c.Judged s step stepContext w verdict o) : c.ReportAgrees o := by
  cases h with
  | unrecorded _ _ => simp [ReportAgrees]
  | recorded _ _ => simp [ReportAgrees]
  | unrevised _ => simp [ReportAgrees]
  | revised _ =>
    intro report hr
    simp only [Except.ok.injEq, Flow.done.injEq] at hr
    subst hr
    exact ⟨fun hc => by simp [LoopState.report] at hc, fun hc => by simp [LoopState.report] at hc⟩
  | unchosen _ => simp [ReportAgrees]
  | handed _ he => exact fun report hr => (he.not_done report hr).elim
  | failed hc => exact hc.fail_agrees

lemma Executed.agrees {s : LoopState} {action : PlannedAction} {step : PlanStep}
    {stepContext : Option String} {w : World σ} {o : Ran σ}
    (h : c.Executed s action step stepContext w o) : c.ReportAgrees o := by
  cases h with
  | refused _ => simp [ReportAgrees]
  | ticked _ hw =>
    apply ReportAgrees.after
    cases hw with
    | unexecuted _ _ => simp [ReportAgrees]
    | unstored _ _ => simp [ReportAgrees]
    | unreviewed _ _ _ => simp [ReportAgrees]
    | invalid _ _ _ _ => simp [ReportAgrees]
    | judged _ _ _ _ hj => exact hj.agrees.after

lemma Settled.agrees {s : LoopState} {planContext : Option String} {w : World σ} {o : Ran σ}
    (h : c.Settled s planContext w o) : c.ReportAgrees o := by
  cases h with
  | delegating _ =>
    intro report hr
    simp only [Except.ok.injEq, Flow.done.injEq] at hr
    subst hr
    exact ⟨fun hc => by simp [LoopState.report] at hc, fun hc => by simp [LoopState.report] at hc⟩
  | unchecked _ _ => simp [ReportAgrees]
  | incomplete _ _ => simp [ReportAgrees]
  | unsatisfied _ _ hc => exact hc.fail_agrees.after
  | unreviewed _ _ _ => simp [ReportAgrees]
  | invalid _ _ _ _ => simp [ReportAgrees]
  | failed _ _ _ _ _ hc => exact hc.fail_agrees.after
  | completed he _ _ hv hn hc =>
    cases hc with
    | refused _ => simp [ReportAgrees]
    | closed ha =>
      intro report hr
      obtain ⟨_, _, _, ht, hw⟩ := Core.applyOperation_ok ha
      simp only [Outcome.after_mk, Except.ok.injEq, Flow.done.injEq] at hr
      subst hr
      refine ⟨fun _ => ⟨?_, he, _, _, _, _, hv, hn, List.suffix_rfl⟩, ?_⟩
      · rw [Outcome.after_world, hw]
        exact ht
      · exact fun hf => by simp [LoopState.report] at hf

variable (c)

lemma reportAgrees_invariant : c.LoopInvariant fun _ _ o => c.ReportAgrees o where
  skip _ _ := by simp [ReportAgrees]
  seq _ h := h.after
  halt _ _ _ := by simp [ReportAgrees]
  quiet _ h := h.after
  acted h := by
    cases h with
    | missing _ => simp [ReportAgrees]
    | noContext _ => simp [ReportAgrees]
    | delegated _ _ _ hd => exact fun report hr => (hd.not_done report hr).elim
    | executed _ _ _ he => exact he.agrees.after
  settled h := h.agrees

variable {c} in
lemma run_agrees {plan : PlanDocument} {w : World σ} {report : DeepLoopRun}
    (h : ((c.run plan).run w).result = .ok report) :
    c.Agrees report ((c.run plan).run w).world ((c.run plan).run w).trace := by
  refine c.reportAgrees_invariant.run
    (P := fun o => o.result = .ok report → c.Agrees report o.world o.trace) ?_ ?_ h
  · intro e w' t _ hr
    cases hr
  · rintro w₁ t ⟨_ | s | report', w', u⟩ _ ho hr
    · cases hr
    · cases hr
      exact ⟨fun hs => by simp [conclude, LoopState.report] at hs,
        fun hs => by simp [conclude, LoopState.report] at hs⟩
    · cases hr
      exact (ho report' rfl).after

theorem report_agrees_with_task {plan : PlanDocument} {w : World σ} {report : DeepLoopRun}
    (h : ((c.run plan).run w).result = .ok report) :
    c.Agrees report ((c.run plan).run w).world ((c.run plan).run w).trace :=
  run_agrees h

theorem report_agrees_with_task_scripted :
    (Script.coordinator ⟨.noop, .accept, .accept, 2⟩).Agrees
      ⟨Script.plan [Script.step "a" .toolCall .completed []], .completed, [],
        ["artifact://plan/a/0"], 0⟩
      (Script.run ⟨.noop, .accept, .accept, 2⟩ .created [Script.step "a" .toolCall .ready []]
        [[⟨"a", "go"⟩]]).world
      (Script.run ⟨.noop, .accept, .accept, 2⟩ .created [Script.step "a" .toolCall .ready []]
        [[⟨"a", "go"⟩]]).trace :=
  report_agrees_with_task _ (by rfl)

end DeepLoopCoordinator

namespace DwRuntime

variable {σ : Type}

/-- Nothing stands in the way of a legal operation, and the engine only lets the task step. -/
structure Permissive (rt : DwRuntime σ) : Prop where
  hooks : ∀ hook ∈ rt.packs.controlHooks, ∀ envelope operation s,
    (hook.preOperation envelope operation s).1 = .continues
  store : ∀ store, rt.stateStore = some store → ∀ envelope s,
    (store.saveState envelope s).1 = .ok ()
  engine : rt.OnlySteps

lemma permissive_script {script : Script}
    (h : script.decision = .noop ∨ script.decision = .operation .step) :
    script.coordinator.runtime.Permissive where
  hooks := by simp [Script.coordinator, Script.coordinatorOf]
  store := by simp [Script.coordinator, Script.coordinatorOf]
  engine := by
    intro envelope s decision hd
    rcases h with h | h <;>
      simp_all [Script.coordinator, Script.coordinatorOf, StaticEngine,
        StaticEngine.validateDecision, Except.map]

variable {rt : DwRuntime σ} {operation : RuntimeOperation} {w w' : World σ} {t : List RuntimeCall}

lemma Permissive.refused (h : rt.Permissive) {e : RuntimeError}
    (ha : Applied rt operation w ⟨.error e, w', t⟩) :
    ∃ e', Core.applyOperation w.envelope operation = .error e' ∧ e = .core e' ∧
      w'.envelope = w.envelope := by
  cases ha with
  | blocked _ hb =>
    obtain ⟨hook, hm, s, hb⟩ := hb
    simp [h.hooks hook hm] at hb
  | illegal hc => exact ⟨_, hc, rfl, rfl⟩
  | @unsaved store s s' event envelope e hc hs hr =>
    have hk := h.store store hs envelope s'
    simp [hr] at hk

end DwRuntime

namespace DeepLoopCoordinator

variable {σ : Type} {c : DeepLoopCoordinator σ}

def FinallyReviewed (t : List (Call σ)) : Prop :=
  ∃ request outcome, .reviewFinal request (.ok outcome) ∈ t ∧ outcome.Valid ∧
    outcome.verdict ≠ .fail

lemma finallyReviewed_append {t u : List (Call σ)} :
    FinallyReviewed (t ++ u) ↔ FinallyReviewed t ∨ FinallyReviewed u := by
  unfold FinallyReviewed
  constructor
  · rintro ⟨r, out, hm, h⟩
    exact (List.mem_append.mp hm).imp (fun hm => ⟨r, out, hm, h⟩) fun hm => ⟨r, out, hm, h⟩
  · rintro (⟨r, out, hm, h⟩ | ⟨r, out, hm, h⟩)
    · exact ⟨r, out, List.mem_append_left _ hm, h⟩
    · exact ⟨r, out, List.mem_append_right _ hm, h⟩

def passes : Call σ → Bool
  | .reviewFinal _ (.ok outcome) => outcome.Valid ∧ outcome.verdict ≠ .fail
  | _ => false

instance (t : List (Call σ)) : Decidable (FinallyReviewed t) :=
  decidable_of_iff (t.any passes = true) <| by
    rw [List.any_eq_true]
    constructor
    · rintro ⟨x, hm, hx⟩
      unfold passes at hx
      split at hx
      · exact ⟨_, _, hm, of_decide_eq_true hx⟩
      · simp at hx
    · rintro ⟨r, out, hm, h⟩
      exact ⟨_, hm, decide_eq_true h⟩

def CompletesFrom (envelope : TaskEnvelope) (o : Ran σ) : Prop :=
  match Core.applyOperation envelope .complete with
  | .ok _ => ∃ report : DeepLoopRun, o.result = .ok (.done report) ∧ report.status = .completed
  | .error e => o.result = .error (.runtime (.core e)) ∧ o.world.envelope = envelope

structure Resumes (s : LoopState) (w : World σ) (o : Ran σ) : Prop where
  next : ∀ s', o.result = .ok (.next s') → s'.emittedSubtasks = [] →
    s.emittedSubtasks = [] ∧ o.world.envelope = w.envelope
  completes : FinallyReviewed o.trace → s.emittedSubtasks = [] ∧ CompletesFrom w.envelope o

lemma not_finallyReviewed {t : List (Call σ)} (h : ∀ x ∈ t, ¬x.Settling) : ¬FinallyReviewed t := by
  rintro ⟨r, out, hm, _⟩
  exact h _ hm trivial

lemma Emitted.emitted_ne_nil {s s' : LoopState} {step : PlanStep} {subtask : SubtaskEnvelope}
    {w : World σ} {o : Ran σ} (h : c.Emitted s step subtask w o)
    (hr : o.result = .ok (.next s')) : s'.emittedSubtasks ≠ [] := by
  cases h with
  | refused _ => simp at hr
  | unrecorded _ _ => simp at hr
  | emitted _ _ =>
    simp only [Except.ok.injEq, Flow.next.injEq] at hr
    simp [← hr, LoopState.handed]

lemma Judged.next_envelope {s s' : LoopState} {step : PlanStep} {stepContext : Option String}
    {w : World σ} {verdict : ReviewVerdict} {o : Ran σ}
    (h : c.Judged s step stepContext w verdict o) (hr : o.result = .ok (.next s'))
    (hs : s'.emittedSubtasks = []) :
    s.emittedSubtasks = [] ∧ o.world.envelope = w.envelope := by
  cases h with
  | unrecorded _ _ => simp at hr
  | recorded _ _ =>
    simp only [Except.ok.injEq, Flow.next.injEq] at hr
    subst hr
    exact ⟨hs, rfl⟩
  | unrevised _ => simp at hr
  | revised _ => simp at hr
  | unchosen _ => simp at hr
  | handed _ he => exact (he.emitted_ne_nil hr hs).elim
  | failed hc => cases hc <;> simp at hr

lemma Produced.emittedSubtasks {s s₁ : LoopState} {step : PlanStep} {stepContext : Option String}
    {w : World σ} {body : String} {env : σ} {calls : List (Call σ)}
    (h : c.Produced s step stepContext w body s₁ env calls) :
    s₁.emittedSubtasks = s.emittedSubtasks := by
  cases h <;> rfl

lemma Executed.next_envelope (he : c.runtime.OnlySteps) {s s' : LoopState}
    {action : PlannedAction} {step : PlanStep} {stepContext : Option String} {w : World σ}
    {o : Ran σ} (h : c.Executed s action step stepContext w o) (hr : o.result = .ok (.next s'))
    (hs : s'.emittedSubtasks = []) :
    s.emittedSubtasks = [] ∧ o.world.envelope = w.envelope := by
  cases h with
  | refused _ => simp at hr
  | @ticked events w' t o ht hw =>
    have hw' : w'.envelope = w.envelope := by
      have := DwRuntime.tick_of_onlySteps he w
      rwa [ht] at this
    cases hw with
    | unexecuted _ _ => simp at hr
    | unstored _ _ => simp at hr
    | unreviewed _ _ _ => simp at hr
    | invalid _ _ _ _ => simp at hr
    | judged hp _ _ _ hj =>
      obtain ⟨hs₁, hj⟩ := hj.next_envelope hr hs
      exact ⟨hp.emittedSubtasks ▸ hs₁, hj.trans hw'⟩

lemma Acted.resumes (he : c.runtime.OnlySteps) {s : LoopState} {action : PlannedAction}
    {w : World σ} {o : Ran σ} (h : c.Acted s action w o) : Resumes s w o := by
  refine ⟨fun s' hr hs => ?_, fun hf => (not_finallyReviewed h.not_settling hf).elim⟩
  cases h with
  | missing _ => simp at hr
  | noContext _ => simp at hr
  | delegated _ _ _ hd =>
    cases hd with
    | unchosen _ => simp at hr
    | refused _ _ _ => simp at hr
    | handed _ _ he => exact (he.emitted_ne_nil hr hs).elim
  | executed _ _ _ hx => exact hx.next_envelope he hr hs

lemma Closed.completesFrom (hp : c.runtime.Permissive) {s : LoopState} {w : World σ} {o : Ran σ}
    (h : c.Closed .complete (s.report .completed) w o) : CompletesFrom w.envelope o := by
  cases h with
  | refused ha =>
    obtain ⟨e, hc, rfl, hw⟩ := hp.refused ha
    rw [CompletesFrom, hc]
    exact ⟨rfl, hw⟩
  | closed hc =>
    rw [CompletesFrom, hc]
    exact ⟨_, rfl, rfl⟩

lemma CompletesFrom.after {envelope : TaskEnvelope} {t : List (Call σ)} {o : Ran σ}
    (h : CompletesFrom envelope o) : CompletesFrom envelope (o.after t) := by
  unfold CompletesFrom at *
  cases hc : Core.applyOperation envelope .complete <;> simpa [hc] using h

lemma Settled.resumes (hp : c.runtime.Permissive) {s : LoopState} {planContext : Option String}
    {w : World σ} {o : Ran σ} (h : c.Settled s planContext w o) : Resumes s w o := by
  cases h with
  | delegating _ => exact ⟨by simp, by simp [FinallyReviewed]⟩
  | unchecked _ _ => exact ⟨by simp, by simp [FinallyReviewed]⟩
  | incomplete hs _ => exact ⟨fun _ _ _ => ⟨hs, rfl⟩, by simp [FinallyReviewed]⟩
  | unsatisfied hs _ hc =>
    refine ⟨fun s' hr => by cases hc <;> simp at hr, fun hf => ?_⟩
    rcases finallyReviewed_append.mp hf with hf | hf
    · simp [FinallyReviewed] at hf
    · exact (not_finallyReviewed hc.not_settling hf).elim
  | unreviewed _ _ _ => exact ⟨by simp, by simp [FinallyReviewed]⟩
  | invalid _ _ _ hv =>
    exact ⟨by simp, by simp [FinallyReviewed, ReviewOutcome.Valid, hv]⟩
  | failed hs _ _ _ hf' hc =>
    refine ⟨fun s' hr => by cases hc <;> simp at hr, fun hf => ?_⟩
    rcases finallyReviewed_append.mp hf with hf | hf
    · simp [FinallyReviewed, hf'] at hf
    · exact (not_finallyReviewed hc.not_settling hf).elim
  | completed hs _ _ _ _ hc =>
    exact ⟨fun s' hr => by cases hc <;> simp at hr, fun _ => ⟨hs, (hc.completesFrom hp).after⟩⟩

lemma resumes_invariant (hp : c.runtime.Permissive) : c.LoopInvariant Resumes where
  skip _ _ := ⟨fun _ hr hs => by simp_all, by simp [FinallyReviewed]⟩
  seq := by
    intro s w s' w' t o h h'
    refine ⟨fun s'' hr hs => ?_, fun hf => ?_⟩
    · obtain ⟨hs', hw'⟩ := h'.next s'' hr hs
      obtain ⟨hs, hw⟩ := h.next s' rfl hs'
      exact ⟨hs, hw'.trans hw⟩
    · rcases finallyReviewed_append.mp hf with hf | hf
      · have hc := (h.completes hf).2
        unfold CompletesFrom at hc
        cases he : Core.applyOperation w.envelope .complete <;> simp [he] at hc
      · obtain ⟨hs', hc⟩ := h'.completes hf
        obtain ⟨hs, hw⟩ := h.next s' rfl hs'
        exact ⟨hs, hw ▸ hc.after⟩
  halt _ _ _ := ⟨by simp, by simp [FinallyReviewed]⟩
  quiet := by
    intro s w env t o ht h
    refine ⟨h.next, fun hf => ?_⟩
    rcases finallyReviewed_append.mp hf with ⟨r, out, hm, _⟩ | hf
    · exact (ht _ hm).elim
    · exact ⟨(h.completes hf).1, (h.completes hf).2.after⟩
  acted h := h.resumes hp.engine
  settled h := h.resumes hp

def startedEnvelope (envelope : TaskEnvelope) : TaskEnvelope :=
  if envelope.state = .created then { envelope with state := .running } else envelope

lemma Started.permissive (hp : c.runtime.Permissive) {w : World σ}
    {o : Outcome (World σ) (Call σ) DeepLoopError Unit} (h : c.Started w o) :
    o.result = .ok () ∧ o.world.envelope = startedEnvelope w.envelope ∧
      ∀ x ∈ o.trace, ¬x.Settling := by
  cases h with
  | skipped hs => exact ⟨rfl, by simp [startedEnvelope, hs], by simp⟩
  | refused hs ha =>
    obtain ⟨e, hc, _⟩ := hp.refused ha
    rw [Core.applyOperation_of_legal (Or.inr (by rw [hs]; rfl))] at hc
    cases hc
  | started hs hc =>
    obtain ⟨_, _, _, ht, he⟩ := Core.applyOperation_ok hc
    refine ⟨rfl, ?_, fun x hx => not_settling_of_mediating (c.authorised_mediating x hx)⟩
    rw [startedEnvelope, if_pos hs, he, ht]
    rfl

lemma run_completesFrom (hp : c.runtime.Permissive) {plan : PlanDocument} {w : World σ}
    (hf : FinallyReviewed ((c.run plan).run w).trace) :
    match Core.applyOperation (startedEnvelope w.envelope) .complete with
    | .ok _ => ∃ report, ((c.run plan).run w).result = .ok report ∧ report.status = .completed
    | .error e => ((c.run plan).run w).result = .error (.runtime (.core e)) ∧
        ((c.run plan).run w).world.envelope = startedEnvelope w.envelope := by
  refine (resumes_invariant hp).run
    (P := fun o => FinallyReviewed o.trace →
      match Core.applyOperation (startedEnvelope w.envelope) .complete with
      | .ok _ => ∃ report, o.result = .ok report ∧ report.status = .completed
      | .error e => o.result = .error (.runtime (.core e)) ∧
          o.world.envelope = startedEnvelope w.envelope) ?_ ?_ hf
  · intro e w' t hs
    cases (hs.permissive hp).1
  · intro w₁ t o hs ho hf
    obtain ⟨_, hw, ht⟩ := hs.permissive hp
    obtain hf | hf := finallyReviewed_append.mp hf
    · exact (not_finallyReviewed ht hf).elim
    have hc := (ho.completes hf).2
    simp only at hw
    rw [hw, CompletesFrom] at hc
    cases hcore : Core.applyOperation (startedEnvelope w.envelope) .complete with
    | error e =>
      simp only [hcore] at hc ⊢
      exact ⟨by simp [Outcome.map, hc.1, Except.map], hc.2⟩
    | ok p =>
      simp only [hcore] at hc ⊢
      obtain ⟨report, hr, hs⟩ := hc
      exact ⟨report, by simp [Outcome.map, hr, Except.map, conclude], hs⟩

theorem resumption (hp : c.runtime.Permissive) {plan : PlanDocument} {w : World σ}
    (hf : FinallyReviewed ((c.run plan).run w).trace) :
    (w.envelope.state = .created ∨ w.envelope.state = .running →
      ∃ report, ((c.run plan).run w).result = .ok report ∧ report.status = .completed) ∧
    (w.envelope.state = .waiting ∨ w.envelope.state = .delegated →
      ((c.run plan).run w).result = .error (.runtime (.core
        (.illegalTransition "complete" w.envelope.state .completed))) ∧
      ((c.run plan).run w).world.envelope = w.envelope) := by
  have h := run_completesFrom hp hf
  constructor
  · intro hs
    have hstate : (startedEnvelope w.envelope).state = .running := by
      rcases hs with hs | hs <;> simp [startedEnvelope, hs]
    rw [Core.applyOperation_of_legal (Or.inr (by rw [hstate]; rfl))] at h
    exact h
  · intro hs
    have henv : startedEnvelope w.envelope = w.envelope := by
      rcases hs with hs | hs <;> simp [startedEnvelope, hs]
    have hcore : Core.applyOperation w.envelope .complete =
        .error (.illegalTransition "complete" w.envelope.state .completed) := by
      rcases hs with hs | hs <;>
        simp [Core.applyOperation, Core.targetState, hs, TaskLifecycleState.canTransitionTo,
          RuntimeOperation.name]
    rw [henv, hcore] at h
    exact h

theorem resumption_scripted :
    ∃ report, (Script.run ⟨.operation .step, .accept, .accept, 3⟩ .running
      [Script.step "a" .toolCall .ready []] [[⟨"a", "go"⟩]]).result = .ok report ∧
        report.status = .completed :=
  (resumption (DwRuntime.permissive_script (Or.inr rfl)) (by decide)).1 (Or.inr rfl)

theorem delegated_task_not_completed :
    (Script.coordinator ⟨.operation .step, .accept, .accept, 3⟩).runtime.Permissive ∧
      FinallyReviewed (Script.run ⟨.operation .step, .accept, .accept, 3⟩ .delegated
        [Script.step "a" .toolCall .ready []] [[⟨"a", "go"⟩]]).trace ∧
      ¬∃ report, (Script.run ⟨.operation .step, .accept, .accept, 3⟩ .delegated
        [Script.step "a" .toolCall .ready []] [[⟨"a", "go"⟩]]).result = .ok report ∧
          report.status = .completed := by
  refine ⟨DwRuntime.permissive_script (Or.inr rfl), by decide, ?_⟩
  rintro ⟨report, h, _⟩
  cases h

end DeepLoopCoordinator

end GreenticDw

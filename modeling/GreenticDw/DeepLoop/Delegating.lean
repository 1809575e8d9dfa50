import GreenticDw.DeepLoop.Lifecycle
import GreenticDw.DeepLoop.Outputs

namespace GreenticDw

section

variable {σ : Type}

/-- The run ended while it handed a step over: the store refused to save the delegation, or the
delegator refused the subtask the task had just been delegated for. -/
def CutShort (t : List (Call σ)) : Prop :=
  ∃ target, (∃ e, [.operation (.delegate target) (.error e) .delegated] <:+ t) ∨
    ∃ event moment request e, [.operation (.delegate target) (.ok event) .delegated,
      .startSubtask moment request (.error e)] <:+ t

namespace DwRuntime

variable {rt : DwRuntime σ} {operation : RuntimeOperation} {w : World σ}
  {o : Outcome (World σ) RuntimeCall RuntimeError RuntimeEvent}

lemma Applied.state (h : Applied rt operation w o) : o.world.envelope.state = w.envelope.state ∨
    o.world.envelope.state = Core.targetState operation w.envelope.state := by
  have happlied : ∀ {event envelope}, Core.applyOperation w.envelope operation = .ok (event, envelope) →
      envelope.state = Core.targetState operation w.envelope.state := by
    intro event envelope hc
    obtain ⟨_, _, _, ht, he⟩ := Core.applyOperation_ok hc
    rw [he]
    exact ht
  cases h with
  | blocked _ _ => exact .inl rfl
  | illegal _ => exact .inl rfl
  | unsaved hc => exact .inr (happlied hc)
  | applied hc => exact .inr (happlied hc)

end DwRuntime

namespace DeepLoopCoordinator

variable {c : DeepLoopCoordinator σ} {s s₁ : LoopState} {action : PlannedAction} {step : PlanStep}
  {stepContext : Option String} {w : World σ} {o : Ran σ} {h t u : List (Call σ)}

lemma acceptedSubtasks_append : acceptedSubtasks (t ++ u) = acceptedSubtasks t ++ acceptedSubtasks u :=
  List.filterMap_append ..

lemma CutShort.after (hc : CutShort u) : CutShort (t ++ u) := by
  obtain ⟨target, ⟨e, hs⟩ | ⟨event, moment, request, e, hs⟩⟩ := hc
  · exact ⟨target, .inl ⟨e, hs.trans (List.suffix_append t u)⟩⟩
  · exact ⟨target, .inr ⟨event, moment, request, e, hs.trans (List.suffix_append t u)⟩⟩

structure Accounts {α : Type} (h : List (Call σ)) (o : Outcome (World σ) (Call σ) DeepLoopError α) :
    Prop where
  ok : ∀ a, o.result = .ok a → o.world.envelope.state = .delegated →
    acceptedSubtasks (h ++ o.trace) ≠ []
  error : ∀ e, o.result = .error e → o.world.envelope.state = .delegated →
    acceptedSubtasks (h ++ o.trace) ≠ [] ∨ CutShort o.trace

def Backed (h : List (Call σ)) (state : TaskLifecycleState) : Prop :=
  state = .delegated → acceptedSubtasks h ≠ []

lemma Backed.append {state : TaskLifecycleState} (hb : Backed h state) : Backed (h ++ t) state := by
  intro hd
  rw [acceptedSubtasks_append]
  exact List.append_ne_nil_of_left_ne_nil (hb hd) _

lemma Accounts.after {α : Type} {o : Outcome (World σ) (Call σ) DeepLoopError α}
    (ho : Accounts (h ++ t) o) : Accounts h (o.after t) where
  ok a hr hd := by
    rw [Outcome.after_trace, ← List.append_assoc]
    exact ho.ok a hr hd
  error e hr hd := by
    rw [Outcome.after_trace, ← List.append_assoc]
    exact (ho.error e hr hd).imp id CutShort.after

lemma Accounts.map {α β : Type} {f : α → β} {o : Outcome (World σ) (Call σ) DeepLoopError α}
    (ho : Accounts h o) : Accounts h (o.map f) := by
  rcases o with ⟨e | a, w, t⟩
  · exact ⟨by simp, fun _ _ => ho.error e rfl⟩
  · exact ⟨fun _ _ => ho.ok a rfl, by simp⟩

lemma accounts_of_state (hb : Backed h w.envelope.state) (hw : o.world.envelope.state = w.envelope.state) :
    Accounts h o := by
  have hall : o.world.envelope.state = .delegated → acceptedSubtasks (h ++ o.trace) ≠ [] :=
    fun hd => hb.append (hw ▸ hd)
  exact ⟨fun _ _ => hall, fun _ _ hd => .inl (hall hd)⟩

lemma accounts_of_not_delegated (hw : o.world.envelope.state ≠ .delegated) : Accounts h o :=
  ⟨fun _ _ hd => (hw hd).elim, fun _ _ hd => (hw hd).elim⟩

lemma cutShort_refusal {before : List RuntimeCall} {target : String} {e : RuntimeError}
    (hw : w.envelope.state = .delegated) : CutShort (refusal before (.delegate target) e w) := by
  refine ⟨target, .inl ⟨e, ?_⟩⟩
  rw [← hw]
  exact List.suffix_append _ _

lemma Emitted.accounts_handed {subtask : SubtaskEnvelope} {before : TaskEnvelope}
    {event : RuntimeEvent} {target : String} (he : c.Emitted s step subtask w o)
    (hop : event.operation = .delegate target) (hw : w.envelope.state = .delegated) :
    Accounts h (o.after (c.authorised before event w.envelope)) := by
  have haccepted : ∀ {request moment handle x r w'}, Accounts h (⟨r, w',
      c.authorised before event w.envelope ++ [.startSubtask moment request (.ok handle), x]⟩ :
        Ran σ) := by
    intro request moment handle x r w'
    have hne : ∀ g : List (Call σ), acceptedSubtasks (h ++ (g ++
        [.startSubtask moment request (.ok handle), x])) ≠ [] := by
      intro g
      simp [acceptedSubtasks, Call.acceptedSubtask]
    exact ⟨fun _ _ _ => hne _, fun _ _ _ => .inl (hne _)⟩
  cases he with
  | @refused e _ =>
    refine ⟨by simp, fun _ _ _ => .inr ⟨target, .inr ⟨event, ⟨s.plan, step, w⟩, ⟨subtask⟩, e,
      (c.runtime.mediated before event w.envelope).map .runtime, ?_⟩⟩⟩
    simp [authorised, hop, hw]
  | unrecorded _ _ => exact haccepted
  | emitted _ _ => exact haccepted

lemma Delegated.accounts (hd : c.Delegated s step w o) (hb : Backed h w.envelope.state) : Accounts h o := by
  cases hd with
  | unchosen _ => exact accounts_of_state hb rfl
  | @refused _ _ _ w' _ _ _ hop ha =>
    obtain hs | hs := ha.state
    · exact accounts_of_state hb hs
    · refine ⟨by simp, fun e hr hd => .inr ?_⟩
      rw [hop]
      exact CutShort.after (t := [_]) (cutShort_refusal hd)
  | @handed decision event envelope _ _ o _ hc he =>
    obtain ⟨_, hop, _, ht, henv⟩ := Core.applyOperation_ok hc
    rw [← List.singleton_append, ← Outcome.after_after]
    apply Accounts.after
    refine he.accounts_handed hop ?_
    rw [henv, ht]
    rfl

lemma Closed.accounts {operation : RuntimeOperation} {report : DeepLoopRun}
    (hc : c.Closed operation report w o) (hb : Backed h w.envelope.state)
    (hop : Core.targetState operation w.envelope.state ≠ .delegated) : Accounts h o := by
  cases hc with
  | refused ha =>
    obtain hs | hs := ha.state
    · exact accounts_of_state hb hs
    · exact accounts_of_not_delegated (hs ▸ hop)
  | closed hc =>
    obtain ⟨_, _, _, ht, henv⟩ := Core.applyOperation_ok hc
    apply accounts_of_not_delegated
    rw [henv, ht]
    exact hop

lemma Judged.accounts {verdict : ReviewVerdict} (hj : c.Judged s step stepContext w verdict o)
    (hb : Backed h w.envelope.state) : Accounts h o := by
  cases hj with
  | unrecorded _ _ => exact accounts_of_state hb rfl
  | recorded _ _ => exact accounts_of_state hb rfl
  | unrevised _ => exact accounts_of_state hb rfl
  | revised _ => exact accounts_of_state hb rfl
  | unchosen _ => exact accounts_of_state hb rfl
  | handed _ he => exact accounts_of_state hb (congrArg TaskEnvelope.state he.envelope)
  | failed hc => exact hc.accounts hb (by simp [Core.targetState])

lemma Worked.accounts (hw : c.Worked s action step stepContext w o)
    (hb : Backed h w.envelope.state) : Accounts h o := by
  cases hw with
  | unexecuted _ _ => exact accounts_of_state hb rfl
  | unstored _ _ => exact accounts_of_state hb rfl
  | unreviewed _ _ _ => exact accounts_of_state hb rfl
  | invalid _ _ _ _ => exact accounts_of_state hb rfl
  | judged _ _ _ _ hj => exact (hj.accounts hb.append).after

lemma Executed.accounts (he : c.Executed s action step stepContext w o)
    (honly : c.runtime.OnlySteps) (hb : Backed h w.envelope.state) : Accounts h o := by
  have htick := DwRuntime.tick_of_onlySteps honly w
  cases he with
  | refused ht =>
    rw [ht] at htick
    exact accounts_of_state hb (congrArg TaskEnvelope.state htick)
  | @ticked _ w' _ _ ht hw =>
    rw [ht] at htick
    have hw' : w'.envelope = w.envelope := htick
    exact (hw.accounts (hw' ▸ hb.append)).after

lemma Acted.accounts (ha : c.Acted s action w o) (honly : c.runtime.OnlySteps)
    (hb : Backed h w.envelope.state) : Accounts h o := by
  cases ha with
  | missing _ => exact accounts_of_state hb rfl
  | noContext _ => exact accounts_of_state hb rfl
  | delegated _ _ _ hd => exact (hd.accounts hb.append).after
  | executed _ _ _ he => exact (he.accounts honly hb.append).after

lemma Settled.accounts {planContext : Option String} (hs : c.Settled s planContext w o)
    (hb : Backed h w.envelope.state) : Accounts h o := by
  cases hs with
  | delegating _ => exact accounts_of_state hb rfl
  | unchecked _ _ => exact accounts_of_state hb rfl
  | incomplete _ _ => exact accounts_of_state hb rfl
  | unsatisfied _ _ hc => exact (hc.accounts hb.append (by simp [Core.targetState])).after
  | unreviewed _ _ _ => exact accounts_of_state hb rfl
  | invalid _ _ _ _ => exact accounts_of_state hb rfl
  | failed _ _ _ _ _ hc => exact (hc.accounts hb.append (by simp [Core.targetState])).after
  | completed _ _ _ _ _ hc => exact (hc.accounts hb.append (by simp [Core.targetState])).after

lemma accounts_invariant (honly : c.runtime.OnlySteps) :
    c.LoopInvariant fun _ w o => ∀ h, Backed h w.envelope.state → Accounts h o where
  skip _ _ _ hb := accounts_of_state hb rfl
  seq ht ho h hb := (ho _ fun hd => (ht h hb).ok _ rfl hd).after
  halt _ _ _ _ hb := accounts_of_state hb rfl
  quiet _ ho _ hb := (ho _ (Backed.append hb)).after
  acted ha _ hb := ha.accounts honly hb
  settled hs _ hb := hs.accounts hb

lemma Started.backed {o : Outcome (World σ) (Call σ) DeepLoopError Unit}
    (hw : w.envelope.state ≠ .delegated) (hs : c.Started w o) :
    o.world.envelope.state ≠ .delegated := by
  cases hs with
  | skipped _ => exact hw
  | refused _ ha =>
    obtain hs | hs := ha.state
    · exact fun hd => hw (hs.symm.trans hd)
    · exact hs.trans_ne (by simp [Core.targetState])
  | started _ hc =>
    obtain ⟨_, _, _, ht, henv⟩ := Core.applyOperation_ok hc
    simp [henv, ht, Core.targetState]

lemma run_accounts (honly : c.runtime.OnlySteps) (plan : PlanDocument)
    (hw : w.envelope.state ≠ .delegated) : Accounts [] ((c.run plan).run w) := by
  refine (accounts_invariant honly).run (P := fun o => Accounts [] o) ?_ ?_
  · intro e w' t hs
    have hs' := hs.backed hw
    exact ⟨by simp, fun _ _ hd => (hs' hd).elim⟩
  · intro w₁ t o hs ho
    have hs' := hs.backed hw
    exact (ho ([] ++ t) fun hd => (hs' hd).elim).map.after

theorem delegation_accounted (c : DeepLoopCoordinator σ) (honly : c.runtime.OnlySteps)
    (plan : PlanDocument) (w : World σ) (hw : w.envelope.state ≠ .delegated) :
    (∀ report, ((c.run plan).run w).result = .ok report →
      (((c.run plan).run w).world.envelope.state = .delegated →
        acceptedSubtasks ((c.run plan).run w).trace ≠ []) ∧
      report.emittedSubtasks = acceptedSubtasks ((c.run plan).run w).trace) ∧
    (∀ e, ((c.run plan).run w).result = .error e →
      ((c.run plan).run w).world.envelope.state = .delegated →
        acceptedSubtasks ((c.run plan).run w).trace ≠ [] ∨
          CutShort ((c.run plan).run w).trace) := by
  have hrun := run_accounts honly plan hw
  refine ⟨fun report hr => ⟨hrun.ok report hr, ?_⟩, hrun.error⟩
  rw [(c.run_replayed plan w).report report hr]
  exact (LoopState.replay_emittedSubtasks _ _).trans (List.nil_append _)

theorem delegation_accounted_scripted :
    ∃ report : DeepLoopRun, report.emittedSubtasks ≠ [] ∧
      (Script.run ⟨.operation .step, .accept, .accept, 3⟩ .created
        [Script.step "a" .delegate .ready []] [[⟨"a", "go"⟩]]).world.envelope.state = .delegated ∧
      report.emittedSubtasks =
        acceptedSubtasks (Script.run ⟨.operation .step, .accept, .accept, 3⟩ .created
          [Script.step "a" .delegate .ready []] [[⟨"a", "go"⟩]]).trace :=
  ⟨_, by decide, by rfl, ((delegation_accounted
    (Script.coordinator ⟨.operation .step, .accept, .accept, 3⟩)
    (DwRuntime.permissive_script (Or.inr rfl)).engine
    (Script.plan [Script.step "a" .delegate .ready []])
    ⟨[[⟨"a", "go"⟩]], Script.task .created⟩ (by decide)).1 _ rfl).2⟩

def refusing (script : Script) : DeepLoopCoordinator Replies :=
  { script.coordinator with
    delegator := { script.coordinator.delegator with
      startSubtask := fun _ s => (.error (.provider "no agent takes it"), s) } }

theorem delegated_without_subtask :
    (((refusing ⟨.operation .step, .accept, .accept, 3⟩).run
        (Script.plan [Script.step "a" .delegate .ready []])).run
      ⟨[[⟨"a", "go"⟩]], Script.task .created⟩).world.envelope.state = .delegated ∧
    acceptedSubtasks (((refusing ⟨.operation .step, .accept, .accept, 3⟩).run
        (Script.plan [Script.step "a" .delegate .ready []])).run
      ⟨[[⟨"a", "go"⟩]], Script.task .created⟩).trace = [] ∧
    acceptedSubtasks (Script.run ⟨.operation .step, .accept, .accept, 3⟩ .created
      [Script.step "a" .delegate .ready []] [[⟨"a", "go"⟩, ⟨"x", "go"⟩]]).trace ≠ [] ∧
    (Script.run ⟨.operation .step, .accept, .accept, 3⟩ .created
      [Script.step "a" .delegate .ready []] [[⟨"a", "go"⟩, ⟨"x", "go"⟩]]).result =
        .error (.missingStep "x") :=
  ⟨by rfl, by rfl, by decide, by rfl⟩

end DeepLoopCoordinator

end

end GreenticDw

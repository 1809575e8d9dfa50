import GreenticDw.DeepLoop.Outputs
import GreenticDw.DeepLoop.Transitions
import GreenticDw.Invoker.Dispatched

namespace GreenticDw

def Call.Delegating {σ : Type} : Call σ → Prop
  | .chooseDelegate _ _ _ => True
  | .startSubtask _ _ _ => True
  | _ => False

namespace DeepLoopCoordinator

section

variable {σ : Type} {c : DeepLoopCoordinator σ} {task : TaskEnvelope} {s : LoopState}
  {t : List (Call σ)}

structure Undelegated (c : DeepLoopCoordinator σ) (plan : PlanDocument) : Prop where
  records : c.RecordsItself
  steps : ∀ step ∈ plan.steps, step.kind ≠ .delegate
  reviews : ∀ request env outcome, (c.reflector.reviewStep request env).1 = .ok outcome →
    outcome.verdict ≠ .delegate

variable {plan : PlanDocument}

lemma Undelegated.not_handsOver (h : c.Undelegated plan) (hs : s.plan = plan)
    (hf : c.Follows task s t) {step : PlanStep} (hm : step ∈ (s.replay t).plan.steps) :
    ¬c.HandsOver step := by
  rintro (hkind | ⟨request, env, outcome, hr, hv⟩)
  · have hframe := hf.frame h.records
    rw [hs] at hframe
    obtain ⟨step₀, hm₀, hsame⟩ := LlmPlanning.exists_mem_of_forall₂ hframe.steps.flip hm
    have hsame : step.kind = step₀.kind := PlanStep.SameBut.kind hsame
    exact h.steps step₀ hm₀ (hsame ▸ hkind)
  · exact h.reviews request env outcome hr hv

lemma Undelegated.not_delegating (h : c.Undelegated plan)
    (hf : c.Follows task (c.initialState plan) t) : ∀ x ∈ t, ¬x.Delegating := by
  intro x hx hd
  obtain ⟨pre, post, ht⟩ := List.append_of_mem hx
  have hfits := hf.fits ht
  have hpre : c.Follows task (c.initialState plan) pre := by
    rw [ht, follows_append] at hf
    exact hf.1
  cases x with
  | chooseDelegate moment request answer =>
    obtain ⟨hmoment, hover, _⟩ := hfits
    exact h.not_handsOver rfl hpre hmoment.step hover
  | startSubtask moment request answer =>
    obtain ⟨hmoment, hover, _⟩ := hfits
    exact h.not_handsOver rfl hpre hmoment.step hover
  | _ => exact hd

end

section

variable {σ : Type} {c : DeepLoopCoordinator σ}

def SaysWhatItDelegates (o : Ran σ) : Prop :=
  ∀ report, o.result = .ok (.done report) → report.status = .delegating →
    report.emittedSubtasks ≠ []

lemma Closed.says {operation : RuntimeOperation} {report : DeepLoopRun} {w : World σ} {o : Ran σ}
    (h : c.Closed operation report w o) (hs : report.status ≠ .delegating) :
    SaysWhatItDelegates o := by
  cases h with
  | refused _ => simp [SaysWhatItDelegates]
  | closed _ =>
    rintro _ ⟨⟩ hd
    exact (hs hd).elim

lemma Judged.says {s : LoopState} {step : PlanStep} {stepContext : Option String} {w : World σ}
    {verdict : ReviewVerdict} {o : Ran σ} (h : c.Judged s step stepContext w verdict o) :
    SaysWhatItDelegates o := by
  cases h with
  | unrecorded _ _ => simp [SaysWhatItDelegates]
  | recorded _ _ => simp [SaysWhatItDelegates]
  | unrevised _ => simp [SaysWhatItDelegates]
  | revised _ => rintro _ ⟨⟩ ⟨⟩
  | unchosen _ => simp [SaysWhatItDelegates]
  | handed _ he => exact fun report hr => (he.not_done report hr).elim
  | failed hc => exact hc.says (by simp [LoopState.report])

lemma says_invariant (c : DeepLoopCoordinator σ) :
    c.LoopInvariant fun _ _ o => SaysWhatItDelegates o where
  skip _ _ := by simp [SaysWhatItDelegates]
  seq _ h := h
  halt _ _ _ := by simp [SaysWhatItDelegates]
  quiet _ h := h
  acted h := by
    cases h with
    | missing _ => simp [SaysWhatItDelegates]
    | noContext _ => simp [SaysWhatItDelegates]
    | delegated _ _ _ hd => exact fun report hr => (hd.not_done report hr).elim
    | executed _ _ _ he =>
      cases he with
      | refused _ => simp [SaysWhatItDelegates]
      | ticked _ hw =>
        cases hw with
        | unexecuted _ _ => simp [SaysWhatItDelegates]
        | unstored _ _ => simp [SaysWhatItDelegates]
        | unreviewed _ _ _ => simp [SaysWhatItDelegates]
        | invalid _ _ _ _ => simp [SaysWhatItDelegates]
        | judged _ _ _ _ hj => exact hj.says
  settled h := by
    cases h with
    | delegating hs =>
      rintro _ ⟨⟩ _
      exact hs
    | unchecked _ _ => simp [SaysWhatItDelegates]
    | incomplete _ _ => simp [SaysWhatItDelegates]
    | unsatisfied _ _ hc => exact hc.says (by simp [LoopState.report])
    | unreviewed _ _ _ => simp [SaysWhatItDelegates]
    | invalid _ _ _ _ => simp [SaysWhatItDelegates]
    | failed _ _ _ _ _ hc => exact hc.says (by simp [LoopState.report])
    | completed _ _ _ _ _ hc => exact hc.says (by simp [LoopState.report])

lemma run_says {plan : PlanDocument} {w : World σ} {report : DeepLoopRun} :
    ((c.run plan).run w).result = .ok report → report.status = .delegating →
      report.emittedSubtasks ≠ [] := by
  refine (says_invariant c).run (P := fun o => o.result = .ok report →
    report.status = .delegating → report.emittedSubtasks ≠ []) ?_ ?_
  · intro e w' t _ hr
    cases hr
  · rintro w₁ t ⟨_ | s | report', w', u⟩ _ ho hr hd
    · cases hr
    · cases hr
      cases hd
    · cases hr
      exact ho report' rfl hd

structure HandsNothingOver (o : Outcome (World σ) (Call σ) DeepLoopError DeepLoopRun) : Prop where
  calls : ∀ x ∈ o.trace, ¬x.Delegating
  error : ∀ e, o.result ≠ .error (.delegation e)
  report : ∀ report, o.result = .ok report →
    report.emittedSubtasks = [] ∧ report.status ≠ .delegating

theorem Undelegated.run {plan : PlanDocument} (h : c.Undelegated plan) (w : World σ) :
    HandsNothingOver ((c.run plan).run w) := by
  have hrun := c.run_replayed plan w
  have hcalls := h.not_delegating hrun.calls
  refine ⟨hcalls, fun e he => ?_, fun report hr => ?_⟩
  · obtain hown | ⟨x, hx, hf⟩ := hrun.failed _ he
    · exact hown
    · have hx := hcalls x hx
      cases x with
      | chooseDelegate _ _ _ => exact hx trivial
      | startSubtask _ _ _ => exact hx trivial
      | operation _ answer _ => cases answer <;> cases hf
      | runtime _ => cases hf
      | tick answer _ => cases answer <;> cases hf
      | buildContext _ answer | nextActions _ answer | evaluateCompletion _ answer
      | recordStepResult _ answer | revisePlan _ answer | reviewStep _ answer
      | reviewFinal _ answer | executeStep _ _ answer | createArtifact _ _ answer =>
        cases answer <;> cases hf
  · have hsubtasks : report.emittedSubtasks = [] := by
      rw [hrun.report report hr]
      apply (LoopState.replay_emittedSubtasks _ _).trans
      apply List.filterMap_eq_nil_iff.mpr
      intro x hx
      have := hcalls x hx
      cases x <;> first | rfl | exact (this trivial).elim
    exact ⟨hsubtasks, fun hs => run_says hr hs hsubtasks⟩

end

end DeepLoopCoordinator

namespace DeepWorkerInvoker

variable {τ : Type} (invoker : DeepWorkerInvoker τ)

lemma stripDelegate_kind (step : PlanStep) : (stripDelegate step).kind ≠ .delegate := by
  unfold stripDelegate
  split_ifs with hkind
  · simp
  · exact hkind

lemma withoutDelegate_verdict (outcome : ReviewOutcome) :
    (withoutDelegate outcome).verdict ≠ .delegate := by
  unfold withoutDelegate
  split_ifs with hv
  · simp
  · exact hv

lemma undelegated {resolved : ResolvedSettings} (hoff : resolved.delegation = false)
    (plan : PlanDocument) :
    (invoker.coordinator resolved).Undelegated (resolved.guarded plan) where
  records _ _ := rfl
  steps step hm := by
    simp only [ResolvedSettings.guarded, hoff, Bool.false_eq_true, if_false, stripDelegateSteps,
      List.mem_map] at hm
    obtain ⟨step₀, _, rfl⟩ := hm
    exact stripDelegate_kind step₀
  reviews request env outcome hr := by
    cases hreflection : resolved.reflection with
    | false =>
      simp only [coordinator, reflector, hreflection, AcceptAllReflection, Except.ok.injEq] at hr
      rw [← hr]
      simp [acceptOutcome]
    | true =>
      simp only [coordinator, reflector, hreflection, hoff, NoDelegateVerdict] at hr
      cases hi : ((LlmReflectionProvider invoker.model invoker.codecs.reflection).reviewStep
          request env).1 with
      | error e =>
        rw [hi] at hr
        cases hr
      | ok inner =>
        rw [hi] at hr
        cases hr
        exact withoutDelegate_verdict inner

structure KeepsToItself (tenant target operation : String) (idempotencyKey : Option String)
    (resolved : ResolvedSettings)
    (o : Outcome τ (DispatchEvent τ) InvokeError InvokeOutcome) : Prop where
  calls : ∀ x ∈ loopCalls o.trace, ¬x.Delegating
  error : ∀ e, o.result ≠ .error (.deepLoop (.delegation e))
  answer : ∀ out, o.result = .ok out → ∃ plan w report reply wired,
    invoker.Looped resolved (buildEnvelope tenant target (idempotencyKey.getD "task-unknown"))
      plan w o.trace ∧
    (((invoker.coordinator resolved).run (resolved.guarded plan)).run w).result = .ok report ∧
    out = outcomeFromRun report operation reply wired ∧
    report.emittedSubtasks = [] ∧ report.status ≠ .delegating

theorem delegation_stays_off (tenant env target operation : String) (input : Value)
    (idempotencyKey : Option String) (host : τ) {settings : Option DeepWorkerSettings}
    (hs : settingsFromInput invoker.codecs.settings input = .ok settings)
    (hoff : (ResolvedSettings.resolve settings).delegation = false) :
    invoker.KeepsToItself tenant target operation idempotencyKey (.resolve settings)
      ((invoker.invoke tenant env target operation input idempotencyKey).run host) := by
  have h := invoker.invoke_cases tenant env target operation input idempotencyKey host
  generalize (invoker.invoke tenant env target operation input idempotencyKey).run host = o at h
  cases h with
  | refused he ht =>
    refine ⟨by simp [ht], fun e hr => ?_, fun out hr => by cases hr⟩
    exact he _ (Except.error.inj hr)
  | @failed settings' plan w _ _ _ hs' hl hr =>
    obtain rfl := Except.ok.inj (hs.symm.trans hs')
    have hrun := (invoker.undelegated hoff plan).run w
    refine ⟨?_, fun e he => ?_, fun out hout => by cases hout⟩
    · rw [hl.calls]
      exact hrun.calls
    · cases he
      exact hrun.error e hr
  | @answered settings' plan w _ _ _ _ _ hs' hl hr =>
    obtain rfl := Except.ok.inj (hs.symm.trans hs')
    have hrun := (invoker.undelegated hoff plan).run w
    refine ⟨?_, fun e he => (by cases he), fun out hout => ?_⟩
    · rw [hl.calls]
      exact hrun.calls
    · cases hout
      exact ⟨_, _, _, _, _, hl, hr, rfl, hrun.report _ hr⟩

end DeepWorkerInvoker

namespace Script

def loneInvoker : DeepWorkerInvoker (List String) :=
  { invoker with codecs := { invoker.codecs with settings := fun _ => .ok ⟨none, none, some false⟩ } }

end Script

namespace DeepWorkerInvoker

theorem delegation_stays_off_scripted :
    Script.loneInvoker.KeepsToItself "tenant" "worker" "" none ⟨8, false, false⟩
      ((Script.loneInvoker.invoke "tenant" "env" "worker" ""
        (.object [("deep_worker", .object [("delegation", .bool false)])]) none).run
          [Script.planText "ready", Script.reply "a", "[]", "Done."]) := by
  have hs : settingsFromInput Script.loneInvoker.codecs.settings
      (.object [("deep_worker", .object [("delegation", .bool false)])]) =
        .ok (some ⟨none, none, some false⟩) := rfl
  exact delegation_stays_off Script.loneInvoker "tenant" "env" "worker" "" _ none _ hs rfl

end DeepWorkerInvoker

end GreenticDw

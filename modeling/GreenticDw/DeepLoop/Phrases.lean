import GreenticDw.DeepLoop.Runs

/-! The calls of a run that ends with a report, read as phrases: a step that is ticked, executed
and stored, a subtask that is granted and accepted, and the calls aside from these. -/

namespace GreenticDw

def Call.Aside {σ : Type} : Call σ → Prop
  | .tick _ _ => False
  | .executeStep _ _ _ => False
  | .createArtifact _ _ _ => False
  | .chooseDelegate _ _ _ => False
  | .startSubtask _ _ _ => False
  | _ => True

namespace DeepLoopCoordinator

variable {σ : Type}

inductive Phrased (c : DeepLoopCoordinator σ) : List (Call σ) → Prop
  | nil : Phrased c []
  | aside {x : Call σ} {t : List (Call σ)} : x.Aside → Phrased c t → Phrased c (x :: t)
  | executed {s s₁ : LoopState} {step : PlanStep} {stepContext : Option String} {w : World σ}
      {body : String} {env : σ} {calls t : List (Call σ)} {events : List RuntimeEvent}
      {state : TaskLifecycleState} {request : CreateArtifactRequest} {artifact : ArtifactRef} :
      c.Produced s step stepContext w body s₁ env calls → Phrased c t →
      Phrased c (.tick (.ok events) state :: (calls ++
        .createArtifact ⟨s.plan, step, w.withEnv env⟩ request (.ok artifact) :: t))
  | handed {plan : PlanDocument} {step : PlanStep} {w w' : World σ} {between t : List (Call σ)}
      {request : DelegationRequest} {decision : DelegationDecision}
      {subtask : StartSubtaskRequest} {handle : DelegationHandle} :
      (∀ x ∈ between, x.Aside) → Phrased c t →
      Phrased c (.chooseDelegate ⟨plan, step, w⟩ request (.ok decision) :: (between ++
        .startSubtask ⟨plan, step, w'⟩ subtask (.ok handle) :: t))

section

variable {c : DeepLoopCoordinator σ} {s : LoopState} {action : PlannedAction} {step : PlanStep}
  {stepContext : Option String} {w : World σ} {o : Ran σ} {t u : List (Call σ)}
  {flow : Flow LoopState DeepLoopRun}

lemma Phrased.append (ht : c.Phrased t) (hu : c.Phrased u) : c.Phrased (t ++ u) := by
  induction ht with
  | nil => exact hu
  | aside hx _ ih => exact .aside hx ih
  | executed hp _ ih => simpa using Phrased.executed hp ih
  | handed hb _ ih => simpa using Phrased.handed hb ih

lemma phrased_aside (ht : ∀ x ∈ t, x.Aside) : c.Phrased t := by
  induction t with
  | nil => exact .nil
  | cons x t ih =>
    rw [List.forall_mem_cons] at ht
    exact .aside ht.1 (ih ht.2)

lemma aside_authorised {before after : TaskEnvelope} {event : RuntimeEvent} :
    ∀ x ∈ c.authorised before event after, x.Aside := by
  simp only [authorised, List.mem_append, List.mem_map, List.mem_singleton]
  rintro x (⟨r, _, rfl⟩ | rfl) <;> trivial

lemma Closed.phrased {operation : RuntimeOperation} {report : DeepLoopRun}
    (h : c.Closed operation report w o) (hr : o.result = .ok flow) : c.Phrased o.trace := by
  cases h with
  | refused _ => cases hr
  | closed _ => exact phrased_aside aside_authorised

lemma Emitted.phrased {subtask : SubtaskEnvelope} (h : c.Emitted s step subtask w o)
    (hr : o.result = .ok flow) {plan : PlanDocument} {w' : World σ} {between : List (Call σ)}
    {request : DelegationRequest} {decision : DelegationDecision} (hplan : plan = s.plan)
    (hb : ∀ x ∈ between, x.Aside) :
    c.Phrased (.chooseDelegate ⟨plan, step, w'⟩ request (.ok decision) ::
      (between ++ o.trace)) := by
  subst hplan
  cases h with
  | refused _ => cases hr
  | unrecorded _ _ => cases hr
  | emitted _ _ => exact .handed hb (.aside trivial .nil)

lemma Delegated.phrased (h : c.Delegated s step w o) (hr : o.result = .ok flow) :
    c.Phrased o.trace := by
  cases h with
  | unchosen _ => cases hr
  | refused _ _ _ => cases hr
  | handed _ _ he => exact he.phrased hr rfl aside_authorised

lemma Judged.phrased {verdict : ReviewVerdict} (h : c.Judged s step stepContext w verdict o)
    (hr : o.result = .ok flow) : c.Phrased o.trace := by
  cases h with
  | unrecorded _ _ => cases hr
  | recorded _ _ => exact .aside trivial .nil
  | unrevised _ => cases hr
  | revised _ => exact .aside trivial .nil
  | unchosen _ => cases hr
  | handed _ he =>
    have hbetween : ∀ x ∈ ([] : List (Call σ)), x.Aside := by simp
    exact he.phrased hr rfl hbetween
  | failed hc => exact hc.phrased hr

lemma Executed.phrased (h : c.Executed s action step stepContext w o) (hr : o.result = .ok flow) :
    c.Phrased o.trace := by
  cases h with
  | refused _ => cases hr
  | @ticked _ _ u _ _ hw =>
    have hruntime : ∀ x ∈ u.map (Call.runtime (σ := σ)), x.Aside := by
      intro x hx
      obtain ⟨r, _, rfl⟩ := List.mem_map.mp hx
      trivial
    cases hw with
    | unexecuted _ _ => cases hr
    | unstored _ _ => cases hr
    | unreviewed _ _ _ => cases hr
    | invalid _ _ _ _ => cases hr
    | @judged _ _ _ artifact outcome _ _ _ _ hp _ _ _ hj =>
      have hreview := Phrased.aside (x := .reviewStep ⟨step.stepId, artifact.artifactId, stepContext⟩
        (.ok outcome)) trivial (hj.phrased hr)
      simpa [ticking] using (phrased_aside hruntime).append (Phrased.executed hp hreview)

theorem Acted.phrased (h : c.Acted s action w o) (hr : o.result = .ok flow) :
    c.Phrased o.trace := by
  cases h with
  | missing _ => cases hr
  | noContext _ => cases hr
  | delegated _ _ _ hd => exact .aside trivial (hd.phrased hr)
  | executed _ _ _ he => exact .aside trivial (he.phrased hr)

theorem Settled.phrased {planContext : Option String} (h : c.Settled s planContext w o)
    (hr : o.result = .ok flow) : c.Phrased o.trace := by
  cases h with
  | delegating _ => exact .nil
  | unchecked _ _ => cases hr
  | incomplete _ _ => exact .aside trivial .nil
  | unsatisfied _ _ hc => exact .aside trivial (hc.phrased hr)
  | unreviewed _ _ _ => cases hr
  | invalid _ _ _ _ => cases hr
  | failed _ _ _ _ _ hc => exact .aside trivial (.aside trivial (hc.phrased hr))
  | completed _ _ _ _ _ hc => exact .aside trivial (.aside trivial (hc.phrased hr))

end

theorem phrased_invariant (c : DeepLoopCoordinator σ) :
    c.LoopInvariant fun _ _ o => ∀ flow, o.result = .ok flow → c.Phrased o.trace where
  skip _ _ _ _ := .nil
  seq h ho flow hr := (h _ rfl).append (ho flow hr)
  halt _ _ _ _ := by simp
  quiet ht ho flow hr := by
    refine Phrased.append (phrased_aside fun x hx => ?_) (ho flow hr)
    have := ht x hx
    cases x <;> trivial
  acted h _ := h.phrased
  settled h _ := h.phrased

theorem run_phrased {c : DeepLoopCoordinator σ} {plan : PlanDocument} {w : World σ}
    {report : DeepLoopRun} :
    ((c.run plan).run w).result = .ok report → c.Phrased ((c.run plan).run w).trace := by
  refine c.phrased_invariant.run (P := fun o => o.result = .ok report → c.Phrased o.trace) ?_ ?_
  · intro e w' t _ hr
    cases hr
  · intro w₁ t o hs ho hr
    have hstart : c.Phrased t := by
      cases hs with
      | skipped _ => exact .nil
      | started _ _ => exact phrased_aside aside_authorised
    rcases o with ⟨e | flow, w', u⟩
    · cases hr
    · exact hstart.append (ho flow rfl)

end DeepLoopCoordinator

end GreenticDw

import GreenticDw.DeepLoop.Runs

/-! What bounds a run: its planner is asked once in an iteration, and what closes it comes last. -/

namespace GreenticDw.DeepLoopCoordinator

variable {σ : Type} {c : DeepLoopCoordinator σ} {s : LoopState} {action : PlannedAction}
  {step : PlanStep} {stepContext planContext : Option String} {w : World σ} {o : Ran σ}

def asks : Call σ → Bool
  | .nextActions _ _ => true
  | _ => false

lemma countP_asks_of_not {t : List (Call σ)} (h : ∀ x ∈ t, ¬x.Settling) : t.countP asks = 0 := by
  rw [List.countP_eq_zero]
  intro x hx
  have := h x hx
  cases x <;> first | exact Bool.false_ne_true | exact (this trivial).elim

lemma Settled.countP_asks (hs : c.Settled s planContext w o) : o.trace.countP asks = 0 := by
  rw [List.countP_eq_zero]
  intro x hx
  cases hs.calls x hx with
  | mediating hm => cases x <;> first | exact Bool.false_ne_true | exact hm.elim
  | checking _ => exact Bool.false_ne_true
  | reviewing => exact Bool.false_ne_true

lemma actions_countP_asks (actions : List PlannedAction) (s : LoopState) (w : World σ) :
    ((Traced.forEach c.runAction s actions).run w).trace.countP asks = 0 := by
  have hseq : Traced.Sequential fun (_ : LoopState) (_ : World σ) (o : Ran σ) =>
      o.trace.countP asks = 0 :=
    { skip := fun _ _ => rfl
      seq := fun ht ho => by
        rw [Outcome.after_trace, List.countP_append, ho, ht] }
  exact hseq.forEach
    (fun s action w => countP_asks_of_not (c.runAction_cases s action w).not_settling) actions s w

lemma iteration_asks_once (s : LoopState) (i : ℕ) (w : World σ) :
    ((c.runIteration s i).run w).trace.countP asks ≤ 1 := by
  have hi := c.runIteration_cases s i w
  generalize (c.runIteration s i).run w = o at hi
  cases hi with
  | noContext _ => simp [asks]
  | noActions _ _ => simp [asks]
  | settled _ _ hs =>
    rw [Outcome.after_trace, List.countP_append, hs.countP_asks]
    simp [asks]
  | acted _ _ _ =>
    rw [Outcome.after_trace, List.countP_append, actions_countP_asks]
    simp [asks]

lemma run_of_started {plan : PlanDocument} {w w₁ : World σ} {t : List (Call σ)}
    (hr : c.startTask.run w = ⟨.ok (), w₁, t⟩) :
    (c.run plan).run w = (((Traced.forEach c.runIteration (c.initialState plan)
      (List.range c.maxIterations)).run w₁).map conclude).after t := by
  rcases hf : (Traced.forEach c.runIteration (c.initialState plan)
    (List.range c.maxIterations)).run w₁ with ⟨e | flow, w', u⟩ <;>
    simp [DeepLoopCoordinator.run, hr, hf, Outcome.map, Except.map]

lemma run_asks (c : DeepLoopCoordinator σ) (plan : PlanDocument) (w : World σ) :
    ((c.run plan).run w).trace.countP asks ≤ c.maxIterations := by
  have hloop : ∀ (is : List ℕ) (s : LoopState) (w : World σ),
      ((Traced.forEach c.runIteration s is).run w).trace.countP asks ≤ is.length := by
    refine @Traced.forEach_rule _ _ _ _ _ _ c.runIteration
      (fun is _ _ o => o.trace.countP asks ≤ is.length) (fun _ _ => le_rfl) ?_ ?_ ?_
    · intro i is s w s' w' t o hr ho
      have hone := iteration_asks_once (c := c) s i w
      rw [hr] at hone
      rw [Outcome.after_trace, List.countP_append, List.length_cons, Nat.add_comm]
      exact Nat.add_le_add ho hone
    · intro i is s w report w' t hr
      have hone := iteration_asks_once (c := c) s i w
      rw [hr] at hone
      exact hone.trans (Nat.le_add_left 1 _)
    · intro i is s w e w' t hr
      have hone := iteration_asks_once (c := c) s i w
      rw [hr] at hone
      exact hone.trans (Nat.le_add_left 1 _)
  have hs := c.startTask_cases w
  rcases hr : c.startTask.run w with ⟨e | ⟨⟩, w₁, t⟩
  · rw [hr] at hs
    have hstart := countP_asks_of_not fun x hx => not_settling_of_mediating (hs.mediating x hx)
    simp [DeepLoopCoordinator.run, hr, hstart]
  · rw [hr] at hs
    have hstart : t.countP asks = 0 :=
      countP_asks_of_not fun x hx => not_settling_of_mediating (hs.mediating x hx)
    have hrest := hloop (List.range c.maxIterations) (c.initialState plan) w₁
    rw [List.length_range] at hrest
    rw [run_of_started hr, Outcome.after_trace, List.countP_append, hstart, Nat.zero_add]
    exact hrest

def Closing : Call σ → Prop
  | .reviewFinal _ _ => True
  | .revisePlan _ _ => True
  | _ => False

structure ClosesLast (o : Ran σ) : Prop where
  last : o.trace.Pairwise fun x y => Closing x → y.Mediating
  next : ∀ s', o.result = .ok (.next s') → ∀ x ∈ o.trace, ¬Closing x

lemma closesLast_of_not (h : ∀ x ∈ o.trace, ¬Closing x) : ClosesLast o :=
  ⟨List.pairwise_of_forall_mem_list fun x hx _ _ hc => absurd hc (h x hx), fun _ _ => h⟩

lemma ClosesLast.after {t : List (Call σ)} (ht : ∀ x ∈ t, ¬Closing x) (ho : ClosesLast o) :
    ClosesLast (o.after t) where
  last := by
    rw [Outcome.after_trace, List.pairwise_append]
    exact ⟨List.pairwise_of_forall_mem_list fun x hx _ _ hc => absurd hc (ht x hx), ho.last,
      fun x hx _ _ hc => absurd hc (ht x hx)⟩
  next s' hr := List.forall_mem_append.mpr ⟨ht, ho.next s' hr⟩

lemma not_closing_of_mediating {x : Call σ} (hx : x.Mediating) : ¬Closing x := by
  cases x <;> first | exact id | exact hx.elim

lemma not_closing_of_quiet {x : Call σ} (hx : x.Quiet) : ¬Closing x := by
  cases x <;> first | exact id | exact hx.elim

lemma closesLast_closed {t : List (Call σ)} {operation : RuntimeOperation} {report : DeepLoopRun}
    (hc : c.Closed operation report w o) (ht : t.Pairwise fun x y => Closing x → y.Mediating) :
    ClosesLast (o.after t) := by
  have hm := hc.mediating
  constructor
  · rw [Outcome.after_trace, List.pairwise_append]
    exact ⟨ht, List.pairwise_of_forall_mem_list fun _ _ y hy _ => hm y hy,
      fun _ _ y hy _ => hm y hy⟩
  · intro s' hr
    cases hc <;> cases hr

lemma Emitted.closesLast {subtask : SubtaskEnvelope} (he : c.Emitted s step subtask w o) :
    ClosesLast o := by
  apply closesLast_of_not
  cases he <;> simp [Closing]

lemma Delegated.closesLast (hd : c.Delegated s step w o) : ClosesLast o := by
  have hchosen : ∀ {m r d} {t : List (Call σ)}, (∀ x ∈ t, x.Mediating) →
      ∀ x ∈ Call.chooseDelegate m r d :: t, ¬Closing x := fun ht =>
    List.forall_mem_cons.mpr ⟨id, fun x hx => not_closing_of_mediating (ht x hx)⟩
  cases hd with
  | unchosen _ => exact closesLast_of_not (by simp [Closing])
  | refused _ _ _ => exact closesLast_of_not (hchosen refusal_mediating)
  | handed _ _ he => exact he.closesLast.after (hchosen c.authorised_mediating)

lemma Judged.closesLast {verdict : ReviewVerdict} (hj : c.Judged s step stepContext w verdict o) :
    ClosesLast o := by
  cases hj with
  | unrecorded _ _ => exact closesLast_of_not (by simp [Closing])
  | recorded _ _ => exact closesLast_of_not (by simp [Closing])
  | unrevised _ => exact ⟨List.pairwise_singleton _ _, by simp⟩
  | revised _ => exact ⟨List.pairwise_singleton _ _, by simp⟩
  | unchosen _ => exact closesLast_of_not (by simp [Closing])
  | handed _ he => exact he.closesLast.after (by simp [Closing])
  | failed hc => simpa using closesLast_closed (t := []) hc .nil

lemma Produced.not_closing {s₁ : LoopState} {body : String} {env : σ} {calls : List (Call σ)}
    (hp : c.Produced s step stepContext w body s₁ env calls) : ∀ x ∈ calls, ¬Closing x := by
  cases hp <;> simp [Closing]

lemma Worked.closesLast (hw : c.Worked s action step stepContext w o) : ClosesLast o := by
  cases hw with
  | unexecuted _ _ => exact closesLast_of_not (by simp [Closing])
  | unstored hp _ =>
    exact closesLast_of_not (List.forall_mem_append.mpr ⟨hp.not_closing, by simp [Closing]⟩)
  | unreviewed hp _ _ =>
    exact closesLast_of_not (List.forall_mem_append.mpr ⟨hp.not_closing, by simp [Closing]⟩)
  | invalid hp _ _ _ =>
    exact closesLast_of_not (List.forall_mem_append.mpr ⟨hp.not_closing, by simp [Closing]⟩)
  | judged hp _ _ _ hj =>
    exact hj.closesLast.after (List.forall_mem_append.mpr ⟨hp.not_closing, by simp [Closing]⟩)

lemma Executed.closesLast (he : c.Executed s action step stepContext w o) : ClosesLast o := by
  cases he with
  | refused _ =>
    exact closesLast_of_not fun x hx => not_closing_of_mediating (ticking_mediating x hx)
  | ticked _ hw =>
    exact hw.closesLast.after fun x hx => not_closing_of_mediating (ticking_mediating x hx)

lemma Acted.closesLast (ha : c.Acted s action w o) : ClosesLast o := by
  cases ha with
  | missing _ => exact closesLast_of_not (by simp)
  | noContext _ => exact closesLast_of_not (by simp [Closing])
  | delegated _ _ _ hd => exact hd.closesLast.after (by simp [Closing])
  | executed _ _ _ he => exact he.closesLast.after (by simp [Closing])

lemma Settled.closesLast (hs : c.Settled s planContext w o) : ClosesLast o := by
  cases hs with
  | delegating _ => exact closesLast_of_not (by simp)
  | unchecked _ _ => exact closesLast_of_not (by simp [Closing])
  | incomplete _ _ => exact closesLast_of_not (by simp [Closing])
  | unsatisfied _ _ hc => exact closesLast_closed hc (List.pairwise_singleton _ _)
  | unreviewed _ _ _ => exact ⟨by simp [Closing], by simp⟩
  | invalid _ _ _ _ => exact ⟨by simp [Closing], by simp⟩
  | failed _ _ _ _ _ hc => exact closesLast_closed hc (by simp [Closing])
  | completed _ _ _ _ _ hc => exact closesLast_closed hc (by simp [Closing])

lemma closesLast_invariant (c : DeepLoopCoordinator σ) :
    c.LoopInvariant fun _ _ o => ClosesLast o where
  skip _ _ := closesLast_of_not (by simp)
  seq ht ho := ho.after (ht.next _ rfl)
  halt _ _ _ := closesLast_of_not (by simp)
  quiet ht ho := ho.after fun x hx => not_closing_of_quiet (ht x hx)
  acted h := h.closesLast
  settled h := h.closesLast

theorem run_bounds (c : DeepLoopCoordinator σ) (plan : PlanDocument) (w : World σ) :
    ((c.run plan).run w).trace.countP asks ≤ c.maxIterations ∧
    ((c.run plan).run w).trace.Pairwise fun x y => Closing x → y.Mediating := by
  refine ⟨run_asks c plan w, ?_⟩
  have hmediating : ∀ {t : List (Call σ)}, (∀ x ∈ t, x.Mediating) → ∀ x ∈ t, ¬Closing x :=
    fun ht x hx => not_closing_of_mediating (ht x hx)
  refine (closesLast_invariant c).run
    (P := fun o => o.trace.Pairwise fun x y => Closing x → y.Mediating) ?_ ?_
  · intro e w' t hs
    exact (closesLast_of_not (o := ⟨.error e, w', t⟩) (hmediating hs.mediating)).last
  · intro w₁ t o hs ho
    exact (ho.after (hmediating hs.mediating)).last

end GreenticDw.DeepLoopCoordinator

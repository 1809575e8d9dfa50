import GreenticDw.DeepLoop.Calls
import GreenticDw.Traced.Histories

/-! Whole runs of the deep loop, and the rule that carries a property of actions and of settling
iterations over them. -/

namespace GreenticDw

def Call.Quiet {σ : Type} : Call σ → Prop
  | .buildContext _ _ => True
  | .nextActions _ _ => True
  | _ => False

def Call.Settling {σ : Type} : Call σ → Prop
  | .nextActions _ _ => True
  | .evaluateCompletion _ _ => True
  | .reviewFinal _ _ => True
  | _ => False

namespace DeepLoopCoordinator

variable {σ : Type} (c : DeepLoopCoordinator σ)

section

variable {c} {s : LoopState} {action : PlannedAction} {step : PlanStep}
  {stepContext : Option String} {w : World σ} {o : Ran σ} {x : Call σ}

lemma not_settling_of_mediating (hx : x.Mediating) : ¬x.Settling := by
  cases x <;> first | exact id | exact hx.elim

lemma WorkCall.not_settling (hx : c.WorkCall step stepContext x) : ¬x.Settling := by
  cases hx with
  | mediating hm => exact not_settling_of_mediating hm
  | _ => exact id

lemma Closed.not_settling {operation : RuntimeOperation} {report : DeepLoopRun}
    (h : c.Closed operation report w o) : ∀ x ∈ o.trace, ¬x.Settling :=
  fun x hx => not_settling_of_mediating (h.mediating x hx)

theorem Acted.not_settling (h : c.Acted s action w o) : ∀ x ∈ o.trace, ¬x.Settling := by
  cases h with
  | missing _ => simp
  | noContext _ => simp [Call.Settling]
  | delegated _ _ _ hd =>
    exact Outcome.forall_after (by simp [Call.Settling])
      fun x hx => (hd.calls none x hx).not_settling
  | executed _ _ _ he =>
    exact Outcome.forall_after (by simp [Call.Settling]) fun x hx => (he.calls x hx).not_settling

end

variable {c} in
lemma Started.mediating {w : World σ} {o : Outcome (World σ) (Call σ) DeepLoopError Unit}
    (hs : c.Started w o) : ∀ x ∈ o.trace, x.Mediating := by
  cases hs with
  | skipped _ => simp
  | refused _ _ => exact refusal_mediating
  | started _ _ => exact c.authorised_mediating

variable {c} in
theorem run_of_iterations {Good : LoopState → World σ → Ran σ → Prop}
    (hG : Traced.Sequential Good) (hi : ∀ s i w, Good s w ((c.runIteration s i).run w))
    {plan : PlanDocument} {w : World σ}
    {P : Outcome (World σ) (Call σ) DeepLoopError DeepLoopRun → Prop}
    (refused : ∀ e w' t, c.Started w ⟨.error e, w', t⟩ → P ⟨.error e, w', t⟩)
    (ran : ∀ w₁ t o, c.Started w ⟨.ok (), w₁, t⟩ → Good (c.initialState plan) w₁ o →
      P ((o.map conclude).after t)) :
    P ((c.run plan).run w) := by
  have hs := c.startTask_cases w
  rcases hr : c.startTask.run w with ⟨e | ⟨⟩, w₁, t⟩
  · rw [hr] at hs
    simpa [DeepLoopCoordinator.run, hr] using refused e w₁ t hs
  · rw [hr] at hs
    have hall := hG.forEach hi (List.range c.maxIterations) (c.initialState plan) w₁
    have ho := ran w₁ t _ hs hall
    rcases hf : (Traced.forEach c.runIteration (c.initialState plan)
        (List.range c.maxIterations)).run w₁ with ⟨e | flow, w', u⟩ <;>
      rw [hf] at ho <;>
      simpa [DeepLoopCoordinator.run, hr, hf] using ho

structure LoopInvariant (Good : LoopState → World σ → Ran σ → Prop) : Prop
    extends Traced.Sequential Good where
  halt : ∀ s w e, Good s w ⟨.error e, w, []⟩
  quiet : ∀ {s w env t o}, (∀ x ∈ t, x.Quiet) → Good s (w.withEnv env) o → Good s w (o.after t)
  acted : ∀ {s action w o}, c.Acted s action w o → Good s w o
  settled : ∀ {s planContext w o}, c.Settled s planContext w o → Good s w o

namespace LoopInvariant

variable {c} {Good : LoopState → World σ → Ran σ → Prop}

lemma stopped (h : c.LoopInvariant Good) (s : LoopState) (w : World σ) (e : DeepLoopError)
    (env : σ) {t : List (Call σ)} (ht : ∀ x ∈ t, x.Quiet) :
    Good s w ⟨.error e, w.withEnv env, t⟩ := by
  simpa using h.quiet ht (h.halt s (w.withEnv env) e)

theorem iteration (h : c.LoopInvariant Good) (s : LoopState) (i : ℕ) (w : World σ) :
    Good s w ((c.runIteration s i).run w) := by
  have hi := c.runIteration_cases s i w
  generalize (c.runIteration s i).run w = o at hi
  cases hi with
  | noContext _ => exact h.stopped s w _ _ (by simp [Call.Quiet])
  | noActions _ _ => exact h.stopped s w _ _ (by simp [Call.Quiet])
  | settled _ _ hs => exact h.quiet (by simp [Call.Quiet]) (h.settled hs)
  | acted _ _ _ =>
    refine h.quiet (by simp [Call.Quiet]) (h.toSequential.forEach ?_ _ _ _)
    exact fun s a w => h.acted (c.runAction_cases s a w)

theorem run (h : c.LoopInvariant Good) {plan : PlanDocument} {w : World σ}
    {P : Outcome (World σ) (Call σ) DeepLoopError DeepLoopRun → Prop}
    (refused : ∀ e w' t, c.Started w ⟨.error e, w', t⟩ → P ⟨.error e, w', t⟩)
    (ran : ∀ w₁ t o, c.Started w ⟨.ok (), w₁, t⟩ → Good (c.initialState plan) w₁ o →
      P ((o.map conclude).after t)) :
    P ((c.run plan).run w) :=
  run_of_iterations h.toSequential h.iteration refused ran

end LoopInvariant

inductive RunCall : Call σ → Prop
  | mediating {x : Call σ} : x.Mediating → RunCall x
  | quiet {x : Call σ} : x.Quiet → RunCall x
  | work {step : PlanStep} {stepContext : Option String} {x : Call σ} :
      c.WorkCall step stepContext x → RunCall x
  | settling {planContext : Option String} {x : Call σ} :
      c.SettlingCall planContext x → RunCall x

variable {c}

lemma Acted.calls {s : LoopState} {action : PlannedAction} {w : World σ} {o : Ran σ}
    (h : c.Acted s action w o) : ∀ x ∈ o.trace, c.RunCall x := by
  cases h with
  | missing _ => simp
  | noContext _ => exact List.forall_mem_singleton.mpr (.quiet trivial)
  | delegated _ _ _ hd =>
    exact Outcome.forall_after (List.forall_mem_singleton.mpr (.quiet trivial))
      fun x hx => .work (hd.calls none x hx)
  | executed _ _ _ he =>
    exact Outcome.forall_after (List.forall_mem_singleton.mpr (.quiet trivial))
      fun x hx => .work (he.calls x hx)

lemma calls_invariant : c.LoopInvariant fun _ _ o => ∀ x ∈ o.trace, c.RunCall x where
  skip _ _ := by simp
  seq ht ho := List.forall_mem_append.mpr ⟨ht, ho⟩
  halt _ _ _ := by simp
  quiet ht ho := Outcome.forall_after (fun x hx => .quiet (ht x hx)) ho
  acted h := h.calls
  settled h := fun x hx => .settling (h.calls x hx)

theorem run_calls (c : DeepLoopCoordinator σ) (plan : PlanDocument) (w : World σ) :
    ∀ x ∈ ((c.run plan).run w).trace, c.RunCall x := by
  have hstart : ∀ {w : World σ} {o}, c.Started w o → ∀ x ∈ o.trace, c.RunCall x :=
    fun hs x hx => .mediating (hs.mediating x hx)
  refine calls_invariant.run (P := fun o => ∀ x ∈ o.trace, c.RunCall x) ?_ ?_
  · exact fun _ _ _ hs => hstart hs
  · exact fun _ _ _ hs ho => Outcome.forall_after (hstart hs) ho

end DeepLoopCoordinator

end GreenticDw

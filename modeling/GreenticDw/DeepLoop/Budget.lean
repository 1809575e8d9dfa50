import GreenticDw.DeepLoop.Runs
import GreenticDw.DeepLoop.Script

namespace GreenticDw

namespace Call

variable {σ : Type}

def charge : Call σ → ℕ
  | .executeStep _ request (.ok execution) => min execution.toolCallsUsed request.maxToolCalls
  | _ => 0

def Executes : Call σ → Prop
  | .executeStep _ _ _ => True
  | _ => False

def charges (t : List (Call σ)) : ℕ := (t.map charge).sum

@[simp] lemma charges_nil : charges ([] : List (Call σ)) = 0 := rfl

@[simp] lemma charges_cons (x : Call σ) (t : List (Call σ)) :
    charges (x :: t) = x.charge + charges t := rfl

@[simp] lemma charges_append (t u : List (Call σ)) : charges (t ++ u) = charges t + charges u := by
  simp [charges]

/-- A step is granted what is left of the total, but no more than the cap. What is left is never
less than nothing. -/
def Granted (total : ℕ) (h : List (Call σ)) : Call σ → Prop
  | .executeStep _ request _ => charges h ≤ total ∧
      request.maxToolCalls = min perStepToolCap (total - charges h)
  | _ => True

lemma charges_of_not_executes {t : List (Call σ)} (ht : ∀ x ∈ t, ¬x.Executes) : charges t = 0 := by
  induction t with
  | nil => rfl
  | cons x t ih =>
    rw [List.forall_mem_cons] at ht
    have hx : x.charge = 0 := by
      cases x <;> first | rfl | exact (ht.1 trivial).elim
    rw [charges_cons, hx, ih ht.2]

lemma granted_of_not_executes {total : ℕ} {h t : List (Call σ)} (ht : ∀ x ∈ t, ¬x.Executes) :
    Always (Granted total) h t := by
  apply always_of_forall
  intro x hx g
  have := ht x hx
  cases x <;> first | trivial | exact (this trivial).elim

lemma not_executes_of_mediating {t : List (Call σ)} (ht : ∀ x ∈ t, x.Mediating) :
    ∀ x ∈ t, ¬x.Executes := by
  intro x hx
  have := ht x hx
  cases x <;> first | exact id | exact this.elim

lemma not_executes_of_quiet {t : List (Call σ)} (ht : ∀ x ∈ t, x.Quiet) :
    ∀ x ∈ t, ¬x.Executes := by
  intro x hx
  have := ht x hx
  cases x <;> first | exact id | exact this.elim

end Call

open Call

namespace DeepLoopCoordinator

variable {σ : Type} {c : DeepLoopCoordinator σ}

structure SpendsNothing (s : LoopState) (o : Ran σ) : Prop where
  calls : ∀ x ∈ o.trace, ¬x.Executes
  next : ∀ s', o.result = .ok (.next s') → s'.toolBudget = s.toolBudget
  done : ∀ report, o.result = .ok (.done report) → report.toolCallsUsed = s.toolBudget.used

structure Budgeted (total : ℕ) (h : List (Call σ)) (o : Ran σ) : Prop where
  granted : Always (Granted total) h o.trace
  within : charges (h ++ o.trace) ≤ total
  next : ∀ s', o.result = .ok (.next s') → s'.toolBudget = ⟨total, charges (h ++ o.trace)⟩
  done : ∀ report, o.result = .ok (.done report) → report.toolCallsUsed = charges (h ++ o.trace)

def Budgets (total : ℕ) (s : LoopState) (_ : World σ) (o : Ran σ) : Prop :=
  ∀ h, s.toolBudget = ⟨total, charges h⟩ → charges h ≤ total → Budgeted total h o

section

variable {s s' s₁ : LoopState} {action : PlannedAction} {step : PlanStep}
  {stepContext : Option String} {w w' : World σ} {o : Ran σ} {t : List (Call σ)} {total : ℕ}

lemma SpendsNothing.budgeted {h : List (Call σ)} (ho : SpendsNothing s o)
    (hs : s.toolBudget = ⟨total, charges h⟩) (hle : charges h ≤ total) : Budgeted total h o := by
  have hc : charges (h ++ o.trace) = charges h := by
    rw [charges_append, charges_of_not_executes ho.calls, Nat.add_zero]
  refine ⟨granted_of_not_executes ho.calls, hc ▸ hle, ?_, ?_⟩
  · intro s' hr
    rw [ho.next s' hr, hs, hc]
  · intro report hr
    rw [ho.done report hr, hs, hc]

lemma SpendsNothing.after (ht : ∀ x ∈ t, ¬x.Executes) (ho : SpendsNothing s o) :
    SpendsNothing s (o.after t) :=
  ⟨Outcome.forall_after ht ho.calls, ho.next, ho.done⟩

lemma spendsNothing_error {e : DeepLoopError} (ht : ∀ x ∈ t, ¬x.Executes) :
    SpendsNothing s ⟨.error e, w, t⟩ :=
  ⟨ht, by simp, by simp⟩

lemma Budgeted.after {h : List (Call σ)} (ht : Always (Granted total) h t)
    (ho : Budgeted total (h ++ t) o) : Budgeted total h (o.after t) := by
  refine ⟨(always_append _ _ _).mpr ⟨ht, ho.granted⟩, ?_, ?_, ?_⟩
  · rw [Outcome.after_trace, ← List.append_assoc]
    exact ho.within
  · rw [Outcome.after_trace, ← List.append_assoc]
    exact ho.next
  · rw [Outcome.after_trace, ← List.append_assoc]
    exact ho.done

lemma Budgets.after {v : World σ} (ht : ∀ x ∈ t, ¬x.Executes) (ho : Budgets total s v o) :
    Budgets total s w (o.after t) := by
  intro h hs hle
  have hc : charges (h ++ t) = charges h := by
    rw [charges_append, charges_of_not_executes ht, Nat.add_zero]
  exact (ho (h ++ t) (hc.symm ▸ hs) (hc.symm ▸ hle)).after (granted_of_not_executes ht)

lemma Closed.spendsNothing {operation : RuntimeOperation} {status : DeepLoopStatus}
    (hc : c.Closed operation (s.report status) w o) : SpendsNothing s o := by
  cases hc with
  | refused _ => exact spendsNothing_error (not_executes_of_mediating refusal_mediating)
  | closed _ =>
    refine ⟨not_executes_of_mediating c.authorised_mediating, by simp, fun report hr => ?_⟩
    cases hr
    rfl

lemma Emitted.spendsNothing {subtask : SubtaskEnvelope} (he : c.Emitted s step subtask w o) :
    SpendsNothing s o := by
  cases he with
  | refused _ => exact spendsNothing_error (by simp [Executes])
  | unrecorded _ _ => exact spendsNothing_error (by simp [Executes])
  | emitted _ _ => exact ⟨by simp [Executes], fun s' hr => by cases hr; rfl, by simp⟩

lemma Delegated.spendsNothing (hd : c.Delegated s step w o) : SpendsNothing s o := by
  have hchoose : ∀ {m r d t}, (∀ x ∈ t, ¬x.Executes) →
      ∀ x ∈ (.chooseDelegate m r d :: t : List (Call σ)), ¬x.Executes :=
    fun ht => List.forall_mem_cons.mpr ⟨id, ht⟩
  cases hd with
  | unchosen _ => exact spendsNothing_error (hchoose (by simp))
  | refused _ _ _ =>
    exact spendsNothing_error (hchoose (not_executes_of_mediating refusal_mediating))
  | handed _ _ he =>
    exact he.spendsNothing.after (hchoose (not_executes_of_mediating c.authorised_mediating))

lemma Judged.spendsNothing {verdict : ReviewVerdict}
    (hj : c.Judged s step stepContext w verdict o) : SpendsNothing s o := by
  cases hj with
  | unrecorded _ _ => exact spendsNothing_error (by simp [Executes])
  | recorded _ _ => exact ⟨by simp [Executes], fun s' hr => by cases hr; rfl, by simp⟩
  | unrevised _ => exact spendsNothing_error (by simp [Executes])
  | revised _ => exact ⟨by simp [Executes], by simp, fun report hr => by cases hr; rfl⟩
  | unchosen _ => exact spendsNothing_error (by simp [Executes])
  | handed _ he => exact he.spendsNothing.after (by simp [Executes])
  | failed hc => exact hc.spendsNothing

lemma Settled.spendsNothing {planContext : Option String} (hs : c.Settled s planContext w o) :
    SpendsNothing s o := by
  cases hs with
  | delegating _ => exact ⟨by simp, by simp, fun report hr => by cases hr; rfl⟩
  | unchecked _ _ => exact spendsNothing_error (by simp [Executes])
  | incomplete _ _ => exact ⟨by simp [Executes], fun s' hr => by cases hr; rfl, by simp⟩
  | unsatisfied _ _ hc => exact hc.spendsNothing.after (by simp [Executes])
  | unreviewed _ _ _ => exact spendsNothing_error (by simp [Executes])
  | invalid _ _ _ _ => exact spendsNothing_error (by simp [Executes])
  | failed _ _ _ _ _ hc => exact hc.spendsNothing.after (by simp [Executes])
  | completed _ _ _ _ _ hc => exact hc.spendsNothing.after (by simp [Executes])

lemma Produced.budgeted (htotal : total ≤ usizeMax) {body : String} {env : σ}
    {calls h : List (Call σ)} (hp : c.Produced s step stepContext w body s₁ env calls)
    (hs : s.toolBudget = ⟨total, charges h⟩) (hle : charges h ≤ total) :
    Always (Granted total) h calls ∧ s₁.toolBudget = ⟨total, charges (h ++ calls)⟩ ∧
      charges (h ++ calls) ≤ total := by
  cases hp with
  | placeholder _ => simpa using ⟨hs, hle⟩
  | @executed executor execution env _ _ =>
    have hwithin : s.toolBudget.WithinTotal := by
      rw [hs]
      exact ⟨hle, htotal⟩
    have hafter := (hwithin.charge execution.toolCallsUsed).used_le
    have hcharges : (s.charged execution).toolBudget.used =
        charges (h ++ [Call.executeStep ⟨s.plan, step, w⟩
          (executionRequest s step stepContext) (.ok execution)]) := by
      simp only [LoopState.charged, ToolBudget.charge_used hwithin, charges_append, charges_cons,
        charge, charges_nil, executionRequest, Nat.add_zero]
      rw [hs]
    have htot : (s.charged execution).toolBudget.total = total := by
      simp [LoopState.charged, ToolBudget.charge, hs]
    refine ⟨⟨⟨hle, ?_⟩, trivial⟩, ?_, ?_⟩
    · simp [executionRequest, hs, ToolBudget.grant, ToolBudget.remaining]
    · rw [← hcharges, ← htot]
    · rw [← hcharges, ← htot]
      exact hafter

lemma Worked.budgets (htotal : total ≤ usizeMax)
    (hw : c.Worked s action step stepContext w o) : Budgets total s w o := by
  intro h hs hle
  cases hw with
  | unexecuted _ _ =>
    refine ⟨⟨⟨hle, ?_⟩, trivial⟩, by simpa [charge] using hle, by simp, by simp⟩
    simp [executionRequest, hs, ToolBudget.grant, ToolBudget.remaining]
  | unstored hp _ =>
    obtain ⟨hg, hb, hle'⟩ := hp.budgeted htotal hs hle
    exact .after hg ((spendsNothing_error (by simp [Executes])).budgeted hb hle')
  | unreviewed hp _ _ =>
    obtain ⟨hg, hb, hle'⟩ := hp.budgeted htotal hs hle
    exact .after hg ((spendsNothing_error (by simp [Executes])).budgeted hb hle')
  | invalid hp _ _ _ =>
    obtain ⟨hg, hb, hle'⟩ := hp.budgeted htotal hs hle
    exact .after hg ((spendsNothing_error (by simp [Executes])).budgeted hb hle')
  | judged hp _ _ _ hj =>
    obtain ⟨hg, hb, hle'⟩ := hp.budgeted htotal hs hle
    rw [← Outcome.after_after]
    exact .after hg ((hj.spendsNothing.after (by simp [Executes])).budgeted hb hle')

lemma Acted.budgets (htotal : total ≤ usizeMax) (ha : c.Acted s action w o) :
    Budgets total s w o := by
  cases ha with
  | missing _ => exact fun _ => (spendsNothing_error (by simp)).budgeted
  | noContext _ => exact fun _ => (spendsNothing_error (by simp [Executes])).budgeted
  | delegated _ _ _ hd => exact fun _ => (hd.spendsNothing.after (by simp [Executes])).budgeted
  | @executed step package env o _ _ _ he =>
    apply Budgets.after (v := w.withEnv env) (by simp [Executes])
    cases he with
    | refused _ =>
      refine fun _ => (spendsNothing_error ?_).budgeted
      exact not_executes_of_mediating ticking_mediating
    | ticked _ hw =>
      exact (hw.budgets htotal).after (not_executes_of_mediating ticking_mediating)

end

lemma budgets_invariant {total : ℕ} (htotal : total ≤ usizeMax) :
    c.LoopInvariant (Budgets total) where
  skip s _ := fun _ => SpendsNothing.budgeted ⟨by simp, fun s' hr => by cases hr; rfl, by simp⟩
  seq h h' := by
    intro g hs hle
    have hb := h g hs hle
    exact .after hb.granted (h' _ (hb.next _ rfl) hb.within)
  halt _ _ _ := fun _ => (spendsNothing_error (by simp)).budgeted
  quiet ht h := h.after (not_executes_of_quiet ht)
  acted h := h.budgets htotal
  settled h := fun _ => h.spendsNothing.budgeted

lemma run_budgeted (plan : PlanDocument) (w : World σ) :
    Always (Granted (ToolBudget.forIterations c.maxIterations).total) []
      ((c.run plan).run w).trace ∧
    charges ((c.run plan).run w).trace ≤ (ToolBudget.forIterations c.maxIterations).total ∧
    ∀ report, ((c.run plan).run w).result = .ok report →
      report.toolCallsUsed = charges ((c.run plan).run w).trace := by
  refine (budgets_invariant (ToolBudget.withinTotal_forIterations c.maxIterations).total_le).run
    (P := fun o => Always (Granted (ToolBudget.forIterations c.maxIterations).total) [] o.trace ∧
      charges o.trace ≤ (ToolBudget.forIterations c.maxIterations).total ∧
      ∀ report, o.result = .ok report → report.toolCallsUsed = charges o.trace) ?_ ?_
  · intro e w' t hs
    have ht := not_executes_of_mediating hs.mediating
    exact ⟨granted_of_not_executes ht, by simp [charges_of_not_executes ht], by simp⟩
  · intro w₁ t o hs ho
    have ht := not_executes_of_mediating hs.mediating
    have hb : Budgeted _ [] (o.after t) :=
      .after (granted_of_not_executes ht)
        (ho t (by rw [charges_of_not_executes ht]; rfl) (by simp [charges_of_not_executes ht]))
    refine ⟨hb.granted, hb.within, fun report hr => ?_⟩
    rcases o with ⟨_ | s | report', w', u⟩
    · cases hr
    · cases hr
      simp [conclude, LoopState.report, hb.next s rfl]
    · cases hr
      simpa using hb.done report' rfl

end DeepLoopCoordinator

end GreenticDw

import GreenticDw.DeepLoop.Transitions

namespace GreenticDw

variable {σ : Type}

def Call.revision : Call σ → Option PlanRevision
  | .revisePlan _ (.ok revision) => some revision
  | _ => none

def Call.recorded : Call σ → Option PlanDocument
  | .recordStepResult _ (.ok plan) => some plan
  | _ => none

def Unrevised (t : List (Call σ)) : Prop := ∀ x ∈ t, x.revision = none

def latestPlan (plan : PlanDocument) (t : List (Call σ)) : PlanDocument :=
  (t.filterMap Call.recorded).getLast?.getD plan

def EndsRevised (t : List (Call σ)) : Prop :=
  ∃ pre request reply, t = pre ++ [.revisePlan request (.ok reply)] ∧ Unrevised pre

section

variable {t u : List (Call σ)}

lemma unrevised_mediating (ht : ∀ x ∈ t, x.Mediating) : Unrevised t := by
  intro x hx
  have hm := ht x hx
  cases x <;> first | rfl | exact hm.elim

lemma unrevised_quiet (ht : ∀ x ∈ t, x.Quiet) : Unrevised t := by
  intro x hx
  have hq := ht x hx
  cases x <;> first | rfl | exact hq.elim

lemma EndsRevised.after (ht : Unrevised t) (hu : EndsRevised u) : EndsRevised (t ++ u) := by
  obtain ⟨pre, request, reply, rfl, hpre⟩ := hu
  refine ⟨t ++ pre, request, reply, (List.append_assoc ..).symm, ?_⟩
  exact List.forall_mem_append.mpr ⟨ht, hpre⟩

lemma latestPlan_cons (plan : PlanDocument) (x : Call σ) (t : List (Call σ)) :
    latestPlan plan (x :: t) = latestPlan (x.recorded.getD plan) t := by
  cases hx : x.recorded with
  | none => rw [latestPlan, List.filterMap_cons_none hx, Option.getD_none, latestPlan]
  | some recorded =>
    rw [latestPlan, List.filterMap_cons_some hx, List.getLast?_cons, Option.getD_some,
      Option.getD_some, latestPlan]

lemma observe_plan {s : LoopState} {x : Call σ} (hx : x.revision = none) :
    (s.observe x).plan = x.recorded.getD s.plan := by
  cases x with
  | recordStepResult request answer => cases answer <;> rfl
  | revisePlan request answer =>
    cases answer with
    | error e => rfl
    | ok revision => cases hx
  | startSubtask moment request answer => cases answer <;> rfl
  | executeStep moment request answer => cases answer <;> rfl
  | createArtifact moment request answer => cases answer <;> rfl
  | _ => rfl

lemma replay_plan {s : LoopState} (ht : Unrevised t) : (s.replay t).plan = latestPlan s.plan t := by
  induction t generalizing s with
  | nil => rfl
  | cons x t ih =>
    rw [Unrevised, List.forall_mem_cons] at ht
    rw [LoopState.replay_cons, ih ht.2, observe_plan ht.1, latestPlan_cons]

end

namespace DeepLoopCoordinator

variable {c : DeepLoopCoordinator σ} {s s₁ : LoopState} {action : PlannedAction} {step : PlanStep}
  {stepContext : Option String} {w : World σ} {o : Ran σ} {t : List (Call σ)}

structure Revises (o : Ran σ) : Prop where
  next : ∀ s', o.result = .ok (.next s') → Unrevised o.trace
  done : ∀ report, o.result = .ok (.done report) →
    (report.status ≠ .revising ∧ Unrevised o.trace) ∨
      (report.status = .revising ∧ EndsRevised o.trace)

lemma Revises.after (ht : Unrevised t) (ho : Revises o) : Revises (o.after t) where
  next s' hr := List.forall_mem_append.mpr ⟨ht, ho.next s' hr⟩
  done report hr := by
    rcases ho.done report hr with ⟨hstatus, hu⟩ | ⟨hstatus, hu⟩
    · exact .inl ⟨hstatus, List.forall_mem_append.mpr ⟨ht, hu⟩⟩
    · exact .inr ⟨hstatus, hu.after ht⟩

lemma revises_error {e : DeepLoopError} {w' : World σ} : Revises ⟨.error e, w', t⟩ :=
  ⟨by simp, by simp⟩

lemma revises_next {w' : World σ} (ht : Unrevised t) : Revises ⟨.ok (.next s), w', t⟩ :=
  ⟨fun _ _ => ht, by simp⟩

lemma revises_report {status : DeepLoopStatus} {w' : World σ} (hstatus : status ≠ .revising)
    (ht : Unrevised t) : Revises ⟨.ok (.done (s.report status)), w', t⟩ := by
  refine ⟨by simp, fun report hr => ?_⟩
  cases hr
  exact .inl ⟨hstatus, ht⟩

lemma Closed.revises {operation : RuntimeOperation} {status : DeepLoopStatus}
    (hstatus : status ≠ .revising) (hc : c.Closed operation (s.report status) w o) :
    Revises o := by
  cases hc with
  | refused _ => exact revises_error
  | closed _ => exact revises_report hstatus (unrevised_mediating c.authorised_mediating)

lemma Emitted.revises {subtask : SubtaskEnvelope} (he : c.Emitted s step subtask w o) :
    Revises o := by
  cases he with
  | refused _ => exact revises_error
  | unrecorded _ _ => exact revises_error
  | emitted _ _ => exact revises_next (by simp [Unrevised, Call.revision])

lemma Delegated.revises (hd : c.Delegated s step w o) : Revises o := by
  cases hd with
  | unchosen _ => exact revises_error
  | refused _ _ _ => exact revises_error
  | handed _ _ he =>
    refine he.revises.after (List.forall_mem_cons.mpr ⟨rfl, ?_⟩)
    exact unrevised_mediating c.authorised_mediating

lemma Judged.revises {verdict : ReviewVerdict} (hj : c.Judged s step stepContext w verdict o) :
    Revises o := by
  cases hj with
  | unrecorded _ _ => exact revises_error
  | recorded _ _ => exact revises_next (by simp [Unrevised, Call.revision])
  | unrevised _ => exact revises_error
  | revised _ =>
    refine ⟨by simp, fun report hr => ?_⟩
    cases hr
    exact .inr ⟨rfl, [], _, _, rfl, by simp [Unrevised]⟩
  | unchosen _ => exact revises_error
  | handed _ he => exact he.revises.after (by simp [Unrevised, Call.revision])
  | failed hc => exact hc.revises (by decide)

lemma Produced.unrevised {body : String} {env : σ} {calls : List (Call σ)}
    (hp : c.Produced s step stepContext w body s₁ env calls) : Unrevised calls := by
  cases hp <;> simp [Unrevised, Call.revision]

lemma Executed.revises (he : c.Executed s action step stepContext w o) : Revises o := by
  cases he with
  | refused _ => exact revises_error
  | ticked _ hw =>
    refine Revises.after (unrevised_mediating ticking_mediating) ?_
    cases hw with
    | unexecuted _ _ => exact revises_error
    | unstored _ _ => exact revises_error
    | unreviewed _ _ _ => exact revises_error
    | invalid _ _ _ _ => exact revises_error
    | judged hp _ _ _ hj =>
      refine hj.revises.after (List.forall_mem_append.mpr ⟨hp.unrevised, ?_⟩)
      simp [Call.revision]

lemma Acted.revises (ha : c.Acted s action w o) : Revises o := by
  cases ha with
  | missing _ => exact revises_error
  | noContext _ => exact revises_error
  | delegated _ _ _ hd => exact hd.revises.after (by simp [Unrevised, Call.revision])
  | executed _ _ _ he => exact he.revises.after (by simp [Unrevised, Call.revision])

lemma Settled.revises {planContext : Option String} (hs : c.Settled s planContext w o) :
    Revises o := by
  cases hs with
  | delegating _ => exact revises_report (by decide) (by simp [Unrevised])
  | unchecked _ _ => exact revises_error
  | incomplete _ _ => exact revises_next (by simp [Unrevised, Call.revision])
  | unsatisfied _ _ hc =>
    exact (hc.revises (by decide)).after (by simp [Unrevised, Call.revision])
  | unreviewed _ _ _ => exact revises_error
  | invalid _ _ _ _ => exact revises_error
  | failed _ _ _ _ _ hc =>
    exact (hc.revises (by decide)).after (by simp [Unrevised, Call.revision])
  | completed _ _ _ _ _ hc =>
    exact (hc.revises (by decide)).after (by simp [Unrevised, Call.revision])

lemma revises_invariant : c.LoopInvariant fun _ _ o => Revises o where
  skip _ _ := revises_next (by simp [Unrevised])
  seq h ho := ho.after (h.next _ rfl)
  halt _ _ _ := revises_error
  quiet ht ho := ho.after (unrevised_quiet ht)
  acted h := h.revises
  settled h := h.revises

lemma run_revises (c : DeepLoopCoordinator σ) {plan : PlanDocument} {w : World σ}
    {report : DeepLoopRun} (h : ((c.run plan).run w).result = .ok report) :
    (report.status ≠ .revising ∧ Unrevised ((c.run plan).run w).trace) ∨
      (report.status = .revising ∧ EndsRevised ((c.run plan).run w).trace) := by
  refine revises_invariant.run (P := fun o => o.result = .ok report →
    (report.status ≠ .revising ∧ Unrevised o.trace) ∨
      (report.status = .revising ∧ EndsRevised o.trace)) ?_ ?_ h
  · intro e w' t _ hr
    cases hr
  · intro w₁ t o hs ho hr
    have ht := unrevised_mediating hs.mediating
    rcases o with ⟨e | s | report', w', u⟩
    · cases hr
    · cases hr
      exact .inl ⟨by simp [conclude, LoopState.report], List.forall_mem_append.mpr ⟨ht, ho.next s rfl⟩⟩
    · cases hr
      exact (ho.after ht).done report' rfl

lemma latestPlan_revision (hp : c.RecordsItself) {task : TaskEnvelope} (ht : c.Follows task s t)
    (hu : Unrevised t) : (latestPlan s.plan t).revision = s.plan.revision := by
  induction t generalizing s with
  | nil => rfl
  | cons x t ih =>
    rw [Unrevised, List.forall_mem_cons] at hu
    have hlater := ih ht.2 hu.2
    rw [observe_plan hu.1] at hlater
    rw [latestPlan_cons, hlater]
    cases x with
    | recordStepResult request answer =>
      cases answer with
      | error e => rfl
      | ok recorded =>
        rw [(fits_recordsItself hp ht.1).2]
        rfl
    | _ => rfl

theorem revision_as_replied (c : DeepLoopCoordinator σ) (plan : PlanDocument) (w : World σ)
    (report : DeepLoopRun) (h : ((c.run plan).run w).result = .ok report) :
    (report.status = .revising → ∃ pre request reply,
      ((c.run plan).run w).trace = pre ++ [.revisePlan request (.ok reply)] ∧
      request.plan = latestPlan plan pre ∧
      (∃ env, (c.planner.revisePlan request env).1 = .ok reply) ∧
      report.plan = { request.plan with revision := reply.revision } ∧
      (c.RecordsItself → request.plan.revision = plan.revision)) ∧
    (report.status ≠ .revising →
      report.plan = latestPlan plan ((c.run plan).run w).trace ∧
      (c.RecordsItself → report.plan.revision = plan.revision)) := by
  have hreplayed := c.run_replayed plan w
  have hreport := hreplayed.report report h
  have hcalls := hreplayed.calls
  have hrevises := c.run_revises h
  constructor
  · intro hstatus
    obtain ⟨hne, _⟩ | ⟨_, pre, request, reply, htrace, hpre⟩ := hrevises
    · exact (hne hstatus).elim
    have hfollows : c.Follows w.envelope (c.initialState plan) pre := by
      rw [htrace, follows_append] at hcalls
      exact hcalls.1
    have hplan : request.plan = latestPlan plan pre :=
      (hcalls.fits htrace).1.trans (replay_plan hpre)
    refine ⟨pre, request, reply, htrace, hplan, (hcalls.fits htrace).2, ?_, ?_⟩
    · rw [hreport, htrace, LoopState.replay_append]
      simp only [LoopState.report, LoopState.replay_cons, LoopState.replay_nil, LoopState.observe,
        LoopState.revised, replay_plan hpre, hplan]
      rfl
    · intro hp
      rw [hplan]
      exact latestPlan_revision hp hfollows hpre
  · intro hstatus
    obtain ⟨_, hnone⟩ | ⟨heq, _⟩ := hrevises
    · have hplan : report.plan = latestPlan plan ((c.run plan).run w).trace := by
        rw [hreport]
        exact replay_plan hnone
      refine ⟨hplan, fun hp => ?_⟩
      rw [hplan]
      exact latestPlan_revision hp hcalls hnone
    · exact (hstatus heq).elim

def revisedReport (revision : UInt32) : DeepLoopRun :=
  ⟨{ Script.onePlan with revision := revision }, .revising, [], ["artifact://plan/a/0"], 0⟩

theorem revision_as_replied_scripted : ∃ pre request reply,
    (Script.run ⟨.noop, .revise, .accept, 1⟩ .created [Script.step "a" .toolCall .ready []]
      [[⟨"a", "go"⟩]]).trace = pre ++ [.revisePlan request (.ok reply)] ∧
    request.plan = latestPlan Script.onePlan pre ∧
    (∃ env, (Script.planner.revisePlan request env).1 = .ok reply) ∧
    (revisedReport 2).plan = { request.plan with revision := reply.revision } ∧
    ((Script.coordinator ⟨.noop, .revise, .accept, 1⟩).RecordsItself →
      request.plan.revision = Script.onePlan.revision) :=
  (revision_as_replied (Script.coordinator ⟨.noop, .revise, .accept, 1⟩) Script.onePlan
    ⟨[[⟨"a", "go"⟩]], Script.task .created⟩ (revisedReport 2) (by rfl)).1 rfl

def sameRevision : String :=
  "\x7b\"revision\":1,\"reason\":\"none\",\"changed_step_ids\":[]\x7d"

def sameCodecs : PlanningCodecs where
  createPlan := Script.codec []
  plan := Script.codec []
  revision := Script.codec [(sameRevision, ⟨1, "none", [], []⟩)]
  actions := (Script.codecs []).actions

theorem same_revision_taken : ¬∀ (llm : LlmProvider (List String)) (codecs : PlanningCodecs)
    (c : DeepLoopCoordinator (List String)) (plan : PlanDocument) (w : World (List String))
    (report : DeepLoopRun),
    (((c.withPlanner (LlmPlanningProvider llm codecs)).run plan).run w).result = .ok report →
      report.status = .revising → plan.revision < report.plan.revision := by
  intro h
  have hrun : ((((Script.coordinatorOf ⟨.noop, .revise, .accept, 1⟩
      (LlmPlanningProvider Script.llm sameCodecs)).withPlanner
        (LlmPlanningProvider Script.llm sameCodecs)).run Script.onePlan).run
      ⟨[Script.reply "a", sameRevision], Script.task .created⟩).result = .ok (revisedReport 1) := by
    rfl
  exact absurd (h _ _ _ _ _ _ hrun rfl) (by decide)

end DeepLoopCoordinator

end GreenticDw

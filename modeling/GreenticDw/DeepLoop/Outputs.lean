import GreenticDw.DeepLoop.Phrases
import GreenticDw.DeepLoop.Replay
import GreenticDw.DeepLoop.Script
import GreenticDw.Text.Numbered

namespace GreenticDw

inductive Stage where
  | ticked
  | executed (step : PlanStep)
  | stored (step : PlanStep)
  deriving DecidableEq

section

variable {σ : Type}

namespace Call

def stage : Call σ → Option Stage
  | .tick (.ok _) _ => some .ticked
  | .executeStep moment _ (.ok _) => some (.executed moment.step)
  | .createArtifact moment _ (.ok _) => some (.stored moment.step)
  | _ => none

def output : Call σ → Option (PlanStep × String)
  | .createArtifact moment _ (.ok artifact) => some (moment.step, artifact.artifactId)
  | _ => none

def requestedId : Call σ → Option String
  | .createArtifact _ request _ => some request.artifact.artifactId
  | _ => none

def body : Call σ → Option Value
  | .executeStep _ _ (.ok execution) => some execution.body
  | _ => none

def acceptedSubtask : Call σ → Option SubtaskEnvelope
  | .startSubtask _ request (.ok _) => some request.envelope
  | _ => none

end Call

def stages (t : List (Call σ)) : List Stage := t.filterMap Call.stage
def outputs (t : List (Call σ)) : List (PlanStep × String) := t.filterMap Call.output
def requestedIds (t : List (Call σ)) : List String := t.filterMap Call.requestedId
def bodies (t : List (Call σ)) : List Value := t.filterMap Call.body
def acceptedSubtasks (t : List (Call σ)) : List SubtaskEnvelope := t.filterMap Call.acceptedSubtask

namespace LoopState

lemma replay_accumulates {α : Type} {part : LoopState → List α} {event : Call σ → Option α}
    (h : ∀ s x, part (s.observe x) = part s ++ (event x).toList) (s : LoopState)
    (t : List (Call σ)) : part (s.replay t) = part s ++ t.filterMap event := by
  induction t generalizing s with
  | nil => simp
  | cons x t ih =>
    rw [replay_cons, ih, h]
    cases hx : event x <;> simp [hx]

lemma observe_accumulates (s : LoopState) (x : Call σ) :
    (s.observe x).outputArtifactIds = s.outputArtifactIds ++ (x.output.map Prod.snd).toList ∧
    (s.observe x).emittedSubtasks = s.emittedSubtasks ++ x.acceptedSubtask.toList ∧
    (s.observe x).stepOutputs = s.stepOutputs ++ x.body.toList := by
  refine ⟨?_, ?_, ?_⟩
  all_goals
    cases x with
    | executeStep _ _ answer | startSubtask _ _ answer | createArtifact _ _ answer
    | recordStepResult _ answer | revisePlan _ answer =>
      cases answer <;> first | rfl | exact (List.append_nil _).symm
    | _ => exact (List.append_nil _).symm

lemma replay_outputArtifactIds (s : LoopState) (t : List (Call σ)) :
    (s.replay t).outputArtifactIds = s.outputArtifactIds ++ (outputs t).map Prod.snd := by
  rw [outputs, List.map_filterMap]
  exact replay_accumulates (fun s x => (observe_accumulates s x).1) s t

lemma replay_emittedSubtasks (s : LoopState) (t : List (Call σ)) :
    (s.replay t).emittedSubtasks = s.emittedSubtasks ++ acceptedSubtasks t :=
  replay_accumulates (fun s x => (observe_accumulates s x).2.1) s t

lemma replay_stepOutputs (s : LoopState) (t : List (Call σ)) :
    (s.replay t).stepOutputs = s.stepOutputs ++ bodies t :=
  replay_accumulates (fun s x => (observe_accumulates s x).2.2) s t

lemma replay_artifactSeq (s : LoopState) (t : List (Call σ)) :
    (s.replay t).artifactSeq = s.artifactSeq + UInt32.ofNat (outputs t).length := by
  induction t generalizing s with
  | nil => simp [outputs]
  | cons x t ih =>
    have hx : (s.observe x).artifactSeq = s.artifactSeq + UInt32.ofNat x.output.toList.length := by
      cases x with
      | executeStep _ _ answer | startSubtask _ _ answer | createArtifact _ _ answer
      | recordStepResult _ answer | revisePlan _ answer =>
        cases answer <;> first | rfl | exact (UInt32.add_zero _).symm
      | _ => exact (UInt32.add_zero _).symm
    have hcount : (outputs (x :: t)).length = x.output.toList.length + (outputs t).length := by
      cases hx : x.output <;> simp [outputs, hx, add_comm]
    rw [replay_cons, ih, hx, hcount, UInt32.ofNat_add, UInt32.add_assoc]

end LoopState

namespace DeepLoopCoordinator

variable {c : DeepLoopCoordinator σ} {task : TaskEnvelope} {plan : PlanDocument}
  {s : LoopState} {t u : List (Call σ)}

lemma Follows.stepOutputs (h : c.Follows task (c.initialState plan) t)
    {pre post : List (Call σ)} {moment : Moment σ} {request : ExecuteStepRequest}
    {answer : Except StepExecutionError StepExecution}
    (ht : t = pre ++ .executeStep moment request answer :: post) :
    request.priorOutputs = bodies pre := by
  obtain ⟨_, _, ⟨stepContext, hrequest⟩, _⟩ := h.fits ht
  rw [hrequest]
  exact (LoopState.replay_stepOutputs _ pre).trans (List.nil_append _)

theorem Follows.artifactId (h : c.Follows task (c.initialState plan) t)
    {pre post : List (Call σ)} {moment : Moment σ} {request : CreateArtifactRequest}
    {answer : Except WorkspaceError ArtifactRef}
    (ht : t = pre ++ .createArtifact moment request answer :: post) :
    request.artifact.artifactId =
      Text.numbered ("artifact://" ++ moment.plan.planId ++ "/" ++ moment.step.stepId)
        (UInt32.ofNat (outputs pre).length).toNat := by
  obtain ⟨hfits, _, ⟨action, body, _, hrequest⟩, _⟩ := h.fits ht
  have hseq := LoopState.replay_artifactSeq (c.initialState plan) pre
  rw [show (c.initialState plan).artifactSeq = 0 from rfl, UInt32.zero_add] at hseq
  rw [hrequest]
  unfold stepArtifact
  rw [hfits.plan, hseq]
  rfl

def stagesOf (c : DeepLoopCoordinator σ) (step : PlanStep) : List Stage :=
  .ticked :: (c.executor.map fun _ => Stage.executed step).toList ++ [.stored step]

def Staged (c : DeepLoopCoordinator σ) (t : List (Call σ)) : Prop :=
  stages t = (outputs t).flatMap fun output => c.stagesOf output.1

lemma stages_append : stages (t ++ u) = stages t ++ stages u := List.filterMap_append ..
lemma outputs_append : outputs (t ++ u) = outputs t ++ outputs u := List.filterMap_append ..

lemma stages_aside (ht : ∀ x ∈ t, x.Aside) : stages t = [] := by
  apply List.filterMap_eq_nil_iff.mpr
  intro x hx
  have := ht x hx
  cases x <;> first | rfl | exact this.elim

lemma outputs_aside (ht : ∀ x ∈ t, x.Aside) : outputs t = [] := by
  apply List.filterMap_eq_nil_iff.mpr
  intro x hx
  have := ht x hx
  cases x <;> first | rfl | exact this.elim

lemma Phrased.staged (h : c.Phrased t) : c.Staged t := by
  unfold Staged
  induction h with
  | nil => rfl
  | @aside x t hx _ ih =>
    have hx : ∀ y ∈ [x], y.Aside := by simpa using hx
    rw [← List.singleton_append, stages_append, outputs_append, stages_aside hx, outputs_aside hx]
    exact ih
  | @executed s s₁ step _ w body env calls t events state request artifact hp _ ih =>
    have hcalls : stages calls = (c.executor.map fun _ => Stage.executed step).toList ∧
        outputs calls = [] := by
      cases hp with
      | placeholder hx => simp [stages, outputs, hx]
      | executed hx _ => simp [stages, outputs, hx, Call.stage, Call.output]
    change .ticked :: stages (calls ++ _) = (outputs (calls ++ _)).flatMap _
    rw [stages_append, outputs_append, hcalls.1, hcalls.2]
    change .ticked :: (_ ++ .stored step :: stages t) =
      c.stagesOf step ++ (outputs t).flatMap fun output => c.stagesOf output.1
    simp [stagesOf, ih]
  | @handed _ _ _ _ between t _ _ _ _ hb _ ih =>
    change stages (between ++ _) = (outputs (between ++ _)).flatMap _
    rw [stages_append, outputs_append, stages_aside hb, outputs_aside hb]
    exact ih

def Echoes (c : DeepLoopCoordinator σ) : Prop :=
  ∀ request env artifact, (c.workspace.createArtifact request env).1 = .ok artifact →
    artifact.artifactId = request.artifact.artifactId

lemma Follows.requestedIds_eq (h : c.Follows task s t) (hsound : Sound t) (echo : c.Echoes) :
    requestedIds t = (outputs t).map Prod.snd := by
  induction t generalizing s with
  | nil => rfl
  | cons x t ih =>
    have ih := ih h.2 fun y hy => hsound y (List.mem_cons_of_mem x hy)
    cases x with
    | createArtifact moment request answer =>
      cases answer with
      | error e => cases hsound _ (List.mem_cons_self ..)
      | ok artifact =>
        obtain ⟨_, _, _, hanswer⟩ := h.1
        have hid := echo request _ artifact hanswer
        simpa [requestedIds, outputs, Call.requestedId, Call.output, hid] using ih
    | _ => exact ih

lemma Follows.requestedNumbers (h : c.Follows task s t) (hsound : Sound t) {n : ℕ}
    (hn : s.artifactSeq = .ofNat n) :
    (requestedIds t).map Text.lastSegment =
      ((List.range' n (requestedIds t).length).map fun k => (UInt32.ofNat k).toNat).map
        fun k => (toString k).toList := by
  induction t generalizing s n with
  | nil => rfl
  | cons x t ih =>
    have hsound' : Sound t := fun y hy => hsound y (List.mem_cons_of_mem x hy)
    cases x with
    | createArtifact moment request answer =>
      cases answer with
      | error e => cases hsound _ (List.mem_cons_self ..)
      | ok artifact =>
        have hseq : (s.stored artifact).artifactSeq = .ofNat (n + 1) := by
          rw [LoopState.stored, hn, UInt32.ofNat_add]
          rfl
        have ih := ih h.2 hsound' hseq
        obtain ⟨_, _, ⟨action, body, _, hrequest⟩, _⟩ := h.1
        have hid : request.artifact.artifactId = Text.numbered
            ("artifact://" ++ s.plan.planId ++ "/" ++ moment.step.stepId)
            (UInt32.ofNat n).toNat := by
          rw [hrequest, ← hn]
          rfl
        have hids : requestedIds (.createArtifact moment request (.ok artifact) :: t) =
            request.artifact.artifactId :: requestedIds t := rfl
        rw [hids, List.map_cons, hid, Text.lastSegment_numbered, ih, List.length_cons,
          List.range'_succ]
        rfl
    | executeStep _ _ answer | startSubtask _ _ answer | recordStepResult _ answer
    | revisePlan _ answer => cases answer <;> exact ih h.2 hsound' hn
    | _ => exact ih h.2 hsound' hn

lemma Follows.outputKind (h : c.Follows task s t) {output : PlanStep × String}
    (houtput : output ∈ outputs t) : output.1.kind ≠ .delegate := by
  obtain ⟨x, hx, hout⟩ := List.mem_filterMap.mp houtput
  obtain ⟨pre, post, ht⟩ := List.append_of_mem hx
  have hfits := h.fits ht
  cases x with
  | createArtifact moment request answer =>
    cases answer with
    | error e => cases hout
    | ok artifact =>
      cases hout
      exact hfits.2.1
  | _ => cases hout

structure Kept (c : DeepLoopCoordinator σ) (report : DeepLoopRun) (t : List (Call σ)) : Prop where
  staged : c.Staged t
  kinds : ∀ output ∈ outputs t, output.1.kind ≠ .delegate
  outputs : report.outputArtifactIds = (outputs t).map Prod.snd
  nodup : report.outputArtifactIds.Nodup
  requested : ∀ id ∈ report.outputArtifactIds, (requestedIds t).count id = 1
  priorOutputs : ∀ pre moment request answer post,
    t = pre ++ .executeStep moment request answer :: post → request.priorOutputs = bodies pre
  subtasks : report.emittedSubtasks = acceptedSubtasks t

theorem outputs_kept (c : DeepLoopCoordinator σ) (echo : c.Echoes) (plan : PlanDocument)
    (w : World σ) (report : DeepLoopRun) (hr : ((c.run plan).run w).result = .ok report)
    (hn : (outputs ((c.run plan).run w).trace).length < 2 ^ 32) :
    c.Kept report ((c.run plan).run w).trace := by
  have h := c.run_replayed plan w
  have hstaged := (run_phrased hr).staged
  generalize (c.run plan).run w = o at *
  have hreport := h.report report hr
  have hsound : Sound o.trace := h.sound hr
  have hids : report.outputArtifactIds = (outputs o.trace).map Prod.snd := by
    rw [hreport]
    exact (LoopState.replay_outputArtifactIds _ o.trace).trans (List.nil_append _)
  have hrequested := h.calls.requestedIds_eq hsound echo
  have hnodup : report.outputArtifactIds.Nodup := by
    rw [hids, ← hrequested]
    refine Text.nodup_of_numbers ?_ (h.calls.requestedNumbers hsound (n := 0) rfl)
    have hlength : (requestedIds o.trace).length < 2 ^ 32 := by
      rw [hrequested, List.length_map]
      exact hn
    have hsmall : ∀ k ∈ List.range' 0 (requestedIds o.trace).length,
        (UInt32.ofNat k).toNat = k := by
      intro k hk
      rw [List.mem_range'_1] at hk
      exact UInt32.toNat_ofNat_of_lt (hk.2.trans (by simpa using hlength))
    rw [List.map_congr_left hsmall, List.map_id']
    exact List.nodup_range' ..
  exact {
    staged := hstaged
    kinds := fun output houtput => h.calls.outputKind houtput
    outputs := hids
    nodup := hnodup
    requested := fun id hid => by
      rw [hrequested, ← hids]
      exact List.count_eq_one_of_mem hnodup hid
    priorOutputs := fun _ _ _ _ _ ht => h.calls.stepOutputs ht
    subtasks := by
      rw [hreport]
      exact (LoopState.replay_emittedSubtasks _ o.trace).trans (List.nil_append _) }

theorem outputs_kept_scripted :
    ∃ report, (Script.coordinator ⟨.operation .step, .accept, .accept, 3⟩).Kept report
      (Script.run ⟨.operation .step, .accept, .accept, 3⟩ .created
        [Script.step "a" .toolCall .ready [], Script.step "b" .delegate .ready []]
        [[⟨"a", "go"⟩], [⟨"b", "go"⟩, ⟨"a", "again"⟩]]).trace := by
  have hok : (Script.run ⟨.operation .step, .accept, .accept, 3⟩ .created
      [Script.step "a" .toolCall .ready [], Script.step "b" .delegate .ready []]
      [[⟨"a", "go"⟩], [⟨"b", "go"⟩, ⟨"a", "again"⟩]]).result.isOk = true := by decide +kernel
  cases hr : (Script.run ⟨.operation .step, .accept, .accept, 3⟩ .created
      [Script.step "a" .toolCall .ready [], Script.step "b" .delegate .ready []]
      [[⟨"a", "go"⟩], [⟨"b", "go"⟩, ⟨"a", "again"⟩]]).result with
  | error e =>
    rw [hr] at hok
    cases hok
  | ok report =>
    exact ⟨report, outputs_kept _ (by rintro _ _ _ ⟨⟩; rfl) _ _ report hr (by decide +kernel)⟩

end DeepLoopCoordinator

end

end GreenticDw

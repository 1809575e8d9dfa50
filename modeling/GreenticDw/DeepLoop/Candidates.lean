import GreenticDw.DeepLoop.Handoffs
import GreenticDw.Llm.Reviewer

namespace GreenticDw

open Text (isBlank)

/-- The decision keeps the rule of delegation decisions, and to the agents that were offered. -/
structure DelegationDecision.Sound (req : DelegationRequest) (decision : DelegationDecision) :
    Prop where
  valid : validateDecision decision = .ok ()
  offered : req.candidateAgents ≠ [] →
    ∀ agent ∈ decision.targetAgents, agent ∈ req.candidateAgents

namespace LlmDelegation

variable {σ : Type} (llm : LlmProvider σ) (codecs : DelegationCodecs) (req : DelegationRequest)
  (s : σ)

def Proposes (decision : DelegationDecision) : Prop :=
  ∃ response s', llm.chat (Llm.completionRequest (systemForChooseDelegate codecs)
      (Llm.toStringPretty codecs.request req)) s = (.ok response, s') ∧
    codecs.decision.decode (Llm.extractJson response.content) = .ok decision

structure Acceptable (decision : DelegationDecision) : Prop where
  rationale : isBlank decision.rationale = false
  undelegated : decision.mode = .none → decision.targetAgents = []
  offered : req.candidateAgents ≠ [] →
    ∀ agent ∈ decision.targetAgents, agent ∈ req.candidateAgents

def ProposesAcceptable : Prop :=
  ∀ decision, Proposes llm codecs req s decision →
    (decision.mode ≠ .none → decision.targetAgents ≠ []) → Acceptable req decision

variable {llm codecs req s} {decision : DelegationDecision}

lemma chooseDelegate_eq_ok : (chooseDelegate llm codecs req s).1 = .ok decision ↔
    Proposes llm codecs req s decision ∧
      (decision.mode ≠ .none → decision.targetAgents ≠ []) := by
  have hcheck : ∀ d, checkDecision d = .ok decision ↔
      d = decision ∧ (decision.mode ≠ .none → decision.targetAgents ≠ []) := by
    intro d
    rw [checkDecision]
    split_ifs with hrefused
    · simp only [false_iff]
      rintro ⟨rfl, hnamed⟩
      exact hnamed hrefused.1 hrefused.2
    · simp only [Except.ok.injEq]
      constructor
      · rintro rfl
        exact ⟨rfl, fun hmode htargets => hrefused ⟨hmode, htargets⟩⟩
      · exact And.left
  rw [chooseDelegate, Llm.completeJson, Proposes]
  rcases hchat : llm.chat (Llm.completionRequest (systemForChooseDelegate codecs)
    (Llm.toStringPretty codecs.request req)) s with ⟨e | response, s'⟩
  · simp
  · cases hdecode : codecs.decision.decode (Llm.extractJson response.content) with
    | error e => simp [hdecode]
    | ok d => simp [hdecode, hcheck]

lemma sound_iff (hnamed : decision.mode ≠ .none → decision.targetAgents ≠ []) :
    decision.Sound req ↔ Acceptable req decision := by
  constructor
  · rintro ⟨hvalid, hoffered⟩
    obtain ⟨hrationale, hmode⟩ := validateDecision_eq_ok.mp hvalid
    exact ⟨hrationale, hmode.mp, hoffered⟩
  · intro h
    refine ⟨validateDecision_eq_ok.mpr ⟨h.rationale, h.undelegated, ?_⟩, h.offered⟩
    intro hnone
    by_contra hmode
    exact hnamed hmode hnone

lemma chosen_sound_iff :
    (∀ decision, (chooseDelegate llm codecs req s).1 = .ok decision → decision.Sound req) ↔
      ProposesAcceptable llm codecs req s := by
  simp only [chooseDelegate_eq_ok, ProposesAcceptable]
  constructor
  · intro h decision hproposes hnamed
    exact (sound_iff hnamed).mp (h decision ⟨hproposes, hnamed⟩)
  · rintro h decision ⟨hproposes, hnamed⟩
    exact (sound_iff hnamed).mpr (h decision hproposes hnamed)

end LlmDelegation

lemma mem_of_lastChoice {σ : Type} {h : List (Call σ)} {step : PlanStep}
    {request : DelegationRequest} {decision : DelegationDecision}
    (hlast : lastChoice h = some (step, request, decision)) :
    ∃ moment : Moment σ, moment.step = step ∧ .chooseDelegate moment request (.ok decision) ∈ h := by
  obtain ⟨x, hx, hchoice⟩ := List.mem_filterMap.mp (List.mem_of_getLast? hlast)
  cases x with
  | chooseDelegate moment r answer =>
    cases answer with
    | error e => cases hchoice
    | ok d =>
      cases hchoice
      exact ⟨moment, rfl, hx⟩
  | _ => cases hchoice

lemma subtaskTarget_offered {step : PlanStep} {goal agent : String} {decision : DelegationDecision}
    (hassigned : step.assignedAgent = some agent)
    (hsound : decision.Sound (delegationRequest step goal)) : subtaskTarget step decision = agent := by
  have hone : ∀ target ∈ decision.targetAgents, target = agent := by
    intro target htarget
    have hoffered := hsound.offered (by simp [delegationRequest, hassigned]) target htarget
    simpa [delegationRequest, hassigned] using hoffered
  cases hmode : decision.mode with
  | none => simp [subtaskTarget, hmode, hassigned]
  | _ =>
    cases htargets : decision.targetAgents with
    | nil => simp [subtaskTarget, hmode, htargets, hassigned]
    | cons target targets =>
      have htarget := hone target (htargets ▸ List.mem_cons_self)
      simp [subtaskTarget, hmode, htargets, htarget]

namespace DeepLoopCoordinator

variable {σ : Type} (c : DeepLoopCoordinator σ) (llm : LlmProvider σ) (codecs : DelegationCodecs)

def withDelegator (delegator : DelegationProvider σ) : DeepLoopCoordinator σ := { c with delegator }

theorem delegated_to_offered (c : DeepLoopCoordinator σ) (llm : LlmProvider σ)
    (codecs : DelegationCodecs) :
    (∀ req s, (∀ decision, ((LlmDelegationProvider llm codecs).chooseDelegate req s).1 =
        .ok decision → decision.Sound req) ↔ LlmDelegation.ProposesAcceptable llm codecs req s) ∧
    ∀ plan w, (∀ moment request answer, .chooseDelegate moment request answer ∈
        (((c.withDelegator (LlmDelegationProvider llm codecs)).run plan).run w).trace →
          LlmDelegation.ProposesAcceptable llm codecs request moment.world.env) →
      ∀ moment request answer, .startSubtask moment request answer ∈
        (((c.withDelegator (LlmDelegationProvider llm codecs)).run plan).run w).trace →
        ∀ agent, moment.step.assignedAgent = some agent →
          request.envelope.targetAgent = agent := by
  refine ⟨fun req s => LlmDelegation.chosen_sound_iff, ?_⟩
  intro plan w hproposals moment request answer hmem agent hassigned
  obtain ⟨pre, post, hsplit⟩ := List.append_of_mem hmem
  have hchosen := (always_iff _ _).mp (run_chosen _ plan w) pre _ post hsplit
  obtain ⟨goal, decision, hlast, henvelope⟩ := hchosen
  obtain ⟨chosen, _, hchoice⟩ := mem_of_lastChoice hlast
  have hin : .chooseDelegate chosen (delegationRequest moment.step goal) (.ok decision) ∈
      (((c.withDelegator (LlmDelegationProvider llm codecs)).run plan).run w).trace := by
    rw [hsplit]
    exact List.mem_append_left _ hchoice
  obtain ⟨before, after, hbefore⟩ := List.append_of_mem hin
  obtain ⟨_, _, hanswer⟩ := (run_replayed _ plan w).calls.fits hbefore
  have hsound := LlmDelegation.chosen_sound_iff.mpr (hproposals _ _ _ hin) decision hanswer
  rw [henvelope]
  exact subtaskTarget_offered hassigned hsound

end DeepLoopCoordinator

namespace LlmDelegation

def outsider : DelegationDecision := ⟨.single, ["mallory"], .firstSuccess, "knows the topic"⟩

def outsiderReply : String :=
  "\x7b\"mode\":\"single\",\"target_agents\":[\"mallory\"]," ++
    "\"merge_policy\":\"first_success\",\"rationale\":\"knows the topic\"\x7d"

def unreasoned : DelegationDecision := ⟨.none, ["alice"], .firstSuccess, " "⟩

def unreasonedReply : String :=
  "\x7b\"mode\":\"none\",\"target_agents\":[\"alice\"]," ++
    "\"merge_policy\":\"first_success\",\"rationale\":\" \"\x7d"

def outsiderCodecs : DelegationCodecs :=
  ⟨Script.codec [(outsiderReply, outsider), (unreasonedReply, unreasoned)], Script.codec []⟩

theorem outsider_chosen :
    (¬∀ (llm : LlmProvider (List String)) (codecs : DelegationCodecs) (req : DelegationRequest)
      (s : List String) (decision : DelegationDecision),
      ((LlmDelegationProvider llm codecs).chooseDelegate req s).1 = .ok decision →
        decision.Sound req) ∧
    ¬∀ (llm : LlmProvider (List String)) (codecs : DelegationCodecs) (req : DelegationRequest)
      (s : List String) (decision : DelegationDecision),
      ((LlmDelegationProvider llm codecs).chooseDelegate req s).1 = .ok decision →
        validateDecision decision = .ok () := by
  constructor
  · intro h
    have hchosen : ((LlmDelegationProvider Script.llm outsiderCodecs).chooseDelegate
        ⟨"answer", ["alice"]⟩ [outsiderReply]).1 = .ok outsider := by decide +kernel
    have hsound := h Script.llm outsiderCodecs ⟨"answer", ["alice"]⟩ [outsiderReply] outsider hchosen
    exact absurd (hsound.offered (by decide)) (by decide)
  · intro h
    have hchosen : ((LlmDelegationProvider Script.llm outsiderCodecs).chooseDelegate
        ⟨"answer", ["alice"]⟩ [unreasonedReply]).1 = .ok unreasoned := by decide +kernel
    have hvalid := h Script.llm outsiderCodecs ⟨"answer", ["alice"]⟩ [unreasonedReply] unreasoned
      hchosen
    obtain ⟨hrationale, _⟩ := validateDecision_eq_ok.mp hvalid
    exact absurd hrationale (by decide)

def offered : DelegationDecision := ⟨.single, ["alice"], .firstSuccess, "knows the topic"⟩

def offeredReply : String :=
  "\x7b\"mode\":\"single\",\"target_agents\":[\"alice\"]," ++
    "\"merge_policy\":\"first_success\",\"rationale\":\"knows the topic\"\x7d"

def offeredCodecs : DelegationCodecs := ⟨Script.codec [(offeredReply, offered)], Script.codec []⟩

def offeredLoop : DeepLoopCoordinator (List String) :=
  Script.coordinatorOf ⟨.operation .step, .accept, .accept, 1⟩
    (LlmPlanningProvider Script.llm (Script.codecs []))

def offeredPlan : PlanDocument :=
  Script.plan [{ Script.step "a" .delegate .ready [] with assignedAgent := some "alice" }]

def offeredTrace : List (Call (List String)) :=
  (((offeredLoop.withDelegator (LlmDelegationProvider Script.llm offeredCodecs)).run
    offeredPlan).run ⟨[Script.reply "a", offeredReply], Script.task .created⟩).trace

def choiceOf : Call (List String) → Option (DelegationRequest × List String)
  | .chooseDelegate moment request _ => some (request, moment.world.env)
  | _ => none

def targetOf : Call (List String) → Option String
  | .startSubtask _ request (.ok _) => some request.envelope.targetAgent
  | _ => none

lemma choices_offered : offeredTrace.filterMap choiceOf =
    [(⟨"a", ["alice"]⟩, [offeredReply])] := by
  decide +kernel

lemma proposesAcceptable_offered :
    ProposesAcceptable Script.llm offeredCodecs ⟨"a", ["alice"]⟩ [offeredReply] := by
  refine chosen_sound_iff.mp fun decision h => ?_
  have hoffered : (chooseDelegate Script.llm offeredCodecs ⟨"a", ["alice"]⟩ [offeredReply]).1 =
      .ok offered := by decide +kernel
  obtain rfl := Except.ok.inj (hoffered.symm.trans h)
  exact ⟨by decide +kernel, fun _ => by decide⟩

end LlmDelegation

namespace DeepLoopCoordinator

open LlmDelegation

theorem delegated_to_offered_alice :
    offeredTrace.filterMap targetOf = ["alice"] ∧
    ∀ moment request answer, .startSubtask moment request answer ∈ offeredTrace →
      ∀ agent, moment.step.assignedAgent = some agent → request.envelope.targetAgent = agent := by
  refine ⟨by decide +kernel, (delegated_to_offered offeredLoop Script.llm offeredCodecs).2
    offeredPlan _ fun moment request answer hmem => ?_⟩
  have hchoice : (request, moment.world.env) ∈ offeredTrace.filterMap choiceOf :=
    List.mem_filterMap.mpr ⟨_, hmem, rfl⟩
  rw [choices_offered, List.mem_singleton, Prod.mk.injEq] at hchoice
  rw [hchoice.1, hchoice.2]
  exact proposesAcceptable_offered

end DeepLoopCoordinator

end GreenticDw

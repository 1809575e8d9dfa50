import GreenticDw.Runtime.Kernel
import GreenticDw.Traced.Cells

namespace GreenticDw

/-- The events lead from one state to another, each leaving from where the last one arrived. -/
def Chained : TaskLifecycleState → List RuntimeEvent → TaskLifecycleState → Prop
  | s, [], s' => s = s'
  | s, e :: es, s' => e.fromState = s ∧ Chained e.toState es s'

lemma Chained.append {s s' s'' : TaskLifecycleState} {es fs : List RuntimeEvent}
    (h : Chained s es s') (h' : Chained s' fs s'') : Chained s (es ++ fs) s'' := by
  induction es generalizing s with
  | nil => exact h.symm ▸ h'
  | cons e es ih => exact ⟨h.1, ih h.2⟩

lemma Chained.last_toState {s s' : TaskLifecycleState} {es : List RuntimeEvent} {e : RuntimeEvent}
    (h : Chained s (es ++ [e]) s') : e.toState = s' := by
  induction es generalizing s with
  | nil => exact h.2
  | cons _ es ih => exact ih h.2

namespace RuntimeCall

def postedTo (i : ℕ) : RuntimeCall → Option RuntimeEvent
  | postOperation j _ event => if j = i then some event else none
  | _ => none

def notifiedTo (i : ℕ) : RuntimeCall → Option RuntimeEvent
  | onOperation j event => if j = i then some event else none
  | _ => none

def savedEnvelope : RuntimeCall → Option TaskEnvelope
  | saveState envelope _ => some envelope
  | _ => none

end RuntimeCall

open RuntimeCall

lemma filterMap_position {α : Type} (a : α) (n i : ℕ) (hi : i < n) :
    (List.range n).filterMap (fun j => if j = i then some a else none) = [a] := by
  induction n with
  | zero => omega
  | succ n ih =>
    rw [List.range_succ, List.filterMap_append]
    rcases Nat.lt_succ_iff_lt_or_eq.mp hi with h | rfl
    · simp [ih h, Nat.ne_of_gt h]
    · rw [List.filterMap_eq_nil_iff.mpr]
      · simp
      · intro j hj
        simp [Nat.ne_of_lt (List.mem_range.mp hj)]

structure Coherent {σ : Type} (rt : DwRuntime σ) (before : TaskEnvelope) (calls : List RuntimeCall)
    (events : List RuntimeEvent) (after : TaskEnvelope) : Prop where
  chain : Chained before.state events after.state
  frame : after = { before with state := after.state }
  legal : ∀ e ∈ events, e.Legal
  posted : ∀ i < rt.packs.controlHooks.length, calls.filterMap (postedTo i) = events
  notified : ∀ i < rt.packs.observerSubs.length, calls.filterMap (notifiedTo i) = events
  saved : rt.stateStore.isSome = true →
    calls.filterMap savedEnvelope = events.map fun e => { before with state := e.toState }

namespace Coherent

variable {σ : Type} {rt : DwRuntime σ} {a b c : TaskEnvelope} {t u : List RuntimeCall}
  {es fs : List RuntimeEvent}

lemma append (h : Coherent rt a t es b) (h' : Coherent rt b u fs c) :
    Coherent rt a (t ++ u) (es ++ fs) c where
  chain := h.chain.append h'.chain
  frame := by rw [h'.frame, h.frame]
  legal e he := (List.mem_append.mp he).elim (h.legal e) (h'.legal e)
  posted i hi := by rw [List.filterMap_append, h.posted i hi, h'.posted i hi]
  notified i hi := by rw [List.filterMap_append, h.notified i hi, h'.notified i hi]
  saved hs := by
    rw [List.filterMap_append, h.saved hs, h'.saved hs, List.map_append]
    congr 2
    funext e
    rw [h.frame]

lemma silent (a : TaskEnvelope) (hp : ∀ i, t.filterMap (postedTo i) = [])
    (hn : ∀ i, t.filterMap (notifiedTo i) = []) (hs : t.filterMap savedEnvelope = []) :
    Coherent rt a t [] a where
  chain := rfl
  frame := rfl
  legal e he := by simp at he
  posted i _ := hp i
  notified i _ := hn i
  saved _ := hs

lemma nil (a : TaskEnvelope) : Coherent rt a [] [] a :=
  silent a (by simp) (by simp) (by simp)

lemma of_preOperations {operation : RuntimeOperation}
    (ht : ∀ c ∈ t, PackIntegration.IsPreOperation a operation c) : Coherent rt a t [] a := by
  have hall : ∀ {β : Type} (f : RuntimeCall → Option β),
      (∀ i e o d, f (.preOperation i e o d) = none) → t.filterMap f = [] := by
    intro β f hf
    rw [List.filterMap_eq_nil_iff]
    intro c hc
    cases c with
    | preOperation i e o d => exact hf i e o d
    | _ => exact (ht _ hc).elim
  exact silent a (fun i => hall _ (by simp [postedTo])) (fun i => hall _ (by simp [notifiedTo]))
    (hall _ (by simp [savedEnvelope]))

lemma granted (a : TaskEnvelope) (operation : RuntimeOperation) :
    Coherent rt a (rt.packs.granted a operation) [] a := by
  have hpre : ∀ c ∈ rt.packs.granted a operation, PackIntegration.IsPreOperation a operation c := by
    intro c hc
    obtain ⟨i, _, rfl⟩ := List.mem_map.mp hc
    exact ⟨rfl, rfl⟩
  exact of_preOperations hpre

lemma announced {operation : RuntimeOperation} {event : RuntimeEvent} {saves : List RuntimeCall}
    (h : Core.applyOperation a operation = .ok (event, b))
    (hp : ∀ i, saves.filterMap (postedTo i) = []) (hn : ∀ i, saves.filterMap (notifiedTo i) = [])
    (hs : rt.stateStore.isSome = true → saves.filterMap savedEnvelope = [b]) :
    Coherent rt a (rt.packs.announced b event ++ saves) [event] b := by
  obtain ⟨hl, _, hfrom, _, hb⟩ := Core.applyOperation_ok h
  have hstate : b.state = event.toState := by rw [hb]
  refine ⟨⟨hfrom, hstate.symm⟩, by rw [hstate]; exact hb, by simpa using hl, ?_, ?_, ?_⟩
  · intro i hi
    simp only [PackIntegration.announced, List.filterMap_append, List.filterMap_map, hp,
      Function.comp_def, postedTo, filterMap_position event _ i hi]
    simp
  · intro i hi
    simp only [PackIntegration.announced, List.filterMap_append, List.filterMap_map, hn,
      Function.comp_def, notifiedTo, filterMap_position event _ i hi]
    simp
  · intro hstore
    simp only [PackIntegration.announced, List.filterMap_append, List.filterMap_map,
      Function.comp_def, savedEnvelope, hs hstore]
    simp [← hb]

end Coherent

/-- The event of an operation that was asked of an envelope and answered so, if it moved the
envelope. The save comes after the move, so the move stands when the save is refused. -/
def moved (envelope : TaskEnvelope) (operation : RuntimeOperation) :
    Except RuntimeError RuntimeEvent → Option RuntimeEvent
  | .ok event => some event
  | .error (.dispatch _) => (Core.applyOperation envelope operation).toOption.map (·.1)
  | .error _ => none

namespace DwRuntime

variable {σ : Type} {rt : DwRuntime σ} {operation : RuntimeOperation} {w : World σ}

lemma Applied.coherent {o : Outcome (World σ) RuntimeCall RuntimeError RuntimeEvent}
    (h : Applied rt operation w o) :
    Coherent rt w.envelope o.trace (moved w.envelope operation o.result).toList
      o.world.envelope := by
  cases h with
  | blocked ht => exact .of_preOperations ht
  | illegal h => exact .granted _ _
  | unsaved h hs =>
    simp only [moved, h, Except.toOption, Option.map_some, Option.toList_some]
    exact (Coherent.granted _ _).append (.announced h (by simp [postedTo]) (by simp [notifiedTo])
      (by simp [savedEnvelope]))
  | applied h =>
    have hop := (Core.applyOperation_ok h).2.1
    refine (Coherent.granted _ _).append (.announced h ?_ ?_ ?_)
    · intro i
      unfold saved
      split_ifs <;> simp [postedTo]
    · intro i
      unfold saved
      split_ifs <;> simp [notifiedTo]
    · intro hs
      simp [saved, hs, savedEnvelope]

lemma applyOperation_coherent (rt : DwRuntime σ) (operation : RuntimeOperation) (w : World σ) :
    Coherent rt w.envelope ((rt.applyOperation operation).run w).trace
      (moved w.envelope operation ((rt.applyOperation operation).run w).result).toList
      ((rt.applyOperation operation).run w).world.envelope :=
  (rt.applyOperation_cases operation w).coherent

end DwRuntime

structure Performed (σ : Type) where
  operation : RuntimeOperation
  world : World σ

namespace DwRuntime

variable {σ : Type}

def answerTo (rt : DwRuntime σ) (p : Performed σ) : Except RuntimeError RuntimeEvent :=
  ((rt.applyOperation p.operation).run p.world).result

def eventOf (rt : DwRuntime σ) (p : Performed σ) : Option RuntimeEvent :=
  moved p.world.envelope p.operation (rt.answerTo p)

def performedBatch (rt : DwRuntime σ) : List RuntimeOperation → World σ → List (Performed σ)
  | [], _ => []
  | operation :: operations, w =>
    ⟨operation, w⟩ ::
      match (rt.applyOperation operation).run w with
      | ⟨.ok _, w', _⟩ => rt.performedBatch operations w'
      | ⟨.error _, _, _⟩ => []

lemma applyBatch_coherent (rt : DwRuntime σ) (operations : List RuntimeOperation) (w : World σ) :
    Coherent rt w.envelope ((rt.applyBatch operations).run w).trace
      ((rt.performedBatch operations w).filterMap rt.eventOf)
      ((rt.applyBatch operations).run w).world.envelope := by
  induction operations generalizing w with
  | nil => exact .nil _
  | cons operation operations ih =>
    have hhead := rt.applyOperation_coherent operation w
    have hevents : (rt.performedBatch (operation :: operations) w).filterMap rt.eventOf =
        (rt.eventOf ⟨operation, w⟩).toList ++
          ((rt.performedBatch (operation :: operations) w).tail).filterMap rt.eventOf := by
      cases he : rt.eventOf ⟨operation, w⟩ <;> simp [performedBatch, he]
    rw [hevents]
    rcases h : (rt.applyOperation operation).run w with ⟨e | event, w', t⟩
    · rw [h] at hhead
      simpa [applyBatch, performedBatch, eventOf, answerTo, h] using hhead
    · have htail := ih w'
      rw [h] at hhead
      rcases h' : (rt.applyBatch operations).run w' with ⟨e | events, w'', t'⟩ <;>
        simpa [applyBatch, performedBatch, eventOf, answerTo, h, h'] using
          hhead.append (by simpa [h'] using htail)

lemma applyBatch_answers (rt : DwRuntime σ) {operations : List RuntimeOperation} {w : World σ}
    {events : List RuntimeEvent} (h : ((rt.applyBatch operations).run w).result = .ok events) :
    (rt.performedBatch operations w).filterMap rt.eventOf = events := by
  induction operations generalizing w events with
  | nil => exact Except.ok.inj h
  | cons operation operations ih =>
    rcases ho : (rt.applyOperation operation).run w with ⟨e | event, w', t⟩
    · simp [applyBatch, ho] at h
    rcases hb : (rt.applyBatch operations).run w' with ⟨e | rest, w'', t'⟩
    · simp [applyBatch, ho, hb] at h
    · have hrest : (rt.performedBatch operations w').filterMap rt.eventOf = rest :=
        ih (by rw [hb])
      simpa [applyBatch, performedBatch, eventOf, answerTo, moved, ho, hb, hrest] using h

end DwRuntime

inductive RuntimeRequest where
  | start
  | step
  | delegate (delegateWorkerId : String)
  | complete
  | fail (reason : String)
  | tick

namespace DwRuntime

variable {σ : Type}

lemma applyDecision_eq (rt : DwRuntime σ) (decision : EngineDecision) (w : World σ) :
    (rt.applyDecision decision).run w = (rt.applyBatch decision.operations).run w := by
  cases decision with
  | noop => rfl
  | operation operation =>
    rcases h : (rt.applyOperation operation).run w with ⟨e | event, w', t⟩ <;>
      simp [applyDecision, EngineDecision.operations, applyBatch, h]
  | batch operations => rfl

def asked (rt : DwRuntime σ) (w : World σ) : RuntimeRequest → List RuntimeOperation × World σ
  | .start => ([.start], w)
  | .step => ([.step], w)
  | .delegate worker => ([.delegate worker], w)
  | .complete => ([.complete], w)
  | .fail reason => ([.fail reason], w)
  | .tick =>
    match rt.engine.decideWithEnvelope w.envelope w.env with
    | (.ok decision, s) => (decision.operations, w.withEnv s)
    | (.error _, s) => ([], w.withEnv s)

def performed (rt : DwRuntime σ) (r : RuntimeRequest) (w : World σ) : List (Performed σ) :=
  rt.performedBatch (rt.asked w r).1 (rt.asked w r).2

def request (rt : DwRuntime σ) :
    RuntimeRequest → Traced (World σ) RuntimeCall RuntimeError (List RuntimeEvent)
  | .start => do pure [← rt.start]
  | .step => do pure [← rt.step]
  | .delegate worker => do pure [← rt.delegate worker]
  | .complete => do pure [← rt.complete]
  | .fail reason => do pure [← rt.fail reason]
  | .tick => rt.tick

lemma request_cases (rt : DwRuntime σ) (r : RuntimeRequest) (w : World σ) :
    (rt.request r).run w = (rt.applyBatch (rt.asked w r).1).run (rt.asked w r).2 ∧
      (rt.asked w r).2 = w ∨
    (∃ decision, (rt.request r).run w =
        ((rt.applyBatch (rt.asked w r).1).run (rt.asked w r).2).after
          [.decide w.envelope (.ok decision)]) ∧ (rt.asked w r).2.envelope = w.envelope ∨
    ∃ e s, (rt.request r).run w = ⟨.error (.engine e), w.withEnv s, [.decide w.envelope (.error e)]⟩ ∧
      rt.performed r w = [] := by
  have hone : ∀ operation, (do pure [← rt.applyOperation operation] : Traced _ _ _ _).run w =
      (rt.applyBatch [operation]).run w := by
    intro operation
    rcases h : (rt.applyOperation operation).run w with ⟨e | event, w', t⟩ <;>
      simp [applyBatch, h]
  cases r with
  | tick =>
    right
    rcases h : rt.engine.decideWithEnvelope w.envelope w.env with ⟨e | decision, s⟩
    · exact .inr ⟨e, s, by simp [request, tick, h, Except.mapError],
        by simp [performed, asked, h, performedBatch]⟩
    · refine .inl ⟨⟨decision, ?_⟩, by simp [asked, h]⟩
      simp [request, tick, asked, h, Except.mapError, applyDecision_eq]
  | _ => exact .inl ⟨hone _, rfl⟩

lemma request_coherent (rt : DwRuntime σ) (r : RuntimeRequest) (w : World σ) :
    Coherent rt w.envelope ((rt.request r).run w).trace ((rt.performed r w).filterMap rt.eventOf)
      ((rt.request r).run w).world.envelope := by
  have hdecide (answer) : Coherent rt w.envelope [.decide w.envelope answer] [] w.envelope :=
    .silent _ (by simp [postedTo]) (by simp [notifiedTo]) (by simp [savedEnvelope])
  have hbatch := rt.applyBatch_coherent (rt.asked w r).1 (rt.asked w r).2
  rcases rt.request_cases r w with ⟨h, hw⟩ | ⟨⟨decision, h⟩, hw⟩ | ⟨e, s, h, hnone⟩
  · rw [h, performed]
    rwa [hw] at hbatch ⊢
  · rw [hw] at hbatch
    rw [h]
    exact (hdecide (.ok decision)).append hbatch
  · rw [h, hnone]
    exact hdecide (.error e)

lemma request_answers (rt : DwRuntime σ) {r : RuntimeRequest} {w : World σ}
    {events : List RuntimeEvent} (h : ((rt.request r).run w).result = .ok events) :
    (rt.performed r w).filterMap rt.eventOf = events := by
  rcases rt.request_cases r w with ⟨hr, _⟩ | ⟨⟨_, hr⟩, _⟩ | ⟨e, s, hr, _⟩ <;> rw [hr] at h
  · exact rt.applyBatch_answers h
  · exact rt.applyBatch_answers h
  · cases h

def requests (rt : DwRuntime σ) : List RuntimeRequest →
    Traced (World σ) RuntimeCall RuntimeError (List (Except RuntimeError (List RuntimeEvent)))
  | [] => pure []
  | r :: rs => do
    let answer ← (rt.request r).attempt
    let answers ← rt.requests rs
    pure (answer :: answers)

def performedAll (rt : DwRuntime σ) : List RuntimeRequest → World σ → List (Performed σ)
  | [], _ => []
  | r :: rs, w => rt.performed r w ++ rt.performedAll rs ((rt.request r).run w).world

variable {rt : DwRuntime σ} {rs : List RuntimeRequest} {w : World σ}

lemma run_requests_cons (r : RuntimeRequest) :
    (rt.requests (r :: rs)).run w =
      (((rt.requests rs).run ((rt.request r).run w).world).map
        (((rt.request r).run w).result :: ·)).after ((rt.request r).run w).trace := by
  rcases h : (rt.requests rs).run ((rt.request r).run w).world with ⟨e | answers, w', t⟩ <;>
    simp [requests, h]

theorem requests_coherent (rt : DwRuntime σ) (rs : List RuntimeRequest) (w : World σ) :
    Coherent rt w.envelope ((rt.requests rs).run w).trace
      ((rt.performedAll rs w).filterMap rt.eventOf) ((rt.requests rs).run w).world.envelope := by
  induction rs generalizing w with
  | nil => exact .nil _
  | cons r rs ih =>
    rw [run_requests_cons, performedAll, List.filterMap_append]
    exact (rt.request_coherent r w).append (ih ((rt.request r).run w).world)

lemma requests_answers (rt : DwRuntime σ) (rs : List RuntimeRequest) (w : World σ) :
    ∃ answers, ((rt.requests rs).run w).result = .ok answers ∧
      ((answers.filterMap Except.toOption).flatten).Sublist
        ((rt.performedAll rs w).filterMap rt.eventOf) := by
  induction rs generalizing w with
  | nil => exact ⟨[], rfl, .slnil⟩
  | cons r rs ih =>
    obtain ⟨answers, hanswers, hsub⟩ := ih ((rt.request r).run w).world
    refine ⟨((rt.request r).run w).result :: answers, ?_, ?_⟩
    · rw [run_requests_cons, Outcome.after_result, Outcome.map, hanswers, Except.map]
    rw [performedAll, List.filterMap_append]
    cases hr : ((rt.request r).run w).result with
    | error e => exact hsub.trans (List.sublist_append_right _ _)
    | ok events =>
      rw [rt.request_answers hr]
      exact hsub.append_left events

lemma refused_of_eventOf_eq_none {p : Performed σ} (h : rt.eventOf p = none) :
    (∃ hook ∈ rt.packs.controlHooks, ∃ s reason,
      (hook.preOperation p.world.envelope p.operation s).1 = .block reason) ∨
    ∃ e, Core.applyOperation p.world.envelope p.operation = .error e := by
  have hcases := rt.applyOperation_cases p.operation p.world
  unfold eventOf answerTo at h
  generalize (rt.applyOperation p.operation).run p.world = o at h hcases
  cases hcases with
  | @blocked _ reason _ _ hb =>
    obtain ⟨hook, hmem, s, hs⟩ := hb
    exact .inl ⟨hook, hmem, s, reason, hs⟩
  | illegal hc => exact .inr ⟨_, hc⟩
  | unsaved hc => simp [moved, hc, Except.toOption] at h
  | applied hc => simp [moved] at h

theorem requests_trace_coherence (rt : DwRuntime σ) (rs : List RuntimeRequest) (w : World σ) :
    ∃ answers events, ((rt.requests rs).run w).result = .ok answers ∧
      events = (rt.performedAll rs w).filterMap rt.eventOf ∧
      ((answers.filterMap Except.toOption).flatten).Sublist events ∧
      (∀ p ∈ rt.performedAll rs w, rt.eventOf p = none →
        (∃ hook ∈ rt.packs.controlHooks, ∃ s reason,
          (hook.preOperation p.world.envelope p.operation s).1 = .block reason) ∨
        ∃ e, Core.applyOperation p.world.envelope p.operation = .error e) ∧
      (∀ i < rt.packs.observerSubs.length,
        ((rt.requests rs).run w).trace.filterMap (notifiedTo i) = events) ∧
      (∀ i < rt.packs.controlHooks.length,
        ((rt.requests rs).run w).trace.filterMap (postedTo i) = events) ∧
      Chained w.envelope.state events ((rt.requests rs).run w).world.envelope.state ∧
      (∀ e ∈ events, e.fromState = e.toState ∨ e.fromState.canTransitionTo e.toState = true) ∧
      (∀ e ∈ events, e.fromState.isTerminal = true → e.toState = e.fromState) ∧
      (rt.stateStore.isSome = true →
        (∃ p ∈ rt.performedAll rs w, ∃ event, rt.answerTo p = .ok event) →
        (((rt.requests rs).run w).trace.filterMap savedEnvelope).getLast? =
          some ((rt.requests rs).run w).world.envelope) := by
  obtain ⟨answers, hanswers, hsub⟩ := rt.requests_answers rs w
  have h := rt.requests_coherent rs w
  refine ⟨answers, _, hanswers, rfl, hsub, fun _ _ => refused_of_eventOf_eq_none, h.notified,
    h.posted, h.chain, h.legal, fun e he ht => (h.legal e he).terminal ht, ?_⟩
  rintro hs ⟨p, hp, event, hevent⟩
  have hmem : event ∈ (rt.performedAll rs w).filterMap rt.eventOf :=
    List.mem_filterMap.mpr ⟨p, hp, by rw [eventOf, hevent, moved]⟩
  generalize (rt.performedAll rs w).filterMap rt.eventOf = events at h hmem
  obtain ⟨es, e, rfl⟩ := List.eq_nil_or_concat events |>.resolve_left (List.ne_nil_of_mem hmem)
  rw [h.saved hs, List.concat_eq_append, List.map_append, List.map_singleton, List.getLast?_concat,
    h.frame]
  simp only [List.concat_eq_append] at h
  rw [h.chain.last_toState]

end DwRuntime

end GreenticDw

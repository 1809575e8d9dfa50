import GreenticDw.Runtime.Packs

/-! The runtime kernel: an operation passes the pre hooks, moves the envelope, is announced to
post hooks and observers, and is saved. -/

namespace GreenticDw

inductive RuntimeError where
  | engine (error : EngineError)
  | hook (error : HookError)
  | core (error : CoreRuntimeError)
  | dispatch (error : CapabilityDispatchError)
  deriving DecidableEq, Repr

structure DwRuntime (σ : Type) where
  engine : DwEngine σ
  packs : PackIntegration σ
  stateStore : Option (TaskStateStore σ)

namespace DwRuntime

variable {σ : Type}

def applyOperation (rt : DwRuntime σ) (operation : RuntimeOperation) :
    Traced (World σ) RuntimeCall RuntimeError RuntimeEvent := do
  let w ← Traced.get
  (rt.packs.runPreHooks w.envelope operation).mapError .hook
  let (event, envelope) ←
    Traced.ofExcept ((Core.applyOperation w.envelope operation).mapError .core)
  World.setEnvelope envelope
  rt.packs.runPostHooks envelope event
  rt.packs.notifyObservers event
  match rt.stateStore with
  | some store => World.ask (store.saveState envelope) (.saveState envelope) .dispatch
  | none => pure ()
  pure event

def applyBatch (rt : DwRuntime σ) :
    List RuntimeOperation → Traced (World σ) RuntimeCall RuntimeError (List RuntimeEvent)
  | [] => pure []
  | operation :: operations => do
    let event ← rt.applyOperation operation
    let events ← rt.applyBatch operations
    pure (event :: events)

def applyDecision (rt : DwRuntime σ) :
    EngineDecision → Traced (World σ) RuntimeCall RuntimeError (List RuntimeEvent)
  | .noop => pure []
  | .operation operation => do
    let event ← rt.applyOperation operation
    pure [event]
  | .batch operations => rt.applyBatch operations

def tick (rt : DwRuntime σ) : Traced (World σ) RuntimeCall RuntimeError (List RuntimeEvent) := do
  let w ← Traced.get
  let decision ←
    World.ask (rt.engine.decideWithEnvelope w.envelope) (.decide w.envelope) .engine
  rt.applyDecision decision

def start (rt : DwRuntime σ) : Traced (World σ) RuntimeCall RuntimeError RuntimeEvent :=
  rt.applyOperation .start

def step (rt : DwRuntime σ) : Traced (World σ) RuntimeCall RuntimeError RuntimeEvent :=
  rt.applyOperation .step

def delegate (rt : DwRuntime σ) (delegateWorkerId : String) :
    Traced (World σ) RuntimeCall RuntimeError RuntimeEvent :=
  rt.applyOperation (.delegate delegateWorkerId)

def complete (rt : DwRuntime σ) : Traced (World σ) RuntimeCall RuntimeError RuntimeEvent :=
  rt.applyOperation .complete

def fail (rt : DwRuntime σ) (reason : String) :
    Traced (World σ) RuntimeCall RuntimeError RuntimeEvent :=
  rt.applyOperation (.fail reason)

def saved (rt : DwRuntime σ) (envelope : TaskEnvelope) : List RuntimeCall :=
  if rt.stateStore.isSome then [.saveState envelope (.ok ())] else []

def mediated (rt : DwRuntime σ) (before : TaskEnvelope) (event : RuntimeEvent)
    (after : TaskEnvelope) : List RuntimeCall :=
  rt.packs.granted before event.operation ++ (rt.packs.announced after event ++ rt.saved after)

inductive Applied (rt : DwRuntime σ) (operation : RuntimeOperation) (w : World σ) :
    Outcome (World σ) RuntimeCall RuntimeError RuntimeEvent → Prop
  | blocked {s : σ} {reason : String} {t : List RuntimeCall} :
      (∀ c ∈ t, PackIntegration.IsPreOperation w.envelope operation c) →
      (∃ hook ∈ rt.packs.controlHooks, ∃ s,
        (hook.preOperation w.envelope operation s).1 = .block reason) →
      Applied rt operation w ⟨.error (.hook (.blocked reason)), w.withEnv s, t⟩
  | illegal {s : σ} {e : CoreRuntimeError} :
      Core.applyOperation w.envelope operation = .error e →
      Applied rt operation w
        ⟨.error (.core e), w.withEnv s, rt.packs.granted w.envelope operation⟩
  | unsaved {store : TaskStateStore σ} {s s' : σ} {event : RuntimeEvent} {envelope : TaskEnvelope}
      {e : CapabilityDispatchError} :
      Core.applyOperation w.envelope operation = .ok (event, envelope) →
      rt.stateStore = some store → store.saveState envelope s' = (.error e, s) →
      Applied rt operation w ⟨.error (.dispatch e), ⟨s, envelope⟩,
        rt.packs.granted w.envelope operation ++
          (rt.packs.announced envelope event ++ [.saveState envelope (.error e)])⟩
  | applied {s : σ} {event : RuntimeEvent} {envelope : TaskEnvelope} :
      Core.applyOperation w.envelope operation = .ok (event, envelope) →
      Applied rt operation w ⟨.ok event, ⟨s, envelope⟩, rt.mediated w.envelope event envelope⟩

theorem applyOperation_cases (rt : DwRuntime σ) (operation : RuntimeOperation) (w : World σ) :
    Applied rt operation w ((rt.applyOperation operation).run w) := by
  unfold applyOperation
  rcases rt.packs.runPreHooks_cases w.envelope operation w with ⟨s, h⟩ | ⟨s, reason, t, h, ht, hb⟩
  · cases hc : Core.applyOperation w.envelope operation with
    | error e =>
      simpa [h, hc, Except.mapError] using Applied.illegal (s := s) hc
    | ok p =>
      obtain ⟨event, envelope⟩ := p
      obtain ⟨s₁, h₁⟩ := rt.packs.run_runPostHooks (ε := RuntimeError) event s envelope
      obtain ⟨s₂, h₂⟩ := rt.packs.run_notifyObservers (ε := RuntimeError) event s₁ envelope
      have hop : event.operation = operation := (Core.applyOperation_ok hc).2.1
      cases hs : rt.stateStore with
      | none =>
        have ha : Applied rt operation w _ := .applied (s := s₂) hc
        simpa [h, hc, hs, h₁, h₂, hop, Except.mapError, PackIntegration.announced, mediated, saved]
          using ha
      | some store =>
        rcases hr : store.saveState envelope s₂ with ⟨e | _, s₃⟩
        · simpa [h, hc, hs, hr, h₁, h₂, Except.mapError, PackIntegration.announced, World.withEnv]
            using Applied.unsaved hc hs hr
        · have ha : Applied rt operation w _ := .applied (s := s₃) hc
          simpa [h, hc, hs, hr, h₁, h₂, hop, Except.mapError, PackIntegration.announced, mediated,
            saved, World.withEnv] using ha
  · simpa [h, Except.mapError] using Applied.blocked (s := s) ht hb

lemma applyOperation_envelope {R : TaskEnvelope → TaskEnvelope → Prop} (hrefl : ∀ e, R e e)
    (hop : ∀ {e operation event e'}, Core.applyOperation e operation = .ok (event, e') → R e e')
    (rt : DwRuntime σ) (operation : RuntimeOperation) (w : World σ) :
    R w.envelope ((rt.applyOperation operation).run w).world.envelope := by
  have h := rt.applyOperation_cases operation w
  generalize (rt.applyOperation operation).run w = o at h
  cases h with
  | blocked _ _ => exact hrefl _
  | illegal _ => exact hrefl _
  | unsaved hc _ _ => exact hop hc
  | applied hc => exact hop hc

lemma applyBatch_envelope {R : TaskEnvelope → TaskEnvelope → Prop} (hrefl : ∀ e, R e e)
    (htrans : ∀ {a b c}, R a b → R b c → R a c)
    (hop : ∀ {e operation event e'}, Core.applyOperation e operation = .ok (event, e') → R e e')
    (rt : DwRuntime σ) (operations : List RuntimeOperation) (w : World σ) :
    R w.envelope ((rt.applyBatch operations).run w).world.envelope := by
  induction operations generalizing w with
  | nil => exact hrefl _
  | cons operation operations ih =>
    have h := rt.applyOperation_envelope hrefl hop operation w
    rcases hr : (rt.applyOperation operation).run w with ⟨e | event, w', t⟩
    · rw [hr] at h
      simpa [applyBatch, hr] using h
    · rw [hr] at h
      have h' := ih w'
      rcases hb : (rt.applyBatch operations).run w' with ⟨e | events, w'', t'⟩ <;>
        rw [hb] at h' <;>
        simpa [applyBatch, hr, hb] using htrans h h'

theorem tick_envelope {R : TaskEnvelope → TaskEnvelope → Prop} (hrefl : ∀ e, R e e)
    (htrans : ∀ {a b c}, R a b → R b c → R a c)
    (hop : ∀ {e operation event e'}, Core.applyOperation e operation = .ok (event, e') → R e e')
    (rt : DwRuntime σ) (w : World σ) : R w.envelope (rt.tick.run w).world.envelope := by
  rcases hd : rt.engine.decideWithEnvelope w.envelope w.env with ⟨e | decision, s⟩
  · simpa [tick, hd, Except.mapError] using hrefl _
  cases decision with
  | noop => simpa [tick, hd, Except.mapError, applyDecision] using hrefl _
  | operation operation =>
    have h := rt.applyOperation_envelope hrefl hop operation (w.withEnv s)
    rcases hr : (rt.applyOperation operation).run (w.withEnv s) with ⟨e | event, w', t⟩ <;>
      rw [hr] at h <;>
      simpa [tick, hd, Except.mapError, applyDecision, hr] using h
  | batch operations =>
    have h := rt.applyBatch_envelope hrefl htrans hop operations (w.withEnv s)
    simpa [tick, hd, Except.mapError, applyDecision] using h

lemma tick_terminal (rt : DwRuntime σ) {w : World σ} (hw : w.envelope.state.isTerminal = true) :
    (rt.tick.run w).world.envelope.state = w.envelope.state := by
  refine rt.tick_envelope (R := fun e e' => e.state.isTerminal = true → e'.state = e.state)
    (fun _ _ => rfl) (fun hab hbc ha => ?_) (fun hc ht => ?_) w hw
  · exact (hbc (hab ha ▸ ha)).trans (hab ha)
  · obtain ⟨hl, _, hf, _, he⟩ := Core.applyOperation_ok hc
    rw [he]
    exact (hl.terminal (hf ▸ ht)).trans hf

def OnlySteps (rt : DwRuntime σ) : Prop :=
  ∀ envelope s decision, (rt.engine.decideWithEnvelope envelope s).1 = .ok decision →
    decision = .noop ∨ decision = .operation .step

lemma tick_of_onlySteps {rt : DwRuntime σ} (h : rt.OnlySteps) (w : World σ) :
    (rt.tick.run w).world.envelope = w.envelope := by
  have hstep : ∀ s, ((rt.applyOperation .step).run (w.withEnv s)).world.envelope = w.envelope := by
    intro s
    have hc := rt.applyOperation_cases .step (w.withEnv s)
    have hcore : ∀ {event e'}, Core.applyOperation w.envelope .step = .ok (event, e') →
        e' = w.envelope := by
      intro event e' hc
      obtain ⟨_, _, _, ht, he⟩ := Core.applyOperation_ok hc
      rw [he, ht]
      rfl
    generalize (rt.applyOperation .step).run (w.withEnv s) = o at hc
    cases hc with
    | blocked _ _ => rfl
    | illegal _ => rfl
    | unsaved hc _ _ => exact hcore hc
    | applied hc => exact hcore hc
  rcases hd : rt.engine.decideWithEnvelope w.envelope w.env with ⟨e | decision, s⟩
  · simp [tick, hd, Except.mapError]
  obtain rfl | rfl := h w.envelope w.env decision (by rw [hd])
  · simp [tick, hd, Except.mapError, applyDecision]
  · have h' := hstep s
    rcases hr : (rt.applyOperation .step).run (w.withEnv s) with ⟨e | event, w', t⟩ <;>
      rw [hr] at h' <;>
      simpa [tick, hd, Except.mapError, applyDecision, hr] using h'

end DwRuntime

end GreenticDw

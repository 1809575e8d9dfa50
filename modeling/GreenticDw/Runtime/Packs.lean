import GreenticDw.Runtime.Operations
import GreenticDw.Traced.Computation

/-! Engines, control hooks, observers and state stores, with the calls the runtime makes to them.
Whatever they keep to themselves is part of an environment that every call may change. -/

namespace GreenticDw

/-- The task envelope the runtime mutates and the environment of everything it calls. -/
structure World (σ : Type) where
  env : σ
  envelope : TaskEnvelope

inductive EngineDecision where
  | noop
  | operation (operation : RuntimeOperation)
  | batch (operations : List RuntimeOperation)
  deriving DecidableEq, Repr

def EngineDecision.operations : EngineDecision → List RuntimeOperation
  | .noop => []
  | .operation asked => [asked]
  | .batch operations => operations

inductive EngineError where
  | emptyBatch
  | invalidDecision (reason : String)
  deriving DecidableEq, Repr

structure DwEngine (σ : Type) where
  decideWithEnvelope : TaskEnvelope → σ → Except EngineError EngineDecision × σ

def StaticEngine.validateDecision : EngineDecision → Except EngineError Unit
  | .batch [] => .error .emptyBatch
  | _ => .ok ()

def StaticEngine (σ : Type) (decision : EngineDecision) : DwEngine σ where
  decideWithEnvelope _ s := ((StaticEngine.validateDecision decision).map fun _ => decision, s)

inductive HookDecision where
  | continues
  | block (reason : String)
  deriving DecidableEq, Repr

inductive HookError where
  | blocked (reason : String)
  deriving DecidableEq, Repr

structure ControlHook (σ : Type) where
  preOperation : TaskEnvelope → RuntimeOperation → σ → HookDecision × σ
  postOperation : TaskEnvelope → RuntimeEvent → σ → σ

structure ObserverSub (σ : Type) where
  onOperation : RuntimeEvent → σ → σ

structure PackIntegration (σ : Type) where
  controlHooks : List (ControlHook σ)
  observerSubs : List (ObserverSub σ)

inductive CapabilityDispatchError where
  | backend (reason : String)
  | missingBinding (requestId : String)
  | missingCapabilityBinding (capability : String)
  | resolution (reason : String)
  | invalidPayload (reason : String)
  deriving DecidableEq, Repr

structure TaskStateStore (σ : Type) where
  saveState : TaskEnvelope → σ → Except CapabilityDispatchError Unit × σ

inductive RuntimeCall where
  | decide (envelope : TaskEnvelope) (answer : Except EngineError EngineDecision)
  | preOperation (hook : ℕ) (envelope : TaskEnvelope) (operation : RuntimeOperation)
      (answer : HookDecision)
  | postOperation (hook : ℕ) (envelope : TaskEnvelope) (event : RuntimeEvent)
  | onOperation (observer : ℕ) (event : RuntimeEvent)
  | saveState (envelope : TaskEnvelope) (answer : Except CapabilityDispatchError Unit)

namespace World

variable {σ Ev E ε β : Type}

def withEnv (w : World σ) (s : σ) : World σ := ⟨s, w.envelope⟩

@[simp] lemma withEnv_envelope (w : World σ) (s : σ) : (w.withEnv s).envelope = w.envelope := rfl
@[simp] lemma withEnv_env (w : World σ) (s : σ) : (w.withEnv s).env = s := rfl

@[simp] lemma withEnv_withEnv (w : World σ) (s s' : σ) : (w.withEnv s).withEnv s' = w.withEnv s' :=
  rfl

def tell (f : σ → σ) (event : Ev) : Traced (World σ) Ev ε Unit :=
  Traced.answer (fun w => ((), w.withEnv (f w.env))) (fun _ => event)

def answer (f : σ → β × σ) (label : β → Ev) : Traced (World σ) Ev ε β :=
  Traced.answer (fun w => ((f w.env).1, w.withEnv (f w.env).2)) label

def ask (f : σ → Except E β × σ) (label : Except E β → Ev) (wrap : E → ε) :
    Traced (World σ) Ev ε β :=
  (Traced.ask (fun w => ((f w.env).1, w.withEnv (f w.env).2)) label).mapError wrap

def setEnvelope (envelope : TaskEnvelope) : Traced (World σ) Ev ε Unit :=
  Traced.modify fun w => ⟨w.env, envelope⟩

@[simp] lemma run_tell (f : σ → σ) (event : Ev) (w : World σ) :
    (tell f event : Traced (World σ) Ev ε Unit).run w = ⟨.ok (), w.withEnv (f w.env), [event]⟩ :=
  rfl

@[simp] lemma run_answer (f : σ → β × σ) (label : β → Ev) (w : World σ) :
    (answer f label : Traced (World σ) Ev ε β).run w =
      ⟨.ok (f w.env).1, w.withEnv (f w.env).2, [label (f w.env).1]⟩ := rfl

@[simp] lemma run_ask (f : σ → Except E β × σ) (label : Except E β → Ev) (wrap : E → ε)
    (w : World σ) :
    (ask f label wrap).run w =
      ⟨(f w.env).1.mapError wrap, w.withEnv (f w.env).2, [label (f w.env).1]⟩ := rfl

@[simp] lemma run_setEnvelope (envelope : TaskEnvelope) (w : World σ) :
    (setEnvelope envelope : Traced (World σ) Ev ε Unit).run w = ⟨.ok (), ⟨w.env, envelope⟩, []⟩ :=
  rfl

end World

namespace PackIntegration

variable {σ ε : Type} (envelope : TaskEnvelope) (operation : RuntimeOperation)
  (event : RuntimeEvent)

def runPreHooksFrom : ℕ → List (ControlHook σ) → Traced (World σ) RuntimeCall HookError Unit
  | _, [] => pure ()
  | i, hook :: hooks => do
    match ← World.answer (hook.preOperation envelope operation)
        (.preOperation i envelope operation) with
    | .continues => runPreHooksFrom (i + 1) hooks
    | .block reason => Traced.throw (.blocked reason)

def runPreHooks (packs : PackIntegration σ) : Traced (World σ) RuntimeCall HookError Unit :=
  runPreHooksFrom envelope operation 0 packs.controlHooks

def runPostHooksFrom : ℕ → List (ControlHook σ) → Traced (World σ) RuntimeCall ε Unit
  | _, [] => pure ()
  | i, hook :: hooks => do
    World.tell (hook.postOperation envelope event) (.postOperation i envelope event)
    runPostHooksFrom (i + 1) hooks

def runPostHooks (packs : PackIntegration σ) : Traced (World σ) RuntimeCall ε Unit :=
  runPostHooksFrom envelope event 0 packs.controlHooks

def notifyObserversFrom : ℕ → List (ObserverSub σ) → Traced (World σ) RuntimeCall ε Unit
  | _, [] => pure ()
  | i, observer :: observers => do
    World.tell (observer.onOperation event) (.onOperation i event)
    notifyObserversFrom (i + 1) observers

def notifyObservers (packs : PackIntegration σ) : Traced (World σ) RuntimeCall ε Unit :=
  notifyObserversFrom event 0 packs.observerSubs

def granted (packs : PackIntegration σ) : List RuntimeCall :=
  (List.range packs.controlHooks.length).map (.preOperation · envelope operation .continues)

def announced (packs : PackIntegration σ) : List RuntimeCall :=
  (List.range packs.controlHooks.length).map (.postOperation · envelope event) ++
    (List.range packs.observerSubs.length).map (.onOperation · event)

def IsPreOperation (envelope : TaskEnvelope) (operation : RuntimeOperation) :
    RuntimeCall → Prop
  | .preOperation _ e o _ => e = envelope ∧ o = operation
  | _ => False

lemma runPreHooksFrom_cases (i : ℕ) (hooks : List (ControlHook σ)) (w : World σ) :
    (∃ s, (runPreHooksFrom envelope operation i hooks).run w =
      ⟨.ok (), w.withEnv s,
        (List.range' i hooks.length).map (.preOperation · envelope operation .continues)⟩) ∨
    (∃ s reason t, (runPreHooksFrom envelope operation i hooks).run w =
      ⟨.error (.blocked reason), w.withEnv s, t⟩ ∧ (∀ c ∈ t, IsPreOperation envelope operation c) ∧
      ∃ hook ∈ hooks, ∃ s, (hook.preOperation envelope operation s).1 = .block reason) := by
  induction hooks generalizing i w with
  | nil => exact Or.inl ⟨w.env, rfl⟩
  | cons hook hooks ih =>
    simp only [runPreHooksFrom, Traced.run_bind, World.run_answer, Traced.andThen_ok]
    rcases hp : hook.preOperation envelope operation w.env with ⟨_ | reason, s⟩
    · rcases ih (i + 1) (w.withEnv s) with ⟨s', h⟩ | ⟨s', reason, t, h, ht, hook', hm, hb⟩
      · exact Or.inl ⟨s', by simp [h, List.range'_succ]⟩
      · refine Or.inr ⟨s', reason, _ :: t, by simp [h]; rfl, ?_, hook', by simp [hm], hb⟩
        simpa [IsPreOperation] using ht
    · refine Or.inr ⟨s, reason, [_], rfl, ?_, hook, by simp, w.env, by rw [hp]⟩
      simp [IsPreOperation]

lemma runPreHooks_cases (packs : PackIntegration σ) (w : World σ) :
    (∃ s, (packs.runPreHooks envelope operation).run w =
      ⟨.ok (), w.withEnv s, packs.granted envelope operation⟩) ∨
    (∃ s reason t, (packs.runPreHooks envelope operation).run w =
      ⟨.error (.blocked reason), w.withEnv s, t⟩ ∧ (∀ c ∈ t, IsPreOperation envelope operation c) ∧
      ∃ hook ∈ packs.controlHooks, ∃ s,
        (hook.preOperation envelope operation s).1 = .block reason) := by
  simpa only [runPreHooks, granted, List.range_eq_range'] using
    runPreHooksFrom_cases envelope operation 0 packs.controlHooks w

lemma run_runPostHooksFrom (i : ℕ) (hooks : List (ControlHook σ)) (w : World σ) :
    ∃ s, (runPostHooksFrom envelope event i hooks : Traced (World σ) RuntimeCall ε Unit).run w =
      ⟨.ok (), w.withEnv s, (List.range' i hooks.length).map (.postOperation · envelope event)⟩ := by
  induction hooks generalizing i w with
  | nil => exact ⟨w.env, rfl⟩
  | cons hook hooks ih =>
    obtain ⟨s, h⟩ := ih (i + 1) (w.withEnv (hook.postOperation envelope event w.env))
    exact ⟨s, by simp [runPostHooksFrom, h, List.range'_succ]⟩

lemma run_notifyObserversFrom (i : ℕ) (observers : List (ObserverSub σ)) (w : World σ) :
    ∃ s, (notifyObserversFrom event i observers : Traced (World σ) RuntimeCall ε Unit).run w =
      ⟨.ok (), w.withEnv s, (List.range' i observers.length).map (.onOperation · event)⟩ := by
  induction observers generalizing i w with
  | nil => exact ⟨w.env, rfl⟩
  | cons observer observers ih =>
    obtain ⟨s, h⟩ := ih (i + 1) (w.withEnv (observer.onOperation event w.env))
    exact ⟨s, by simp [notifyObserversFrom, h, List.range'_succ]⟩

lemma run_runPostHooks (packs : PackIntegration σ) (s : σ) (envelope : TaskEnvelope) :
    ∃ s', (packs.runPostHooks envelope event : Traced (World σ) RuntimeCall ε Unit).run
        ⟨s, envelope⟩ = ⟨.ok (), ⟨s', envelope⟩,
      (List.range packs.controlHooks.length).map (.postOperation · envelope event)⟩ := by
  rw [List.range_eq_range']
  exact run_runPostHooksFrom envelope event 0 packs.controlHooks ⟨s, envelope⟩

lemma run_notifyObservers (packs : PackIntegration σ) (s : σ) (envelope : TaskEnvelope) :
    ∃ s', (packs.notifyObservers event : Traced (World σ) RuntimeCall ε Unit).run ⟨s, envelope⟩ =
      ⟨.ok (), ⟨s', envelope⟩, (List.range packs.observerSubs.length).map (.onOperation · event)⟩ := by
  rw [List.range_eq_range']
  exact run_notifyObserversFrom event 0 packs.observerSubs ⟨s, envelope⟩

end PackIntegration

end GreenticDw

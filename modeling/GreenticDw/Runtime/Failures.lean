import GreenticDw.Runtime.Kernel

/-! What a call leaves behind when it fails. There is no rollback: every operation stands for
itself, also within a batch. -/

namespace GreenticDw

namespace DwRuntime

variable {σ : Type}

inductive Worked (rt : DwRuntime σ) :
    TaskEnvelope → List RuntimeOperation → List RuntimeCall → TaskEnvelope → Prop
  | nil {a : TaskEnvelope} : Worked rt a [] [] a
  | cons {a b c : TaskEnvelope} {operation : RuntimeOperation} {operations : List RuntimeOperation}
      {event : RuntimeEvent} {t : List RuntimeCall} :
      Core.applyOperation a operation = .ok (event, b) → Worked rt b operations t c →
      Worked rt a (operation :: operations) (rt.mediated a event b ++ t) c

/-- What an operation that fails leaves behind. If a hook or the lifecycle refuses it, that is
nothing but questions to pre hooks; if the store does, everything but the save. -/
inductive LeftBehind (rt : DwRuntime σ) (a : TaskEnvelope) (operation : RuntimeOperation) :
    RuntimeError → List RuntimeCall → TaskEnvelope → Prop
  | blocked {reason : String} {t : List RuntimeCall} :
      (∀ c ∈ t, PackIntegration.IsPreOperation a operation c) →
      LeftBehind rt a operation (.hook (.blocked reason)) t a
  | illegal {e : CoreRuntimeError} {t : List RuntimeCall} :
      Core.applyOperation a operation = .error e →
      (∀ c ∈ t, PackIntegration.IsPreOperation a operation c) →
      LeftBehind rt a operation (.core e) t a
  | unsaved {e : CapabilityDispatchError} {event : RuntimeEvent} {b : TaskEnvelope} :
      rt.stateStore.isSome = true → Core.applyOperation a operation = .ok (event, b) →
      LeftBehind rt a operation (.dispatch e)
        (rt.packs.granted a operation ++
          (rt.packs.announced b event ++ [.saveState b (.error e)])) b

variable {rt : DwRuntime σ} {a b c : TaskEnvelope} {operations others : List RuntimeOperation}
  {t u : List RuntimeCall}

lemma Worked.append (h : Worked rt a operations t b) (h' : Worked rt b others u c) :
    Worked rt a (operations ++ others) (t ++ u) c := by
  induction h with
  | nil => exact h'
  | cons hc _ ih =>
    rw [List.append_assoc]
    exact .cons hc (ih h')

lemma isPreOperation_granted {operation : RuntimeOperation} :
    ∀ c ∈ rt.packs.granted a operation, PackIntegration.IsPreOperation a operation c := by
  intro c hc
  obtain ⟨_, _, rfl⟩ := List.mem_map.mp hc
  exact ⟨rfl, rfl⟩

lemma Applied.leftBehind {operation : RuntimeOperation} {w : World σ}
    {o : Outcome (World σ) RuntimeCall RuntimeError RuntimeEvent} (h : Applied rt operation w o) :
    match o.result with
    | .ok _ => Worked rt w.envelope [operation] o.trace o.world.envelope
    | .error e => LeftBehind rt w.envelope operation e o.trace o.world.envelope := by
  cases h with
  | blocked ht => exact .blocked ht
  | illegal hc => exact .illegal hc isPreOperation_granted
  | unsaved hc hs => exact .unsaved (by rw [hs]; rfl) hc
  | applied hc =>
    have hw : Worked rt w.envelope [operation] _ _ := .cons hc .nil
    rwa [List.append_nil] at hw

def Interrupted (rt : DwRuntime σ) (a : TaskEnvelope) (operations : List RuntimeOperation)
    (e : RuntimeError) (calls : List RuntimeCall) (c : TaskEnvelope) : Prop :=
  ∃ before operation later t b u, operations = before ++ operation :: later ∧ calls = t ++ u ∧
    Worked rt a before t b ∧ LeftBehind rt b operation e u c

lemma Worked.interrupted {e : RuntimeError} (h : Worked rt a operations t b)
    (h' : Interrupted rt b others e u c) : Interrupted rt a (operations ++ others) e (t ++ u) c := by
  obtain ⟨before, failing, later, t', b, u, rfl, rfl, hw, hl⟩ := h'
  exact ⟨operations ++ before, failing, later, t ++ t', b, u, (List.append_assoc ..).symm,
    (List.append_assoc ..).symm, h.append hw, hl⟩

def Settled {α : Type} (rt : DwRuntime σ) (a : TaskEnvelope) (operations : List RuntimeOperation)
    (o : Outcome (World σ) RuntimeCall RuntimeError α) : Prop :=
  match o.result with
  | .ok _ => Worked rt a operations o.trace o.world.envelope
  | .error e => Interrupted rt a operations e o.trace o.world.envelope

lemma applyBatch_settled (rt : DwRuntime σ) (operations : List RuntimeOperation) (w : World σ) :
    Settled rt w.envelope operations ((rt.applyBatch operations).run w) := by
  induction operations generalizing w with
  | nil => exact .nil
  | cons operation operations ih =>
    have h := (rt.applyOperation_cases operation w).leftBehind
    rcases hr : (rt.applyOperation operation).run w with ⟨e | event, w', t⟩
    · rw [hr] at h
      have hi : Interrupted rt w.envelope (operation :: operations) e t w'.envelope :=
        ⟨[], operation, operations, [], _, t, rfl, rfl, .nil, h⟩
      simpa [applyBatch, hr, Settled] using hi
    · rw [hr] at h
      have h' := ih w'
      rcases hb : (rt.applyBatch operations).run w' with ⟨e | events, w'', u⟩ <;> rw [hb] at h'
      · simpa [applyBatch, hr, hb, Settled] using h.interrupted h'
      · simpa [applyBatch, hr, hb, Settled] using h.append h'

lemma applyDecision_settled (rt : DwRuntime σ) (decision : EngineDecision) (w : World σ) :
    Settled rt w.envelope decision.operations ((rt.applyDecision decision).run w) := by
  cases decision with
  | noop => exact .nil
  | operation operation =>
    have h := rt.applyBatch_settled [operation] w
    rcases hr : (rt.applyOperation operation).run w with ⟨e | event, w', t⟩ <;>
      simpa [applyDecision, applyBatch, hr, Settled, EngineDecision.operations] using h
  | batch operations => exact rt.applyBatch_settled operations w

theorem failure_leaves_behind (rt : DwRuntime σ) (w : World σ) :
    (∀ operation e, ((rt.applyOperation operation).run w).result = .error e →
      LeftBehind rt w.envelope operation e ((rt.applyOperation operation).run w).trace
        ((rt.applyOperation operation).run w).world.envelope) ∧
    (∀ e, (rt.tick.run w).result = .error e →
      (∃ e', e = .engine e' ∧ (rt.tick.run w).world.envelope = w.envelope ∧
        (rt.tick.run w).trace = [.decide w.envelope (.error e')]) ∨
      ∃ decision t, (rt.tick.run w).trace = .decide w.envelope (.ok decision) :: t ∧
        Interrupted rt w.envelope decision.operations e t (rt.tick.run w).world.envelope) := by
  constructor
  · intro operation e he
    have h := (rt.applyOperation_cases operation w).leftBehind
    rwa [he] at h
  · intro e he
    rcases hd : rt.engine.decideWithEnvelope w.envelope w.env with ⟨e' | decision, s⟩
    · left
      have hrun : rt.tick.run w = ⟨.error (.engine e'), w.withEnv s,
          [.decide w.envelope (.error e')]⟩ := by
        simp [tick, hd, Except.mapError]
      rw [hrun] at he ⊢
      cases he
      exact ⟨e', rfl, rfl, rfl⟩
    · right
      have hrun : rt.tick.run w = ((rt.applyDecision decision).run (w.withEnv s)).after
          [.decide w.envelope (.ok decision)] := by
        simp [tick, hd, Except.mapError]
      have h := rt.applyDecision_settled decision (w.withEnv s)
      rw [hrun] at he ⊢
      rw [Outcome.after_result] at he
      rw [Settled, he] at h
      exact ⟨decision, _, rfl, h⟩

def overzealous : DwRuntime Unit where
  engine := StaticEngine Unit (.batch [.start, .complete, .start])
  packs := ⟨[], [⟨fun _ s => s⟩]⟩
  stateStore := none

def freshTask : TaskEnvelope :=
  ⟨"task", "worker", .created, ⟨"tenant", none⟩,
    ⟨"en", none, none, .workerDefault, .currentTaskOnly, .workerDefault⟩⟩

theorem failure_leaves_behind_overzealous :
    LeftBehind overzealous freshTask .complete
      (.core (.illegalTransition "complete" .created .completed)) [] freshTask ∧
    ∃ decision t, (overzealous.tick.run ⟨(), freshTask⟩).trace =
        .decide freshTask (.ok decision) :: t ∧
      Interrupted overzealous freshTask decision.operations
        (.core (.illegalTransition "start" .completed .running)) t
        { freshTask with state := .completed } := by
  have h := overzealous.failure_leaves_behind ⟨(), freshTask⟩
  refine ⟨h.1 .complete _ rfl, ?_⟩
  obtain ⟨_, he, _⟩ | h := h.2 _ rfl
  · cases he
  · exact h

theorem batch_half_applied :
    (∃ e, (overzealous.tick.run ⟨(), freshTask⟩).result = .error e) ∧
    (overzealous.tick.run ⟨(), freshTask⟩).world.envelope.state = .completed ∧
    ∃ event, .onOperation 0 event ∈ (overzealous.tick.run ⟨(), freshTask⟩).trace :=
  ⟨⟨_, rfl⟩, rfl, _, .tail _ (.head _)⟩

end DwRuntime

end GreenticDw

import GreenticDw.Runtime.Kernel
import GreenticDw.Traced.Ledgers

namespace GreenticDw

variable {σ S Ev E ε β : Type}

namespace World

lemma kept_ask {l : Ledger (World σ) Ev S} {f : σ → Except E β × σ} {label : Except E β → Ev}
    {wrap : E → ε} (hfit : ∀ w : World σ, l.Fit (l.read w) (label (f w.env).1))
    (hread : ∀ w : World σ, l.read (w.withEnv (f w.env).2) =
      l.observe (l.read w) (label (f w.env).1)) :
    l.Kept (ask f label wrap) :=
  (Ledger.kept_ask hfit hread).mapError wrap

lemma kept_answer {l : Ledger (World σ) Ev S} {f : σ → β × σ} {label : β → Ev}
    (hfit : ∀ w : World σ, l.Fit (l.read w) (label (f w.env).1))
    (hread : ∀ w : World σ, l.read (w.withEnv (f w.env).2) =
      l.observe (l.read w) (label (f w.env).1)) :
    l.Kept (answer f label : Traced (World σ) Ev ε β) :=
  Ledger.kept_answer hfit hread

lemma kept_tell {l : Ledger (World σ) Ev S} {f : σ → σ} {event : Ev}
    (hfit : ∀ w : World σ, l.Fit (l.read w) event)
    (hread : ∀ w : World σ, l.read (w.withEnv (f w.env)) = l.observe (l.read w) event) :
    l.Kept (tell f event : Traced (World σ) Ev ε Unit) :=
  Ledger.kept_answer hfit hread

end World

namespace DwRuntime

structure LeavesAlone (rt : DwRuntime σ) (part : σ → S) : Prop where
  engine : ∀ envelope s, part (rt.engine.decideWithEnvelope envelope s).2 = part s
  preOperation : ∀ hook ∈ rt.packs.controlHooks, ∀ envelope operation s,
    part (hook.preOperation envelope operation s).2 = part s
  postOperation : ∀ hook ∈ rt.packs.controlHooks, ∀ envelope event s,
    part (hook.postOperation envelope event s) = part s
  onOperation : ∀ observer ∈ rt.packs.observerSubs, ∀ event s,
    part (observer.onOperation event s) = part s
  saveState : ∀ store, rt.stateStore = some store → ∀ envelope s,
    part (store.saveState envelope s).2 = part s

def untouched (part : σ → S) : Ledger (World σ) RuntimeCall S :=
  ⟨fun w => part w.env, fun s _ => s, fun _ _ => True⟩

section

variable {rt : DwRuntime σ} {part : σ → S}

lemma kept_runPreHooksFrom {envelope : TaskEnvelope} {operation : RuntimeOperation}
    {hooks : List (ControlHook σ)}
    (h : ∀ hook ∈ hooks, ∀ envelope operation s,
      part (hook.preOperation envelope operation s).2 = part s) (i : ℕ) :
    (untouched part).Kept (PackIntegration.runPreHooksFrom envelope operation i hooks) := by
  induction hooks generalizing i with
  | nil => exact Ledger.kept_pure _
  | cons hook hooks ih =>
    rw [List.forall_mem_cons] at h
    apply (World.kept_answer (fun _ => trivial) fun w => h.1 ..).bind
    intro decision
    cases decision with
    | continues => exact ih h.2 (i + 1)
    | block reason => exact Ledger.kept_throw _

lemma kept_runPostHooksFrom {envelope : TaskEnvelope} {event : RuntimeEvent}
    {hooks : List (ControlHook σ)}
    (h : ∀ hook ∈ hooks, ∀ envelope event s, part (hook.postOperation envelope event s) = part s)
    (i : ℕ) : (untouched part).Kept
      (PackIntegration.runPostHooksFrom (ε := ε) envelope event i hooks) := by
  induction hooks generalizing i with
  | nil => exact Ledger.kept_pure _
  | cons hook hooks ih =>
    rw [List.forall_mem_cons] at h
    exact (World.kept_tell (fun _ => trivial) fun w => h.1 ..).bind fun _ => ih h.2 (i + 1)

lemma kept_notifyObserversFrom {event : RuntimeEvent} {observers : List (ObserverSub σ)}
    (h : ∀ observer ∈ observers, ∀ event s, part (observer.onOperation event s) = part s) (i : ℕ) :
    (untouched part).Kept
      (PackIntegration.notifyObserversFrom (ε := ε) event i observers) := by
  induction observers generalizing i with
  | nil => exact Ledger.kept_pure _
  | cons observer observers ih =>
    rw [List.forall_mem_cons] at h
    exact (World.kept_tell (fun _ => trivial) fun w => h.1 ..).bind fun _ => ih h.2 (i + 1)

lemma LeavesAlone.applyOperation (h : rt.LeavesAlone part) (operation : RuntimeOperation) :
    (untouched part).Kept (rt.applyOperation operation) := by
  apply Ledger.kept_get.bind
  intro w
  apply ((kept_runPreHooksFrom h.preOperation 0).mapError _).bind
  intro _
  apply (Ledger.kept_ofExcept _).bind
  intro p
  obtain ⟨event, envelope⟩ := p
  have hset : (untouched part).Kept (World.setEnvelope envelope :
      Traced (World σ) RuntimeCall RuntimeError Unit) := Ledger.kept_modify fun _ => rfl
  apply hset.bind
  intro _
  apply (kept_runPostHooksFrom h.postOperation 0).bind
  intro _
  apply (kept_notifyObserversFrom h.onOperation 0).bind
  intro _
  cases hs : rt.stateStore with
  | none => exact Ledger.kept_pure _
  | some store =>
    refine (World.kept_ask (fun _ => trivial) fun w => ?_).bind fun _ => Ledger.kept_pure _
    exact h.saveState store hs ..

lemma LeavesAlone.applyBatch (h : rt.LeavesAlone part) (operations : List RuntimeOperation) :
    (untouched part).Kept (rt.applyBatch operations) := by
  induction operations with
  | nil => exact Ledger.kept_pure _
  | cons operation operations ih =>
    exact (h.applyOperation operation).bind fun _ => ih.bind fun _ => Ledger.kept_pure _

theorem LeavesAlone.tick (h : rt.LeavesAlone part) : (untouched part).Kept rt.tick := by
  apply Ledger.kept_get.bind
  intro w
  apply (World.kept_ask (fun _ => trivial) fun w => h.engine ..).bind
  intro decision
  cases decision with
  | noop => exact Ledger.kept_pure _
  | operation operation => exact (h.applyOperation operation).bind fun _ => Ledger.kept_pure _
  | batch operations => exact h.applyBatch operations

end

end DwRuntime

end GreenticDw

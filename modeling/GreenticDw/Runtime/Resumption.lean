import GreenticDw.Runtime.Coherence
import GreenticDw.Runtime.Frames
import GreenticDw.Runtime.MockCapabilities
import GreenticDw.Runtime.Tasks

/-! Tasks that share a runtime and its state store: what the store has for a task after any calls,
and what a task is that is taken up from the store. -/

namespace GreenticDw

variable {σ ι : Type}

structure ResumableStore (σ : Type) extends TaskStateStore σ where
  loadState : TaskId → σ → Except CapabilityDispatchError (Option TaskEnvelope) × σ

def CapabilityTaskStateStore.taskStateStore (store : CapabilityTaskStateStore σ) :
    ResumableStore σ where
  saveState envelope s :=
    (((store.saveState envelope).run s).result, ((store.saveState envelope).run s).world)
  loadState taskId s :=
    (((store.loadState taskId).run s).result, ((store.loadState taskId).run s).world)

structure ResumableRuntime (σ : Type) where
  engine : DwEngine σ
  packs : PackIntegration σ
  stateStore : Option (ResumableStore σ)

inductive HostEvent where
  | runtime (call : RuntimeCall)
  | loadState (taskId : TaskId) (answer : Except CapabilityDispatchError (Option TaskEnvelope))

structure Host (σ ι : Type) where
  env : σ
  tasks : ι → TaskEnvelope

inductive HostRequest (ι : Type) where
  | request (task : ι) (request : RuntimeRequest)
  | saveState (task : ι)
  | loadState (taskId : TaskId)
  | resume (task : ι)

namespace Host

def envCell : Cell (Host σ ι) σ where
  read := env
  write s h := ⟨s, h.tasks⟩
  read_write _ _ := rfl

variable [DecidableEq ι]

def setTask (h : Host σ ι) (task : ι) (envelope : TaskEnvelope) : Host σ ι :=
  ⟨h.env, Function.update h.tasks task envelope⟩

def taskCell (task : ι) : Cell (Host σ ι) (World σ) where
  read h := ⟨h.env, h.tasks task⟩
  write w h := ⟨w.env, Function.update h.tasks task w.envelope⟩
  read_write w h := by simp

end Host

def DwRuntime.requested (rt : DwRuntime σ) (r : RuntimeRequest) :
    Traced (World σ) RuntimeCall Empty Unit := fun w =>
  ⟨.ok (), ((rt.request r).run w).world, ((rt.request r).run w).trace⟩

namespace ResumableRuntime

variable (rt : ResumableRuntime σ)

def kernel : DwRuntime σ := ⟨rt.engine, rt.packs, rt.stateStore.map (·.toTaskStateStore)⟩

def notConfigured : CapabilityDispatchError := .backend "state store is not configured"

def saveState (envelope : TaskEnvelope) : Traced σ HostEvent RuntimeError Unit :=
  match rt.stateStore with
  | some store =>
    (Traced.ask (store.saveState envelope)
      (.runtime <| .saveState envelope ·)).mapError .dispatch
  | none => Traced.throw (.dispatch notConfigured)

def loadState (taskId : TaskId) : Traced σ HostEvent RuntimeError (Option TaskEnvelope) :=
  match rt.stateStore with
  | some store => (Traced.ask (store.loadState taskId) (.loadState taskId)).mapError .dispatch
  | none => Traced.throw (.dispatch notConfigured)

variable [DecidableEq ι]

def perform : HostRequest ι → Traced (Host σ ι) HostEvent Empty Unit
  | .request task r => ((rt.kernel.requested r).relabel .runtime).focus (Host.taskCell task)
  | .saveState task => do
    let h ← Traced.get
    let _ ← ((rt.saveState (h.tasks task)).focus Host.envCell).attempt
    pure ()
  | .loadState taskId => do
    let _ ← ((rt.loadState taskId).focus Host.envCell).attempt
    pure ()
  | .resume task => do
    let h ← Traced.get
    match ← ((rt.loadState (h.tasks task).taskId).focus Host.envCell).attempt with
    | .ok (some envelope) => Traced.modify fun h => h.setTask task envelope
    | _ => pure ()

def performAll : List (HostRequest ι) → Traced (Host σ ι) HostEvent Empty Unit
  | [] => pure ()
  | r :: rs => do
    rt.perform r
    performAll rs

end ResumableRuntime

namespace HostEvent

def access : HostEvent → Access TaskId TaskEnvelope
  | runtime (.saveState envelope (.ok _)) => .wrote envelope.taskId envelope
  | loadState taskId (.ok answer) => .found taskId answer
  | _ => .other

def Refused : HostEvent → Prop
  | runtime (.saveState _ (.error _)) => True
  | _ => False

def runtimeCall : HostEvent → Option RuntimeCall
  | runtime call => some call
  | loadState _ _ => none

end HostEvent

open HostEvent

structure ResumableStore.Lawful (store : ResumableStore σ)
    (view : σ → TaskId → Option TaskEnvelope) : Prop where
  save_ok : ∀ envelope s s', store.saveState envelope s = (.ok (), s') →
    view s' = Function.update (view s) envelope.taskId (some envelope)
  save_error : ∀ envelope s e s', store.saveState envelope s = (.error e, s') → view s' = view s
  load_ok : ∀ taskId s answer s', store.loadState taskId s = (.ok answer, s') →
    answer = view s taskId
  load_view : ∀ taskId s, view (store.loadState taskId s).2 = view s

structure PackIntegration.Apart (packs : PackIntegration σ) (engine : DwEngine σ)
    {S : Type} (view : σ → S) : Prop where
  engine : ∀ envelope s, view (engine.decideWithEnvelope envelope s).2 = view s
  preOperation : ∀ hook ∈ packs.controlHooks, ∀ envelope operation s,
    view (hook.preOperation envelope operation s).2 = view s
  postOperation : ∀ hook ∈ packs.controlHooks, ∀ envelope event s,
    view (hook.postOperation envelope event s) = view s
  onOperation : ∀ observer ∈ packs.observerSubs, ∀ event s,
    view (observer.onOperation event s) = view s

structure ResumableRuntime.Lawful (rt : ResumableRuntime σ)
    (view : σ → TaskId → Option TaskEnvelope) : Prop where
  apart : rt.packs.Apart rt.engine view
  store : ∀ store, rt.stateStore = some store → store.Lawful view

namespace CapabilityTaskStateStore

variable {store : CapabilityTaskStateStore σ} {view : σ → TaskId → Option TaskEnvelope}

def Keeps (store : CapabilityTaskStateStore σ) (view : σ → TaskId → Option TaskEnvelope) : Prop :=
  store.client.Keeps TaskEnvelope.encoding view stateSaveOperation stateLoadOperation loadPayload id
    TaskEnvelope.taskId

theorem Keeps.lawful (h : store.Keeps view) : store.taskStateStore.Lawful view where
  save_ok envelope s s' hs := by
    have hput := h.run_put envelope s
    obtain ⟨hr, rfl⟩ := Prod.mk.inj hs
    rw [show (store.client.put TaskEnvelope.encoding stateSaveOperation envelope).run s =
      (store.saveState envelope).run s from rfl, hr] at hput
    exact hput
  save_error envelope s e s' hs := by
    have hput := h.run_put envelope s
    obtain ⟨hr, rfl⟩ := Prod.mk.inj hs
    rw [show (store.client.put TaskEnvelope.encoding stateSaveOperation envelope).run s =
      (store.saveState envelope).run s from rfl, hr] at hput
    exact hput
  load_ok taskId s answer s' hs := (h.run_get taskId s).1 answer (Prod.mk.inj hs).1
  load_view taskId s := (h.run_get taskId s).2

end CapabilityTaskStateStore

def stored (view : σ → TaskId → Option TaskEnvelope) :
    Ledger (World σ) RuntimeCall (TaskId → Option TaskEnvelope) :=
  dictionary (fun w => view w.env) fun call => (runtime call).access

abbrev hostStored (view : σ → TaskId → Option TaskEnvelope) :
    Ledger (Host σ ι) HostEvent (TaskId → Option TaskEnvelope) :=
  dictionary (fun h => view h.env) access

namespace ResumableRuntime.Lawful

variable {rt : ResumableRuntime σ} {view : σ → TaskId → Option TaskEnvelope}

lemma kept_of_untouched {ε α : Type} {m : Traced (World σ) RuntimeCall ε α}
    (hm : (DwRuntime.untouched view).Kept m)
    (h : ∀ w, ∀ call ∈ (m.run w).trace, (runtime call).access = .other) : (stored view).Kept m := by
  apply Ledger.kept_of_idle
  · intro w
    have hfold : ∀ (t : List RuntimeCall) (s : TaskId → Option TaskEnvelope),
        t.foldl (DwRuntime.untouched view).observe s = s := by
      intro t s
      induction t with
      | nil => rfl
      | cons _ t ih => exact ih
    exact (hm w).2.trans (hfold _ _)
  · intro w call hc
    exact dictionary_idle (h w call hc)

lemma applyOperation (h : rt.Lawful view) (operation : RuntimeOperation) :
    (stored view).Kept (rt.kernel.applyOperation operation) := by
  apply Ledger.kept_get.bind
  intro w
  have hpre : (stored view).Kept (rt.packs.runPreHooks w.envelope operation) := by
    apply kept_of_untouched (DwRuntime.kept_runPreHooksFrom h.apart.preOperation 0)
    intro w' call hc
    have hpre : PackIntegration.IsPreOperation w.envelope operation call := by
      rcases rt.packs.runPreHooks_cases w.envelope operation w' with
        ⟨s, hr⟩ | ⟨s, reason, t, hr, ht, _⟩
      · rw [PackIntegration.runPreHooks] at hr
        rw [hr] at hc
        obtain ⟨i, _, rfl⟩ := List.mem_map.mp hc
        exact ⟨rfl, rfl⟩
      · rw [PackIntegration.runPreHooks] at hr
        rw [hr] at hc
        exact ht call hc
    cases call with
    | preOperation i e o answer => rfl
    | _ => exact hpre.elim
  apply (hpre.mapError _).bind
  intro _
  apply (Ledger.kept_ofExcept _).bind
  intro p
  obtain ⟨event, envelope⟩ := p
  have hset : (stored view).Kept (World.setEnvelope envelope :
      Traced (World σ) RuntimeCall RuntimeError Unit) := Ledger.kept_modify fun _ => rfl
  apply hset.bind
  intro _
  have hpost : (stored view).Kept (rt.packs.runPostHooks envelope event :
      Traced (World σ) RuntimeCall RuntimeError Unit) := by
    apply kept_of_untouched (DwRuntime.kept_runPostHooksFrom h.apart.postOperation 0)
    intro w' call hc
    obtain ⟨s, hr⟩ := PackIntegration.run_runPostHooksFrom (ε := RuntimeError) envelope event 0
      rt.packs.controlHooks w'
    rw [hr] at hc
    obtain ⟨i, _, rfl⟩ := List.mem_map.mp hc
    rfl
  apply hpost.bind
  intro _
  have hnotify : (stored view).Kept (rt.packs.notifyObservers event :
      Traced (World σ) RuntimeCall RuntimeError Unit) := by
    apply kept_of_untouched (DwRuntime.kept_notifyObserversFrom h.apart.onOperation 0)
    intro w' call hc
    obtain ⟨s, hr⟩ := PackIntegration.run_notifyObserversFrom (ε := RuntimeError) event 0
      rt.packs.observerSubs w'
    rw [hr] at hc
    obtain ⟨i, _, rfl⟩ := List.mem_map.mp hc
    rfl
  apply hnotify.bind
  intro _
  cases hs : rt.stateStore with
  | none =>
    rw [show rt.kernel.stateStore = none by simp [kernel, hs]]
    exact Ledger.kept_pure _
  | some store =>
    rw [show rt.kernel.stateStore = some store.toTaskStateStore by simp [kernel, hs]]
    refine (World.kept_ask (fun w => ?_) fun w => ?_).bind fun _ => Ledger.kept_pure _
    · cases (store.saveState envelope w.env).1 <;> trivial
    · rcases hsave : store.saveState envelope w.env with ⟨e | _, s'⟩
      · exact (h.store store hs).save_error envelope w.env e s' hsave
      · exact (h.store store hs).save_ok envelope w.env s' hsave

lemma applyBatch (h : rt.Lawful view) (operations : List RuntimeOperation) :
    (stored view).Kept (rt.kernel.applyBatch operations) := by
  induction operations with
  | nil => exact Ledger.kept_pure _
  | cons operation operations ih =>
    exact (h.applyOperation operation).bind fun _ => ih.bind fun _ => Ledger.kept_pure _

lemma tick (h : rt.Lawful view) : (stored view).Kept rt.kernel.tick := by
  apply Ledger.kept_get.bind
  intro w
  have hdecide : (stored view).Kept (World.ask (rt.kernel.engine.decideWithEnvelope w.envelope)
      (.decide w.envelope) RuntimeError.engine) :=
    World.kept_ask (fun _ => trivial) fun w' => h.apart.engine w.envelope w'.env
  apply hdecide.bind
  intro decision
  cases decision with
  | noop => exact Ledger.kept_pure _
  | operation operation => exact (h.applyOperation operation).bind fun _ => Ledger.kept_pure _
  | batch operations => exact h.applyBatch operations

lemma requested (h : rt.Lawful view) (r : RuntimeRequest) :
    (stored view).Kept (rt.kernel.requested r) := by
  intro w
  cases r with
  | tick => exact h.tick w
  | _ => exact ((h.applyOperation _).bind fun _ => Ledger.kept_pure _) w

lemma saveState (h : rt.Lawful view) (envelope : TaskEnvelope) :
    (dictionary view access).Kept (rt.saveState envelope) := by
  cases hs : rt.stateStore with
  | none =>
    rw [show rt.saveState envelope = Traced.throw (.dispatch notConfigured) by
      simp [ResumableRuntime.saveState, hs]]
    exact Ledger.kept_throw _
  | some store =>
    simp only [ResumableRuntime.saveState, hs]
    refine (Ledger.kept_ask (fun s => ?_) fun s => ?_).mapError _
    · cases (store.saveState envelope s).1 <;> trivial
    · rcases hsave : store.saveState envelope s with ⟨e | _, s'⟩
      · exact (h.store store hs).save_error envelope s e s' hsave
      · exact (h.store store hs).save_ok envelope s s' hsave

lemma loadState (h : rt.Lawful view) (taskId : TaskId) :
    (dictionary view access).Kept (rt.loadState taskId) := by
  cases hs : rt.stateStore with
  | none =>
    rw [show rt.loadState taskId = Traced.throw (.dispatch notConfigured) by
      simp [ResumableRuntime.loadState, hs]]
    exact Ledger.kept_throw _
  | some store =>
    simp only [ResumableRuntime.loadState, hs]
    refine (Ledger.kept_ask (fun s => ?_) fun s => ?_).mapError _
    · rcases hload : store.loadState taskId s with ⟨e | answer, s'⟩
      · trivial
      · exact (h.store store hs).load_ok taskId s answer s' hload
    · rcases hload : store.loadState taskId s with ⟨e | answer, s'⟩
      all_goals
        have hview := (h.store store hs).load_view taskId s
        rw [hload] at hview
        exact hview

variable [DecidableEq ι]

lemma perform (h : rt.Lawful view) (r : HostRequest ι) :
    (hostStored view).Kept (rt.perform r) := by
  cases r with
  | request task r =>
    have hr : (Ledger.comap (dictionary (fun w : World σ => view w.env) access) runtime).Kept
        (rt.kernel.requested r) := h.requested r
    exact .focus (fun _ => rfl) hr.relabel
  | saveState task =>
    apply Ledger.kept_get.bind
    intro _
    refine (Ledger.Kept.attempt ?_).bind fun _ => Ledger.kept_pure _
    exact .focus (fun _ => rfl) (h.saveState _)
  | loadState taskId =>
    refine (Ledger.Kept.attempt ?_).bind fun _ => Ledger.kept_pure _
    exact .focus (fun _ => rfl) (h.loadState _)
  | resume task =>
    apply Ledger.kept_get.bind
    intro _
    refine (Ledger.Kept.attempt ?_).bind fun answer => ?_
    · exact .focus (fun _ => rfl) (h.loadState _)
    · rcases answer with _ | _ | envelope
      · exact Ledger.kept_pure _
      · exact Ledger.kept_pure _
      · exact Ledger.kept_modify fun _ => rfl

lemma performAll (h : rt.Lawful view) (rs : List (HostRequest ι)) :
    (hostStored view).Kept (rt.performAll rs) := by
  induction rs with
  | nil => exact Ledger.kept_pure _
  | cons r rs ih => exact (h.perform r).bind fun _ => ih

end ResumableRuntime.Lawful

namespace ResumableRuntime

variable {rt : ResumableRuntime σ} {view : σ → TaskId → Option TaskEnvelope} [DecidableEq ι]

lemma performAll_cons (r : HostRequest ι) (rs : List (HostRequest ι)) (host : Host σ ι) :
    (rt.performAll (r :: rs)).run host =
      ((rt.performAll rs).run ((rt.perform r).run host).world).after
        ((rt.perform r).run host).trace := by
  rw [performAll, Traced.run_bind]
  rcases (rt.perform r).run host with ⟨e | _, host', t⟩
  · exact e.elim
  · rfl

end ResumableRuntime

/-- The tasks have different ids, and what the store has for a task is the task as it is. -/
structure Host.Current (view : σ → TaskId → Option TaskEnvelope) (host : Host σ ι) : Prop where
  distinct : Function.Injective fun task => (host.tasks task).taskId
  current : ∀ task envelope, view host.env (host.tasks task).taskId = some envelope →
    envelope = host.tasks task

lemma written_of_not_refused {call : RuntimeCall} (h : ¬(runtime call).Refused) (key : TaskId) :
    (runtime call).access.written key =
      call.savedEnvelope.filter fun envelope => envelope.taskId = key := by
  cases call with
  | saveState envelope answer =>
    cases answer with
    | error e => exact absurd trivial h
    | ok _ => by_cases hk : envelope.taskId = key <;>
        simp [access, Access.written, RuntimeCall.savedEnvelope, Option.filter, hk]
  | _ => rfl

lemma lastWrite_of_not_refused {t : List RuntimeCall} (h : ∀ call ∈ t, ¬(runtime call).Refused)
    (key : TaskId) :
    lastWrite (fun call => (runtime call).access) key t =
      ((t.filterMap RuntimeCall.savedEnvelope).filter fun envelope =>
        envelope.taskId = key).getLast? := by
  rw [lastWrite, List.filter_filterMap]
  congr 1
  exact List.filterMap_congr fun call hcall => written_of_not_refused (h call hcall) key

namespace Host.Current

variable {view : σ → TaskId → Option TaskEnvelope} [DecidableEq ι] {host : Host σ ι}

lemma update (hc : host.Current view) {task : ι} {s : σ} {envelope : TaskEnvelope}
    (hid : envelope.taskId = (host.tasks task).taskId)
    (hself : ∀ e, view s envelope.taskId = some e → e = envelope)
    (hother : ∀ key, key ≠ envelope.taskId → view s key = view host.env key) :
    Host.Current view ⟨s, Function.update host.tasks task envelope⟩ := by
  have hids : ∀ i, (Function.update host.tasks task envelope i).taskId = (host.tasks i).taskId := by
    intro i
    by_cases hi : i = task
    · rw [hi, Function.update_self, hid]
    · rw [Function.update_of_ne hi]
  constructor
  · simpa only [hids] using hc.distinct
  · intro i e he
    by_cases hi : i = task
    · simp only [hi, Function.update_self] at he ⊢
      exact hself e he
    · simp only [Function.update_of_ne hi] at he ⊢
      refine hc.current i e ?_
      rwa [← hother _ fun hkey => hi (hc.distinct (hkey.trans hid))]

end Host.Current

namespace Coherent

variable {rt : DwRuntime σ} {before after : TaskEnvelope} {t : List RuntimeCall}
  {events : List RuntimeEvent}

lemma lastWrite_eq (h : Coherent rt before t events after) (hs : rt.stateStore.isSome = true)
    (ht : ∀ call ∈ t, ¬(runtime call).Refused) (key : TaskId) :
    (key = before.taskId ∧ lastWrite (fun call => (runtime call).access) key t = some after) ∨
    (lastWrite (fun call => (runtime call).access) key t = none ∧
      (key = before.taskId → after = before)) := by
  have hid : ∀ envelope ∈ events.map fun e => { before with state := e.toState },
      envelope.taskId = before.taskId := by
    intro envelope he
    obtain ⟨e, _, rfl⟩ := List.mem_map.mp he
    rfl
  rw [lastWrite_of_not_refused ht, h.saved hs]
  rcases List.eq_nil_or_concat events with rfl | ⟨es, e, rfl⟩
  · right
    refine ⟨rfl, fun _ => ?_⟩
    have hstate : before.state = after.state := h.chain
    rw [h.frame, ← hstate]
  · by_cases hk : before.taskId = key
    · left
      have hlast : e.toState = after.state := (List.concat_eq_append ▸ h.chain).last_toState
      refine ⟨hk.symm, ?_⟩
      rw [List.filter_eq_self.mpr fun x hx => by simp [hid x hx, hk], List.concat_eq_append, List.map_append,
        List.map_singleton, List.getLast?_concat, hlast, ← h.frame]
    · right
      refine ⟨?_, fun hkey => absurd hkey.symm hk⟩
      rw [List.filter_eq_nil_iff.mpr fun x hx => by simp [hid x hx, hk]]
      rfl

end Coherent

namespace ResumableRuntime

variable {rt : ResumableRuntime σ} {view : σ → TaskId → Option TaskEnvelope} [DecidableEq ι]
  {host : Host σ ι} {store : ResumableStore σ}

lemma current_request (h : rt.Lawful view) (hstore : rt.stateStore = some store)
    (hc : host.Current view) (task : ι) (r : RuntimeRequest)
    (ht : ∀ e ∈ ((rt.perform (.request task r)).run host).trace, ¬e.Refused) :
    (((rt.perform (.request task r)).run host).world).Current view := by
  let w : World σ := ⟨host.env, host.tasks task⟩
  have hco := rt.kernel.request_coherent r w
  have hview : ∀ key, view ((rt.kernel.request r).run w).world.env key =
      (lastWrite (fun call => (runtime call).access) key ((rt.kernel.request r).run w).trace).or
        (view host.env key) := (h.requested r).view_eq w
  have hsaved := hco.lastWrite_eq (by simp [kernel, hstore]) fun call hcall =>
    ht _ (List.mem_map.mpr ⟨call, hcall, rfl⟩)
  have hid : ((rt.kernel.request r).run w).world.envelope.taskId = (host.tasks task).taskId := by
    rw [hco.frame]
  change Host.Current view ⟨((rt.kernel.request r).run w).world.env,
    Function.update host.tasks task ((rt.kernel.request r).run w).world.envelope⟩
  refine hc.update hid (fun e he => ?_) fun key hkey => ?_
  · rw [hid, hview] at he
    rcases hsaved (host.tasks task).taskId with ⟨_, hl⟩ | ⟨hl, hsame⟩
    · rw [hl] at he
      exact (Option.some.inj he).symm
    · rw [hl] at he
      rw [hsame rfl]
      exact hc.current task e he
  · rw [hview]
    rcases hsaved key with ⟨hk, _⟩ | ⟨hl, _⟩
    · exact absurd (hk.trans hid.symm) hkey
    · rw [hl]
      rfl

lemma current_saveState (h : rt.Lawful view) (hstore : rt.stateStore = some store)
    (hc : host.Current view) (task : ι) :
    (((rt.perform (.saveState task)).run host).world).Current view := by
  have hself : Host.Current view ⟨(store.saveState (host.tasks task) host.env).2,
      Function.update host.tasks task (host.tasks task)⟩ := by
    rcases hs : store.saveState (host.tasks task) host.env with ⟨e | _, s'⟩
    · have hview := (h.store store hstore).save_error _ _ _ _ hs
      exact hc.update rfl (fun e he => hc.current task e (hview ▸ he)) fun _ _ => by rw [hview]
    · have hview := (h.store store hstore).save_ok _ _ _ hs
      refine hc.update rfl (fun e he => ?_) fun key hk => ?_
      · rw [hview, Function.update_self] at he
        exact (Option.some.inj he).symm
      · rw [hview, Function.update_of_ne hk]
  rw [Function.update_eq_self] at hself
  simpa [perform, ResumableRuntime.saveState, hstore, Host.envCell] using hself

lemma run_loadState (hstore : rt.stateStore = some store) (taskId : TaskId) (s : σ) :
    (rt.loadState taskId).run s = ⟨((store.loadState taskId s).1).mapError .dispatch,
      (store.loadState taskId s).2, [.loadState taskId (store.loadState taskId s).1]⟩ := by
  simp [loadState, hstore]

lemma run_resume (h : rt.Lawful view) (hstore : rt.stateStore = some store)
    (hc : host.Current view) (task : ι) :
    (rt.perform (.resume task)).run host =
      ⟨.ok (), ⟨(store.loadState (host.tasks task).taskId host.env).2, host.tasks⟩,
        [.loadState (host.tasks task).taskId
          (store.loadState (host.tasks task).taskId host.env).1]⟩ := by
  simp only [perform, Traced.run_bind, Traced.run_get, Traced.andThen_ok, Outcome.after_nil,
    Traced.run_attempt, Traced.run_focus, Host.envCell, run_loadState hstore]
  rcases hl : store.loadState (host.tasks task).taskId host.env with ⟨e | _ | envelope, s⟩
  · rfl
  · rfl
  · have hanswer := (h.store store hstore).load_ok _ _ _ _ hl
    obtain rfl := hc.current task envelope hanswer.symm
    simp [Except.mapError, Host.setTask]

end ResumableRuntime

namespace HostEvent

def told (observer : ℕ) (taskId : TaskId) (t : List HostEvent) : List RuntimeEvent :=
  ((t.filterMap runtimeCall).filterMap (RuntimeCall.notifiedTo observer)).filter
    fun event => event.taskId = taskId

lemma told_append (observer : ℕ) (taskId : TaskId) (t u : List HostEvent) :
    told observer taskId (t ++ u) = told observer taskId t ++ told observer taskId u := by
  simp [told, List.filterMap_append]

lemma told_runtime (observer : ℕ) (taskId : TaskId) (t : List RuntimeCall) :
    told observer taskId (t.map runtime) =
      (t.filterMap (RuntimeCall.notifiedTo observer)).filter
        fun event => event.taskId = taskId := by
  simp [told, List.filterMap_map, runtimeCall, Function.comp_def]

end HostEvent

/-- The events are the history of the task between two hosts, and every observer was told them. -/
structure Host.Continued (packs : PackIntegration σ) (task : ι) (before : Host σ ι)
    (t : List HostEvent) (after : Host σ ι) (events : List RuntimeEvent) : Prop where
  chain : Chained (before.tasks task).state events (after.tasks task).state
  frame : after.tasks task = { before.tasks task with state := (after.tasks task).state }
  legal : ∀ e ∈ events, e.Legal
  told : ∀ observer < packs.observerSubs.length,
    told observer (before.tasks task).taskId t = events

namespace Host.Continued

variable {packs : PackIntegration σ} {task : ι} {a b c : Host σ ι} {t u : List HostEvent}
  {es fs : List RuntimeEvent}

lemma append (h : Continued packs task a t b es) (h' : Continued packs task b u c fs) :
    Continued packs task a (t ++ u) c (es ++ fs) where
  chain := h.chain.append h'.chain
  frame := by rw [h'.frame, h.frame]
  legal e he := (List.mem_append.mp he).elim (h.legal e) (h'.legal e)
  told observer hi := by
    have hid : (b.tasks task).taskId = (a.tasks task).taskId := by rw [h.frame]
    have htold := h'.told observer hi
    rw [hid] at htold
    rw [told_append, h.told observer hi, htold]

lemma unchanged (htask : b.tasks task = a.tasks task)
    (ht : ∀ observer, HostEvent.told observer (a.tasks task).taskId t = []) :
    Continued packs task a t b [] where
  chain := by rw [htask]; rfl
  frame := by rw [htask]
  legal _ he := nomatch he
  told observer _ := ht observer

end Host.Continued

namespace ResumableRuntime

variable {rt : ResumableRuntime σ} {view : σ → TaskId → Option TaskEnvelope} [DecidableEq ι]
  {host : Host σ ι} {store : ResumableStore σ}

lemma continued_request (hc : Function.Injective fun task => (host.tasks task).taskId)
    (task task' : ι) (r : RuntimeRequest) :
    ∃ events, Host.Continued rt.packs task' host ((rt.perform (.request task r)).run host).trace
      ((rt.perform (.request task r)).run host).world events := by
  let w : World σ := ⟨host.env, host.tasks task⟩
  have hco := rt.kernel.request_coherent r w
  have habout := rt.kernel.request_about r w
  have htold : ∀ observer, ∀ event ∈ ((rt.kernel.request r).run w).trace.filterMap
      (RuntimeCall.notifiedTo observer), event.taskId = (host.tasks task).taskId := by
    intro observer event he
    obtain ⟨call, hcall, hevent⟩ := List.mem_filterMap.mp he
    have habout := habout call hcall
    cases call with
    | onOperation j e =>
      simp only [RuntimeCall.notifiedTo, Option.ite_none_right_eq_some, Option.some.injEq] at hevent
      exact hevent.2 ▸ habout.1
    | _ => simp [RuntimeCall.notifiedTo] at hevent
  change ∃ events, Host.Continued rt.packs task' host (((rt.kernel.request r).run w).trace.map runtime)
    ⟨((rt.kernel.request r).run w).world.env,
      Function.update host.tasks task ((rt.kernel.request r).run w).world.envelope⟩ events
  by_cases ht : task' = task
  · subst ht
    refine ⟨_, ?_, ?_, hco.legal, fun observer hi => ?_⟩
    · simpa using hco.chain
    · simpa using hco.frame
    · rw [told_runtime, List.filter_eq_self.mpr fun event he => by simp [htold observer event he]]
      exact hco.notified observer hi
  · refine ⟨[], .unchanged (by simp [ht]) fun observer => ?_⟩
    rw [told_runtime, List.filter_eq_nil_iff]
    intro event he
    have hne : (host.tasks task).taskId ≠ (host.tasks task').taskId := fun heq => ht (hc heq).symm
    simpa [htold observer event he] using hne

lemma perform_step (h : rt.Lawful view) (hstore : rt.stateStore = some store)
    (hc : host.Current view) (r : HostRequest ι)
    (ht : ∀ e ∈ ((rt.perform r).run host).trace, ¬e.Refused) :
    ((rt.perform r).run host).world.Current view ∧
    ∀ task, ∃ events, Host.Continued rt.packs task host ((rt.perform r).run host).trace
      ((rt.perform r).run host).world events := by
  cases r with
  | request task r =>
    exact ⟨current_request h hstore hc task r ht, fun task' => continued_request hc.distinct task task' r⟩
  | saveState task =>
    refine ⟨current_saveState h hstore hc task, fun task' => ⟨[], .unchanged ?_ fun observer => ?_⟩⟩
    · simp [perform, saveState, hstore, Host.envCell]
    · simp [perform, saveState, hstore, told, runtimeCall, RuntimeCall.notifiedTo]
  | loadState taskId =>
    have hrun : (rt.perform (.loadState taskId)).run host =
        ⟨.ok (), ⟨(store.loadState taskId host.env).2, host.tasks⟩,
          [.loadState taskId (store.loadState taskId host.env).1]⟩ := by
      simp [perform, run_loadState hstore, Host.envCell]
    rw [hrun]
    refine ⟨⟨hc.distinct, fun task e he => hc.current task e ?_⟩,
      fun task => ⟨[], .unchanged rfl fun _ => rfl⟩⟩
    rw [← (h.store store hstore).load_view taskId host.env]
    exact he
  | resume task =>
    rw [run_resume h hstore hc task]
    refine ⟨⟨hc.distinct, fun task' e he => hc.current task' e ?_⟩,
      fun task' => ⟨[], .unchanged rfl fun _ => rfl⟩⟩
    rw [← (h.store store hstore).load_view (host.tasks task).taskId host.env]
    exact he

theorem performAll_continued (h : rt.Lawful view) (hstore : rt.stateStore = some store)
    (rs : List (HostRequest ι)) (hc : host.Current view)
    (ht : ∀ e ∈ ((rt.performAll rs).run host).trace, ¬e.Refused) :
    ((rt.performAll rs).run host).world.Current view ∧
    ∀ task, ∃ events, Host.Continued rt.packs task host ((rt.performAll rs).run host).trace
      ((rt.performAll rs).run host).world events := by
  induction rs generalizing host with
  | nil => exact ⟨hc, fun task => ⟨[], .unchanged rfl fun _ => rfl⟩⟩
  | cons r rs ih =>
    rw [performAll_cons] at ht ⊢
    obtain ⟨ht₁, ht₂⟩ := List.forall_mem_append.mp ht
    obtain ⟨hc₁, hcont₁⟩ := perform_step h hstore hc r ht₁
    obtain ⟨hc₂, hcont₂⟩ := ih hc₁ ht₂
    refine ⟨hc₂, fun task => ?_⟩
    obtain ⟨es, hes⟩ := hcont₁ task
    obtain ⟨fs, hfs⟩ := hcont₂ task
    exact ⟨es ++ fs, hes.append hfs⟩

end ResumableRuntime

namespace CapabilityTaskStateStore

variable {store : CapabilityTaskStateStore σ} {engine : DwEngine σ} {packs : PackIntegration σ}
  {view : σ → TaskId → Option TaskEnvelope} [DecidableEq ι] {host : Host σ ι}

abbrev runtime (store : CapabilityTaskStateStore σ) (engine : DwEngine σ)
    (packs : PackIntegration σ) : ResumableRuntime σ := ⟨engine, packs, some store.taskStateStore⟩

lemma Keeps.runtime_lawful (h : store.Keeps view) (ha : packs.Apart engine view) :
    (store.runtime engine packs).Lawful view where
  apart := ha
  store _ hs := Option.some.inj hs ▸ h.lawful

theorem loaded_last_saved (h : store.Keeps view) (ha : packs.Apart engine view)
    (rs : List (HostRequest ι)) {pre post : List HostEvent} {taskId : TaskId}
    {answer : Option TaskEnvelope}
    (ht : (((store.runtime engine packs).performAll rs).run host).trace =
      pre ++ .loadState taskId (.ok answer) :: post) :
    answer = (lastWrite access taskId pre).or (view host.env taskId) :=
  ((h.runtime_lawful ha).performAll rs).found_eq ht rfl

theorem resumed_history (h : store.Keeps view) (ha : packs.Apart engine view)
    (hc : host.Current view) (rs : List (HostRequest ι))
    (ht : ∀ e ∈ (((store.runtime engine packs).performAll rs).run host).trace, ¬e.Refused) :
    (∀ task, ∃ events, Host.Continued packs task host
      (((store.runtime engine packs).performAll rs).run host).trace
      (((store.runtime engine packs).performAll rs).run host).world events) ∧
    ∀ task, (((store.runtime engine packs).perform (.resume task)).run
      (((store.runtime engine packs).performAll rs).run host).world).world.tasks =
      (((store.runtime engine packs).performAll rs).run host).world.tasks := by
  have hl := h.runtime_lawful ha
  obtain ⟨hc', hcont⟩ := ResumableRuntime.performAll_continued hl rfl rs hc ht
  refine ⟨hcont, fun task => ?_⟩
  rw [ResumableRuntime.run_resume hl rfl hc' task]

end CapabilityTaskStateStore

def mockStore : CapabilityTaskStateStore MockCapabilityState where
  client := MockCapabilityDispatcher.clientFor (fun _ => "") taskStoreCapability

lemma mockStore_keeps : mockStore.Keeps MockCapabilityState.states :=
  MockCapabilityDispatcher.keeps_states rfl rfl

def silentPacks (σ : Type) : PackIntegration σ := ⟨[], [⟨fun _ s => s⟩]⟩

lemma silentPacks_apart (view : MockCapabilityState → TaskId → Option TaskEnvelope) :
    (silentPacks MockCapabilityState).Apart (StaticEngine _ .noop) view where
  engine _ _ := rfl
  preOperation _ h := nomatch h
  postOperation _ h := nomatch h
  onOperation observer h _ _ := by
    obtain rfl := List.mem_singleton.mp h
    rfl

def createdTask (taskId : TaskId) : TaskEnvelope where
  taskId := taskId
  workerId := "worker.alpha"
  state := .created
  scope := ⟨"tenant.a", some "team.red"⟩
  locale := ⟨"en-US", some "fr-FR", none, .preferRequested, .propagateToDelegates, .matchRequested⟩

def twoTasks : Host MockCapabilityState Bool where
  env := MockCapabilityDispatcher.initial
  tasks b := createdTask (if b then "task-1" else "task-2")

lemma twoTasks_current : twoTasks.Current MockCapabilityState.states where
  distinct := by
    intro a b h
    cases a <;> cases b <;> first | rfl | exact absurd h (by decide)
  current _ _ h := nomatch h

def runningTask (taskId : TaskId) : TaskEnvelope := { createdTask taskId with state := .running }

def startCalls (taskId : TaskId) : List HostEvent :=
  [runtime (.onOperation 0 ⟨taskId, "worker.alpha", .start, .created, .running⟩),
    runtime (.saveState (runningTask taskId) (.ok ()))]

theorem loaded_last_saved_mock : some (runningTask "task-1") =
    (lastWrite access "task-1" (startCalls "task-1" ++ startCalls "task-2")).or none := by
  have ht : (((mockStore.runtime (StaticEngine _ .noop) (silentPacks _)).performAll
      [.request true .start, .request false .start, .loadState "task-1"]).run twoTasks).trace =
        (startCalls "task-1" ++ startCalls "task-2") ++
          .loadState "task-1" (.ok (some (runningTask "task-1"))) :: [] := rfl
  exact CapabilityTaskStateStore.loaded_last_saved mockStore_keeps (silentPacks_apart _) _ ht

theorem resumed_history_mock : ∃ events, Host.Continued (silentPacks _) true twoTasks
    (startCalls "task-1" ++ [.loadState "task-1" (.ok (some (runningTask "task-1")))])
    (((mockStore.runtime (StaticEngine _ .noop) (silentPacks _)).performAll
      [.request true .start, .resume true]).run twoTasks).world events := by
  have ht : (((mockStore.runtime (StaticEngine _ .noop) (silentPacks _)).performAll
      [.request true .start, .resume true]).run twoTasks).trace =
        startCalls "task-1" ++ [.loadState "task-1" (.ok (some (runningTask "task-1")))] := rfl
  rw [← ht]
  refine (CapabilityTaskStateStore.resumed_history mockStore_keeps (silentPacks_apart _)
    twoTasks_current [.request true .start, .resume true] ?_).1 true
  rw [ht]
  simp [startCalls, Refused]

end GreenticDw

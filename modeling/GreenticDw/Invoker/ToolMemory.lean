import GreenticDw.Invoker.CanonicalArguments
import GreenticDw.Invoker.Dispatch
import GreenticDw.Traced.Boxes

/-! What the executor remembers of the host's answers, over its whole lifetime. -/

namespace GreenticDw

structure Resolution where
  call : ToolCall
  used : ℕ
  maxToolCalls : ℕ
  result : Except StepExecutionError (CallOutcome × ℕ)
  trace : List ToolEvent

/-- What is seen of the executor when the resolution of a call is one event. -/
inductive Watched where
  | asked (event : ToolEvent)
  | resolved (resolution : Resolution)

def Watched.events : Watched → List ToolEvent
  | asked event => [event]
  | resolved resolution => resolution.trace

abbrev WatchedRun (σ α : Type) := Traced σ Watched StepExecutionError α

namespace LlmToolStepExecutor

variable {σ : Type} (executor : LlmToolStepExecutor σ)

def watchedCall (call : ToolCall) (used maxToolCalls : ℕ) : WatchedRun σ (CallOutcome × ℕ) :=
  (executor.resolveCall call used maxToolCalls).boxed fun o =>
    .resolved ⟨call, used, maxToolCalls, o.result, o.trace⟩

def watchedCalls (maxToolCalls : ℕ) : StepProgress → List ToolCall → WatchedRun σ StepProgress
  | p, [] => pure p
  | p, call :: calls => do
    let (outcome, used) ← executor.watchedCall call p.used maxToolCalls
    let shown := truncateMarked outcome.modelPayload.toText toolResultLimit
    watchedCalls maxToolCalls
      { messages := p.messages ++ [.toolResult call.id shown]
        used := used
        records := p.records ++ [callRecord call outcome shown] } calls

def watchedRounds (request : ExecuteStepRequest) : ℕ → StepProgress → WatchedRun σ StepExecution
  | 0, p => do
    let response ← (executor.chat (executor.roundRequest p false)).relabel .asked
    pure ⟨stepBody request p response, p.used⟩
  | left + 1, p => do
    let offerTools := decide (p.used < request.maxToolCalls)
    let response ← (executor.chat (executor.roundRequest p offerTools)).relabel .asked
    if !offerTools || response.toolCalls.isEmpty then
      pure ⟨stepBody request p response, p.used⟩
    else
      let p ← executor.watchedCalls request.maxToolCalls
        { p with
          messages := p.messages ++ [.assistantWithToolCalls response.content response.toolCalls] }
        response.toolCalls
      watchedRounds request left p

def watchedStep (request : ExecuteStepRequest) : WatchedRun σ StepExecution :=
  executor.watchedRounds request (min (request.maxToolCalls + cachedRoundAllowance) usizeMax)
    ⟨[.system executorSystemPrompt, .user (executorUserPrompt request)], 0, []⟩

lemma watchedCalls_unboxed (maxToolCalls : ℕ) (p : StepProgress) (calls : List ToolCall) :
    (executor.watchedCalls maxToolCalls p calls).unboxed Watched.events =
      executor.resolveCalls maxToolCalls p calls := by
  induction calls generalizing p with
  | nil => rfl
  | cons call calls ih =>
    have hcall : (executor.watchedCall call p.used maxToolCalls).unboxed Watched.events =
        executor.resolveCall call p.used maxToolCalls := Traced.unboxed_boxed _ fun _ => rfl
    simp only [watchedCalls, resolveCalls, Traced.unboxed_bind, hcall, ih]

lemma watchedRounds_unboxed (request : ExecuteStepRequest) (left : ℕ) (p : StepProgress) :
    (executor.watchedRounds request left p).unboxed Watched.events =
      executor.toolRounds request left p := by
  have hchat : ∀ sent, ((executor.chat sent).relabel Watched.asked).unboxed Watched.events =
      executor.chat sent := fun _ => Traced.unboxed_relabel _ fun _ => rfl
  induction left generalizing p with
  | zero =>
    simp only [watchedRounds, toolRounds, Traced.unboxed_bind, hchat, Traced.unboxed_pure]
  | succ left ih =>
    simp only [watchedRounds, toolRounds, Traced.unboxed_bind, hchat]
    congr 1
    funext response
    split_ifs
    · rfl
    · simp only [Traced.unboxed_bind, watchedCalls_unboxed, ih]

theorem watchedStep_unboxed (request : ExecuteStepRequest) :
    (executor.watchedStep request).unboxed Watched.events = executor.executeStep request :=
  executor.watchedRounds_unboxed request _ _

end LlmToolStepExecutor

namespace ToolCache

lemma cached_remember (key key' : String × String) (value : Value) (cache : ToolCache) :
    cached key (remember key' value cache) =
      if key' = key then some value else cached key cache := by
  unfold cached remember
  by_cases hk : key' = key <;> simp [hk]

end ToolCache

def CallOutcome.ofAnswer : Except String Value → CallOutcome
  | .ok value => ran value
  | .error error => failed ("tool call failed: " ++ error)

namespace Resolution

def key (r : Resolution) : String × String := LlmToolStepExecutor.cacheKey r.call

def Ran (r : Resolution) (value : Value) : Prop := ∃ used, r.result = .ok (.ran value, used)

def Fresh (r : Resolution) : Prop :=
  if r.maxToolCalls ≤ r.used then r.result = .ok (.overBudget, r.used) ∧ r.trace = []
  else ∃ answer, r.trace = [.hostCall r.call.name r.call.arguments answer] ∧
    r.result = .ok (.ofAnswer answer, r.used + 1)

def Recalled (r : Resolution) (value : Value) : Prop :=
  r.result = .ok (.cached value, r.used) ∧ r.trace = []

lemma Fresh.not_recalled {r : Resolution} (h : r.Fresh) {value : Value} {used : ℕ} :
    r.result ≠ .ok (.cached value, used) := by
  unfold Fresh at h
  split_ifs at h
  · rw [h.1]
    simp
  · obtain ⟨answer, _, hr⟩ := h
    rw [hr]
    cases answer <;> simp [CallOutcome.ofAnswer]

end Resolution

namespace Watched

def observe (cache : ToolCache) : Watched → ToolCache
  | resolved r =>
    match r.result with
    | .ok (.ran value, _) => ToolCache.remember r.key value cache
    | _ => cache
  | asked _ => cache

def Fit (cache : ToolCache) : Watched → Prop
  | resolved r =>
    match ToolCache.cached r.key cache with
    | some value => r.Recalled value
    | none => r.Fresh
  | asked event => event.isHostCall = false

end Watched

namespace ToolEvent

def succeeds (key : String × String) : ToolEvent → Bool
  | hostCall name arguments (.ok _) => (name, canonicalJson arguments) = key
  | _ => false

end ToolEvent

/-- What each resolution of a call owes to the ones before it. -/
structure Remembers (t : List Watched) : Prop where
  once : ∀ key, (t.flatMap Watched.events).countP (ToolEvent.succeeds key) ≤ 1
  recalled : ∀ pre r post, t = pre ++ .resolved r :: post → ∀ r' value, .resolved r' ∈ pre →
    r'.key = r.key → r'.Ran value → r.Recalled value
  earned : ∀ pre r post, t = pre ++ .resolved r :: post → ∀ value used,
    r.result = .ok (.cached value, used) → ∃ r', .resolved r' ∈ pre ∧ r'.key = r.key ∧ r'.Ran value
  fresh : ∀ pre r post, t = pre ++ .resolved r :: post →
    (∀ r', .resolved r' ∈ pre → r'.key = r.key → ∀ value, ¬r'.Ran value) → r.Fresh

section

variable {cache : ToolCache} {t : List Watched}

lemma Watched.cached_observe {x : Watched} (hfit : x.Fit cache) (key : String × String)
    (value : Value) :
    ToolCache.cached key (x.observe cache) = some value ↔
      ToolCache.cached key cache = some value ∨
        ∃ r, x = .resolved r ∧ r.key = key ∧ r.Ran value := by
  cases x with
  | asked event => simp [Watched.observe]
  | resolved r =>
    rcases hr : r.result with e | ⟨outcome, used⟩
    · simp [Watched.observe, hr, Resolution.Ran]
    cases outcome with
    | ran value' =>
      have hnone : ToolCache.cached r.key cache = none := by
        cases hc : ToolCache.cached r.key cache with
        | none => rfl
        | some value'' =>
          simp only [Watched.Fit, hc, Resolution.Recalled, hr] at hfit
          cases hfit.1
      simp only [Watched.observe, hr, ToolCache.cached_remember]
      by_cases hk : r.key = key
      · subst hk
        simp [hnone, Resolution.Ran, hr]
      · simp [hk]
    | _ => simp [Watched.observe, hr, Resolution.Ran]

lemma cached_foldl (h : Accords Watched.observe Watched.Fit [] t) (key : String × String)
    (value : Value) :
    ToolCache.cached key (t.foldl Watched.observe []) = some value ↔
      ∃ r, .resolved r ∈ t ∧ r.key = key ∧ r.Ran value := by
  induction t using List.reverseRecOn with
  | nil => simp [ToolCache.cached]
  | append_singleton t x ih =>
    rw [accords_append, accords_cons] at h
    rw [List.foldl_append, List.foldl_cons, List.foldl_nil, Watched.cached_observe h.2.1, ih h.1]
    constructor
    · rintro (⟨r, hm, hr⟩ | ⟨r, rfl, hr⟩)
      · exact ⟨r, List.mem_append_left _ hm, hr⟩
      · exact ⟨r, by simp, hr⟩
    · rintro ⟨r, hm, hr⟩
      obtain hm | hm := List.mem_append.mp hm
      · exact .inl ⟨r, hm, hr⟩
      · exact .inr ⟨r, (List.mem_singleton.mp hm).symm, hr⟩

def successesLeft (key : String × String) (cache : ToolCache) : ℕ :=
  if ToolCache.cached key cache = none then 1 else 0

lemma Watched.successesLeft_observe {x : Watched} (hfit : x.Fit cache) (key : String × String) :
    x.events.countP (ToolEvent.succeeds key) + successesLeft key (x.observe cache) ≤
      successesLeft key cache := by
  cases x with
  | asked event =>
    cases event with
    | chat request answer => simp [Watched.events, Watched.observe, ToolEvent.succeeds]
    | hostCall name arguments answer => cases hfit
  | resolved r =>
    cases hc : ToolCache.cached r.key cache with
    | some value =>
      simp only [Watched.Fit, hc] at hfit
      obtain ⟨hr, ht⟩ := hfit
      simp [Watched.events, Watched.observe, hr, ht]
    | none =>
      simp only [Watched.Fit, hc, Resolution.Fresh] at hfit
      split_ifs at hfit with hmax
      · obtain ⟨hr, ht⟩ := hfit
        simp [Watched.events, Watched.observe, hr, ht]
      · obtain ⟨answer, ht, hr⟩ := hfit
        cases answer with
        | error error =>
          simp [Watched.events, Watched.observe, hr, ht, CallOutcome.ofAnswer, ToolEvent.succeeds]
        | ok value =>
          by_cases hk : r.key = key
          · subst hk
            have hk' : (r.call.name, canonicalJson r.call.arguments) = r.key := rfl
            simp [Watched.events, Watched.observe, hr, ht, CallOutcome.ofAnswer,
              ToolEvent.succeeds, successesLeft, ToolCache.cached_remember, hc, hk']
          · have hk' : (r.call.name, canonicalJson r.call.arguments) ≠ key := hk
            simp [Watched.events, Watched.observe, hr, ht, CallOutcome.ofAnswer,
              ToolEvent.succeeds, successesLeft, ToolCache.cached_remember, hk, hk']

lemma countP_succeeds_le (h : Accords Watched.observe Watched.Fit cache t)
    (key : String × String) :
    (t.flatMap Watched.events).countP (ToolEvent.succeeds key) ≤ successesLeft key cache := by
  induction t generalizing cache with
  | nil => exact Nat.zero_le _
  | cons x t ih =>
    have hx := Watched.successesLeft_observe h.1 key
    have ht := ih h.2
    rw [List.flatMap_cons, List.countP_append]
    omega

theorem remembers_of_accords (h : Accords Watched.observe Watched.Fit [] t) : Remembers t := by
  have hpre : ∀ {pre x post}, t = pre ++ x :: post → Accords Watched.observe Watched.Fit [] pre := by
    rintro pre x post rfl
    exact ((accords_append _ _ _).mp h).1
  refine ⟨fun key => ?_, ?_, ?_, ?_⟩
  · exact (countP_succeeds_le h key).trans (by unfold successesLeft; split_ifs <;> simp)
  · intro pre r post ht r' value hm hk hran
    have hc := (cached_foldl (hpre ht) r.key value).mpr ⟨r', hm, hk, hran⟩
    have hfit := h.fits ht
    rwa [Watched.Fit, hc] at hfit
  · intro pre r post ht value used hr
    have hfit := h.fits ht
    simp only [Watched.Fit] at hfit
    split at hfit
    · rename_i value' hc
      obtain ⟨rfl, _⟩ : value = value' ∧ used = r.used := by
        simpa [hr] using hfit.1
      exact (cached_foldl (hpre ht) r.key value).mp hc
    · exact (hfit.not_recalled hr).elim
  · intro pre r post ht hno
    have hfit := h.fits ht
    simp only [Watched.Fit] at hfit
    split at hfit
    · rename_i value hc
      obtain ⟨r', hm, hk, hran⟩ := (cached_foldl (hpre ht) r.key value).mp hc
      exact (hno r' hm hk value hran).elim
    · exact hfit

end

structure OwnedExecutor (σ : Type) extends LlmToolStepExecutor σ where
  llm_owned : ∀ request s, cache.read (llm.chat request s).2 = cache.read s
  tools_owned : ∀ name arguments s, cache.read (tools.call name arguments s).2 = cache.read s

namespace OwnedExecutor

variable {σ : Type} (executor : OwnedExecutor σ)

def memory : Ledger σ Watched ToolCache := ⟨executor.cache.read, Watched.observe, Watched.Fit⟩

@[simp] lemma memory_read : executor.memory.read = executor.cache.read := rfl
@[simp] lemma memory_observe : executor.memory.observe = Watched.observe := rfl
@[simp] lemma memory_fit : executor.memory.Fit = Watched.Fit := rfl

lemma kept_watchedCall (call : ToolCall) (used maxToolCalls : ℕ) :
    executor.memory.Kept (executor.watchedCall call used maxToolCalls) := by
  have hcases := executor.resolveCall_cases call used maxToolCalls
  refine Ledger.kept_boxed (fun s => ?_) (fun s => ?_)
  · have h := hcases s
    generalize (executor.resolveCall call used maxToolCalls).run s = o at h
    rw [memory_fit, memory_read]
    cases h with
    | cached hc => simp [Watched.Fit, Resolution.key, hc, Resolution.Recalled]
    | overBudget hc hm => simp [Watched.Fit, Resolution.key, hc, Resolution.Fresh, hm]
    | ran hc hm _ =>
      simp [Watched.Fit, Resolution.key, hc, Resolution.Fresh, hm.not_ge, CallOutcome.ofAnswer]
    | failed hc hm _ =>
      simp [Watched.Fit, Resolution.key, hc, Resolution.Fresh, hm.not_ge, CallOutcome.ofAnswer]
  · have h := hcases s
    have howned := executor.tools_owned call.name call.arguments s
    generalize (executor.resolveCall call used maxToolCalls).run s = o at h ⊢
    rw [memory_observe, memory_read]
    cases h with
    | cached _ => rfl
    | overBudget _ _ => rfl
    | ran _ _ hr =>
      rw [hr] at howned
      rw [executor.cache.read_write]
      exact congrArg (ToolCache.remember _ _) howned
    | failed _ _ hr =>
      rw [hr] at howned
      exact howned

lemma kept_watchedCalls (maxToolCalls : ℕ) (p : StepProgress) (calls : List ToolCall) :
    executor.memory.Kept (executor.watchedCalls maxToolCalls p calls) := by
  induction calls generalizing p with
  | nil => exact Ledger.kept_pure _
  | cons call calls ih => exact (executor.kept_watchedCall _ _ _).bind fun _ => ih _

lemma kept_chat (request : ChatRequest) :
    executor.memory.Kept ((executor.chat request).relabel .asked) := by
  refine .relabel (.mapError (Ledger.kept_ask (fun s => ?_) fun s => ?_) _)
  · rfl
  · exact executor.llm_owned request s

lemma kept_watchedRounds (request : ExecuteStepRequest) (left : ℕ) (p : StepProgress) :
    executor.memory.Kept (executor.watchedRounds request left p) := by
  induction left generalizing p with
  | zero => exact (executor.kept_chat _).bind fun _ => Ledger.kept_pure _
  | succ left ih =>
    apply (executor.kept_chat _).bind
    intro response
    split_ifs
    · exact Ledger.kept_pure _
    · exact (executor.kept_watchedCalls _ _ _).bind fun _ => ih _

lemma kept_watchedStep (request : ExecuteStepRequest) :
    executor.memory.Kept (executor.watchedStep request) := executor.kept_watchedRounds request _ _

structure Visit where
  meanwhile : σ → σ
  meanwhile_owned : ∀ s, executor.cache.read (meanwhile s) = executor.cache.read s
  request : ExecuteStepRequest

def watch : List executor.Visit → σ → List Watched
  | [], _ => []
  | visit :: visits, s =>
    ((executor.watchedStep visit.request).run (visit.meanwhile s)).trace ++
      watch visits ((executor.watchedStep visit.request).run (visit.meanwhile s)).world

def events : List executor.Visit → σ → List ToolEvent
  | [], _ => []
  | visit :: visits, s =>
    ((executor.executeStep visit.request).run (visit.meanwhile s)).trace ++
      events visits ((executor.executeStep visit.request).run (visit.meanwhile s)).world

lemma watch_events (visits : List executor.Visit) (s : σ) :
    (executor.watch visits s).flatMap Watched.events = executor.events visits s := by
  induction visits generalizing s with
  | nil => rfl
  | cons visit visits ih =>
    rw [watch, events, List.flatMap_append, ih, ← executor.watchedStep_unboxed visit.request]
    rfl

lemma accords_watch (visits : List executor.Visit) (s : σ) :
    Accords Watched.observe Watched.Fit (executor.cache.read s) (executor.watch visits s) := by
  induction visits generalizing s with
  | nil => trivial
  | cons visit visits ih =>
    obtain ⟨hfits, hread⟩ := executor.kept_watchedStep visit.request (visit.meanwhile s)
    rw [memory_read, visit.meanwhile_owned, memory_observe] at hfits hread
    rw [watch, accords_append]
    refine ⟨hfits, ?_⟩
    rw [← hread]
    exact ih _

end OwnedExecutor

namespace DeepWorkerInvoker

variable {τ : Type} (invoker : DeepWorkerInvoker τ)

def ownedExecutor : Option (OwnedExecutor (InvokerEnv τ)) :=
  invoker.activeTools.map fun (tools, specs) =>
    { LlmToolStepExecutor.new invoker.model (tools.through InvokerEnv.hostCell) specs
        InvokerEnv.toolCacheCell with
      llm_owned := fun _ _ => rfl
      tools_owned := fun _ _ _ => rfl }

lemma ownedExecutor_eq :
    invoker.ownedExecutor.map OwnedExecutor.toLlmToolStepExecutor = invoker.executor := by
  rw [ownedExecutor, Option.map_map]
  rfl

end DeepWorkerInvoker

end GreenticDw

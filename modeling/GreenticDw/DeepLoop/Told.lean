import GreenticDw.DeepLoop.Runs
import GreenticDw.Runtime.Tasks

/-! What the hooks, the observers and the store are told in a whole run of the deep loop. -/

namespace GreenticDw

def Call.runtimeCall {σ : Type} : Call σ → Option RuntimeCall
  | .runtime call => some call
  | _ => none

section

variable {σ : Type} {t u : List (Call σ)}

def runtimeCalls (t : List (Call σ)) : List RuntimeCall := t.filterMap Call.runtimeCall

lemma runtimeCalls_append : runtimeCalls (t ++ u) = runtimeCalls t ++ runtimeCalls u :=
  List.filterMap_append ..

lemma runtimeCalls_runtime (calls : List RuntimeCall) :
    runtimeCalls (calls.map .runtime : List (Call σ)) = calls := by
  rw [runtimeCalls, List.filterMap_map]
  exact List.filterMap_some

lemma runtimeCalls_silent (ht : ∀ x ∈ t, x.runtimeCall = none) : runtimeCalls t = [] :=
  List.filterMap_eq_nil_iff.mpr ht

end

structure Told {σ : Type} (rt : DwRuntime σ) (w : World σ) (t : List (Call σ)) (w' : World σ) :
    Prop where
  history : ∃ events, Coherent rt w.envelope (runtimeCalls t) events w'.envelope
  about : ∀ call ∈ runtimeCalls t, call.About w.envelope

namespace Told

variable {σ : Type} {rt : DwRuntime σ} {w w' w'' : World σ} {t u : List (Call σ)}

lemma still (ht : ∀ x ∈ t, x.runtimeCall = none) (hw : w'.envelope = w.envelope) :
    Told rt w t w' := by
  have hnone := runtimeCalls_silent ht
  refine ⟨⟨[], ?_⟩, ?_⟩
  · rw [hnone, hw]
    exact .nil _
  · simp [hnone]

lemma append (ht : Told rt w t w') (hu : Told rt w' u w'') : Told rt w (t ++ u) w'' := by
  obtain ⟨es, hes⟩ := ht.history
  obtain ⟨fs, hfs⟩ := hu.history
  refine ⟨⟨es ++ fs, ?_⟩, ?_⟩
  · rw [runtimeCalls_append]
    exact hes.append hfs
  · rw [runtimeCalls_append, List.forall_mem_append]
    exact ⟨ht.about, fun call hcall => (hu.about call hcall).of_frame hes.frame⟩

lemma quiet {env : σ} (ht : ∀ x ∈ t, x.runtimeCall = none) (hu : Told rt (w.withEnv env) u w'') :
    Told rt w (t ++ u) w'' :=
  (still ht (w.withEnv_envelope env)).append hu

lemma reported {calls : List RuntimeCall} {events : List RuntimeEvent} {x : Call σ}
    (hx : x.runtimeCall = none) (history : Coherent rt w.envelope calls events w'.envelope)
    (about : ∀ call ∈ calls, call.About w.envelope) :
    Told rt w (calls.map .runtime ++ [x]) w' := by
  have hcalls : runtimeCalls (calls.map .runtime ++ [x]) = calls := by
    rw [runtimeCalls_append, runtimeCalls_runtime,
      runtimeCalls_silent (List.forall_mem_singleton.mpr hx), List.append_nil]
  constructor <;> rw [hcalls]
  · exact ⟨events, history⟩
  · exact about

end Told

namespace DeepLoopCoordinator

variable {σ : Type} {c : DeepLoopCoordinator σ} {s : LoopState} {action : PlannedAction}
  {step : PlanStep} {stepContext planContext : Option String} {w w' : World σ} {o : Ran σ}

lemma told_refusal {operation : RuntimeOperation} {e : RuntimeError} {t : List RuntimeCall}
    (h : DwRuntime.Applied c.runtime operation w ⟨.error e, w', t⟩) :
    Told c.runtime w (refusal t operation e w') w' :=
  .reported rfl h.coherent h.about

lemma told_authorised {operation : RuntimeOperation} {event : RuntimeEvent}
    {envelope : TaskEnvelope} {env : σ}
    (h : Core.applyOperation w.envelope operation = .ok (event, envelope)) :
    Told c.runtime w (c.authorised w.envelope event envelope) ⟨env, envelope⟩ := by
  have happlied : DwRuntime.Applied c.runtime operation w
      ⟨.ok event, ⟨env, envelope⟩, c.runtime.mediated w.envelope event envelope⟩ := .applied h
  exact .reported rfl happlied.coherent happlied.about

lemma told_ticking {ticked : Except RuntimeError (List RuntimeEvent)} {t : List RuntimeCall}
    (h : c.runtime.tick.run w = ⟨ticked, w', t⟩) : Told c.runtime w (ticking t ticked w') w' := by
  change (c.runtime.request .tick).run w = _ at h
  have hhistory := c.runtime.request_coherent .tick w
  have habout := c.runtime.request_about .tick w
  rw [h] at hhistory habout
  exact .reported rfl hhistory habout

lemma Closed.told {operation : RuntimeOperation} {report : DeepLoopRun}
    (h : c.Closed operation report w o) : Told c.runtime w o.trace o.world := by
  cases h with
  | refused ha => exact told_refusal ha
  | closed ha => exact told_authorised ha

lemma Emitted.told {subtask : SubtaskEnvelope} (h : c.Emitted s step subtask w o) :
    Told c.runtime w o.trace o.world := by
  cases h <;> exact .still (by simp [Call.runtimeCall]) rfl

lemma Delegated.told (h : c.Delegated s step w o) : Told c.runtime w o.trace o.world := by
  cases h with
  | unchosen _ => exact .still (by simp [Call.runtimeCall]) rfl
  | refused _ _ ha => exact .quiet (t := [_]) (List.forall_mem_singleton.mpr rfl) (told_refusal ha)
  | @handed _ _ _ env _ _ _ ha he =>
    have hstart := (told_authorised (w := w.withEnv env) ha).append he.told
    exact .quiet (t := [_]) (List.forall_mem_singleton.mpr rfl) hstart

lemma Judged.told {verdict : ReviewVerdict} (h : c.Judged s step stepContext w verdict o) :
    Told c.runtime w o.trace o.world := by
  cases h with
  | failed hc => exact hc.told
  | handed _ he => exact .quiet (by simp [Call.runtimeCall]) he.told
  | _ => exact .still (by simp [Call.runtimeCall]) rfl

lemma Produced.silent {body : String} {s₁ : LoopState} {env : σ} {calls : List (Call σ)}
    (h : c.Produced s step stepContext w body s₁ env calls) :
    ∀ x ∈ calls, x.runtimeCall = none := by
  cases h <;> simp [Call.runtimeCall]

lemma Worked.told (h : c.Worked s action step stepContext w o) :
    Told c.runtime w o.trace o.world := by
  cases h with
  | unexecuted _ _ => exact .still (by simp [Call.runtimeCall]) rfl
  | judged hp _ _ _ hj =>
    refine .quiet (List.forall_mem_append.mpr ⟨hp.silent, ?_⟩) hj.told
    simp [Call.runtimeCall]
  | unstored hp _ | unreviewed hp _ _ | invalid hp _ _ _ =>
    exact .still (List.forall_mem_append.mpr ⟨hp.silent, by simp [Call.runtimeCall]⟩) rfl

lemma Executed.told (h : c.Executed s action step stepContext w o) :
    Told c.runtime w o.trace o.world := by
  cases h with
  | refused ht => exact told_ticking ht
  | ticked ht hw => exact (told_ticking ht).append hw.told

lemma Acted.told (h : c.Acted s action w o) : Told c.runtime w o.trace o.world := by
  cases h with
  | missing _ => exact .still (by simp) rfl
  | noContext _ => exact .still (by simp [Call.runtimeCall]) rfl
  | delegated _ _ _ hd => exact .quiet (by simp [Call.runtimeCall]) hd.told
  | executed _ _ _ he => exact .quiet (by simp [Call.runtimeCall]) he.told

lemma Settled.told (h : c.Settled s planContext w o) : Told c.runtime w o.trace o.world := by
  cases h with
  | unsatisfied _ _ hc => exact .quiet (by simp [Call.runtimeCall]) hc.told
  | failed _ _ _ _ _ hc => exact .quiet (by simp [Call.runtimeCall]) hc.told
  | completed _ _ _ _ _ hc => exact .quiet (by simp [Call.runtimeCall]) hc.told
  | _ => exact .still (by simp [Call.runtimeCall]) rfl

lemma Started.told {o : Outcome (World σ) (Call σ) DeepLoopError Unit} (h : c.Started w o) :
    Told c.runtime w o.trace o.world := by
  cases h with
  | skipped _ => exact .still (by simp) rfl
  | refused _ ha => exact told_refusal ha
  | started _ ha => exact told_authorised ha

lemma told_invariant :
    c.LoopInvariant fun _ w o => Told c.runtime w o.trace o.world where
  skip _ _ := .still (by simp) rfl
  seq ht ho := ht.append ho
  halt _ _ _ := .still (by simp) rfl
  quiet ht ho := by
    refine .quiet (fun x hx => ?_) ho
    cases x <;> first | rfl | exact (ht _ hx).elim
  acted h := h.told
  settled h := h.told

theorem run_told (c : DeepLoopCoordinator σ) (plan : PlanDocument) (w : World σ) :
    Told c.runtime w ((c.run plan).run w).trace ((c.run plan).run w).world := by
  refine told_invariant.run (P := fun o => Told c.runtime w o.trace o.world) ?_ ?_
  · exact fun _ _ _ hs => hs.told
  · exact fun _ _ _ hs ho => hs.told.append ho

end DeepLoopCoordinator

end GreenticDw

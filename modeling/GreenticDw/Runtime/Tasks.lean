import GreenticDw.Runtime.Coherence

namespace GreenticDw

namespace RuntimeCall

def About (task : TaskEnvelope) : RuntimeCall → Prop
  | decide envelope _ => envelope = { task with state := envelope.state }
  | preOperation _ envelope _ _ => envelope = { task with state := envelope.state }
  | postOperation _ envelope event =>
    envelope = { task with state := envelope.state } ∧
      event.taskId = task.taskId ∧ event.workerId = task.workerId
  | onOperation _ event => event.taskId = task.taskId ∧ event.workerId = task.workerId
  | saveState envelope _ => envelope = { task with state := envelope.state }

lemma About.of_frame {a b : TaskEnvelope} {call : RuntimeCall} (h : call.About b)
    (hab : b = { a with state := b.state }) : call.About a := by
  rw [hab] at h
  cases call <;> exact h

end RuntimeCall

namespace DwRuntime

variable {σ : Type} {rt : DwRuntime σ} {operation : RuntimeOperation} {w : World σ}

lemma about_granted (envelope : TaskEnvelope) (operation : RuntimeOperation) :
    ∀ call ∈ rt.packs.granted envelope operation, call.About envelope := by
  intro call hc
  obtain ⟨i, _, rfl⟩ := List.mem_map.mp hc
  rfl

lemma about_announced {envelope after : TaskEnvelope} {event : RuntimeEvent}
    (h : Core.applyOperation envelope operation = .ok (event, after)) :
    ∀ call ∈ rt.packs.announced after event, call.About envelope := by
  have hevent : event.taskId = envelope.taskId ∧ event.workerId = envelope.workerId := by
    dsimp only [Core.applyOperation] at h
    split_ifs at h
    obtain ⟨rfl, _⟩ := Prod.mk.inj (Except.ok.inj h)
    exact ⟨rfl, rfl⟩
  have hafter : after = { envelope with state := after.state } := by
    obtain ⟨_, _, _, _, hafter⟩ := Core.applyOperation_ok h
    rw [hafter]
  intro call hc
  rcases List.mem_append.mp hc with hc | hc
  · obtain ⟨i, _, rfl⟩ := List.mem_map.mp hc
    exact ⟨hafter, hevent⟩
  · obtain ⟨i, _, rfl⟩ := List.mem_map.mp hc
    exact hevent

lemma Applied.about {o : Outcome (World σ) RuntimeCall RuntimeError RuntimeEvent}
    (h : Applied rt operation w o) : ∀ call ∈ o.trace, call.About w.envelope := by
  have hframe := h.coherent.frame
  cases h with
  | blocked ht _ =>
    intro call hc
    cases call with
    | preOperation i envelope operation answer =>
      obtain ⟨rfl, _⟩ := ht _ hc
      rfl
    | _ => exact (ht _ hc).elim
  | illegal _ => exact about_granted _ _
  | unsaved h _ _ =>
    simp only [List.forall_mem_append, List.forall_mem_singleton]
    exact ⟨about_granted _ _, about_announced h, hframe⟩
  | applied h =>
    simp only [mediated, List.forall_mem_append]
    refine ⟨about_granted _ _, about_announced h, ?_⟩
    unfold saved
    split_ifs
    · exact List.forall_mem_singleton.mpr hframe
    · simp

lemma applyBatch_about (operations : List RuntimeOperation) (w : World σ) :
    ∀ call ∈ ((rt.applyBatch operations).run w).trace, call.About w.envelope := by
  induction operations generalizing w with
  | nil => exact fun _ hc => nomatch hc
  | cons operation operations ih =>
    have habout := (rt.applyOperation_cases operation w).about
    have hco := rt.applyOperation_coherent operation w
    rcases h : (rt.applyOperation operation).run w with ⟨e | event, w', t⟩
    · simpa [applyBatch, h] using habout
    · rw [h] at habout hco
      have hrest := fun call hcall => (ih w' call hcall).of_frame hco.frame
      rcases h' : (rt.applyBatch operations).run w' with ⟨e | events, w'', t'⟩ <;>
        rw [h'] at hrest <;>
        simpa [applyBatch, h, h'] using List.forall_mem_append.mpr ⟨habout, hrest⟩

lemma request_about (rt : DwRuntime σ) (r : RuntimeRequest) (w : World σ) :
    ∀ call ∈ ((rt.request r).run w).trace, call.About w.envelope := by
  have hbatch := rt.applyBatch_about (rt.asked w r).1 (rt.asked w r).2
  rcases rt.request_cases r w with ⟨h, hw⟩ | ⟨⟨decision, h⟩, hw⟩ | ⟨e, s, h, _⟩ <;> rw [h]
  · rwa [hw] at hbatch ⊢
  · rw [hw] at hbatch
    exact List.forall_mem_cons.mpr ⟨rfl, hbatch⟩
  · exact List.forall_mem_singleton.mpr rfl

end DwRuntime

end GreenticDw

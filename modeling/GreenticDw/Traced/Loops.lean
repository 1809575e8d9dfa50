import GreenticDw.Traced.Computation

/-! Loops whose body either hands on a state or leaves with a value, and the rule that carries a
property of the body over a run of the loop. -/

namespace GreenticDw

inductive Flow (S R : Type) where
  | next (state : S)
  | done (value : R)

namespace Traced

variable {W Ev ε A S R : Type}

def forEach (body : S → A → Traced W Ev ε (Flow S R)) : S → List A → Traced W Ev ε (Flow S R)
  | s, [] => pure (.next s)
  | s, a :: as => do
    match ← body s a with
    | .next s' => forEach body s' as
    | .done r => pure (.done r)

variable {body : S → A → Traced W Ev ε (Flow S R)}

@[simp] lemma run_forEach_nil (s : S) (w : W) :
    (forEach body s []).run w = ⟨.ok (.next s), w, []⟩ := rfl

lemma run_forEach_next {s s' : S} {w w' : W} {t : List Ev} {a : A} (as : List A)
    (h : (body s a).run w = ⟨.ok (.next s'), w', t⟩) :
    (forEach body s (a :: as)).run w = ((forEach body s' as).run w').after t := by
  simp [forEach, h]

lemma run_forEach_done {s : S} {w w' : W} {t : List Ev} {a : A} {r : R} (as : List A)
    (h : (body s a).run w = ⟨.ok (.done r), w', t⟩) :
    (forEach body s (a :: as)).run w = ⟨.ok (.done r), w', t⟩ := by
  simp [forEach, h]

lemma run_forEach_error {s : S} {w w' : W} {t : List Ev} {a : A} {e : ε} (as : List A)
    (h : (body s a).run w = ⟨.error e, w', t⟩) :
    (forEach body s (a :: as)).run w = ⟨.error e, w', t⟩ := by
  simp [forEach, h]

theorem forEach_rule {Good : List A → S → W → Outcome W Ev ε (Flow S R) → Prop}
    (nil : ∀ s w, Good [] s w ⟨.ok (.next s), w, []⟩)
    (next : ∀ a as s w s' w' t o, (body s a).run w = ⟨.ok (.next s'), w', t⟩ →
      Good as s' w' o → Good (a :: as) s w (o.after t))
    (done : ∀ a as s w r w' t, (body s a).run w = ⟨.ok (.done r), w', t⟩ →
      Good (a :: as) s w ⟨.ok (.done r), w', t⟩)
    (error : ∀ a as s w e w' t, (body s a).run w = ⟨.error e, w', t⟩ →
      Good (a :: as) s w ⟨.error e, w', t⟩) :
    ∀ as s w, Good as s w ((forEach body s as).run w) := by
  intro as
  induction as with
  | nil => exact nil
  | cons a as ih =>
    intro s w
    rcases h : (body s a).run w with ⟨e | s' | r, w', t⟩
    · rw [run_forEach_error as h]
      exact error a as s w e w' t h
    · rw [run_forEach_next as h]
      exact next a as s w s' w' t _ h (ih s' w')
    · rw [run_forEach_done as h]
      exact done a as s w r w' t h

/-- A property of outcomes that holds of doing nothing and of one thing after another. -/
structure Sequential (Good : S → W → Outcome W Ev ε (Flow S R) → Prop) : Prop where
  skip : ∀ s w, Good s w ⟨.ok (.next s), w, []⟩
  seq : ∀ {s w s' w' t o}, Good s w ⟨.ok (.next s'), w', t⟩ → Good s' w' o → Good s w (o.after t)

theorem Sequential.forEach {Good : S → W → Outcome W Ev ε (Flow S R) → Prop}
    (hG : Sequential Good) (hb : ∀ s a w, Good s w ((body s a).run w)) (as : List A) (s : S) (w : W) :
    Good s w ((Traced.forEach body s as).run w) := by
  refine @forEach_rule _ _ _ _ _ _ body (fun _ s w o => Good s w o) hG.skip ?_ ?_ ?_ as s w
  · intro a _ s w s' w' t o h ho
    exact hG.seq (h ▸ hb s a w) ho
  · intro a _ s w r w' t h
    exact h ▸ hb s a w
  · intro a _ s w e w' t h
    exact h ▸ hb s a w

theorem forEach_leaves {Fine : Ev → Prop} {Inv : S → Prop} {Final : R → Prop} {measure : S → ℕ}
    {counted : Ev → Bool}
    (step : ∀ s a w, Inv s → (∀ e ∈ ((body s a).run w).trace, Fine e) →
      (∃ r, ((body s a).run w).result = .ok (.done r) ∧ Final r) ∨
      ∃ s', ((body s a).run w).result = .ok (.next s') ∧ Inv s' ∧ measure s' < measure s)
    (once : ∀ s a w, ((body s a).run w).trace.countP counted ≤ 1)
    (as : List A) (s : S) (w : W) (hs : Inv s) (hlt : measure s < as.length)
    (hf : ∀ e ∈ ((forEach body s as).run w).trace, Fine e) :
    (∃ r, ((forEach body s as).run w).result = .ok (.done r) ∧ Final r) ∧
    ((forEach body s as).run w).trace.countP counted ≤ measure s + 1 := by
  induction as generalizing s w with
  | nil => exact absurd hlt (Nat.not_lt_zero _)
  | cons a as ih =>
    have hstep := step s a w hs
    have honce := once s a w
    rcases h : (body s a).run w with ⟨e | s' | r, w', t⟩
    · rw [run_forEach_error as h] at hf
      rw [h] at hstep
      obtain ⟨_, hr, _⟩ | ⟨_, hr, _⟩ := hstep hf <;> cases hr
    · rw [h] at hstep honce
      rw [run_forEach_next as h] at hf ⊢
      obtain ⟨ht, hrest⟩ := List.forall_mem_append.mp hf
      obtain ⟨_, hr, _⟩ | ⟨_, hr, hs', hdown⟩ := hstep ht <;> cases hr
      obtain ⟨hleft, hcount⟩ := ih s' w' hs' (by simp only [List.length_cons] at hlt; omega) hrest
      refine ⟨hleft, ?_⟩
      rw [Outcome.after_trace, List.countP_append]
      simp only at honce
      omega
    · rw [h] at hstep honce
      rw [run_forEach_done as h] at hf ⊢
      obtain ⟨_, hr, hfinal⟩ | ⟨_, hr, _⟩ := hstep hf <;> cases hr
      exact ⟨⟨r, rfl, hfinal⟩, honce.trans (Nat.le_add_left 1 _)⟩

end Traced

end GreenticDw

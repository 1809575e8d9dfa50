import GreenticDw.Traced.Loops

namespace GreenticDw

variable {W Ev ε α β α' β' A S S' R : Type}

def Flow.mapState (f : S → S') : Flow S R → Flow S' R
  | .next s => .next (f s)
  | .done r => .done r

namespace Outcome

@[simp] lemma after_map (g : α → β) (t : List Ev) (o : Outcome W Ev ε α) :
    (o.after t).map g = (o.map g).after t := rfl

end Outcome

namespace Traced

def Mapped (g : α → β) (m : Traced W Ev ε α) (m' : Traced W Ev ε β) : Prop :=
  ∀ w, m'.run w = (m.run w).map g

lemma mapped_pure (g : α → β) (a : α) :
    Mapped g (pure a : Traced W Ev ε α) (pure (g a)) := fun _ => rfl

lemma mapped_id (m : Traced W Ev ε α) : Mapped id m m := by
  intro w
  rcases m.run w with ⟨e | a, w', t⟩ <;> rfl

lemma Mapped.bind {g : α → α'} {k : β → β'} {m : Traced W Ev ε α} {m' : Traced W Ev ε α'}
    {f : α → Traced W Ev ε β} {f' : α' → Traced W Ev ε β'} (hm : Mapped g m m')
    (hf : ∀ a, Mapped k (f a) (f' (g a))) : Mapped k (m >>= f) (m' >>= f') := by
  intro w
  rw [run_bind, run_bind, hm w]
  rcases m.run w with ⟨e | a, w', t⟩
  · rfl
  · rw [Outcome.map_ok, andThen_ok, andThen_ok, hf a w', Outcome.after_map]

lemma mapped_bind {k : β → β'} (m : Traced W Ev ε α) {f : α → Traced W Ev ε β}
    {f' : α → Traced W Ev ε β'} (hf : ∀ a, Mapped k (f a) (f' a)) :
    Mapped k (m >>= f) (m >>= f') :=
  (mapped_id m).bind hf

variable {body : S → A → Traced W Ev ε (Flow S R)}

lemma mapped_forEach {f : S → S'} {body' : S' → A → Traced W Ev ε (Flow S' R)}
    (hb : ∀ s a, Mapped (Flow.mapState f) (body s a) (body' (f s) a)) (as : List A) (s : S) :
    Mapped (Flow.mapState f) (forEach body s as) (forEach body' (f s) as) := by
  induction as generalizing s with
  | nil => exact mapped_pure (Flow.mapState f) (.next s)
  | cons a as ih =>
    apply (hb s a).bind
    intro flow
    cases flow with
    | next s' => exact ih s'
    | done r => exact mapped_pure (Flow.mapState f) (.done r)

theorem run_forEach_append (as bs : List A) (s : S) (w : W)
    (h : ∀ s', ((forEach body s as).run w).result ≠ .ok (.next s')) :
    (forEach body s (as ++ bs)).run w = (forEach body s as).run w := by
  induction as generalizing s w with
  | nil => exact (h s rfl).elim
  | cons a as ih =>
    rcases hr : (body s a).run w with ⟨e | s' | r, w', t⟩
    · rw [List.cons_append, run_forEach_error _ hr, run_forEach_error _ hr]
    · rw [run_forEach_next as hr] at h
      rw [List.cons_append, run_forEach_next _ hr, run_forEach_next _ hr, ih s' w' h]
    · rw [List.cons_append, run_forEach_done _ hr, run_forEach_done _ hr]

end Traced

end GreenticDw

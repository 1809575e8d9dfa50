import GreenticDw.Traced.Histories
import GreenticDw.Traced.Loops

/-! Parts of a world whose changes are all told by the log. -/

namespace GreenticDw

structure Ledger (W Ev S : Type) where
  read : W → S
  observe : S → Ev → S
  Fit : S → Ev → Prop

namespace Ledger

variable {W Ev Ev' S T ε ε' α β A R : Type} (l : Ledger W Ev S)

def Idle (e : Ev) : Prop := ∀ s, l.Fit s e ∧ l.observe s e = s

def comap (g : Ev' → Ev) : Ledger W Ev' S := ⟨l.read, fun s e => l.observe s (g e), fun s e => l.Fit s (g e)⟩

/-- The computation changes the part only as its log tells. -/
def Kept (m : Traced W Ev ε α) : Prop :=
  ∀ w, Accords l.observe l.Fit (l.read w) (m.run w).trace ∧
    l.read (m.run w).world = (m.run w).trace.foldl l.observe (l.read w)

variable {l}

lemma kept_pure (a : α) : l.Kept (pure a : Traced W Ev ε α) := fun _ => ⟨trivial, rfl⟩

lemma kept_throw (e : ε) : l.Kept (Traced.throw e : Traced W Ev ε α) := fun _ => ⟨trivial, rfl⟩

lemma kept_get : l.Kept (Traced.get : Traced W Ev ε W) := fun _ => ⟨trivial, rfl⟩

lemma kept_ofExcept (r : Except ε α) : l.Kept (Traced.ofExcept r : Traced W Ev ε α) :=
  fun _ => ⟨trivial, rfl⟩

lemma kept_modify {f : W → W} (hf : ∀ w, l.read (f w) = l.read w) :
    l.Kept (Traced.modify f : Traced W Ev ε Unit) := fun w => ⟨trivial, hf w⟩

lemma Kept.bind {m : Traced W Ev ε α} {f : α → Traced W Ev ε β} (hm : l.Kept m)
    (hf : ∀ a, l.Kept (f a)) : l.Kept (m >>= f) := by
  intro w
  have h := hm w
  rw [Traced.run_bind]
  generalize m.run w = o at h ⊢
  rcases o with ⟨e | a, w', t⟩
  · exact h
  · have h' := hf a w'
    have hread : l.read w' = t.foldl l.observe (l.read w) := h.2
    rw [hread] at h'
    simp only [Traced.andThen_ok, Outcome.after_trace, Outcome.after_world, accords_append,
      List.foldl_append]
    exact ⟨⟨h.1, h'.1⟩, h'.2⟩

lemma kept_ask {f : W → Except ε β × W} {label : Except ε β → Ev}
    (hfit : ∀ w, l.Fit (l.read w) (label (f w).1))
    (hread : ∀ w, l.read (f w).2 = l.observe (l.read w) (label (f w).1)) :
    l.Kept (Traced.ask f label) := fun w => ⟨⟨hfit w, trivial⟩, hread w⟩

lemma kept_answer {f : W → β × W} {label : β → Ev} (hfit : ∀ w, l.Fit (l.read w) (label (f w).1))
    (hread : ∀ w, l.read (f w).2 = l.observe (l.read w) (label (f w).1)) :
    l.Kept (Traced.answer f label : Traced W Ev ε β) := fun w => ⟨⟨hfit w, trivial⟩, hread w⟩

lemma Kept.mapError {m : Traced W Ev ε α} (hm : l.Kept m) (g : ε → ε') : l.Kept (m.mapError g) := hm

lemma Kept.relabel {m : Traced W Ev' ε α} {g : Ev' → Ev} (hm : (l.comap g).Kept m) :
    l.Kept (m.relabel g) := by
  intro w
  have hmap : ∀ (t : List Ev') s, Accords (l.comap g).observe (l.comap g).Fit s t →
      Accords l.observe l.Fit s (t.map g) := by
    intro t
    induction t with
    | nil => exact fun _ _ => trivial
    | cons e t ih => exact fun s h => ⟨h.1, ih _ h.2⟩
  refine ⟨hmap _ _ (hm w).1, (hm w).2.trans ?_⟩
  rw [Traced.run_relabel, List.foldl_map]
  rfl

lemma Kept.logged {m : Traced W Ev ε α} (hm : l.Kept m) {label : Except ε α → W → Ev}
    (hlabel : ∀ r w, l.Idle (label r w)) : l.Kept (m.logged label) := by
  intro w
  obtain ⟨hfit, hobserve⟩ := hlabel (m.run w).result (m.run w).world (l.read (m.run w).world)
  simp only [Traced.run_logged, accords_append, List.foldl_append, ← (hm w).2]
  exact ⟨⟨(hm w).1, hfit, trivial⟩, hobserve.symm⟩

lemma kept_forEach {body : T → A → Traced W Ev ε (Flow T R)} (hb : ∀ s a, l.Kept (body s a))
    (as : List A) (s : T) : l.Kept (Traced.forEach body s as) := by
  induction as generalizing s with
  | nil => exact kept_pure _
  | cons a as ih =>
    apply (hb s a).bind
    intro flow
    cases flow with
    | next s' => exact ih s'
    | done r => exact kept_pure _

end Ledger

end GreenticDw

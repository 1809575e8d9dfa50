import Mathlib.Tactic

/-! Computations that change a world, log what they do and may stop with an error. The log and
the world survive the error. -/

namespace GreenticDw

structure Outcome (W Ev ε α : Type) where
  result : Except ε α
  world : W
  trace : List Ev

def Traced (W Ev ε α : Type) : Type := W → Outcome W Ev ε α

namespace Outcome

variable {W Ev ε α β : Type}

def after (t : List Ev) (o : Outcome W Ev ε α) : Outcome W Ev ε α :=
  ⟨o.result, o.world, t ++ o.trace⟩

@[simp] lemma after_result (t : List Ev) (o : Outcome W Ev ε α) : (o.after t).result = o.result := rfl
@[simp] lemma after_world (t : List Ev) (o : Outcome W Ev ε α) : (o.after t).world = o.world := rfl
@[simp] lemma after_trace (t : List Ev) (o : Outcome W Ev ε α) : (o.after t).trace = t ++ o.trace := rfl

@[simp] lemma after_mk (t u : List Ev) (r : Except ε α) (w : W) :
    after t ⟨r, w, u⟩ = ⟨r, w, t ++ u⟩ := rfl

@[simp] lemma after_nil (o : Outcome W Ev ε α) : o.after [] = o := rfl

@[simp] lemma after_after (t u : List Ev) (o : Outcome W Ev ε α) :
    (o.after u).after t = o.after (t ++ u) := by
  simp [after]

lemma forall_after {P : Ev → Prop} {t : List Ev} {o : Outcome W Ev ε α} (ht : ∀ x ∈ t, P x)
    (ho : ∀ x ∈ o.trace, P x) : ∀ x ∈ (o.after t).trace, P x :=
  List.forall_mem_append.mpr ⟨ht, ho⟩

def map (f : α → β) (o : Outcome W Ev ε α) : Outcome W Ev ε β :=
  ⟨o.result.map f, o.world, o.trace⟩

@[simp] lemma map_ok (f : α → β) (a : α) (w : W) (t : List Ev) :
    map f (⟨.ok a, w, t⟩ : Outcome W Ev ε α) = ⟨.ok (f a), w, t⟩ := rfl

@[simp] lemma map_error (f : α → β) (e : ε) (w : W) (t : List Ev) :
    map f (⟨.error e, w, t⟩ : Outcome W Ev ε α) = ⟨.error e, w, t⟩ := rfl

@[simp] lemma map_world (f : α → β) (o : Outcome W Ev ε α) : (o.map f).world = o.world := rfl
@[simp] lemma map_trace (f : α → β) (o : Outcome W Ev ε α) : (o.map f).trace = o.trace := rfl

def andThen (o : Outcome W Ev ε α) (f : α → Traced W Ev ε β) : Outcome W Ev ε β :=
  match o with
  | ⟨.ok a, w, t⟩ => (f a w).after t
  | ⟨.error e, w, t⟩ => ⟨.error e, w, t⟩

end Outcome

namespace Traced

variable {W Ev Ev' ε ε' α β : Type}

def run (m : Traced W Ev ε α) (w : W) : Outcome W Ev ε α := m w

instance : Monad (Traced W Ev ε) where
  pure a := fun w => ⟨.ok a, w, []⟩
  bind m f := fun w => (m w).andThen f

@[simp] lemma run_pure (a : α) (w : W) :
    (pure a : Traced W Ev ε α).run w = ⟨.ok a, w, []⟩ := rfl

@[simp] lemma run_bind (m : Traced W Ev ε α) (f : α → Traced W Ev ε β) (w : W) :
    (m >>= f).run w = (m.run w).andThen f := rfl

@[simp] lemma andThen_ok (a : α) (w : W) (t : List Ev) (f : α → Traced W Ev ε β) :
    Outcome.andThen ⟨.ok a, w, t⟩ f = ((f a).run w).after t := rfl

@[simp] lemma andThen_error (e : ε) (w : W) (t : List Ev) (f : α → Traced W Ev ε β) :
    Outcome.andThen ⟨.error e, w, t⟩ f = ⟨.error e, w, t⟩ := rfl

@[simp] lemma after_andThen (t : List Ev) (o : Outcome W Ev ε α) (f : α → Traced W Ev ε β) :
    (o.after t).andThen f = (o.andThen f).after t := by
  rcases o with ⟨_ | a, w, u⟩ <;> simp

lemma run_bind_eq_ok {m : Traced W Ev ε α} {f : α → Traced W Ev ε β} {w : W} {b : β}
    (h : ((m >>= f).run w).result = .ok b) :
    ∃ a w' t, m.run w = ⟨.ok a, w', t⟩ ∧ (m >>= f).run w = ((f a).run w').after t ∧
      ((f a).run w').result = .ok b := by
  rw [run_bind] at h ⊢
  rcases hm : m.run w with ⟨_ | a, w', t⟩
  · rw [hm] at h
    cases h
  · rw [hm] at h
    exact ⟨a, w', t, rfl, rfl, h⟩

def throw (e : ε) : Traced W Ev ε α := fun w => ⟨.error e, w, []⟩

def get : Traced W Ev ε W := fun w => ⟨.ok w, w, []⟩

def modify (f : W → W) : Traced W Ev ε Unit := fun w => ⟨.ok (), f w, []⟩

def ofExcept (r : Except ε α) : Traced W Ev ε α := fun w => ⟨r, w, []⟩

/-- A question put to the world, logged with the answer. -/
def answer (f : W → β × W) (label : β → Ev) : Traced W Ev ε β := fun w =>
  ⟨.ok (f w).1, (f w).2, [label (f w).1]⟩

def ask (f : W → Except ε β × W) (label : Except ε β → Ev) : Traced W Ev ε β := fun w =>
  ⟨(f w).1, (f w).2, [label (f w).1]⟩

def mapError (g : ε → ε') (m : Traced W Ev ε α) : Traced W Ev ε' α := fun w =>
  ⟨(m.run w).result.mapError g, (m.run w).world, (m.run w).trace⟩

def relabel (g : Ev → Ev') (m : Traced W Ev ε α) : Traced W Ev' ε α := fun w =>
  ⟨(m.run w).result, (m.run w).world, (m.run w).trace.map g⟩

def logged (label : Except ε α → W → Ev) (m : Traced W Ev ε α) : Traced W Ev ε α := fun w =>
  ⟨(m.run w).result, (m.run w).world,
    (m.run w).trace ++ [label (m.run w).result (m.run w).world]⟩

@[simp] lemma run_throw (e : ε) (w : W) :
    (throw e : Traced W Ev ε α).run w = ⟨.error e, w, []⟩ := rfl

@[simp] lemma run_get (w : W) : (get : Traced W Ev ε W).run w = ⟨.ok w, w, []⟩ := rfl

@[simp] lemma run_modify (f : W → W) (w : W) :
    (modify f : Traced W Ev ε Unit).run w = ⟨.ok (), f w, []⟩ := rfl

@[simp] lemma run_ofExcept (r : Except ε α) (w : W) :
    (ofExcept r : Traced W Ev ε α).run w = ⟨r, w, []⟩ := rfl

@[simp] lemma run_answer (f : W → β × W) (label : β → Ev) (w : W) :
    (answer f label : Traced W Ev ε β).run w = ⟨.ok (f w).1, (f w).2, [label (f w).1]⟩ := rfl

@[simp] lemma run_ask (f : W → Except ε β × W) (label : Except ε β → Ev) (w : W) :
    (ask f label).run w = ⟨(f w).1, (f w).2, [label (f w).1]⟩ := rfl

@[simp] lemma run_mapError (g : ε → ε') (m : Traced W Ev ε α) (w : W) :
    (m.mapError g).run w =
      ⟨(m.run w).result.mapError g, (m.run w).world, (m.run w).trace⟩ := rfl

@[simp] lemma run_relabel (g : Ev → Ev') (m : Traced W Ev ε α) (w : W) :
    (m.relabel g).run w = ⟨(m.run w).result, (m.run w).world, (m.run w).trace.map g⟩ := rfl

@[simp] lemma run_logged (label : Except ε α → W → Ev) (m : Traced W Ev ε α) (w : W) :
    (m.logged label).run w = ⟨(m.run w).result, (m.run w).world,
      (m.run w).trace ++ [label (m.run w).result (m.run w).world]⟩ := rfl

end Traced

end GreenticDw

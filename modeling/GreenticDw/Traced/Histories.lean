import Mathlib.Tactic

/-! Properties of a trace that speak, at each event, of the events before it, or of the state that
these make. -/

namespace GreenticDw

variable {E : Type} {P : List E → E → Prop}

/-- Every event of the trace, which follows the given history, has the property. -/
def Always (P : List E → E → Prop) : List E → List E → Prop
  | _, [] => True
  | h, e :: t => P h e ∧ Always P (h ++ [e]) t

@[simp] lemma always_nil (h : List E) : Always P h [] := trivial

@[simp] lemma always_cons (h : List E) (e : E) (t : List E) :
    Always P h (e :: t) ↔ P h e ∧ Always P (h ++ [e]) t := Iff.rfl

@[simp] lemma always_append (h t u : List E) :
    Always P h (t ++ u) ↔ Always P h t ∧ Always P (h ++ t) u := by
  induction t generalizing h with
  | nil => simp
  | cons e t ih => simp [ih, and_assoc]

theorem always_iff (h t : List E) :
    Always P h t ↔ ∀ pre e post, t = pre ++ e :: post → P (h ++ pre) e := by
  constructor
  · rintro ha pre e post rfl
    exact ((always_append h pre (e :: post)).mp ha).2.1
  · intro ha
    induction t generalizing h with
    | nil => trivial
    | cons e t ih =>
      refine ⟨by simpa using ha [] e t rfl, ih _ ?_⟩
      rintro pre e' post rfl
      simpa using ha (e :: pre) e' post rfl

lemma always_of_forall {h t : List E} (ht : ∀ e ∈ t, ∀ g, P g e) : Always P h t := by
  rw [always_iff]
  rintro pre e post rfl
  exact ht e (by simp) _

section

variable {S : Type} {observe : S → E → S} {Fit : S → E → Prop}

def Accords (observe : S → E → S) (Fit : S → E → Prop) : S → List E → Prop
  | _, [] => True
  | s, e :: t => Fit s e ∧ Accords observe Fit (observe s e) t

@[simp] lemma accords_nil (s : S) : Accords observe Fit s [] := trivial

@[simp] lemma accords_cons (s : S) (e : E) (t : List E) :
    Accords observe Fit s (e :: t) ↔ Fit s e ∧ Accords observe Fit (observe s e) t := Iff.rfl

@[simp] lemma accords_append (s : S) (t u : List E) :
    Accords observe Fit s (t ++ u) ↔
      Accords observe Fit s t ∧ Accords observe Fit (t.foldl observe s) u := by
  induction t generalizing s with
  | nil => simp
  | cons e t ih => simp [ih, and_assoc]

theorem Accords.fits {s : S} {t pre post : List E} {e : E} (h : Accords observe Fit s t)
    (ht : t = pre ++ e :: post) : Fit (pre.foldl observe s) e := by
  rw [ht, accords_append] at h
  exact h.2.1

end

end GreenticDw

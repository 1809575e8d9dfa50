import GreenticDw.Traced.Ledgers

namespace GreenticDw.Traced

variable {W Ev Ev' S ε α β : Type}

def boxed (label : Outcome W Ev ε α → Ev') (m : Traced W Ev ε α) : Traced W Ev' ε α := fun w =>
  ⟨(m.run w).result, (m.run w).world, [label (m.run w)]⟩

def unboxed (f : Ev' → List Ev) (m : Traced W Ev' ε α) : Traced W Ev ε α := fun w =>
  ⟨(m.run w).result, (m.run w).world, (m.run w).trace.flatMap f⟩

@[simp] lemma run_boxed (label : Outcome W Ev ε α → Ev') (m : Traced W Ev ε α) (w : W) :
    (m.boxed label).run w = ⟨(m.run w).result, (m.run w).world, [label (m.run w)]⟩ := rfl

@[simp] lemma run_unboxed (f : Ev' → List Ev) (m : Traced W Ev' ε α) (w : W) :
    (m.unboxed f).run w =
      ⟨(m.run w).result, (m.run w).world, (m.run w).trace.flatMap f⟩ := rfl

variable {f : Ev' → List Ev}

lemma unboxed_pure (a : α) : (pure a : Traced W Ev' ε α).unboxed f = pure a := rfl

lemma unboxed_bind (m : Traced W Ev' ε α) (k : α → Traced W Ev' ε β) :
    (m >>= k).unboxed f = m.unboxed f >>= fun a => (k a).unboxed f := by
  funext w
  change ((m >>= k).unboxed f).run w = (m.unboxed f >>= fun a => (k a).unboxed f).run w
  simp only [run_unboxed, run_bind]
  rcases m.run w with ⟨e | a, w', t⟩
  · rfl
  · simp [Outcome.after]

lemma unboxed_boxed {label : Outcome W Ev ε α → Ev'} (m : Traced W Ev ε α)
    (h : ∀ w, f (label (m.run w)) = (m.run w).trace) : (m.boxed label).unboxed f = m := by
  funext w
  change ((m.boxed label).unboxed f).run w = m.run w
  rw [run_unboxed, run_boxed, List.flatMap_singleton, h]

lemma unboxed_relabel {g : Ev → Ev'} (m : Traced W Ev ε α) (h : ∀ e, f (g e) = [e]) :
    (m.relabel g).unboxed f = m := by
  funext w
  change ((m.relabel g).unboxed f).run w = m.run w
  rw [run_unboxed, run_relabel, List.flatMap_map]
  simp only [h, List.flatMap_singleton']

end GreenticDw.Traced

namespace GreenticDw.Ledger

variable {W Ev Ev' S ε α : Type} {l : Ledger W Ev' S}

lemma kept_boxed {m : Traced W Ev ε α} {label : Outcome W Ev ε α → Ev'}
    (hfit : ∀ w, l.Fit (l.read w) (label (m.run w)))
    (hread : ∀ w, l.read (m.run w).world = l.observe (l.read w) (label (m.run w))) :
    l.Kept (m.boxed label) := fun w => ⟨⟨hfit w, trivial⟩, hread w⟩

end GreenticDw.Ledger

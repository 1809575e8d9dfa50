import GreenticDw.Traced.Computation

namespace GreenticDw

structure Cell (σ α : Type) where
  read : σ → α
  write : α → σ → σ
  read_write : ∀ a s, read (write a s) = a

def Cell.through {σ α β : Type} (cell : Cell σ α) (f : α → β × α) (s : σ) : β × σ :=
  ((f (cell.read s)).1, cell.write (f (cell.read s)).2 s)

namespace Traced

variable {V W Ev ε α : Type}

def within (enter : W → V) (leave : V → W) (m : Traced V Ev ε α) : Traced W Ev ε α := fun w =>
  ⟨(m.run (enter w)).result, leave (m.run (enter w)).world, (m.run (enter w)).trace⟩

def focus (cell : Cell W V) (m : Traced V Ev ε α) : Traced W Ev ε α := fun w =>
  ⟨(m.run (cell.read w)).result, cell.write (m.run (cell.read w)).world w,
    (m.run (cell.read w)).trace⟩

def attempt {ε' : Type} (m : Traced W Ev ε α) : Traced W Ev ε' (Except ε α) := fun w =>
  ⟨.ok (m.run w).result, (m.run w).world, (m.run w).trace⟩

@[simp] lemma run_attempt {ε' : Type} (m : Traced W Ev ε α) (w : W) :
    (m.attempt : Traced W Ev ε' (Except ε α)).run w = ⟨.ok (m.run w).result, (m.run w).world, (m.run w).trace⟩ := rfl

@[simp] lemma run_within (enter : W → V) (leave : V → W) (m : Traced V Ev ε α) (w : W) :
    (m.within enter leave).run w =
      ⟨(m.run (enter w)).result, leave (m.run (enter w)).world, (m.run (enter w)).trace⟩ := rfl

@[simp] lemma run_focus (cell : Cell W V) (m : Traced V Ev ε α) (w : W) :
    (m.focus cell).run w = ⟨(m.run (cell.read w)).result, cell.write (m.run (cell.read w)).world w,
      (m.run (cell.read w)).trace⟩ := rfl

end Traced

end GreenticDw

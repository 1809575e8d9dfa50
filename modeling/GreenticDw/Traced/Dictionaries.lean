import GreenticDw.Traced.Cells
import GreenticDw.Traced.Ledgers

namespace GreenticDw

inductive Access (κ β : Type) where
  | wrote (key : κ) (value : β)
  | found (key : κ) (answer : Option β)
  | other

variable {W V Ev S κ β ε ε' α : Type}

namespace Ledger

lemma accords_of_idle {l : Ledger W Ev S} {t : List Ev} (h : ∀ e ∈ t, l.Idle e) (s : S) :
    Accords l.observe l.Fit s t ∧ t.foldl l.observe s = s := by
  induction t with
  | nil => exact ⟨trivial, rfl⟩
  | cons e t ih =>
    obtain ⟨he, ht⟩ := List.forall_mem_cons.mp h
    obtain ⟨hfit, hobserve⟩ := he s
    simp only [accords_cons, List.foldl_cons, hobserve]
    exact ⟨⟨hfit, (ih ht).1⟩, (ih ht).2⟩

lemma kept_of_idle {l : Ledger W Ev S} {m : Traced W Ev ε α}
    (hread : ∀ w, l.read (m.run w).world = l.read w) (h : ∀ w, ∀ e ∈ (m.run w).trace, l.Idle e) :
    l.Kept m := fun w =>
  ⟨(accords_of_idle (h w) _).1, (hread w).trans (accords_of_idle (h w) _).2.symm⟩

lemma Kept.attempt {l : Ledger W Ev S} {m : Traced W Ev ε α} (hm : l.Kept m) :
    l.Kept (m.attempt : Traced W Ev ε' (Except ε α)) := hm

lemma Kept.focus {l : Ledger W Ev S} {m : Traced V Ev ε α} {cell : Cell W V} {read : V → S}
    (hread : ∀ w, l.read w = read (cell.read w))
    (hm : Ledger.Kept ⟨read, l.observe, l.Fit⟩ m) : l.Kept (m.focus cell) := by
  intro w
  have h := hm (cell.read w)
  rw [Traced.run_focus]
  refine ⟨(hread w).symm ▸ h.1, ?_⟩
  rw [hread, hread, cell.read_write]
  exact h.2

end Ledger

variable [DecidableEq κ] (view : W → κ → Option β) (access : Ev → Access κ β)

def Access.written (key : κ) : Access κ β → Option β
  | wrote k b => if k = key then some b else none
  | _ => none

def lastWrite (key : κ) (t : List Ev) : Option β :=
  (t.filterMap fun e => (access e).written key).getLast?

def dictionary : Ledger W Ev (κ → Option β) where
  read := view
  observe s e :=
    match access e with
    | .wrote key b => Function.update s key (some b)
    | _ => s
  Fit s e :=
    match access e with
    | .found key answer => answer = s key
    | _ => True

variable {view access}

@[simp] lemma lastWrite_nil (key : κ) : lastWrite access key [] = none := rfl

lemma lastWrite_append (key : κ) (t u : List Ev) :
    lastWrite access key (t ++ u) = (lastWrite access key u).or (lastWrite access key t) := by
  simp [lastWrite, List.filterMap_append, List.getLast?_append]

lemma dictionary_idle {e : Ev} (h : access e = .other) : (dictionary view access).Idle e := by
  intro s
  simp [dictionary, h]

lemma observe_dictionary (s : κ → Option β) (e : Ev) (key : κ) :
    (dictionary view access).observe s e key = ((access e).written key).or (s key) := by
  simp only [dictionary]
  cases access e with
  | wrote k b =>
    by_cases h : k = key
    · subst h
      simp [Access.written]
    · simp [Access.written, h, Function.update_of_ne (Ne.symm h)]
  | _ => rfl

lemma foldl_dictionary (t : List Ev) (s : κ → Option β) (key : κ) :
    t.foldl (dictionary view access).observe s key = (lastWrite access key t).or (s key) := by
  induction t generalizing s with
  | nil => rfl
  | cons e t ih =>
    rw [List.foldl_cons, ih, observe_dictionary, ← Option.or_assoc]
    congr 1
    rw [← List.singleton_append, lastWrite_append]
    cases h : (access e).written key <;> simp [lastWrite, h]

variable {m : Traced W Ev ε α}

theorem Ledger.Kept.view_eq (h : (dictionary view access).Kept m) (w : W) (key : κ) :
    view (m.run w).world key = (lastWrite access key (m.run w).trace).or (view w key) := by
  rw [← foldl_dictionary]
  exact congrFun (h w).2 key

theorem Ledger.Kept.found_eq (h : (dictionary view access).Kept m) {w : W} {pre post : List Ev}
    {e : Ev} {key : κ} {answer : Option β} (ht : (m.run w).trace = pre ++ e :: post)
    (he : access e = .found key answer) :
    answer = (lastWrite access key pre).or (view w key) := by
  have hfit : (dictionary view access).Fit
      (pre.foldl (dictionary view access).observe (view w)) e := (h w).1.fits ht
  have hanswer : answer = pre.foldl (dictionary view access).observe (view w) key := by
    simpa only [dictionary, he] using hfit
  rw [hanswer, foldl_dictionary]

end GreenticDw

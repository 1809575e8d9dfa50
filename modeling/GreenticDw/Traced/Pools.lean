import Mathlib.Tactic

/-! Tasks that run side by side and share nothing but what they put out. -/

namespace GreenticDw

variable {T A O : Type}

abbrev TaskMachine (T A O : Type) : Type := T → A → Option (T × List O)

def TaskMachine.run (m : TaskMachine T A O) : T → List A → Option (T × List O)
  | t, [] => some (t, [])
  | t, a :: as => do
    let (t', os) ← m t a
    let (t'', os') ← TaskMachine.run m t' as
    pure (t'', os ++ os')

/-- The tasks, numbered as they were spawned, and everything put out so far with the number of the
task that did. -/
structure Pool (T O : Type) where
  tasks : List T
  outputs : List (ℕ × O)

inductive PoolAction (T A : Type) where
  | spawn (task : T)
  | act (task : ℕ) (action : A)

namespace Pool

def empty : Pool T O := ⟨[], []⟩

def step (m : TaskMachine T A O) (p : Pool T O) : PoolAction T A → Option (Pool T O)
  | .spawn t => some ⟨p.tasks ++ [t], p.outputs⟩
  | .act i a => do
    let t ← p.tasks[i]?
    let (t', os) ← m t a
    pure ⟨p.tasks.set i t', p.outputs ++ os.map (i, ·)⟩

def run (m : TaskMachine T A O) (p : Pool T O) (as : List (PoolAction T A)) : Option (Pool T O) :=
  as.foldlM (step m) p

def outputsOf (i : ℕ) (p : Pool T O) : List O :=
  p.outputs.filterMap fun output => if output.1 = i then some output.2 else none

end Pool

namespace PoolAction

def spawned : PoolAction T A → Option T
  | spawn t => some t
  | act _ _ => none

def actionOf (i : ℕ) : PoolAction T A → Option A
  | spawn _ => none
  | act j a => if j = i then some a else none

end PoolAction

variable {m : TaskMachine T A O}

namespace TaskMachine

lemma run_append {t t' t'' : T} {as bs : List A} {os os' : List O} (h : m.run t as = some (t', os))
    (h' : m.run t' bs = some (t'', os')) : m.run t (as ++ bs) = some (t'', os ++ os') := by
  induction as generalizing t os with
  | nil =>
    obtain ⟨rfl, rfl⟩ := Prod.mk.inj (Option.some.inj h)
    exact h'
  | cons a as ih =>
    simp only [run, Option.bind_eq_bind, Option.bind_eq_some_iff, Option.pure_def, Option.some.injEq,
      Prod.exists, Prod.mk.injEq, List.cons_append] at h ⊢
    obtain ⟨u, o, hstep, u', o', hrun, rfl, rfl⟩ := h
    exact ⟨u, o, hstep, t'', o' ++ os', ih hrun, rfl, by rw [List.append_assoc]⟩

lemma run_singleton (t : T) (a : A) : m.run t [a] = m t a := by
  cases h : m t a <;> simp [run, h]

lemma run_last {t t' : T} {a : A} {as : List A} {os : List O} (h : m.run t as = some (t', os))
    (ha : a ∈ as) (hlast : ∀ u u' o b, m u a = some (u', o) → m u' b = none) :
    ∃ u o, m u a = some (t', o) := by
  induction as generalizing t os with
  | nil => cases ha
  | cons b as ih =>
    simp only [run, Option.bind_eq_bind, Option.bind_eq_some_iff, Option.pure_def, Option.some.injEq,
      Prod.exists, Prod.mk.injEq] at h
    obtain ⟨u, o, hs, u', o', hrun, rfl, rfl⟩ := h
    rcases List.mem_cons.mp ha with rfl | ha
    · cases as with
      | nil =>
        obtain ⟨rfl, rfl⟩ := Prod.mk.inj (Option.some.inj hrun)
        exact ⟨t, o, hs⟩
      | cons c as => simp [run, hlast _ _ _ c hs] at hrun
    · exact ih hrun ha

theorem run_invariant {Good : T → List A → List O → Prop}
    (hstep : ∀ t as os a t' os', Good t as os → m t a = some (t', os') →
      Good t' (as ++ [a]) (os ++ os'))
    {t t' : T} {as bs : List A} {os os' : List O} (ht : Good t as os)
    (h : m.run t bs = some (t', os')) : Good t' (as ++ bs) (os ++ os') := by
  induction bs generalizing t as os os' with
  | nil =>
    obtain ⟨rfl, rfl⟩ := Prod.mk.inj (Option.some.inj h)
    rwa [List.append_nil, List.append_nil]
  | cons b bs ih =>
    simp only [run, Option.bind_eq_bind, Option.bind_eq_some_iff, Option.pure_def, Option.some.injEq,
      Prod.exists, Prod.mk.injEq] at h
    obtain ⟨u, o, hs, u', o', hrun, rfl, rfl⟩ := h
    have hrest := ih (hstep t as os b u o ht hs) hrun
    rwa [List.append_assoc, List.append_assoc] at hrest

end TaskMachine

namespace Pool

variable {p p' : Pool T O} {as : List (PoolAction T A)}

lemma run_concat (a : PoolAction T A) :
    run m p (as ++ [a]) = (run m p as).bind fun p' => step m p' a := by
  simp [run, List.foldlM_append]

lemma outputsOf_append (i j : ℕ) (tasks tasks' : List T) (outputs : List (ℕ × O)) (os : List O) :
    outputsOf i ⟨tasks', outputs ++ os.map (j, ·)⟩ =
      outputsOf i ⟨tasks, outputs⟩ ++ if j = i then os else [] := by
  by_cases h : j = i <;> simp [outputsOf, List.filterMap_append, List.filterMap_map, h]

lemma step_cases {a : PoolAction T A} (h : step m p a = some p') :
    (∃ t, a = .spawn t ∧ p' = ⟨p.tasks ++ [t], p.outputs⟩) ∨
    ∃ i b t t' os, a = .act i b ∧ p.tasks[i]? = some t ∧ m t b = some (t', os) ∧
      p' = ⟨p.tasks.set i t', p.outputs ++ os.map (i, ·)⟩ := by
  cases a with
  | spawn t => exact .inl ⟨t, rfl, (Option.some.inj h).symm⟩
  | act i b =>
    simp only [step, Option.bind_eq_bind, Option.bind_eq_some_iff, Option.pure_def,
      Option.some.injEq, Prod.exists] at h
    obtain ⟨t, ht, t', os, hm, rfl⟩ := h
    exact .inr ⟨i, b, t, t', os, rfl, ht, hm, rfl⟩

structure Projects (m : TaskMachine T A O) (as : List (PoolAction T A)) (p : Pool T O) : Prop where
  length : p.tasks.length = (as.filterMap PoolAction.spawned).length
  fresh : ∀ i, p.tasks.length ≤ i →
    as.filterMap (PoolAction.actionOf i) = [] ∧ p.outputsOf i = []
  task : ∀ i t, (as.filterMap PoolAction.spawned)[i]? = some t →
    ∃ t', p.tasks[i]? = some t' ∧
      m.run t (as.filterMap (PoolAction.actionOf i)) = some (t', p.outputsOf i)

lemma Projects.spawn (h : Projects m as p) (t : T) :
    Projects m (as ++ [.spawn t]) ⟨p.tasks ++ [t], p.outputs⟩ := by
  have hactions : ∀ i, (as ++ [PoolAction.spawn t]).filterMap (PoolAction.actionOf i) =
      as.filterMap (PoolAction.actionOf i) := by
    intro i
    simp [List.filterMap_append, PoolAction.actionOf]
  have hspawned : (as ++ [PoolAction.spawn t]).filterMap PoolAction.spawned =
      as.filterMap PoolAction.spawned ++ [t] := by
    simp [List.filterMap_append, PoolAction.spawned]
  refine ⟨by simp [hspawned, h.length], fun i hi => ?_, fun i t₀ ht => ?_⟩
  · rw [hactions]
    simp only [List.length_append, List.length_singleton] at hi
    exact h.fresh i (by omega)
  · rw [hspawned] at ht
    rw [hactions]
    by_cases hi : i < p.tasks.length
    · rw [List.getElem?_append_left (h.length ▸ hi)] at ht
      obtain ⟨t', ht', hrun⟩ := h.task i t₀ ht
      exact ⟨t', by rw [List.getElem?_append_left hi, ht'], hrun⟩
    · obtain ⟨hnone, hout⟩ := h.fresh i (by omega)
      have hlen : i < (as.filterMap PoolAction.spawned ++ [t]).length :=
        (List.getElem?_eq_some_iff.mp ht).1
      rw [List.length_append, ← h.length, List.length_singleton] at hlen
      obtain rfl : i = p.tasks.length := by omega
      rw [List.getElem?_append_right (by rw [h.length]), ← h.length, Nat.sub_self] at ht
      obtain rfl := Option.some.inj ht
      refine ⟨t, by simp, ?_⟩
      rw [hnone]
      exact congrArg (fun os => some (t, os)) hout.symm

lemma Projects.act (h : Projects m as p) {i : ℕ} {a : A} {t t' : T} {os : List O}
    (ht : p.tasks[i]? = some t) (hm : m t a = some (t', os)) :
    Projects m (as ++ [.act i a]) ⟨p.tasks.set i t', p.outputs ++ os.map (i, ·)⟩ := by
  have hi : i < p.tasks.length := (List.getElem?_eq_some_iff.mp ht).1
  have hactions : ∀ j, (as ++ [PoolAction.act i a]).filterMap (PoolAction.actionOf j) =
      as.filterMap (PoolAction.actionOf j) ++ if i = j then [a] else [] := by
    intro j
    by_cases hij : i = j <;> simp [List.filterMap_append, PoolAction.actionOf, hij]
  have hspawned : (as ++ [PoolAction.act i a]).filterMap PoolAction.spawned =
      as.filterMap PoolAction.spawned := by
    simp [List.filterMap_append, PoolAction.spawned]
  refine ⟨by simp [hspawned, h.length], fun j hj => ?_, fun j t₀ ht₀ => ?_⟩
  · rw [List.length_set] at hj
    rw [hactions, outputsOf_append j i p.tasks, if_neg (by omega), if_neg (by omega),
      List.append_nil, List.append_nil]
    exact h.fresh j hj
  · rw [hspawned] at ht₀
    obtain ⟨u, hu, hrun⟩ := h.task j t₀ ht₀
    rw [hactions, outputsOf_append j i p.tasks]
    by_cases hij : i = j
    · subst hij
      obtain rfl := Option.some.inj (ht.symm.trans hu)
      refine ⟨t', by simp [hi], ?_⟩
      rw [if_pos rfl, if_pos rfl]
      exact TaskMachine.run_append hrun ((TaskMachine.run_singleton t a).trans hm)
    · refine ⟨u, by rw [List.getElem?_set_ne hij, hu], ?_⟩
      rw [if_neg hij, if_neg hij, List.append_nil, List.append_nil]
      exact hrun

theorem run_projects (h : run m empty as = some p) : Projects m as p := by
  induction as using List.reverseRecOn generalizing p with
  | nil =>
    obtain rfl := Option.some.inj h
    exact ⟨rfl, fun _ _ => ⟨rfl, rfl⟩, fun _ _ ht => nomatch ht⟩
  | append_singleton as a ih =>
    rw [run_concat, Option.bind_eq_some_iff] at h
    obtain ⟨q, hq, hs⟩ := h
    rcases step_cases hs with ⟨t, rfl, rfl⟩ | ⟨i, b, t, t', os, rfl, ht, hm, rfl⟩
    · exact (ih hq).spawn t
    · exact (ih hq).act ht hm

theorem run_act {i : ℕ} {t t' : T} {bs : List A} {os : List O} (ht : p.tasks[i]? = some t)
    (hm : m.run t bs = some (t', os)) :
    run m p (bs.map (.act i)) = some ⟨p.tasks.set i t', p.outputs ++ os.map (i, ·)⟩ := by
  have hi : i < p.tasks.length := (List.getElem?_eq_some_iff.mp ht).1
  induction bs generalizing p t os with
  | nil =>
    obtain ⟨rfl, rfl⟩ := Prod.mk.inj (Option.some.inj hm)
    obtain ⟨_, rfl⟩ := List.getElem?_eq_some_iff.mp ht
    simp [run]
  | cons b bs ih =>
    simp only [TaskMachine.run, Option.bind_eq_bind, Option.bind_eq_some_iff, Option.pure_def,
      Option.some.injEq, Prod.exists, Prod.mk.injEq] at hm
    obtain ⟨u, o, hs, u', o', hrun, rfl, rfl⟩ := hm
    have hstep : step m p (.act i b) = some ⟨p.tasks.set i u, p.outputs ++ o.map (i, ·)⟩ := by
      simp [step, ht, hs]
    have hrest := ih (p := ⟨p.tasks.set i u, p.outputs ++ o.map (i, ·)⟩) (by simp [hi]) hrun
      (by simpa using hi)
    simp only [run] at hrest
    simp [run, hstep, hrest]

end Pool

end GreenticDw

import GreenticDw.Files.Paths

/-! How far a path climbs above where it starts, and whether it comes back to stay below. -/

namespace GreenticDw.Files

structure Climb where
  levels : ℕ
  names : List Name
  deriving DecidableEq

def Climb.next (climb : Climb) : Component → Climb
  | .rootDir | .curDir => climb
  | .normal name => { climb with names := climb.names ++ [name] }
  | .parentDir =>
    if climb.names = [] then { climb with levels := climb.levels + 1 }
    else { climb with names := climb.names.dropLast }

def Climb.within (climb : Climb) (directory : Name) : Climb :=
  match climb.levels with
  | 0 => ⟨0, directory :: climb.names⟩
  | levels + 1 => ⟨levels, climb.names⟩

def climbOf (components : List Component) : Climb := components.foldl Climb.next ⟨0, []⟩

def Climb.from (climb : Climb) (location : Location) : Location :=
  location.rdrop climb.levels ++ climb.names

def Climb.Returns (climb : Climb) (location : Location) : Prop :=
  location.rtake climb.levels <+: climb.names

instance (climb : Climb) (location : Location) : Decidable (climb.Returns location) :=
  inferInstanceAs (Decidable (_ <+: _))

/-- Where `path` leads, links aside, is below where `base` leads. -/
def Below (cwd : Location) (base path : PathBuf) : Prop :=
  walk cwd (components base) <+: walk cwd (components path)

instance (cwd : Location) (base path : PathBuf) : Decidable (Below cwd base path) :=
  inferInstanceAs (Decidable (_ <+: _))

variable {location cwd : Location} {climb : Climb} {cs : List Component} {base path : PathBuf}
  {name : Name}

lemma dropLast_rdrop (location : Location) (n : ℕ) :
    (location.rdrop n).dropLast = location.rdrop (n + 1) := by
  rw [List.rdrop, List.rdrop, List.dropLast_eq_take, List.take_take, List.length_take]
  congr 1
  omega

lemma rdrop_append_rtake (location : Location) (n : ℕ) :
    location.rdrop n ++ location.rtake n = location :=
  List.take_append_drop _ _

lemma step_from {c : Component} (h : c ≠ .rootDir) :
    step (climb.from location) c = (climb.next c).from location := by
  cases c with
  | rootDir => exact absurd rfl h
  | curDir => rfl
  | normal name => exact List.append_assoc _ _ _
  | parentDir =>
    rw [Climb.next]
    split_ifs with hnames
    · rw [step, Climb.from, hnames, List.append_nil, dropLast_rdrop]
      simp [Climb.from]
    · exact List.dropLast_append_of_ne_nil hnames

lemma walk_from (h : .rootDir ∉ cs) :
    walk (climb.from location) cs = (cs.foldl Climb.next climb).from location := by
  induction cs generalizing climb with
  | nil => rfl
  | cons c cs ih =>
    rw [List.mem_cons, not_or] at h
    rw [walk, List.foldl_cons, step_from (Ne.symm h.1)]
    exact ih h.2

theorem walk_climb (h : .rootDir ∉ cs) (location : Location) :
    walk location cs = (climbOf cs).from location := by
  have hstart : (⟨0, []⟩ : Climb).from location = location := by simp [Climb.from]
  rw [climbOf, ← walk_from h, hstart]

lemma prefix_from_iff : location <+: climb.from location ↔ climb.Returns location := by
  rw [Climb.from, Climb.Returns]
  nth_rewrite 1 [← rdrop_append_rtake location climb.levels]
  exact List.prefix_append_right_inj _

lemma rootDir_notMem_body (ps : List (List Char)) : .rootDir ∉ body ps := by
  intro h
  rcases mem_body h with hp | ⟨name, hn⟩
  · cases hp
  · cases hn

theorem below_join (h : ¬ isAbsolute path) : Below cwd base (join base path) ↔
    (climbOf (body (pieces path))).Returns (walk cwd (components base)) := by
  rw [Below, walk_join, walk_start _ path, if_neg h, walk_climb (rootDir_notMem_body _),
    prefix_from_iff]

theorem below_join_of_isAbsolute (h : isAbsolute path) : Below cwd base (join base path) ↔
    walk cwd (components base) <+: (climbOf (body (pieces path))).names := by
  rw [Below, walk_join, walk_start _ path, if_pos h, walk_climb (rootDir_notMem_body _),
    Climb.from, List.rdrop_nil, List.nil_append]

lemma isAbsolute_iff : isAbsolute path ↔ path.toList.head? = some '/' := by
  rw [isAbsolute, start, pieces]
  cases path.toList with
  | nil => decide
  | cons c cs =>
    rw [List.splitOn_cons_eq_if_modifyHead]
    split_ifs with hc
    · simp [startOf, beq_iff_eq.mp hc]
    · obtain ⟨piece, rest, hsplit⟩ := List.exists_cons_of_ne_nil (List.splitOn_ne_nil '/' cs)
      have hne : c ≠ '/' := by simpa using hc
      rw [hsplit, List.modifyHead_cons, startOf, if_neg (by simp)]
      split_ifs <;> simp [hne]

lemma pieces_append_of_notMem {suffix : String} (h : '/' ∉ suffix.toList) (path : PathBuf) :
    pieces (path ++ suffix) = (pieces path).dropLast ++
      [(pieces path).getLast (pieces_ne_nil path) ++ suffix.toList] := by
  have hintercalate : ∀ (front : List (List Char)) (last more : List Char),
      ['/'].intercalate (front ++ [last ++ more]) =
        ['/'].intercalate (front ++ [last]) ++ more := by
    intro front last more
    induction front with
    | nil => simp
    | cons piece front ih =>
      rw [List.cons_append, List.cons_append, List.intercalate_cons_of_ne_nil (by simp),
        List.intercalate_cons_of_ne_nil (by simp), ih]
      simp only [List.append_assoc]
  have hpath : ['/'].intercalate
      ((pieces path).dropLast ++ [(pieces path).getLast (pieces_ne_nil path)]) = path.toList := by
    rw [List.dropLast_append_getLast]
    exact List.intercalate_splitOn '/'
  rw [pieces, String.toList_append, ← hpath, ← hintercalate, List.splitOn_intercalate]
  · rintro piece hm
    rcases List.mem_append.mp hm with hfront | hlast
    · exact not_mem_of_mem_splitOn piece (List.mem_of_mem_dropLast hfront)
    · rw [List.mem_singleton.mp hlast, List.mem_append, not_or]
      exact ⟨not_mem_of_mem_splitOn _ (List.getLast_mem _), h⟩
  · simp

lemma climbOf_concat (cs : List Component) (name : Name) :
    climbOf (cs ++ [.normal name]) = { climbOf cs with names := (climbOf cs).names ++ [name] } := by
  rw [climbOf, List.foldl_append]
  rfl

lemma next_within {c : Component} (directory : Name) :
    (climb.within directory).next c = (climb.next c).within directory := by
  obtain ⟨levels, names⟩ := climb
  cases c with
  | rootDir | curDir => rfl
  | normal name => cases levels <;> rfl
  | parentDir => cases levels <;> cases names <;> rfl

theorem climbOf_cons (directory : Name) (cs : List Component) :
    climbOf (.normal directory :: cs) = (climbOf cs).within directory := by
  have hfoldl : ∀ climb : Climb, cs.foldl Climb.next (climb.within directory) =
      (cs.foldl Climb.next climb).within directory := by
    induction cs with
    | nil => exact fun _ => rfl
    | cons c cs ih =>
      intro climb
      rw [List.foldl_cons, List.foldl_cons, next_within, ih]
  exact hfoldl ⟨0, []⟩

lemma returns_within {directory : Name} : (climb.within directory).Returns location ↔
    location.rtake (climb.levels - 1) <+: climb.names := by
  obtain ⟨levels, names⟩ := climb
  cases levels <;> simp [Climb.Returns, Climb.within]

end GreenticDw.Files

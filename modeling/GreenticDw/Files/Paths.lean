import Mathlib.Data.List.DropRight
import Mathlib.Tactic

/-! Paths as texts: the components of a path, its parent, joining, and the lexical walk that a path
describes. -/

namespace GreenticDw.Files

abbrev PathBuf := String

def IsName (s : List Char) : Prop := s ≠ [] ∧ s ≠ ['.'] ∧ s ≠ ['.', '.'] ∧ '/' ∉ s

instance : DecidablePred IsName := fun _ => inferInstanceAs (Decidable (_ ∧ _ ∧ _ ∧ _))

structure Name where
  text : String
  isName : IsName text.toList
  deriving DecidableEq

inductive Component where
  | rootDir
  | curDir
  | parentDir
  | normal (name : Name)
  deriving DecidableEq

inductive Start where
  | root
  | here
  | bare
  deriving DecidableEq

def Start.components : Start → List Component
  | root => [.rootDir]
  | here => [.curDir]
  | bare => []

def Start.text : Start → PathBuf
  | root => "/"
  | here => "."
  | bare => ""

def componentOf (piece : List Char) : Option Component :=
  if h : IsName piece then some (.normal ⟨String.ofList piece, by rwa [String.toList_ofList]⟩)
  else if piece = ['.', '.'] then some .parentDir
  else none

def startOf : List (List Char) → Start
  | [] => .bare
  | piece :: rest =>
    if piece = [] ∧ rest ≠ [] then .root
    else if piece = ['.'] then .here
    else .bare

def pieces (path : PathBuf) : List (List Char) := path.toList.splitOn '/'

def start (path : PathBuf) : Start := startOf (pieces path)

def body (ps : List (List Char)) : List Component := ps.filterMap componentOf

def components (path : PathBuf) : List Component := (start path).components ++ body (pieces path)

def isAbsolute (path : PathBuf) : Prop := start path = .root

instance : DecidablePred isAbsolute := fun path => inferInstanceAs (Decidable (start path = .root))

def idle (piece : List Char) : Bool := (componentOf piece).isNone

def parent (path : PathBuf) : Option PathBuf :=
  let ps := (pieces path).rdropWhile idle
  let qs := ps.dropLast.rdropWhile idle
  if ps = [] then if start path = .here then some "" else none
  else if qs = [] then some (start path).text
  else some (String.ofList (['/'].intercalate qs))

def fileName (path : PathBuf) : Option Name :=
  match (components path).getLast? with
  | some (.normal name) => some name
  | _ => none

def startsWith (path base : PathBuf) : Bool := (components base).isPrefixOf (components path)

def join (base path : PathBuf) : PathBuf :=
  if isAbsolute path then path
  else if base = "" ∨ base.toList.getLast? = some '/' then base ++ path
  else base ++ "/" ++ path

def pop (path : PathBuf) : PathBuf := (parent path).getD path

abbrev Location := List Name

def Location.path (location : Location) : PathBuf :=
  String.ofList ('/' :: ['/'].intercalate (location.map fun name => name.text.toList))

def step (location : Location) : Component → Location
  | .rootDir => []
  | .curDir => location
  | .parentDir => location.dropLast
  | .normal name => location ++ [name]

def walk (location : Location) (components : List Component) : Location :=
  components.foldl step location

lemma not_mem_of_mem_splitOn {s : List Char} : ∀ piece ∈ s.splitOn '/', '/' ∉ piece := by
  induction s with
  | nil => simp
  | cons c cs ih =>
    rw [List.splitOn_cons_eq_if_modifyHead]
    split_ifs with hc
    · simpa using ih
    · have hc' : c ≠ '/' := by simpa using hc
      intro piece hm
      cases hs : cs.splitOn '/' with
      | nil => exact absurd hs (List.splitOn_ne_nil _ _)
      | cons head tail =>
        rw [hs] at hm ih
        rcases List.mem_cons.mp hm with rfl | ht
        · simpa [hc'.symm] using ih head List.mem_cons_self
        · exact ih piece (List.mem_cons_of_mem _ ht)

variable {path base q : PathBuf} {location : Location} {ps qs : List (List Char)}

lemma pieces_ne_nil (path : PathBuf) : pieces path ≠ [] := List.splitOn_ne_nil _ _

lemma pieces_ofList_intercalate (h : qs ≠ []) (hs : ∀ piece ∈ qs, '/' ∉ piece) :
    pieces (String.ofList (['/'].intercalate qs)) = qs := by
  rw [pieces, String.toList_ofList, List.splitOn_intercalate _ hs h]

lemma pieces_eq_singleton_nil : pieces path = [[]] ↔ path = "" := by
  constructor
  · intro h
    have hs : ['/'].intercalate (path.toList.splitOn '/') = path.toList :=
      List.intercalate_splitOn '/'
    rw [pieces] at h
    rw [h] at hs
    exact String.toList_inj.mp hs.symm
  · rintro rfl
    rfl

lemma pieces_append_sep (base path : PathBuf) :
    pieces (base ++ "/" ++ path) = pieces base ++ pieces path := by
  have h : (base ++ "/" ++ path).toList = base.toList ++ '/' :: path.toList := by
    rw [String.toList_append, String.toList_append, List.append_assoc]
    rfl
  rw [pieces, h, List.splitOn_append_cons_self]
  rfl

@[simp] lemma body_append (ps qs : List (List Char)) : body (ps ++ qs) = body ps ++ body qs :=
  List.filterMap_append

lemma body_rdropWhile (ps : List (List Char)) : body (ps.rdropWhile idle) = body ps := by
  induction ps using List.reverseRecOn with
  | nil => rfl
  | append_singleton ps piece ih =>
    cases hi : idle piece with
    | true =>
      have hnone : componentOf piece = none := Option.isNone_iff_eq_none.mp hi
      rw [List.rdropWhile_concat_pos _ _ _ hi, ih, body_append, body, body, List.filterMap_cons, hnone]
      simp
    | false => rw [List.rdropWhile_concat_neg _ _ _ (by simp [hi])]

lemma startOf_append (h : ps ≠ [[]]) (hne : ps ≠ []) : startOf (ps ++ qs) = startOf ps := by
  rcases ps with _ | ⟨piece, rest⟩
  · exact absurd rfl hne
  · by_cases hp : piece = []
    · have hrest : rest ≠ [] := fun hr => h (by rw [hp, hr])
      simp [startOf, hp, hrest]
    · simp [startOf, hp]

lemma pieces_append_of_trailing (h : base.toList.getLast? = some '/') :
    ∃ ps, ps ≠ [] ∧ pieces base = ps ++ [[]] ∧ ∀ path, pieces (base ++ path) = ps ++ pieces path := by
  have hbase : base.toList = base.toList.dropLast ++ ['/'] :=
    (List.dropLast_append_getLast? '/' h).symm
  refine ⟨base.toList.dropLast.splitOn '/', List.splitOn_ne_nil _ _, ?_, fun path => ?_⟩
  · rw [pieces, hbase, List.splitOn_append_cons_self, ← hbase]
    rfl
  · rw [pieces, String.toList_append, hbase, List.append_assoc, List.singleton_append,
      List.splitOn_append_cons_self, ← hbase]
    rfl

lemma start_join (h : base ≠ "") (hp : ¬ isAbsolute path) : start (join base path) = start base ∧
    body (pieces (join base path)) = body (pieces base) ++ body (pieces path) := by
  have hbase : pieces base ≠ [[]] := fun hb => h (pieces_eq_singleton_nil.mp hb)
  rw [join, if_neg hp]
  split_ifs with hsep
  · obtain ⟨ps, hps, hold, hnew⟩ := pieces_append_of_trailing ((or_iff_right h).mp hsep)
    constructor
    · rw [start, start, hnew, hold]
      by_cases hs : ps = [[]]
      · simp [hs, startOf, pieces_ne_nil]
      · rw [startOf_append hs hps, startOf_append hs hps]
    · rw [hnew, hold, body_append, body_append]
      simp [body, componentOf, IsName]
  · rw [start, start, pieces_append_sep, body_append]
    exact ⟨startOf_append hbase (pieces_ne_nil base), rfl⟩

lemma join_empty (path : PathBuf) : join "" path = path := by
  rw [join]
  split_ifs with h h'
  · rfl
  · rw [String.empty_append]
  · exact absurd (Or.inl rfl) h'

@[simp] lemma walk_append (location : Location) (cs ds : List Component) :
    walk location (cs ++ ds) = walk (walk location cs) ds := List.foldl_append

lemma walk_start (location : Location) (path : PathBuf) :
    walk location (components path) =
      walk (if isAbsolute path then [] else location) (body (pieces path)) := by
  rw [components, walk_append]
  cases hs : start path <;> simp [isAbsolute, hs, Start.components, walk, step]

lemma isAbsolute_join (base path : PathBuf) :
    isAbsolute (join base path) ↔ isAbsolute base ∨ isAbsolute path := by
  by_cases hp : isAbsolute path
  · simp [join, hp]
  · rw [or_iff_left hp]
    by_cases hb : base = ""
    · have hempty : ¬ isAbsolute "" := by decide
      rw [hb, join_empty]
      exact iff_of_false hp hempty
    · rw [isAbsolute, isAbsolute, (start_join hb hp).1]

theorem walk_join (location : Location) (base path : PathBuf) :
    walk location (components (join base path)) =
      walk (walk location (components base)) (components path) := by
  by_cases hp : isAbsolute path
  · rw [join, if_pos hp, walk_start, walk_start, if_pos hp, if_pos hp]
  · by_cases hb : base = ""
    · rw [hb, join_empty]
      rfl
    · have habs : isAbsolute (join base path) ↔ isAbsolute base := by
        rw [isAbsolute_join, or_iff_left hp]
      simp only [walk_start, habs, if_neg hp, (start_join hb hp).2, walk_append]

lemma componentOf_cases (piece : List Char) : componentOf piece = none ∨
    componentOf piece = some .parentDir ∨ ∃ name, componentOf piece = some (.normal name) := by
  rw [componentOf]
  split_ifs
  · exact Or.inr (Or.inr ⟨_, rfl⟩)
  · exact Or.inr (Or.inl rfl)
  · exact Or.inl rfl

lemma mem_body {c : Component} (h : c ∈ body ps) : c = .parentDir ∨ ∃ name, c = .normal name := by
  obtain ⟨piece, -, hpiece⟩ := List.mem_filterMap.mp h
  rcases componentOf_cases piece with hn | hp | ⟨name, hn⟩
  · exact absurd (hn.symm.trans hpiece) (by simp)
  · exact Or.inl (Option.some.inj (hpiece.symm.trans hp))
  · exact Or.inr ⟨name, Option.some.inj (hpiece.symm.trans hn)⟩

lemma componentOf_name (name : Name) : componentOf name.text.toList = some (.normal name) := by
  rw [componentOf, dif_pos name.isName]
  simp

lemma pieces_name (name : Name) : pieces name.text = [name.text.toList] :=
  List.splitOn_eq_singleton name.isName.2.2.2

lemma start_name (name : Name) : start name.text = .bare := by
  rw [start, pieces_name, startOf, if_neg (fun h => name.isName.1 h.1), if_neg name.isName.2.1]

lemma pieces_join_name (h : base ≠ "") (name : Name) : ∃ ps,
    pieces (join base name.text) = ps ++ [name.text.toList] ∧ body ps = body (pieces base) := by
  rw [join, if_neg (by simp [isAbsolute, start_name])]
  split_ifs with hsep
  · obtain ⟨ps, -, hold, hnew⟩ := pieces_append_of_trailing ((or_iff_right h).mp hsep)
    refine ⟨ps, by rw [hnew, pieces_name], ?_⟩
    rw [hold, body_append]
    simp [body, componentOf, IsName]
  · exact ⟨pieces base, by rw [pieces_append_sep, pieces_name], rfl⟩

lemma rdropWhile_idle_cases (ps : List (List Char)) :
    ps.rdropWhile idle = [] ∧ body ps = [] ∨
      ∃ front last c, ps.rdropWhile idle = front ++ [last] ∧ componentOf last = some c ∧
        body ps = body front ++ [c] := by
  rcases List.eq_nil_or_concat' (ps.rdropWhile idle) with hnil | ⟨front, last, hlast⟩
  · left
    rw [← body_rdropWhile, hnil]
    exact ⟨rfl, rfl⟩
  · right
    have hbusy := List.rdropWhile_last_not idle ps (by simp [hlast])
    simp only [hlast, List.getLast_append_singleton, idle, Option.isNone_iff_eq_none] at hbusy
    obtain ⟨c, hc⟩ := Option.ne_none_iff_exists'.mp hbusy
    apply Exists.intro front
    refine ⟨last, c, hlast, hc, ?_⟩
    rw [← body_rdropWhile, hlast, body_append]
    simp [body, hc]

lemma startOf_prefix {front : List (List Char)} {last : List Char} {c : Component}
    (h : front ++ [last] <+: ps) (hc : componentOf last = some c) :
    startOf (front ++ [last]) = startOf ps := by
  obtain ⟨rest, rfl⟩ := h
  have hne : front ++ [last] ≠ [[]] := by
    intro hnil
    have hlast : last = [] := (List.append_eq_singleton_iff.mp hnil).elim
      (fun h => by simpa using h.2) (fun h => absurd h.2 (by simp))
    simp [hlast, componentOf, IsName] at hc
  rw [startOf_append hne (by simp)]

lemma parent_cases (h : parent path = some q) :
    start path = .here ∧ body (pieces path) = [] ∧ q = "" ∨
      ∃ front c, front <+: pieces path ∧ body (pieces path) = body front ++ [c] ∧
        (body front = [] ∧ q = (start path).text ∨
          pieces q <+: pieces path ∧ body (pieces q) = body front ∧ start q = start path) := by
  rcases rdropWhile_idle_cases (pieces path) with ⟨hnil, hbody⟩ | ⟨front, last, c, hlast, hc, hbody⟩
  · left
    rw [parent, if_pos hnil] at h
    simp only [Option.ite_none_right_eq_some, Option.some.injEq] at h
    exact ⟨h.1, hbody, h.2.symm⟩
  · right
    have hne : (pieces path).rdropWhile idle ≠ [] := by simp [hlast]
    have hpre : front ++ [last] <+: pieces path := by
      rw [← hlast]
      exact List.rdropWhile_prefix _ _
    have hfront : front <+: pieces path := (List.prefix_append _ _).trans hpre
    refine ⟨front, c, hfront, hbody, ?_⟩
    rw [parent, if_neg hne, hlast, List.dropLast_concat] at h
    rcases rdropWhile_idle_cases front with ⟨hnil, hbody'⟩ | ⟨front', last', c', hlast', hc', hbody'⟩
    · left
      rw [if_pos hnil] at h
      cases h
      exact ⟨hbody', rfl⟩
    · right
      have hne' : front.rdropWhile idle ≠ [] := by simp [hlast']
      have hpre' : front' ++ [last'] <+: pieces path := by
        rw [← hlast']
        exact (List.rdropWhile_prefix _ _).trans hfront
      rw [if_neg hne'] at h
      cases h
      have hpieces : pieces (String.ofList (['/'].intercalate (front.rdropWhile idle))) =
          front' ++ [last'] := by
        rw [hlast']
        apply pieces_ofList_intercalate (by simp)
        exact fun piece hm => not_mem_of_mem_splitOn piece (hpre'.subset hm)
      rw [start, hpieces, startOf_prefix hpre' hc', ← hlast', body_rdropWhile, hlast']
      exact ⟨hpre', rfl, rfl⟩

lemma isAbsolute_parent (h : parent path = some q) : isAbsolute q ↔ isAbsolute path := by
  have htext : ∀ s : Start, start s.text = s := by
    intro s
    cases s <;> decide
  rcases parent_cases h with ⟨hstart, -, rfl⟩ | ⟨front, c, -, -, ⟨-, rfl⟩ | ⟨-, -, hstart⟩⟩
  · rw [isAbsolute, isAbsolute, hstart]
    decide
  · rw [isAbsolute, isAbsolute, htext]
  · rw [isAbsolute, isAbsolute, hstart]

lemma parent_eq_none : parent path = none ↔ body (pieces path) = [] ∧ start path ≠ .here := by
  rcases rdropWhile_idle_cases (pieces path) with ⟨hnil, hbody⟩ | ⟨front, last, c, hlast, hc, hbody⟩
  · simp [parent, hnil, hbody]
  · have hne : (pieces path).rdropWhile idle ≠ [] := by simp [hlast]
    simp only [parent, if_neg hne, hbody]
    split_ifs <;> simp

def Plain (path : PathBuf) (s : Start) (names : List Name) : Prop :=
  start path = s ∧ body (pieces path) = names.map .normal

lemma plain_text (s : Start) (hs : s ≠ .here) : Plain s.text s [] := by
  cases s with
  | here => exact absurd rfl hs
  | root => exact ⟨by decide, by decide⟩
  | bare => exact ⟨by decide, by decide⟩

lemma Plain.components {s : Start} {names : List Name} (h : Plain path s names) :
    components path = s.components ++ names.map .normal := by
  rw [Files.components, h.1, h.2]

lemma Plain.join {s : Start} {names : List Name} (h : Plain path s names) (name : Name) :
    Plain (join path name.text) s (names ++ [name]) := by
  have hname : body (pieces name.text) = [.normal name] := by
    simp [pieces_name, body, componentOf_name]
  by_cases hp : path = ""
  · subst hp
    rw [join_empty]
    obtain ⟨hs, hn⟩ := h
    have hnil : names = [] := by simpa [pieces, body, componentOf, IsName] using hn.symm
    rw [hnil]
    exact ⟨(start_name name).trans hs, hname⟩
  · have habs : ¬ isAbsolute name.text := by simp [isAbsolute, start_name]
    have hj := start_join hp habs
    rw [h.2, hname] at hj
    exact ⟨hj.1.trans h.1, by rw [hj.2, List.map_append]; rfl⟩

lemma Plain.pop {s : Start} {names : List Name} (hs : s ≠ .here) (h : Plain path s names) :
    Plain (pop path) s names.dropLast := by
  cases hq : parent path with
  | none =>
    have hnil : names = [] := by
      have hbody := (parent_eq_none.mp hq).1
      rw [h.2] at hbody
      exact List.map_eq_nil_iff.mp hbody
    rw [Files.pop, hq, hnil]
    rw [hnil] at h
    exact h
  | some q =>
    rw [Files.pop, hq]
    rcases parent_cases hq with ⟨hhere, -, -⟩ | ⟨front, c, -, hbody, hcase⟩
    · exact absurd (h.1.symm.trans hhere) hs
    · have hfront : body front = names.dropLast.map .normal := by
        rw [h.2] at hbody
        rw [List.map_dropLast, hbody, List.dropLast_concat]
      rcases hcase with ⟨hnil, rfl⟩ | ⟨-, hq, hstart⟩
      · have hnames : names.dropLast = [] := List.map_eq_nil_iff.mp (hfront.symm.trans hnil)
        rw [hnames, h.1]
        exact plain_text s hs
      · exact ⟨hstart.trans h.1, hq.trans hfront⟩

lemma plain_path (location : Location) : Plain location.path .root location := by
  have hpieces : pieces location.path =
      [] :: if location = [] then [[]] else location.map fun name => name.text.toList := by
    rw [pieces, Location.path, String.toList_ofList]
    split_ifs with h
    · rw [h]
      rfl
    · rw [List.splitOn_cons_eq_if_modifyHead, if_pos (by rfl), List.splitOn_intercalate]
      · simp only [List.mem_map, forall_exists_index, and_imp, forall_apply_eq_imp_iff₂]
        exact fun name _ => name.isName.2.2.2
      · simpa using h
  constructor
  · rw [start, hpieces, startOf, if_pos]
    split_ifs <;> simp_all
  · rw [hpieces]
    split_ifs with h
    · rw [h]
      decide
    · have hnil : componentOf [] = none := by decide
      rw [body, List.filterMap_cons, hnil, List.filterMap_map]
      have hname : (componentOf ∘ fun name : Name => name.text.toList) = some ∘ Component.normal :=
        funext componentOf_name
      rw [hname, List.filterMap_eq_map]

lemma walk_names (location : Location) (names : List Name) :
    walk location (names.map .normal) = location ++ names := by
  induction names generalizing location with
  | nil => simp [walk]
  | cons name names ih =>
    have hstep := ih (location ++ [name])
    rw [List.append_assoc] at hstep
    exact hstep

lemma Plain.startsWith {names : List Name} (h : Plain path .root names) (location : Location) :
    startsWith path location.path = true ↔ location <+: names := by
  rw [Files.startsWith, h.components, (plain_path location).components, List.isPrefixOf_iff_prefix]
  have hinj : Function.Injective Component.normal := fun _ _ h => Component.normal.inj h
  simp [Start.components, List.prefix_map_iff_of_injective hinj]

lemma Plain.walk {s : Start} {names : List Name} (h : Plain path s names) (location : Location) :
    walk location (Files.components path) = (if s = .root then [] else location) ++ names := by
  simp only [walk_start, h.2, walk_names, isAbsolute, h.1]

lemma walk_descends (hrel : ¬ isAbsolute path) (hup : .parentDir ∉ components path)
    (location : Location) :
    walk location (components path) = location ++ walk [] (components path) := by
  have hbody : ∀ c ∈ body (pieces path), ∃ name, c = .normal name := by
    intro c hc
    rcases mem_body hc with rfl | hname
    · exact absurd (List.mem_append_right _ hc) hup
    · exact hname
  obtain ⟨names, hnames⟩ : ∃ names : List Name, body (pieces path) = names.map .normal := by
    generalize body (pieces path) = cs at hbody
    induction cs with
    | nil => exact ⟨[], rfl⟩
    | cons c cs ih =>
      obtain ⟨name, rfl⟩ := hbody c List.mem_cons_self
      obtain ⟨names, rfl⟩ := ih fun d hd => hbody d (List.mem_cons_of_mem _ hd)
      exact ⟨name :: names, rfl⟩
  rw [walk_start, walk_start [], hnames, if_neg hrel, if_neg hrel, walk_names, walk_names,
    List.nil_append]

end GreenticDw.Files

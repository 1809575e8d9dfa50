import GreenticDw.Files.Paths
import GreenticDw.Traced.Checks

/-! A file system at rest, with links: which location a path names, and what reading it yields. -/

namespace GreenticDw.Files

inductive IoError where
  | notFound
  | notADirectory
  | isADirectory
  | filesystemLoop
  deriving DecidableEq, Repr

inductive Node where
  | file (contents : String)
  | directory
  /-- A link, with the location it leads to in the end. -/
  | link (target : Location)
  deriving DecidableEq

structure FileSystem where
  node : Location → Option Node
  cwd : Location
  root : node [] = some .directory

namespace FileSystem

def follow (fs : FileSystem) (location : Location) : Except IoError Location :=
  match fs.node location with
  | none => .error .notFound
  | some (.link target) =>
    match fs.node target with
    | none => .error .notFound
    | some (.link _) => .error .filesystemLoop
    | some _ => .ok target
  | some _ => .ok location

def visit (fs : FileSystem) (location : Location) (piece : List Char) : Except IoError Location :=
  if fs.node location = some .directory then
    match componentOf piece with
    | some .parentDir => .ok location.dropLast
    | some (.normal name) => fs.follow (location ++ [name])
    | _ => .ok location
  else .error .notADirectory

def origin (fs : FileSystem) (path : PathBuf) : Location := if isAbsolute path then [] else fs.cwd

def canonicalize (fs : FileSystem) (path : PathBuf) : Except IoError Location :=
  if path = "" then .error .notFound
  else (pieces path).foldlM fs.visit (fs.origin path)

def readToString (fs : FileSystem) (path : PathBuf) : Except IoError String := do
  let location ← fs.canonicalize path
  match fs.node location with
  | some (.file contents) => return contents
  | some .directory => throw .isADirectory
  | _ => throw .notFound

/-- The location that a path names when no entry is a link. -/
def place (fs : FileSystem) (path : PathBuf) : Location := walk fs.cwd (components path)

def directory (fs : FileSystem) (path : PathBuf) : Option Location :=
  match parent path with
  | none => none
  | some parent => if parent = "" then some fs.cwd else (fs.canonicalize parent).toOption

def LinkFree (fs : FileSystem) : Prop := ∀ location target, fs.node location ≠ some (.link target)

variable {fs : FileSystem} {path q : PathBuf} {location l : Location} {contents : String}

lemma readToString_ok (h : fs.readToString path = .ok contents) :
    ∃ location, fs.canonicalize path = .ok location ∧ fs.node location = some (.file contents) := by
  rw [readToString, except_bind_eq_ok] at h
  obtain ⟨location, hc, h⟩ := h
  apply Exists.intro location
  split at h
  · rename_i hnode
    cases h
    exact ⟨hc, hnode⟩
  · cases h
  · cases h

lemma directory_of_visit {piece : List Char} (h : fs.visit l piece = .ok location) :
    fs.node l = some .directory := by
  by_contra hd
  rw [visit, if_neg hd] at h
  cases h

lemma visit_idle {piece : List Char} (hd : fs.node l = some .directory)
    (hi : componentOf piece = none) : fs.visit l piece = .ok l := by
  rw [visit, if_pos hd, hi]

lemma visit_of_idle {piece : List Char} (hi : componentOf piece = none)
    (h : fs.visit l piece = .ok location) : location = l := by
  rw [visit, if_pos (directory_of_visit h), hi] at h
  exact (Except.ok.inj h).symm

lemma follow_linkFree (h : fs.LinkFree) (hf : fs.follow l = .ok location) : location = l := by
  rw [follow] at hf
  split at hf
  · cases hf
  · rename_i target htarget
    exact absurd htarget (h l target)
  · exact (Except.ok.inj hf).symm

lemma visit_linkFree {piece : List Char} (h : fs.LinkFree) (hv : fs.visit l piece = .ok location) :
    location = walk l (body [piece]) := by
  rcases componentOf_cases piece with hc | hc | ⟨name, hc⟩
  · rw [visit_of_idle hc hv]
    simp [body, hc, walk]
  · rw [visit, if_pos (directory_of_visit hv), hc] at hv
    cases hv
    simp [body, hc, walk, step]
  · rw [visit, if_pos (directory_of_visit hv), hc] at hv
    rw [follow_linkFree h hv]
    simp [body, hc, walk, step]

lemma foldlM_visit_linkFree (h : fs.LinkFree) {ps : List (List Char)}
    (hv : ps.foldlM fs.visit l = .ok location) : location = walk l (body ps) := by
  induction ps generalizing l with
  | nil => exact (Except.ok.inj hv).symm
  | cons piece ps ih =>
    obtain ⟨next, hn, hr⟩ := except_bind_eq_ok.mp hv
    rw [ih hr, visit_linkFree h hn, ← walk_append, ← body_append]
    rfl

theorem canonicalize_linkFree (h : fs.LinkFree) (hc : fs.canonicalize path = .ok location) :
    location = fs.place path := by
  rw [canonicalize] at hc
  split_ifs at hc
  rw [foldlM_visit_linkFree h hc, place, walk_start, origin]

lemma foldlM_visit_prefix {ps qs : List (List Char)} (hp : qs <+: ps)
    (h : ps.foldlM fs.visit l = .ok location) : ∃ next, qs.foldlM fs.visit l = .ok next := by
  obtain ⟨rest, rfl⟩ := hp
  rw [List.foldlM_append, except_bind_eq_ok] at h
  obtain ⟨next, hn, -⟩ := h
  exact ⟨next, hn⟩

lemma directory_origin (h : fs.canonicalize path = .ok location) :
    path ≠ "" ∧ fs.node (fs.origin path) = some .directory := by
  rw [canonicalize] at h
  split_ifs at h with hp
  refine ⟨hp, ?_⟩
  obtain ⟨piece, ps, hps⟩ := List.exists_cons_of_ne_nil (pieces_ne_nil path)
  rw [hps, List.foldlM_cons, except_bind_eq_ok] at h
  obtain ⟨next, hn, -⟩ := h
  exact directory_of_visit hn

theorem canonicalize_parent (h : fs.canonicalize path = .ok location) (hq : parent path = some q)
    (hne : q ≠ "") : ∃ next, fs.canonicalize q = .ok next := by
  obtain ⟨hp, hdir⟩ := directory_origin h
  rw [canonicalize, if_neg hp] at h
  rw [canonicalize, if_neg hne]
  rcases parent_cases hq with ⟨-, -, rfl⟩ | ⟨front, c, -, -, ⟨-, rfl⟩ | ⟨hpre, -, -⟩⟩
  · exact absurd rfl hne
  · cases hs : start path with
    | root =>
      have hroot : pieces "/" = [[], []] := by decide
      have hv : fs.visit [] [] = .ok [] := visit_idle fs.root (by decide)
      rw [Start.text, origin, if_pos (by decide), hroot, List.foldlM_cons, hv]
      exact ⟨[], except_bind_eq_ok.mpr ⟨[], rfl, except_bind_eq_ok.mpr ⟨[], hv, rfl⟩⟩⟩
    | here =>
      have hhere : pieces "." = [['.']] := by decide
      have hdot : componentOf ['.'] = none := by decide
      rw [origin, if_neg (by simp [isAbsolute, hs])] at hdir
      rw [Start.text, origin, if_neg (by decide), hhere, List.foldlM_cons]
      exact ⟨fs.cwd, except_bind_eq_ok.mpr ⟨fs.cwd, visit_idle hdir hdot, rfl⟩⟩
    | bare => exact absurd (by rw [hs]; rfl) hne
  · simp only [origin, isAbsolute_parent hq]
    exact foldlM_visit_prefix hpre h

lemma parent_of_readToString (h : fs.readToString path = .ok contents) :
    ∃ q, parent path = some q := by
  obtain ⟨location, hc, hfile⟩ := readToString_ok h
  obtain ⟨-, hdir⟩ := directory_origin hc
  by_contra hnone
  rw [← Option.ne_none_iff_exists', not_not, parent_eq_none] at hnone
  have hstay : ∀ (ps : List (List Char)) (l : Location), body ps = [] →
      ps.foldlM fs.visit l = .ok location → location = l := by
    intro ps
    induction ps with
    | nil => exact fun l _ hv => (Except.ok.inj hv).symm
    | cons piece ps ih =>
      intro l hb hv
      obtain ⟨next, hn, hr⟩ := except_bind_eq_ok.mp hv
      rw [body, List.filterMap_eq_nil_iff] at hb
      have hidle := hb piece List.mem_cons_self
      rw [visit_of_idle hidle hn] at hr
      apply ih l _ hr
      rw [body, List.filterMap_eq_nil_iff]
      exact fun p hp => hb p (List.mem_cons_of_mem _ hp)
  rw [canonicalize, if_neg (directory_origin hc).1] at hc
  rw [hstay _ _ hnone.1 hc, hdir] at hfile
  cases hfile

def nodeIn (tree : List (List String × Node)) (location : Location) : Option Node :=
  (tree.find? fun entry => entry.1 = location.map Name.text).map Prod.snd

lemma nodeIn_ne_link {tree : List (List String × Node)}
    (h : ∀ entry ∈ tree, ∀ target, entry.2 ≠ .link target) (location target : Location) :
    nodeIn tree location ≠ some (.link target) := by
  intro hn
  obtain ⟨entry, hfind, hlink⟩ := Option.map_eq_some_iff.mp hn
  exact h entry (List.mem_of_find?_eq_some hfind) target hlink

end FileSystem

end GreenticDw.Files

import GreenticDw.Files.FileSystem

/-! Writing a file and renaming it, and why neither changes where the directories are. -/

namespace GreenticDw.Files.FileSystem

def read (fs : FileSystem) (path : PathBuf) : Except IoError ByteArray :=
  (fs.readToString path).map String.toUTF8

def enter (fs : FileSystem) (location : Location) (c : Component) : Except IoError Location :=
  if fs.node location = some .directory then
    match c with
    | .rootDir | .curDir => .ok location
    | .parentDir => .ok location.dropLast
    | .normal name => fs.follow (location ++ [name])
  else .error .notADirectory

def NamesDirectory (fs : FileSystem) (path : PathBuf) (d : Location) : Prop :=
  fs.canonicalize (if path = "" then "." else path) = .ok d ∧ fs.node d = some .directory

def isDir (fs : FileSystem) (path : PathBuf) : Bool :=
  (fs.canonicalize path).toOption.any fun location => fs.node location = some .directory

def entry (fs : FileSystem) (path : PathBuf) : Except IoError Location :=
  match (pieces path).getLast?.bind componentOf with
  | some (.normal name) => do
    let d ← (pieces path).dropLast.foldlM fs.visit (fs.origin path)
    if fs.node d = some .directory then return d ++ [name] else throw .notADirectory
  | _ => throw .isADirectory

def put (fs : FileSystem) (location : Location) (node : Option Node) : FileSystem :=
  { fs with
    -- the root keeps its entry
    node := fun l => if l = location ∧ l ≠ [] then node else fs.node l
    root := by simp [fs.root] }

def rename (fs : FileSystem) (source target : PathBuf) : Except IoError FileSystem := do
  let old ← fs.entry source
  let new ← fs.entry target
  match fs.node old, fs.node new with
  | none, _ => throw .notFound
  | some .directory, _ => throw .isADirectory
  | some _, some .directory => throw .isADirectory
  | some node, _ => return (fs.put old none).put new (some node)

def LeadsTo (fs : FileSystem) (location d : Location) : Prop :=
  fs.follow location = .ok d ∧ fs.node d = some .directory

def Wrote (fs fs' : FileSystem) (path : PathBuf) (contents : String) : Prop :=
  ∃ e, fs.entry path = .ok e ∧ (∀ d, ¬ fs.LeadsTo e d) ∧ fs' = fs.put e (some (.file contents))

structure SameDirectories (fs fs' : FileSystem) : Prop where
  cwd : fs.cwd = fs'.cwd
  leadsTo : ∀ location d, fs.LeadsTo location d ↔ fs'.LeadsTo location d

variable {fs fs' : FileSystem} {path q : PathBuf} {location l d e : Location} {contents : String}
  {ps : List (List Char)} {cs : List Component} {c : Component} {name : Name}

lemma leadsTo_self : fs.LeadsTo l l ↔ fs.node l = some .directory := by
  refine and_iff_right_of_imp fun h => ?_
  rw [follow, h]

lemma visit_busy {piece : List Char} (h : componentOf piece = some c) :
    fs.visit l piece = fs.enter l c := by
  rcases componentOf_cases piece with hn | hp | ⟨name, hn⟩
  · exact absurd (hn.symm.trans h) (by simp)
  · cases h.symm.trans hp
    rw [visit, h, enter]
  · cases h.symm.trans hn
    rw [visit, h, enter]

lemma directory_of_enter (h : cs.foldlM fs.enter l = .ok d) (hd : fs.node d = some .directory) :
    fs.node l = some .directory := by
  cases cs with
  | nil => rwa [Except.ok.inj h]
  | cons c cs =>
    obtain ⟨next, hn, -⟩ := except_bind_eq_ok.mp h
    by_contra hl
    cases c <;> · rw [enter, if_neg hl] at hn; cases hn

lemma foldlM_visit_iff (hd : fs.node d = some .directory) :
    ps.foldlM fs.visit l = .ok d ↔ (body ps).foldlM fs.enter l = .ok d := by
  induction ps generalizing l with
  | nil => rfl
  | cons piece ps ih =>
    rw [List.foldlM_cons, except_bind_eq_ok]
    cases hc : componentOf piece with
    | none =>
      have hbody : body (piece :: ps) = body ps := List.filterMap_cons_none hc
      rw [hbody, ← ih]
      constructor
      · rintro ⟨next, hn, hr⟩
        rwa [visit_of_idle hc hn] at hr
      · intro h
        exact ⟨l, visit_idle (directory_of_enter (ih.mp h) hd) hc, h⟩
    | some c =>
      have hbody : body (piece :: ps) = c :: body ps := List.filterMap_cons_some hc
      rw [hbody, List.foldlM_cons, except_bind_eq_ok]
      simp only [visit_busy hc, ih]

lemma namesDirectory_iff : fs.NamesDirectory path d ↔
    (body (pieces path)).foldlM fs.enter (fs.origin path) = .ok d ∧
      fs.node d = some .directory := by
  apply and_congr_left
  intro hd
  by_cases hp : path = ""
  · subst hp
    rw [if_pos rfl, canonicalize, if_neg (by decide), foldlM_visit_iff hd]
    rfl
  · rw [if_neg hp, canonicalize, if_neg hp, foldlM_visit_iff hd]

lemma NamesDirectory.unique (h : fs.NamesDirectory path d) (h' : fs.NamesDirectory path e) :
    d = e :=
  Except.ok.inj (h.1.symm.trans h'.1)

lemma isDir_iff : fs.isDir path = true ↔ path ≠ "" ∧ ∃ d, fs.NamesDirectory path d := by
  rw [isDir]
  by_cases hp : path = ""
  · subst hp
    simp [canonicalize, Except.toOption]
  · rw [and_iff_right hp]
    simp only [NamesDirectory, if_neg hp]
    cases fs.canonicalize path <;> simp [Except.toOption]

lemma entry_ok_iff : fs.entry path = .ok e ↔ ∃ d name,
    (pieces path).getLast?.bind componentOf = some (.normal name) ∧
      (body (pieces path).dropLast).foldlM fs.enter (fs.origin path) = .ok d ∧
      fs.node d = some .directory ∧ e = d ++ [name] := by
  rw [entry]
  split
  · rename_i name hlast
    rw [except_bind_eq_ok]
    constructor
    · rintro ⟨d, hd, h⟩
      split_ifs at h with hdir
      · rw [except_pure_eq_ok] at h
        exact ⟨d, name, hlast, (foldlM_visit_iff hdir).mp hd, hdir, h.symm⟩
    · rintro ⟨d, name', hlast', hd, hdir, rfl⟩
      cases hlast.symm.trans hlast'
      refine ⟨d, (foldlM_visit_iff hdir).mpr hd, ?_⟩
      rw [if_pos hdir]
      rfl
  · rename_i hlast
    constructor
    · exact fun h => by cases h
    · rintro ⟨d, name, hname, -⟩
      exact absurd hname (hlast name)

lemma entry_join (h : path ≠ "") (name : Name) : fs.entry (join path name.text) = .ok e ↔
    ∃ d, fs.NamesDirectory path d ∧ e = d ++ [name] := by
  have habs : ¬ isAbsolute name.text := by simp [isAbsolute, start_name]
  have horigin : fs.origin (join path name.text) = fs.origin path := by
    simp only [origin, isAbsolute_join, or_iff_left habs]
  obtain ⟨ps, hps, hbody⟩ := pieces_join_name h name
  simp only [entry_ok_iff, namesDirectory_iff, horigin, hps, List.dropLast_concat, hbody,
    List.getLast?_concat, Option.bind_some, componentOf_name, Option.some.injEq,
    Component.normal.injEq]
  constructor
  · rintro ⟨d, _, rfl, hd, hdir, rfl⟩
    exact ⟨d, ⟨hd, hdir⟩, rfl⟩
  · rintro ⟨d, ⟨hd, hdir⟩, rfl⟩
    exact ⟨d, name, rfl, hd, hdir, rfl⟩

lemma namesDirectory_of_body_nil (h : body (pieces path) = []) :
    fs.NamesDirectory path d ↔ fs.origin path = d ∧ fs.node d = some .directory := by
  rw [namesDirectory_iff, h, List.foldlM_nil, except_pure_eq_ok]

lemma namesDirectory_of_body_concat (h : body (pieces path) = cs ++ [c]) :
    fs.NamesDirectory path d ↔ ∃ home, fs.NamesDirectory ((parent path).getD "") home ∧
      fs.enter home c = .ok d ∧ fs.node d = some .directory := by
  cases hq : parent path with
  | none => exact absurd (h.symm.trans (parent_eq_none.mp hq).1) (by simp)
  | some q =>
    have horigin : fs.origin q = fs.origin path := by simp only [origin, isAbsolute_parent hq]
    have hbody : body (pieces q) = cs := by
      rcases parent_cases hq with ⟨-, hnil, -⟩ | ⟨front, c', -, hfront, hcase⟩
      · exact absurd (h.symm.trans hnil) (by simp)
      · have hcs : body front = cs := (List.append_inj' (hfront.symm.trans h) rfl).1
        rcases hcase with ⟨hnil, rfl⟩ | ⟨-, hq, -⟩
        · rw [← hcs, hnil]
          cases start path <;> decide
        · exact hq.trans hcs
    simp only [Option.getD_some, namesDirectory_iff, h, hbody, horigin, List.foldlM_append,
      except_bind_eq_ok]
    constructor
    · rintro ⟨⟨home, hhome, hc⟩, hd⟩
      obtain ⟨next, hn, hnext⟩ := except_bind_eq_ok.mp hc
      rw [← except_pure_eq_ok.mp hnext] at hd ⊢
      have hentered : [c].foldlM fs.enter home = .ok next := by
        rw [List.foldlM_cons, hn]
        rfl
      have hdir := directory_of_enter hentered hd
      exact ⟨home, ⟨hhome, hdir⟩, hn, hd⟩
    · rintro ⟨home, ⟨hhome, -⟩, hn, hd⟩
      exact ⟨⟨home, hhome, by rw [List.foldlM_cons, hn]; rfl⟩, hd⟩

lemma canonicalize_of_entry (h : fs.entry path = .ok e) : fs.canonicalize path = fs.follow e := by
  obtain ⟨d, name, hlast, hd, hdir, rfl⟩ := entry_ok_iff.mp h
  obtain ⟨last, hget, hname⟩ := Option.bind_eq_some_iff.mp hlast
  have hne : path ≠ "" := by
    rintro rfl
    have hempty : (pieces "").getLast? = some [] := by decide
    rw [Option.some.inj (hget.symm.trans hempty)] at hname
    exact absurd hname (by simp [componentOf, IsName])
  rw [canonicalize, if_neg hne, ← List.dropLast_append_getLast? last hget, List.foldlM_append,
    (foldlM_visit_iff hdir).mpr hd]
  change (fs.visit d last >>= pure) = _
  rw [bind_pure, visit_busy hname, enter, if_pos hdir]

lemma readToString_of_entry (h : fs.entry path = .ok e) (he : fs.node e = some (.file contents)) :
    fs.readToString path = .ok contents := by
  have hfollow : fs.follow e = .ok e := by rw [follow, he]
  rw [readToString, canonicalize_of_entry h, hfollow, except_bind_eq_ok]
  refine ⟨e, rfl, ?_⟩
  rw [he]
  rfl

lemma not_leadsTo_of_file (h : fs.node l = some (.file contents)) (d : Location) :
    ¬ fs.LeadsTo l d := by
  rintro ⟨hfollow, hd⟩
  rw [follow, h] at hfollow
  cases hfollow
  cases h.symm.trans hd

lemma isDir_of_leadsTo (h : fs.entry path = .ok e) (he : fs.LeadsTo e d) :
    fs.isDir path = true := by
  rw [isDir, canonicalize_of_entry h, he.1]
  simp [Except.toOption, he.2]

namespace SameDirectories

variable {fs'' : FileSystem}

lemma trans (h : SameDirectories fs fs') (h' : SameDirectories fs' fs'') :
    SameDirectories fs fs'' :=
  ⟨h.cwd.trans h'.cwd, fun l d => (h.leadsTo l d).trans (h'.leadsTo l d)⟩

lemma directory (h : SameDirectories fs fs') (l : Location) :
    fs.node l = some .directory ↔ fs'.node l = some .directory := by
  rw [← leadsTo_self, h.leadsTo, leadsTo_self]

lemma enter (h : SameDirectories fs fs') : fs.enter l c = .ok d ∧ fs.node d = some .directory ↔
    fs'.enter l c = .ok d ∧ fs'.node d = some .directory := by
  by_cases hl : fs.node l = some .directory
  · have hl' := (h.directory l).mp hl
    cases c with
    | rootDir | curDir | parentDir =>
      rw [FileSystem.enter, FileSystem.enter, if_pos hl, if_pos hl', h.directory]
    | normal name =>
      rw [FileSystem.enter, FileSystem.enter, if_pos hl, if_pos hl']
      exact h.leadsTo _ _
  · have hl' := (h.directory l).not.mp hl
    cases c <;> simp [FileSystem.enter, hl, hl']

lemma foldlM (h : SameDirectories fs fs') :
    cs.foldlM fs.enter l = .ok d ∧ fs.node d = some .directory ↔
      cs.foldlM fs'.enter l = .ok d ∧ fs'.node d = some .directory := by
  induction cs generalizing l with
  | nil =>
    rw [h.directory]
    rfl
  | cons c cs ih =>
    rw [List.foldlM_cons, List.foldlM_cons, except_bind_eq_ok, except_bind_eq_ok]
    constructor
    · rintro ⟨⟨next, hn, hr⟩, hd⟩
      have hnext := h.enter.mp ⟨hn, directory_of_enter hr hd⟩
      have hrest := ih.mp ⟨hr, hd⟩
      exact ⟨⟨next, hnext.1, hrest.1⟩, hrest.2⟩
    · rintro ⟨⟨next, hn, hr⟩, hd⟩
      have hnext := h.enter.mpr ⟨hn, directory_of_enter hr hd⟩
      have hrest := ih.mpr ⟨hr, hd⟩
      exact ⟨⟨next, hnext.1, hrest.1⟩, hrest.2⟩

lemma origin (h : SameDirectories fs fs') (path : PathBuf) : fs.origin path = fs'.origin path := by
  rw [FileSystem.origin, FileSystem.origin, h.cwd]

theorem namesDirectory (h : SameDirectories fs fs') :
    fs.NamesDirectory path d ↔ fs'.NamesDirectory path d := by
  rw [namesDirectory_iff, namesDirectory_iff, h.origin, h.foldlM]

theorem isDir (h : SameDirectories fs fs') (path : PathBuf) : fs.isDir path = fs'.isDir path := by
  rw [Bool.eq_iff_iff, isDir_iff, isDir_iff]
  simp only [h.namesDirectory]

theorem entry (h : SameDirectories fs fs') : fs.entry path = .ok e ↔ fs'.entry path = .ok e := by
  rw [entry_ok_iff, entry_ok_iff, h.origin]
  constructor
  · rintro ⟨d, name, hlast, hd, hdir, he⟩
    have hstep := h.foldlM.mp ⟨hd, hdir⟩
    exact ⟨d, name, hlast, hstep.1, hstep.2, he⟩
  · rintro ⟨d, name, hlast, hd, hdir, he⟩
    have hstep := h.foldlM.mpr ⟨hd, hdir⟩
    exact ⟨d, name, hlast, hstep.1, hstep.2, he⟩

end SameDirectories

lemma put_node_of_ne (node : Option Node) (h : l ≠ location) :
    (fs.put location node).node l = fs.node l :=
  if_neg fun hl => h hl.1

lemma put_node_self (node : Option Node) (h : ∀ d, ¬ fs.LeadsTo l d) :
    (fs.put l node).node l = node := by
  have hroot : l ≠ [] := by
    rintro rfl
    exact h [] (leadsTo_self.mpr fs.root)
  exact if_pos ⟨rfl, hroot⟩

lemma leadsTo_iff : fs.LeadsTo l d ↔ fs.node d = some .directory ∧
    (l = d ∨ fs.node l = some (.link d)) := by
  constructor
  · rintro ⟨hfollow, hd⟩
    refine ⟨hd, ?_⟩
    rw [follow] at hfollow
    split at hfollow
    · cases hfollow
    · rename_i target hlink
      split at hfollow
      · cases hfollow
      · cases hfollow
      · cases hfollow
        exact Or.inr hlink
    · exact Or.inl (Except.ok.inj hfollow)
  · rintro ⟨hd, rfl | hlink⟩
    · exact leadsTo_self.mpr hd
    · refine ⟨?_, hd⟩
      rw [follow, hlink]
      simp only [hd]

lemma sameDirectories_put {node : Option Node} (hbefore : ∀ d, ¬ fs.LeadsTo l d)
    (hafter : ∀ d, ¬ (fs.put l node).LeadsTo l d) : SameDirectories fs (fs.put l node) := by
  refine ⟨rfl, fun k d => ?_⟩
  by_cases hk : k = l
  · rw [hk]
    exact iff_of_false (hbefore d) (hafter d)
  · rw [leadsTo_iff, leadsTo_iff, put_node_of_ne _ hk]
    by_cases hd : d = l
    · rw [hd]
      exact iff_of_false (fun h => hbefore l (leadsTo_self.mpr h.1))
        (fun h => hafter l (leadsTo_self.mpr h.1))
    · rw [put_node_of_ne _ hd]

lemma sameDirectories_put_file (h : ∀ d, ¬ fs.LeadsTo l d) (contents : String) :
    SameDirectories fs (fs.put l (some (.file contents))) :=
  sameDirectories_put h (not_leadsTo_of_file (put_node_self _ h))

lemma sameDirectories_put_none (h : ∀ d, ¬ fs.LeadsTo l d) :
    SameDirectories fs (fs.put l none) := by
  refine sameDirectories_put h fun d hd => ?_
  have hnone : (fs.put l none).follow l = .error .notFound := by rw [follow, put_node_self _ h]
  cases hnone.symm.trans hd.1

theorem Wrote.sameDirectories (h : fs.Wrote fs' path contents) : SameDirectories fs fs' := by
  obtain ⟨e, -, hfree, rfl⟩ := h
  exact sameDirectories_put_file hfree contents

theorem Wrote.entry (h : fs.Wrote fs' path contents) :
    ∃ e, fs'.entry path = .ok e ∧ fs'.node e = some (.file contents) := by
  have hsame := h.sameDirectories
  obtain ⟨e, he, hfree, rfl⟩ := h
  exact ⟨e, hsame.entry.mp he, put_node_self _ hfree⟩

theorem rename_ok (h : fs.rename path q = .ok fs') (he : fs.entry path = .ok e)
    (hfile : fs.node e = some (.file contents)) (hq : fs.isDir q = false) :
    SameDirectories fs fs' ∧
      ∃ new, fs'.entry q = .ok new ∧ fs'.node new = some (.file contents) := by
  obtain ⟨old, hold, h⟩ := except_bind_eq_ok.mp h
  obtain ⟨new, hnew, h⟩ := except_bind_eq_ok.mp h
  cases he.symm.trans hold
  have hfs' : fs' = (fs.put e none).put new (some (.file contents)) := by
    rw [hfile] at h
    split at h
    · cases h
    · cases h
    · cases h
    · rename_i node _ hnode _
      cases hnode
      exact (except_pure_eq_ok.mp h).symm
  have hremoved := sameDirectories_put_none (not_leadsTo_of_file hfile)
  have hfree : ∀ d, ¬ (fs.put e none).LeadsTo new d := by
    intro d hd
    rw [isDir_of_leadsTo hnew ((hremoved.leadsTo new d).mpr hd)] at hq
    cases hq
  have hmoved := hremoved.trans (sameDirectories_put_file hfree contents)
  rw [hfs']
  exact ⟨hmoved, new, hmoved.entry.mp hnew, put_node_self _ hfree⟩

end GreenticDw.Files.FileSystem

import GreenticDw.Text.Patterns

namespace GreenticDw

open Text

inductive SourceRefKind where
  | oci
  | store
  | repo
  | localPath
  | devPath
  deriving DecidableEq, Repr

structure SourceTransportHints where
  offline : Bool
  allowInsecureLocalHttp : Bool
  deriving DecidableEq, Repr

structure SourceRef where
  rawRef : String
  kind : SourceRefKind
  transportHints : SourceTransportHints
  devMode : Bool
  deriving DecidableEq, Repr

structure PackSourceRef where
  source : SourceRef
  deriving DecidableEq, Repr

structure TemplateSourceRef where
  source : SourceRef
  deriving DecidableEq, Repr

structure DwProviderSourceRef where
  source : PackSourceRef
  deriving DecidableEq, Repr

inductive SourceRefError where
  | empty
  | kindMismatch (rawRef : String) (kind : SourceRefKind)
  | unsupportedScheme (rawRef : String)
  deriving DecidableEq, Repr

namespace SourceRef

def inferKind (rawRef : String) : Except SourceRefError SourceRefKind :=
  let trimmed := trim rawRef
  if trimmed.isEmpty then .error .empty
  else if startsWith "oci://" trimmed then .ok .oci
  else if startsWith "store://" trimmed then .ok .store
  else if startsWith "repo://" trimmed then .ok .repo
  else if startsWith "dev://" trimmed then .ok .devPath
  else if contains "://" trimmed then .error (.unsupportedScheme trimmed)
  else .ok .localPath

def new (rawRef : String) (kind : SourceRefKind) : Except SourceRefError SourceRef :=
  if isBlank rawRef then .error .empty
  else do
    let inferred ← inferKind rawRef
    if inferred ≠ kind then .error (.kindMismatch rawRef kind)
    else .ok {
      rawRef := rawRef
      kind := kind
      transportHints := ⟨false, false⟩
      devMode := kind = .devPath }

def fromRaw (rawRef : String) : Except SourceRefError SourceRef := do
  let kind ← inferKind rawRef
  new rawRef kind

def ofPath (path : String) : SourceRef where
  rawRef := path
  kind := .localPath
  transportHints := ⟨false, false⟩
  devMode := false

end SourceRef

namespace PackSourceRef

def fromRaw (rawRef : String) : Except SourceRefError PackSourceRef := do
  let source ← SourceRef.fromRaw rawRef
  return ⟨source⟩

end PackSourceRef

section Relative

lemma toList_relative (name : String) :
    ("./" ++ (name ++ ".pack")).toList = '.' :: '/' :: (name.toList ++ ".pac".toList ++ ['k']) := by
  rw [String.toList_append, String.toList_append, List.append_assoc]
  rfl

lemma trim_relative (name : String) : trim ("./" ++ (name ++ ".pack")) = "./" ++ (name ++ ".pack") := by
  apply trim_eq_self (toList_relative name) (d := 'k')
  · rw [toList_relative, ← List.cons_append, ← List.cons_append]
  · rfl
  · rfl

lemma contains_relative (name : String) :
    contains "://" ("./" ++ (name ++ ".pack")) = contains "://" name := by
  rw [contains, contains, decide_eq_decide, String.toList_append, String.toList_append]
  have hfront : "://".toList = ':' :: ['/', '/'] := rfl
  have hback : "://".toList = [':', '/'] ++ ['/'] := rfl
  rw [hfront, cons_infix_append_left (by decide), ← hfront, hback,
    concat_infix_append_right (by decide)]

theorem PackSourceRef.fromRaw_relative (name : String) :
    PackSourceRef.fromRaw ("./" ++ (name ++ ".pack")) =
      if contains "://" name then .error (.unsupportedScheme ("./" ++ (name ++ ".pack")))
      else .ok ⟨.ofPath ("./" ++ (name ++ ".pack"))⟩ := by
  have hstart : ∀ pattern : String, ∀ c cs, pattern.toList = c :: cs → c ≠ '.' →
      startsWith pattern ("./" ++ (name ++ ".pack")) = false := by
    intro pattern c cs hp hc
    rw [startsWith, hp, toList_relative, List.isPrefixOf]
    simp [hc]
  have hempty : ("./" ++ (name ++ ".pack")).isEmpty = false := by
    rw [Bool.eq_false_iff, ne_eq, String.isEmpty_iff, ← String.toList_inj, toList_relative]
    exact List.cons_ne_nil _ _
  have hkind : SourceRef.inferKind ("./" ++ (name ++ ".pack")) =
      if contains "://" name then .error (.unsupportedScheme ("./" ++ (name ++ ".pack")))
      else .ok .localPath := by
    simp only [SourceRef.inferKind, trim_relative, hempty, contains_relative,
      hstart "oci://" 'o' _ rfl (by decide), hstart "store://" 's' _ rfl (by decide),
      hstart "repo://" 'r' _ rfl (by decide), hstart "dev://" 'd' _ rfl (by decide),
      Bool.false_eq_true, if_false]
  have hblank : isBlank ("./" ++ (name ++ ".pack")) = false := by
    rw [isBlank, trim_relative, hempty]
  rw [PackSourceRef.fromRaw, SourceRef.fromRaw, hkind]
  split_ifs with h
  · rfl
  · simp only [SourceRef.new, hblank, hkind, h]
    rfl

end Relative

end GreenticDw

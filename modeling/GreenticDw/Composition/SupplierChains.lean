import GreenticDw.Composition.AssetIds
import GreenticDw.Orders.Fallbacks
import Mathlib.Logic.Relation

/-! Suppliers of assets that are tried in order, and chains of them within chains. -/

namespace GreenticDw

structure ChainedAssetSupplier where
  suppliers : List AssetSupplier
  ioContinues : Bool

namespace ChainedAssetSupplier

def new : ChainedAssetSupplier := ⟨[], false⟩

def push (chain : ChainedAssetSupplier) (supplier : AssetSupplier) : ChainedAssetSupplier :=
  { chain with suppliers := chain.suppliers ++ [supplier] }

def withIoContinues (chain : ChainedAssetSupplier) : ChainedAssetSupplier :=
  { chain with ioContinues := true }

def provideFrom (ioContinues : Bool) (descriptor : AssetDescriptor) :
    Option AssetSupplierError → List AssetSupplier → Except AssetSupplierError (List UInt8)
  | lastIoError, [] => .error (lastIoError.getD (.notFound descriptor.assetId))
  | lastIoError, supplier :: suppliers =>
    match supplier descriptor with
    | .ok bytes => .ok bytes
    | .error (.notFound _) => provideFrom ioContinues descriptor lastIoError suppliers
    | .error ioErr =>
      if ioContinues then provideFrom ioContinues descriptor (some ioErr) suppliers
      else .error ioErr

def provide (chain : ChainedAssetSupplier) : AssetSupplier := fun descriptor =>
  provideFrom chain.ioContinues descriptor none chain.suppliers

end ChainedAssetSupplier

abbrev Supplied := Except AssetSupplierError (List UInt8)
abbrev SupplyAttempt (continues : Bool) := Attempt continues (String × String) (List UInt8)

def SupplyAttempt.outcome {continues : Bool} (assetId : String) : SupplyAttempt continues → Supplied
  | .hit bytes => .ok bytes
  | .miss => .error (.notFound assetId)
  | .failed (failedId, source) => .error (.io failedId source)

namespace Supplied

variable {continues : Bool} {assetId : String} {supplied : Supplied}

def attempt : Supplied → SupplyAttempt continues
  | .ok bytes => .hit bytes
  | .error (.notFound _) => .miss
  | .error (.io assetId source) => .failed (assetId, source)

def isOk : Supplied → Bool
  | .ok _ => true
  | .error _ => false

def isNotFound : Supplied → Bool
  | .error (.notFound _) => true
  | _ => false

def isIo : Supplied → Bool
  | .error (.io _ _) => true
  | _ => false

lemma attempt_outcome (x : SupplyAttempt continues) : attempt (x.outcome assetId) = x := by
  cases x <;> rfl

lemma outcome_attempt (h : supplied.isNotFound = false) :
    (supplied.attempt : SupplyAttempt continues).outcome assetId = supplied := by
  rcases supplied with (_ | _) | _
  · cases h
  · rfl
  · rfl

lemma isMiss_attempt (supplied : Supplied) :
    (supplied.attempt : SupplyAttempt continues).isMiss = supplied.isNotFound := by
  rcases supplied with (_ | _) | _ <;> rfl

lemma isHit_attempt (supplied : Supplied) :
    (supplied.attempt : SupplyAttempt continues).isHit = supplied.isOk := by
  rcases supplied with (_ | _) | _ <;> rfl

lemma isFailed_attempt (supplied : Supplied) :
    (supplied.attempt : SupplyAttempt continues).isFailed = supplied.isIo := by
  rcases supplied with (_ | _) | _ <;> rfl

lemma isNotFound_of_isOk (h : supplied.isOk = true) : supplied.isNotFound = false := by
  rcases supplied with (_ | _) | _
  · cases h
  · rfl
  · rfl

lemma isNotFound_of_isIo (h : supplied.isIo = true) : supplied.isNotFound = false := by
  rcases supplied with (_ | _) | _
  · cases h
  · rfl
  · rfl

lemma outcome_getD {found : Option Supplied}
    (h : ∀ supplied, found = some supplied → supplied.isNotFound = false) :
    ((found.map (@attempt continues)).getD 1).outcome assetId =
      found.getD (.error (.notFound assetId)) := by
  cases found with
  | none => rfl
  | some supplied => exact outcome_attempt (h supplied rfl)

end Supplied

namespace ChainedAssetSupplier

variable {continues : Bool} {descriptor : AssetDescriptor} {suppliers : List AssetSupplier}
  {last : Option AssetSupplierError} {soFar : SupplyAttempt continues}
  {chain : ChainedAssetSupplier}

def attempts (continues : Bool) (suppliers : List AssetSupplier) (descriptor : AssetDescriptor) :
    List (SupplyAttempt continues) :=
  suppliers.map fun supplier => Supplied.attempt (supplier descriptor)

lemma attempts_eq_map (suppliers : List AssetSupplier) (descriptor : AssetDescriptor) :
    attempts continues suppliers descriptor =
      (suppliers.map (· descriptor)).map Supplied.attempt := by
  rw [attempts, List.map_map]
  rfl

inductive Remembers (continues : Bool) :
    Option AssetSupplierError → SupplyAttempt continues → Prop
  | nothing : Remembers continues none 1
  | failure (hcontinues : continues = true) (assetId source : String) :
      Remembers continues (some (.io assetId source)) (.failed (assetId, source))

lemma Remembers.mul_hit (h : Remembers continues last soFar) (bytes : List UInt8) :
    soFar * .hit bytes = .hit bytes := by
  cases h with
  | nothing => exact one_mul _
  | failure hcontinues assetId source =>
    subst hcontinues
    exact Attempt.failed_mul_hit _ _

lemma Remembers.mul_failed (h : Remembers continues last soFar) (e : String × String) :
    soFar * .failed e = .failed e := by
  cases h with
  | nothing => exact one_mul _
  | failure hcontinues assetId source =>
    subst hcontinues
    exact Attempt.failed_mul_failed _ _

lemma provideFrom_eq (h : Remembers continues last soFar) :
    provideFrom continues descriptor last suppliers =
      (soFar * (attempts continues suppliers descriptor).prod).outcome descriptor.assetId := by
  induction suppliers generalizing last soFar with
  | nil =>
    rw [attempts, List.map_nil, List.prod_nil, mul_one]
    cases h <;> rfl
  | cons supplier suppliers ih =>
    rw [attempts, List.map_cons, List.prod_cons, ← attempts, ← mul_assoc]
    rcases hsupplied : supplier descriptor with (assetId | ⟨assetId, source⟩) | bytes
    · have hmiss : soFar * Supplied.attempt (.error (.notFound assetId)) = soFar := mul_one soFar
      rw [hmiss, ← ih h]
      simp only [provideFrom, hsupplied]
    · have hfailed : soFar * Supplied.attempt (.error (.io assetId source)) =
          .failed (assetId, source) := h.mul_failed _
      rw [hfailed]
      cases continues with
      | false =>
        rw [Attempt.failed_mul]
        simp only [provideFrom, hsupplied]
        rfl
      | true =>
        rw [← ih (.failure rfl assetId source)]
        simp only [provideFrom, hsupplied, if_true]
    · have hhit : soFar * Supplied.attempt (.ok bytes) = .hit bytes := h.mul_hit bytes
      rw [hhit, Attempt.hit_mul]
      simp only [provideFrom, hsupplied]
      rfl

theorem provide_eq (chain : ChainedAssetSupplier) (descriptor : AssetDescriptor) :
    chain.provide descriptor =
      (attempts chain.ioContinues chain.suppliers descriptor).prod.outcome descriptor.assetId := by
  rw [provide, provideFrom_eq .nothing, one_mul]

lemma provide_of_stopping (h : chain.ioContinues = false) (descriptor : AssetDescriptor) :
    chain.provide descriptor =
      ((chain.suppliers.map (· descriptor)).find? fun supplied =>
        !Supplied.isNotFound supplied).getD (.error (.notFound descriptor.assetId)) := by
  have hmiss : (fun x : SupplyAttempt false => !x.isMiss) ∘ Supplied.attempt =
      fun supplied => !Supplied.isNotFound supplied := by
    funext supplied
    exact congrArg (!·) (Supplied.isMiss_attempt supplied)
  rw [provide_eq, h, Attempt.prod_of_stopping, attempts_eq_map, List.find?_map, hmiss]
  apply Supplied.outcome_getD
  intro supplied hfound
  simpa using List.find?_some hfound

lemma provide_of_continuing (h : chain.ioContinues = true) (descriptor : AssetDescriptor) :
    chain.provide descriptor =
      (((chain.suppliers.map (· descriptor)).find? Supplied.isOk).or
        ((chain.suppliers.map (· descriptor)).filter Supplied.isIo).getLast?).getD
          (.error (.notFound descriptor.assetId)) := by
  have hhit : (Attempt.isHit : SupplyAttempt true → Bool) ∘ Supplied.attempt = Supplied.isOk := by
    funext supplied
    exact Supplied.isHit_attempt supplied
  have hfailed : (Attempt.isFailed : SupplyAttempt true → Bool) ∘ Supplied.attempt =
      Supplied.isIo := by
    funext supplied
    exact Supplied.isFailed_attempt supplied
  rw [provide_eq, h, Attempt.prod_of_continuing, attempts_eq_map, List.find?_map, List.filter_map,
    List.getLast?_map, hhit, hfailed, ← Option.map_or]
  apply Supplied.outcome_getD
  intro supplied hfound
  rw [Option.or_eq_some_iff] at hfound
  obtain hok | ⟨-, hio⟩ := hfound
  · exact Supplied.isNotFound_of_isOk (List.find?_some hok)
  · exact Supplied.isNotFound_of_isIo (List.of_mem_filter (List.mem_of_getLast? hio))

lemma provide_inlined (front back : List AssetSupplier) (inner : ChainedAssetSupplier) :
    provide ⟨front ++ inner.provide :: back, inner.ioContinues⟩ =
      provide ⟨front ++ inner.suppliers ++ back, inner.ioContinues⟩ := by
  funext descriptor
  have hinner : (Supplied.attempt (inner.provide descriptor) : SupplyAttempt inner.ioContinues) =
      (attempts inner.ioContinues inner.suppliers descriptor).prod := by
    rw [provide_eq, Supplied.attempt_outcome]
  simp only [provide_eq, attempts, List.map_append, List.map_cons, List.prod_append,
    List.prod_cons] at hinner ⊢
  rw [hinner, mul_assoc]

end ChainedAssetSupplier

inductive NestedSupplier where
  | supplier (provide : AssetSupplier)
  | chain (suppliers : List NestedSupplier) (ioContinues : Bool)

namespace NestedSupplier

mutual
def provide : NestedSupplier → AssetSupplier
  | .supplier provide => provide
  | .chain suppliers ioContinues =>
    ChainedAssetSupplier.provide ⟨provideAll suppliers, ioContinues⟩

def provideAll : List NestedSupplier → List AssetSupplier
  | [] => []
  | nested :: suppliers => nested.provide :: provideAll suppliers
end

/-- Somewhere within the supplier a chain gives way to its own suppliers, in a chain that treats
failures as it does. -/
inductive Inlines : NestedSupplier → NestedSupplier → Prop
  | here (front inner back : List NestedSupplier) (ioContinues : Bool) :
      Inlines (.chain (front ++ .chain inner ioContinues :: back) ioContinues)
        (.chain (front ++ inner ++ back) ioContinues)
  | within {nested flat : NestedSupplier} (front back : List NestedSupplier) (ioContinues : Bool) :
      Inlines nested flat → Inlines (.chain (front ++ nested :: back) ioContinues)
        (.chain (front ++ flat :: back) ioContinues)

lemma provideAll_eq_map (suppliers : List NestedSupplier) :
    provideAll suppliers = suppliers.map provide := by
  induction suppliers with
  | nil => rfl
  | cons nested suppliers ih => rw [provideAll, ih, List.map_cons]

lemma Inlines.provide_eq {nested flat : NestedSupplier} (h : Inlines nested flat) :
    nested.provide = flat.provide := by
  induction h with
  | here front inner back ioContinues =>
    simp only [provide, provideAll_eq_map, List.map_append, List.map_cons]
    exact ChainedAssetSupplier.provide_inlined _ _ ⟨inner.map provide, ioContinues⟩
  | within front back ioContinues _ ih =>
    simp only [provide, provideAll_eq_map, List.map_append, List.map_cons, ih]

end NestedSupplier

theorem chaining_law :
    (∀ (chain : ChainedAssetSupplier) (descriptor : AssetDescriptor), chain.ioContinues = false →
      chain.provide descriptor =
        ((chain.suppliers.map (· descriptor)).find? fun supplied =>
          !Supplied.isNotFound supplied).getD (.error (.notFound descriptor.assetId))) ∧
    (∀ (chain : ChainedAssetSupplier) (descriptor : AssetDescriptor), chain.ioContinues = true →
      chain.provide descriptor =
        (((chain.suppliers.map (· descriptor)).find? Supplied.isOk).or
          ((chain.suppliers.map (· descriptor)).filter Supplied.isIo).getLast?).getD
            (.error (.notFound descriptor.assetId))) ∧
    ∀ nested flat : NestedSupplier, Relation.ReflTransGen NestedSupplier.Inlines nested flat →
      nested.provide = flat.provide := by
  refine ⟨?_, ?_, ?_⟩
  · intro chain descriptor h
    exact chain.provide_of_stopping h descriptor
  · intro chain descriptor h
    exact chain.provide_of_continuing h descriptor
  · intro nested flat h
    induction h with
    | refl => rfl
    | tail _ hstep ih => exact ih.trans hstep.provide_eq

example (descriptor : AssetDescriptor) (bytes : List UInt8) :
    ((ChainedAssetSupplier.new.push fun asset => .error (.io asset.assetId "refused")).push
      fun _ => .ok bytes).withIoContinues.provide descriptor = .ok bytes := rfl

end GreenticDw

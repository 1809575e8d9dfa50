import GreenticDw.Planning.Plans
import GreenticDw.Traced.Checks
import GreenticDw.Types.Task

/-! Manifests of digital workers, and the scope that a manifest and a request resolve to. -/

namespace GreenticDw

open Text

def manifestSchemaVersion : String := "0.3"

structure ExtensionTool where
  extensionId : String
  extensionVersion : String
  toolName : String
  description : String
  inputSchemaJson : String
  capabilities : List String
  deriving DecidableEq, Repr

inductive TeamPolicy where
  | disabled
  | optional (defaultTeam : Option String) (allowRequestOverride : Bool)
  deriving DecidableEq, Repr

structure TenancyContract where
  tenant : String
  teamPolicy : TeamPolicy
  deriving DecidableEq, Repr

structure LocaleContract where
  workerDefaultLocale : String
  policy : WorkerLocalePolicy
  propagation : LocalePropagation
  output : OutputLocaleGuidance
  deriving DecidableEq, Repr

structure DeepAgentConfig where
  enabled : Bool
  planningCapability : Option String
  delegationCapability : Option String
  reflectionCapability : Option String
  contextCapability : Option String
  planStepKinds : List PlanStepKind
  reflectionPolicyMandatory : Bool
  deriving DecidableEq, Repr

structure DigitalWorkerManifest (δ : Type) where
  version : String
  id : String
  displayName : String
  workerVersion : Option String
  -- declared in another workspace
  capabilities : δ
  tenancy : TenancyContract
  locale : LocaleContract
  deepAgent : Option DeepAgentConfig
  extensionTools : List ExtensionTool
  deriving DecidableEq, Repr

structure RequestScope where
  tenant : String
  team : Option String
  deriving DecidableEq, Repr

structure ResolvedScope where
  tenant : String
  team : Option String
  deriving DecidableEq, Repr

inductive ManifestValidationError (χ : Type) where
  | emptyVersion
  | unsupportedVersion (found : String)
  | emptyExtensionToolField (toolName field : String)
  | invalidInputSchema (toolName reason : String)
  | toolNotAgenticCompatible (toolName : String)
  | emptyId
  | emptyDisplayName
  | emptyWorkerVersion
  | emptyTenant
  | emptyTeam
  | emptyDefaultLocale
  | capability (e : χ)
  | strictRequestedOutputMismatch
  | missingDeepLoopCoreCapabilities
  | missingDelegationCapability
  | missingReflectionCapability
  | tenantMismatch (requestTenant manifestTenant : String)
  deriving DecidableEq, Repr

section Validate

variable {δ χ : Type} (validateCapabilities : δ → Except χ Unit)
  (parseJson : String → Except String Unit)

def TeamPolicy.defaultTeam : TeamPolicy → Option String
  | disabled => none
  | optional defaultTeam _ => defaultTeam

def OutputLocaleGuidance.preservesRequested : OutputLocaleGuidance → Bool
  | matchRequested => true
  | explicit _ => true
  | _ => false

def LocaleContract.validate (locale : LocaleContract) : Except (ManifestValidationError χ) Unit := do
  rejectIf (isBlank locale.workerDefaultLocale) .emptyDefaultLocale
  rejectIf (locale.policy = .strictRequested ∧ !locale.output.preservesRequested)
    .strictRequestedOutputMismatch

def DeepAgentConfig.validate (deepAgent : DeepAgentConfig) :
    Except (ManifestValidationError χ) Unit :=
  if deepAgent.enabled then do
    rejectIf (deepAgent.planningCapability = none ∨ deepAgent.contextCapability = none)
      .missingDeepLoopCoreCapabilities
    rejectIf (.delegate ∈ deepAgent.planStepKinds ∧ deepAgent.delegationCapability = none)
      .missingDelegationCapability
    rejectIf (deepAgent.reflectionPolicyMandatory ∧ deepAgent.reflectionCapability = none)
      .missingReflectionCapability
  else .ok ()

def ExtensionTool.validate (tool : ExtensionTool) : Except (ManifestValidationError χ) Unit := do
  rejectIf (isBlank tool.extensionId) (.emptyExtensionToolField tool.toolName "extension_id")
  rejectIf (isBlank tool.extensionVersion)
    (.emptyExtensionToolField tool.toolName "extension_version")
  rejectIf (isBlank tool.toolName) (.emptyExtensionToolField "<unnamed>" "tool_name")
  rejectIf (isBlank tool.description) (.emptyExtensionToolField tool.toolName "description")
  (parseJson tool.inputSchemaJson).mapError (.invalidInputSchema tool.toolName)
  rejectIf ("agentic_worker" ∉ tool.capabilities) (.toolNotAgenticCompatible tool.toolName)

namespace DigitalWorkerManifest

variable (manifest : DigitalWorkerManifest δ)

def validate : Except (ManifestValidationError χ) Unit := do
  rejectIf (isBlank manifest.version) .emptyVersion
  rejectIf (manifest.version ≠ manifestSchemaVersion) (.unsupportedVersion manifest.version)
  rejectIf (isBlank manifest.id) .emptyId
  rejectIf (isBlank manifest.displayName) .emptyDisplayName
  rejectIf (manifest.workerVersion.any isBlank) .emptyWorkerVersion
  rejectIf (isBlank manifest.tenancy.tenant) .emptyTenant
  rejectIf (manifest.tenancy.teamPolicy.defaultTeam.any isBlank) .emptyTeam
  (validateCapabilities manifest.capabilities).mapError .capability
  manifest.locale.validate
  manifest.deepAgent.forM DeepAgentConfig.validate
  manifest.extensionTools.forM (ExtensionTool.validate parseJson)

def resolvedTeam (requestScope : RequestScope) : Option String :=
  match manifest.tenancy.teamPolicy with
  | .disabled => none
  | .optional defaultTeam allowRequestOverride =>
    if allowRequestOverride then requestScope.team <|> defaultTeam else defaultTeam

def resolveScope (requestScope : RequestScope) :
    Except (ManifestValidationError χ) ResolvedScope := do
  manifest.validate validateCapabilities parseJson
  rejectIf (requestScope.tenant ≠ manifest.tenancy.tenant)
    (.tenantMismatch requestScope.tenant manifest.tenancy.tenant)
  return ⟨manifest.tenancy.tenant, manifest.resolvedTeam requestScope⟩

end DigitalWorkerManifest

end Validate

/-- The scope is one of the tenant that both sides name, and has no team or one with a name. -/
structure ResolvedScope.WellFormed {δ : Type} (scope : ResolvedScope)
    (manifest : DigitalWorkerManifest δ) (requestScope : RequestScope) : Prop where
  manifestTenant : scope.tenant = manifest.tenancy.tenant
  requestTenant : scope.tenant = requestScope.tenant
  team : ∀ team, scope.team = some team → isBlank team = false

def DigitalWorkerManifest.BlankOverride {δ : Type} (manifest : DigitalWorkerManifest δ)
    (requestScope : RequestScope) : Prop :=
  (∃ defaultTeam, manifest.tenancy.teamPolicy = .optional defaultTeam true) ∧
    ∃ team, requestScope.team = some team ∧ isBlank team = true

section Resolve

variable {δ χ : Type} {validateCapabilities : δ → Except χ Unit}
  {parseJson : String → Except String Unit} {manifest : DigitalWorkerManifest δ}
  {requestScope : RequestScope} {scope : ResolvedScope}

namespace DigitalWorkerManifest

lemma resolveScope_eq_ok :
    manifest.resolveScope validateCapabilities parseJson requestScope = .ok scope ↔
      manifest.validate validateCapabilities parseJson = .ok () ∧
        requestScope.tenant = manifest.tenancy.tenant ∧
          scope = ⟨manifest.tenancy.tenant, manifest.resolvedTeam requestScope⟩ := by
  simp only [resolveScope, except_bind_eq_ok, rejectIf_eq_ok, except_pure_eq_ok, not_not]
  constructor
  · rintro ⟨_, hvalid, _, htenant, rfl⟩
    exact ⟨hvalid, htenant, rfl⟩
  · rintro ⟨hvalid, htenant, rfl⟩
    exact ⟨(), hvalid, (), htenant, rfl⟩

lemma defaultTeam_of_validate (h : manifest.validate validateCapabilities parseJson = .ok ())
    {team : String} (hteam : manifest.tenancy.teamPolicy.defaultTeam = some team) :
    isBlank team = false := by
  simp only [validate, except_bind_eq_ok, rejectIf_eq_ok] at h
  obtain ⟨-, -, -, -, -, -, -, -, -, -, -, -, -, hdefault, -⟩ := h
  rw [hteam, Option.any_some] at hdefault
  exact Bool.not_eq_true _ ▸ hdefault

lemma resolvedTeam_of_valid (h : manifest.validate validateCapabilities parseJson = .ok ())
    (named : ¬manifest.BlankOverride requestScope) {team : String}
    (hteam : manifest.resolvedTeam requestScope = some team) : isBlank team = false := by
  rw [resolvedTeam] at hteam
  cases hpolicy : manifest.tenancy.teamPolicy with
  | disabled =>
    rw [hpolicy] at hteam
    cases hteam
  | optional defaultTeam allowRequestOverride =>
    rw [hpolicy] at hteam
    have hdefault : manifest.tenancy.teamPolicy.defaultTeam = defaultTeam := by
      rw [hpolicy]
      rfl
    cases allowRequestOverride with
    | false => exact defaultTeam_of_validate h (hdefault.trans hteam)
    | true =>
      cases hrequest : requestScope.team with
      | none =>
        rw [hrequest] at hteam
        exact defaultTeam_of_validate h (hdefault.trans hteam)
      | some requested =>
        rw [hrequest] at hteam
        obtain rfl : requested = team := Option.some.inj hteam
        by_contra hblank
        exact named ⟨⟨defaultTeam, hpolicy⟩, requested, hrequest, Bool.not_eq_false _ ▸ hblank⟩

theorem resolvedScope_wellFormed_iff
    (resolved : manifest.resolveScope validateCapabilities parseJson requestScope = .ok scope) :
    scope.WellFormed manifest requestScope ↔ ¬manifest.BlankOverride requestScope := by
  obtain ⟨hvalid, htenant, rfl⟩ := resolveScope_eq_ok.mp resolved
  constructor
  · rintro hscope ⟨⟨defaultTeam, hpolicy⟩, team, hteam, hblank⟩
    have hresolved : manifest.resolvedTeam requestScope = some team := by
      rw [resolvedTeam, hpolicy, hteam]
      rfl
    rw [hscope.team team hresolved] at hblank
    cases hblank
  · intro named
    exact ⟨rfl, htenant.symm, fun team hteam => resolvedTeam_of_valid hvalid named hteam⟩

end DigitalWorkerManifest

end Resolve

def supportManifest : DigitalWorkerManifest Unit where
  version := manifestSchemaVersion
  id := "dw.support.bot"
  displayName := "Support Bot"
  workerVersion := some "0.5"
  capabilities := ()
  tenancy := ⟨"tenant-a", .optional (some "team-default") true⟩
  locale := ⟨"en-US", .preferRequested, .propagateToDelegates, .matchRequested⟩
  deepAgent := none
  extensionTools := []

lemma resolveScope_supportManifest (team : String) :
    supportManifest.resolveScope (fun _ => (.ok () : Except Empty Unit)) (fun _ => .ok ())
      ⟨"tenant-a", some team⟩ = .ok ⟨"tenant-a", some team⟩ :=
  DigitalWorkerManifest.resolveScope_eq_ok.mpr ⟨by decide +kernel, rfl, rfl⟩

theorem resolvedScope_wellFormed_support :
    (ResolvedScope.mk "tenant-a" (some "team-b")).WellFormed supportManifest
      ⟨"tenant-a", some "team-b"⟩ := by
  apply (DigitalWorkerManifest.resolvedScope_wellFormed_iff
    (resolveScope_supportManifest "team-b")).mpr
  rintro ⟨-, team, hteam, hblank⟩
  cases hteam
  exact absurd hblank (by decide)

theorem blank_team_resolved : ∃ scope,
    supportManifest.resolveScope (fun _ => (.ok () : Except Empty Unit)) (fun _ => .ok ())
      ⟨"tenant-a", some "  "⟩ = .ok scope ∧
    ¬scope.WellFormed supportManifest ⟨"tenant-a", some "  "⟩ :=
  ⟨_, resolveScope_supportManifest "  ", fun h => absurd (h.team "  " rfl) (by decide)⟩

end GreenticDw

import AConductor.Lib.Text

/-!
# Provider configuration

The profiles, endpoints and observations of `src/a_conductor/provider_configuration.py`.
Enumerated fields are inductive types, so the coercions of the constructors leave
nothing to check. Of an endpoint only the reference is checked here: its URL is carried
along and never read by the store. The quota of an observation is the JSON text that
the store writes.
-/

namespace AConductor.Provider

/-- What a provider call can raise: a `ValueError` with its text, a
    `ProviderConfigStoreError` with its code, `datetime` arithmetic beyond the year 9999,
    or a violated constraint of a table. -/
inductive ProviderFault where
  | valueError (text : String)
  | storeError (code : String)
  | overflowError
  | integrityError
  deriving DecidableEq, Repr

/-- `re.fullmatch("[A-Za-z0-9][A-Za-z0-9…]{2,m}", s)` with the extra characters. -/
def isReference (extra : List Char) (most : Nat) (s : String) : Bool :=
  match s.toList with
  | [] => false
  | first :: rest =>
    first.isAlphanum && 2 ≤ rest.length && rest.length ≤ most &&
      rest.all fun c => c.isAlphanum || extra.elem c

/-- `_PROVIDER_ID_RE` (`provider_configuration.py:18`). -/
def isProviderId (s : String) : Bool := isReference ['.', '_', ':', '-'] 127 s

/-- `_CREDENTIAL_REF_RE` (`provider_configuration.py:19`). -/
def isCredentialRef (s : String) : Bool :=
  Text.startsWith s "secret-ref:" && isReference ['.', '_', ':', '/', '-'] 255
    (String.ofList (s.toList.drop "secret-ref:".length))

/-- `_REFERENCE_RE` (`provider_configuration.py:20`). -/
def isEndpointRef (s : String) : Bool := isReference ['.', '_', ':', '/', '-'] 511 s

/-- `_RUNTIME_BINDING_REF_RE` (`provider_configuration.py:22`). -/
def isRuntimeBindingRef (s : String) : Bool :=
  match s.toList with
  | [] => false
  | first :: rest =>
    (first.isDigit || first.isLower) && 1 ≤ rest.length && rest.length ≤ 127 &&
      rest.all fun c => c.isDigit || c.isLower || ['.', '_', ':', '/', '-'].elem c

/-- `_require_text` (`provider_configuration.py:115-120`). -/
def requireText (value fieldName : String) (maxLength : Nat) : Except ProviderFault Unit :=
  if Text.isBlank value then .error (.valueError (fieldName ++ " must not be blank"))
  else if maxLength < value.length then .error (.valueError (fieldName ++ " is too long"))
  else .ok ()

/-- Raise a `ValueError` unless the condition holds. -/
def check (c : Bool) (text : String) : Except ProviderFault Unit :=
  if c then .ok () else .error (.valueError text)

/-- `ProtocolFamily`. -/
inductive ProtocolFamily where
  | anthropicMessages
  | openaiCompatible
  | local
  | custom
  deriving DecidableEq, Repr

/-- `ProviderTrustClass`. -/
inductive ProviderTrustClass where
  | firstParty
  | trustedThirdParty
  | local
  | unknown
  deriving DecidableEq, Repr

/-- `EgressBoundary`. -/
inductive EgressBoundary where
  | externalThirdParty
  | externalFirstParty
  | localMachine
  | noEgress
  | unknown
  deriving DecidableEq, Repr

/-- `HarnessStrategy`. -/
inductive HarnessStrategy where
  | claudeCodeCli
  | directApi
  | localCli
  | zcodeAppServer
  deriving DecidableEq, Repr

/-- `ModelCostClass`. -/
inductive ModelCostClass where
  | unknown
  | free
  | lowCost
  | standard
  | premium
  deriving DecidableEq, Repr

/-- `ProviderHealth`. -/
inductive ProviderHealth where
  | unknown
  | available
  | degraded
  | unavailable
  | authFailed
  | rateLimited
  | quotaExhausted
  deriving DecidableEq, Repr

/-- `HarnessRuntimeBinding` (`provider_configuration.py:26-53`). -/
structure HarnessRuntimeBinding where
  harnessStrategy : HarnessStrategy
  runtimeProviderRef : String
  runtimeModelRef : String
  deriving DecidableEq, Repr

def HarnessRuntimeBinding.check (b : HarnessRuntimeBinding) : Except ProviderFault Unit := do
  Provider.check (isRuntimeBindingRef b.runtimeProviderRef) "runtime_provider_ref is invalid"
  Provider.check (isRuntimeBindingRef b.runtimeModelRef) "runtime_model_ref is invalid"

theorem check_eq_ok {c : Bool} {text : String} : check c text = .ok () ↔ c = true := by
  unfold check
  cases c <;> simp

theorem HarnessRuntimeBinding.check_refs {b : HarnessRuntimeBinding} (h : b.check = .ok ()) :
    isRuntimeBindingRef b.runtimeProviderRef = true ∧
      isRuntimeBindingRef b.runtimeModelRef = true := by
  unfold HarnessRuntimeBinding.check at h
  cases hprovider : Provider.check (isRuntimeBindingRef b.runtimeProviderRef)
      "runtime_provider_ref is invalid" with
  | error e =>
    rw [hprovider] at h
    cases h
  | ok =>
    rw [hprovider] at h
    exact ⟨check_eq_ok.mp hprovider, check_eq_ok.mp h⟩

/-- `ActorCapabilityEvidence` (`provider_configuration.py:213-223`). -/
structure ActorCapabilityEvidence where
  capability : String
  evidenceLevel : String
  source : String
  deriving DecidableEq, Repr

def ActorCapabilityEvidence.check (e : ActorCapabilityEvidence) : Except ProviderFault Unit := do
  requireText e.capability "capability" 128
  requireText e.source "source" 256
  Provider.check (["DECLARED", "OBSERVED", "VERIFIED", "UNKNOWN"].elem e.evidenceLevel)
    "evidence_level is invalid"

/-- `ProviderModelConfiguration` (`provider_configuration.py:233-266`). -/
structure ProviderModelConfiguration where
  modelId : String
  displayName : String
  actorCapabilities : List ActorCapabilityEvidence := []
  supportedEffortLevels : List String := []
  contextWindowTokens : Option Int := none
  runtimeBinding : Option HarnessRuntimeBinding := none
  costClass : ModelCostClass := .unknown
  deriving DecidableEq, Repr

def ProviderModelConfiguration.check (m : ProviderModelConfiguration) :
    Except ProviderFault Unit := do
  requireText m.modelId "model_id" 128
  requireText m.displayName "display_name" 128
  m.actorCapabilities.forM ActorCapabilityEvidence.check
  Provider.check (m.supportedEffortLevels.all fun l => ["LOW", "HIGH", "MAX", "DEFAULT"].elem l)
    "supported_effort_levels contains an invalid value"
  Provider.check m.supportedEffortLevels.Nodup "supported_effort_levels must be unique"
  Provider.check (m.contextWindowTokens.all (1 ≤ ·))
    "context_window_tokens must be positive or None"
  match m.runtimeBinding with
  | none => .ok ()
  | some b => b.check

/-- The fields of `ProviderConfiguration` (`provider_configuration.py:281-295`). -/
structure ProviderProfile where
  providerId : String
  displayName : String
  providerType : String
  protocolFamily : ProtocolFamily
  endpointRef : String
  credentialRef : String
  trustClass : ProviderTrustClass
  egressBoundary : EgressBoundary
  harnessStrategies : List HarnessStrategy
  maxConcurrency : Int
  models : List ProviderModelConfiguration
  enabled : Bool
  schemaVersion : String := "1.0.0"
  deriving DecidableEq, Repr

/-- `ProviderConfiguration.__post_init__` (`provider_configuration.py:297-339`); the models
    were checked when they were built. -/
def ProviderProfile.check (p : ProviderProfile) : Except ProviderFault Unit := do
  Provider.check (isProviderId p.providerId) "provider_id is invalid"
  requireText p.displayName "display_name" 128
  requireText p.providerType "provider_type" 64
  Provider.check (isEndpointRef p.endpointRef) "endpoint_ref is invalid"
  Provider.check (isCredentialRef p.credentialRef) "credential_ref is invalid"
  Provider.check (p.harnessStrategies ≠ [] && p.harnessStrategies.Nodup)
    "harness_strategies must be non-empty and unique"
  p.models.forM ProviderModelConfiguration.check
  Provider.check (p.models ≠ []) "models must not be empty"
  Provider.check (1 ≤ p.maxConcurrency && p.maxConcurrency ≤ 64)
    "max_concurrency must be between 1 and 64"
  Provider.check (["1.0.0", "1.1.0"].elem p.schemaVersion) "schema_version is unsupported"
  Provider.check (p.schemaVersion ≠ "1.0.0" || p.models.all fun m => m.runtimeBinding.isNone)
    "runtime bindings require schema_version 1.1.0"

/-- `ProviderConfiguration`. -/
structure ProviderConfiguration extends ProviderProfile where
  checked : toProviderProfile.check = .ok ()
  deriving DecidableEq, Repr

/-- `ProviderEndpointConfig` (`provider_configuration.py:355-378`). -/
structure ProviderEndpointConfig where
  endpointRef : String
  baseUrl : String
  checked : isEndpointRef endpointRef = true
  deriving DecidableEq, Repr

/-- `ProviderObservation` (`provider_configuration.py:424-458`). -/
structure ProviderObservation where
  providerId : String
  health : ProviderHealth
  observedAt : Int
  provenance : String
  latencyMs : Option Int
  quotaJson : Option String
  schemaVersion : String := "1.0.0"
  configurationGeneration : Option Int
  deriving DecidableEq, Repr

end AConductor.Provider

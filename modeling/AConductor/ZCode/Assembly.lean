import AConductor.Execution.Coordinator
import AConductor.Provider.Store
import AConductor.ZCode.Protocol
import AConductor.ZCode.ScopeGates

/-!
# ZCode: the assembly of a launch

`_assemble_zcode_execution_impl` of `src/a_conductor/zcode_production_assembly.py:246-571` with the
constructors it calls: `ZCodeTaskPacketIdentity.from_task_packet_file`
(`zcode_runner.py:135-180`), `ZCodeRuntimeModel` (`zcode_protocol.py:69-106`),
`ZCodeServiceLifecycleLauncher` (`zcode_runner.py:784-828`), `SupervisedRunIdentity`
(`supervised_run_coordinator.py:126-163`) and `classify_author_provenance`
(`zero_relay_author_provenance.py:225-252`). Texts have no lone surrogates, on which the runtime
identity could not be encoded, and the deadline is an exact number.
-/

namespace AConductor.ZCode

open Lease Provider Execution Except

/-- What the assembly raises: a `ZCodeAssemblyError` or a `ZCodeRunError` with its code, or a
    `ValueError`. -/
inductive AssemblyFault where
  | assemblyError (code : String)
  | runError (code : String)
  | valueError (text : String)
  deriving DecidableEq, Repr

abbrev Assembly := Except AssemblyFault

/-- `hashlib.sha256(data).hexdigest()`. -/
structure Sha256 where
  digest : List UInt8 → String
  hex : ∀ data, Text.isHex 64 (digest data) = true

/-- What the assembly takes from its surroundings: `ntpath.normcase` after `ntpath.normpath`,
    `str.casefold`, `str(Path(p).expanduser().resolve(strict=False))` (`none` is the `ValueError`),
    `Path.relative_to`, `Path.name`, the bytes of a file, the address test of `urlsplit`, a naive
    timestamp read in UTC, and the two readings of the clock. -/
structure AssemblyHost where
  normPath : String → String
  casefold : String → String
  casefoldHex : ∀ s, Text.isHex 64 s = true → casefold s = s
  resolve : String → Option String
  resolveAbsolute : ∀ p path, resolve p = some path → Text.isBlank path = false
  isWithin : String → String → Bool
  fileName : String → String
  readBytes : String → Option (List UInt8)
  urlAccepted : PyStr → Bool
  naiveMicros : String → Int
  leaseNow : Int
  admissionNow : Int

/-- `_require_text` (`claude_code_harness.py:43-48`). -/
def packetText (value : String) (maxLength : Nat) : Bool :=
  !Text.isBlank value && !Text.hasChar value '\x00' && value.length ≤ maxLength

/-- `TaskPacketFile` (`claude_code_harness.py:145-154`). -/
structure TaskPacketFile where
  taskContractRef : String
  path : String
  sha256 : String
  checked : (packetText taskContractRef 512 && packetText path 2048 &&
    decide (sha256.length = 64) && sha256.toList.all fun c =>
      c.isDigit || ('a' ≤ c && c ≤ 'f') || ('A' ≤ c && c ≤ 'F')) = true
  deriving DecidableEq, Repr

/-- `ProviderConfigurationSnapshot` (`provider_config_store.py:67-73`), less the observation. -/
structure ProviderConfigurationSnapshot where
  profile : Option ProviderConfiguration
  endpoint : Option ProviderEndpointConfig
  generation : Option Int
  deriving DecidableEq, Repr

/-- An accepted record that is consumed: absent, of another type, or the canonical one. -/
inductive Evidence (α : Type) where
  | missing
  | foreign
  | canonical (record : α)
  deriving DecidableEq, Repr

/-- An injected authority: absent, without its method, or usable. -/
inductive Port where
  | absent
  | unusable
  | usable
  deriving DecidableEq, Repr

/-- `ZCodeExecutionAuthorities` (`zcode_production_assembly.py:92-130`). -/
structure ZCodeExecutionAuthorities where
  providerSnapshot : ProviderConfigurationSnapshot
  supervisedController : Bool
  supervisedObserver : Bool
  pythonExecutable : String
  leaseEvidence : Evidence WorkerLease
  admissionEvidence : Evidence ProviderAdmissionRecord
  leaseHealthReader : Port
  liveWorktreeObserver : Port
  dispatchBatchId : String
  dispatchExecutionId : Option String
  projectId : String
  requestedMutableScope : List PyStr
  workerId : String
  repoRoot : String
  branch : String
  head : String
  dirty : Bool
  deriving DecidableEq, Repr

/-- The other arguments (`zcode_production_assembly.py:246-259`), less the workspace, which is not
    read. -/
structure AssemblyRequest where
  packet : TaskPacketFile
  modelId : String
  expectedGeneration : Option Int
  expectedBaseUrl : String
  secretReference : String
  executable : String
  bundleJs : String
  deadlineSeconds : ℚ
  deriving DecidableEq, Repr

/-- `ZCodeTaskPacketIdentity` (`zcode_runner.py:120-133`). -/
structure ZCodeTaskPacketIdentity where
  taskContractRef : String
  packetSha256 : String
  content : String
  path : String
  trustedRoot : String
  deriving DecidableEq, Repr

/-- `ZCodeServiceLifecycleLauncher` (`zcode_runner.py:784-828`), less the objects it calls. -/
structure ZCodeServiceLifecycleLauncher where
  expectedBinding : HarnessRuntimeBinding
  expectedBaseUrl : String
  runtimeModel : ZCodeRuntimeModel
  secretReference : String
  packet : ZCodeTaskPacketIdentity
  executable : String
  bundleJs : String
  maxResponseBytes : Int := 65536
  deadline : ℚ
  maxPacketBytes : Int := 262144
  credentialDeliveryKey : String := "ANTHROPIC_API_KEY"
  deriving DecidableEq, Repr

/-- `SupervisedZCodeRunner` (`zcode_runner.py:951-993`), less the store and the clocks. -/
structure SupervisedZCodeRunner where
  identity : SupervisedRunIdentity
  adapter : ZCodeServiceLifecycleLauncher
  executable : String
  bundleJs : String
  taskPacket : ZCodeTaskPacketIdentity
  preDispatchGuard : Option WorkerLeasePreDispatchGuard
  liveWorktreeObserver : Bool
  deriving DecidableEq, Repr

def orFault {α : Type} (fault : AssemblyFault) : Option α → Assembly α
  | some a => .ok a
  | none => .error fault

theorem orFault_eq_ok {α : Type} {fault : AssemblyFault} {value : Option α} {a : α} :
    orFault fault value = .ok a ↔ value = some a := by
  cases value <;> simp [orFault]

/-- `value`, or the code of what is missing. -/
def need {α : Type} (value : Option α) (code : String) : Assembly α :=
  orFault (.assemblyError code) value

def Evidence.accepted {α : Type} (missing invalid : String) : Evidence α → Assembly α
  | .missing => .error (.assemblyError missing)
  | .foreign => .error (.assemblyError invalid)
  | .canonical record => .ok record

def refuse (condition : Prop) [Decidable condition] (code : String) : Assembly Unit :=
  rejectIf condition (.assemblyError code)

@[simp] theorem refuse_eq_ok {condition : Prop} [Decidable condition] {code : String} {u : Unit} :
    refuse condition code = .ok u ↔ ¬ condition := rejectIf_eq_ok

/-- `ZCodeTaskPacketIdentity.from_task_packet_file` (`zcode_runner.py:135-180`). -/
def fromTaskPacketFile (sha256 : Sha256) (host : AssemblyHost) (packet : TaskPacketFile)
    (trustedRoot : String) : Assembly ZCodeTaskPacketIdentity := do
  let root ← orFault (.valueError "trusted root is invalid") (host.resolve trustedRoot)
  let path ← orFault (.runError "ZCODE_TASK_PACKET_OUTSIDE_TRUSTED_ROOT")
    ((host.resolve packet.path).filter fun path => host.isWithin root path)
  let raw ← orFault (.runError "ZCODE_TASK_PACKET_UNREADABLE") (host.readBytes path)
  rejectIf (262144 < raw.length) (.runError "ZCODE_TASK_PACKET_TOO_LARGE")
  rejectIf (host.casefold (sha256.digest raw) ≠ host.casefold packet.sha256)
    (.runError "ZCODE_TASK_PACKET_HASH_MISMATCH")
  let content ← orFault (.runError "ZCODE_TASK_PACKET_UNREADABLE")
    ((PyStr.decodeChars raw).map String.ofList)
  return { taskContractRef := packet.taskContractRef, packetSha256 := sha256.digest raw, content
           path, trustedRoot }

/-- The generation and the runtime binding (`zcode_production_assembly.py:273-294`). -/
def providerGates (snapshot : ProviderConfigurationSnapshot) (request : AssemblyRequest) :
    Assembly (Int × ProviderConfiguration × HarnessRuntimeBinding) := do
  let generation ← need (snapshot.generation.filter fun g => request.expectedGeneration = some g)
    "ZCODE_PROVIDER_GENERATION_DRIFT"
  let profile ← need snapshot.profile "ZCODE_PROVIDER_UNAVAILABLE"
  refuse (.zcodeAppServer ∉ profile.harnessStrategies) "ZCODE_STRATEGY_NOT_CONFIGURED"
  let model := profile.models.find? fun m => m.modelId = request.modelId
  let binding ← need (model.bind ProviderModelConfiguration.runtimeBinding)
    "ZCODE_RUNTIME_BINDING_MISSING"
  refuse (binding.harnessStrategy ≠ .zcodeAppServer) "ZCODE_STRATEGY_MISMATCH"
  refuse (profile.protocolFamily ≠ .anthropicMessages) "ZCODE_RUNTIME_PROTOCOL_UNSUPPORTED"
  refuse (request.secretReference ≠ profile.credentialRef) "ZCODE_CREDENTIAL_REFERENCE_UNAUTHORIZED"
  return (generation, profile, binding)

/-- The dispatch context (`zcode_production_assembly.py:303-310`). -/
def dispatchContextGate (a : ZCodeExecutionAuthorities) : Assembly Unit :=
  refuse (Text.isBlank a.dispatchBatchId = true ∨
    Text.isBlank (a.dispatchExecutionId.getD "") = true ∨ Text.isBlank a.projectId = true)
    "ZCODE_DISPATCH_CONTEXT_MISSING"

/-- `verify_execution_context` (`zcode_production_assembly.py:574-592`). -/
def verifyExecutionContext (host : AssemblyHost) (a : ZCodeExecutionAuthorities)
    (lease : WorkerLease) : Assembly Unit := do
  refuse (a.dirty = true) "ZCODE_WORKTREE_DIRTY"
  refuse (a.branch ≠ lease.branch) "ZCODE_BRANCH_DRIFT"
  refuse (host.casefold a.head ≠ host.casefold lease.expectedHead) "ZCODE_HEAD_DRIFT"

/-- The reviewer's scope gates (`zcode_production_assembly.py:334-343`). -/
def reviewScopeGates (lease : WorkerLease) (requested : List PyStr) : Except String Unit := do
  rejectIf (lease.mutationIntent ≠ .readOnly) "ZCODE_REVIEW_LEASE_INTENT_MISMATCH"
  rejectIf (lease.mutableScope ≠ []) "ZCODE_REVIEW_LEASE_SCOPE_NOT_EMPTY"
  rejectIf (requested ≠ []) "ZCODE_REVIEW_REQUESTED_SCOPE_NOT_EMPTY"

/-- The end of a lease (`zcode_production_assembly.py:370-380`); a naive time is read in UTC. -/
def leaseExpiryGate (host : AssemblyHost) : Option Stamp → Assembly Unit
  | none => .ok ()
  | some (.instant expires) => refuse (expires ≤ host.leaseNow) "ZCODE_LEASE_EXPIRED"
  | some (.naive raw) => refuse (host.naiveMicros raw ≤ host.leaseNow) "ZCODE_LEASE_EXPIRED"
  | some (.malformed _) => .error (.assemblyError "ZCODE_LEASE_INVALID")

/-- The lease authority (`zcode_production_assembly.py:316-380`). -/
def leaseGates (host : AssemblyHost) (a : ZCodeExecutionAuthorities) (request : AssemblyRequest)
    (reviewOnly : Bool) : Assembly WorkerLease := do
  let lease ← a.leaseEvidence.accepted "ZCODE_LEASE_ADMISSION_MISSING" "ZCODE_LEASE_INVALID"
  verifyExecutionContext host a lease
  refuse (lease.workerId ≠ a.workerId) "ZCODE_LEASE_WORKER_MISMATCH"
  let key ← (windowsWorktreeKey ⟨host.normPath, fun _ => none⟩ a.repoRoot).mapError fun _ =>
    .valueError "worktree path must not be blank"
  refuse (lease.worktreeKey ≠ key) "ZCODE_LEASE_WORKTREE_MISMATCH"
  refuse (lease.taskId ≠ request.packet.taskContractRef) "ZCODE_LEASE_TASK_MISMATCH"
  refuse (a.projectId ≠ lease.projectId) "ZCODE_PROJECT_MISMATCH"
  (if reviewOnly then reviewScopeGates lease a.requestedMutableScope
    else mutationScopeGates lease a.requestedMutableScope).mapError .assemblyError
  refuse (lease.releasedAt.isSome ∨ lease.quarantinedAt.isSome) "ZCODE_LEASE_NOT_ACTIVE"
  leaseExpiryGate host lease.expiresAt
  return lease

/-- The provider admission (`zcode_production_assembly.py:389-420`); the time of a record is
    aware. -/
def admissionGates (host : AssemblyHost) (a : ZCodeExecutionAuthorities)
    (request : AssemblyRequest) (profile : ProviderConfiguration) : Assembly Unit := do
  let admission ← a.admissionEvidence.accepted "ZCODE_PROVIDER_ADMISSION_MISSING"
    "ZCODE_ADMISSION_INVALID"
  refuse (admission.providerId ≠ profile.providerId) "ZCODE_ADMISSION_PROVIDER_MISMATCH"
  refuse (admission.status ≠ .active) "ZCODE_ADMISSION_NOT_ACTIVE"
  refuse (admission.releasedAt.isSome) "ZCODE_ADMISSION_RELEASED"
  refuse (admission.configurationGeneration.isNone ∨
    admission.configurationGeneration ≠ request.expectedGeneration)
    "ZCODE_ADMISSION_GENERATION_DRIFT"
  refuse (admission.expiresAt ≤ host.admissionNow) "ZCODE_ADMISSION_EXPIRED"
  refuse (admission.batchId ≠ a.dispatchBatchId) "ZCODE_ADMISSION_BATCH_MISMATCH"
  refuse (some admission.executionId ≠ a.dispatchExecutionId)
    "ZCODE_ADMISSION_EXECUTION_MISMATCH"

/-- The endpoint authority (`zcode_production_assembly.py:426-431`). -/
def endpointGate (snapshot : ProviderConfigurationSnapshot) (request : AssemblyRequest) :
    Assembly String := do
  let baseUrl ← need ((snapshot.endpoint.map ProviderEndpointConfig.baseUrl).filter fun url =>
    !Text.isBlank url) "ZCODE_ENDPOINT_AUTHORITY_MISSING"
  refuse (Text.strip request.expectedBaseUrl ≠ Text.strip baseUrl) "ZCODE_ENDPOINT_UNAUTHORIZED"
  return baseUrl

/-- The six parts of the runtime identity between its NULs. -/
structure RuntimeFacts where
  providerId : String
  modelId : String
  endpointBaseUrl : String
  runtimeProviderRef : String
  runtimeModelRef : String
  generation : Int
  deriving DecidableEq, Repr

/-- `s.encode("utf-8")`. -/
def utf8 (s : String) : List UInt8 := PyStr.encodeChars s.toList

/-- The text that the runtime identity is the digest of. -/
def RuntimeFacts.material (f : RuntimeFacts) : String :=
  "zcode-runtime-v1" ++ f.providerId ++ "\x00" ++ f.modelId ++ "\x00" ++ f.endpointBaseUrl ++
    "\x00" ++ f.runtimeProviderRef ++ "\x00" ++ f.runtimeModelRef ++ "\x00" ++ toString f.generation

/-- `derive_zcode_runtime_identity` (`zcode_production_assembly.py:59-89`). -/
def deriveZcodeRuntimeIdentity (sha256 : Sha256) (f : RuntimeFacts) : String :=
  "zcode-runtime-v1:" ++ sha256.digest (utf8 f.material)

/-- `value == value.strip()` of a value that is not blank. -/
def isStripped (value : PyStr) : Bool :=
  !isBlank value && !isBlank (value.take 1) && !isBlank (value.drop (value.length - 1))

/-- `provider_id` or `model_id` of a runtime model (`zcode_protocol.py:72-81`). -/
def isRuntimeId (value : PyStr) : Bool :=
  isStripped value && value.length ≤ 128 && decide (.char '\x00' ∉ value)

/-- `_RUNTIME_MODEL_REVISION_RE` (`zcode_protocol.py:47`). -/
def isRevision (value : PyStr) : Bool :=
  (value.toChars?.map String.ofList).any fun s => Text.startsWith s "zcode-runtime-v1:" &&
    Text.isHex 64 (String.ofList (s.toList.drop 17))

/-- `_RUNTIME_ENV_RE` (`zcode_protocol.py:48`), also `_ENV_NAME_RE` of the helper. -/
def isEnvName (s : String) : Bool :=
  match s.toList with
  | [] => false
  | c :: cs => ('A' ≤ c && c ≤ 'Z') && cs.length ≤ 63 &&
    cs.all fun c => ('A' ≤ c && c ≤ 'Z') || c.isDigit || c = '_'

/-- The checks of `ZCodeRuntimeModel.__post_init__` (`zcode_protocol.py:69-106`). -/
def ZCodeRuntimeModel.valid (urlAccepted : PyStr → Bool) (m : ZCodeRuntimeModel) : Bool :=
  isRevision m.revision && isRuntimeId m.providerId && isRuntimeId m.modelId &&
    isStripped m.baseUrl && urlAccepted m.baseUrl &&
    (m.apiKeyEnv.toChars?.map String.ofList).any isEnvName

/-- The runtime model (`zcode_production_assembly.py:437-455`). -/
def runtimeModel (host : AssemblyHost) (revision : String) (f : RuntimeFacts) :
    Assembly ZCodeRuntimeModel := do
  let model : ZCodeRuntimeModel :=
    { revision := .lit revision, providerId := .lit f.providerId, modelId := .lit f.modelId
      baseUrl := .lit f.endpointBaseUrl, apiKeyEnv := .lit "ANTHROPIC_API_KEY" }
  refuse (model.valid host.urlAccepted = false) "ZCODE_RUNTIME_MODEL_INVALID"
  return model

/-- The service authorities and the arguments of `SupervisedExecutionService`
    (`zcode_production_assembly.py:460-484`, `supervised_execution.py:243-253`). -/
def serviceGates (host : AssemblyHost) (a : ZCodeExecutionAuthorities)
    (request : AssemblyRequest) : Assembly Unit := do
  refuse (a.supervisedController = false ∨ a.supervisedObserver = false ∨
    Text.isBlank a.pythonExecutable = true) "ZCODE_SERVICE_AUTHORITY_MISSING"
  refuse (Text.isBlank (host.fileName request.executable) = true ∨
    Text.hasChar (host.fileName request.executable) '\x00' = true ∨
    Text.hasChar a.pythonExecutable '\x00' = true) "ZCODE_SERVICE_AUTHORITY_INVALID"

/-- `ZCodeServiceLifecycleLauncher.__init__` (`zcode_runner.py:801-828`); the budget and the
    delivery key are the defaults, which pass their checks. -/
def newLauncher (binding : HarnessRuntimeBinding) (baseUrl : String) (model : ZCodeRuntimeModel)
    (request : AssemblyRequest) (packet : ZCodeTaskPacketIdentity) :
    Assembly ZCodeServiceLifecycleLauncher := do
  rejectIf (Text.startsWith request.secretReference "secret-ref:" = false)
    (.valueError "secret_reference must use the accepted secret-ref authority")
  rejectIf (request.deadlineSeconds ≤ 0) (.valueError "deadline_seconds must be positive")
  return { expectedBinding := binding, expectedBaseUrl := baseUrl, runtimeModel := model
           secretReference := request.secretReference, packet, executable := request.executable
           bundleJs := request.bundleJs, deadline := request.deadlineSeconds }

/-- `_identity_text` (`zero_relay_author_provenance.py:48-55`). -/
def isIdentityText (value : String) : Bool :=
  !Text.isBlank value && decide (Text.strip value = value) && value.length ≤ 1024 &&
    !Text.hasChar value '\x00' && !Text.hasChar value '\r' && !Text.hasChar value '\n'

/-- `classify_author_provenance` (`zero_relay_author_provenance.py:225-252`); the packet digest is
    one. -/
def classifyAuthorProvenance (taskContractRef : String) : Assembly AuthorProvenanceBinding := do
  refuse (isIdentityText taskContractRef = false) "ZCODE_PROVENANCE_INPUT_INVALID"
  if Text.startsWith taskContractRef "zra2-repair-" then
    refuse (Text.startsWith taskContractRef "zra2-repair-v1:" = false ∨
      Text.isHex 64 (String.ofList (taskContractRef.toList.drop 15)) = false)
      "ZCODE_REPAIR_CONTRACT_UNSUPPORTED"
    .error (.assemblyError "ZCODE_REPAIR_LINEAGE_UNAVAILABLE")
  else return ⟨0, taskContractRef⟩

/-- The provenance of a run (`zcode_production_assembly.py:511-519`); a reviewer has none. -/
def authorProvenance (taskContractRef : String) (reviewOnly : Bool) :
    Assembly (Option AuthorProvenanceBinding) :=
  if reviewOnly then .ok none else (classifyAuthorProvenance taskContractRef).map some

/-- `_require_text` (`supervised_run_coordinator.py:87-90`). -/
def requireIdentityText (field : String × String) : Assembly Unit :=
  rejectIf (Text.isBlank field.2 = true ∨ Text.hasChar field.2 '\x00' = true)
    (.valueError (field.1 ++ " must be a non-blank string"))

/-- `SupervisedRunIdentity.__post_init__` (`supervised_run_coordinator.py:141-163`). -/
def checkedIdentity (i : SupervisedRunIdentity) : Assembly SupervisedRunIdentity := do
  [("job_id", i.jobId), ("work_order_ref", i.workOrderRef), ("project_id", i.projectId),
    ("worker_id", i.workerId), ("backend_id", i.backendId), ("branch", i.branch),
    ("head_before", i.headBefore), ("runtime_profile_ref", i.runtimeProfileRef),
    ("repo_root", i.repoRoot)].forM requireIdentityText
  return i

/-- The launch-time guard of the writer route (`zcode_production_assembly.py:536-548`). -/
def guardPort (a : ZCodeExecutionAuthorities) (lease : WorkerLease) (reviewOnly : Bool) :
    Assembly (Option WorkerLeasePreDispatchGuard) :=
  if reviewOnly then .ok none
  else match a.leaseHealthReader with
    | .absent => .ok none
    | .unusable => .error (.assemblyError "ZCODE_PRE_DISPATCH_GUARD_INVALID")
    | .usable => .ok (some ⟨lease, a.requestedMutableScope⟩)

/-- The live observer of the writer route (`zcode_production_assembly.py:561-569`). -/
def observerPort (a : ZCodeExecutionAuthorities) (reviewOnly : Bool) : Assembly Bool :=
  if reviewOnly then .ok false
  else match a.liveWorktreeObserver with
    | .absent =>
      if a.leaseHealthReader = .absent then .ok false
      else .error (.assemblyError "ZCODE_LIVE_IDENTITY_OBSERVER_MISSING")
    | .unusable => .error (.assemblyError "ZCODE_LIVE_IDENTITY_OBSERVER_INVALID")
    | .usable => .ok true

/-- `_assemble_zcode_execution_impl` (`zcode_production_assembly.py:246-571`). -/
def assembleZcodeExecutionImpl (sha256 : Sha256) (host : AssemblyHost)
    (a : ZCodeExecutionAuthorities) (request : AssemblyRequest) (reviewOnly : Bool) :
    Assembly SupervisedZCodeRunner := do
  refuse (a.dirty = true) "ZCODE_WORKTREE_DIRTY"
  let (generation, profile, binding) ← providerGates a.providerSnapshot request
  let packet ← fromTaskPacketFile sha256 host request.packet a.repoRoot
  dispatchContextGate a
  let lease ← leaseGates host a request reviewOnly
  admissionGates host a request profile
  let baseUrl ← endpointGate a.providerSnapshot request
  let facts : RuntimeFacts :=
    { providerId := profile.providerId, modelId := request.modelId, endpointBaseUrl := baseUrl
      runtimeProviderRef := binding.runtimeProviderRef, runtimeModelRef := binding.runtimeModelRef
      generation }
  let model ← runtimeModel host (deriveZcodeRuntimeIdentity sha256 facts) facts
  serviceGates host a request
  let launcher ← newLauncher binding baseUrl model request packet
  let provenance ← authorProvenance request.packet.taskContractRef reviewOnly
  let identity ← checkedIdentity
    { jobId := "job:" ++ request.packet.taskContractRef
      workOrderRef := request.packet.taskContractRef, projectId := lease.projectId
      workerId := a.workerId, backendId := "zcode-app-server", branch := a.branch
      headBefore := a.head, runtimeProfileRef := deriveZcodeRuntimeIdentity sha256 facts
      repoRoot := a.repoRoot, authorProvenance := provenance }
  let guard ← guardPort a lease reviewOnly
  let observer ← observerPort a reviewOnly
  return { identity, adapter := launcher, executable := request.executable
           bundleJs := request.bundleJs, taskPacket := packet, preDispatchGuard := guard
           liveWorktreeObserver := observer }

/-- `assemble_zcode_execution` (`zcode_production_assembly.py:168-209`). -/
def assembleZcodeExecution (sha256 : Sha256) (host : AssemblyHost)
    (a : ZCodeExecutionAuthorities) (request : AssemblyRequest) : Assembly SupervisedZCodeRunner :=
  assembleZcodeExecutionImpl sha256 host a request false

/-- `assemble_zcode_review_execution` (`zcode_production_assembly.py:212-243`). -/
def assembleZcodeReviewExecution (sha256 : Sha256) (host : AssemblyHost)
    (a : ZCodeExecutionAuthorities) (request : AssemblyRequest) : Assembly SupervisedZCodeRunner :=
  assembleZcodeExecutionImpl sha256 host a request true

end AConductor.ZCode

import AConductor.Graph.Dispatch
import AConductor.Graph.Scheduler
import AConductor.Lib.Dict
import AConductor.Provider.Store
import AConductor.WorkerLease.Broker

/-!
# Parallel ready execution: tasks, answers and outcomes

The data of `src/a_conductor/parallel_ready_execution.py:58-450` and its decisions that
touch nothing outside: the reason codes, the readiness and the quota of a provider, the
check of an admission and of its release, and the reading of a dispatch result. A port
may answer with an object of another class; such answers are the `other` constructors.
Times are microseconds, and a clock value that is no aware datetime is `none`. The
identities that `ParallelReadyTask.__post_init__` compares are not read again by the
executor and are left out.
-/

namespace AConductor.Parallel

open Provider AConductor.Graph Lease Job

/-- `ParallelReadyOutcomeKind` (`parallel_ready_execution.py:58-69`). -/
inductive ParallelReadyOutcomeKind where
  | runCompleted
  | runnerRecoveryRequired
  | providerWait
  | providerQuotaWait
  | providerCapacityWait
  | providerAdmissionRecoveryRequired
  | dispatchGateBlocked
  | leaseWait
  | leaseExistingReconcile
  | leaseRecoveryRequired
  | rdcReadOnly
  deriving DecidableEq, Repr

/-- The kinds that `_batch_kind` takes for a recovery
    (`elastic_worker_capacity.py:993-998`). -/
def ParallelReadyOutcomeKind.recoveryRequired (k : ParallelReadyOutcomeKind) : Bool :=
  k ∈ [.runnerRecoveryRequired, .providerAdmissionRecoveryRequired, .leaseRecoveryRequired,
    .leaseExistingReconcile]

/-- What a runner returns: a dispatch result, or another object. -/
inductive RunnerAnswer where
  | dispatch (r : GraphDispatchResult)
  | other
  deriving DecidableEq, Repr

/-- `ParallelReadyOutcome` (`parallel_ready_execution.py:72-79`). -/
structure ParallelReadyOutcome where
  nodeId : String
  kind : ParallelReadyOutcomeKind
  reasonCode : String
  leaseOutcome : Option WorkerLeaseOutcome := none
  runnerResult : Option RunnerAnswer := none
  providerAdmission : Option ProviderAdmissionRecord := none
  deriving DecidableEq, Repr

/-- `QuotaSnapshot` (`provider_configuration.py:391-398`), as far as it is read; a number of
    the source may have a fraction. -/
structure QuotaSnapshot where
  limit : Option Rat
  used : Option Rat
  remaining : Option Rat
  resetAt : Option Int
  resetInSeconds : Option Int
  deriving DecidableEq

/-- `ProviderObservation` with its quota. -/
structure ObservedProvider extends ProviderObservation where
  quota : Option QuotaSnapshot
  deriving DecidableEq

/-- `ProviderPolicyTaskSecurity` (`provider_policy.py:43-50`); the enumerations by their
    values. -/
structure ProviderPolicyTaskSecurity where
  privacyClass : String
  networkPolicy : String
  networkAllowlist : List String
  secretAccess : Bool
  deriving DecidableEq, Repr

/-- The three authority fields of a task, which are given together or not at all
    (`parallel_ready_execution.py:182-202`). -/
structure TaskAuthority where
  providerEndpoint : ProviderEndpointConfig
  providerSecurity : ProviderPolicyTaskSecurity
  expectedConfigurationGeneration : Int
  deriving DecidableEq

/-- `ProviderExecutionRequirement` (`provider_execution_authority.py:132-142`), as far as a
    snapshot is compared with it. -/
structure ProviderExecutionRequirement where
  providerId : String
  providerAuthorityRef : String
  expectedConfigurationGeneration : Int
  providerSecurity : ProviderPolicyTaskSecurity
  deriving DecidableEq

/-- `ParallelReadyTask` (`parallel_ready_execution.py:141-156`), with the one candidate and the
    execution id of the harness dispatch. -/
structure ParallelReadyTask where
  assignment : SelectedAssignment
  dispatchRequest : GraphDispatchRequest
  dispatchGate : DispatchGateDecision
  leaseRequest : BrokerRequest
  candidate : BrokerCandidate
  providerProfile : ProviderConfiguration
  providerObservation : Option ObservedProvider
  executionId : String
  authority : Option TaskAuthority
  requireQuota : Bool
  providerRequirement : Option ProviderExecutionRequirement
  deriving DecidableEq

def ParallelReadyTask.nodeId (t : ParallelReadyTask) : String := t.assignment.nodeId

def ParallelReadyTask.providerId (t : ParallelReadyTask) : String := t.providerProfile.providerId

/-- `task.expected_configuration_generation`. -/
def ParallelReadyTask.expectedGeneration (t : ParallelReadyTask) : Option Int :=
  t.authority.map TaskAuthority.expectedConfigurationGeneration

/-- An exception of a port: its `code` attribute, where that is a string. -/
structure Raised where
  code : Option String
  deriving DecidableEq, Repr

/-- What `execute` raises: a `ValueError` of its own, or what a port raised outside of a
    `try`. -/
inductive ExecuteFault where
  | valueError (text : String)
  | raised (e : Raised)
  deriving DecidableEq, Repr

/-- `_safe_reason_code` (`parallel_ready_execution.py:279-287`); `isalnum` is `str.isalnum` of
    one character. -/
def safeReasonCode (isalnum : Char → Bool) (code : Option String) (fallback : String) : String :=
  match code with
  | none => fallback
  | some c =>
    if c ≠ "" && c.length ≤ 128 &&
        c.toList.all (fun ch => isalnum ch || ch ∈ ['.', '_', ':', '-']) then c
    else fallback

/-- `_safe_exception_reason` (`parallel_ready_execution.py:290-291`). -/
def safeExceptionReason (isalnum : Char → Bool) (e : Raised) (fallback : String) : String :=
  safeReasonCode isalnum e.code fallback

/-- `is_provider_ready` (`provider_configuration.py:540-564`) with its default age. -/
def isProviderReady (profile : ProviderConfiguration) (observation : Option ObservedProvider)
    (now : Option Int) : Except ExecuteFault Bool :=
  match observation with
  | none => .ok false
  | some o =>
    if !profile.enabled || o.providerId ≠ profile.providerId || o.health ≠ .available then
      .ok false
    else
      match now with
      | none => .error (.valueError "now must be an aware datetime")
      | some current =>
        .ok (0 ≤ current - o.observedAt && current - o.observedAt ≤ 300 * 1000000)

/-- `_quota_reason` (`parallel_ready_execution.py:255-276`). -/
def quotaReason (t : ParallelReadyTask) : Option String :=
  if !t.requireQuota then none
  else
    match t.providerObservation.bind ObservedProvider.quota with
    | none => some "PROVIDER_QUOTA_UNKNOWN"
    | some q =>
      if q.limit.isNone || q.used.isNone || q.remaining.isNone || q.resetAt.isNone ||
          q.resetInSeconds.isNone then some "PROVIDER_QUOTA_UNKNOWN"
      else if q.remaining.any (· ≤ 0) then some "PROVIDER_QUOTA_EXHAUSTED"
      else none

/-- `ProviderAuthorityCheck` (`parallel_ready_execution.py:388-397`). -/
structure ProviderAuthorityCheck where
  allowed : Bool
  gateRefused : Bool
  providerUnavailable : Bool
  rateLimited : Bool
  reasonCode : String
  profile : ProviderConfiguration
  endpoint : Option ProviderEndpointConfig
  observation : Option ObservedProvider
  deriving DecidableEq

/-- `_authority_outcome` (`parallel_ready_execution.py:400-407`). -/
def authorityOutcome (nodeId : String) (check : ProviderAuthorityCheck) : ParallelReadyOutcome where
  nodeId := nodeId
  kind :=
    if check.gateRefused then .dispatchGateBlocked
    else if check.rateLimited then .providerQuotaWait
    else .providerWait
  reasonCode := check.reasonCode

/-- The arguments of `acquire_admission`. -/
structure AdmissionCall where
  providerId : String
  executionId : String
  batchId : String
  expectedMaxConcurrency : Int
  now : Option Int
  ttlSeconds : Nat
  expectedConfigurationGeneration : Option Int
  deriving DecidableEq, Repr

/-- The field `admission` of an admission result. -/
inductive AdmissionField where
  | missing
  | record (r : ProviderAdmissionRecord)
  | other
  deriving DecidableEq, Repr

def AdmissionField.record? : AdmissionField → Option ProviderAdmissionRecord
  | .record r => some r
  | .missing | .other => none

/-- What `acquire_admission` returns; a result may carry a kind that is none. -/
inductive AcquireAnswer where
  | result (kind : Option ProviderAdmissionKind) (reasonCode : Option String)
      (admission : AdmissionField)
  | other
  deriving DecidableEq, Repr

/-- The arguments of `release_admission`. -/
structure ReleaseCall where
  admissionId : String
  providerId : String
  executionId : String
  batchId : String
  now : Option Int
  deriving DecidableEq, Repr

inductive ReleaseAnswer where
  | record (r : ProviderAdmissionRecord)
  | other
  deriving DecidableEq, Repr

/-- `_validate_provider_admission_record` (`parallel_ready_execution.py:410-431`). -/
def validateProviderAdmissionRecord (t : ParallelReadyTask) (batchId : String)
    (admission : ProviderAdmissionRecord) (now : Option Int) : Option String :=
  if admission.providerId ≠ t.providerId || admission.executionId ≠ t.executionId ||
      admission.batchId ≠ batchId then some "PROVIDER_ADMISSION_IDENTITY_MISMATCH"
  else if admission.status ≠ .active then some "PROVIDER_ADMISSION_NOT_ACTIVE"
  else
    match now with
    | none => some "PROVIDER_ADMISSION_RECORD_INVALID"
    | some current =>
      if admission.expiresAt ≤ current then some "PROVIDER_ADMISSION_EXPIRED_RECONCILE"
      else if t.expectedGeneration.isSome && admission.configurationGeneration ≠ t.expectedGeneration
        then some "PROVIDER_ADMISSION_GENERATION_STALE"
      else none

/-- `_validate_provider_release_record` (`parallel_ready_execution.py:434-450`). -/
def validateProviderReleaseRecord (original : ProviderAdmissionRecord) :
    ReleaseAnswer → Option String
  | .other => some "PROVIDER_ADMISSION_RELEASE_INVALID"
  | .record released =>
    if released.admissionId ≠ original.admissionId || released.providerId ≠ original.providerId ||
        released.executionId ≠ original.executionId || released.batchId ≠ original.batchId ||
        released.configurationGeneration ≠ original.configurationGeneration ||
        released.status ≠ .released || released.releasedAt.isNone then
      some "PROVIDER_ADMISSION_RELEASE_INVALID"
    else none

/-- What the broker returns. -/
inductive LeaseAnswer where
  | outcome (o : WorkerLeaseOutcome)
  | other
  deriving DecidableEq, Repr

/-- `_lease_wait_outcome` (`parallel_ready_execution.py:363-385`). -/
def leaseWaitOutcome (nodeId : String) (o : WorkerLeaseOutcome) : ParallelReadyOutcome :=
  match o.kind with
  | .wait => { nodeId, kind := .leaseWait, reasonCode := "LEASE_WAIT", leaseOutcome := some o }
  | .existing =>
    { nodeId, kind := .leaseExistingReconcile, reasonCode := "LEASE_ALREADY_ACTIVE_RECONCILE",
      leaseOutcome := some o }
  | .recoveryRequired =>
    { nodeId, kind := .leaseRecoveryRequired, reasonCode := "LEASE_RECOVERY_REQUIRED",
      leaseOutcome := some o }
  | .rdcReadOnly =>
    { nodeId, kind := .rdcReadOnly, reasonCode := "RDC_READ_ONLY", leaseOutcome := some o }
  | .leased =>
    { nodeId, kind := .leaseRecoveryRequired, reasonCode := "LEASE_OUTCOME_UNSUPPORTED",
      leaseOutcome := some o }

/-- `_dispatch_job_matches_task` (`parallel_ready_execution.py:294-311`). -/
def dispatchJobMatchesTask (hash : DispatchHash) (result : GraphDispatchResult)
    (t : ParallelReadyTask) (lease : WorkerLease) : Bool :=
  let job := result.job
  let request := t.dispatchRequest
  if job.jobId ≠ hash.jobId request || job.projectId ≠ request.projectId ||
      job.workOrderRef ≠ request.workOrderRef || job.maxAttempts ≠ request.maxAttempts then false
  else if job.state ∈ [.claimed, .gating, .executing, .verifying, .reviewPending,
      .changesRequired, .repairing, .recoveryNeeded] then job.workerId = some lease.workerId
  else job.workerId = none

/-- The triple of `_typed_dispatch_policy`: the result is accepted, the admission may be
    released, and why. -/
structure TypedPolicy where
  accepted : Bool
  releaseAdmission : Bool
  reason : String
  deriving DecidableEq, Repr

/-- The part of `_typed_dispatch_policy` after the identity of the job
    (`parallel_ready_execution.py:321-361`). -/
def typedActionPolicy (reason : String) (result : GraphDispatchResult) : TypedPolicy :=
  match result.action with
  | .executed =>
    match result.execution with
    | none => ⟨false, false, "DISPATCH_EXECUTION_EVIDENCE_MISSING"⟩
    | some execution =>
      if result.job.state = .verifying && 1 ≤ result.job.attemptCount &&
          execution.job = result.job && execution.success && !execution.recoveryRequired &&
          execution.errorCode.isNone && execution.evidenceRef.isSome then ⟨true, true, reason⟩
      else ⟨false, false, "DISPATCH_EXECUTION_EVIDENCE_INVALID"⟩
  | .existing =>
    if result.execution.isSome then ⟨false, false, "DISPATCH_NONEXECUTION_EVIDENCE_INVALID"⟩
    else if result.job.state ∈ [.verifying, .reviewPending, .complete] then
      if result.job.attemptCount < 1 then ⟨false, false, "DISPATCH_EXISTING_STATE_INVALID"⟩
      else ⟨true, true, reason⟩
    else if result.job.state ∈ [.failed, .cancelled] then ⟨false, true, reason⟩
    else ⟨false, false, "DISPATCH_EXISTING_STATE_INVALID"⟩
  | .reconcile => ⟨false, false, reason⟩
  | .blocked =>
    if result.execution.isSome then ⟨false, false, "DISPATCH_NONEXECUTION_EVIDENCE_INVALID"⟩
    else if result.job.state = .blocked then ⟨false, true, reason⟩
    else ⟨false, false, "DISPATCH_BLOCKED_STATE_INVALID"⟩
  | .offered =>
    if result.execution.isSome then ⟨false, false, "DISPATCH_NONEXECUTION_EVIDENCE_INVALID"⟩
    else if result.job.state = .claimed then ⟨false, true, reason⟩
    else ⟨false, false, "DISPATCH_OFFERED_STATE_INVALID"⟩

/-- `_typed_dispatch_policy` (`parallel_ready_execution.py:314-361`). -/
def typedDispatchPolicy (hash : DispatchHash) (isalnum : Char → Bool) (result : RunnerAnswer)
    (t : ParallelReadyTask) (lease : WorkerLease) : TypedPolicy :=
  match result with
  | .other => ⟨false, false, "DISPATCH_RESULT_UNSUPPORTED"⟩
  | .dispatch r =>
    if !dispatchJobMatchesTask hash r t lease then
      ⟨false, false, "DISPATCH_RESULT_IDENTITY_MISMATCH"⟩
    else
      typedActionPolicy
        (safeReasonCode isalnum (some r.reasonCode) "DISPATCH_RESULT_RECONCILE_REQUIRED") r

end AConductor.Parallel

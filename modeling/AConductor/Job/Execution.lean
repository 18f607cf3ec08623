import AConductor.Job.EventSourcing
import AConductor.Lib.Proc

/-!
# Jobs: the execution coordinator

`DurableJobExecutionCoordinator` (`src/a_conductor/job_execution.py:151-299`): one
operation of a caller, wrapped in durable transitions. A call is a `Proc` over the
job store; it notes a precondition that failed, its commit into `EXECUTING`, and the
invocation of the backend. What the backend answers and the event ids that the store
draws are part of the call.
-/

namespace AConductor.Job

open Proc

/-- What `execute` can raise. -/
inductive ExecutionFault where
  | job (fault : JobFault)
  | coordinatorError (code : String) (recoveryRequired : Bool)
  deriving DecidableEq, Repr

/-- `JobExecutionContext` (`job_execution.py:99-118`). -/
structure JobExecutionContext where
  jobId : String
  workOrderRef : String
  projectId : String
  workerId : String
  attemptNo : Int
  maxAttempts : Int
  deriving DecidableEq, Repr

/-- `JobExecutionContext.__post_init__`. -/
def JobExecutionContext.check (c : JobExecutionContext) : Except JobFault Unit := do
  requireText c.jobId "job_id"
  requireText c.workOrderRef "work_order_ref"
  requireText c.projectId "project_id"
  requireText c.workerId "worker_id"
  requirePositiveInt c.attemptNo "attempt_no"
  requirePositiveInt c.maxAttempts "max_attempts"
  if c.maxAttempts < c.attemptNo then
    .error (.valueError "attempt_no cannot exceed max_attempts")

/-- `JobBackendResult` (`job_execution.py:53-79`), as its constructor leaves it: a
    success has evidence and nothing else, a failure a classification. -/
inductive JobBackendResult where
  | success (evidenceRef : String)
  | failure (evidenceRef : Option String) (classification : RecoveryClassification)
      (errorCode : Option String)
  deriving DecidableEq, Repr

/-- What comes back from `backend.execute`: an exception, something that is not a
    result, or a result. -/
inductive BackendAnswer where
  | raised
  | invalid
  | result (r : JobBackendResult)
  deriving DecidableEq, Repr

/-- `JobExecutionOutcome` (`job_execution.py:82-96`). -/
structure JobExecutionOutcome where
  success : Bool
  job : JobRuntimeState
  evidenceRef : Option String
  errorCode : Option String
  recoveryRequired : Bool
  deriving DecidableEq, Repr

/-- The notes of an execution call. -/
inductive ExecutionNote where
  | refused (fault : ExecutionFault)
  | entered (job : JobRuntimeState)
  | invoked (operationRef : String) (context : JobExecutionContext)
  deriving DecidableEq, Repr

abbrev ExecutionProc := Proc JobStore ExecutionNote

/-- A character of `_OPERATION_REF_RE` (`job_execution.py:19`). -/
def operationRefChar (c : Char) : Bool := c.isAlphanum || c ∈ ['.', '_', ':', '/', '-']

/-- `_require_operation_ref` (`job_execution.py:47-51`). -/
def requireOperationRef (value : String) : Except JobFault Unit := do
  requireText value "operation_ref"
  match value.toList with
  | first :: rest =>
    if first.isAlphanum && decide (rest.length ≤ 127) && rest.all operationRefChar then .ok ()
    else .error (.valueError "operation_ref must be an opaque identifier")
  | [] => .error (.valueError "operation_ref must be an opaque identifier")

/-- `_check_preconditions` (`job_execution.py:156-168`). -/
def checkPreconditions (job : JobRow) (expectedVersion : Int) (workerId : String) :
    Except ExecutionFault Unit :=
  if job.version ≠ expectedVersion then .error (.job (.storeError "JOB_VERSION_CONFLICT"))
  else if job.state ≠ .gating then .error (.coordinatorError "JOB_NOT_GATED" false)
  else if job.workerId ≠ some workerId then
    .error (.coordinatorError "WORKER_CLAIM_MISMATCH" false)
  else .ok ()

/-- A call of `execute`, with what its surroundings will answer. -/
structure ExecuteCall where
  jobId : String
  expectedVersion : Int
  workerId : String
  operationRef : String
  answer : BackendAnswer
  executingDraw : EventIdDraw
  recoveryDraw : EventIdDraw
  checkpointDraw : EventIdDraw
  verifyingDraw : EventIdDraw
  deriving DecidableEq, Repr

def ExecuteCall.check (call : ExecuteCall) : Except JobFault Unit := do
  requireText call.jobId "job_id"
  requirePositiveInt call.expectedVersion "expected_version"
  requireText call.workerId "worker_id"
  requireOperationRef call.operationRef

/-- `_recover_after_backend` (`job_execution.py:170-197`). -/
def recoverAfterBackend (executing : JobRuntimeState) (classification : RecoveryClassification)
    (evidenceRef : Option String) (errorCode : String) (draw : EventIdDraw) :
    ExecutionProc (Except ExecutionFault JobExecutionOutcome) := do
  match ← transact (transition {
      jobId := executing.jobId, targetState := .recoveryNeeded
      expectedVersion := executing.version, workerId := executing.workerId
      recoveryClassification := some classification, evidenceRef } draw) with
  | .error _ => pure (.error (.coordinatorError "DURABLE_RECOVERY_WRITE_FAILED" true))
  | .ok recovering => pure (.ok ⟨false, recovering, evidenceRef, some errorCode, true⟩)

/-- The durable completion of a successful operation (`job_execution.py:268-299`). -/
def completeAfterBackend (call : ExecuteCall) (executing : JobRuntimeState)
    (evidenceRef : String) : ExecutionProc (Except ExecutionFault JobExecutionOutcome) := do
  match ← transact (checkpoint {
      jobId := call.jobId, checkpointRef := "operation:" ++ call.operationRef ++ ":complete"
      expectedVersion := executing.version, evidenceRef := some evidenceRef }
      call.checkpointDraw) with
  | .error _ => pure (.error (.coordinatorError "DURABLE_CHECKPOINT_FAILED" true))
  | .ok checkpointed =>
    match ← transact (transition {
        jobId := call.jobId, targetState := .verifying, expectedVersion := checkpointed.version
        workerId := some call.workerId, evidenceRef := some evidenceRef }
        call.verifyingDraw) with
    | .error _ => pure (.error (.coordinatorError "DURABLE_VERIFYING_TRANSITION_FAILED" true))
    | .ok verifying => pure (.ok ⟨true, verifying, some evidenceRef, none, false⟩)

/-- What follows the backend's answer (`job_execution.py:236-299`). -/
def afterBackend (call : ExecuteCall) (executing : JobRuntimeState) :
    BackendAnswer → ExecutionProc (Except ExecutionFault JobExecutionOutcome)
  | .raised =>
    recoverAfterBackend executing .unknown none "BACKEND_EXECUTION_FAILED" call.recoveryDraw
  | .invalid =>
    recoverAfterBackend executing .unknown none "BACKEND_RESULT_INVALID" call.recoveryDraw
  | .result (.failure evidenceRef classification errorCode) =>
    recoverAfterBackend executing classification evidenceRef
      (errorCode.getD "BACKEND_REPORTED_FAILURE") call.recoveryDraw
  | .result (.success evidenceRef) => completeAfterBackend call executing evidenceRef

/-- The context handed to the backend (`job_execution.py:227-234`). -/
def executionContext (executing : JobRuntimeState) (workerId : String) : JobExecutionContext where
  jobId := executing.jobId
  workOrderRef := executing.workOrderRef
  projectId := executing.projectId
  workerId := workerId
  attemptNo := executing.attemptCount
  maxAttempts := executing.maxAttempts

/-- The invocation of the backend (`job_execution.py:224-242`); a context that is
    refused is caught by the same `except` clause as an exception of the backend. -/
def invokeBackend (call : ExecuteCall) (executing : JobRuntimeState) :
    ExecutionProc (Except ExecutionFault JobExecutionOutcome) :=
  match (executionContext executing call.workerId).check with
  | .error _ => afterBackend call executing .raised
  | .ok () => do
    emit (.invoked call.operationRef (executionContext executing call.workerId))
    afterBackend call executing call.answer

/-- The note of the read: a precondition that failed. -/
def refusal (call : ExecuteCall) : Except JobFault JobRuntimeState → Option ExecutionNote
  | .error _ => none
  | .ok current =>
    match checkPreconditions current.toJobRow call.expectedVersion call.workerId with
    | .error fault => some (.refused fault)
    | .ok () => none

/-- The note of the transition into `EXECUTING`: the committed record. -/
def entry : Except JobFault JobRuntimeState → Option ExecutionNote
  | .error _ => none
  | .ok executing => some (.entered executing)

/-- The transition into `EXECUTING` and the invocation behind it
    (`job_execution.py:217-299`). -/
def enterExecuting (call : ExecuteCall) (current : JobRuntimeState) :
    ExecutionProc (Except ExecutionFault JobExecutionOutcome) := do
  match ← transactNoting (transition {
      jobId := call.jobId, targetState := .executing, expectedVersion := current.version
      workerId := some call.workerId } call.executingDraw) entry with
  | .error fault => pure (.error (.job fault))
  | .ok executing => invokeBackend call executing

/-- `DurableJobExecutionCoordinator.execute` (`job_execution.py:199-299`). -/
def execute (call : ExecuteCall) : ExecutionProc (Except ExecutionFault JobExecutionOutcome) :=
  match call.check with
  | .error fault => pure (.error (.job fault))
  | .ok () => do
    match ← transactNoting (getJob call.jobId) (refusal call) with
    | .error fault => pure (.error (.job fault))
    | .ok current =>
      match checkPreconditions current.toJobRow call.expectedVersion call.workerId with
      | .error fault => pure (.error fault)
      | .ok () => enterExecuting call current

end AConductor.Job

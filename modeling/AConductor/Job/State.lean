import AConductor.Domain
import AConductor.Lib.Text

/-!
# Jobs: state policy

`src/a_conductor/job_state.py`: the operational states of a durable job, the record
that is valid only with its own invariants, and the transition table. The checks of
Python types are the types of the arguments here.
-/

namespace AConductor.Job

/-- What a job call can raise: a `ValueError` with its text, a `JobStateError` or a
    `JobStoreError` with its code, a failed `assert`, an integer that does not fit a
    column, and the `sqlite3.IntegrityError` of a violated index. -/
inductive JobFault where
  | valueError (text : String)
  | stateError (code : String)
  | storeError (code : String)
  | assertionError
  | overflowError
  | integrityError
  deriving DecidableEq, Repr

/-- `_require_text` (`job_state.py:22-25`). -/
def requireText (value fieldName : String) : Except JobFault Unit :=
  if Text.isBlank value then .error (.valueError (fieldName ++ " must not be blank")) else .ok ()

/-- `_require_optional_text` (`job_store.py:50-53`). -/
def requireOptionalText (value : Option String) (fieldName : String) : Except JobFault Unit :=
  match value with
  | none => .ok ()
  | some v => requireText v fieldName

/-- `_require_positive_int` (`job_state.py:28-31`). -/
def requirePositiveInt (value : Int) (fieldName : String) : Except JobFault Unit :=
  if value < 1 then .error (.valueError (fieldName ++ " must be >= 1")) else .ok ()

/-- `_require_nonnegative_int` (`job_state.py:34-37`). -/
def requireNonnegativeInt (value : Int) (fieldName : String) : Except JobFault Unit :=
  if value < 0 then .error (.valueError (fieldName ++ " must be >= 0")) else .ok ()

/-- The columns of `job_records` that `_load_job_row` selects
    (`job_store.py:263-274`). -/
structure JobRow where
  jobId : String
  workOrderRef : String
  projectId : String
  state : TaskState
  workerId : Option String
  attemptCount : Int
  maxAttempts : Int
  recoveryClassification : Option RecoveryClassification
  version : Int
  deriving DecidableEq, Repr

/-- `JobRuntimeState.__post_init__` (`job_state.py:138-161`). -/
def JobRow.check (r : JobRow) : Except JobFault Unit := do
  requireText r.jobId "job_id"
  requireText r.workOrderRef "work_order_ref"
  requireText r.projectId "project_id"
  requireOptionalText r.workerId "worker_id"
  requireNonnegativeInt r.attemptCount "attempt_count"
  requirePositiveInt r.maxAttempts "max_attempts"
  if r.maxAttempts < r.attemptCount then
    .error (.valueError "attempt_count must not exceed max_attempts")
  requirePositiveInt r.version "version"
  if r.state = .recoveryNeeded then
    if r.recoveryClassification.isNone then
      .error (.valueError "RECOVERY_NEEDED requires recovery_classification")
  else if r.recoveryClassification.isSome then
    .error (.valueError "recovery_classification is valid only for RECOVERY_NEEDED")

/-- `JobRuntimeState` (`job_state.py:125-161`): a record that passed its own checks. -/
structure JobRuntimeState extends JobRow where
  checked : toJobRow.check = .ok ()
  deriving DecidableEq, Repr

/-- The constructor call `JobRuntimeState(…)`. -/
def JobRuntimeState.make (r : JobRow) : Except JobFault JobRuntimeState :=
  match h : r.check with
  | .ok () => .ok ⟨r, h⟩
  | .error e => .error e

/-- `_TERMINAL_STATES` (`job_state.py:40-42`). -/
def TaskState.terminal (s : TaskState) : Bool := s ∈ [.complete, .failed, .cancelled]

/-- `_ALLOWED_TRANSITIONS` (`job_state.py:44-104`). -/
def allowedTransitions : TaskState → List TaskState
  | .new => [.planning, .ready, .blocked, .cancelled]
  | .planning => [.ready, .blocked, .failed, .cancelled]
  | .ready => [.claimed, .blocked, .cancelled]
  | .claimed => [.gating, .ready, .blocked, .cancelled]
  | .gating => [.executing, .blocked, .recoveryNeeded, .failed, .cancelled]
  | .executing => [.verifying, .recoveryNeeded, .failed, .cancelled]
  | .verifying => [.reviewPending, .changesRequired, .complete, .recoveryNeeded, .failed]
  | .reviewPending => [.complete, .changesRequired, .blocked, .failed]
  | .changesRequired => [.repairing, .cancelled]
  | .repairing => [.verifying, .recoveryNeeded, .failed, .cancelled]
  | .blocked => [.ready, .failed, .cancelled]
  | .recoveryNeeded => []
  | .complete => []
  | .failed => []
  | .cancelled => []

/-- `_RECOVERY_TARGET` (`job_state.py:106-113`). -/
def recoveryTarget : RecoveryClassification → TaskState
  | .noMutation => .ready
  | .partialMutation => .gating
  | .mutationCompleteUnverified => .verifying
  | .completeVerified => .reviewPending
  | .unexpectedDrift => .blocked
  | .unknown => .blocked

/-- `_RELEASE_CLAIM_STATES` (`job_state.py:115-123`). -/
def releasesClaim (s : TaskState) : Bool := s ∈ [.ready, .blocked, .complete, .failed, .cancelled]

/-- `JobTransitionPlan` (`job_state.py:164-169`). -/
structure JobTransitionPlan where
  targetState : TaskState
  workerId : Option String
  attemptCount : Int
  recoveryClassification : Option RecoveryClassification
  deriving DecidableEq, Repr

/-- `new_job_state` (`job_state.py:172-189`). -/
def newJobState (jobId workOrderRef projectId : String) (maxAttempts : Int) :
    Except JobFault JobRuntimeState :=
  JobRuntimeState.make {
    jobId, workOrderRef, projectId, state := .new, workerId := none, attemptCount := 0
    maxAttempts, recoveryClassification := none, version := 1 }

/-- Leaving `RECOVERY_NEEDED` (`job_state.py:220-226`): the target is the one of the
    recorded classification, and the argument of that name is not read. -/
def planRecovery (current : JobRow) (target : TaskState) (workerId : Option String) :
    Except JobFault (Option String × Option RecoveryClassification) :=
  match current.recoveryClassification with
  | none => .error .assertionError
  | some c =>
    if target ≠ recoveryTarget c then .error (.stateError "RECOVERY_TRANSITION_INVALID")
    else if workerId.isSome ∧ current.workerId.isSome ∧ workerId ≠ current.workerId then
      .error (.stateError "WORKER_CLAIM_CONFLICT")
    else .ok (current.workerId, none)

/-- The worker after an ordinary transition (`job_state.py:232-238`). -/
def planWorker (current : JobRow) (target : TaskState) (workerId : Option String) :
    Except JobFault (Option String) :=
  if target = .claimed then
    if workerId.isNone then .error (.stateError "WORKER_ID_REQUIRED") else .ok workerId
  else if workerId.isSome ∧ workerId ≠ current.workerId then
    .error (.stateError "WORKER_CLAIM_CONFLICT")
  else .ok current.workerId

/-- The classification after an ordinary transition (`job_state.py:240-245`). -/
def planClassification (target : TaskState) (classification : Option RecoveryClassification) :
    Except JobFault (Option RecoveryClassification) :=
  if target = .recoveryNeeded then
    if classification.isNone then .error (.stateError "RECOVERY_CLASSIFICATION_REQUIRED")
    else .ok classification
  else if classification.isSome then .error (.stateError "RECOVERY_CLASSIFICATION_NOT_ALLOWED")
  else .ok none

/-- An ordinary transition (`job_state.py:227-245`). -/
def planOrdinary (current : JobRow) (target : TaskState) (workerId : Option String)
    (classification : Option RecoveryClassification) :
    Except JobFault (Option String × Option RecoveryClassification) := do
  if target ∉ allowedTransitions current.state then
    .error (.stateError "JOB_TRANSITION_INVALID")
  let worker ← planWorker current target workerId
  let recovery ← planClassification target classification
  return (worker, recovery)

/-- Worker and classification after either kind of transition
    (`job_state.py:216-245`). -/
def planOwner (current : JobRow) (target : TaskState) (workerId : Option String)
    (classification : Option RecoveryClassification) :
    Except JobFault (Option String × Option RecoveryClassification) :=
  if current.state = .recoveryNeeded then planRecovery current target workerId
  else planOrdinary current target workerId classification

/-- The attempt budget (`job_state.py:247-250`). -/
def planAttempts (current : JobRow) (target : TaskState) : Except JobFault Int :=
  if target = .executing then
    if current.maxAttempts ≤ current.attemptCount then
      .error (.stateError "ATTEMPT_BUDGET_EXHAUSTED")
    else .ok (current.attemptCount + 1)
  else .ok current.attemptCount

/-- A terminal job takes no further step (`job_state.py:213-214`). -/
def requireOpen (s : TaskState) : Except JobFault Unit :=
  if TaskState.terminal s then .error (.stateError "JOB_TERMINAL") else .ok ()

/-- `plan_job_transition` (`job_state.py:192-260`). -/
def planJobTransition (current : JobRow) (target : TaskState) (workerId : Option String)
    (classification : Option RecoveryClassification) : Except JobFault JobTransitionPlan := do
  requireOptionalText workerId "worker_id"
  requireOpen current.state
  let owner ← planOwner current target workerId classification
  let attempts ← planAttempts current target
  return {
    targetState := target
    workerId := if releasesClaim target then none else owner.1
    attemptCount := attempts
    recoveryClassification := owner.2 }

end AConductor.Job

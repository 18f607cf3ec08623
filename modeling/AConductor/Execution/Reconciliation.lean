import AConductor.Execution.Reuse

/-!
# Executions: reconciling after a transport loss

`RecoveryReconciliationService.reconcile` (`src/a_conductor/recovery_reconciliation.py:246-465`)
over the transport service (`transport_recovery.py:60-146`) and `inspect` and `collect` of the
supervised service (`supervised_execution.py:548-727`).

What the job store, the repository observer, the file system and the process observer answer is
part of the call.
-/

namespace AConductor.Execution

open Proc

/-- What a reconciliation raises: a `ValueError`, a `RuntimeError`, what the transport service or
    the job store or the observer raises, or what a service over the store raises. -/
inductive RecoveryFault where
  | valueError (text : String)
  | runtimeError (code : String)
  | transport (code : String)
  | jobStore (code : String)
  | observer (text : String)
  | run (fault : RunFault)
  deriving DecidableEq, Repr

/-- `RecoveryDecision` (`recovery_reconciliation.py:31-36`). -/
inductive RecoveryDecision where
  | monitorOriginal
  | verifyResult
  | reviewFailure
  | recoveryRequired
  | recoveryBlocked
  deriving DecidableEq, Repr

/-- `RecoveryRepositoryObservation` (`recovery_reconciliation.py:39-63`). -/
structure RecoveryRepositoryObservation where
  repoRoot : String
  branch : Option String
  head : Option String
  dirty : Option Bool
  errorCode : Option String := none
  deriving DecidableEq, Repr

/-- `RecoveryReconciliationOutcome` (`recovery_reconciliation.py:66-99`); a retry is never
    permitted. -/
structure RecoveryReconciliationOutcome where
  decision : RecoveryDecision
  record : DurableExecutionRecord
  reasonCode : String
  supervisorPid : Option Int := none
  exitCode : Option Int := none
  transportChanged : Bool := false
  deriving DecidableEq, Repr

/-- What `get_job` answers: the owner of the job, or an error. -/
inductive JobAnswer where
  | raised (code : String)
  | found (projectId : String) (workerId : Option String)
  deriving DecidableEq, Repr

/-- What the pid file of the supervisor holds. -/
inductive PidMetadata where
  | absent
  | unusable (pid : Option Int)
  | valid (pid : Int)
  deriving DecidableEq, Repr

/-- `ProcessOwnership`, what a process with the pid is found to be. -/
inductive ProcessOwnership where
  | absent
  | owned
  | stale
  | mismatch
  | unknown
  deriving DecidableEq, Repr

def ProcessOwnership.value : ProcessOwnership → String
  | .absent => "ABSENT"
  | .owned => "OWNED"
  | .stale => "STALE"
  | .mismatch => "MISMATCH"
  | .unknown => "UNKNOWN"

/-- What an inspection meets: whether the paths of the record resolve, whether the result is
    there at first and when it is looked for again, and the process. -/
structure InspectionAnswers where
  pathsError : Option String
  resultExists : Bool
  metadata : PidMetadata
  resultAppeared : Bool
  ownership : ProcessOwnership
  deriving DecidableEq, Repr

/-- `SupervisedInspectionState` (`supervised_execution.py`). -/
inductive SupervisedInspectionState where
  | resultAvailable
  | starting
  | supervisorRunning
  | supervisorExitedResultMissing
  | recoveryRequired
  deriving DecidableEq, Repr

structure SupervisedInspection where
  state : SupervisedInspectionState
  supervisorPid : Option Int := none
  errorCode : Option String := none
  deriving DecidableEq, Repr

/-- `SupervisedCollectOutcome`, its result reduced to the exit code. -/
structure SupervisedCollectOutcome where
  record : DurableExecutionRecord
  exitCode : Option Int
  recoveryRequired : Bool
  errorCode : Option String
  deriving DecidableEq, Repr

/-- A call of `reconcile`, with what its surroundings will answer and the event ids its writes
    draw. -/
structure RecoveryCall where
  executionId : String
  expectedVersion : Int
  transportEvidenceRef : Option String
  job : JobAnswer
  repository : Except String RecoveryRepositoryObservation
  samePath : String → String → Bool
  inspection : InspectionAnswers
  child : ChildResult
  transportDraw : String
  stateDraw : String
  draws : RunDraws

abbrev RecoveryProc := ExceptT RecoveryFault (Proc ExecutionStore RunNote)

/-- A service over the store inside a reconciliation. -/
def serve {α : Type} (p : RunProc α) : RecoveryProc α :=
  ExceptT.mk (p.run >>= fun r => pure (r.mapError .run))

/-- A check inside a reconciliation. -/
def checked {α : Type} (r : Except RecoveryFault α) : RecoveryProc α := ExceptT.mk (pure r)

/-- `try: … except …:` around a part: what it ends with is answered in another way. -/
def answering {α β : Type} (k : Except RecoveryFault α → Except RecoveryFault β)
    (p : RecoveryProc α) : RecoveryProc β := ExceptT.mk (p.run >>= fun r => pure (k r))

/-- `except …: raise …` around a call of the store. -/
def raising {α : Type} (f : RecoveryFault → RecoveryFault) (p : RunProc α) : RecoveryProc α :=
  answering (Except.mapError f) (serve p)

def evidenceChar (c : Char) : Bool := c.isAlphanum || c ∈ ['.', '_', ':', '/', '-']

/-- `_EVIDENCE_RE` (`transport_recovery.py:21`). -/
def isEvidenceRef (value : String) : Bool :=
  match value.toList with
  | [] => false
  | c :: cs => c.isAlphanum && cs.length ≤ 255 && cs.all evidenceChar

/-- `_validate_evidence` (`transport_recovery.py:60-71`) of evidence that is not required. -/
def validateEvidence (evidenceRef : Option String) : Except RecoveryFault Unit :=
  if evidenceRef.all isEvidenceRef then .ok () else .error (.transport "TRANSPORT_EVIDENCE_INVALID")

/-- What `_load_owned` (`transport_recovery.py:84-103`) checks of the owner of the job. -/
def checkOwner (job : JobAnswer) (record : ExecutionRow) : Except RecoveryFault Unit :=
  match job with
  | .raised code =>
    .error (if code = "JOB_NOT_FOUND" then .transport "TRANSPORT_JOB_NOT_FOUND" else .jobStore code)
  | .found projectId workerId =>
    if projectId ≠ record.projectId then .error (.transport "TRANSPORT_PROJECT_IDENTITY_MISMATCH")
    else if workerId = none then .error (.transport "TRANSPORT_OWNERSHIP_MISSING")
    else if workerId ≠ some record.workerId then .error (.transport "TRANSPORT_OWNERSHIP_MISMATCH")
    else .ok ()

def loadFault : RecoveryFault → RecoveryFault
  | .run (.store (.storeError "EXECUTION_NOT_FOUND")) => .transport "TRANSPORT_EXECUTION_NOT_FOUND"
  | fault => fault

def transportFault : RecoveryFault → RecoveryFault
  | .run (.store (.storeError "EXECUTION_VERSION_CONFLICT")) =>
    .transport "TRANSPORT_VERSION_CONFLICT"
  | fault => fault

/-- `mark_connected` (`transport_recovery.py:105-146`): the record, and whether it was changed. -/
def markConnected (call : RecoveryCall) : RecoveryProc (DurableExecutionRecord × Bool) := do
  checked (validateEvidence call.transportEvidenceRef)
  let record ← raising loadFault (runStore (get call.executionId))
  checked (checkOwner call.job record.toExecutionRow)
  if record.version ≠ call.expectedVersion then throw (.transport "TRANSPORT_VERSION_CONFLICT")
  else if record.transportState = .connected then pure (record, false)
  else do
    let updated ← raising transportFault (runStore (setTransportState
      { executionId := call.executionId, expectedVersion := call.expectedVersion
        evidenceRef := call.transportEvidenceRef } .connected call.transportDraw))
    pure (updated, true)

/-- What an inspection concludes about an execution in a state
    (`supervised_execution.py:557-652`). -/
def inspected (a : InspectionAnswers) (state : ExecutionProcessState) : SupervisedInspection :=
  if a.resultExists then { state := .resultAvailable }
  else
    match a.metadata with
    | .absent =>
      if state = .starting then { state := .starting }
      else if a.resultAppeared then { state := .resultAvailable }
      else { state := .supervisorExitedResultMissing, errorCode := some "SUPERVISOR_PID_ABSENT" }
    | .unusable pid =>
      if a.resultAppeared then { state := .resultAvailable }
      else
        { state := .recoveryRequired, supervisorPid := pid
          errorCode := some "SUPERVISOR_PID_METADATA_INVALID" }
    | .valid pid =>
      if a.ownership = .owned then { state := .supervisorRunning, supervisorPid := some pid }
      else if a.resultAppeared then { state := .resultAvailable }
      else if a.ownership = .stale then
        { state := .supervisorExitedResultMissing, supervisorPid := some pid
          errorCode := some "SUPERVISOR_EXITED_RESULT_MISSING" }
      else
        { state := .recoveryRequired, supervisorPid := some pid
          errorCode := some ("SUPERVISOR_OWNERSHIP_" ++ a.ownership.value) }

/-- `SupervisedExecutionService.inspect` (`supervised_execution.py:554-652`). -/
def inspect (executionId : String) (a : InspectionAnswers) : RunProc SupervisedInspection := do
  let record ← runStore (get executionId)
  match a.pathsError with
  | some code => throw (.supervised code)
  | none => pure (inspected a record.executionState)

/-- `SupervisedExecutionService.collect` (`supervised_execution.py:654-727`). -/
def collect (child : ChildResult) (draws : RunDraws) (executionId : String)
    (expectedVersion : Int) : RunProc SupervisedCollectOutcome := do
  let record ← runStore (get executionId)
  if record.version ≠ expectedVersion then
    throw (.store (.storeError "EXECUTION_VERSION_CONFLICT"))
  else match child with
  | .raised fault => throw fault
  | .missing =>
    pure { record, exitCode := none, recoveryRequired := false
           errorCode := some "RESULT_NOT_AVAILABLE" }
  | .invalid code => do
    let recovered ← markRecovery record code record.resultRef draws.recovery
    pure { record := recovered, exitCode := none, recoveryRequired := true, errorCode := some code }
  | .result childPid exitCode startedAt finishedAt =>
    if record.pid.any (· ≠ childPid) then do
      let recovered ← markRecovery record "RESULT_PID_MISMATCH" record.resultRef draws.recovery
      pure { record := recovered, exitCode := some exitCode, recoveryRequired := true
             errorCode := some "RESULT_PID_MISMATCH" }
    else do
      let withProcess ← runStore (setProcessMetadata
        { executionId, expectedVersion := record.version, evidenceRef := record.resultRef }
        childPid startedAt draws.collectProcess)
      let withResult ← runStore (setResultMetadata
        { executionId, expectedVersion := withProcess.version, evidenceRef := record.resultRef }
        exitCode finishedAt draws.collectResult)
      let final ← runStore (setExecutionState
        { executionId, expectedVersion := withResult.version, evidenceRef := record.resultRef }
        (exitState exitCode) draws.collectState)
      pure { record := final, exitCode := some exitCode, recoveryRequired := false
             errorCode := none }

/-- `_outcome` (`recovery_reconciliation.py:250-270`) with the checks of the outcome. -/
def outcome (o : RecoveryReconciliationOutcome) : RecoveryProc RecoveryReconciliationOutcome :=
  if Text.isBlank o.reasonCode || Text.hasChar o.reasonCode '\x00' ||
      Text.hasChar o.reasonCode '\r' || Text.hasChar o.reasonCode '\n' then
    throw (.valueError "reason_code must be safe single-line text")
  else if o.supervisorPid.any (· < 1) then throw (.valueError "supervisor_pid must be >= 1")
  else pure o

/-- `code or fallback`. -/
def codeOr (code : Option String) (fallback : String) : String :=
  match code with
  | none => fallback
  | some c => if c = "" then fallback else c

/-- `except ExecutionStoreError`: the store refused the state. -/
def stateAnswer : Except RecoveryFault DurableExecutionRecord →
    Except RecoveryFault (Option DurableExecutionRecord)
  | .ok current => .ok (some current)
  | .error (.run (.store (.storeError _))) => .ok none
  | .error fault => .error fault

/-- Set the state of a record that has another one (`recovery_reconciliation.py:279-293`,
    `:380-393`). -/
def trySetState (record : DurableExecutionRecord) (state : ExecutionProcessState) (draw : String) :
    RecoveryProc (Option DurableExecutionRecord) :=
  if record.executionState = state then pure (some record)
  else answering stateAnswer (serve (runStore (setExecutionState
    { executionId := record.executionId, expectedVersion := record.version } state draw)))

/-- What is answered after a state was set. -/
def stateOutcome (record : DurableExecutionRecord) (changed : Bool)
    (set : DurableExecutionRecord → RecoveryReconciliationOutcome) :
    Option DurableExecutionRecord → RecoveryProc RecoveryReconciliationOutcome
  | none =>
    outcome { decision := .recoveryBlocked, record
              reasonCode := "RECOVERY_EXECUTION_STATE_CONFLICT", transportChanged := changed }
  | some current => outcome (set current)

/-- `_mark_recovery_required` (`recovery_reconciliation.py:272-303`). -/
def markRecoveryRequired (call : RecoveryCall) (record : DurableExecutionRecord)
    (reasonCode : String) (changed : Bool) : RecoveryProc RecoveryReconciliationOutcome :=
  trySetState record .recoveryRequired call.stateDraw >>= stateOutcome record changed fun current =>
    { decision := .recoveryRequired, record := current, reasonCode, transportChanged := changed }

/-- What a collected result leads to (`recovery_reconciliation.py:412-450`). -/
def afterCollection (call : RecoveryCall) (dirty : Option Bool) (changed : Bool)
    (collected : SupervisedCollectOutcome) : RecoveryProc RecoveryReconciliationOutcome :=
  if collected.recoveryRequired then
    outcome { decision := .recoveryRequired, record := collected.record
              reasonCode := codeOr collected.errorCode "RECOVERY_RESULT_UNKNOWN"
              transportChanged := changed }
  else
    match collected.exitCode with
    | none =>
      markRecoveryRequired call collected.record
        (codeOr collected.errorCode "RECOVERY_RESULT_NOT_AVAILABLE") changed
    | some exitCode =>
      let (decision, reasonCode) : RecoveryDecision × String :=
        if dirty = none then (.recoveryBlocked, "RECOVERY_DIRTY_STATE_UNKNOWN")
        else if dirty = some true then (.recoveryBlocked, "RECOVERY_DIRTY_WORKTREE")
        else if exitCode = 0 then (.verifyResult, "ORIGINAL_RESULT_EXIT_ZERO")
        else (.reviewFailure, "ORIGINAL_RESULT_NONZERO")
      outcome { decision, record := collected.record, reasonCode, exitCode := some exitCode
                transportChanged := changed }

/-- What an inspection leads to (`recovery_reconciliation.py:375-465`). -/
def afterInspection (call : RecoveryCall) (dirty : Option Bool) (record : DurableExecutionRecord)
    (changed : Bool) (inspection : SupervisedInspection) :
    RecoveryProc RecoveryReconciliationOutcome :=
  match inspection.state with
  | .supervisorRunning =>
    trySetState record .processStillRunning call.stateDraw >>= stateOutcome record changed
      fun current =>
        { decision := .monitorOriginal, record := current
          reasonCode := "ORIGINAL_PROCESS_STILL_RUNNING", supervisorPid := inspection.supervisorPid
          transportChanged := changed }
  | .starting =>
    outcome { decision := .monitorOriginal, record, reasonCode := "ORIGINAL_PROCESS_STARTING"
              transportChanged := changed }
  | .resultAvailable =>
    serve (collect call.child call.draws call.executionId record.version) >>=
      afterCollection call dirty changed
  | .supervisorExitedResultMissing | .recoveryRequired =>
    markRecoveryRequired call record
      (codeOr inspection.errorCode "RECOVERY_PROCESS_RESULT_UNKNOWN") changed

/-- Why an observed repository is not that of the record, in the order of the checks
    (`recovery_reconciliation.py:345-372`). -/
def identityError (samePath : String → String → Bool) (repository : RecoveryRepositoryObservation)
    (record : ExecutionRow) : Option String :=
  repository.errorCode.or
    (if !samePath repository.repoRoot record.repoRoot then some "RECOVERY_REPO_ROOT_MISMATCH"
    else if repository.branch ≠ some record.branch then some "RECOVERY_BRANCH_MISMATCH"
    else if repository.head ≠ some record.headBefore then some "RECOVERY_HEAD_MISMATCH"
    else none)

/-- What follows the restored transport (`recovery_reconciliation.py:342-465`). -/
def resume (call : RecoveryCall) (record : DurableExecutionRecord) (changed : Bool) :
    RecoveryProc RecoveryReconciliationOutcome :=
  match call.repository with
  | .error text => throw (.observer text)
  | .ok repository =>
    match identityError call.samePath repository record.toExecutionRow with
    | some code =>
      outcome { decision := .recoveryBlocked, record, reasonCode := code
                transportChanged := changed }
    | none =>
      serve (inspect call.executionId call.inspection) >>=
        afterInspection call repository.dirty record changed

def baseFault : RecoveryFault → RecoveryFault
  | .run (.store (.storeError code)) => .runtimeError code
  | fault => fault

/-- `except TransportRecoveryError`: the transport service refused the call. -/
def connectAnswer : Except RecoveryFault (DurableExecutionRecord × Bool) →
    Except RecoveryFault (Except String (DurableExecutionRecord × Bool))
  | .ok connected => .ok (.ok connected)
  | .error (.transport code) => .ok (.error code)
  | .error fault => .error fault

/-- What follows the attempt to restore the transport. -/
def afterConnect (call : RecoveryCall) (base : DurableExecutionRecord) :
    Except String (DurableExecutionRecord × Bool) → RecoveryProc RecoveryReconciliationOutcome
  | .error code => outcome { decision := .recoveryBlocked, record := base, reasonCode := code }
  | .ok (record, changed) => resume call record changed

/-- `RecoveryReconciliationService.reconcile` (`recovery_reconciliation.py:305-465`). -/
def reconcile (call : RecoveryCall) : RecoveryProc RecoveryReconciliationOutcome :=
  if Text.isBlank call.executionId then throw (.valueError "execution_id must not be blank")
  else if call.expectedVersion < 1 then throw (.valueError "expected_version must be >= 1")
  else do
    let base ← raising baseFault (runStore (get call.executionId))
    let connected ← answering connectAnswer (markConnected call)
    afterConnect call base connected

end AConductor.Execution

import AConductor.Execution.Deduplication
import AConductor.Lib.Proc

/-!
# Executions: the supervised run coordinator

`SupervisedRunCoordinator.run_with_outcome` (`src/a_conductor/supervised_run_coordinator.py`)
with the launcher it drives (`SupervisedExecutionService` of
`supervised_execution.py`). A call is a `Proc` over the execution store: the lookup of
the fingerprint is one transaction and the creation of the record is another. It notes
a lookup that found nothing, the record it created and the start of the process.

What the file system, the process controller and the injected guards answer is part of
the call; of the native result only the exit code and the error code are kept.
-/

namespace AConductor.Execution

open Proc

/-- `AuthorProvenanceBinding`, as far as the coordinator reads it. -/
structure AuthorProvenanceBinding where
  authorGeneration : Int
  taskContractRef : String
  deriving DecidableEq, Repr

/-- `SupervisedRunIdentity` with its resolved root (`supervised_run_coordinator.py:126-139`). -/
structure SupervisedRunIdentity where
  jobId : String
  workOrderRef : String
  projectId : String
  workerId : String
  backendId : String
  branch : String
  headBefore : String
  runtimeProfileRef : String
  repoRoot : String
  authorProvenance : Option AuthorProvenanceBinding := none
  deriving DecidableEq, Repr

/-- `SupervisedBackendPolicy` (`supervised_run_coordinator.py:166-183`). -/
structure SupervisedBackendPolicy where
  deriveOperationRef : List String → String
  commandSummary : List String → String
  agentRef : String := "agent:supervised-native"
  reportRef : String → Option String := fun _ => none
  stdoutRef : String → String := fun runRel => runRel ++ "/stdout.log"
  stderrRef : String → String := fun runRel => runRel ++ "/stderr.log"
  resultRef : String → String := fun runRel => runRel ++ "/result.json"

/-- What the validation of a launch plan ends with. -/
inductive PlanAnswer where
  | accepted
  | refused (code : String)
  | helperDisabled
  deriving DecidableEq, Repr

/-- What the process controller and the child's pid file answer to a start. -/
inductive StartAnswer where
  | raised
  | notStarted (code : String)
  | started
  | startedUnreadable (code : String)
  | startedChild (pid : Int)
  deriving DecidableEq, Repr

/-- What the polling loop ends with: an inspection that failed, the deadline, a
    recovery, or a result. -/
inductive PollAnswer where
  | inspectFailed
  | timedOut
  | recovery (code : String)
  | resultAvailable
  deriving DecidableEq, Repr

/-- What a call can raise: what the store raises, a `SupervisedExecutionError`, or the
    `RecursionError` of a file that is nested deeper than `json.loads` follows. -/
inductive RunFault where
  | store (fault : StoreFault)
  | supervised (code : String)
  | recursionError
  deriving DecidableEq, Repr

/-- What the result file holds, unless the paths of the record do not resolve or the file
    cannot be followed (`supervised_execution.py:548-552`, `supervised_child.py:172-213`). -/
inductive ChildResult where
  | raised (fault : RunFault)
  | missing
  | invalid (code : String)
  | result (childPid exitCode : Int) (startedAt : Option String) (finishedAt : String)
  deriving DecidableEq, Repr

/-- The event ids drawn by the writes of a call. -/
structure RunDraws where
  created : String
  starting : String
  recovery : String
  process : String
  running : String
  collectProcess : String
  collectResult : String
  collectState : String
  deriving DecidableEq, Repr

/-- A call of `run_with_outcome` on a coordinator, with what its surroundings will
    answer. -/
structure RunCall where
  identity : SupervisedRunIdentity
  policy : SupervisedBackendPolicy
  argv : List String
  guardError : Option String
  worktreeError : Option String
  worktreeRecheck : Option String
  executionId : String
  authorAttemptId : String
  planValueError : Option String
  plan : PlanAnswer
  createdAt : Int
  start : StartAnswer
  poll : PollAnswer
  child : ChildResult
  draws : RunDraws

/-- The notes of a call: a lookup that found no record of the fingerprint, the record
    that was created, and the start of its process, with the other records of the
    fingerprint at that moment. -/
inductive RunNote where
  | assessed (fingerprint : String)
  | created (fingerprint executionId : String)
  | launched (fingerprint executionId : String) (others : List (String × String))
  deriving DecidableEq, Repr

/-- `SupervisedRunOutcomeKind` (`supervised_run_coordinator.py:93-102`). -/
inductive SupervisedRunOutcomeKind where
  | fresh
  | attachRunning
  | reuseCompleted
  | blockedUnknown
  | failed
  | timedOut
  | recoveryRequired
  deriving DecidableEq, Repr

/-- `SupervisedRunOutcome`, its native result reduced to error and exit code. -/
structure SupervisedRunOutcome where
  kind : SupervisedRunOutcomeKind
  executionId : Option String
  errorCode : Option String
  exitCode : Option Int := none
  deriving DecidableEq, Repr

abbrev RunProc := ExceptT RunFault (Proc ExecutionStore RunNote)

def runStore {α : Type} (tx : ExecutionStore → Except StoreFault α × ExecutionStore) : RunProc α :=
  ExceptT.mk (transact fun s => ((tx s).1.mapError .store, (tx s).2))

/-- `fingerprint_spec` (`supervised_run_coordinator.py:309-321`). -/
def fingerprintSpec (host : FingerprintHost) (call : RunCall) :
    Except StoreFault ExecutionFingerprintSpec :=
  ExecutionFingerprintSpec.make host
    { projectId := call.identity.projectId, jobId := call.identity.jobId
      workOrderRef := call.identity.workOrderRef, backendId := call.identity.backendId
      repoRoot := call.identity.repoRoot, branch := call.identity.branch
      headBefore := call.identity.headBefore
      operationRef := call.policy.deriveOperationRef call.argv
      runtimeProfileRef := some call.identity.runtimeProfileRef, targetArgv := call.argv }

/-- The note of the lookup: nothing was found. -/
def lookupNote (fingerprint : String) :
    Except StoreFault (List DurableExecutionRecord) → Option RunNote
  | .ok [] => some (.assessed fingerprint)
  | _ => none

/-- `DuplicateExecutionGuard.assess` (`execution_deduplication.py:197-242`). -/
def assessDuplicate (host : FingerprintHost) (spec : ExecutionFingerprintSpec) :
    RunProc DuplicateExecutionAssessment :=
  ExceptT.mk (do
    let found ← transactNoting (findByFingerprint (host.digest spec)) (lookupNote (host.digest spec))
    pure ((found >>= assess host spec).mapError .store))

/-- `_durable_execution_id` (`supervised_run_coordinator.py:407-422`). -/
def durableExecutionId (executionId : String) : RunProc (Option String) :=
  ExceptT.mk (transact fun s =>
    match get executionId s with
    | (.ok record, s') =>
      (.ok (if record.executionId = executionId then some executionId else none), s')
    | (.error _, s') => (.ok none, s'))

def failure (kind : SupervisedRunOutcomeKind) (executionId : Option String) (code : String) :
    SupervisedRunOutcome := { kind, executionId, errorCode := some code }

/-- `is_valid_author_attempt_id` (`zero_relay_author_provenance.py:161-163`). -/
def validAuthorAttemptId (value : String) : Bool :=
  Text.startsWith value "author-attempt-v1:" && Text.isHex 32
    (String.ofList (value.toList.drop "author-attempt-v1:".length))

/-- The record of a fresh launch (`supervised_run_coordinator.py:570-594`). -/
def freshRow (call : RunCall) (fingerprint : String) : ExecutionRow where
  executionId := call.executionId
  jobId := call.identity.jobId
  workOrderRef := call.identity.workOrderRef
  projectId := call.identity.projectId
  workerId := call.identity.workerId
  backendId := call.identity.backendId
  agentRef := some call.policy.agentRef
  repoRoot := call.identity.repoRoot
  branch := call.identity.branch
  headBefore := call.identity.headBefore
  operationRef := call.policy.deriveOperationRef call.argv
  commandFingerprint := fingerprint
  commandSummary := call.policy.commandSummary call.argv
  runtimeProfileRef := some call.identity.runtimeProfileRef
  runDirRef := some ("runs/" ++ call.executionId)
  stdoutRef := some (call.policy.stdoutRef ("runs/" ++ call.executionId))
  stderrRef := some (call.policy.stderrRef ("runs/" ++ call.executionId))
  resultRef := some (call.policy.resultRef ("runs/" ++ call.executionId))
  reportRef := call.policy.reportRef ("runs/" ++ call.executionId)
  transportState := .connected
  executionState := .queued
  authorAttemptId := call.identity.authorProvenance.map fun _ => call.authorAttemptId
  authorGeneration := call.identity.authorProvenance.map AuthorProvenanceBinding.authorGeneration

/-- `SupervisedLaunchOutcome` (`supervised_execution.py:130-136`): the code of a launch
    that needs recovery. -/
abbrev LaunchOutcome := Option String

/-- `_mark_recovery` (`supervised_execution.py:413-425`). -/
def markRecovery (record : DurableExecutionRecord) (code : String) (evidenceRef : Option String)
    (draw : String) : RunProc DurableExecutionRecord :=
  runStore (setExecutionState
    { executionId := record.executionId, expectedVersion := record.version
      evidenceRef := some (evidenceRef.getD ("supervised:" ++ code)) } .recoveryRequired draw)

/-- What follows the start of the process (`supervised_execution.py:449-546`). -/
def afterStart (call : RunCall) (starting : DurableExecutionRecord) : RunProc LaunchOutcome :=
  let recovered (code : String) : RunProc LaunchOutcome := do
    let _ ← markRecovery starting code none call.draws.recovery
    pure (some code)
  match call.start with
  | .raised => recovered "SUPERVISOR_START_EXCEPTION"
  | .notStarted code => recovered code
  | .startedUnreadable code => recovered code
  | .started => pure none
  | .startedChild pid => do
    let withPid ← runStore (setProcessMetadata
      { executionId := starting.executionId, expectedVersion := starting.version
        evidenceRef := some "supervised:child-pid" } pid none call.draws.process)
    let _ ← runStore (setExecutionState
      { executionId := withPid.executionId, expectedVersion := withPid.version
        evidenceRef := some "supervised:running" } .running call.draws.running)
    pure none

/-- The other records of a fingerprint. -/
def ExecutionStore.othersOf (s : ExecutionStore) (fingerprint executionId : String) :
    List (String × String) :=
  s.identities.filter fun x => x.2 = fingerprint && x.1 ≠ executionId

/-- `self._controller.start(spec)`. -/
def startProcess (created : DurableExecutionRecord) : RunProc Unit :=
  ExceptT.lift (do
    let _ ← transactNoting
      (fun s : ExecutionStore => (s.othersOf created.commandFingerprint created.executionId, s))
      fun others => some (.launched created.commandFingerprint created.executionId others)
    pure ())

/-- The note of the creation: the committed record. -/
def creationNote : Except RunFault DurableExecutionRecord → Option RunNote
  | .ok created => some (.created created.commandFingerprint created.executionId)
  | .error _ => none

/-- `self._store.create(plan.record)`. -/
def createRecord (call : RunCall) (record : DurableExecutionRecord) :
    RunProc DurableExecutionRecord :=
  ExceptT.mk (transactNoting
    (fun s => ((create record call.createdAt call.draws.created s).1.mapError .store,
      (create record call.createdAt call.draws.created s).2)) creationNote)

/-- `SupervisedExecutionService.launch` (`supervised_execution.py:427-546`). A plan that is
    refused ends the call before anything is written. -/
def launch (call : RunCall) (record : DurableExecutionRecord) : RunProc LaunchOutcome :=
  match call.plan with
  | .refused code => throw (.supervised code)
  | .helperDisabled => pure (some "HELPER_KIND_NOT_ENABLED")
  | .accepted => do
    let created ← createRecord call record
    let starting ← runStore (setExecutionState
      { executionId := created.executionId, expectedVersion := created.version
        evidenceRef := some "supervised:launch-intent" } .starting call.draws.starting)
    startProcess created
    afterStart call starting

/-- `SupervisedExecutionService.collect` (`supervised_execution.py:654-727`): the exit code of a
    result that was there, or the code of what was not. -/
def collectChild (call : RunCall) (executionId : String) (expectedVersion : Int) :
    RunProc (Except String Int) := do
  let record ← runStore (get executionId)
  if record.version ≠ expectedVersion then
    throw (.store (.storeError "EXECUTION_VERSION_CONFLICT"))
  else match call.child with
  | .raised fault => throw fault
  | .missing => pure (.error "RESULT_NOT_AVAILABLE")
  | .invalid code => do
    let _ ← markRecovery record code record.resultRef call.draws.recovery
    pure (.error code)
  | .result childPid exitCode startedAt finishedAt =>
    if record.pid.any (· ≠ childPid) then do
      let _ ← markRecovery record "RESULT_PID_MISMATCH" record.resultRef call.draws.recovery
      pure (.ok exitCode)
    else do
      let withProcess ← runStore (setProcessMetadata
        { executionId, expectedVersion := record.version, evidenceRef := record.resultRef }
        childPid startedAt call.draws.collectProcess)
      let withResult ← runStore (setResultMetadata
        { executionId, expectedVersion := withProcess.version, evidenceRef := record.resultRef }
        exitCode finishedAt call.draws.collectResult)
      let _ ← runStore (setExecutionState
        { executionId, expectedVersion := withResult.version, evidenceRef := record.resultRef }
        (if exitCode = 0 then .verificationRequired else .failed) call.draws.collectState)
      pure (.ok exitCode)

/-- The code that a failed collection is reported with
    (`supervised_run_coordinator.py:696-718`). -/
def collectFault : RunFault → RunProc String
  | .store (.storeError _) => pure "SUPERVISED_VERSION_CONFLICT"
  | .supervised code => pure ("SUPERVISED_COLLECT_FAILED:" ++ code)
  | fault => throw fault

def recoveryOutcome (executionId code : String) : RunProc SupervisedRunOutcome := do
  let durable ← durableExecutionId executionId
  pure (failure .recoveryRequired durable code)

/-- The collection of a result (`supervised_run_coordinator.py:690-725`). -/
def collectOutcome (call : RunCall) (executionId : String) (kind : SupervisedRunOutcomeKind) :
    RunProc SupervisedRunOutcome := do
  let collected ← tryCatch (do
      let current ← runStore (get executionId)
      let result ← collectChild call executionId current.version
      pure (result.mapError ("SUPERVISED_COLLECT_FAILED:" ++ ·)))
    fun fault => do
      let code ← collectFault fault
      pure (.error code)
  match collected with
  | .error code => recoveryOutcome executionId code
  | .ok exitCode => pure { kind, executionId := some executionId, errorCode := none
                           exitCode := some exitCode }

/-- What follows an attachment or a launch (`supervised_run_coordinator.py:646-725`). -/
def awaitOutcome (call : RunCall) (executionId : String) (kind : SupervisedRunOutcomeKind) :
    RunProc SupervisedRunOutcome :=
  match call.poll with
  | .inspectFailed => recoveryOutcome executionId "SUPERVISED_INSPECT_FAILED"
  | .timedOut => do
    let _ ← runStore (get executionId)
    pure { kind := .timedOut, executionId := some executionId, errorCode := none }
  | .recovery code => recoveryOutcome executionId ("SUPERVISOR_RECOVERY_REQUIRED:" ++ code)
  | .resultAvailable => collectOutcome call executionId kind

/-- The provenance binding is that of the work order
    (`supervised_run_coordinator.py:559-567`). -/
def provenanceAuthorityError (identity : SupervisedRunIdentity) : Option String :=
  if identity.authorProvenance.any fun b => b.taskContractRef ≠ identity.workOrderRef then
    some "SUPERVISOR_PROVENANCE_AUTHORITY_INVALID"
  else none

/-- The record carries the minted provenance pair
    (`supervised_run_coordinator.py:595-605`). -/
def provenancePairError (identity : SupervisedRunIdentity) (record : ExecutionRow) :
    Option String :=
  if identity.authorProvenance.any fun b =>
      !(record.authorAttemptId.any validAuthorAttemptId &&
        record.authorGeneration = some b.authorGeneration) then
    some "SUPERVISOR_PROVENANCE_PAIR_INVALID"
  else none

/-- The launch under its `try`, which catches a `SupervisedExecutionError` only. -/
def tryLaunch (call : RunCall) (record : DurableExecutionRecord) :
    RunProc (Except String LaunchOutcome) :=
  tryCatch (do
      let outcome ← launch call record
      pure (.ok outcome))
    fun fault =>
      match fault with
      | .supervised code => pure (.error code)
      | fault => throw fault

/-- What a launch is reported as (`supervised_run_coordinator.py:628-644`). -/
def reportLaunch (call : RunCall) : Except String LaunchOutcome → RunProc SupervisedRunOutcome
  | .error code => do
    let durable ← durableExecutionId call.executionId
    pure (failure .failed durable ("SUPERVISED_LAUNCH_FAILED:" ++ code))
  | .ok (some code) => recoveryOutcome call.executionId ("SUPERVISED_LAUNCH_FAILED:" ++ code)
  | .ok none => awaitOutcome call call.executionId .fresh

/-- What is checked before the record exists, in its order. -/
def freshError (call : RunCall) : Option String :=
  call.guardError.or (call.worktreeError.or (provenanceAuthorityError call.identity))

/-- What is checked between the record and the launch, in its order. -/
def recordError (call : RunCall) (record : ExecutionRow) : Except StoreFault (Option String) :=
  match provenancePairError call.identity record, call.planValueError with
  | some code, _ => .ok (some code)
  | none, some text => .error (.valueError text)
  | none, none => .ok call.worktreeRecheck

/-- The consequential branch (`supervised_run_coordinator.py:528-644`). -/
def launchFresh (call : RunCall) (fingerprint : String) : RunProc SupervisedRunOutcome :=
  match freshError call with
  | some code => pure (failure .failed none code)
  | none =>
    match DurableExecutionRecord.make (freshRow call fingerprint) with
    | .error fault => throw (.store fault)
    | .ok record =>
      match recordError call record.toExecutionRow with
      | .error fault => throw (.store fault)
      | .ok (some code) => pure (failure .failed none code)
      | .ok none => tryLaunch call record >>= reportLaunch call

/-- What the decision leads to (`supervised_run_coordinator.py:504-644`). -/
def actOn (call : RunCall) (assessment : DuplicateExecutionAssessment) :
    RunProc SupervisedRunOutcome :=
  match assessment.decision, assessment.record with
  | .blockedUnknown, _ => pure (failure .blockedUnknown none "SUPERVISED_DUPLICATE_BLOCKED")
  | .attachRunning, some record => awaitOutcome call record.executionId .attachRunning
  | .reuseCompleted, some record => awaitOutcome call record.executionId .reuseCompleted
  | .attachRunning, none => pure (failure .failed none "SUPERVISED_ATTACH_RECORD_MISSING")
  | .reuseCompleted, none => pure (failure .failed none "SUPERVISED_ATTACH_RECORD_MISSING")
  | .safeToLaunch, _ => launchFresh call assessment.fingerprint

/-- `SupervisedRunCoordinator.run_with_outcome`
    (`supervised_run_coordinator.py:495-725`). -/
def runWithOutcome (host : FingerprintHost) (call : RunCall) :
    Proc ExecutionStore RunNote (Except RunFault SupervisedRunOutcome) :=
  match fingerprintSpec host call with
  | .error fault => pure (.error (.store fault))
  | .ok spec => (assessDuplicate host spec >>= actOn call).run

end AConductor.Execution

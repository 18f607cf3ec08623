import AConductor.Job.Execution

/-!
# Graph dispatch

`GraphDispatchCoordinator` (`src/a_conductor/graph/dispatch.py:262-455`): a selected
node of a graph becomes a durable job, is bound to its worker and operation by one
metadata checkpoint, and is driven to the backend. The control service between the
coordinator and the store (`src/a_conductor/job_control.py:116-203`) only names the
target state of each write. A request and a gate decision are taken as their
constructors leave them; `sha256` over the canonical JSON of a key or a payload is a
parameter.
-/

namespace AConductor.Graph

open Proc Job

/-- `GraphDispatchMode` (`dispatch.py:46-48`). -/
inductive GraphDispatchMode where
  | interactivePull
  | programmaticPush
  deriving DecidableEq, Repr

/-- `GraphDispatchKey` (`dispatch.py:73-92`). -/
structure GraphDispatchKey where
  graphId : String
  graphRunId : String
  nodeId : String
  deriving DecidableEq, Repr

/-- `GraphDispatchRequest` (`dispatch.py:95-127`); of the assignment only the worker
    is read, its node being the key's. -/
structure GraphDispatchRequest where
  key : GraphDispatchKey
  workerId : String
  projectId : String
  workOrderRef : String
  operationRef : String
  dispatchMode : GraphDispatchMode
  maxAttempts : Int := 3
  deriving DecidableEq, Repr

/-- `DispatchGateDecision` (`dispatch.py:130-155`). -/
structure DispatchGateDecision where
  allowed : Bool
  reasonCode : String
  evidenceRef : Option String
  deriving DecidableEq, Repr

/-- `GraphDispatchAction` (`dispatch.py:158-163`). -/
inductive GraphDispatchAction where
  | executed
  | offered
  | blocked
  | existing
  | reconcile
  deriving DecidableEq, Repr

/-- `GraphDispatchResult` (`dispatch.py:166-182`). -/
structure GraphDispatchResult where
  action : GraphDispatchAction
  job : JobRuntimeState
  reasonCode : String
  execution : Option JobExecutionOutcome := none
  deriving DecidableEq, Repr

/-- What `dispatch` can raise. -/
inductive DispatchFault where
  | job (fault : JobFault)
  | coordinatorError (code : String) (recoveryRequired : Bool)
  | dispatchError (code : String)
  | valueError (text : String)
  | resolverRaised
  deriving DecidableEq, Repr

def DispatchFault.ofExecution : ExecutionFault → DispatchFault
  | .job fault => .job fault
  | .coordinatorError code recoveryRequired => .coordinatorError code recoveryRequired

/-- What the injected mode resolver does with a worker. -/
inductive ModeAnswer where
  | raised
  | missing
  | invalid
  | mode (m : GraphDispatchMode)
  deriving DecidableEq, Repr

/-- `hashlib.sha256(json.dumps(…)).hexdigest()` of a key and of the metadata of a
    request (whose payload holds every field of it). -/
structure DispatchHash where
  key : GraphDispatchKey → String
  metadata : GraphDispatchRequest → String

/-- `GraphDispatchKey.job_id` (`dispatch.py:84-92`). -/
def DispatchHash.jobId (hash : DispatchHash) (request : GraphDispatchRequest) : String :=
  "graph-dispatch-" ++ hash.key request.key

/-- `_DISPATCH_META_PREFIX` (`dispatch.py:239`). -/
def dispatchMetaPrefix : String := "graph-dispatch-meta:"

/-- `_dispatch_metadata_ref` (`dispatch.py:242-260`). -/
def DispatchHash.metadataRef (hash : DispatchHash) (request : GraphDispatchRequest) : String :=
  dispatchMetaPrefix ++ hash.metadata request

/-- A dispatch with what its surroundings will answer. -/
structure DispatchCall where
  request : GraphDispatchRequest
  gate : DispatchGateDecision
  resolved : ModeAnswer
  answer : BackendAnswer
  createDraw : EventIdDraw
  metadataDraw : EventIdDraw
  readyDraw : EventIdDraw
  claimDraw : EventIdDraw
  blockDraw : EventIdDraw
  gateDraw : EventIdDraw
  executingDraw : EventIdDraw
  recoveryDraw : EventIdDraw
  checkpointDraw : EventIdDraw
  verifyingDraw : EventIdDraw
  deriving DecidableEq, Repr

/-- The notes of a dispatch: its first read, the binding it found or made, those of
    the execution inside it, and what it returned. -/
inductive DispatchNote where
  | called (request : GraphDispatchRequest) (gate : DispatchGateDecision)
  | bound (request : GraphDispatchRequest)
  | execution (note : ExecutionNote)
  | returned (result : Except DispatchFault GraphDispatchResult)
  deriving DecidableEq

/-- A part of a dispatch that may raise. -/
abbrev DispatchProc := ExceptT DispatchFault (Proc JobStore DispatchNote)

/-- A store operation, its faults raised as they are. -/
def serve {α : Type} (tx : JobStore → Except JobFault α × JobStore) : DispatchProc α :=
  ExceptT.mk (transact fun s => ((tx s).1.mapError .job, (tx s).2))

/-- A store operation whose success binds the request. -/
def serveBinding {α : Type} (request : GraphDispatchRequest)
    (tx : JobStore → Except JobFault α × JobStore) : DispatchProc α :=
  ExceptT.mk (transactNoting (fun s => ((tx s).1.mapError .job, (tx s).2)) fun
    | .ok _ => some (.bound request)
    | .error _ => none)

/-- `_text` (`dispatch.py:26-36`). -/
def dispatchText (value field : String) (maxLength : Nat) : Except DispatchFault String :=
  if Text.isBlank value || Text.hasChar value '\x00' || Text.hasChar value '\r' ||
      Text.hasChar value '\n' || maxLength < value.length then
    .error (.valueError (field ++ " is invalid"))
  else .ok (Text.strip value)

/-- The constructor call `GraphDispatchResult(…)`. -/
def dispatchResult (action : GraphDispatchAction) (job : JobRuntimeState) (reasonCode : String)
    (execution : Option JobExecutionOutcome := none) : Except DispatchFault GraphDispatchResult :=
  (dispatchText reasonCode "reason_code" 128).map fun _ => ⟨action, job, reasonCode, execution⟩

/-- The metadata checkpoints of a log (`dispatch.py:306-311`). -/
def metadataRefs (events : List JobEvent) : List String :=
  events.filterMap fun e =>
    match e.checkpointRef with
    | some ref => if Text.startsWith ref dispatchMetaPrefix then some ref else none
    | none => none

section Dispatch

variable (hash : DispatchHash)

/-- `_ensure_metadata` (`dispatch.py:302-324`). -/
def ensureMetadata (call : DispatchCall) (job : JobRuntimeState) :
    DispatchProc JobRuntimeState := do
  let events ← serve (listEvents job.jobId)
  match metadataRefs events with
  | [] =>
    if job.state ≠ .new then throw (.dispatchError "DISPATCH_METADATA_MISSING")
    else
      serveBinding call.request (checkpoint {
        jobId := job.jobId, checkpointRef := hash.metadataRef call.request
        expectedVersion := job.version } call.metadataDraw)
  | [ref] =>
    if ref ≠ hash.metadataRef call.request then
      throw (.dispatchError "DISPATCH_JOB_IDENTITY_MISMATCH")
    else serveBinding call.request (getJob job.jobId)
  | _ => throw (.dispatchError "DISPATCH_METADATA_AMBIGUOUS")

/-- The first read of a dispatch (`dispatch.py:277-278`), which notes the call. -/
def firstRead (call : DispatchCall) : Proc JobStore DispatchNote (Except JobFault JobRuntimeState) :=
  transactNoting (getJob (hash.jobId call.request)) fun _ => some (.called call.request call.gate)

/-- The creation of a job that was not found, or was created meanwhile
    (`dispatch.py:279-293`). -/
def createOrRead (call : DispatchCall) (read : Except JobFault JobRuntimeState) :
    DispatchProc JobRuntimeState :=
  match read with
  | .ok job => pure job
  | .error (.storeError "JOB_NOT_FOUND") => ExceptT.mk do
    match ← transact (createJob (hash.jobId call.request) call.request.workOrderRef
        call.request.projectId call.request.maxAttempts call.createDraw) with
    | .ok job => pure (.ok job)
    | .error (.storeError "JOB_ALREADY_EXISTS") => (serve (getJob (hash.jobId call.request))).run
    | .error fault => pure (.error (.job fault))
  | .error fault => throw (.job fault)

/-- The identity of a stored job (`dispatch.py:294-299`). -/
def checkIdentity (request : GraphDispatchRequest) (job : JobRuntimeState) :
    Except DispatchFault Unit :=
  if job.workOrderRef ≠ request.workOrderRef ∨ job.projectId ≠ request.projectId ∨
      job.maxAttempts ≠ request.maxAttempts then
    .error (.dispatchError "DISPATCH_JOB_IDENTITY_MISMATCH")
  else .ok ()

/-- `_load_or_create` (`dispatch.py:275-300`). -/
def loadOrCreate (call : DispatchCall) : DispatchProc JobRuntimeState := do
  let read ← ExceptT.lift (firstRead hash call)
  let job ← createOrRead hash call read
  let _ ← ExceptT.mk (pure (checkIdentity call.request job))
  ensureMetadata hash call job

/-- `_EXISTING_STATES` and `_RECONCILE_STATES` (`dispatch.py:233-238`). -/
def existingStates : List TaskState := [.verifying, .reviewPending, .complete, .failed, .cancelled]

def reconcileStates : List TaskState :=
  [.executing, .recoveryNeeded, .changesRequired, .repairing, .planning]

/-- `mark_ready` of a new or blocked job (`dispatch.py:381-393`). -/
def readied (call : DispatchCall) (job : JobRuntimeState) : DispatchProc JobRuntimeState :=
  if job.state = .blocked ∨ job.state = .new then
    serve (transition { jobId := job.jobId, targetState := .ready, expectedVersion := job.version }
      call.readyDraw)
  else pure job

/-- `claim` of a ready job (`dispatch.py:395-400`). -/
def claimed (call : DispatchCall) (job : JobRuntimeState) : DispatchProc JobRuntimeState :=
  if job.state = .ready then
    serve (transition {
      jobId := job.jobId, targetState := .claimed, expectedVersion := job.version
      workerId := some call.request.workerId } call.claimDraw)
  else pure job

/-- `gate` of a claimed job (`dispatch.py:427-433`). -/
def gated (call : DispatchCall) (job : JobRuntimeState) : DispatchProc JobRuntimeState :=
  if job.state = .claimed then
    serve (transition {
      jobId := job.jobId, targetState := .gating, expectedVersion := job.version
      workerId := some call.request.workerId, evidenceRef := call.gate.evidenceRef } call.gateDraw)
  else pure job

/-- The execution call inside a dispatch (`dispatch.py:435-440`). -/
def executeCall (call : DispatchCall) (job : JobRuntimeState) : ExecuteCall where
  jobId := job.jobId
  expectedVersion := job.version
  workerId := call.request.workerId
  operationRef := call.request.operationRef
  answer := call.answer
  executingDraw := call.executingDraw
  recoveryDraw := call.recoveryDraw
  checkpointDraw := call.checkpointDraw
  verifyingDraw := call.verifyingDraw

/-- The result of an execution (`dispatch.py:441-453`). -/
def executionResult (outcome : JobExecutionOutcome) : Except DispatchFault GraphDispatchResult :=
  if outcome.success then
    dispatchResult .executed outcome.job "EXECUTION_REACHED_VERIFYING" (some outcome)
  else
    dispatchResult .reconcile outcome.job
      (outcome.errorCode.getD "EXECUTION_RECONCILE_REQUIRED") (some outcome)

/-- `execute_operation` and its result. -/
def pushed (call : DispatchCall) (job : JobRuntimeState) : DispatchProc GraphDispatchResult :=
  ExceptT.mk do
    match ← (execute (executeCall call job)).mapNotes .execution with
    | .error fault => pure (.error (.ofExecution fault))
    | .ok outcome => pure (executionResult outcome)

/-- A claimed or gated job (`dispatch.py:402-453`). -/
def offer (call : DispatchCall) (job : JobRuntimeState) : DispatchProc GraphDispatchResult :=
  -- `_assert_worker` (`dispatch.py:334-337`)
  if job.workerId.isSome ∧ job.workerId ≠ some call.request.workerId then
    throw (.dispatchError "WORKER_CLAIM_CONFLICT")
  else if job.state ≠ .claimed ∧ job.state ≠ .gating then
    ExceptT.mk (pure (dispatchResult .reconcile job ("JOB_STATE_" ++ job.state.value)))
  else if ¬ call.gate.allowed then do
    let blocked ← serve (transition {
      jobId := job.jobId, targetState := .blocked, expectedVersion := job.version
      workerId := some call.request.workerId, evidenceRef := call.gate.evidenceRef }
      call.blockDraw)
    ExceptT.mk (pure (dispatchResult .blocked blocked call.gate.reasonCode))
  else
    match call.request.dispatchMode with
    | .interactivePull =>
      ExceptT.mk (pure (dispatchResult .offered job "INTERACTIVE_PULL_OFFERED"))
    | .programmaticPush => do
      let job ← gated call job
      pushed call job

/-- The body of the `try` statement of `dispatch` (`dispatch.py:361-453`). -/
def dispatchBody (call : DispatchCall) : DispatchProc GraphDispatchResult := do
  let job ← loadOrCreate hash call
  if job.state ∈ existingStates then
    ExceptT.mk (pure (dispatchResult .existing job ("JOB_ALREADY_" ++ job.state.value)))
  else if job.state ∈ reconcileStates then
    ExceptT.mk (pure (dispatchResult .reconcile job ("JOB_STATE_" ++ job.state.value)))
  else if job.state = .blocked ∧ ¬ call.gate.allowed then
    ExceptT.mk (pure (dispatchResult .blocked job call.gate.reasonCode))
  else do
    let job ← readied call job
    let job ← claimed call job
    offer call job

/-- `_reconcile` (`dispatch.py:326-332`). -/
def reconcile (call : DispatchCall) (reasonCode : String) : DispatchProc GraphDispatchResult := do
  let latest ← serve (getJob (hash.jobId call.request))
  ExceptT.mk (pure (dispatchResult .reconcile latest reasonCode))

/-- The `except` clauses of `dispatch` (`dispatch.py:454-464`). -/
def recoverDispatch (call : DispatchCall) (fault : DispatchFault) :
    DispatchProc GraphDispatchResult :=
  match fault with
  | .job (.storeError code) =>
    if code = "JOB_VERSION_CONFLICT" then reconcile hash call code else throw fault
  | .job (.stateError code) => reconcile hash call code
  | .coordinatorError code recoveryRequired =>
    if recoveryRequired then reconcile hash call code else throw fault
  | _ => throw fault

/-- The mode of the worker (`dispatch.py:350-356`). -/
def checkMode (call : DispatchCall) : Except DispatchFault Unit :=
  match call.resolved with
  | .raised => .error .resolverRaised
  | .missing => .error (.dispatchError "DISPATCH_MODE_UNKNOWN")
  | .invalid => .error (.dispatchError "DISPATCH_MODE_INVALID")
  | .mode m =>
    if call.request.dispatchMode ≠ m then .error (.dispatchError "DISPATCH_MODE_MISMATCH")
    else .ok ()

/-- The mode check and the `try` statement of `dispatch`. -/
def tryDispatch (call : DispatchCall) :
    Proc JobStore DispatchNote (Except DispatchFault GraphDispatchResult) :=
  match checkMode call with
  | .error fault => pure (.error fault)
  | .ok () => do
    match ← (dispatchBody hash call).run with
    | .ok result => pure (.ok result)
    | .error fault => (recoverDispatch hash call fault).run

/-- `GraphDispatchCoordinator.dispatch` (`dispatch.py:339-464`), noting its outcome. -/
def dispatch (call : DispatchCall) :
    Proc JobStore DispatchNote (Except DispatchFault GraphDispatchResult) := do
  let result ← tryDispatch hash call
  emit (.returned result)
  pure result

end Dispatch

end AConductor.Graph

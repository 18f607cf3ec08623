import AConductor.Job.State
import AConductor.Lib.Transaction
import AConductor.Lib.Table

/-!
# Jobs: the durable store

`SQLiteJobStore` (`src/a_conductor/job_store.py:95-651`) over `job_records` and
`job_events`. Every writer is one `BEGIN IMMEDIATE` transaction, so any interleaving
of writers is a sequence of the operations below. The time columns, which the
database fills in and nothing reads, are left out, and so are `initialize`, which
touches only the schema, and the checks of the read-only connection.
-/

namespace AConductor.Job

open Txn

/-- `JobEventType` (`job_store.py:39-42`). -/
inductive JobEventType where
  | created
  | transition
  | checkpoint
  deriving DecidableEq, Repr

/-- What `_insert_event` is told about an event (`job_store.py:287-299`). -/
structure JobEntry where
  jobId : String
  eventType : JobEventType
  fromState : Option TaskState
  toState : Option TaskState
  workerId : Option String
  recoveryClassification : Option RecoveryClassification
  checkpointRef : Option String
  evidenceRef : Option String
  deriving DecidableEq, Repr

/-- `JobEvent` (`job_store.py:63-92`), also a row of `job_events`. -/
structure JobEvent extends JobEntry where
  eventId : String
  sequenceNo : Int
  deriving DecidableEq, Repr

structure JobStore where
  records : List JobRow
  events : List JobEvent
  deriving DecidableEq, Repr

def JobStore.empty : JobStore := ⟨[], []⟩

abbrev JobTxn := Txn JobStore JobFault

/-- The outcome of the injected event id factory: `none` when it raises. -/
abbrev EventIdDraw := Option String

/-- `_next_event_id` (`job_store.py:235-243`). -/
def nextEventId (draw : EventIdDraw) : Except JobFault String :=
  match draw with
  | none => .error (.storeError "JOB_EVENT_ID_FAILED")
  | some value =>
    if Text.isBlank value then .error (.storeError "JOB_EVENT_ID_INVALID") else .ok value

/-- The events of one job, in the order of insertion. -/
def JobStore.eventsOf (s : JobStore) (jobId : String) : List JobEvent :=
  s.events.filter fun e => e.jobId = jobId

/-- `_next_sequence` (`job_store.py:276-285`). -/
def JobStore.nextSequence (s : JobStore) (jobId : String) : Int :=
  match ((s.eventsOf jobId).map JobEvent.sequenceNo).max? with
  | none => 1
  | some m => m + 1

/-- `event_id TEXT PRIMARY KEY` and `UNIQUE(job_id, sequence_no)`. -/
def JobEvent.idKey (e : JobEvent) : Option String := some e.eventId

def JobEvent.sequenceKey (e : JobEvent) : Option (String × Int) := some (e.jobId, e.sequenceNo)

/-- `job_id TEXT PRIMARY KEY`. -/
def JobRow.idKey (r : JobRow) : Option String := some r.jobId

/-- `_insert_event` (`job_store.py:287-329`); the last test is the foreign key. -/
def insertEvent (draw : EventIdDraw) (entry : JobEntry) : JobTxn Unit := do
  let eventId ← ofExcept (nextEventId draw)
  let sequenceNo ← query fun s => s.nextSequence entry.jobId
  let event : JobEvent := { entry with eventId, sequenceNo }
  let rows ← query JobStore.events
  require (!(Table.conflicts JobEvent.idKey event rows ||
    Table.conflicts JobEvent.sequenceKey event rows)) .integrityError
  let records ← query JobStore.records
  require (records.any fun r => r.jobId = entry.jobId) .integrityError
  update fun s => { s with events := s.events ++ [event] }

/-- `INSERT INTO job_records`. A budget outside the range of an `INTEGER` column is
    refused by the driver. -/
def insertRecord (row : JobRow) : JobTxn Unit := do
  require (row.maxAttempts < 2 ^ 63) .overflowError
  let rows ← query JobStore.records
  require (!Table.conflicts JobRow.idKey row rows) .integrityError
  update fun s => { s with records := s.records ++ [row] }

/-- `_load_job_row` and `_state_from_row` (`job_store.py:245-274`). -/
def loadJob (jobId : String) : JobTxn JobRuntimeState := do
  match ← query fun s => s.records.find? fun r => r.jobId = jobId with
  | none => raise (.storeError "JOB_NOT_FOUND")
  | some row =>
    ofExcept ((JobRuntimeState.make row).mapError fun _ => .storeError "JOB_RECORD_INVALID")

/-- `UPDATE job_records SET … WHERE job_id = ? AND version = ?`, which must change one
    row (`job_store.py:469-491`). -/
def updateRecord (jobId : String) (version : Int) (f : JobRow → JobRow) : JobTxn Unit := do
  let hits ← query fun s => s.records.filter fun r => r.jobId = jobId && r.version = version
  require (hits.length = 1) (.storeError "JOB_VERSION_CONFLICT")
  update fun s => { s with
    records := Table.updateWhere (fun r => r.jobId = jobId && r.version = version) f s.records }

/-- `_check_version` (`job_store.py:422-426`). -/
def checkVersion (current : JobRow) (expectedVersion : Int) : Except JobFault Unit := do
  requirePositiveInt expectedVersion "expected_version"
  if current.version ≠ expectedVersion then .error (.storeError "JOB_VERSION_CONFLICT")

/-- The row a transition leaves (`job_store.py:503-513`). -/
def JobRow.transitioned (r : JobRow) (plan : JobTransitionPlan) : JobRow :=
  { r with
    state := plan.targetState, workerId := plan.workerId, attemptCount := plan.attemptCount
    recoveryClassification := plan.recoveryClassification, version := r.version + 1 }

/-- The row a checkpoint leaves (`job_store.py:560-570`). -/
def JobRow.checkpointed (r : JobRow) : JobRow := { r with version := r.version + 1 }

/-- The event of a creation (`job_store.py:381-391`). -/
def createdEntry (job : JobRow) : JobEntry where
  jobId := job.jobId
  eventType := .created
  fromState := none
  toState := some job.state
  workerId := none
  recoveryClassification := none
  checkpointRef := none
  evidenceRef := none

/-- The event of a transition (`job_store.py:492-502`). -/
def transitionEntry (current : JobRow) (plan : JobTransitionPlan) (evidenceRef : Option String) :
    JobEntry where
  jobId := current.jobId
  eventType := .transition
  fromState := some current.state
  toState := some plan.targetState
  workerId := plan.workerId
  recoveryClassification := plan.recoveryClassification
  checkpointRef := none
  evidenceRef := evidenceRef

/-- The event of a checkpoint (`job_store.py:549-559`). -/
def checkpointEntry (current : JobRow) (checkpointRef : String) (evidenceRef : Option String) :
    JobEntry where
  jobId := current.jobId
  eventType := .checkpoint
  fromState := some current.state
  toState := some current.state
  workerId := current.workerId
  recoveryClassification := current.recoveryClassification
  checkpointRef := some checkpointRef
  evidenceRef := evidenceRef

/-- The `except sqlite3.IntegrityError` clause of the writers. -/
def nameConflict {α : Type} :
    Except JobFault α × JobStore → Except JobFault α × JobStore
  | (.error .integrityError, s) => (.error (.storeError "JOB_STORE_CONFLICT"), s)
  | out => out

/-- Run a transaction after its arguments were checked. -/
def checkedTxn {α : Type} (args : Except JobFault Unit) (body : JobTxn α) (s : JobStore) :
    Except JobFault α × JobStore :=
  match args with
  | .error e => (.error e, s)
  | .ok () => nameConflict (atomically body s)

def createBody (job : JobRuntimeState) (draw : EventIdDraw) : JobTxn JobRuntimeState := do
  let existing ← query fun s => s.records.any fun r => r.jobId = job.jobId
  require (!existing) (.storeError "JOB_ALREADY_EXISTS")
  insertRecord job.toJobRow
  insertEvent draw (createdEntry job.toJobRow)
  pure job

/-- `SQLiteJobStore.create_job` (`job_store.py:331-405`). -/
def createJob (jobId workOrderRef projectId : String) (maxAttempts : Int) (draw : EventIdDraw)
    (s : JobStore) : Except JobFault JobRuntimeState × JobStore :=
  match newJobState jobId workOrderRef projectId maxAttempts with
  | .error e => (.error e, s)
  | .ok job => nameConflict (atomically (createBody job draw) s)

/-- The arguments of `SQLiteJobStore.transition`. -/
structure TransitionArgs where
  jobId : String
  targetState : TaskState
  expectedVersion : Int
  workerId : Option String := none
  recoveryClassification : Option RecoveryClassification := none
  evidenceRef : Option String := none
  deriving DecidableEq, Repr

def TransitionArgs.check (a : TransitionArgs) : Except JobFault Unit := do
  requireText a.jobId "job_id"
  requirePositiveInt a.expectedVersion "expected_version"
  requireOptionalText a.evidenceRef "evidence_ref"

def transitionBody (a : TransitionArgs) (draw : EventIdDraw) : JobTxn JobRuntimeState := do
  let current ← loadJob a.jobId
  ofExcept (checkVersion current.toJobRow a.expectedVersion)
  let plan ← ofExcept
    (planJobTransition current.toJobRow a.targetState a.workerId a.recoveryClassification)
  updateRecord current.jobId current.version fun r => r.transitioned plan
  insertEvent draw (transitionEntry current.toJobRow plan a.evidenceRef)
  ofExcept (JobRuntimeState.make (current.toJobRow.transitioned plan))

/-- `SQLiteJobStore.transition` (`job_store.py:428-525`). -/
def transition (a : TransitionArgs) (draw : EventIdDraw) (s : JobStore) :
    Except JobFault JobRuntimeState × JobStore :=
  checkedTxn a.check (transitionBody a draw) s

/-- The arguments of `SQLiteJobStore.checkpoint`. -/
structure CheckpointArgs where
  jobId : String
  checkpointRef : String
  expectedVersion : Int
  evidenceRef : Option String := none
  deriving DecidableEq, Repr

def CheckpointArgs.check (a : CheckpointArgs) : Except JobFault Unit := do
  requireText a.jobId "job_id"
  requireText a.checkpointRef "checkpoint_ref"
  requirePositiveInt a.expectedVersion "expected_version"
  requireOptionalText a.evidenceRef "evidence_ref"

def checkpointBody (a : CheckpointArgs) (draw : EventIdDraw) : JobTxn JobRuntimeState := do
  let current ← loadJob a.jobId
  ofExcept (checkVersion current.toJobRow a.expectedVersion)
  ofExcept (requireOpen current.state)
  updateRecord current.jobId current.version JobRow.checkpointed
  insertEvent draw (checkpointEntry current.toJobRow a.checkpointRef a.evidenceRef)
  ofExcept (JobRuntimeState.make current.toJobRow.checkpointed)

/-- `SQLiteJobStore.checkpoint` (`job_store.py:527-584`). -/
def checkpoint (a : CheckpointArgs) (draw : EventIdDraw) (s : JobStore) :
    Except JobFault JobRuntimeState × JobStore :=
  checkedTxn a.check (checkpointBody a draw) s

/-- `SQLiteJobStore.get_job` (`job_store.py:407-420`). -/
def getJob (jobId : String) (s : JobStore) : Except JobFault JobRuntimeState × JobStore :=
  checkedTxn (requireText jobId "job_id") (loadJob jobId) s

/-- The sequence check of `list_events` (`job_store.py:613-617`). -/
def inSequence (expected : Int) : List JobEvent → Bool
  | [] => true
  | e :: es => e.sequenceNo = expected && inSequence (expected + 1) es

/-- `ORDER BY sequence_no`. -/
def bySequence (es : List JobEvent) : List JobEvent :=
  es.insertionSort fun a b => a.sequenceNo ≤ b.sequenceNo

def listEventsBody (jobId : String) : JobTxn (List JobEvent) := do
  let records ← query JobStore.records
  require (records.any fun r => r.jobId = jobId) (.storeError "JOB_NOT_FOUND")
  let rows ← query fun s => bySequence (s.eventsOf jobId)
  require (inSequence 1 rows) (.storeError "JOB_EVENT_SEQUENCE_INVALID")
  pure rows

/-- `SQLiteJobStore.list_events` (`job_store.py:586-651`). Stored events were checked
    when they were written, so none is refused here. -/
def listEvents (jobId : String) (s : JobStore) : Except JobFault (List JobEvent) × JobStore :=
  checkedTxn (requireText jobId "job_id") (listEventsBody jobId) s

end AConductor.Job

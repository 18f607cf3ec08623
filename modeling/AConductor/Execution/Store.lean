import AConductor.Execution.Record
import AConductor.Lib.Transaction
import AConductor.Lib.Table

/-!
# Executions: the durable store

`SQLiteExecutionStore` (`src/a_conductor/execution_store.py:205-1313`) over its five
tables: records, their events, receipts, the admission journal and the dispatch fences.
Every writer is one `BEGIN IMMEDIATE` transaction. `initialize`, which touches only the
schema, and the time columns other than `created_at`, which nothing reads, are left out.
-/

namespace AConductor.Execution

open Txn

/-- `ExecutionEventType` (`execution_store.py:137-143`). -/
inductive ExecutionEventType where
  | created
  | transportStateChanged
  | executionStateChanged
  | processMetadataUpdated
  | resultMetadataUpdated
  | receiptRecorded
  deriving DecidableEq, Repr

/-- `_require_text` of the store (`execution_store.py:146-149`). -/
def requireText (value fieldName : String) : Except StoreFault Unit :=
  if Text.isBlank value || Text.hasChar value '\x00' then
    .error (.valueError (fieldName ++ " must not be blank"))
  else .ok ()

def requireOptionalText (value : Option String) (fieldName : String) : Except StoreFault Unit :=
  match value with
  | none => .ok ()
  | some v => requireText v fieldName

/-- A row of `execution_records`. -/
structure StoredRecord extends ExecutionRow where
  createdAt : Int
  deriving DecidableEq, Repr

/-- `ExecutionEvent` (`execution_store.py:164-202`), also a row of `execution_events`. -/
structure ExecutionEvent where
  eventId : String
  executionId : String
  sequenceNo : Int
  eventType : ExecutionEventType
  transportState : TransportState
  executionState : ExecutionProcessState
  pid : Option Int
  exitCode : Option Int
  startedAt : Option String
  finishedAt : Option String
  evidenceRef : Option String
  deriving DecidableEq, Repr

/-- The identity of an attempt: the primary key of the journal and of the fences. -/
abbrev AttemptKey := String × String

/-- `AdmissionDecisionRow` (`execution_store.py:43-56`). -/
structure AdmissionDecisionRow where
  executionId : String
  attemptId : String
  bindingDigest : String
  claimRef : String
  claimGeneration : Int
  admitted : Bool
  code : Option String := none
  detail : Option String := none
  deriving DecidableEq, Repr

def AdmissionDecisionRow.key (r : AdmissionDecisionRow) : AttemptKey := (r.executionId, r.attemptId)

/-- The states of a dispatch fence (`execution_store.py:34`). -/
inductive FenceState where
  | reserved
  | dispatched
  | fenced
  | retired
  deriving DecidableEq, Repr

/-- The stored text of a state. -/
def FenceState.value : FenceState → String
  | .reserved => "RESERVED"
  | .dispatched => "DISPATCHED"
  | .fenced => "FENCED"
  | .retired => "RETIRED"

/-- `_FENCE_TRANSITIONS` (`execution_store.py:35-40`). -/
def fenceTransitions : FenceState → List FenceState
  | .reserved => [.dispatched, .fenced, .retired]
  | .dispatched => [.fenced, .retired]
  | .fenced => []
  | .retired => []

/-- `DispatchFenceRow` (`execution_store.py:59-67`). -/
structure DispatchFenceRow where
  executionId : String
  attemptId : String
  bindingDigest : String
  state : FenceState
  reason : Option String := none
  deriving DecidableEq, Repr

def DispatchFenceRow.key (r : DispatchFenceRow) : AttemptKey := (r.executionId, r.attemptId)

structure ExecutionStore where
  records : List StoredRecord
  events : List ExecutionEvent
  receipts : List ReceiptRow
  admissions : List AdmissionDecisionRow
  fences : List DispatchFenceRow
  deriving DecidableEq, Repr

def ExecutionStore.empty : ExecutionStore := ⟨[], [], [], [], []⟩

abbrev StoreTxn := Txn ExecutionStore StoreFault

/-- Run a transaction after its arguments were checked. -/
def checkedTxn {α : Type} (args : Except StoreFault Unit) (body : StoreTxn α)
    (s : ExecutionStore) : Except StoreFault α × ExecutionStore :=
  match args with
  | .error e => (.error e, s)
  | .ok () => atomically body s

def writeFailed : StoreFault := .storeError "EXECUTION_STORE_WRITE_FAILED"

/-- A value that the driver can bind to an `INTEGER` column. -/
def fitsColumn (value : Int) : Bool := -(2 ^ 63) ≤ value && value < 2 ^ 63

def ExecutionStore.record? (s : ExecutionStore) (executionId : String) : Option StoredRecord :=
  s.records.find? fun r => r.executionId = executionId

def ExecutionStore.eventsOf (s : ExecutionStore) (executionId : String) : List ExecutionEvent :=
  s.events.filter fun e => e.executionId = executionId

/-- `_select_record` and `_row_to_record` (`execution_store.py:516-566`). -/
def loadRecord (executionId : String) : StoreTxn DurableExecutionRecord := do
  match ← query fun s => s.record? executionId with
  | none => raise (.storeError "EXECUTION_NOT_FOUND")
  | some row =>
    ofExcept ((DurableExecutionRecord.make row.toExecutionRow).mapError fun _ =>
      .storeError "EXECUTION_RECORD_INVALID")

/-- `_next_sequence` (`execution_store.py:568-575`). -/
def ExecutionStore.nextSequence (s : ExecutionStore) (executionId : String) : Int :=
  match ((s.eventsOf executionId).map ExecutionEvent.sequenceNo).max? with
  | none => 1
  | some m => m + 1

/-- `event_id TEXT PRIMARY KEY` and `UNIQUE (execution_id, sequence_no)`. -/
def ExecutionEvent.idKey (e : ExecutionEvent) : Option String := some e.eventId

def ExecutionEvent.sequenceKey (e : ExecutionEvent) : Option (String × Int) :=
  some (e.executionId, e.sequenceNo)

/-- The columns of a record that its events repeat. -/
def ExecutionRow.event (r : ExecutionRow) (eventId : String) (sequenceNo : Int)
    (eventType : ExecutionEventType) (evidenceRef : Option String) : ExecutionEvent where
  eventId := eventId
  executionId := r.executionId
  sequenceNo := sequenceNo
  eventType := eventType
  transportState := r.transportState
  executionState := r.executionState
  pid := r.pid
  exitCode := r.exitCode
  startedAt := r.startedAt
  finishedAt := r.finishedAt
  evidenceRef := evidenceRef

/-- `_insert_event` (`execution_store.py:577-604`) with the id drawn for the event. The
    table refuses an id of spaces only, a repeated key, and an event without record. -/
def insertEvent (draw : String) (record : ExecutionRow) (eventType : ExecutionEventType)
    (evidenceRef : Option String) : StoreTxn Unit := do
  ofExcept (requireOptionalText evidenceRef "evidence_ref")
  let sequenceNo ← query fun s => s.nextSequence record.executionId
  let event := record.event draw sequenceNo eventType evidenceRef
  let rows ← query ExecutionStore.events
  require (!(draw.toList.all (· = ' ') || Table.conflicts ExecutionEvent.idKey event rows ||
    Table.conflicts ExecutionEvent.sequenceKey event rows)) writeFailed
  let known ← query fun s => (s.record? record.executionId).isSome
  require known writeFailed
  update fun s => { s with events := s.events ++ [event] }

/-- The integers a record writes fit their columns. -/
def ExecutionRow.fits (r : ExecutionRow) : Bool :=
  r.pid.all fitsColumn && r.exitCode.all fitsColumn && fitsColumn r.version

def createBody (record : DurableExecutionRecord) (createdAt : Int) (draw : String) :
    StoreTxn DurableExecutionRecord := do
  let exists_ ← query fun s => (s.record? record.executionId).isSome
  require (!exists_) (.storeError "EXECUTION_ALREADY_EXISTS")
  require record.fits .overflowError
  update fun s => { s with records := s.records ++ [{ record.toExecutionRow with createdAt }] }
  insertEvent draw record.toExecutionRow .created none
  pure record

/-- `SQLiteExecutionStore.create` (`execution_store.py:606-674`). `createdAt` is the
    database clock at the insertion and `draw` the event id. -/
def create (record : DurableExecutionRecord) (createdAt : Int) (draw : String)
    (s : ExecutionStore) : Except StoreFault DurableExecutionRecord × ExecutionStore :=
  if record.version ≠ 1 then
    (.error (.valueError "new execution record version must be 1"), s)
  else atomically (createBody record createdAt draw) s

/-- `SQLiteExecutionStore.get` (`execution_store.py:676-685`). -/
def get (executionId : String) (s : ExecutionStore) :
    Except StoreFault DurableExecutionRecord × ExecutionStore :=
  checkedTxn (requireText executionId "execution_id") (loadRecord executionId) s

/-- `ORDER BY created_at DESC, rowid DESC`: the rows stand in the order of their row
    ids, and the sort keeps the order of rows with equal times. -/
def newestFirst (rows : List StoredRecord) : List StoredRecord :=
  rows.reverse.insertionSort fun a b => b.createdAt ≤ a.createdAt

def readRecords : List StoredRecord → Except StoreFault (List DurableExecutionRecord)
  | [] => .ok []
  | row :: rows => do
    let record ← (DurableExecutionRecord.make row.toExecutionRow).mapError fun _ =>
      .storeError "EXECUTION_RECORD_INVALID"
    return record :: (← readRecords rows)

def findBody (fingerprint : String) : StoreTxn (List DurableExecutionRecord) := do
  let rows ← query fun s => newestFirst (s.records.filter fun r => r.commandFingerprint = fingerprint)
  ofExcept (readRecords rows)

/-- `SQLiteExecutionStore.find_by_fingerprint` (`execution_store.py:687-710`). -/
def findByFingerprint (fingerprint : String) (s : ExecutionStore) :
    Except StoreFault (List DurableExecutionRecord) × ExecutionStore :=
  checkedTxn (requireSha256 fingerprint "fingerprint") (findBody fingerprint) s

/-- What the setters replace in a record (`execution_store.py:768-854`). -/
inductive ExecutionChange where
  | transport (state : TransportState)
  | execution (state : ExecutionProcessState)
  | process (pid : Int) (startedAt : Option String)
  | result (exitCode : Int) (finishedAt : String)
  deriving DecidableEq, Repr

def ExecutionChange.eventType : ExecutionChange → ExecutionEventType
  | .transport _ => .transportStateChanged
  | .execution _ => .executionStateChanged
  | .process _ _ => .processMetadataUpdated
  | .result _ _ => .resultMetadataUpdated

def ExecutionChange.apply (r : ExecutionRow) : ExecutionChange → ExecutionRow
  | .transport state => { r with transportState := state, version := r.version + 1 }
  | .execution state => { r with executionState := state, version := r.version + 1 }
  | .process pid startedAt => { r with pid := some pid, startedAt, version := r.version + 1 }
  | .result exitCode finishedAt =>
    { r with exitCode := some exitCode, finishedAt := some finishedAt, version := r.version + 1 }

/-- The arguments that `_update` has besides the transformation. -/
structure UpdateArgs where
  executionId : String
  expectedVersion : Int
  evidenceRef : Option String := none
  deriving DecidableEq, Repr

def UpdateArgs.check (a : UpdateArgs) : Except StoreFault Unit := do
  requireText a.executionId "execution_id"
  requirePositiveInt a.expectedVersion "expected_version"
  requireOptionalText a.evidenceRef "evidence_ref"

/-- `UPDATE execution_records SET …`: the columns a change may touch. -/
def StoredRecord.overwrite (new : ExecutionRow) (r : StoredRecord) : StoredRecord :=
  { r with
    transportState := new.transportState, executionState := new.executionState, pid := new.pid
    exitCode := new.exitCode, startedAt := new.startedAt, finishedAt := new.finishedAt
    version := new.version }

def updateBody (a : UpdateArgs) (change : ExecutionChange) (draw : String) :
    StoreTxn DurableExecutionRecord := do
  let current ← loadRecord a.executionId
  require (current.version = a.expectedVersion) (.storeError "EXECUTION_VERSION_CONFLICT")
  let next ← ofExcept (DurableExecutionRecord.make (change.apply current.toExecutionRow))
  require (next.executionId = current.executionId)
    (.storeError "EXECUTION_IDENTITY_MUTATION_FORBIDDEN")
  require next.fits .overflowError
  update fun s => { s with
    records := Table.updateWhere
      (fun r => r.executionId = a.executionId && r.version = a.expectedVersion)
      (StoredRecord.overwrite next.toExecutionRow) s.records }
  insertEvent draw next.toExecutionRow change.eventType a.evidenceRef
  pure next

/-- `SQLiteExecutionStore._update` (`execution_store.py:712-766`). The row that was read
    has the expected version, so the guarded update changes it. -/
def updateExecution (a : UpdateArgs) (change : ExecutionChange) (draw : String)
    (s : ExecutionStore) : Except StoreFault DurableExecutionRecord × ExecutionStore :=
  checkedTxn a.check (updateBody a change draw) s

def setTransportState (a : UpdateArgs) (state : TransportState) (draw : String)
    (s : ExecutionStore) : Except StoreFault DurableExecutionRecord × ExecutionStore :=
  updateExecution a (.transport state) draw s

def setExecutionState (a : UpdateArgs) (state : ExecutionProcessState) (draw : String)
    (s : ExecutionStore) : Except StoreFault DurableExecutionRecord × ExecutionStore :=
  updateExecution a (.execution state) draw s

def setProcessMetadata (a : UpdateArgs) (pid : Int) (startedAt : Option String) (draw : String)
    (s : ExecutionStore) : Except StoreFault DurableExecutionRecord × ExecutionStore :=
  updateExecution a (.process pid startedAt) draw s

def setResultMetadata (a : UpdateArgs) (exitCode : Int) (finishedAt : String) (draw : String)
    (s : ExecutionStore) : Except StoreFault DurableExecutionRecord × ExecutionStore :=
  updateExecution a (.result exitCode finishedAt) draw s

/-- `ORDER BY sequence_no`. -/
def bySequence (es : List ExecutionEvent) : List ExecutionEvent :=
  es.insertionSort fun a b => a.sequenceNo ≤ b.sequenceNo

def listEventsBody (executionId : String) : StoreTxn (List ExecutionEvent) := do
  let known ← query fun s => (s.record? executionId).isSome
  require known (.storeError "EXECUTION_NOT_FOUND")
  let rows ← query fun s => bySequence (s.eventsOf executionId)
  require (rows.all fun e => (requireText e.eventId "event_id").isOk)
    (.storeError "EXECUTION_EVENT_INVALID")
  pure rows

/-- `SQLiteExecutionStore.list_events` (`execution_store.py:856-903`). Of what an event's
    constructor checks, only the drawn id was not checked when it was written. -/
def listEvents (executionId : String) (s : ExecutionStore) :
    Except StoreFault (List ExecutionEvent) × ExecutionStore :=
  checkedTxn (requireText executionId "execution_id") (listEventsBody executionId) s

/-- `receipt_id TEXT PRIMARY KEY` and the unique identity of `execution_receipts`. -/
def ReceiptRow.identityKey (r : ReceiptRow) : Option ReceiptIdentity := some r.toReceiptIdentity

def ExecutionStore.receipt? (s : ExecutionStore) (receiptId : String) : Option ReceiptRow :=
  s.receipts.find? fun r => r.receiptId = receiptId

/-- `_verify_receipt_agreement` (`execution_store.py:955-967`). -/
def ReceiptRow.agrees (presented existing : ReceiptRow) : Bool :=
  existing.claimGeneration = presented.claimGeneration &&
  existing.authoritySha = presented.authoritySha &&
  existing.executionSha = presented.executionSha &&
  existing.disposition = presented.disposition && existing.evidenceRef = presented.evidenceRef

def recordReceiptBody (receipt : ReceiptRow) (draw : String) : StoreTxn ReceiptRow := do
  let record ← loadRecord receipt.executionId
  require (fitsColumn receipt.claimGeneration) .overflowError
  match ← query fun s => s.receipt? receipt.receiptId with
  | some existing =>
    require (receipt.agrees existing) (.storeError "RECEIPT_CONFLICT")
    pure existing
  | none =>
    let rows ← query ExecutionStore.receipts
    require (!Table.conflicts ReceiptRow.identityKey receipt rows) writeFailed
    update fun s => { s with receipts := s.receipts ++ [receipt] }
    insertEvent draw record.toExecutionRow .receiptRecorded (some receipt.receiptId)
    pure receipt

/-- `SQLiteExecutionStore.record_receipt` (`execution_store.py:969-1034`). -/
def recordReceipt (receipt : ReceiptRow) (draw : String) (s : ExecutionStore) :
    Except StoreFault ReceiptRow × ExecutionStore :=
  atomically (recordReceiptBody receipt draw) s

def getReceiptBody (receiptId : String) : StoreTxn ReceiptRow := do
  match ← query fun s => s.receipt? receiptId with
  | none => raise (.storeError "RECEIPT_NOT_FOUND")
  | some row => pure row

/-- `SQLiteExecutionStore.get_receipt` (`execution_store.py:1036-1049`). -/
def getReceipt (receiptId : String) (s : ExecutionStore) :
    Except StoreFault ReceiptRow × ExecutionStore :=
  checkedTxn (requireSha256 receiptId "receipt_id") (getReceiptBody receiptId) s

/-- The journaled decision for an identity. -/
def ExecutionStore.admission? (s : ExecutionStore) (key : AttemptKey) :
    Option AdmissionDecisionRow := s.admissions.find? fun r => r.key = key

/-- An admitted row carries no code and a denied row has one. -/
def AdmissionDecisionRow.coded (r : AdmissionDecisionRow) : Bool :=
  if r.admitted then r.code.isNone else r.code.any (· ≠ "")

/-- `_row_to_admission_decision` (`execution_store.py:1081-1128`). -/
def rowToAdmissionDecision (r : AdmissionDecisionRow) : Except StoreFault AdmissionDecisionRow :=
  if Text.isBlank r.executionId || Text.isBlank r.attemptId || Text.isBlank r.claimRef ||
      !Text.isHex 64 r.bindingDigest || decide (r.claimGeneration < 0) || !r.coded then
    .error (.storeError "ADMISSION_JOURNAL_CORRUPT")
  else .ok r

def loadAdmissionBody (key : AttemptKey) : StoreTxn (Option AdmissionDecisionRow) := do
  match ← query fun s => s.admission? key with
  | none => pure none
  | some row => do
    let decision ← ofExcept (rowToAdmissionDecision row)
    pure (some decision)

def checkKey (key : AttemptKey) : Except StoreFault Unit := do
  requireText key.1 "execution_id"
  requireText key.2 "attempt_id"

/-- `SQLiteExecutionStore.load_admission_decision` (`execution_store.py:1060-1078`). -/
def loadAdmissionDecision (key : AttemptKey) (s : ExecutionStore) :
    Except StoreFault (Option AdmissionDecisionRow) × ExecutionStore :=
  checkedTxn (checkKey key) (loadAdmissionBody key) s

/-- `_validate_admission_decision` (`execution_store.py:1130-1155`). -/
def AdmissionDecisionRow.check (d : AdmissionDecisionRow) : Except StoreFault Unit := do
  requireText d.executionId "execution_id"
  requireText d.attemptId "attempt_id"
  requireText d.claimRef "claim_ref"
  requireSha256 d.bindingDigest "binding_digest"
  if d.claimGeneration < 0 then
    .error (.valueError "claim_generation must be a non-negative int")
  if d.code.any fun c => Text.isBlank c then
    .error (.valueError "code must be a non-empty string or None")
  if !d.coded then
    .error (.valueError "admitted rows carry no code; denied rows require one")

def recordAdmissionBody (decision : AdmissionDecisionRow) : StoreTxn Unit := do
  match ← query fun s => s.admission? decision.key with
  | some row => do
    let current ← ofExcept (rowToAdmissionDecision row)
    require (current = decision) (.storeError "ADMISSION_DECISION_CONFLICT")
  | none => do
    require (fitsColumn decision.claimGeneration) .overflowError
    update fun s => { s with admissions := s.admissions ++ [decision] }

/-- `SQLiteExecutionStore.record_admission_decision` (`execution_store.py:1157-1199`). -/
def recordAdmissionDecision (decision : AdmissionDecisionRow) (s : ExecutionStore) :
    Except StoreFault Unit × ExecutionStore :=
  checkedTxn decision.check (recordAdmissionBody decision) s

/-- The fence that holds an identity. -/
def ExecutionStore.fence? (s : ExecutionStore) (key : AttemptKey) : Option DispatchFenceRow :=
  s.fences.find? fun r => r.key = key

def reserveBody (key : AttemptKey) (bindingDigest : String) : StoreTxn (FenceState × Bool) := do
  match ← query fun s => s.fence? key with
  | some existing => do
    require (existing.bindingDigest = bindingDigest) (.storeError "FENCE_BINDING_CONFLICT")
    pure (existing.state, false)
  | none => do
    update fun s => { s with
      fences := s.fences ++ [{ executionId := key.1, attemptId := key.2, bindingDigest
                               state := .reserved }] }
    pure (.reserved, true)

/-- `SQLiteExecutionStore.reserve_dispatch_fence` (`execution_store.py:1201-1244`). -/
def reserveDispatchFence (key : AttemptKey) (bindingDigest : String) (s : ExecutionStore) :
    Except StoreFault (FenceState × Bool) × ExecutionStore :=
  checkedTxn (do checkKey key; requireSha256 bindingDigest "binding_digest")
    (reserveBody key bindingDigest) s

def transitionFenceBody (key : AttemptKey) (newState : FenceState) (reason : Option String) :
    StoreTxn Unit := do
  match ← query fun s => s.fence? key with
  | none => raise (.storeError "DISPATCH_FENCE_NOT_FOUND")
  | some existing => do
    require (newState ∈ fenceTransitions existing.state) (.storeError "FENCE_STATE_CONFLICT")
    update fun s => { s with
      fences := Table.updateWhere (fun r => r.key = key)
        (fun r => { r with state := newState, reason }) s.fences }

/-- `SQLiteExecutionStore.transition_dispatch_fence` (`execution_store.py:1246-1285`). -/
def transitionDispatchFence (key : AttemptKey) (newState : FenceState) (reason : Option String)
    (s : ExecutionStore) : Except StoreFault Unit × ExecutionStore :=
  checkedTxn (checkKey key) (transitionFenceBody key newState reason) s

end AConductor.Execution

import AConductor.Lib.Text
import AConductor.Lib.Transaction

/-!
# Lifecycle execution, its journal and its resumption

`LifecycleExecutor` (`src/a_conductor/lifecycle_executor.py`), `SQLiteLifecycleJournal`
(`src/a_conductor/lifecycle_journal.py`) and `plan_lifecycle_resume`
(`src/a_conductor/lifecycle_recovery.py`). What the backend and the sink do in a round of the
loop, and whether the process dies in it, comes from outside. The journal table keeps no time
stamps, and its constraints are those that `record` has checked before it inserts.
-/

namespace AConductor.Lifecycle

open Txn

/-- `LifecycleAction` (`lifecycle.py:21-25`). -/
inductive LifecycleAction where
  | start
  | stop
  | restart
  | release
  deriving DecidableEq, Repr

/-- `LifecycleDecision` (`lifecycle.py:28-32`). -/
inductive LifecycleDecision where
  | proceed
  | noop
  | refuse
  | recoveryRequired
  deriving DecidableEq, Repr

/-- `LifecycleStep` (`lifecycle.py:35-47`). -/
inductive LifecycleStep where
  | verifyAssignment
  | verifyResources
  | renderProfile
  | preflight
  | startOwnedProcess
  | waitReady
  | verifyProjectIdentity
  | targetedStop
  | waitExit
  | verifyReleased
  | clearAssignment
  | emitEvidence
  deriving DecidableEq, Repr

/-- `LifecyclePlan` (`lifecycle.py:66-71`). -/
structure LifecyclePlan where
  action : LifecycleAction
  decision : LifecycleDecision
  reasonCode : String
  steps : List LifecycleStep := []
  deriving DecidableEq, Repr

def LifecycleAction.value : LifecycleAction → String
  | .start => "START"
  | .stop => "STOP"
  | .restart => "RESTART"
  | .release => "RELEASE"

def LifecycleStep.value : LifecycleStep → String
  | .verifyAssignment => "VERIFY_ASSIGNMENT"
  | .verifyResources => "VERIFY_RESOURCES"
  | .renderProfile => "RENDER_PROFILE"
  | .preflight => "PREFLIGHT"
  | .startOwnedProcess => "START_OWNED_PROCESS"
  | .waitReady => "WAIT_READY"
  | .verifyProjectIdentity => "VERIFY_PROJECT_IDENTITY"
  | .targetedStop => "TARGETED_STOP"
  | .waitExit => "WAIT_EXIT"
  | .verifyReleased => "VERIFY_RELEASED"
  | .clearAssignment => "CLEAR_ASSIGNMENT"
  | .emitEvidence => "EMIT_EVIDENCE"

/-- `LifecycleAction(value)`; `none` is its `ValueError`. -/
def LifecycleAction.ofValue (value : String) : Option LifecycleAction :=
  [LifecycleAction.start, .stop, .restart, .release].find? fun a => a.value = value

/-- `LifecycleStep(value)`. -/
def LifecycleStep.ofValue (value : String) : Option LifecycleStep :=
  [LifecycleStep.verifyAssignment, .verifyResources, .renderProfile, .preflight,
    .startOwnedProcess, .waitReady, .verifyProjectIdentity, .targetedStop, .waitExit,
    .verifyReleased, .clearAssignment, .emitEvidence].find? fun s => s.value = value

@[simp] theorem LifecycleAction.ofValue_value (a : LifecycleAction) :
    LifecycleAction.ofValue a.value = some a := by
  cases a <;> decide

@[simp] theorem LifecycleStep.ofValue_value (s : LifecycleStep) :
    LifecycleStep.ofValue s.value = some s := by
  cases s <;> decide

/-- `LifecycleCheckpoint` (`lifecycle_executor.py:44-50`). -/
structure LifecycleCheckpoint where
  transactionId : String
  sequenceNo : Nat
  action : LifecycleAction
  step : LifecycleStep
  evidenceRef : Option String
  deriving DecidableEq, Repr

/-- What the journal raises; a text with a Python `repr` is its values. -/
inductive JournalFault where
  | valueError (text : String)
  | journalError (text : String)
  | checkpointConflict (transactionId : String) (sequenceNo : Nat)
  | sequence (expected : Nat) (transactionId : String) (received : Nat)
  deriving DecidableEq, Repr

/-- `JOURNAL_SCHEMA_VERSION` (`lifecycle_journal.py:20`). -/
def journalSchemaVersion : String := "1"

/-- A row of `lifecycle_checkpoints` (`lifecycle_journal.py:87-97`). -/
structure CheckpointRow where
  transactionId : String
  sequenceNo : Nat
  action : String
  step : String
  evidenceRef : Option String
  deriving DecidableEq, Repr

/-- The tables of the journal. -/
structure LifecycleJournal where
  schemaVersion : Option String
  rows : List CheckpointRow
  deriving DecidableEq, Repr

abbrev JournalTxn := Txn LifecycleJournal JournalFault

/-- `_require_text` (`lifecycle_journal.py:35-38`). -/
def requireText (value fieldName : String) : Except JournalFault Unit :=
  Except.rejectIf (Text.isBlank value = true) (.valueError (fieldName ++ " must not be blank"))

/-- `_validate_checkpoint` (`lifecycle_journal.py:41-55`). -/
def validateCheckpoint (checkpoint : LifecycleCheckpoint) : Except JournalFault Unit := do
  requireText checkpoint.transactionId "transaction_id"
  Except.rejectIf (checkpoint.sequenceNo < 1) (.valueError "sequence_no must be >= 1")
  match checkpoint.evidenceRef with
  | none => pure ()
  | some evidenceRef => requireText evidenceRef "evidence_ref"

/-- `initialize` (`lifecycle_journal.py:78-122`). -/
def initializeJournal : JournalTxn Unit := do
  match ← query LifecycleJournal.schemaVersion with
  | none => update fun j => { j with schemaVersion := some journalSchemaVersion }
  | some version =>
    require (version = journalSchemaVersion)
      (.journalError ("unsupported schema_version: " ++ version))

/-- The row of a checkpoint. -/
def LifecycleCheckpoint.row (c : LifecycleCheckpoint) : CheckpointRow where
  transactionId := c.transactionId
  sequenceNo := c.sequenceNo
  action := c.action.value
  step := c.step.value
  evidenceRef := c.evidenceRef

/-- `SELECT … WHERE transaction_id = ?`. -/
def LifecycleJournal.rowsOf (j : LifecycleJournal) (transactionId : String) :
    List CheckpointRow :=
  j.rows.filter fun r => r.transactionId = transactionId

/-- `expected_sequence` (`lifecycle_journal.py:160-166`). -/
def expectedSequence (rows : List CheckpointRow) : Nat :=
  match (rows.map CheckpointRow.sequenceNo).max? with
  | none => 1
  | some maxSequence => maxSequence + 1

/-- The transaction of `record` (`lifecycle_journal.py:130-186`). -/
def recordBody (checkpoint : LifecycleCheckpoint) : JournalTxn Unit := do
  let rows ← query fun j => j.rowsOf checkpoint.transactionId
  match rows.find? fun r => r.sequenceNo = checkpoint.sequenceNo with
  | some existing =>
    require (existing.action = checkpoint.action.value && existing.step = checkpoint.step.value &&
        existing.evidenceRef = checkpoint.evidenceRef)
      (.checkpointConflict checkpoint.transactionId checkpoint.sequenceNo)
  | none =>
    require (checkpoint.sequenceNo = expectedSequence rows)
      (.sequence (expectedSequence rows) checkpoint.transactionId checkpoint.sequenceNo)
    update fun j => { j with rows := j.rows ++ [checkpoint.row] }

/-- `BEGIN IMMEDIATE` and `commit`; a raise rolls the writes back. -/
def journalTransaction (body : JournalTxn Unit) : JournalTxn Unit := atomically body

/-- `record` (`lifecycle_journal.py:124-196`). -/
def record (checkpoint : LifecycleCheckpoint) : JournalTxn Unit := do
  ofExcept (validateCheckpoint checkpoint)
  initializeJournal
  journalTransaction (recordBody checkpoint)

/-- The loop of `load` (`lifecycle_journal.py:213-230`). -/
def loadCheckpoints : Nat → List CheckpointRow → Except JournalFault (List LifecycleCheckpoint)
  | _, [] => .ok []
  | expectedSequence, row :: rows => do
    Except.rejectIf (row.sequenceNo ≠ expectedSequence)
      (.journalError "invalid persisted checkpoint sequence")
    match LifecycleAction.ofValue row.action, LifecycleStep.ofValue row.step with
    | some action, some step =>
      let rest ← loadCheckpoints (expectedSequence + 1) rows
      return ⟨row.transactionId, row.sequenceNo, action, step, row.evidenceRef⟩ :: rest
    | _, _ => .error (.journalError "invalid persisted checkpoint")

/-- `load` (`lifecycle_journal.py:198-232`). -/
def load (transactionId : String) : JournalTxn (List LifecycleCheckpoint) := do
  ofExcept (requireText transactionId "transaction_id")
  initializeJournal
  let rows ← query fun j =>
    (j.rowsOf transactionId).insertionSort fun a b => a.sequenceNo ≤ b.sequenceNo
  ofExcept (loadCheckpoints 1 rows)

end AConductor.Lifecycle

import AConductor.Lib.Machine
import AConductor.Lib.Text

/-!
# Connectors: bounded automatic recovery

`ConnectorRecoveryCoordinator` of `src/a_conductor/connector_recovery.py:136-507` for one instance,
over the store of `serena_config_store.py:625-687` that keeps the events beside the snapshot. The
name of the instance is left out, and so is what only shows it. Every call carries the readings of
the clock and the answers that its callbacks give if they are asked.
-/

namespace AConductor.Connector

/-- `InstanceHealthState` (`local_instances.py:36-39`). -/
inductive InstanceHealthState where
  | ready
  | stopped
  | unknown
  deriving DecidableEq, Repr

/-- `InstanceResultCode` (`local_instances.py:42-51`). -/
inductive InstanceResultCode where
  | running
  | alreadyRunning
  | startedNotReady
  | startCancelled
  | stopped
  | alreadyStopped
  | stopFailed
  | scriptMissing
  | launchFailed
  deriving DecidableEq, Repr

def InstanceResultCode.value : InstanceResultCode → String
  | .running => "RUNNING"
  | .alreadyRunning => "ALREADY_RUNNING"
  | .startedNotReady => "STARTED_NOT_READY"
  | .startCancelled => "START_CANCELLED"
  | .stopped => "STOPPED"
  | .alreadyStopped => "ALREADY_STOPPED"
  | .stopFailed => "STOP_FAILED"
  | .scriptMissing => "SCRIPT_MISSING"
  | .launchFailed => "LAUNCH_FAILED"

/-- `ConnectorRecoveryState` (`connector_recovery.py:21-25`). -/
inductive ConnectorRecoveryState where
  | ready
  | stopped
  | recovering
  | degraded
  deriving DecidableEq, Repr

/-- `RecoveryHistoryEventKind` (`connector_recovery.py:28-37`). -/
inductive RecoveryHistoryEventKind where
  | suppressed
  | manualStart
  | readyObserved
  | unknownObserved
  | outageObserved
  | recoveryStarted
  | recoveryReady
  | recoveryFailed
  | recoveryCancelled
  deriving DecidableEq, Repr

/-- `ConnectorRecoveryRecord` (`connector_recovery.py:56-67`). -/
structure ConnectorRecoveryRecord where
  state : ConnectorRecoveryState
  recoverySuppressed : Bool := false
  failureCount : Nat := 0
  failureWindowStartedAt : Option ℚ := none
  restartCount : Nat := 0
  lastExitReason : Option String := none
  lastExitAt : Option ℚ := none
  nextRetryAt : Option ℚ := none
  updatedAt : ℚ := 0
  deriving DecidableEq, Repr

/-- `ConnectorRecoveryHistoryEvent` (`connector_recovery.py:111-120`). -/
structure ConnectorRecoveryHistoryEvent where
  kind : RecoveryHistoryEventKind
  fromState : ConnectorRecoveryState
  toState : ConnectorRecoveryState
  observedAt : ℚ
  reasonCode : Option String := none
  restartCount : Nat := 0
  deriving DecidableEq, Repr

/-- The snapshot of the instance and its events, in the order of their sequence. -/
structure RecoveryStore where
  record : Option ConnectorRecoveryRecord := none
  history : List ConnectorRecoveryHistoryEvent := []
  deriving DecidableEq, Repr

/-- `save_connector_recovery_history` (`serena_config_store.py:625-687`) with one event. -/
def RecoveryStore.save (s : RecoveryStore) (record : ConnectorRecoveryRecord)
    (event : ConnectorRecoveryHistoryEvent) : RecoveryStore where
  record := some record
  history := s.history ++ [event]

/-- The arguments of the coordinator (`connector_recovery.py:136-170`) with their checks. -/
structure RecoveryPolicy where
  backoff : List ℚ
  failureLimit : Nat
  failureWindow : ℚ
  backoffGiven : backoff ≠ []
  backoffPositive : ∀ delay ∈ backoff, 0 < delay
  limitPositive : 1 ≤ failureLimit
  windowPositive : 0 < failureWindow

theorem RecoveryPolicy.index_lt (p : RecoveryPolicy) (failures : Nat) :
    min (failures - 1) (p.backoff.length - 1) < p.backoff.length := by
  have hpos := List.length_pos_of_ne_nil p.backoffGiven
  omega

/-- `self._backoff[min(failures - 1, len(self._backoff) - 1)]`. -/
def RecoveryPolicy.delay (p : RecoveryPolicy) (failures : Nat) : ℚ :=
  p.backoff.get ⟨min (failures - 1) (p.backoff.length - 1), p.index_lt failures⟩

/-- What `start_instance` does: it raises, or returns something else than an outcome, or an
    outcome. -/
inductive StartOutcome where
  | raised
  | foreign
  | outcome (code : InstanceResultCode)
  deriving DecidableEq, Repr

/-- A call of `observe` with what it is answered: the clock at its start and after a start, the
    autostart setting, the two questions whether it is cancelled, and the start. -/
structure Observation where
  now : ℚ
  finished : ℚ
  health : InstanceHealthState
  reasonCode : String := "UNEXPECTED_STOPPED"
  autostart : Bool
  cancelled : Bool := false
  cancelledLate : Bool := false
  start : StartOutcome
  deriving DecidableEq, Repr

inductive RecoveryCall where
  | suppress (now : ℚ)
  | manualStart (now : ℚ)
  | observe (o : Observation)
  deriving DecidableEq, Repr

/-- How a start that was made is taken. -/
inductive Attempt where
  | failed
  | cancelled
  | ready
  | clockFault
  deriving DecidableEq, Repr

/-- What a call returns, or the text of its `ValueError`, and the start it made. -/
structure RecoveryAnswer where
  result : Except String ConnectorRecoveryRecord
  attempt : Option Attempt := none

/-- `_reason` of a text (`connector_recovery.py:45-53`). -/
def reason (value : String) : Option String :=
  if Text.isBlank value || decide (128 < value.length) || Text.hasChar value '\x00' ||
      Text.hasChar value '\r' || Text.hasChar value '\n' then none
  else some (Text.strip value)

/-- `_current` (`connector_recovery.py:179-190`). -/
def RecoveryStore.current (s : RecoveryStore) (now : ℚ) : ConnectorRecoveryRecord :=
  s.record.getD { state := .stopped, updatedAt := now }

/-- `_event` (`connector_recovery.py:205-225`); the reason has been normalized. -/
def historyEvent (current record : ConnectorRecoveryRecord) (kind : RecoveryHistoryEventKind)
    (observedAt : ℚ) (reasonCode : Option String) : ConnectorRecoveryHistoryEvent where
  kind := kind
  fromState := current.state
  toState := record.state
  observedAt := observedAt
  reasonCode := reasonCode
  restartCount := record.restartCount

/-- `_save` of a record with one event, and its return. -/
def saved (s : RecoveryStore) (current record : ConnectorRecoveryRecord)
    (kind : RecoveryHistoryEventKind) (observedAt : ℚ) (reasonCode : Option String)
    (attempt : Option Attempt) : RecoveryAnswer × RecoveryStore :=
  (⟨.ok record, attempt⟩, s.save record (historyEvent current record kind observedAt reasonCode))

/-- A return that has written nothing. -/
def unchanged (s : RecoveryStore) (current : ConnectorRecoveryRecord) :
    RecoveryAnswer × RecoveryStore := (⟨.ok current, none⟩, s)

def refused (s : RecoveryStore) (text : String) : RecoveryAnswer × RecoveryStore :=
  (⟨.error text, none⟩, s)

/-- The record of `suppress`. -/
def ConnectorRecoveryRecord.suppressed (r : ConnectorRecoveryRecord) (now : ℚ) :
    ConnectorRecoveryRecord :=
  { r with
    state := .stopped
    recoverySuppressed := true
    nextRetryAt := none
    updatedAt := now }

/-- The record of `manual_start`. -/
def ConnectorRecoveryRecord.started (r : ConnectorRecoveryRecord) (now : ℚ) :
    ConnectorRecoveryRecord :=
  { r with
    state := .stopped
    recoverySuppressed := false
    failureCount := 0
    failureWindowStartedAt := none
    nextRetryAt := none
    updatedAt := now }

/-- `suppress` (`connector_recovery.py:227-247`). -/
def suppress (now : ℚ) (s : RecoveryStore) : RecoveryAnswer × RecoveryStore :=
  if now < 0 then refused s "clock returned invalid value"
  else saved s (s.current now) ((s.current now).suppressed now) .suppressed now none none

/-- `manual_start` (`connector_recovery.py:249-271`). -/
def manualStart (now : ℚ) (s : RecoveryStore) : RecoveryAnswer × RecoveryStore :=
  if now < 0 then refused s "clock returned invalid value"
  else saved s (s.current now) ((s.current now).started now) .manualStart now none none

/-- The record of a connector that is ready. -/
def ConnectorRecoveryRecord.nowReady (r : ConnectorRecoveryRecord) (now : ℚ) :
    ConnectorRecoveryRecord :=
  { r with
    state := .ready
    failureCount := 0
    failureWindowStartedAt := none
    nextRetryAt := none
    updatedAt := now }

/-- `_ready` (`connector_recovery.py:273-300`). -/
def observeReady (current : ConnectorRecoveryRecord) (now : ℚ) (s : RecoveryStore) :
    RecoveryAnswer × RecoveryStore :=
  if current.state = .ready ∧ current.failureCount = 0 ∧ current.failureWindowStartedAt = none ∧
      current.nextRetryAt = none then
    unchanged s current
  else saved s current (current.nowReady now) .readyObserved now none none

/-- An unknown health (`connector_recovery.py:359-372`). -/
def observeUnknown (current : ConnectorRecoveryRecord) (now : ℚ) (s : RecoveryStore) :
    RecoveryAnswer × RecoveryStore :=
  if s.record = none then saved s current current .unknownObserved now none none
  else unchanged s current

/-- An outage while recovery is suppressed (`connector_recovery.py:374-400`). -/
def observeSuppressed (current : ConnectorRecoveryRecord) (o : Observation) (s : RecoveryStore) :
    RecoveryAnswer × RecoveryStore :=
  if current.state = .stopped ∧ current.nextRetryAt = none then unchanged s current
  else match reason o.reasonCode with
    | none => refused s "reason_code is invalid"
    | some text =>
      saved s current { current with state := .stopped, nextRetryAt := none, updatedAt := o.now }
        .outageObserved o.now (some text) none

/-- An outage without autostart (`connector_recovery.py:401-429`). -/
def observeManual (current : ConnectorRecoveryRecord) (o : Observation) (s : RecoveryStore) :
    RecoveryAnswer × RecoveryStore :=
  match reason o.reasonCode with
  | none => refused s "reason_code is invalid"
  | some text =>
    if current.state = .stopped ∧ current.nextRetryAt = none ∧ current.lastExitReason = some text then
      unchanged s current
    else
      saved s current
        { current with
          state := .stopped
          nextRetryAt := none
          lastExitReason := some text
          lastExitAt := some o.now
          updatedAt := o.now }
        .outageObserved o.now (some text) none

/-- The failure window after a failure at `now`: its start and its failures
    (`connector_recovery.py:308-313`). -/
def RecoveryPolicy.window (p : RecoveryPolicy) (now : ℚ) (startedAt : Option ℚ) (failures : Nat) :
    ℚ × Nat :=
  match startedAt with
  | none => (now, 1)
  | some start => if p.failureWindow < now - start then (now, 1) else (start, failures + 1)

/-- The record of a failed attempt. -/
def RecoveryPolicy.failedRecord (p : RecoveryPolicy) (r : ConnectorRecoveryRecord) (now : ℚ)
    (reasonCode : String) : ConnectorRecoveryRecord :=
  let window := p.window now r.failureWindowStartedAt r.failureCount
  { r with
    state := if p.failureLimit ≤ window.2 then .degraded else .recovering
    failureCount := window.2
    failureWindowStartedAt := some window.1
    lastExitReason := reason reasonCode
    lastExitAt := some now
    nextRetryAt := if p.failureLimit ≤ window.2 then none else some (now + p.delay window.2)
    updatedAt := now }

/-- `_failed_attempt` (`connector_recovery.py:302-341`). -/
def failedAttempt (p : RecoveryPolicy) (current : ConnectorRecoveryRecord) (now : ℚ)
    (reasonCode : String) (s : RecoveryStore) : RecoveryAnswer × RecoveryStore :=
  saved s current (p.failedRecord current now reasonCode) .recoveryFailed now (reason reasonCode)
    (some .failed)

/-- The record that a start is made from. -/
def ConnectorRecoveryRecord.recovering (r : ConnectorRecoveryRecord) (now : ℚ) (text : String) :
    ConnectorRecoveryRecord :=
  { r with
    state := .recovering
    lastExitReason := some text
    lastExitAt := some now
    nextRetryAt := none
    updatedAt := now }

/-- What follows a start (`connector_recovery.py:452-507`). -/
def finishAttempt (p : RecoveryPolicy) (recovering : ConnectorRecoveryRecord) (o : Observation)
    (s : RecoveryStore) : RecoveryAnswer × RecoveryStore :=
  match o.start with
  | .raised => failedAttempt p recovering o.now "RECOVERY_START_EXCEPTION" s
  | .foreign => failedAttempt p recovering o.now "RECOVERY_RESULT_INVALID" s
  | .outcome .startCancelled =>
    saved s recovering { recovering with state := .stopped, nextRetryAt := none, updatedAt := o.now }
      .recoveryCancelled o.now none (some .cancelled)
  | .outcome code =>
    if code = .running ∨ code = .alreadyRunning then
      if o.finished < 0 then (⟨.error "clock returned invalid value", some .clockFault⟩, s)
      else
        saved s recovering
          { recovering.nowReady o.finished with restartCount := recovering.restartCount + 1 }
          .recoveryReady o.finished none (some .ready)
    else failedAttempt p recovering o.now code.value s

/-- A recovery (`connector_recovery.py:437-507`). -/
def recover (p : RecoveryPolicy) (current : ConnectorRecoveryRecord) (o : Observation)
    (s : RecoveryStore) : RecoveryAnswer × RecoveryStore :=
  match reason o.reasonCode with
  | none => refused s "reason_code is invalid"
  | some text =>
    let recovering := current.recovering o.now text
    finishAttempt p recovering o
      (s.save recovering (historyEvent current recovering .recoveryStarted o.now (some text)))

/-- `observe` of a stopped connector (`connector_recovery.py:374-507`). -/
def observeStopped (p : RecoveryPolicy) (current : ConnectorRecoveryRecord) (o : Observation)
    (s : RecoveryStore) : RecoveryAnswer × RecoveryStore :=
  if current.recoverySuppressed then observeSuppressed current o s
  else if o.autostart = false then observeManual current o s
  else if current.state = .degraded then unchanged s current
  else if current.nextRetryAt.any (o.now < ·) then unchanged s current
  else if o.cancelledLate then unchanged s current
  else recover p current o s

/-- `observe` (`connector_recovery.py:343-507`). -/
def observe (p : RecoveryPolicy) (o : Observation) (s : RecoveryStore) :
    RecoveryAnswer × RecoveryStore :=
  if o.now < 0 then refused s "clock returned invalid value"
  else if o.cancelled then unchanged s (s.current o.now)
  else match o.health with
    | .ready => observeReady (s.current o.now) o.now s
    | .unknown => observeUnknown (s.current o.now) o.now s
    | .stopped => observeStopped p (s.current o.now) o s

def recoveryStep (p : RecoveryPolicy) (s : RecoveryStore) :
    RecoveryCall → RecoveryAnswer × RecoveryStore
  | .suppress now => suppress now s
  | .manualStart now => manualStart now s
  | .observe o => observe p o s

end AConductor.Connector

import AConductor.WorkerLease.Store

/-!
# Worker leases: provisioning reservations

The reservation half of `SQLiteWorkerLeaseStore`
(`src/a_conductor/worker_lease.py:889-1176`). A reservation counts a worker that is
being provisioned against the elastic capacity and, once bound to that worker, keeps
other owners from leasing it.
-/

namespace AConductor.Lease

open Txn

/-- `WorkerProvisioningReservationKind` (`worker_lease.py:78-82`), as far as the
    store returns it. -/
inductive ReservationKind where
  | acquired
  | existing
  | limitWait
  | recoveryRequired
  deriving DecidableEq, Repr

/-- `WorkerProvisioningReservationResult` (`worker_lease.py:207-210`). -/
structure ReservationResult where
  kind : ReservationKind
  record : Option ReservationRecord
  reasonCode : String
  deriving DecidableEq, Repr

/-- `INSERT INTO worker_provisioning_reservations`. -/
def insertReservation (record : ReservationRecord) : LeaseTxn Unit := do
  let rows ← query LeaseStore.reservations
  require (!(Table.conflicts ReservationRecord.idKey record rows ||
    Table.conflicts ReservationRecord.ownerKey record rows ||
    Table.conflicts ReservationRecord.workerKey record rows)) .integrityError
  update fun s => { s with reservations := s.reservations ++ [record.stored] }

/-- `UPDATE … SET state, worker_id, updated_at WHERE reservation_id = ?`; the row's
    new keys are tested against the other rows. -/
def updateReservation (record : ReservationRecord) : LeaseTxn Unit := do
  let others ← query fun s => s.reservations.filter fun r => r.reservationId ≠ record.reservationId
  require (!(Table.conflicts ReservationRecord.ownerKey record others ||
    Table.conflicts ReservationRecord.workerKey record others)) .integrityError
  update fun s => { s with
    reservations := Table.updateWhere (fun r => r.reservationId = record.reservationId)
      (fun r => { r with
        state := record.state, workerId := record.workerId, updatedAt := record.updatedAt })
      s.reservations }

/-- `SELECT * … WHERE reservation_id = ?`. -/
def LeaseStore.reservation (s : LeaseStore) (reservationId : String) : Option ReservationRecord :=
  s.reservations.find? fun r => r.reservationId = reservationId

/-- The arguments of `acquire_provisioning_reservation`. -/
structure ReservationRequest where
  reservationId : String
  sessionId : String
  taskId : String
  runtimeKind : String
  maxExtraWorkers : Int
  projectId : Option String := none
  worktree : Option String := none
  mutableScope : List PyStr := []
  deriving DecidableEq, Repr

/-- The row `acquire_provisioning_reservation` would insert, and the capacity
    (`worker_lease.py:902-920`). -/
def proposedReservation (env : LeaseEnv) (request : ReservationRequest) (now : TimeArg) :
    Except LeaseFault (ReservationRecord × Nat) := do
  let (reservationId, sessionId, taskId) ←
    ownerArgs "reservation_id" request.reservationId request.sessionId request.taskId
  let runtimeKind ← text request.runtimeKind "runtime_kind" 128
  let projectId ← optionalText request.projectId "project_id"
  let worktreeKey ← match request.worktree with
    | none => pure none
    | some w => do
      let w ← text w "worktree" 512
      (windowsWorktreeKey env w).map some
  let mutableScope ← scope listedText request.mutableScope "mutable_scope"
  if ¬ (1 ≤ request.maxExtraWorkers ∧ request.maxExtraWorkers ≤ 99) then
    .error (.valueError "max_extra_workers must be between 1 and 99")
  let observed ← timestamp now
  let _ ← timestampDatetime observed "now"
  return ({
    reservationId, sessionId, taskId, runtimeKind, state := .preProvision, workerId := none
    acquiredAt := observed, updatedAt := observed, projectId, worktreeKey, mutableScope },
    request.maxExtraWorkers.toNat)

/-- The transaction of `acquire_provisioning_reservation` (`worker_lease.py:923-983`). -/
def reserveBody (record : ReservationRecord) (maxExtraWorkers : Nat) :
    LeaseTxn ReservationResult := do
  match ← query fun s => s.reservations.find? fun r =>
      r.sessionId = record.sessionId && r.taskId = record.taskId && r.state ≠ .released with
  | some existing =>
    if existing.runtimeKind ≠ record.runtimeKind ∨ existing.projectId ≠ record.projectId ∨
        existing.worktreeKey ≠ record.worktreeKey ∨
        existing.mutableScope ≠ record.mutableScope then
      raise (.leaseError "PROVISIONING_RESERVATION_CONFLICT")
    else pure ⟨.existing, some existing, "PROVISIONING_ALREADY_ACTIVE"⟩
  | none =>
    let consuming ← query fun s => s.reservations.filter fun r => r.state ≠ .released
    if maxExtraWorkers ≤ consuming.length then
      pure ⟨.limitWait, none, "ELASTIC_CAPACITY_LIMIT_REACHED"⟩
    else
      insertReservation record
      match ← query fun s => s.reservation record.reservationId with
      | none => pure ⟨.recoveryRequired, none, "PROVISIONING_RECORD_MISSING"⟩
      | some row => pure ⟨.acquired, some row, "PROVISIONING_RESERVED"⟩

/-- Report a violated index under the code of the operation that met it. -/
def nameIntegrityError {α : Type} (code : String) :
    Except LeaseFault α × LeaseStore → Except LeaseFault α × LeaseStore
  | (.error .integrityError, s) => (.error (.leaseError code), s)
  | out => out

/-- `SQLiteWorkerLeaseStore.acquire_provisioning_reservation`
    (`worker_lease.py:889-993`). -/
def acquireProvisioningReservation (env : LeaseEnv) (request : ReservationRequest)
    (now : TimeArg) (s : LeaseStore) : Except LeaseFault ReservationResult × LeaseStore :=
  match proposedReservation env request now with
  | .error e => (.error e, s)
  | .ok (record, maxExtraWorkers) =>
    nameIntegrityError "PROVISIONING_RESERVATION_CONFLICT"
      (atomically (reserveBody record maxExtraWorkers) s)

/-- The target states a caller may name (`worker_lease.py:1008-1010`). -/
def transitionTarget (state : String) : Except LeaseFault ReservationState := do
  match Text.upper (← text state "state" 32) with
  | "PROVISIONING" => return .provisioning
  | "PROVISIONED" => return .provisioned
  | "CAPACITY" => return .capacity
  | "RECOVERY_REQUIRED" => return .recoveryRequired
  | "RELEASED" => return .released
  | _ => .error (.valueError "provisioning transition state invalid")

/-- `allowed_transitions` (`worker_lease.py:1034-1041`). -/
def allowedTransitions : ReservationState → List ReservationState
  | .preProvision => [.provisioning, .recoveryRequired, .released]
  | .active => [.recoveryRequired]
  | .provisioning => [.provisioned, .recoveryRequired]
  | .provisioned => [.capacity, .recoveryRequired]
  | .capacity => []
  | .recoveryRequired => []
  | .released => []

/-- Binding a reservation to a worker that another owner has leased is a handoff
    steal (`worker_lease.py:1045-1061`). -/
def foreignLease (s : LeaseStore) (target : ReservationState) (workerId : Option String)
    (sessionId taskId : String) : Bool :=
  decide (target = .provisioned) &&
    match s.leases.find? fun l => some l.workerId = workerId && l.unreleased with
    | none => false
    | some l => l.sessionId ≠ sessionId || l.taskId ≠ taskId

/-- Read one reservation and check its owner (`worker_lease.py:1018-1030`). -/
def ownedReservation (reservationId sessionId taskId : String) : LeaseTxn ReservationRecord := do
  match ← query fun s => s.reservation reservationId with
  | none => raise (.leaseError "PROVISIONING_RESERVATION_NOT_FOUND")
  | some current =>
    if current.sessionId ≠ sessionId ∨ current.taskId ≠ taskId then
      raise (.leaseError "PROVISIONING_OWNER_MISMATCH")
    else pure current

/-- The transaction of `transition_provisioning_reservation`
    (`worker_lease.py:1016-1073`). -/
def transitionBody (reservationId sessionId taskId : String) (target : ReservationState)
    (observed : Stamp) (workerId : Option String) : LeaseTxn ReservationRecord := do
  let current ← ownedReservation reservationId sessionId taskId
  if current.state = target ∧ current.workerId = workerId then pure current
  else
    require (target ∈ allowedTransitions current.state)
      (.leaseError "PROVISIONING_RESERVATION_STATE_MISMATCH")
    let stolen ← query fun s => foreignLease s target workerId sessionId taskId
    require (!stolen) (.leaseError "PROVISIONING_WORKER_LEASE_CONFLICT")
    updateReservation { current with state := target, workerId, updatedAt := observed }
    match ← query fun s => s.reservation reservationId with
    | none => raise (.leaseError "PROVISIONING_RESERVATION_NOT_FOUND")
    | some updated => pure updated

/-- The arguments of `transition_provisioning_reservation`
    (`worker_lease.py:1005-1015`). -/
def transitionArgs (reservationId sessionId taskId state : String) (now : TimeArg)
    (workerId : Option String) :
    Except LeaseFault (String × String × String × ReservationState × Stamp × Option String) := do
  let (reservationId, sessionId, taskId) ←
    ownerArgs "reservation_id" reservationId sessionId taskId
  let target ← transitionTarget state
  let observed ← timestamp now
  let _ ← timestampDatetime observed "now"
  let workerId ← optionalText workerId "worker_id"
  if (target = .provisioned ∨ target = .capacity) ∧ workerId.isNone then
    .error (.valueError "provisioned/capacity reservation requires worker_id")
  return (reservationId, sessionId, taskId, target, observed, workerId)

/-- `SQLiteWorkerLeaseStore.transition_provisioning_reservation`
    (`worker_lease.py:995-1082`). -/
def transitionProvisioningReservation (reservationId sessionId taskId state : String)
    (now : TimeArg) (workerId : Option String) (s : LeaseStore) :
    Except LeaseFault ReservationRecord × LeaseStore :=
  match transitionArgs reservationId sessionId taskId state now workerId with
  | .error e => (.error e, s)
  | .ok (reservationId, sessionId, taskId, target, observed, workerId) =>
    nameIntegrityError "PROVISIONING_RESERVATION_WORKER_CONFLICT"
      (atomically (transitionBody reservationId sessionId taskId target observed workerId) s)

/-- The transaction of `reconcile_stale_provisioning` (`worker_lease.py:1130-1169`).
    Age alone never releases a reservation, and every other branch asks for evidence
    that no caller can give yet. -/
def reconcileProvisioningBody (reservationId sessionId taskId : String) (now : Int)
    (staleAfterSeconds : Int) : LeaseTxn ReservationRecord := do
  let current ← ownedReservation reservationId sessionId taskId
  match current.state with
  | .released => pure current
  | .capacity => raise (.leaseError "PROVISIONING_CAPACITY_RETIREMENT_FORBIDDEN")
  | _ =>
    let updated ← ofExcept (timestampDatetime current.updatedAt "updated_at")
    require (staleAfterSeconds * 1000000 ≤ now - updated) (.leaseError "PROVISIONING_NOT_STALE")
    match current.workerId with
    | none => raise (.leaseError "PROVISIONING_RUNTIME_ABSENCE_EVIDENCE_REQUIRED")
    | some workerId =>
      let active ← query fun s => s.activeWorker workerId
      require active.isNone (.leaseError "PROVISIONING_WORKER_IN_USE")
      raise (.leaseError "PROVISIONING_WORKER_DECOMMISSION_EVIDENCE_REQUIRED")

/-- The arguments of `reconcile_stale_provisioning` (`worker_lease.py:1118-1128`). -/
def reconcileProvisioningArgs (reservationId sessionId taskId : String) (now : TimeArg)
    (staleAfterSeconds : Int) : Except LeaseFault (String × String × String × Int) := do
  let (reservationId, sessionId, taskId) ←
    ownerArgs "reservation_id" reservationId sessionId taskId
  if ¬ (1 ≤ staleAfterSeconds ∧ staleAfterSeconds ≤ 31536000) then
    .error (.valueError "stale_after_seconds must be between 1 and 31536000")
  let observed ← timestamp now
  let micros ← timestampDatetime observed "now"
  return (reservationId, sessionId, taskId, micros)

/-- `SQLiteWorkerLeaseStore.reconcile_stale_provisioning`
    (`worker_lease.py:1101-1176`). -/
def reconcileStaleProvisioning (reservationId sessionId taskId : String) (now : TimeArg)
    (staleAfterSeconds : Int) (s : LeaseStore) :
    Except LeaseFault ReservationRecord × LeaseStore :=
  match reconcileProvisioningArgs reservationId sessionId taskId now staleAfterSeconds with
  | .error e => (.error e, s)
  | .ok (reservationId, sessionId, taskId, micros) =>
    atomically (reconcileProvisioningBody reservationId sessionId taskId micros staleAfterSeconds) s

end AConductor.Lease

import AConductor.WorkerLease.Basic

/-!
# Worker leases: the store

`SQLiteWorkerLeaseStore` (`src/a_conductor/worker_lease.py:629-1548`) over its two
tables. Each operation first reads its arguments, then runs one `BEGIN IMMEDIATE`
transaction; the branches that call `rollback()` and then return or raise have
written nothing. Rows are kept as the decoders `_lease_from_row` and
`_provisioning_record_from_row` read them, and the migrations of
`initialize` (`:742-829`), which only fill columns of older databases, find nothing
to do in a store that starts empty.
-/

namespace AConductor.Lease

open Txn AConductor.Graph

/-- The tables `worker_leases` and `worker_provisioning_reservations`. -/
structure LeaseStore where
  leases : List WorkerLease
  reservations : List ReservationRecord
  deriving DecidableEq, Repr

def LeaseStore.empty : LeaseStore := ⟨[], []⟩

abbrev LeaseTxn := Txn LeaseStore LeaseFault

def WorkerLease.unreleased (l : WorkerLease) : Bool := l.releasedAt.isNone

/-- `lease_id TEXT PRIMARY KEY`. -/
def WorkerLease.idKey (l : WorkerLease) : Option String := some l.leaseId

/-- `ux_worker_leases_active_worker` (`worker_lease.py:772-773`). -/
def WorkerLease.activeWorkerKey (l : WorkerLease) : Option String :=
  if l.unreleased then some l.workerId else none

/-- `ux_worker_leases_active_owner_task` (`worker_lease.py:774-775`). -/
def WorkerLease.activeOwnerKey (l : WorkerLease) : Option (String × String) :=
  if l.unreleased then some (l.sessionId, l.taskId) else none

/-- `reservation_id TEXT PRIMARY KEY`. -/
def ReservationRecord.idKey (r : ReservationRecord) : Option String := some r.reservationId

/-- `ux_worker_provisioning_owner_task` (`worker_lease.py:790-792`). -/
def ReservationRecord.ownerKey (r : ReservationRecord) : Option (String × String) :=
  if r.state ≠ .released then some (r.sessionId, r.taskId) else none

/-- `ux_worker_provisioning_active_worker` (`worker_lease.py:793-795`). -/
def ReservationRecord.workerKey (r : ReservationRecord) : Option String :=
  if r.state ≠ .released then r.workerId else none

/-- `INSERT INTO worker_leases` under the primary key and the two unique indexes. -/
def insertLease (lease : WorkerLease) : LeaseTxn Unit := do
  let rows ← query LeaseStore.leases
  require (!(Table.conflicts WorkerLease.idKey lease rows ||
    Table.conflicts WorkerLease.activeWorkerKey lease rows ||
    Table.conflicts WorkerLease.activeOwnerKey lease rows)) .integrityError
  update fun s => { s with leases := s.leases ++ [lease.stored] }

/-- `UPDATE worker_leases SET … WHERE lease_id = ? AND released_at IS NULL`. -/
def updateLease (leaseId : String) (f : WorkerLease → WorkerLease) : LeaseTxn Unit :=
  update fun s =>
    { s with leases := Table.updateWhere (fun l => l.leaseId = leaseId && l.unreleased) f s.leases }

/-- `LeaseStoreAcquireResult` (`worker_lease.py:501-503`). -/
structure AcquireResult where
  lease : Option WorkerLease
  created : Bool
  deriving DecidableEq, Repr

/-- The lease that `try_acquire_result` proposes (`worker_lease.py:1203-1231`). -/
def proposedLease (env : LeaseEnv) (request : WorkerLeaseRequest)
    (candidate : WorkerLeaseCandidate) (leaseId : String) (acquiredAt : TimeArg)
    (expiresAt : Option TimeArg) : Except LeaseFault WorkerLease := do
  let leaseId ← text leaseId "lease_id" 128
  let acquired ← timestamp acquiredAt
  let expiry ← match expiresAt with
    | none => timestampAddSeconds acquired request.leaseTtlSeconds "expires_at"
    | some e => do
      let e ← timestamp e
      let _ ← timestampDatetime e "expires_at"
      pure e
  let hotspotKey ← match request.mutationIntent with
    | .mutation => (resolveMutationHotspot env request.worktree).map some
    | .readOnly => pure none
  let worktreeKey ← windowsWorktreeKey env request.worktree
  return {
    leaseId, workerId := candidate.workerId, sessionId := request.sessionId
    taskId := request.taskId, projectId := request.projectId, runtimeId := candidate.runtimeId
    worktreeKey, branch := request.branch, expectedHead := request.expectedHead
    requiredCapabilities := request.requiredCapabilities, allowedScope := request.allowedScope
    forbiddenScope := request.forbiddenScope, mutableScope := request.mutableScope
    mutationIntent := request.mutationIntent, acquiredAt := acquired, heartbeatAt := acquired
    leaseTtlSeconds := request.leaseTtlSeconds, expiresAt := some expiry, hotspotKey }

/-- `SELECT … WHERE session_id = ? AND task_id = ? AND released_at IS NULL`. -/
def LeaseStore.activeOwner (s : LeaseStore) (sessionId taskId : String) : Option WorkerLease :=
  s.leases.find? fun l => l.sessionId = sessionId && l.taskId = taskId && l.unreleased

/-- `SELECT … WHERE worker_id = ? AND released_at IS NULL`. -/
def LeaseStore.activeWorker (s : LeaseStore) (workerId : String) : Option WorkerLease :=
  s.leases.find? fun l => l.workerId = workerId && l.unreleased

/-- The reservation that fences a worker (`worker_lease.py:1252-1256`). -/
def LeaseStore.boundReservation (s : LeaseStore) (workerId : String) : Option ReservationRecord :=
  s.reservations.find? fun r =>
    r.workerId = some workerId && (r.state = .provisioned || r.state = .recoveryRequired)

/-- A non-released handoff reservation lets only its exact provisioned owner lease
    the worker (`worker_lease.py:1257-1265`). -/
def fencedByReservation (lease : WorkerLease) : Option ReservationRecord → Bool
  | none => false
  | some r => r.state ≠ .provisioned || r.sessionId ≠ lease.sessionId || r.taskId ≠ lease.taskId

/-- The mutation rows without a hotspot, and those on the same hotspot
    (`worker_lease.py:1271-1284`). -/
def LeaseStore.legacyMutation (s : LeaseStore) : Bool :=
  s.leases.any fun l => l.unreleased && l.mutationIntent = .mutation && l.hotspotKey.isNone

def LeaseStore.hotspotRows (s : LeaseStore) (hotspotKey : Option String) : List WorkerLease :=
  s.leases.filter fun l =>
    l.unreleased && l.hotspotKey.isSome && l.hotspotKey = hotspotKey && l.mutationIntent = .mutation

/-- The mutation fence of `try_acquire_result` (`worker_lease.py:1266-1288`). -/
def mutationFence (lease : WorkerLease) : LeaseTxn Unit :=
  match lease.mutationIntent with
  | .readOnly => pure ()
  | .mutation => do
    let legacy ← query LeaseStore.legacyMutation
    require (!legacy) (.leaseError "HOTSPOT_RECONCILIATION_REQUIRED")
    let rows ← query fun s => s.hotspotRows lease.hotspotKey
    require (!rows.any fun row => writeSetsOverlap lease.mutableScope row.mutableScope)
      (.leaseError "MUTABLE_SCOPE_OVERLAP")

/-- The transaction of `try_acquire_result` (`worker_lease.py:1232-1308`). -/
def acquireBody (env : LeaseEnv) (request : WorkerLeaseRequest) (lease : WorkerLease) :
    LeaseTxn AcquireResult := do
  match ← query fun s => s.activeOwner lease.sessionId lease.taskId with
  | some active =>
    let existing ← ofExcept (requireMatchingRequest env request active lease.hotspotKey)
    pure ⟨some existing, false⟩
  | none =>
    match ← query fun s => s.activeWorker lease.workerId with
    | some _ => pure ⟨none, false⟩
    | none =>
      let bound ← query fun s => s.boundReservation lease.workerId
      if fencedByReservation lease bound then pure ⟨none, false⟩
      else
        mutationFence lease
        insertLease lease
        pure ⟨some lease, true⟩

/-- `SQLiteWorkerLeaseStore.try_acquire_result` (`worker_lease.py:1193-1318`). A
    violated index is told apart by looking the worker up again. -/
def tryAcquireResult (env : LeaseEnv) (request : WorkerLeaseRequest)
    (candidate : WorkerLeaseCandidate) (leaseId : String) (acquiredAt : TimeArg)
    (expiresAt : Option TimeArg) (s : LeaseStore) : Except LeaseFault AcquireResult × LeaseStore :=
  match proposedLease env request candidate leaseId acquiredAt expiresAt with
  | .error e => (.error e, s)
  | .ok lease =>
    match atomically (acquireBody env request lease) s with
    | (.error .integrityError, s') =>
      if (s'.activeWorker candidate.workerId).isSome then (.ok ⟨none, false⟩, s')
      else (.error (.leaseError "LEASE_ID_CONFLICT"), s')
    | out => out

/-- Read one lease and check its owner, as `heartbeat`, `reconcile_stale` and
    `release` start (`worker_lease.py:1360-1375`). -/
def ownedLease (leaseId sessionId taskId : String) : LeaseTxn WorkerLease := do
  match ← query fun s => s.leases.find? fun l => l.leaseId = leaseId with
  | none => raise (.leaseError "LEASE_NOT_FOUND")
  | some lease =>
    if lease.sessionId ≠ sessionId ∨ lease.taskId ≠ taskId then
      raise (.leaseError "LEASE_OWNER_MISMATCH")
    else pure lease

/-- Re-read a row after its update (`worker_lease.py:1404-1410`). -/
def rereadLease (leaseId : String) : LeaseTxn WorkerLease := do
  match ← query fun s => s.leases.find? fun l => l.leaseId = leaseId with
  | none => raise (.leaseError "LEASE_DATA_INVALID")
  | some lease => pure lease

/-- The owner arguments every lease call reads first. -/
def ownerArgs (idField id sessionId taskId : String) :
    Except LeaseFault (String × String × String) := do
  let id ← text id idField 128
  let sessionId ← text sessionId "session_id" 128
  let taskId ← text taskId "task_id" 256
  return (id, sessionId, taskId)

/-- The arguments of `heartbeat` and `release`: the owner and a clock value. -/
def ownerTimeArgs (leaseId sessionId taskId : String) (time : TimeArg) :
    Except LeaseFault (String × String × String × Stamp) := do
  let (leaseId, sessionId, taskId) ← ownerArgs "lease_id" leaseId sessionId taskId
  let stamp ← timestamp time
  return (leaseId, sessionId, taskId, stamp)

def heartbeatBody (leaseId sessionId taskId : String) (beat : Stamp) : LeaseTxn WorkerLease := do
  let lease ← ownedLease leaseId sessionId taskId
  require lease.releasedAt.isNone (.leaseError "LEASE_RELEASED")
  require lease.quarantineCode.isNone (.leaseError "LEASE_QUARANTINED")
  match lease.expiresAt with
  | none => raise (.leaseError "LEASE_EXPIRY_UNKNOWN")
  | some expires =>
    match ← ofExcept (timestampCompare beat lease.heartbeatAt) with
    | .lt => raise (.leaseError "LEASE_HEARTBEAT_STALE")
    | .eq => pure lease
    | .gt =>
      let order ← ofExcept (timestampCompare beat expires)
      require (order = .lt) (.leaseError "LEASE_HEARTBEAT_EXPIRED")
      let expiry ← ofExcept (timestampAddSeconds beat lease.leaseTtlSeconds "expires_at")
      updateLease leaseId fun l => { l with heartbeatAt := beat, expiresAt := some expiry }
      rereadLease leaseId

/-- `SQLiteWorkerLeaseStore.heartbeat` (`worker_lease.py:1352-1414`). -/
def heartbeat (leaseId sessionId taskId : String) (heartbeatAt : TimeArg) (s : LeaseStore) :
    Except LeaseFault WorkerLease × LeaseStore :=
  match ownerTimeArgs leaseId sessionId taskId heartbeatAt with
  | .error e => (.error e, s)
  | .ok (leaseId, sessionId, taskId, beat) =>
    atomically (heartbeatBody leaseId sessionId taskId beat) s

/-- `LeaseReconciliationKind` (`worker_lease.py:73-75`). -/
inductive ReconciliationKind where
  | released
  | quarantined
  deriving DecidableEq, Repr

/-- `LeaseReconciliationResult` (`worker_lease.py:488-491`). -/
structure ReconciliationResult where
  kind : ReconciliationKind
  lease : WorkerLease
  reasonCode : String
  deriving DecidableEq, Repr

/-- The later of the evidence times (`worker_lease.py:1450-1453`). -/
def latestEvidence (latest : Stamp) : List (Option Stamp) → Except LeaseFault Stamp
  | [] => .ok latest
  | none :: rest => latestEvidence latest rest
  | some value :: rest => do
    let order ← timestampCompare value latest
    latestEvidence (if order = .gt then value else latest) rest

def reconcileBody (env : LeaseEnv) (leaseId sessionId taskId : String)
    (observation : RecoveryObservation) : LeaseTxn ReconciliationResult := do
  let lease ← ownedLease leaseId sessionId taskId
  require lease.releasedAt.isNone (.leaseError "LEASE_RELEASED")
  let latest ← ofExcept
    (latestEvidence lease.heartbeatAt [lease.quarantinedAt, lease.reconciledAt])
  let order ← ofExcept (timestampCompare observation.observedAt latest)
  require (order ≠ .lt) (.leaseError "LEASE_OBSERVATION_STALE")
  let health ← ofExcept (leaseHealthKind lease observation.observedAt)
  require (health ≠ .active) (.leaseError "LEASE_NOT_STALE")
  let observed := observation.observedAt
  match reconciliationQuarantineReason env lease observation with
  | none =>
    updateLease leaseId fun l =>
      { l with
        releasedAt := some observed
        recoveryClassification := some observation.recoveryClassification
        recoveryEvidenceRef := some observation.evidenceRef
        reconciledAt := some observed }
    return ⟨.released, ← rereadLease leaseId, "RECONCILED_SAFE_RELEASE"⟩
  | some reason =>
    updateLease leaseId fun l =>
      { l with
        quarantinedAt := some (l.quarantinedAt.getD observed)
        quarantineCode := some reason
        recoveryClassification := some observation.recoveryClassification
        recoveryEvidenceRef := some observation.evidenceRef
        reconciledAt := some observed }
    return ⟨.quarantined, ← rereadLease leaseId, reason⟩

/-- `SQLiteWorkerLeaseStore.reconcile_stale` (`worker_lease.py:1416-1493`). -/
def reconcileStale (env : LeaseEnv) (leaseId sessionId taskId : String)
    (observation : RecoveryObservation) (s : LeaseStore) :
    Except LeaseFault ReconciliationResult × LeaseStore :=
  match ownerArgs "lease_id" leaseId sessionId taskId with
  | .error e => (.error e, s)
  | .ok (leaseId, sessionId, taskId) =>
    atomically (reconcileBody env leaseId sessionId taskId observation) s

/-- `LeaseReleaseResult` (`worker_lease.py:495-497`). -/
structure ReleaseResult where
  released : Bool
  alreadyReleased : Bool
  deriving DecidableEq, Repr

def releaseBody (leaseId sessionId taskId : String) (released : Stamp) :
    LeaseTxn ReleaseResult := do
  let lease ← ownedLease leaseId sessionId taskId
  if lease.releasedAt.isSome then pure ⟨false, true⟩
  else
    let order ← ofExcept (timestampCompare released lease.heartbeatAt)
    require (order ≠ .lt) (.leaseError "LEASE_RELEASE_STALE")
    require lease.quarantineCode.isNone (.leaseError "LEASE_RECOVERY_REQUIRED")
    match lease.expiresAt with
    | none => raise (.leaseError "LEASE_RECOVERY_REQUIRED")
    | some expires =>
      let order ← ofExcept (timestampCompare released expires)
      require (order = .lt) (.leaseError "LEASE_RECOVERY_REQUIRED")
      updateLease leaseId fun l => { l with releasedAt := some released }
      pure ⟨true, false⟩

/-- `SQLiteWorkerLeaseStore.release` (`worker_lease.py:1505-1548`). -/
def release (leaseId sessionId taskId : String) (releasedAt : TimeArg) (s : LeaseStore) :
    Except LeaseFault ReleaseResult × LeaseStore :=
  match ownerTimeArgs leaseId sessionId taskId releasedAt with
  | .error e => (.error e, s)
  | .ok (leaseId, sessionId, taskId, released) =>
    atomically (releaseBody leaseId sessionId taskId released) s

end AConductor.Lease

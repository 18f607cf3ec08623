import AConductor.Domain
import AConductor.Lib.Transaction
import AConductor.Lib.Table
import AConductor.Lib.JsonSurrogate
import AConductor.Lib.PyText
import AConductor.Graph.Analyze

/-!
# Worker leases: records and checks

The records of `src/a_conductor/worker_lease.py` and the pure checks its store
makes on them. A request, a candidate and an observation are taken as their
constructors leave them (`:349-402`, `:454-484`), without the constructors' own
checks, so the store below is rendered for more requests than can be built.
Texts that go into a column as they are have no lone surrogate, which `sqlite3`
refuses; the texts of the lists that a column holds as JSON may have some. The
overlap of scopes is taken as the search answers it without a limit to its
recursion: an acquisition that it stops raises and writes nothing.
-/

namespace AConductor.Lease

open Txn Json

/-- What a call can raise: a `ValueError` with its text, a `WorkerLeaseError` with
    its code, or the `sqlite3.IntegrityError` of a violated index. -/
inductive LeaseFault where
  | valueError (text : String)
  | leaseError (code : String)
  | integrityError
  deriving DecidableEq, Repr

/-- `_text` (`worker_lease.py:235-241`). -/
def text (value fieldName : String) (maxLength : Nat := 512) : Except LeaseFault String :=
  if Text.isBlank value then .error (.valueError (fieldName ++ " must not be blank"))
  else
    let cleaned := Text.strip value
    if maxLength < cleaned.length || Text.hasChar cleaned '\x00' || Text.hasChar cleaned '\r' ||
        Text.hasChar cleaned '\n' then
      .error (.valueError (fieldName ++ " is invalid"))
    else .ok cleaned

/-- `_optional_text` (`worker_lease.py:244-247`). -/
def optionalText (value : Option String) (fieldName : String) :
    Except LeaseFault (Option String) :=
  match value with
  | none => .ok none
  | some v => (text v fieldName).map some

/-- `_text` on a member of a list that is kept as JSON. -/
def listedText (value : PyStr) (fieldName : String) : Except LeaseFault PyStr :=
  if value.isBlank then .error (.valueError (fieldName ++ " must not be blank"))
  else
    let cleaned := value.strip
    if 512 < cleaned.length ∨ .char '\x00' ∈ cleaned ∨ .char '\r' ∈ cleaned ∨
        .char '\n' ∈ cleaned then
      .error (.valueError (fieldName ++ " is invalid"))
    else .ok cleaned

/-- `_scope` (`worker_lease.py:256-262`) with its reader of one text. -/
def scope {α : Type} [DecidableEq α] (read : α → String → Except LeaseFault α) (values : List α)
    (fieldName : String) : Except LeaseFault (List α) := do
  let result ← values.mapM fun v => read v fieldName
  if result.Nodup then .ok result
  else .error (.valueError (fieldName ++ " must not contain duplicates"))

/-- `_decode_scope(json.dumps(values))` (`worker_lease.py:506-513`): a high surrogate in front of a
    low one is read back as the character of the two. -/
def readBack (values : List PyStr) : List PyStr := values.map joinPairs

/-- What a list of texts is printed as is read back as `readBack` says. -/
theorem loads_dumps_readBack {ε ν : Type} {hooks : Hooks ε ν}
    (hobjects : KeepsObjects hooks) (numText : ν → PyStr) (values : List PyStr) :
    loads hooks (dumps ⟨true, true⟩ numText (.arr (values.map .str))) =
      .ok (.arr ((readBack values).map .str)) := by
  have hmap : mapTexts joinPairs (.arr (values.map .str) : Json ν) =
      .arr ((readBack values).map .str) := by
    unfold readBack
    rw [mapTexts]
    refine congrArg Json.arr ?_
    induction values with
    | nil => rfl
    | cons v values ih => exact congrArg (Json.str (joinPairs v) :: ·) ih
  have hprint : dumps ⟨true, true⟩ numText _ = dumps ⟨true, true⟩ numText _ :=
    dumps_mapTexts numText dumpsStr_joinPairs (.arr (values.map .str))
  rw [hmap] at hprint
  rw [← hprint]
  refine loads_dumps_of _ _ hobjects readsStrings_unpaired ?_ (by simp [dumps])
  rw [ReadsBack]
  clear hmap hprint
  unfold readBack
  induction values with
  | nil => trivial
  | cons v values ih => exact ⟨unpaired_joinPairs v, ih⟩

/-- A stored timestamp: text that `datetime.fromisoformat` reads as an aware time
    (in microseconds of UTC), as a naive one, or not at all. -/
inductive Stamp where
  | instant (micros : Int)
  | naive (raw : String)
  | malformed (raw : String)
  deriving DecidableEq, Repr

/-- A clock value given by a caller, as `_timestamp` (`worker_lease.py:277-282`)
    takes it: refused with the text of a `ValueError`, or a stamp. -/
abbrev TimeArg := Except String Stamp

/-- `_timestamp`. -/
def timestamp (value : TimeArg) : Except LeaseFault Stamp := value.mapError .valueError

/-- `_timestamp_datetime` (`worker_lease.py:285-293`). -/
def timestampDatetime (value : Stamp) (fieldName : String) : Except LeaseFault Int :=
  match value with
  | .instant micros => .ok micros
  | .naive _ => .error (.valueError (fieldName ++ " must be timezone-aware"))
  | .malformed _ => .error (.valueError (fieldName ++ " must be an ISO-8601 timestamp"))

/-- The first microsecond `datetime` can represent (year 1), counted from 1970. -/
def datetimeMin : Int := -62135596800000000

/-- The last microsecond `datetime` can represent (year 9999), counted from 1970. -/
def datetimeMax : Int := 253402300799999999

/-- `_timestamp_add_seconds` (`worker_lease.py:296-297`); `datetime` arithmetic
    raises outside the years 1 to 9999. -/
def timestampAddSeconds (value : Stamp) (seconds : Nat) (fieldName : String) :
    Except LeaseFault Stamp := do
  let t ← timestampDatetime value fieldName
  let moved := t + 1000000 * (seconds : Int)
  if datetimeMin ≤ moved ∧ moved ≤ datetimeMax then .ok (.instant moved)
  else .error (.valueError "date value out of range")

/-- `_timestamp_compare` (`worker_lease.py:300-303`). -/
def timestampCompare (left right : Stamp) : Except LeaseFault Ordering := do
  let a ← timestampDatetime left "timestamp"
  let b ← timestampDatetime right "timestamp"
  .ok (compare a b)

/-- `LeaseMutationIntent` (`worker_lease.py:52-54`). -/
inductive LeaseMutationIntent where
  | readOnly
  | mutation
  deriving DecidableEq, Repr

/-- `LeaseHealthKind` (`worker_lease.py:65-70`). -/
inductive LeaseHealthKind where
  | active
  | stale
  | quarantined
  | released
  | expiryUnknown
  deriving DecidableEq, Repr

/-- The values of `dirty_state` (`worker_lease.py:43`). -/
inductive DirtyState where
  | clean
  | dirty
  | unknown
  deriving DecidableEq, Repr

/-- `WorkerLeaseCandidate` (`worker_lease.py:307-346`), less the facts that only the
    broker's preflight reads. -/
structure WorkerLeaseCandidate where
  workerId : String
  runtimeId : Option String
  deriving DecidableEq, Repr

/-- `WorkerLeaseRequest` (`worker_lease.py:349-402`), less the fallback flag that
    only the broker reads. -/
structure WorkerLeaseRequest where
  sessionId : String
  taskId : String
  projectId : String
  orderedWorkerIds : List String
  requiredCapabilities : List PyStr
  requiredRuntimeId : Option String
  worktree : String
  branch : String
  expectedHead : String
  mutationIntent : LeaseMutationIntent
  allowedScope : List PyStr
  forbiddenScope : List PyStr
  mutableScope : List PyStr
  leaseTtlSeconds : Nat
  deriving DecidableEq, Repr

/-- `WorkerLease` (`worker_lease.py:406-432`), also a row of `worker_leases`
    (`:745-771`). -/
structure WorkerLease where
  leaseId : String
  workerId : String
  sessionId : String
  taskId : String
  projectId : String
  runtimeId : Option String
  worktreeKey : String
  branch : String
  expectedHead : String
  requiredCapabilities : List PyStr
  allowedScope : List PyStr
  forbiddenScope : List PyStr
  mutableScope : List PyStr
  mutationIntent : LeaseMutationIntent
  acquiredAt : Stamp
  heartbeatAt : Stamp
  leaseTtlSeconds : Nat
  expiresAt : Option Stamp
  releasedAt : Option Stamp := none
  quarantinedAt : Option Stamp := none
  quarantineCode : Option String := none
  recoveryClassification : Option RecoveryClassification := none
  recoveryEvidenceRef : Option String := none
  reconciledAt : Option Stamp := none
  hotspotKey : Option String := none
  deriving DecidableEq, Repr

/-- The row of a lease, as `_lease_from_row` reads it (`worker_lease.py:516-540`). -/
def WorkerLease.stored (l : WorkerLease) : WorkerLease :=
  { l with
    requiredCapabilities := readBack l.requiredCapabilities
    allowedScope := readBack l.allowedScope
    forbiddenScope := readBack l.forbiddenScope
    mutableScope := readBack l.mutableScope }

/-- `WorkerLeaseRecoveryObservation` (`worker_lease.py:454-484`). -/
structure RecoveryObservation where
  workerId : String
  worktree : String
  branch : String
  head : String
  dirtyState : DirtyState
  ownershipKnown : Bool
  runtimeRunning : Option Bool
  recoveryClassification : RecoveryClassification
  evidenceRef : String
  observedAt : Stamp
  deriving DecidableEq, Repr

/-- The states of a provisioning reservation (`worker_lease.py:838-841`). -/
inductive ReservationState where
  | preProvision
  | active
  | provisioning
  | provisioned
  | capacity
  | recoveryRequired
  | released
  deriving DecidableEq, Repr

/-- `WorkerProvisioningReservationRecord` (`worker_lease.py:192-203`), also a row of
    `worker_provisioning_reservations` (`:777-789`). -/
structure ReservationRecord where
  reservationId : String
  sessionId : String
  taskId : String
  runtimeKind : String
  state : ReservationState
  workerId : Option String
  acquiredAt : Stamp
  updatedAt : Stamp
  projectId : Option String
  worktreeKey : Option String
  mutableScope : List PyStr
  deriving DecidableEq, Repr

/-- The row of a reservation, as `_provisioning_record_from_row` reads it. -/
def ReservationRecord.stored (r : ReservationRecord) : ReservationRecord :=
  { r with mutableScope := readBack r.mutableScope }

/-- What a store call takes from its surroundings: `ntpath.normcase` after
    `ntpath.normpath`, and the injected hotspot resolver, which may raise or answer
    something that is not a text. -/
structure LeaseEnv where
  normPath : String → String
  hotspotResolver : String → Option String

/-- `windows_worktree_key` (`src/a_conductor/registry.py:36-39`). -/
def windowsWorktreeKey (env : LeaseEnv) (path : String) : Except LeaseFault String :=
  if Text.isBlank path then .error (.valueError "worktree path must not be blank")
  else .ok (env.normPath (Text.strip path))

/-- `SQLiteWorkerLeaseStore.resolve_mutation_hotspot` (`worker_lease.py:661-679`). -/
def resolveMutationHotspot (env : LeaseEnv) (worktree : String) : Except LeaseFault String :=
  match env.hotspotResolver worktree with
  | none => .error (.leaseError "HOTSPOT_IDENTITY_FAILED")
  | some hotspot =>
    (text hotspot "hotspot_key" 128).mapError fun _ => .leaseError "HOTSPOT_IDENTITY_FAILED"

/-- `frozenset(a) == frozenset(b)`. -/
def sameSet (a b : List PyStr) : Bool := a.all (· ∈ b) && b.all (· ∈ a)

/-- `_request_matches_lease` (`worker_lease.py:542-562`). The head is a hexadecimal
    object id, on which `casefold` lowers the ASCII letters. -/
def requestMatchesLease (env : LeaseEnv) (request : WorkerLeaseRequest) (lease : WorkerLease)
    (hotspotKey : Option String) : Except LeaseFault Bool := do
  if lease.workerId ∉ request.orderedWorkerIds then return false
  if lease.projectId ≠ request.projectId then return false
  let key ← windowsWorktreeKey env request.worktree
  return decide (lease.worktreeKey = key) && decide (lease.branch = request.branch) &&
    decide (lease.expectedHead.toLower = request.expectedHead.toLower) &&
    decide (lease.mutationIntent = request.mutationIntent) &&
    sameSet lease.requiredCapabilities request.requiredCapabilities &&
    sameSet lease.allowedScope request.allowedScope &&
    sameSet lease.forbiddenScope request.forbiddenScope &&
    sameSet lease.mutableScope request.mutableScope &&
    decide (lease.leaseTtlSeconds = request.leaseTtlSeconds) &&
    (request.requiredRuntimeId.isNone || decide (lease.runtimeId = request.requiredRuntimeId)) &&
    (hotspotKey.isNone || lease.hotspotKey.isNone || decide (lease.hotspotKey = hotspotKey))

/-- `_require_matching_request` (`worker_lease.py:565-573`). -/
def requireMatchingRequest (env : LeaseEnv) (request : WorkerLeaseRequest) (lease : WorkerLease)
    (hotspotKey : Option String) : Except LeaseFault WorkerLease := do
  if ← requestMatchesLease env request lease hotspotKey then return lease
  else .error (.leaseError "LEASE_REQUEST_CONFLICT")

/-- `_lease_health_kind` (`worker_lease.py:576-585`). -/
def leaseHealthKind (lease : WorkerLease) (now : Stamp) : Except LeaseFault LeaseHealthKind :=
  if lease.releasedAt.isSome then .ok .released
  else if lease.quarantineCode.isSome then .ok .quarantined
  else match lease.expiresAt with
    | none => .ok .expiryUnknown
    | some expires => do
      let order ← timestampCompare now expires
      return if order = .lt then .active else .stale

/-- `_reconciliation_quarantine_reason` (`worker_lease.py:588-626`): `none` is the
    safe release. -/
def reconciliationQuarantineReason (env : LeaseEnv) (lease : WorkerLease)
    (observation : RecoveryObservation) : Option String :=
  if observation.workerId ≠ lease.workerId then some "WORKER_MISMATCH"
  else if ¬ observation.ownershipKnown then some "OWNERSHIP_UNKNOWN"
  else if windowsWorktreeKey env observation.worktree ≠ .ok lease.worktreeKey then
    some "WORKTREE_MISMATCH"
  else if observation.branch ≠ lease.branch then some "BRANCH_MISMATCH"
  else match observation.runtimeRunning with
    | none => some "RUNTIME_STATE_UNKNOWN"
    | some true => some "RUNTIME_STILL_RUNNING"
    | some false =>
      match observation.dirtyState with
      | .unknown => some "WORKTREE_DIRTY_UNKNOWN"
      | .dirty => some "WORKTREE_DIRTY"
      | .clean =>
        match observation.recoveryClassification with
        | .unknown => some "RECOVERY_UNKNOWN"
        | .partialMutation => some "PARTIAL_MUTATION"
        | .mutationCompleteUnverified => some "MUTATION_COMPLETE_UNVERIFIED"
        | .unexpectedDrift => some "UNEXPECTED_DRIFT"
        | .noMutation =>
          if observation.head.toLower ≠ lease.expectedHead.toLower then some "HEAD_MISMATCH"
          else none
        | .completeVerified => none

end AConductor.Lease

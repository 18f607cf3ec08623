import AConductor.WorkerLease.Spec
import AConductor.Lib.Proc

/-!
# Worker leases: the broker

`WorkerLeaseBroker.acquire` (`src/a_conductor/worker_lease.py:1551-1683`) as a `Proc` over
the lease store: the lookup of the owner task, the inspection of its lease and each
attempt at a worker are transactions of their own, so other calls may come in between.
The types of the arguments stand for the `isinstance` checks.
-/

namespace AConductor.Lease

open Proc AConductor.Graph

/-- `LeaseOutcomeKind` (`worker_lease.py:57-62`). -/
inductive LeaseOutcomeKind where
  | leased
  | existing
  | recoveryRequired
  | rdcReadOnly
  | wait
  deriving DecidableEq, Repr

/-- `CandidateRejectionKind` (`worker_lease.py:215-232`). -/
inductive CandidateRejectionKind where
  | candidateMissing
  | activeTask
  | workerNotReady
  | workerReserved
  | capabilityMismatch
  | runtimeMismatch
  | projectMismatch
  | worktreeMismatch
  | branchMismatch
  | headMismatch
  | healthStale
  | ownershipUnknown
  | dirtyUnknown
  | dirtyWorktree
  | mutationUnauthorized
  | mutableScopeOverlap
  | leaseBusy
  deriving DecidableEq, Repr

/-- `CandidateRejection` (`worker_lease.py:435-437`). -/
structure CandidateRejection where
  workerId : String
  kind : CandidateRejectionKind
  deriving DecidableEq, Repr

/-- `WorkerLeaseOutcome` (`worker_lease.py:441-444`). -/
structure WorkerLeaseOutcome where
  kind : LeaseOutcomeKind
  lease : Option WorkerLease
  rejections : List CandidateRejection
  deriving DecidableEq, Repr

/-- `LeaseHealth` (`worker_lease.py:448-450`). -/
structure LeaseHealth where
  kind : LeaseHealthKind
  lease : WorkerLease
  deriving DecidableEq, Repr

/-- A candidate with the facts that the preflight reads (`worker_lease.py:307-322`). -/
structure BrokerCandidate extends WorkerLeaseCandidate where
  state : String
  reserved : Bool
  activeTask : Bool
  capabilities : List PyStr
  projectId : Option String
  worktree : Option String
  branch : Option String
  head : Option String
  healthFresh : Bool
  ownershipKnown : Bool
  dirtyState : DirtyState
  mutationAuthorized : Bool
  occupiedMutableScopes : List (List PyStr) := []
  deriving DecidableEq, Repr

/-- A request with the flag that only the broker reads (`worker_lease.py:363`). -/
structure BrokerRequest extends WorkerLeaseRequest where
  rdcFallbackEligible : Bool := false
  deriving DecidableEq, Repr

/-- The surroundings of the broker: those of the store, and `str.casefold`. -/
structure BrokerEnv extends LeaseEnv where
  casefold : String → String

/-- The two worktrees are spelled alike; a blank one never is
    (`worker_lease.py:1569-1575`). -/
def sameWorktree (env : LeaseEnv) (a b : String) : Bool :=
  match windowsWorktreeKey env a, windowsWorktreeKey env b with
  | .ok x, .ok y => x = y
  | _, _ => false

/-- The checks that only a mutation makes (`worker_lease.py:1586-1594`). -/
def mutationPreflight (request : BrokerRequest) (candidate : BrokerCandidate) :
    Option CandidateRejectionKind :=
  if request.mutationIntent ≠ .mutation then none
  else if candidate.dirtyState ≠ .clean then some .dirtyWorktree
  else if ¬ candidate.mutationAuthorized then some .mutationUnauthorized
  else if candidate.occupiedMutableScopes.any (writeSetsOverlap request.mutableScope) then
    some .mutableScopeOverlap
  else none

/-- `_preflight` (`worker_lease.py:1551-1594`). -/
def preflight (env : BrokerEnv) (request : BrokerRequest) (candidate : BrokerCandidate) :
    Option CandidateRejectionKind :=
  if candidate.activeTask then some .activeTask
  else if candidate.state ≠ "READY" then some .workerNotReady
  else if candidate.reserved then some .workerReserved
  else if ¬ request.requiredCapabilities.all (· ∈ candidate.capabilities) then
    some .capabilityMismatch
  else if request.requiredRuntimeId.isSome ∧ candidate.runtimeId ≠ request.requiredRuntimeId then
    some .runtimeMismatch
  else if candidate.projectId ≠ some request.projectId then some .projectMismatch
  else if ¬ candidate.worktree.any fun w => sameWorktree env.toLeaseEnv w request.worktree then
    some .worktreeMismatch
  else if candidate.branch ≠ some request.branch then some .branchMismatch
  else if candidate.head.map env.casefold ≠ some (env.casefold request.expectedHead) then
    some .headMismatch
  else if ¬ candidate.healthFresh then some .healthStale
  else if ¬ candidate.ownershipKnown then some .ownershipUnknown
  else if candidate.dirtyState = .unknown then some .dirtyUnknown
  else mutationPreflight request candidate

/-- `SQLiteWorkerLeaseStore.find_active_owner_task` (`worker_lease.py:1179-1191`). -/
def findActiveOwnerTask (sessionId taskId : String) (s : LeaseStore) :
    Except LeaseFault (Option WorkerLease) × LeaseStore :=
  (do
    let sessionId ← text sessionId "session_id" 128
    let taskId ← text taskId "task_id" 256
    return s.activeOwner sessionId taskId, s)

/-- `SQLiteWorkerLeaseStore.inspect_health` (`worker_lease.py:1337-1350`). -/
def inspectHealth (leaseId : String) (now : TimeArg) (s : LeaseStore) :
    Except LeaseFault LeaseHealth × LeaseStore :=
  (do
    let leaseId ← text leaseId "lease_id" 128
    let now ← timestamp now
    match s.leases.find? fun l => l.leaseId = leaseId with
    | none => .error (.leaseError "LEASE_NOT_FOUND")
    | some lease =>
      let kind ← leaseHealthKind lease now
      return ⟨kind, lease⟩, s)

/-- A call of `acquire`: what the clock answers, and what the lease id factory answers
    when the `n`-th worker of the request is tried. -/
structure BrokerCall where
  env : BrokerEnv
  request : BrokerRequest
  candidates : List BrokerCandidate
  now : TimeArg
  leaseIdFactory : Nat → Except LeaseFault String

/-- The notes of a call: at an attempt, the unreleased lease of its owner task that
    answers the request, and at the end the outcome. -/
inductive BrokerNote where
  | tried (now : TimeArg) (met : Option WorkerLease)
  | returned (now : TimeArg) (outcome : WorkerLeaseOutcome)
  deriving DecidableEq

abbrev BrokerProc := ExceptT LeaseFault (Proc LeaseStore BrokerNote)

/-- A read of the store. -/
def readStore {α : Type} (tx : LeaseStore → Except LeaseFault α × LeaseStore) : BrokerProc α :=
  ExceptT.mk (transact tx)

def raiseOr {α : Type} (x : Except LeaseFault α) : BrokerProc α := ExceptT.mk (pure x)

/-- The unreleased lease of the owner task, if it answers the request
    (`worker_lease.py:1236-1248`). -/
def metLease (env : LeaseEnv) (request : WorkerLeaseRequest) (candidate : WorkerLeaseCandidate)
    (leaseId : String) (now : TimeArg) (s : LeaseStore) : Option WorkerLease :=
  match proposedLease env request candidate leaseId now none with
  | .error _ => none
  | .ok lease => (s.activeOwner request.sessionId request.taskId).filter fun active =>
      requireMatchingRequest env request active lease.hotspotKey = .ok active

/-- One attempt at a worker: `self._store.try_acquire_result(…)`. -/
def attempt (c : BrokerCall) (item : BrokerCandidate) (leaseId : String) :
    Proc LeaseStore BrokerNote (Except LeaseFault AcquireResult) := do
  let (_, answer) ← transactNoting
    (fun s =>
      let out := tryAcquireResult c.env.toLeaseEnv c.request.toWorkerLeaseRequest
        item.toWorkerLeaseCandidate leaseId c.now none s
      ((metLease c.env.toLeaseEnv c.request.toWorkerLeaseRequest item.toWorkerLeaseCandidate
        leaseId c.now s, out.1), out.2))
    fun r => some (.tried c.now r.1)
  pure answer

/-- What is answered when no worker was leased (`worker_lease.py:1681-1683`). -/
def unleased (c : BrokerCall) (rejections : List CandidateRejection) : WorkerLeaseOutcome :=
  if c.request.mutationIntent = .readOnly ∧ c.request.rdcFallbackEligible then
    ⟨.rdcReadOnly, none, rejections⟩
  else ⟨.wait, none, rejections⟩

/-- What an attempt means for the loop: an outcome, or a rejection of the worker
    (`worker_lease.py:1668-1680`). -/
def judgeAttempt (rejections : List CandidateRejection) :
    Except LeaseFault AcquireResult →
      Except LeaseFault (WorkerLeaseOutcome ⊕ CandidateRejectionKind)
  | .error (.leaseError "MUTABLE_SCOPE_OVERLAP") => .ok (.inr .mutableScopeOverlap)
  | .error e => .error e
  | .ok ⟨some lease, created⟩ =>
    .ok (.inl ⟨if created then .leased else .existing, some lease, rejections⟩)
  | .ok ⟨none, _⟩ => .ok (.inr .leaseBusy)

/-- The loop over the workers of the request (`worker_lease.py:1651-1680`). -/
def tryWorkers (c : BrokerCall) :
    Nat → List String → List CandidateRejection → BrokerProc WorkerLeaseOutcome
  | _, [], rejections => pure (unleased c rejections)
  | n, workerId :: rest, rejections =>
    match c.candidates.find? fun item => item.workerId = workerId with
    | none => tryWorkers c (n + 1) rest (rejections ++ [⟨workerId, .candidateMissing⟩])
    | some item =>
      match preflight c.env c.request item with
      | some reason => tryWorkers c (n + 1) rest (rejections ++ [⟨workerId, reason⟩])
      | none => do
        let drawn ← raiseOr (c.leaseIdFactory n)
        let leaseId ← raiseOr (text drawn "lease_id" 128)
        let answer ← ExceptT.lift (attempt c item leaseId)
        match ← raiseOr (judgeAttempt rejections answer) with
        | .inl outcome => pure outcome
        | .inr kind => tryWorkers c (n + 1) rest (rejections ++ [⟨workerId, kind⟩])

/-- The answer for an owner task that has a lease (`worker_lease.py:1633-1640`). -/
def answerExisting (c : BrokerCall) (hotspotKey : Option String) (existing : WorkerLease) :
    BrokerProc WorkerLeaseOutcome := do
  let request := c.request.toWorkerLeaseRequest
  let matching ← raiseOr (requireMatchingRequest c.env.toLeaseEnv request existing hotspotKey)
  let health ← readStore (inspectHealth matching.leaseId c.now)
  let latest ← raiseOr (requireMatchingRequest c.env.toLeaseEnv request health.lease hotspotKey)
  pure ⟨if health.kind = .active then .existing else .recoveryRequired, some latest, []⟩

/-- `acquire` up to its answer (`worker_lease.py:1622-1683`). -/
def acquireOutcome (c : BrokerCall) : BrokerProc WorkerLeaseOutcome := do
  let hotspotKey ← raiseOr (match c.request.mutationIntent with
    | .mutation => (resolveMutationHotspot c.env.toLeaseEnv c.request.worktree).map some
    | .readOnly => .ok none)
  match ← readStore (findActiveOwnerTask c.request.sessionId c.request.taskId) with
  | some existing => answerExisting c hotspotKey existing
  | none =>
    if (c.candidates.map fun item => item.workerId).Nodup then
      tryWorkers c 0 c.request.orderedWorkerIds []
    else throw (.valueError "candidate worker_id must be unique")

/-- `WorkerLeaseBroker.acquire` (`worker_lease.py:1617-1683`). -/
def acquire (c : BrokerCall) : Proc LeaseStore BrokerNote (Except LeaseFault WorkerLeaseOutcome) :=
  (do
    let outcome ← acquireOutcome c
    ExceptT.lift (emit (.returned c.now outcome))
    pure outcome : BrokerProc WorkerLeaseOutcome)

end AConductor.Lease

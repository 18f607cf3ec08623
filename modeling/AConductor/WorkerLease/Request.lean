import AConductor.WorkerLease.Expiry
import AConductor.Lib.Fnmatch

/-!
# Worker leases: the request constructor

`WorkerLeaseRequest.__post_init__` of `src/a_conductor/worker_lease.py:367-402` with
`_mutable_scope_is_authorized` (`:265-274`), and what it has checked of the scopes.
-/

namespace AConductor.Lease

open AConductor.Graph Fnmatch Except

/-- `_mutable_scope_is_authorized` (`worker_lease.py:265-274`). -/
def mutableScopeIsAuthorized (allowed mutable : List PyStr) : Bool :=
  mutable.all fun expression => decide (expression ∈ allowed) ||
    (literal expression && allowed.any fun pattern => fnmatchcase expression pattern)

/-- `_HEAD_RE` (`worker_lease.py:42`). -/
def isHeadText (s : String) : Bool :=
  7 ≤ s.length && s.length ≤ 64 &&
    s.toList.all fun c => c.isDigit || ('a' ≤ c && c ≤ 'f') || ('A' ≤ c && c ≤ 'F')

/-- `WorkerLeaseRequest.__post_init__` (`worker_lease.py:367-402`), for arguments of their
    declared types; the time to live is any integer. -/
def WorkerLeaseRequest.postInit (given : WorkerLeaseRequest) (leaseTtlSeconds : Int) :
    Except LeaseFault WorkerLeaseRequest := do
  let sessionId ← text given.sessionId "session_id" 128
  let taskId ← text given.taskId "task_id" 256
  let projectId ← text given.projectId "project_id" 128
  let workers ← scope (fun v field => text v field) given.orderedWorkerIds "ordered_worker_ids"
  rejectIf (workers = []) (.valueError "ordered_worker_ids must not be empty")
  let requiredCapabilities ← scope listedText given.requiredCapabilities "required_capabilities"
  let requiredRuntimeId ← optionalText given.requiredRuntimeId "required_runtime_id"
  let worktree ← text given.worktree "worktree"
  let branch ← text given.branch "branch" 256
  let head ← text given.expectedHead "expected_head" 64
  rejectIf (isHeadText head = false)
    (.valueError "expected_head must be a git object id")
  let allowed ← scope listedText given.allowedScope "allowed_scope"
  let forbidden ← scope listedText given.forbiddenScope "forbidden_scope"
  let mutable ← scope listedText given.mutableScope "mutable_scope"
  rejectIf (leaseTtlSeconds < 1 ∨ 86400 < leaseTtlSeconds)
    (.valueError "lease_ttl_seconds must be between 1 and 86400")
  rejectIf (given.mutationIntent = .readOnly ∧ mutable ≠ [])
    (.valueError "read-only lease cannot request mutable_scope")
  rejectIf (given.mutationIntent = .mutation ∧ mutable = [])
    (.valueError "mutation lease requires mutable_scope")
  rejectIf
    (given.mutationIntent = .mutation ∧ mutableScopeIsAuthorized allowed mutable = false)
    (.valueError "mutable_scope escapes allowed_scope")
  rejectIf (mutable ≠ [] ∧ forbidden ≠ [] ∧ writeSetsOverlap mutable forbidden = true)
    (.valueError "mutable_scope overlaps forbidden_scope")
  return {
    sessionId, taskId, projectId, orderedWorkerIds := workers, requiredCapabilities
    requiredRuntimeId, worktree, branch, expectedHead := head.toLower
    mutationIntent := given.mutationIntent, allowedScope := allowed, forbiddenScope := forbidden
    mutableScope := mutable, leaseTtlSeconds := leaseTtlSeconds.toNat }

/-- The constructor has found the mutable scope apart from the forbidden one. -/
theorem postInit_disjoint {given request : WorkerLeaseRequest} {leaseTtlSeconds : Int}
    (h : given.postInit leaseTtlSeconds = .ok request) :
    writeSetsOverlap request.mutableScope request.forbiddenScope = false := by
  unfold WorkerLeaseRequest.postInit at h
  iterate 4 obtain ⟨_, -, h⟩ := bind_eq_ok.mp h
  iterate 6 obtain ⟨_, -, h⟩ := bind_eq_ok.mp h
  iterate 4 obtain ⟨_, -, h⟩ := bind_eq_ok.mp h
  iterate 4 obtain ⟨_, -, h⟩ := bind_eq_ok.mp h
  obtain ⟨_, hoverlaps, h⟩ := bind_eq_ok.mp h
  cases h
  rw [rejectIf_eq_ok] at hoverlaps
  rw [Bool.eq_false_iff]
  intro hoverlap
  obtain ⟨p, hp, q, hq, -⟩ := writeSetsOverlap_eq_true.mp hoverlap
  exact hoverlaps ⟨List.ne_nil_of_mem hp, List.ne_nil_of_mem hq, hoverlap⟩

/-- The request of the call has passed its constructor. -/
def LeaseCall.Built : LeaseCall → Prop
  | .tryAcquireResult _ request _ _ _ _ =>
    ∃ (given : WorkerLeaseRequest) (leaseTtlSeconds : Int),
      given.postInit leaseTtlSeconds = .ok request
  | _ => True

end AConductor.Lease

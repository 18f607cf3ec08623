import Mathlib.Tactic

/-!
# Core domain enumerations

The enumerations of `src/a_conductor/domain.py` that the durable stores share.
-/

namespace AConductor

/-- `TaskState` (`domain.py:15-30`). -/
inductive TaskState where
  | new
  | planning
  | ready
  | claimed
  | gating
  | executing
  | verifying
  | repairing
  | reviewPending
  | changesRequired
  | blocked
  | recoveryNeeded
  | complete
  | failed
  | cancelled
  deriving DecidableEq, Repr

/-- The stored text of a state. -/
def TaskState.value : TaskState → String
  | .new => "NEW"
  | .planning => "PLANNING"
  | .ready => "READY"
  | .claimed => "CLAIMED"
  | .gating => "GATING"
  | .executing => "EXECUTING"
  | .verifying => "VERIFYING"
  | .repairing => "REPAIRING"
  | .reviewPending => "REVIEW_PENDING"
  | .changesRequired => "CHANGES_REQUIRED"
  | .blocked => "BLOCKED"
  | .recoveryNeeded => "RECOVERY_NEEDED"
  | .complete => "COMPLETE"
  | .failed => "FAILED"
  | .cancelled => "CANCELLED"

/-- `RecoveryClassification` (`domain.py:33-39`). -/
inductive RecoveryClassification where
  | noMutation
  | partialMutation
  | mutationCompleteUnverified
  | completeVerified
  | unexpectedDrift
  | unknown
  deriving DecidableEq, Repr

end AConductor

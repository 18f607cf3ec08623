import AConductor.Execution.Record

/-!
# Cockpit: the projection of a lane

Observations, lane inputs and `project_cockpit_lane`
(`src/a_conductor/cockpit_projection.py:165-947`): how one lane of the cockpit is classified from
what was observed of its execution, lease, gates and activity. Instants and the floats of a
countdown are parameters.
-/

namespace AConductor.Cockpit

open Execution

/-- What a projection raises: a `CockpitProjectionError` by its text, a `ValueError`, or an
    `OverflowError` of an instant. -/
inductive CockpitFault where
  | projection (text : String)
  | valueError
  | overflowError
  deriving DecidableEq, Repr

/-- `CockpitState` (`cockpit_projection.py:43-62`). -/
inductive CockpitState where
  | notDispatched
  | pendingScope
  | running
  | borrowedActive
  | waitingApproval
  | waitingCi
  | waitingGlm
  | waitingJev
  | waitingExternal
  | cooldown
  | parkedCapacity
  | blocked
  | humanRequired
  | stalledReconcile
  | terminalUnharvested
  | outcomeUnknown
  | failedVerified
  | completedVerified
  | unknown
  deriving DecidableEq, Repr

/-- `_ACTIVITY_STATES` (`cockpit_projection.py:131-145`). -/
inductive ActivityState where
  | running
  | borrowedActive
  | waitingApproval
  | waitingCi
  | waitingGlm
  | waitingJev
  | waitingExternal
  | cooldown
  | parkedCapacity
  | blocked
  | humanRequired
  deriving DecidableEq, Repr

/-- The replay-safety texts (`cockpit_projection.py:110-115` and the default of the field). -/
inductive ReplaySafety where
  | activeExecutionNeverDuplicate
  | recoverPointerBeforeRedispatch
  | reconcileBeforeAnyRedispatch
  | settledNoReplay
  | noExecutionInFlight
  | parkedClaimNeverDuplicate
  | recoverEvidenceBeforeAnyRedispatch
  deriving DecidableEq, Repr

/-- `CockpitGateStatus` (`cockpit_projection.py:65-69`). -/
inductive CockpitGateStatus where
  | unknown
  | notRequired
  | proven
  | refuted
  deriving DecidableEq, Repr

def portUnavailable : String := "PORT_UNAVAILABLE"

def recordNotFound : String := "RECORD_NOT_FOUND"

def notDeclared : String := "NOT_DECLARED"

def durableExecutionRecord : String := "DURABLE_EXECUTION_RECORD"

def durableGateRecord : String := "DURABLE_GATE_RECORD"

def durableMonitorRecord : String := "DURABLE_MONITOR_RECORD"

def controlCenterSnapshot : String := "CONTROL_CENTER_SNAPSHOT"

/-- `CockpitLaneIdentity` (`cockpit_projection.py:163-189`). -/
structure CockpitLaneIdentity where
  workOrderRef : String
  taskRef : String
  topology : Option String := none
  lane : Option String := none
  executor : Option String := none
  provider : Option String := none
  harness : Option String := none
  authorityRepo : Option String := none
  executionRepo : Option String := none
  worktree : Option String := none
  branch : Option String := none
  expectedHead : Option String := none
  executionId : Option String := none
  leaseId : Option String := none
  provenance : String := "WORK_ORDER_DECLARED"
  deriving DecidableEq, Repr

/-- The constructor call. -/
def CockpitLaneIdentity.make (i : CockpitLaneIdentity) : Except CockpitFault CockpitLaneIdentity :=
  if Text.isBlank i.workOrderRef then .error (.projection "LANE_IDENTITY_WORK_ORDER_REF_REQUIRED")
  else if Text.isBlank i.taskRef then .error (.projection "LANE_IDENTITY_TASK_REF_REQUIRED")
  else .ok i

/-- The fields of `CockpitExecutionObservation` (`cockpit_projection.py:192-213`). -/
structure ExecutionFields where
  available : Bool := false
  provenance : Option String := none
  reason : Option String := none
  executionId : Option String := none
  jobId : Option String := none
  workOrderRef : Option String := none
  workerId : Option String := none
  backendId : Option String := none
  repoRoot : Option String := none
  branch : Option String := none
  headBefore : Option String := none
  transportState : Option TransportState := none
  executionState : Option ExecutionProcessState := none
  pid : Option Int := none
  exitCode : Option Int := none
  startedAt : Option String := none
  finishedAt : Option String := none
  updatedAt : Option String := none
  deriving DecidableEq, Repr

/-- `__post_init__` (`cockpit_projection.py:219-233`). -/
def ExecutionFields.valid (e : ExecutionFields) : Bool :=
  !e.available ||
    ((e.provenance = some durableExecutionRecord ||
        (e.provenance = some "OPERATOR_DECLARED" && e.pid.isSome)) &&
      e.executionState.isSome && e.transportState.isSome)

/-- `CockpitExecutionObservation`: fields that passed its constructor. -/
structure CockpitExecutionObservation extends ExecutionFields where
  valid : toExecutionFields.valid = true
  deriving DecidableEq, Repr

def CockpitExecutionObservation.unavailable (reason : String) : CockpitExecutionObservation :=
  ⟨{ reason := some reason }, rfl⟩

/-- The fields of `CockpitLeaseObservation` (`cockpit_projection.py:236-249`). -/
structure LeaseFields where
  available : Bool := false
  provenance : Option String := none
  reason : Option String := none
  leaseId : Option String := none
  workerId : Option String := none
  worktreeKey : Option String := none
  branch : Option String := none
  expectedHead : Option String := none
  health : Option String := none
  acquiredAt : Option String := none
  heartbeatAt : Option String := none
  expiresAt : Option String := none
  deriving DecidableEq, Repr

def LeaseFields.valid (l : LeaseFields) : Bool :=
  !l.available || l.provenance.any fun p => !Text.isBlank p

/-- `CockpitLeaseObservation`. -/
structure CockpitLeaseObservation extends LeaseFields where
  valid : toLeaseFields.valid = true
  deriving DecidableEq, Repr

def CockpitLeaseObservation.unavailable (reason : String) : CockpitLeaseObservation :=
  ⟨{ reason := some reason }, rfl⟩

/-- `CockpitGateEvidence` (`cockpit_projection.py:283-294`). -/
structure CockpitGateEvidence where
  verification : CockpitGateStatus := .unknown
  review : CockpitGateStatus := .notRequired
  merge : CockpitGateStatus := .unknown
  postMain : CockpitGateStatus := .unknown
  ci : CockpitGateStatus := .unknown
  provenance : String := "OPERATOR_DECLARED"
  deriving DecidableEq, Repr

/-- `CockpitOriginObservation` (`cockpit_projection.py:297-340`), which only the display reads. -/
structure CockpitOriginObservation where
  available : Bool := false
  reason : Option String := none
  originRef : Option String := none
  observedAt : Option String := none
  executionId : Option String := none
  deriving DecidableEq, Repr

/-- The fields of `CockpitActivityObservation` (`cockpit_projection.py:378-395`). -/
structure ActivityFields where
  available : Bool := false
  provenance : Option String := none
  reason : Option String := none
  workOrderRef : Option String := none
  taskRef : Option String := none
  laneRef : Option String := none
  executionId : Option String := none
  state : Option ActivityState := none
  capacityClass : Option String := none
  observedAt : Option String := none
  nextRecheckAt : Option String := none
  countdownSeconds : Option Int := none
  activeMutationChild : Option Bool := none
  deriving DecidableEq, Repr

def capacityClasses : List String :=
  ["BASE_MUTABLE", "BORROWED_MUTABLE", "INDEPENDENT_REVIEW", "READ_ONLY"]

/-- `_TYPED_REASON_PATTERN` (`cockpit_projection.py:149`). -/
def isTypedReason (value : String) : Bool :=
  match value.toList with
  | [] => false
  | c :: cs => c.isUpper && cs.length ≤ 127 &&
      cs.all fun d => d.isUpper || d.isDigit || d ∈ ['_', ':', '-']

def present (value : Option String) : Bool := value.any fun v => !Text.isBlank v

/-- `__post_init__` (`cockpit_projection.py:401-440`). -/
def ActivityFields.valid (a : ActivityFields) : Bool :=
  !a.available ||
    (decide (a.provenance = some durableMonitorRecord) && present a.workOrderRef &&
      present a.taskRef && present a.laneRef && a.state.isSome &&
      a.capacityClass.all (fun c => c ∈ capacityClasses) && a.reason.all isTypedReason &&
      !((a.state = some .blocked || a.state = some .humanRequired) && a.reason.isNone) &&
      !((a.state = some .borrowedActive || a.state = some .parkedCapacity) &&
        a.capacityClass ≠ some "BORROWED_MUTABLE") &&
      !(a.state = some .running && a.capacityClass = some "BORROWED_MUTABLE") &&
      !((a.state = some .running || a.state = some .borrowedActive) && !present a.executionId) &&
      a.countdownSeconds.all fun n => decide (0 ≤ n))

/-- `CockpitActivityObservation`: fields that passed its constructor. -/
structure CockpitActivityObservation extends ActivityFields where
  valid : toActivityFields.valid = true
  deriving DecidableEq, Repr

def CockpitActivityObservation.unavailable (reason : String) : CockpitActivityObservation :=
  ⟨{ reason := some reason }, rfl⟩

/-- `CockpitLaneInputs` (`cockpit_projection.py:452-474`). Whether git was observed is all that is
    read of its observation. -/
structure CockpitLaneInputs where
  identity : CockpitLaneIdentity
  execution : CockpitExecutionObservation := .unavailable portUnavailable
  lease : CockpitLeaseObservation := .unavailable portUnavailable
  gitAvailable : Bool := false
  gates : CockpitGateEvidence := {}
  origin : CockpitOriginObservation := { reason := some portUnavailable }
  activity : CockpitActivityObservation := .unavailable portUnavailable
  activityCollision : Bool := false
  deriving DecidableEq, Repr

/-! ### Matching and freshness -/

/-- What `datetime.fromisoformat(text.replace("Z", "+00:00"))` gives: a `ValueError`, an instant
    without a time zone, or one in microseconds, which may lie outside the range of UTC
    instants. -/
inductive Instant where
  | invalid
  | naive
  | aware (micros : Int) (representable : Bool)
  deriving DecidableEq, Repr

/-- Instants, and `int(n - (b - a).total_seconds())` of a difference in microseconds. -/
structure Clock where
  parse : String → Instant
  secondsLeft : Int → Int → Int

def anchorMismatch (observed declared : Option String) : Bool :=
  observed.isSome && declared.isSome && decide (observed ≠ declared)

def executionMatches (identity : CockpitLaneIdentity) (e : ExecutionFields) : Bool :=
  !(anchorMismatch e.repoRoot identity.worktree || anchorMismatch e.branch identity.branch ||
    anchorMismatch e.headBefore identity.expectedHead)

def leaseMatches (identity : CockpitLaneIdentity) (l : LeaseFields) : Bool :=
  !(anchorMismatch l.worktreeKey identity.worktree || anchorMismatch l.branch identity.branch ||
    anchorMismatch l.expectedHead identity.expectedHead)

/-- `_activity_matches` (`cockpit_projection.py:518-532`). -/
def activityMatches (identity : CockpitLaneIdentity) (a : ActivityFields) (e : ExecutionFields) :
    Bool :=
  a.available && decide (a.workOrderRef = some identity.workOrderRef) &&
    decide (a.taskRef = some identity.taskRef) && decide (a.laneRef = identity.lane) &&
    (!e.available || (a.executionId.any (· ≠ "") && decide (a.executionId = e.executionId)))

/-- `astimezone(timezone.utc)` of an instant that has a time zone; `none` is the answer `False`. -/
def utc : Instant → Except CockpitFault (Option Int)
  | .invalid => .ok none
  | .naive => .ok none
  | .aware micros representable => if representable then .ok (some micros) else .error .overflowError

/-- `_activity_fresh` (`cockpit_projection.py:535-553`). -/
def activityFresh (clock : Clock) (a : ActivityFields) (generatedAt : Option String) :
    Except CockpitFault Bool :=
  match a.observedAt, generatedAt with
  | some observed, some generated =>
    if Text.isBlank observed then .ok false
    else do
      match ← utc (clock.parse observed) with
      | none => pure false
      | some observedMicros =>
        match ← utc (clock.parse generated) with
        | none => pure false
        | some generatedMicros =>
          pure (decide (observedMicros ≤ generatedMicros ∧
            generatedMicros - observedMicros ≤ 30 * 60 * 1000000))
  | _, _ => .ok false

/-- `_activity_countdown_seconds` (`cockpit_projection.py:556-591`). -/
def activityCountdownSeconds (clock : Clock) (a : ActivityFields) (generatedAt : Option String) :
    Option Int := do
  let generated ← generatedAt.filter (· ≠ "")
  let .aware generatedMicros _ := clock.parse generated | none
  match a.nextRecheckAt, a.countdownSeconds, a.observedAt with
  | some recheck, _, _ =>
    let .aware recheckMicros _ := clock.parse recheck | none
    some (max 0 (clock.secondsLeft 0 (generatedMicros - recheckMicros)))
  | none, some countdown, some observed =>
    let .aware observedMicros _ := clock.parse observed | none
    some (max 0 (clock.secondsLeft countdown (generatedMicros - observedMicros)))
  | _, _, _ => none

/-! ### The verdict -/

/-- What a lane is found to be. -/
structure Verdict where
  state : CockpitState
  stateMarkers : List String
  blockerCode : Option String
  replaySafety : ReplaySafety := .recoverEvidenceBeforeAnyRedispatch
  nextSafeAction : String := "RECOVER_READ_AUTHORITIES_THEN_REPROJECT"
  deriving DecidableEq, Repr

/-- A lane whose evidence cannot be trusted. -/
def untrusted (blocker action : String) : Verdict :=
  { state := .unknown, stateMarkers := ["UNKNOWN", "EVIDENCE_INCOMPLETE"]
    blockerCode := some blocker, nextSafeAction := action }

/-- `_evaluate_gates` (`cockpit_projection.py:606-622`): the code of what is missing. -/
def evaluateGates (g : CockpitGateEvidence) : Option String :=
  let gate (status : CockpitGateStatus) (missing refuted : String) : Option String :=
    match status with
    | .refuted => some refuted
    | .notRequired => none
    | .proven => none
    | .unknown => some missing
  (gate g.verification "MISSING_VERIFICATION_PROOF" "VERIFICATION_REFUTED").or
    ((gate g.review "MISSING_REVIEW_PROOF" "REVIEW_REFUTED").or
    ((gate g.merge "MISSING_MERGE_PROOF" "MERGE_REFUTED").or
    ((gate g.postMain "MISSING_POST_MAIN_PROOF" "POST_MAIN_REFUTED").or
    ((gate g.ci "MISSING_CI_PROOF" "CI_REFUTED").or
    (if g.provenance ≠ durableGateRecord then some "GATE_PROVENANCE_NOT_AUTHORITATIVE"
      else none)))))

/-- `CockpitState(activity.state)` with the next action (`cockpit_projection.py:722-746`). -/
def ActivityState.shown : ActivityState → CockpitState × String
  | .running => (.running, "AWAIT_NEXT_OBSERVATION")
  | .borrowedActive => (.borrowedActive, "CONTINUE_BOUNDED_MICROSTEP_UNDER_EXISTING_CLAIM")
  | .waitingApproval => (.waitingApproval, "AWAIT_APPROVAL_THEN_REPROJECT")
  | .waitingCi => (.waitingCi, "AWAIT_CI_RESULT_THEN_REPROJECT")
  | .waitingGlm => (.waitingGlm, "AWAIT_GLM_CHILD_THEN_RECONCILE")
  | .waitingJev => (.waitingJev, "AWAIT_JEV_ADVISORY_THEN_REPROJECT")
  | .waitingExternal => (.waitingExternal, "AWAIT_EXTERNAL_DEPENDENCY_THEN_REPROJECT")
  | .cooldown => (.cooldown, "AWAIT_DECLARED_COOLDOWN_THEN_RECHECK")
  | .parkedCapacity => (.parkedCapacity, "AWAIT_ELASTIC_CAPACITY_THEN_RESUME_EXISTING_CLAIM")
  | .blocked => (.blocked, "RECONCILE_TYPED_BLOCKER_THEN_REPROJECT")
  | .humanRequired => (.humanRequired, "AWAIT_EXPLICIT_HUMAN_DECISION")

/-- The lane of an activity record that is accepted (`cockpit_projection.py:721-765`). -/
def activityVerdict (base : List String) (a : ActivityFields) (executing : Bool)
    (state : ActivityState) : Verdict :=
  if (state = .running ∨ state = .borrowedActive) ∧ executing = false then
    untrusted "ACTIVE_EXECUTION_UNPROVEN" "RECOVER_ACTIVE_EXECUTION_THEN_REPROJECT"
  else
    { state := state.shown.1
      stateMarkers := base ++ ["DURABLE_ACTIVITY"] ++ (a.capacityClass.filter (· ≠ "")).toList
      blockerCode := if state = .blocked ∨ state = .humanRequired then a.reason else none
      replaySafety := if state = .parkedCapacity then .parkedClaimNeverDuplicate
        else .activeExecutionNeverDuplicate
      nextSafeAction := state.shown.2 }

/-- The lane without an execution (`cockpit_projection.py:767-795`). -/
def absentVerdict (base : List String) (identity : CockpitLaneIdentity) (e : ExecutionFields)
    (l : LeaseFields) : Verdict :=
  if e.reason = some recordNotFound then
    if l.available && decide (l.health = some "ACTIVE") && leaseMatches identity l then
      { state := .pendingScope, stateMarkers := base, blockerCode := none
        replaySafety := .noExecutionInFlight
        nextSafeAction := "DECLARE_MUTABLE_SCOPE_THEN_DISPATCH_UNDER_EXISTING_AUTHORITY" }
    else
      { state := .notDispatched, stateMarkers := base, blockerCode := none
        replaySafety := .noExecutionInFlight
        nextSafeAction := "DISPATCH_UNDER_EXISTING_AUTHORITY_WHEN_READY" }
  else
    { state := .unknown, stateMarkers := ["UNKNOWN", "EVIDENCE_INCOMPLETE"]
      blockerCode := some "EXECUTION_EVIDENCE_UNAVAILABLE" }

/-- The lane of an execution that runs (`cockpit_projection.py:840-862`). -/
def runningVerdict (base : List String) (transportState : Option TransportState) : Verdict :=
  if transportState = some .lost then
    { state := .stalledReconcile, stateMarkers := base, blockerCode := some "TRANSPORT_LOST"
      replaySafety := .reconcileBeforeAnyRedispatch
      nextSafeAction := "RECOVER_TRANSPORT_STATE_THEN_RECONCILE" }
  else
    { state := .running
      stateMarkers := base ++
        if transportState = some .degraded ∨ transportState = some .unavailable then
          ["DEGRADED_OBSERVABILITY"] else []
      blockerCode := none, replaySafety := .activeExecutionNeverDuplicate
      nextSafeAction := "AWAIT_NEXT_OBSERVATION" }

/-- The lane of an execution that succeeded (`cockpit_projection.py:894-921`). -/
def succeededVerdict (base : List String) (e : ExecutionFields) (gates : CockpitGateEvidence) :
    Verdict :=
  if e.exitCode ≠ some 0 ∨ e.finishedAt = none then
    { state := .outcomeUnknown, stateMarkers := base
      blockerCode := some "SUCCESS_WITHOUT_TERMINAL_PROOF"
      replaySafety := .recoverPointerBeforeRedispatch
      nextSafeAction := "RECOVER_RESULT_EVIDENCE_BEFORE_TRUST" }
  else
    match evaluateGates gates with
    | none =>
      { state := .completedVerified, stateMarkers := base, blockerCode := none
        replaySafety := .settledNoReplay, nextSafeAction := "RECORD_DURABLE_CHECKPOINT" }
    | some blocker =>
      { state := .terminalUnharvested, stateMarkers := base, blockerCode := some blocker
        replaySafety := .reconcileBeforeAnyRedispatch
        nextSafeAction := "COMPLETE_MISSING_GATE_PROOFS" }

/-- The lane of an execution that failed (`cockpit_projection.py:923-940`). -/
def failedVerdict (base : List String) (e : ExecutionFields) : Verdict :=
  if e.exitCode = none ∨ e.finishedAt = none then
    { state := .outcomeUnknown, stateMarkers := base
      blockerCode := some "FAILURE_WITHOUT_TERMINAL_PROOF"
      replaySafety := .recoverPointerBeforeRedispatch
      nextSafeAction := "RECOVER_RESULT_EVIDENCE_BEFORE_TRUST" }
  else
    { state := .failedVerified, stateMarkers := base, blockerCode := none
      replaySafety := .settledNoReplay
      nextSafeAction := "REVIEW_FAILURE_EVIDENCE_UNDER_EXISTING_AUTHORITY" }

/-- The lane of an execution by its state (`cockpit_projection.py:797-947`). -/
def executionVerdict (base : List String) (e : ExecutionFields) (gates : CockpitGateEvidence) :
    Verdict :=
  match e.executionState with
  | some .processExitedUnknownResult =>
    { state := .outcomeUnknown, stateMarkers := base
      blockerCode := some "PROCESS_EXITED_UNKNOWN_RESULT"
      replaySafety := .recoverPointerBeforeRedispatch
      nextSafeAction := "RECOVER_POINTER_PROCESS_RESULT_GIT_BEFORE_REDISPATCH" }
  | some .recoveryRequired =>
    { state := .stalledReconcile, stateMarkers := base
      blockerCode := some "EXECUTION_RECOVERY_REQUIRED"
      replaySafety := .reconcileBeforeAnyRedispatch
      nextSafeAction := "RECONCILE_EXECUTION_THROUGH_EXISTING_RECOVERY_AUTHORITY" }
  | some .queued | some .starting =>
    { state := .waitingExternal, stateMarkers := base, blockerCode := none
      replaySafety := .activeExecutionNeverDuplicate
      nextSafeAction := "AWAIT_EXTERNAL_EXECUTION_PROGRESS" }
  | some .running | some .processStillRunning => runningVerdict base e.transportState
  | some .verificationRequired =>
    { state := .terminalUnharvested, stateMarkers := base
      blockerCode := some "VERIFICATION_PROOF_REQUIRED"
      replaySafety := .reconcileBeforeAnyRedispatch
      nextSafeAction := "COMPLETE_VERIFICATION_UNDER_EXISTING_AUTHORITY" }
  | some .partialResult =>
    { state := .outcomeUnknown, stateMarkers := base
      blockerCode := some "PARTIAL_OUTCOME_NOT_VERIFIED"
      replaySafety := .recoverPointerBeforeRedispatch
      nextSafeAction := "RECOVER_RESULT_EVIDENCE_BEFORE_TRUST" }
  | some .cancelled =>
    { state := .terminalUnharvested, stateMarkers := base, blockerCode := some "EXECUTION_CANCELLED"
      replaySafety := .reconcileBeforeAnyRedispatch
      nextSafeAction := "RECORD_CANCELLED_OUTCOME_UNDER_EXISTING_AUTHORITY" }
  | some .succeeded => succeededVerdict base e gates
  | some .failed => failedVerdict base e
  | none =>
    { state := .unknown, stateMarkers := ["UNKNOWN", "EVIDENCE_INCOMPLETE"]
      blockerCode := some "EXECUTION_STATE_UNSUPPORTED" }

/-- Whether the activity record of a lane is accepted (`cockpit_projection.py:634-648`). -/
def activityAccepted (clock : Clock) (inputs : CockpitLaneInputs) (generatedAt : Option String) :
    Except CockpitFault Bool :=
  let a := inputs.activity.toActivityFields
  let e := inputs.execution.toExecutionFields
  if activityMatches inputs.identity a e then do
    let fresh ← activityFresh clock a generatedAt
    pure (fresh && !(e.available && (decide (e.transportState ≠ some .connected) ||
      !(decide (e.executionState = some .running) ||
        decide (e.executionState = some .processStillRunning)))))
  else .ok false

/-- The early returns of `project_cockpit_lane` in their order (`cockpit_projection.py:676-947`). -/
def laneVerdict (inputs : CockpitLaneInputs) (accepted : Bool) : Except CockpitFault Verdict :=
  let e := inputs.execution.toExecutionFields
  let base := if inputs.lease.available && inputs.gitAvailable then [] else ["EVIDENCE_INCOMPLETE"]
  if inputs.activityCollision then
    .ok { state := .unknown, stateMarkers := base ++ ["UNKNOWN", "ACTIVITY_LANE_COLLISION"]
          blockerCode := some "ACTIVITY_LANE_COLLISION"
          nextSafeAction := "RECONCILE_ACTIVITY_LANE_COLLISION_THEN_REPROJECT" }
  else if e.available && decide (e.provenance ≠ some durableExecutionRecord) then
    .ok (untrusted "EXECUTION_PROVENANCE_NOT_AUTHORITATIVE"
      "RECONCILE_EXECUTION_PROVENANCE_THEN_REPROJECT")
  else if e.available && !executionMatches inputs.identity e then
    .ok (untrusted "EXECUTION_PROVENANCE_MISMATCH" "RECONCILE_EXECUTION_IDENTITY_BEFORE_TRUST")
  else if inputs.lease.available && !leaseMatches inputs.identity inputs.lease.toLeaseFields then
    .ok (untrusted "LEASE_PROVENANCE_MISMATCH" "RECONCILE_LEASE_IDENTITY_BEFORE_TRUST")
  else if inputs.activity.available && !accepted && !e.available then
    .ok (untrusted "ACTIVITY_EVIDENCE_REJECTED" "RECONCILE_ACTIVITY_EVIDENCE_THEN_REPROJECT")
  else if accepted then
    match inputs.activity.state with
    | none => .error .valueError
    | some state => .ok (activityVerdict base inputs.activity.toActivityFields e.available state)
  else if !e.available then
    .ok (absentVerdict base inputs.identity e inputs.lease.toLeaseFields)
  else .ok (executionVerdict base e inputs.gates)

/-! ### The projection -/

/-- `CockpitProcessIdentity` (`cockpit_projection.py:443-449`). -/
structure CockpitProcessIdentity where
  pid : Option Int := none
  authoritative : Bool := false
  provenance : Option String := none
  deriving DecidableEq, Repr

/-- `_process_identity` (`cockpit_projection.py:594-603`). -/
def processIdentity (identity : CockpitLaneIdentity) (e : ExecutionFields) :
    CockpitProcessIdentity where
  pid := if e.available then e.pid else none
  authoritative := e.available && e.pid.isSome &&
    decide (e.provenance = some durableExecutionRecord) && executionMatches identity e
  provenance := if e.available then e.provenance else none

/-- `CockpitLaneProjection` (`cockpit_projection.py:484-512`) without the display of the origin and
    the fields that are constant. -/
structure CockpitLaneProjection extends Verdict where
  identity : CockpitLaneIdentity
  executionId : Option String
  jobId : Option String
  processIdentity : CockpitProcessIdentity
  transportState : Option TransportState
  lastActivity : Option String
  lastMeaningfulProgress : Option String
  capacityClass : Option String
  waitReason : Option String
  nextRecheckAt : Option String
  countdownSeconds : Option Int
  activeMutationChild : Option Bool
  gates : CockpitGateEvidence
  deriving DecidableEq, Repr

/-- `project_cockpit_lane` (`cockpit_projection.py:625-947`). -/
def projectCockpitLane (clock : Clock) (inputs : CockpitLaneInputs) (generatedAt : Option String) :
    Except CockpitFault CockpitLaneProjection := do
  let accepted ← activityAccepted clock inputs generatedAt
  let verdict ← laneVerdict inputs accepted
  let e := inputs.execution.toExecutionFields
  let a := if accepted then inputs.activity.toActivityFields else {}
  return { verdict with
    identity := inputs.identity
    executionId := if e.available then e.executionId else none
    jobId := if e.available then e.jobId else none
    processIdentity := processIdentity inputs.identity e
    transportState := if e.available then e.transportState else none
    lastActivity := (a.observedAt.filter (· ≠ "")).or
      (if e.available then (e.updatedAt.filter (· ≠ "")).or e.startedAt else none)
    lastMeaningfulProgress := if e.available then e.updatedAt else none
    capacityClass := a.capacityClass
    waitReason := a.reason
    nextRecheckAt := a.nextRecheckAt
    countdownSeconds := if accepted then activityCountdownSeconds clock a generatedAt else none
    activeMutationChild := a.activeMutationChild
    gates := inputs.gates }

end AConductor.Cockpit

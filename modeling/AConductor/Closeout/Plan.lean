import AConductor.Job.State
import AConductor.WorkerLease.Basic

/-!
# Closing a goal: the plan

`src/a_conductor/goal_closeout.py:30-624`: the references of the checkpoints, the facts a
closeout is planned from with their constructors, and the plan, which names the one next stage.
The checks of Python types are the types of the fields, and a set of references is a list.
-/

namespace AConductor.Closeout

open Job Lease Except

/-- What a closeout call can raise: a `ValueError` with its text, one of the errors of the
    closeout with its code, and what the two stores raise. -/
inductive CloseoutFault where
  | valueError (text : String)
  | assemblyError (code : String)
  | evidenceError (code : String)
  | job (fault : JobFault)
  | lease (fault : LeaseFault)
  | portFailed
  deriving DecidableEq, Repr

/-- `_text` (`goal_closeout.py:48-51`). -/
def closeoutText (value field : String) : Except CloseoutFault String :=
  if Text.isBlank value then .error (.valueError (field ++ " is invalid"))
  else .ok (Text.strip value)

/-- `[0-9a-fA-F]`. -/
def isHexDigit (c : Char) : Bool :=
  c.isDigit || ('a' ≤ c && c ≤ 'f') || ('A' ≤ c && c ≤ 'F')

/-- `_SHA_RE` (`goal_closeout.py:39`). -/
def isSha (value : String) : Bool :=
  7 ≤ value.length && value.length ≤ 64 && value.toList.all isHexDigit

/-- `_optional_sha` (`goal_closeout.py:54-59`) of a given value; on hexadecimal digits
    `casefold` lowers the ASCII letters. -/
def closeoutSha (value field : String) : Except CloseoutFault String :=
  if isSha value then .ok value.toLower else .error (.valueError (field ++ " is invalid"))

/-- `CloseoutDecision` (`goal_closeout.py:62-71`). -/
inductive CloseoutDecision where
  | verifyCheckpointRequired
  | foldRequired
  | releaseRequired
  | completeAllowed
  | alreadyComplete
  | block
  | recoveryRequired
  | reloadReplan
  | refused
  deriving DecidableEq, Repr

/-- `CloseoutStage` (`goal_closeout.py:74-79`). -/
inductive CloseoutStage where
  | verifyCheckpoint
  | fold
  | releaseLease
  | complete
  | done
  deriving DecidableEq, Repr

/-- `_STAGE_REF_SEGMENT` (`goal_closeout.py:93-99`). -/
def CloseoutStage.segment : CloseoutStage → String
  | .verifyCheckpoint => "verify"
  | .fold => "fold"
  | .releaseLease => "lease-release"
  | .complete => "complete"
  | .done => "done"

/-- `FoldRequirement` (`goal_closeout.py:82-84`). -/
inductive FoldRequirement where
  | required
  | notRequired
  deriving DecidableEq, Repr

/-- The keys a reference is bound to besides task and candidate. -/
structure RefKeys where
  attemptId : Option String := none
  mergeKey : Option String := none
  foldKey : Option String := none
  leaseId : Option String := none
  deriving DecidableEq, Repr

/-- `closeout_checkpoint_ref` (`goal_closeout.py:102-141`). -/
def closeoutCheckpointRef (stage : CloseoutStage) (taskId candidateSha : String)
    (keys : RefKeys) : Except CloseoutFault String := do
  let task ← closeoutText taskId "task_id"
  let sha ← closeoutSha candidateSha "candidate_sha"
  let ref := "closeout:" ++ stage.segment ++ ":" ++ task ++ ":" ++ sha
  match stage with
  | .verifyCheckpoint =>
    match keys.attemptId with
    | none => .error (.valueError "attempt_id is required for verify checkpoints")
    | some attemptId => return ref ++ ":" ++ (← closeoutText attemptId "attempt_id")
  | .fold =>
    match keys.mergeKey, keys.foldKey with
    | some mergeKey, some foldKey =>
      let mergeKey ← closeoutText mergeKey "merge_key"
      let foldKey ← closeoutText foldKey "fold_key"
      return ref ++ ":" ++ mergeKey ++ ":" ++ foldKey
    | _, _ =>
      .error (.valueError "merge_key and fold_key are required for fold checkpoints")
  | .releaseLease =>
    match keys.leaseId with
    | none => .error (.valueError "lease_id is required for lease-release checkpoints")
    | some leaseId => return ref ++ ":" ++ (← closeoutText leaseId "lease_id")
  | .complete => return ref
  | .done => return ref

/-! ### Facts -/

/-- `ContinuityClassification` (`src/a_conductor/continuity_guard.py:36-45`). -/
inductive ContinuityClassification where
  | fresh
  | staleLocalCheckout
  | headDrift
  | worktreeDirtyOrUnknown
  | claimConflict
  | ssotDrift
  | mergedNotFolded
  | reconcileRequired
  | unknown
  deriving DecidableEq, Repr

def ContinuityClassification.value : ContinuityClassification → String
  | .fresh => "FRESH"
  | .staleLocalCheckout => "STALE_LOCAL_CHECKOUT"
  | .headDrift => "HEAD_DRIFT"
  | .worktreeDirtyOrUnknown => "WORKTREE_DIRTY_OR_UNKNOWN"
  | .claimConflict => "CLAIM_CONFLICT"
  | .ssotDrift => "SSOT_DRIFT"
  | .mergedNotFolded => "MERGED_NOT_FOLDED"
  | .reconcileRequired => "RECONCILE_REQUIRED"
  | .unknown => "UNKNOWN"

/-- `VerificationEvidence` (`goal_closeout.py:147-168`). -/
structure VerificationEvidence where
  taskId : String
  attemptId : String
  ok : Bool
  checkpointRef : Option String
  mutationVersion : Option Int
  checkpointVersion : Option Int
  deriving DecidableEq, Repr

/-- `VerificationEvidence.__post_init__` (`goal_closeout.py:157-168`). -/
def VerificationEvidence.make (v : VerificationEvidence) :
    Except CloseoutFault VerificationEvidence := do
  let taskId ← closeoutText v.taskId "task_id"
  let attemptId ← closeoutText v.attemptId "attempt_id"
  rejectIf (v.mutationVersion.any (· < 1)) (.valueError "mutation_version is invalid")
  rejectIf (v.checkpointVersion.any (· < 1)) (.valueError "checkpoint_version is invalid")
  let checkpointRef ← v.checkpointRef.mapM fun ref => closeoutText ref "checkpoint_ref"
  return { v with taskId, attemptId, checkpointRef }

/-- `ReviewEvidence` (`goal_closeout.py:171-182`). -/
structure ReviewEvidence where
  required : Bool
  passed : Option Bool
  reviewedSha : Option String
  deriving DecidableEq, Repr

/-- `ReviewEvidence.__post_init__` (`goal_closeout.py:177-182`). -/
def ReviewEvidence.make (r : ReviewEvidence) : Except CloseoutFault ReviewEvidence := do
  let reviewedSha ← r.reviewedSha.mapM fun sha => closeoutSha sha "reviewed_sha"
  return { r with reviewedSha }

/-- `_TEXT_RE` (`goal_closeout.py:38`). -/
def isPlainText (value : String) : Bool :=
  1 ≤ value.length && value.length ≤ 256 && value.toList.all fun c =>
    c.isAlphanum || c = '.' || c = '_' || c = ':' || c = '/' || c = '-'

/-- `MergeEvidence` (`goal_closeout.py:185-216`). -/
structure MergeEvidence where
  required : Bool
  merged : Option Bool
  mergeCommit : Option String
  acceptedCandidateSha : Option String
  acceptedCandidateAncestor : Option Bool
  postMainRequired : Bool
  postMainRunId : Option String
  postMainSuccess : Option Bool
  postMainMergeCommit : Option String
  deriving DecidableEq, Repr

/-- `MergeEvidence.__post_init__` (`goal_closeout.py:197-216`). -/
def MergeEvidence.make (m : MergeEvidence) : Except CloseoutFault MergeEvidence := do
  rejectIf (m.mergeCommit.any fun value => !isPlainText value)
    (.valueError "merge_commit is invalid")
  rejectIf (m.postMainMergeCommit.any fun value => !isPlainText value)
    (.valueError "post_main_merge_commit is invalid")
  let acceptedCandidateSha ← m.acceptedCandidateSha.mapM fun sha =>
    closeoutSha sha "accepted_candidate_sha"
  let postMainRunId ← m.postMainRunId.mapM fun id => closeoutText id "post_main_run_id"
  return { m with acceptedCandidateSha, postMainRunId }

/-- `FoldEvidence` (`goal_closeout.py:219-235`); its constructor checks types only. -/
structure FoldEvidence where
  requirement : FoldRequirement
  notRequiredReason : Option String
  completed : Option Bool
  boundTaskId : Option String
  boundMergeCommit : Option String
  deriving DecidableEq, Repr

/-- The states of `LeaseEvidence` (`goal_closeout.py:248`). -/
inductive CloseoutLeaseState where
  | active
  | released
  | stale
  | quarantined
  | unknown
  deriving DecidableEq, Repr

/-- `LeaseEvidence` (`goal_closeout.py:238-253`). -/
structure LeaseEvidence where
  leaseId : Option String
  state : Option CloseoutLeaseState
  ownerOk : Bool
  deriving DecidableEq, Repr

/-- The state of an upper-case text. -/
def CloseoutLeaseState.ofText? (text : String) : Option CloseoutLeaseState :=
  if text = "ACTIVE" then some .active
  else if text = "RELEASED" then some .released
  else if text = "STALE" then some .stale
  else if text = "QUARANTINED" then some .quarantined
  else if text = "UNKNOWN" then some .unknown
  else none

/-- `LeaseEvidence.__post_init__` (`goal_closeout.py:244-253`); `upper` is `str.upper`. -/
def LeaseEvidence.make (upper : String → String) (leaseId state : Option String)
    (ownerOk : Bool) : Except CloseoutFault LeaseEvidence := do
  let leaseId ← leaseId.mapM fun id => closeoutText id "lease_id"
  let state ← state.mapM fun text => do
    let text ← closeoutText text "state"
    match CloseoutLeaseState.ofText? (upper text) with
    | some state => .ok state
    | none => .error (.valueError "state is invalid")
  return { leaseId, state, ownerOk }

/-- `OwnershipEvidence` (`goal_closeout.py:256-265`). -/
structure OwnershipEvidence where
  known : Bool
  conflicting : Bool
  transitionInProgress : Bool
  deriving DecidableEq, Repr

/-- `GoalCloseoutFacts` (`goal_closeout.py:268-311`). -/
structure GoalCloseoutFacts where
  jobId : String
  taskId : String
  attemptId : String
  state : TaskState
  version : Int
  verification : VerificationEvidence
  blockingFindings : List String
  continuity : ContinuityClassification
  currentCandidateSha : Option String
  review : ReviewEvidence
  merge : MergeEvidence
  fold : FoldEvidence
  lease : LeaseEvidence
  ownership : OwnershipEvidence
  completedCloseoutRefs : List String
  deriving DecidableEq, Repr

/-- `GoalCloseoutFacts.__post_init__` (`goal_closeout.py:286-311`): the texts are stripped,
    the references among them. -/
def GoalCloseoutFacts.make (f : GoalCloseoutFacts) : Except CloseoutFault GoalCloseoutFacts := do
  let jobId ← closeoutText f.jobId "job_id"
  let taskId ← closeoutText f.taskId "task_id"
  let attemptId ← closeoutText f.attemptId "attempt_id"
  rejectIf (f.version < 1) (.valueError "version is invalid")
  let currentCandidateSha ← f.currentCandidateSha.mapM fun sha =>
    closeoutSha sha "current_candidate_sha"
  let blockingFindings ← f.blockingFindings.mapM fun finding => closeoutText finding "finding"
  let completedCloseoutRefs ← f.completedCloseoutRefs.mapM fun ref => closeoutText ref "ref"
  return { f with
    jobId, taskId, attemptId, currentCandidateSha, blockingFindings, completedCloseoutRefs }

/-- `GoalCloseoutFinding` (`goal_closeout.py:314-323`); the detail is cut. -/
structure GoalCloseoutFinding where
  code : String
  detail : String := ""
  deriving DecidableEq, Repr

/-- `text[:n]`. -/
def cutText (n : Nat) (text : String) : String := String.ofList (text.toList.take n)

def closeoutFinding (code detail : String) : GoalCloseoutFinding := ⟨code, cutText 256 detail⟩

/-- `GoalCloseoutPlan` (`goal_closeout.py:326-331`). -/
structure GoalCloseoutPlan where
  decision : CloseoutDecision
  stage : CloseoutStage
  findings : List GoalCloseoutFinding
  checkpointRef : Option String
  deriving DecidableEq, Repr

/-- `_verify_ref` (`goal_closeout.py:333-339`). -/
def verifyRef (f : GoalCloseoutFacts) : Except CloseoutFault (Option String) :=
  f.currentCandidateSha.mapM fun sha =>
    closeoutCheckpointRef .verifyCheckpoint f.taskId sha { attemptId := some f.attemptId }

/-- `_fold_ref` (`goal_closeout.py:342-350`). -/
def foldRef (f : GoalCloseoutFacts) : Except CloseoutFault (Option String) :=
  f.currentCandidateSha.mapM fun sha =>
    closeoutCheckpointRef .fold f.taskId sha
      { mergeKey := if f.merge.required then f.merge.mergeCommit else some "nomerge"
        foldKey := some "required" }

/-- `_release_ref` (`goal_closeout.py:353-359`). -/
def releaseRef (f : GoalCloseoutFacts) : Except CloseoutFault (Option String) :=
  match f.lease.leaseId with
  | none => .ok none
  | some leaseId =>
    f.currentCandidateSha.mapM fun sha =>
      closeoutCheckpointRef .releaseLease f.taskId sha { leaseId := some leaseId }

/-- `_complete_ref` (`goal_closeout.py:362-367`). -/
def completeRef (f : GoalCloseoutFacts) : Except CloseoutFault (Option String) :=
  f.currentCandidateSha.mapM fun sha => closeoutCheckpointRef .complete f.taskId sha {}

/-! ### The plan -/

/-- How the planning ends before every obligation is met: it raises, or it has its plan. -/
inductive PlanStop where
  | raised (fault : CloseoutFault)
  | planned (plan : GoalCloseoutPlan)
  deriving DecidableEq, Repr

abbrev Gate := Except PlanStop

/-- A reference that the planning computes. -/
def raising {α : Type} (x : Except CloseoutFault α) : Gate α := x.mapError .raised

/-- A plan with one finding and no effect: the job is blocked. -/
def blockedBy (stage : CloseoutStage) (code detail : String) : PlanStop :=
  .planned ⟨.block, stage, [closeoutFinding code detail], none⟩

/-- A plan that asks for recovery. -/
def recoveryFor (stage : CloseoutStage) (code detail : String) (ref : Option String) : PlanStop :=
  .planned ⟨.recoveryRequired, stage, [closeoutFinding code detail], ref⟩

/-- Terminal states (`goal_closeout.py:375-384`). -/
def terminalGate (f : GoalCloseoutFacts) : Gate Unit :=
  if f.state = .complete then .error (.planned ⟨.alreadyComplete, .done, [], none⟩)
  else if f.state = .failed ∨ f.state = .cancelled then
    .error (.planned ⟨.refused, .done, [closeoutFinding "TERMINAL_STATE" f.state.value], none⟩)
  else .ok ()

/-- The reference is given and among the completed ones. -/
def GoalCloseoutFacts.hasRef (f : GoalCloseoutFacts) (ref : Option String) : Bool :=
  ref.any (· ∈ f.completedCloseoutRefs)

/-- The binding of the verification (`goal_closeout.py:386-414`). -/
def verificationGate (f : GoalCloseoutFacts) : Gate Unit := do
  let v := f.verification
  rejectIf (v.ok = false) (blockedBy .verifyCheckpoint "VERIFY_EVIDENCE_MISSING" "")
  rejectIf (v.taskId ≠ f.taskId ∨ v.attemptId ≠ f.attemptId)
    (blockedBy .verifyCheckpoint "VERIFY_IDENTITY_MISMATCH" "")
  match v.checkpointVersion with
  | none => do
    let ref ← raising (verifyRef f)
    .error (.planned ⟨.verifyCheckpointRequired, .verifyCheckpoint, [], ref⟩)
  | some checkpointVersion => do
    rejectIf (v.mutationVersion.any (checkpointVersion < ·))
      (recoveryFor .verifyCheckpoint "MUTATION_AHEAD_OF_JOURNAL" "" none)
    let ref ← raising (verifyRef f)
    rejectIf (ref.isSome ∧ f.hasRef ref = false)
      (.planned ⟨.verifyCheckpointRequired, .verifyCheckpoint, [], ref⟩)

/-- Blocking findings and the ownership (`goal_closeout.py:416-439`). -/
def ownershipGate (f : GoalCloseoutFacts) : Gate Unit := do
  rejectIf (f.blockingFindings ≠ [])
    (blockedBy .done "BLOCKING_FINDINGS" (cutText 200 ("; ".intercalate f.blockingFindings)))
  rejectIf (f.ownership.known = false) (blockedBy .done "OWNERSHIP_UNKNOWN" "")
  rejectIf (f.ownership.conflicting = true) (blockedBy .done "OWNERSHIP_CONFLICT" "")
  rejectIf (f.ownership.transitionInProgress = true)
    (blockedBy .done "OWNERSHIP_TRANSITION_IN_PROGRESS" "")

/-- The continuity (`goal_closeout.py:441-454`). -/
def continuityGate (f : GoalCloseoutFacts) : Gate Unit := do
  rejectIf (f.continuity = .unknown) (recoveryFor .done "CONTINUITY_UNKNOWN" "" none)
  rejectIf (f.continuity ≠ .mergedNotFolded ∧ f.continuity ≠ .fresh)
    (blockedBy .done ("CONTINUITY_" ++ f.continuity.value) "")

/-- The review of the exact candidate (`goal_closeout.py:456-478`). -/
def reviewGate (f : GoalCloseoutFacts) : Gate Unit := do
  rejectIf (f.currentCandidateSha = none) (blockedBy .done "CANDIDATE_SHA_UNKNOWN" "")
  if f.review.required then
    rejectIf (f.review.passed = none) (blockedBy .done "REVIEW_NOT_PERFORMED" "")
    rejectIf (f.review.passed = some false) (blockedBy .done "REVIEW_CHANGES_REQUIRED" "")
    rejectIf (f.review.reviewedSha = none ∨ f.review.reviewedSha ≠ f.currentCandidateSha)
      (blockedBy .done "STALE_REVIEW_SHA" "")

/-- The merge and the run after it (`goal_closeout.py:480-518`). -/
def mergeGate (f : GoalCloseoutFacts) : Gate Unit := do
  let m := f.merge
  if m.required then
    rejectIf (m.merged ≠ some true ∨ m.mergeCommit = none)
      (blockedBy .done "MERGE_NOT_MERGED" "")
    rejectIf (m.acceptedCandidateAncestor ≠ some true)
      (blockedBy .done "MERGE_ANCESTRY_MISMATCH" "")
    rejectIf
      (m.acceptedCandidateSha = none ∨ m.acceptedCandidateSha ≠ f.currentCandidateSha)
      (blockedBy .done "MERGE_CANDIDATE_MISMATCH" "")
    if m.postMainRequired then
      rejectIf (m.postMainRunId = none) (blockedBy .done "POST_MAIN_MISSING" "")
      rejectIf (m.postMainSuccess = none) (blockedBy .done "POST_MAIN_PENDING" "")
      rejectIf (m.postMainSuccess = some false) (blockedBy .done "POST_MAIN_FAILED" "")
      rejectIf (m.postMainMergeCommit ≠ m.mergeCommit)
        (blockedBy .done "POST_MAIN_IDENTITY_MISMATCH" "")

/-- A fold is due (`goal_closeout.py:521-523`). -/
def GoalCloseoutFacts.foldDue (f : GoalCloseoutFacts) : Bool :=
  f.fold.requirement = .required || f.continuity = .mergedNotFolded

/-- `fold_identity_ok` (`goal_closeout.py:536-538`). -/
def GoalCloseoutFacts.foldIdentityOk (f : GoalCloseoutFacts) : Bool :=
  f.fold.boundTaskId = some f.taskId &&
    (!f.merge.required || f.fold.boundMergeCommit = f.merge.mergeCommit)

/-- The fold that is due (`goal_closeout.py:530-570`). -/
def dueFoldGate (f : GoalCloseoutFacts) : Gate Unit := do
  let ref ← raising (foldRef f)
  if f.hasRef ref then
    rejectIf (f.fold.completed ≠ some true)
      (recoveryFor .fold "FOLD_CHECKPOINT_CONTRADICTION" "" ref)
    rejectIf (f.foldIdentityOk = false)
      (recoveryFor .fold "FOLD_IDENTITY_CONTRADICTION" "" ref)
  else if f.fold.completed = some true then
    rejectIf (f.foldIdentityOk = false) (blockedBy .done "FOLD_IDENTITY_MISMATCH" "")
    .error (recoveryFor .fold "FOLD_CHECKPOINT_MISSING" "" ref)
  else
    let findings := if f.continuity = .mergedNotFolded then
      [closeoutFinding "MERGED_NOT_FOLDED" ""] else []
    .error (.planned ⟨.foldRequired, .fold, findings, ref⟩)

/-- The obligation to fold (`goal_closeout.py:520-570`). -/
def foldGate (f : GoalCloseoutFacts) : Gate Unit :=
  if f.foldDue then dueFoldGate f
  else rejectIf (Text.isBlank (f.fold.notRequiredReason.getD ""))
    (blockedBy .done "FOLD_POLICY_REQUIRED" "")

/-- The release of the lease (`goal_closeout.py:572-613`). -/
def leaseGate (f : GoalCloseoutFacts) : Gate Unit :=
  match f.lease.leaseId with
  | none => .ok ()
  | some leaseId => do
    rejectIf (f.lease.ownerOk = false) (blockedBy .done "LEASE_OWNER_MISMATCH" leaseId)
    rejectIf (f.lease.state = some .stale ∨ f.lease.state = some .unknown)
      (recoveryFor .releaseLease "LEASE_STATE_RECOVERY" leaseId none)
    rejectIf (f.lease.state = some .quarantined)
      (recoveryFor .releaseLease "LEASE_QUARANTINED" leaseId none)
    if f.lease.state = some .active then
      let ref ← raising (releaseRef f)
      rejectIf (f.hasRef ref = true)
        (recoveryFor .releaseLease "LEASE_RELEASE_CONTRADICTION" leaseId ref)
      .error (.planned ⟨.releaseRequired, .releaseLease, [], ref⟩)
    else if f.lease.state = some .released then
      let ref ← raising (releaseRef f)
      rejectIf (f.hasRef ref = false)
        (recoveryFor .releaseLease "LEASE_RELEASE_CHECKPOINT_MISSING" leaseId ref)

/-- Only a job under review completes (`goal_closeout.py:615-620`). -/
def stateGate (f : GoalCloseoutFacts) : Gate Unit :=
  rejectIf (f.state ≠ .reviewPending)
    (blockedBy .done "INVALID_CLOSEOUT_STATE" f.state.value)

/-- All obligations, in their order. -/
def obligations (f : GoalCloseoutFacts) : Gate Unit := do
  terminalGate f
  verificationGate f
  ownershipGate f
  continuityGate f
  reviewGate f
  mergeGate f
  foldGate f
  leaseGate f
  stateGate f

/-- `plan_goal_closeout` (`goal_closeout.py:370-624`). -/
def planGoalCloseout (f : GoalCloseoutFacts) : Except CloseoutFault GoalCloseoutPlan :=
  match obligations f with
  | .error (.raised fault) => .error fault
  | .error (.planned plan) => .ok plan
  | .ok () => (completeRef f).map fun ref => ⟨.completeAllowed, .complete, [], ref⟩

end AConductor.Closeout

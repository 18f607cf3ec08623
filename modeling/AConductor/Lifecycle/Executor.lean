import AConductor.Lifecycle.Basic

/-!
# Lifecycle execution and resumption

`LifecycleExecutor.execute` (`src/a_conductor/lifecycle_executor.py:107-195`) on a journal, with
the steps that the backend was given beside its answer, and `plan_lifecycle_resume`
(`src/a_conductor/lifecycle_recovery.py:65-156`).
-/

namespace AConductor.Lifecycle

open Txn

/-- `LifecycleExecutionState` (`lifecycle_executor.py:23-28`). -/
inductive LifecycleExecutionState where
  | complete
  | failed
  | refused
  | noop
  | recoveryRequired
  deriving DecidableEq, Repr

/-- `LifecycleStepResult` (`lifecycle_executor.py:31-36`). -/
structure LifecycleStepResult where
  success : Bool
  evidenceRef : Option String := none
  errorCode : Option String := none
  recoveryRequired : Bool := false
  deriving DecidableEq, Repr

/-- `LifecycleExecutionResult` (`lifecycle_executor.py:57-64`). -/
structure LifecycleExecutionResult where
  transactionId : String
  state : LifecycleExecutionState
  reasonCode : String
  completedSteps : List LifecycleStep := []
  evidenceRefs : List String := []
  failedStep : Option LifecycleStep := none
  deriving DecidableEq, Repr

/-- `_MUTATING_STEPS` (`lifecycle_executor.py:67-74`). -/
def LifecycleStep.mutating : LifecycleStep → Bool
  | .renderProfile | .startOwnedProcess | .targetedStop | .clearAssignment => true
  | _ => false

/-- How a call of the sink goes: it records, or it raises before or after the write of the
    journal has taken place. -/
inductive SinkBehaviour where
  | records
  | failsBefore (fault : JournalFault)
  | failsAfter (fault : JournalFault)
  deriving DecidableEq, Repr

/-- `checkpoint_sink.record`. -/
def SinkBehaviour.record : SinkBehaviour → LifecycleCheckpoint → JournalTxn Unit
  | .records, checkpoint => Lifecycle.record checkpoint
  | .failsBefore fault, _ => raise fault
  | .failsAfter fault, checkpoint => do
    Lifecycle.record checkpoint
    raise fault

/-- Where in a round the process can die. -/
inductive CrashPoint where
  | beforeStep
  | inStep
  | beforeCommit
  | afterCommit
  deriving DecidableEq, Repr

/-- What comes from outside in a round of the loop: the answer of the backend (`none` is an
    exception), the sink, and a crash. -/
structure Round where
  backend : Option LifecycleStepResult
  sink : SinkBehaviour
  crash : Option CrashPoint
  deriving DecidableEq, Repr

/-- The lists of `execute`, and the steps the backend was given. -/
structure Progress where
  completedSteps : List LifecycleStep := []
  evidenceRefs : List String := []
  executed : List LifecycleStep := []
  deriving DecidableEq, Repr

/-- `evidence_refs.append`, of an evidence that is not `None`. -/
def Progress.noteEvidence (p : Progress) (evidenceRef : Option String) : Progress :=
  { p with evidenceRefs := p.evidenceRefs ++ evidenceRef.toList }

/-- The result that the loop returns. -/
def Progress.result (p : Progress) (transactionId : String) (state : LifecycleExecutionState)
    (reasonCode : String) (failedStep : Option LifecycleStep) : LifecycleExecutionResult where
  transactionId := transactionId
  state := state
  reasonCode := reasonCode
  completedSteps := p.completedSteps
  evidenceRefs := p.evidenceRefs
  failedStep := failedStep

/-- An execution returns, or its process dies. -/
inductive Ending where
  | returned (result : LifecycleExecutionResult)
  | crashed
  deriving DecidableEq, Repr

/-- The result of an uncertain failure (`lifecycle_executor.py:129-144, 170-185`). -/
def Progress.uncertain (p : Progress) (transactionId : String) (step : LifecycleStep)
    (mutatingCode otherCode : String) : Ending :=
  if step.mutating then
    .returned (p.result transactionId .recoveryRequired mutatingCode (some step))
  else .returned (p.result transactionId .failed otherCode (some step))

/-- The loop of `execute` (`lifecycle_executor.py:125-187`) from a step on. -/
def executeLoop (action : LifecycleAction) (transactionId : String) (rounds : Nat → Round) :
    Nat → List LifecycleStep → Progress → LifecycleJournal →
      (Ending × Progress) × LifecycleJournal
  | _, [], p, j => ((.returned (p.result transactionId .complete "COMPLETE" none), p), j)
  | sequenceNo, step :: rest, p, j =>
    let round := rounds sequenceNo
    if round.crash = some .beforeStep then ((.crashed, p), j)
    else
      let p := { p with executed := p.executed ++ [step] }
      if round.crash = some .inStep then ((.crashed, p), j)
      else match round.backend with
      | none =>
        ((p.uncertain transactionId step "BACKEND_EXECUTION_UNCERTAIN" "BACKEND_EXECUTION_ERROR",
          p), j)
      | some result =>
        let p := p.noteEvidence result.evidenceRef
        if !result.success then
          let state := if result.recoveryRequired then .recoveryRequired else .failed
          -- an empty error code counts as none
          let reasonCode := match result.errorCode with
            | none | some "" => "STEP_FAILED"
            | some code => code
          ((.returned (p.result transactionId state reasonCode (some step)), p), j)
        else if round.crash = some .beforeCommit then ((.crashed, p), j)
        else
          let checkpoint : LifecycleCheckpoint :=
            { transactionId, sequenceNo, action, step, evidenceRef := result.evidenceRef }
          match round.sink.record checkpoint j with
          | (.error _, j) =>
            if round.crash = some .afterCommit then ((.crashed, p), j)
            else
              ((p.uncertain transactionId step "CHECKPOINT_PERSISTENCE_FAILED" "CHECKPOINT_FAILED",
                p), j)
          | (.ok (), j) =>
            if round.crash = some .afterCommit then ((.crashed, p), j)
            else
              executeLoop action transactionId rounds (sequenceNo + 1) rest
                { p with completedSteps := p.completedSteps ++ [step] } j

/-- `_non_proceed_result` (`lifecycle_executor.py:83-95`); a plan to proceed has none. -/
def nonProceedState : LifecycleDecision → Option LifecycleExecutionState
  | .proceed => none
  | .refuse => some .refused
  | .noop => some .noop
  | .recoveryRequired => some .recoveryRequired

/-- `execute` (`lifecycle_executor.py:107-195`). -/
def execute (plan : LifecyclePlan) (rounds : Nat → Round) (transactionId : String)
    (j : LifecycleJournal) : Except JournalFault (Ending × Progress) × LifecycleJournal :=
  match requireText transactionId "transaction_id" with
  | .error e => (.error e, j)
  | .ok () =>
    match nonProceedState plan.decision with
    | some state =>
      let p : Progress := {}
      (.ok (.returned (p.result transactionId state plan.reasonCode none), p), j)
    | none =>
      let r := executeLoop plan.action transactionId rounds 1 plan.steps {} j
      (.ok r.1, r.2)

/-! ### Resumption -/

/-- `LifecycleReconciliationAssessment` (`lifecycle_recovery.py:18-22`). -/
inductive LifecycleReconciliationAssessment where
  | consistentWithJournal
  | mutationAheadOfJournal
  | unexpectedDrift
  | unknown
  deriving DecidableEq, Repr

/-- `LifecycleResumeDecision` (`lifecycle_recovery.py:25-29`). -/
inductive LifecycleResumeDecision where
  | resume
  | complete
  | recoveryRequired
  | refuse
  deriving DecidableEq, Repr

/-- `LifecycleResumePlan` (`lifecycle_recovery.py:32-39`). -/
structure LifecycleResumePlan where
  transactionId : String
  decision : LifecycleResumeDecision
  reasonCode : String
  durableSteps : List LifecycleStep := []
  remainingSteps : List LifecycleStep := []
  nextStep : Option LifecycleStep := none
  deriving DecidableEq, Repr

/-- `_result` (`lifecycle_recovery.py:48-62`). -/
def resumeResult (transactionId : String) (decision : LifecycleResumeDecision)
    (reasonCode : String) (durableSteps remainingSteps : List LifecycleStep) :
    LifecycleResumePlan where
  transactionId := transactionId
  decision := decision
  reasonCode := reasonCode
  durableSteps := durableSteps
  remainingSteps := remainingSteps
  nextStep := remainingSteps.head?

/-- The loop over the checkpoints (`lifecycle_recovery.py:88-119`): the durable steps, or the
    code of the refusal. -/
def durableSteps (transactionId : String) (plan : LifecyclePlan) :
    Nat → List LifecycleCheckpoint → Except String (List LifecycleStep)
  | _, [] => .ok []
  | expectedSequence, checkpoint :: rest => do
    Except.rejectIf (checkpoint.transactionId ≠ transactionId) "CHECKPOINT_TRANSACTION_MISMATCH"
    Except.rejectIf (checkpoint.action ≠ plan.action) "CHECKPOINT_ACTION_MISMATCH"
    Except.rejectIf (checkpoint.sequenceNo ≠ expectedSequence) "CHECKPOINT_SEQUENCE_INVALID"
    -- the checkpoints are no more than the steps, so there is one
    Except.rejectIf (some checkpoint.step ≠ plan.steps[expectedSequence - 1]?)
      "CHECKPOINT_PLAN_MISMATCH"
    let durable ← durableSteps transactionId plan (expectedSequence + 1) rest
    return checkpoint.step :: durable

/-- `plan_lifecycle_resume` (`lifecycle_recovery.py:65-156`). -/
def planLifecycleResume (transactionId : String) (plan : LifecyclePlan)
    (checkpoints : List LifecycleCheckpoint) (assessment : LifecycleReconciliationAssessment) :
    Except JournalFault LifecycleResumePlan := do
  requireText transactionId "transaction_id"
  if plan.decision ≠ .proceed then
    return resumeResult transactionId .refuse "PLAN_NOT_EXECUTABLE" [] []
  if plan.steps.length < checkpoints.length then
    return resumeResult transactionId .refuse "CHECKPOINT_PLAN_MISMATCH" [] []
  match durableSteps transactionId plan 1 checkpoints with
  | .error reasonCode => return resumeResult transactionId .refuse reasonCode [] []
  | .ok durable =>
    match assessment with
    | .unknown =>
      return resumeResult transactionId .recoveryRequired "RECONCILIATION_UNKNOWN" durable []
    | .mutationAheadOfJournal =>
      return resumeResult transactionId .recoveryRequired "MUTATION_AHEAD_OF_JOURNAL" durable []
    | .unexpectedDrift => return resumeResult transactionId .refuse "UNEXPECTED_DRIFT" durable []
    | .consistentWithJournal =>
      match plan.steps.drop durable.length with
      | [] => return resumeResult transactionId .complete "JOURNAL_COMPLETE" durable []
      | remaining => return resumeResult transactionId .resume "RESUME_FROM_JOURNAL" durable remaining

end AConductor.Lifecycle

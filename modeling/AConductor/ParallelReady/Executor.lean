import AConductor.ParallelReady.Task

/-!
# Parallel ready execution: the executor

`ParallelReadyExecutor.execute` (`src/a_conductor/parallel_ready_execution.py:606-1081`). The
clock, the lease broker, the admission store and the runner are arbitrary functions on the
state `W` of the world, so every answer and every exception of theirs is covered; the
authority check of a store (506-604) is one of them. The runs of the thread pool are one
such function of all the runnable items, which covers every interleaving of them. A task
that `continue`s the loop of the source raises its outcome here. Beside the world a call
keeps a log of what became of the admissions, for the statements about it only.
-/

namespace AConductor.Parallel

open Provider AConductor.Graph Lease Txn

variable {W α : Type}

/-- `ProviderAdmissionPort` (`parallel_ready_execution.py:97-122`), and what
    `check_provider_authority` makes of its snapshots. -/
structure ProviderAdmissionPort (W : Type) where
  authority : ParallelReadyTask → TaskAuthority → Txn W Raised ProviderAuthorityCheck
  acquireAdmission : AdmissionCall → Txn W Raised AcquireAnswer
  releaseAdmission : ReleaseCall → Txn W Raised ReleaseAnswer

/-- `ParallelReadyExecutor` (`parallel_ready_execution.py:461-496`). `runs` gives what
    `futures[node_id].result()` returns or raises for each submitted task. -/
structure ParallelReadyExecutor (W : Type) where
  broker : BrokerRequest → BrokerCandidate → Txn W Raised LeaseAnswer
  runs : List (ParallelReadyTask × WorkerLease) → W → (String → Except Raised RunnerAnswer) × W
  clock : Txn W Raised (Option Int)
  providerAdmissionStore : Option (ProviderAdmissionPort W)
  requireProviderAuthority : Bool
  required : requireProviderAuthority = true → providerAdmissionStore.isSome = true
  hash : DispatchHash
  isalnum : Char → Bool

/-- What became of the admission of a node: the store answered that it was acquired, or its
    release was confirmed. -/
inductive AdmissionEvent where
  | acquired (nodeId : String) (a : ProviderAdmissionRecord)
  | released (nodeId : String) (a : ProviderAdmissionRecord)
  deriving DecidableEq, Repr

def AdmissionEvent.nodeId : AdmissionEvent → String
  | .acquired nodeId _ | .released nodeId _ => nodeId

/-- The world, and the log of the call. -/
structure BatchRun (W : Type) where
  world : W
  log : List AdmissionEvent

/-- A part of a call. -/
abbrev Batch (W : Type) := Txn (BatchRun W) ExecuteFault

/-- The ways to leave the work on one task early. -/
inductive Stop where
  | outcome (o : ParallelReadyOutcome)
  | fault (e : ExecuteFault)

/-- The work on one task. -/
abbrev Placing (W : Type) := Txn (BatchRun W) Stop

/-- `outcomes[node_id] = o; continue`. -/
def stop (o : ParallelReadyOutcome) : Placing W α := raise (.outcome o)

/-- A part of a call used in the work on one task. -/
def lift (x : Batch W α) : Placing W α := recast .fault x

/-- Ask a port. -/
def askRaw (f : Txn W Raised α) : Txn (BatchRun W) Raised α := fun s =>
  ((f s.world).1, { s with world := (f s.world).2 })

/-- Ask a port; what it raises ends the call. -/
def ask (f : Txn W Raised α) : Batch W α := recast .raised (askRaw f)

/-- Ask a port inside `try: … except Exception`. -/
def tryAsk (f : Txn W Raised α) : Batch W (Except Raised α) := attempt (askRaw f)

/-- Log an event. -/
def note (e : AdmissionEvent) : Batch W Unit := update fun s => { s with log := s.log ++ [e] }

/-- What a call has at hand for every task. -/
structure BatchContext where
  providerInflight : Dict String Int
  batchId : String
  preAcquired : Dict String ProviderAdmissionRecord
  now : Option Int

variable (x : ParallelReadyExecutor W)

/-- `check_provider_authority` (`parallel_ready_execution.py:506-604`). -/
def checkProviderAuthority (t : ParallelReadyTask) (authority : TaskAuthority) :
    Batch W ProviderAuthorityCheck :=
  match x.providerAdmissionStore with
  | some port => ask (port.authority t authority)
  | none =>
    pure
      { allowed := false
        gateRefused := false
        providerUnavailable := true
        rateLimited := false
        reasonCode := "PROVIDER_AUTHORITY_STORE_MISSING"
        profile := t.providerProfile
        endpoint := some authority.providerEndpoint
        observation := t.providerObservation }

/-- The profile under which the task may run (`parallel_ready_execution.py:818-850`). -/
def eligibleProfile (now : Option Int) (t : ParallelReadyTask) : Placing W ProviderConfiguration :=
  match t.authority with
  | some authority => do
    let check ← lift (checkProviderAuthority x t authority)
    require check.allowed (.outcome (authorityOutcome t.nodeId check))
    pure check.profile
  | none => do
    let ready ← lift (ofExcept (isProviderReady t.providerProfile t.providerObservation now))
    require ready (.outcome
      { nodeId := t.nodeId, kind := .providerWait, reasonCode := "PROVIDER_NOT_READY" })
    match quotaReason t with
    | some reason => stop { nodeId := t.nodeId, kind := .providerQuotaWait, reasonCode := reason }
    | none => pure t.providerProfile

/-- The exits that come before the admission of the task is looked at
    (`parallel_ready_execution.py:805-858`). -/
def screenTask (c : BatchContext) (counts : Dict String Nat) (t : ParallelReadyTask) :
    Placing W ProviderConfiguration := do
  require (!(x.requireProviderAuthority && t.providerRequirement.isNone)) (.outcome
    { nodeId := t.nodeId, kind := .providerAdmissionRecoveryRequired,
      reasonCode := "PROVIDER_EXECUTION_REQUIREMENT_REQUIRED" })
  require t.dispatchGate.allowed (.outcome
    { nodeId := t.nodeId, kind := .dispatchGateBlocked, reasonCode := t.dispatchGate.reasonCode })
  let profile ← eligibleProfile x c.now t
  let inflight := (c.providerInflight.get? t.providerId).getD 0
  let batchCount := (counts.get? t.providerId).getD 0
  require (inflight + batchCount < profile.maxConcurrency) (.outcome
    { nodeId := t.nodeId, kind := .providerCapacityWait,
      reasonCode := "PROVIDER_CAPACITY_EXHAUSTED" })
  pure profile

/-- `PROVIDER_ADMISSION_RECOVERY_REQUIRED`, naming an admission or none. -/
def admissionRecovery (t : ParallelReadyTask) (reason : String)
    (admission : Option ProviderAdmissionRecord) : ParallelReadyOutcome where
  nodeId := t.nodeId
  kind := .providerAdmissionRecoveryRequired
  reasonCode := reason
  providerAdmission := admission

/-- Go on with an admission that is valid now. -/
def useAdmission (c : BatchContext) (t : ParallelReadyTask) (a : ProviderAdmissionRecord) :
    Placing W ProviderAdmissionRecord := do
  let current ← lift (ask x.clock)
  match validateProviderAdmissionRecord t c.batchId a current with
  | some reason => stop (admissionRecovery t reason (some a))
  | none => pure a

/-- What the task does with an admission result (`parallel_ready_execution.py:886-920`). -/
def judgeAcquired (c : BatchContext) (t : ParallelReadyTask) :
    AcquireAnswer → Placing W ProviderAdmissionRecord
  | .other => stop (admissionRecovery t "PROVIDER_ADMISSION_OUTCOME_INVALID" none)
  | .result none _ _ => stop (admissionRecovery t "PROVIDER_ADMISSION_OUTCOME_UNSUPPORTED" none)
  | .result (some _) _ .other => stop (admissionRecovery t "PROVIDER_ADMISSION_RECORD_INVALID" none)
  | .result (some .capacityWait) reason _ =>
    stop
      { nodeId := t.nodeId
        kind := .providerCapacityWait
        reasonCode := safeReasonCode x.isalnum reason "PROVIDER_CAPACITY_EXHAUSTED" }
  | .result (some .existing) reason admission =>
    stop (admissionRecovery t
      (safeReasonCode x.isalnum reason "PROVIDER_ADMISSION_RECONCILE_REQUIRED") admission.record?)
  | .result (some .recoveryRequired) reason admission =>
    stop (admissionRecovery t
      (safeReasonCode x.isalnum reason "PROVIDER_ADMISSION_RECONCILE_REQUIRED") admission.record?)
  | .result (some .admitted) _ .missing =>
    stop (admissionRecovery t "PROVIDER_ADMISSION_RECORD_MISSING" none)
  | .result (some .admitted) _ (.record a) => do
    lift (note (.acquired t.nodeId a))
    useAdmission x c t a

/-- The admission of the task: the one handed in, or one acquired now
    (`parallel_ready_execution.py:860-920`). -/
def fenceTask (c : BatchContext) (t : ParallelReadyTask) (profile : ProviderConfiguration) :
    Placing W (Option ProviderAdmissionRecord) :=
  match c.preAcquired.get? t.nodeId with
  | some a => some <$> useAdmission x c t a
  | none =>
    match x.providerAdmissionStore with
    | none => pure none
    | some port => do
      let answer ← lift (tryAsk (port.acquireAdmission
        { providerId := t.providerId
          executionId := t.executionId
          batchId := c.batchId
          expectedMaxConcurrency := profile.maxConcurrency
          now := c.now
          ttlSeconds := t.leaseRequest.leaseTtlSeconds
          expectedConfigurationGeneration := t.expectedGeneration }))
      match answer with
      | .error e =>
        stop (admissionRecovery t
          (safeExceptionReason x.isalnum e "PROVIDER_ADMISSION_EXCEPTION") none)
      | .ok r => some <$> judgeAcquired x c t r

/-- `_release_provider_admission` (`parallel_ready_execution.py:747-766`): `none` when there is
    nothing left to say. -/
def releaseProviderAdmission (c : BatchContext) (t : ParallelReadyTask)
    (admission : Option ProviderAdmissionRecord) (now : Option Int) : Batch W (Option String) :=
  match admission, x.providerAdmissionStore with
  | some a, some port => do
    let answer ← tryAsk (port.releaseAdmission
      { admissionId := a.admissionId
        providerId := t.providerId
        executionId := t.executionId
        batchId := c.batchId
        now })
    match answer with
    | .error e => pure (some (safeExceptionReason x.isalnum e "PROVIDER_ADMISSION_RELEASE_EXCEPTION"))
    | .ok released =>
      match validateProviderReleaseRecord a released with
      | some reason => pure (some reason)
      | none => do
        note (.released t.nodeId a)
        pure none
  | _, _ => pure none

/-- The second authority check (`parallel_ready_execution.py:922-948`). -/
def preLease (c : BatchContext) (t : ParallelReadyTask)
    (admission : Option ProviderAdmissionRecord) : Placing W Unit :=
  match t.authority with
  | none => pure ()
  | some authority => do
    let check ← lift (checkProviderAuthority x t authority)
    if check.allowed then pure ()
    else do
      let current ← lift (ask x.clock)
      let released ← lift (releaseProviderAdmission x c t admission current)
      match released with
      | some reason => stop (admissionRecovery t reason admission)
      | none => stop (authorityOutcome t.nodeId check)

/-- `LEASE_RECOVERY_REQUIRED`, naming the admission. -/
def leaseRecovery (t : ParallelReadyTask) (reason : String) (lease : Option WorkerLeaseOutcome)
    (admission : Option ProviderAdmissionRecord) : ParallelReadyOutcome where
  nodeId := t.nodeId
  kind := .leaseRecoveryRequired
  reasonCode := reason
  leaseOutcome := lease
  providerAdmission := admission

/-- What the task does with an outcome of the broker (`parallel_ready_execution.py:968-1008`). -/
def judgeLease (c : BatchContext) (t : ParallelReadyTask)
    (admission : Option ProviderAdmissionRecord) (o : WorkerLeaseOutcome) : Placing W WorkerLease :=
  if o.kind = .leased then
    match o.lease with
    | none => stop (leaseRecovery t "LEASE_RECORD_MISSING" (some o) admission)
    | some lease =>
      if lease.workerId ≠ t.assignment.workerId then
        stop (leaseRecovery t "LEASE_WORKER_DRIFT" (some o) admission)
      else pure lease
  else if o.kind = .wait ∨ o.kind = .rdcReadOnly then do
    let released ← lift (releaseProviderAdmission x c t admission c.now)
    match released with
    | some reason => stop { admissionRecovery t reason admission with leaseOutcome := some o }
    | none => stop { leaseWaitOutcome t.nodeId o with providerAdmission := admission }
  else stop { leaseWaitOutcome t.nodeId o with providerAdmission := admission }

/-- An item of `runnable`. -/
structure Runnable where
  task : ParallelReadyTask
  leaseOutcome : WorkerLeaseOutcome
  lease : WorkerLease
  admission : Option ProviderAdmissionRecord

/-- The lease of the task (`parallel_ready_execution.py:950-1010`). -/
def leaseTask (c : BatchContext) (t : ParallelReadyTask)
    (admission : Option ProviderAdmissionRecord) : Placing W Runnable := do
  let answer ← lift (tryAsk (x.broker t.leaseRequest t.candidate))
  match answer with
  | .error e =>
    stop (leaseRecovery t (safeExceptionReason x.isalnum e "LEASE_ACQUIRE_EXCEPTION") none admission)
  | .ok .other => stop (leaseRecovery t "LEASE_OUTCOME_INVALID" none admission)
  | .ok (.outcome o) => do
    let lease ← judgeLease x c t admission o
    pure ⟨t, o, lease, admission⟩

/-- The rest of the work on a task that is not turned away. -/
def admitTask (c : BatchContext) (t : ParallelReadyTask) (profile : ProviderConfiguration) :
    Placing W Runnable := do
  let admission ← fenceTask x c t profile
  preLease x c t admission
  leaseTask x c t admission

/-- One round of the loop (`parallel_ready_execution.py:801-1010`). -/
def placeTask (c : BatchContext) (counts : Dict String Nat) (t : ParallelReadyTask) :
    Placing W Runnable := do
  let profile ← screenTask x c counts t
  admitTask x c t profile

/-- Where a task stands after the loop: in `outcomes` or in `runnable`. -/
inductive Placement where
  | ended (o : ParallelReadyOutcome)
  | runnable (r : Runnable)

/-- A round with its outcome caught, and the batch counts after it. -/
def placeStep (c : BatchContext) (counts : Dict String Nat) (t : ParallelReadyTask) :
    Batch W (Placement × Dict String Nat) := fun s =>
  match placeTask x c counts t s with
  | (.ok r, s') =>
    (.ok (.runnable r, counts.set t.providerId ((counts.get? t.providerId).getD 0 + 1)), s')
  | (.error (.outcome o), s') => (.ok (.ended o, counts), s')
  | (.error (.fault e), s') => (.error e, s')

/-- The loop over the tasks. -/
def placeAll (c : BatchContext) : List ParallelReadyTask → Dict String Nat →
    Batch W (List Placement)
  | [], _ => pure []
  | t :: ts, counts => do
    let step ← placeStep x c counts t
    let rest ← placeAll c ts step.2
    pure (step.1 :: rest)

/-- An outcome of a task that was run. -/
def ranOutcome (r : Runnable) (kind : ParallelReadyOutcomeKind) (reason : String)
    (result : Option RunnerAnswer) : ParallelReadyOutcome where
  nodeId := r.task.nodeId
  kind := kind
  reasonCode := reason
  leaseOutcome := some r.leaseOutcome
  runnerResult := result
  providerAdmission := r.admission

/-- Release the admission of a run; the outcome unless that fails. -/
def releaseRun (c : BatchContext) (r : Runnable) (result : RunnerAnswer)
    (outcome : ParallelReadyOutcome) : Batch W ParallelReadyOutcome := do
  let current ← ask x.clock
  let released ← releaseProviderAdmission x c r.task r.admission current
  match released with
  | some reason => pure (ranOutcome r .providerAdmissionRecoveryRequired reason (some result))
  | none => pure outcome

/-- What a run ends with (`parallel_ready_execution.py:1027-1077`). -/
def settleRun (c : BatchContext) (r : Runnable) :
    Except Raised RunnerAnswer → Batch W ParallelReadyOutcome
  | .error e =>
    pure (ranOutcome r .runnerRecoveryRequired
      (safeExceptionReason x.isalnum e "RUNNER_EXCEPTION") none)
  | .ok result =>
    if r.admission = none ∧ result = .other then
      pure (ranOutcome r .runCompleted "RUNNER_COMPLETED" (some result))
    else
      let policy := typedDispatchPolicy x.hash x.isalnum result r.task r.lease
      if policy.accepted then
        releaseRun x c r result (ranOutcome r .runCompleted "RUNNER_COMPLETED" (some result))
      else
        let outcome := ranOutcome r .runnerRecoveryRequired policy.reason (some result)
        if policy.releaseAdmission then releaseRun x c r result outcome else pure outcome

/-- The outcomes in the order of the plan. -/
def settleAll (c : BatchContext) (answers : String → Except Raised RunnerAnswer) :
    List Placement → Batch W (List ParallelReadyOutcome)
  | [] => pure []
  | .ended o :: ps => do
    let rest ← settleAll c answers ps
    pure (o :: rest)
  | .runnable r :: ps => do
    let o ← settleRun x c r (answers r.task.nodeId)
    let rest ← settleAll c answers ps
    pure (o :: rest)

/-- The items of the pool. -/
def runnables (ps : List Placement) : List Runnable :=
  ps.filterMap fun
    | .ended _ => none
    | .runnable r => some r

/-- Submit the items to the pool, unless there is none. -/
def runPool (ps : List Placement) : Batch W (String → Except Raised RunnerAnswer) := fun s =>
  let items := (runnables ps).map fun r => (r.task, r.lease)
  if items.isEmpty then (.ok fun _ => .error ⟨none⟩, s)
  else (.ok (x.runs items s.world).1, { s with world := (x.runs items s.world).2 })

/-- The tasks of the assignments, checked one after the other
    (`parallel_ready_execution.py:624-641`). -/
def validateTasks (tasksByNode : Dict String ParallelReadyTask) (inflight : Dict String Int) :
    Dict String ProviderConfiguration → List SelectedAssignment →
      Except ExecuteFault (List ParallelReadyTask)
  | _, [] => .ok []
  | profiles, assignment :: rest =>
    match tasksByNode.get? assignment.nodeId with
    | none => .error (.valueError "selected task mapping mismatch")
    | some t =>
      if t.assignment ≠ assignment then .error (.valueError "selected assignment drift")
      else if (profiles.get? t.providerId).any (· ≠ t.providerProfile) then
        .error (.valueError "provider profile mismatch within batch")
      else
        match inflight.get? t.providerId with
        | none => .error (.valueError ("provider_inflight missing " ++ t.providerId))
        | some n =>
          if n < 0 then
            .error (.valueError "provider_inflight values must be non-negative integers")
          else
            (validateTasks tasksByNode inflight (profiles.set t.providerId t.providerProfile)
              rest).map (t :: ·)

/-- `_validate_batch` (`parallel_ready_execution.py:606-642`). -/
def validateBatch (plan : SchedulePlan) (tasksByNode : Dict String ParallelReadyTask)
    (inflight : Dict String Int) : Except ExecuteFault (List ParallelReadyTask) :=
  let selectedIds := plan.selected.map SelectedAssignment.nodeId
  if ¬ selectedIds.Nodup then .error (.valueError "selected node IDs must be unique")
  else if ¬ ((∀ e ∈ tasksByNode.entries, e.1 ∈ selectedIds) ∧
      ∀ id ∈ selectedIds, (tasksByNode.get? id).isSome = true) then
    .error (.valueError "selected task mapping mismatch")
  else validateTasks tasksByNode inflight .empty plan.selected

/-- The batch id (`parallel_ready_execution.py:792-795`), as `batch_id or ""` from then on. -/
def usedBatchId (batchId : Option String) : Except ExecuteFault String :=
  if x.providerAdmissionStore.isSome then
    match batchId with
    | none => .error (.valueError "batch_id is required with provider admission store")
    | some id =>
      if Text.isBlank id then
        .error (.valueError "batch_id is required with provider admission store")
      else .ok (Text.strip id)
  else .ok (batchId.getD "")

/-- A call of `execute`. -/
structure ExecuteCall where
  plan : SchedulePlan
  tasksByNode : Dict String ParallelReadyTask
  providerInflight : Dict String Int
  batchId : Option String
  preAcquired : Dict String ProviderAdmissionRecord

/-- The checks before the loop, and the clock (`parallel_ready_execution.py:785-796`). -/
def prepare (call : ExecuteCall) : Batch W (List ParallelReadyTask × BatchContext) := do
  let tasks ← ofExcept (validateBatch call.plan call.tasksByNode call.providerInflight)
  require (call.preAcquired.entries.all fun e => tasks.any fun t => t.nodeId = e.1)
    (.valueError "pre-acquired admission node mismatch")
  let batchId ← ofExcept (usedBatchId x call.batchId)
  let now ← ask x.clock
  pure (tasks, ⟨call.providerInflight, batchId, call.preAcquired, now⟩)

/-- `execute` (`parallel_ready_execution.py:768-1081`). -/
def execute (call : ExecuteCall) : Batch W (List ParallelReadyOutcome) := do
  let (tasks, c) ← prepare x call
  let placements ← placeAll x c tasks .empty
  let answers ← runPool x placements
  settleAll x c answers placements

end AConductor.Parallel

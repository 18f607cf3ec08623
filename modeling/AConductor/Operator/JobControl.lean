import AConductor.Job.Progress
import AConductor.Operator.WireResponse

/-!
# The operator and the job store

`DurableJobControlService` (`src/a_conductor/job_control.py:40-200`) is the job service that the
runtime gives to the dispatcher: each method is a call of the durable job store, or of the
execution coordinator over it. A request is answered after its write, by a response with limits
of its own, so what the answer says of the store depends on what the store may hold. Blocking,
the close-out and the reads over a read-only connection, which no request reaches, are left out.
-/

namespace AConductor.Operator

open Proc Job Except Machine

/-- The event ids that the store will draw for a request, and what its backend will answer. -/
structure Surroundings where
  draw : EventIdDraw
  executingDraw : EventIdDraw
  recoveryDraw : EventIdDraw
  checkpointDraw : EventIdDraw
  verifyingDraw : EventIdDraw
  answer : BackendAnswer
  deriving DecidableEq, Repr

/-- The `code` of what a store raises: state and store errors have one. -/
def raisedOf : JobFault → Raised
  | .stateError code => some code
  | .storeError code => some code
  | _ => none

/-- The `code` of what the coordinator raises. -/
def raisedOfExecution : ExecutionFault → Raised
  | .job fault => raisedOf fault
  | .coordinatorError code _ => some code

/-- One write of the store. -/
def write (tx : JobStore → Except JobFault JobRuntimeState × JobStore) :
    ExecutionProc (Except Raised JobRuntimeState) := do
  return (← transact tx).mapError raisedOf

/-- `transition` of a job to a state; `None` for its id or its version is a `ValueError`. -/
def move (jobId : Option String) (target : TaskState) (expectedVersion : Option Int)
    (workerId : Option String) (draw : EventIdDraw) :
    ExecutionProc (Except Raised JobRuntimeState) :=
  match jobId, expectedVersion with
  | some jobId, some expectedVersion =>
    write (transition { jobId, targetState := target, expectedVersion, workerId } draw)
  | _, _ => return .error none

/-- `create_job` (`job_control.py:98-112`). -/
def controlCreateJob (jobId workOrderRef projectId : Option String) (maxAttempts : Option Int)
    (draw : EventIdDraw) : ExecutionProc (Except Raised JobRuntimeState) :=
  match jobId, workOrderRef, projectId, maxAttempts with
  | some jobId, some workOrderRef, some projectId, some maxAttempts =>
    write (createJob jobId workOrderRef projectId maxAttempts draw)
  | _, _, _, _ => return .error none

/-- `checkpoint` (`job_control.py:168-181`). -/
def controlCheckpoint (jobId : Option String) (expectedVersion : Option Int)
    (checkpointRef evidenceRef : Option String) (draw : EventIdDraw) :
    ExecutionProc (Except Raised JobRuntimeState) :=
  match jobId, expectedVersion, checkpointRef with
  | some jobId, some expectedVersion, some checkpointRef =>
    write (checkpoint { jobId, checkpointRef, expectedVersion, evidenceRef } draw)
  | _, _, _ => return .error none

/-- `execute_operation` (`job_control.py:183-196`). -/
def controlExecute (jobId : Option String) (expectedVersion : Option Int)
    (workerId operationRef : Option String) (w : Surroundings) :
    ExecutionProc (Except Raised (Option JobExecutionOutcome)) :=
  match jobId, expectedVersion, workerId, operationRef with
  | some jobId, some expectedVersion, some workerId, some operationRef => do
    let outcome ← execute {
      jobId, expectedVersion, workerId, operationRef, answer := w.answer
      executingDraw := w.executingDraw, recoveryDraw := w.recoveryDraw
      checkpointDraw := w.checkpointDraw, verifyingDraw := w.verifyingDraw }
    return (outcome.mapError raisedOfExecution).map some
  | _, _, _, _ => return .error none

/-- `DurableJobControlService`, while its surroundings answer as `w` says. -/
def durableJobControl (w : Surroundings) : OperatorJobControl JobStore ExecutionNote where
  createJob jobId workOrderRef projectId maxAttempts :=
    controlCreateJob jobId workOrderRef projectId maxAttempts w.draw
  getJob
    | some jobId => write (getJob jobId)
    | none => return .error none
  listEvents
    | some jobId => do return (← transact (listEvents jobId)).mapError raisedOf
    | none => return .error none
  markReady jobId expectedVersion := move jobId .ready expectedVersion none w.draw
  claim jobId expectedVersion workerId := move jobId .claimed expectedVersion workerId w.draw
  gate jobId expectedVersion workerId := move jobId .gating expectedVersion workerId w.draw
  checkpoint jobId expectedVersion checkpointRef evidenceRef :=
    controlCheckpoint jobId expectedVersion checkpointRef evidenceRef w.draw
  executeOperation jobId expectedVersion workerId operationRef :=
    controlExecute jobId expectedVersion workerId operationRef w

/-- A request of the runtime, performed on a store: the answer, the store after it and the notes
    of its execution. -/
def answered (w : Surroundings) (maxEventRefs : Int) (request : OperatorRequest) (s : JobStore) :
    Except Raised OperatorResponse × JobStore × List ExecutionNote :=
  (dispatchOperatorRequest (durableJobControl w) none maxEventRefs request).exec s

/-- The response of a job exists: its texts are identifiers and its budget is at most 100. -/
structure Shown (job : JobRow) : Prop where
  jobId : isIdentifier job.jobId = true
  workerId : ∀ workerId, job.workerId = some workerId → isIdentifier workerId = true
  maxAttempts : job.maxAttempts ≤ 100

/-- The response of a job. -/
def jobFields (job : JobRow) (ok : Bool) (code : String) (refs : List String) : ResponseFields where
  ok := ok
  code := code
  jobId := some job.jobId
  state := some job.state.value
  version := some job.version
  workerId := job.workerId
  attemptCount := some job.attemptCount
  maxAttempts := some job.maxAttempts
  refs := refs

theorem isIdentifier_state (state : TaskState) : isIdentifier state.value = true := by
  cases state <;> decide

theorem checkIdentifier_iff {s : String} : checkIdentifier s = .ok () ↔ isIdentifier s = true := by
  refine ⟨checkIdentifier_ok, fun h => ?_⟩
  unfold checkIdentifier
  rw [rejectIf_eq_ok]
  simpa using h

theorem jobFields_check {job : JobRow} (h : job.Valid) {ok : Bool} {code : String}
    {refs : List String} (hcode : isIdentifier code = true) :
    (jobFields job ok code refs).check = .ok () ↔
      Shown job ∧ ∀ ref ∈ refs, isIdentifier ref = true := by
  constructor
  · intro hcheck
    have hvalid := OperatorResponse.valid ⟨jobFields job ok code refs, hcheck⟩
    exact ⟨⟨hvalid.jobId _ rfl, hvalid.workerId, (hvalid.maxAttempts _ rfl).2⟩, hvalid.refs⟩
  · rintro ⟨hshown, hrefs⟩
    have hworker : checkOptional checkIdentifier job.workerId = .ok () := by
      cases hw : job.workerId with
      | none => rfl
      | some w => exact checkIdentifier_iff.mpr (hshown.workerId w hw)
    have hversion : checkInt 1 "OPERATOR_RESPONSE_INVALID" job.version = .ok () := by
      unfold checkInt
      rw [rejectIf_eq_ok]
      have := h.version
      omega
    have hattempts : checkInt 0 "OPERATOR_RESPONSE_INVALID" job.attemptCount = .ok () := by
      unfold checkInt
      rw [rejectIf_eq_ok]
      have := h.attempts
      omega
    have hmax : checkAttemptBudget job.maxAttempts = .ok () := by
      unfold checkAttemptBudget
      rw [rejectIf_eq_ok]
      have hlow := h.maxAttempts
      have hhigh := hshown.maxAttempts
      omega
    unfold ResponseFields.check
    simp only [bind_eq_ok]
    exact ⟨(), checkIdentifier_iff.mpr hcode, (), checkIdentifier_iff.mpr hshown.jobId, (),
      checkIdentifier_iff.mpr (isIdentifier_state job.state), (), hworker, (), hversion, (),
      hattempts, (), hmax, forM_eq_ok.mpr fun ref hr => checkIdentifier_iff.mpr (hrefs ref hr)⟩

/-- The codes that the constructor of a response raises are safe identifiers. -/
theorem check_error {f : ResponseFields} {code : String} (h : f.check = .error code) :
    isSafeCode code = true ∧ isIdentifier code = true := by
  have hidentifier {s : String} (hs : checkIdentifier s = .error code) :
      isSafeCode code = true ∧ isIdentifier code = true := by
    obtain ⟨-, rfl⟩ := rejectIf_eq_error.mp hs
    decide
  have hint {least n : Int} (hn : checkInt least "OPERATOR_RESPONSE_INVALID" n = .error code) :
      isSafeCode code = true ∧ isIdentifier code = true := by
    obtain ⟨-, rfl⟩ := rejectIf_eq_error.mp hn
    decide
  have hbudget {n : Int} (hn : checkAttemptBudget n = .error code) :
      isSafeCode code = true ∧ isIdentifier code = true := by
    obtain ⟨-, rfl⟩ := rejectIf_eq_error.mp hn
    decide
  have hoptional {α : Type} {check : α → Except String Unit} {o : Option α}
      (ho : checkOptional check o = .error code) : ∃ a, check a = .error code := by
    cases o with
    | none => cases ho
    | some a => exact ⟨a, ho⟩
  unfold ResponseFields.check at h
  simp only [bind_eq_error] at h
  rcases h with h | ⟨_, -, h | ⟨_, -, h | ⟨_, -, h | ⟨_, -, h | ⟨_, -, h | ⟨_, -, h | ⟨_, -, h⟩⟩⟩⟩⟩⟩⟩
  · exact hidentifier h
  · exact hidentifier (hoptional h).choose_spec
  · exact hidentifier (hoptional h).choose_spec
  · exact hidentifier (hoptional h).choose_spec
  · exact hint (hoptional h).choose_spec
  · exact hint (hoptional h).choose_spec
  · exact hbudget (hoptional h).choose_spec
  · obtain ⟨ref, -, href⟩ := Except.forM_eq_error h
    exact hidentifier href

/-- A request is always answered after its write, with success exactly when it was one and the
    response can show the job and its references. -/
theorem respond_shown {job : JobRuntimeState} {jobId : Option String} {ok : Bool} {code : String}
    {refs : List String} (hjobId : ∀ s, jobId = some s → isIdentifier s = true)
    (hcode : isIdentifier code = true) :
    ∃ response, respondRaised jobId (responseFromJob job ok code refs) = .ok response ∧
      (response.ok = true ↔
        ok = true ∧ Shown job.toJobRow ∧ ∀ ref ∈ refs, isIdentifier ref = true) := by
  have hiff := @jobFields_check _ job.valid ok code refs hcode
  cases hcheck : (jobFields job.toJobRow ok code refs).check with
  | ok u =>
    rw [hcheck] at hiff
    refine ⟨⟨jobFields job.toJobRow ok code refs, hcheck⟩, ?_, ?_⟩
    · have hmake := makeResponse_self ⟨jobFields job.toJobRow ok code refs, hcheck⟩
      show respondRaised jobId ((OperatorResponse.make (jobFields job.toJobRow ok code refs)).mapError
        some) = _
      rw [hmake]
      rfl
    · have hshown := hiff.mp rfl
      exact ⟨fun h => ⟨h, hshown⟩, fun h => h.1⟩
  | error raised =>
    rw [hcheck] at hiff
    have hnot : ¬ (Shown job.toJobRow ∧ ∀ ref ∈ refs, isIdentifier ref = true) :=
      fun hshown => nomatch hiff.mpr hshown
    obtain ⟨hsafe, hidentifier⟩ := check_error hcheck
    have hfailed : (ResponseFields.check { ok := false, code := raised, jobId }) = .ok () := by
      have hid : checkOptional checkIdentifier jobId = .ok () := by
        cases jobId with
        | none => rfl
        | some s => exact checkIdentifier_iff.mpr (hjobId s rfl)
      unfold ResponseFields.check
      simp only [bind_eq_ok]
      exact ⟨(), checkIdentifier_iff.mpr hidentifier, (), hid, (), rfl, (), rfl, (), rfl, (), rfl,
        (), rfl, rfl⟩
    refine ⟨⟨_, hfailed⟩, ?_, ?_⟩
    · have hresponse : responseFromJob job ok code refs = .error (some raised) := by
        show (OperatorResponse.make (jobFields job.toJobRow ok code refs)).mapError some = _
        unfold OperatorResponse.make
        split
        · rename_i hok
          rw [hok] at hcheck
          cases hcheck
        · rename_i code' herror
          rw [herror] at hcheck
          cases hcheck
          rfl
      have hmake := makeResponse_self ⟨_, hfailed⟩
      rw [hresponse]
      unfold respondRaised
      dsimp only
      unfold safeErrorCode
      dsimp only
      rw [if_pos hsafe]
      unfold buildResponse
      rw [hmake]
      rfl
    · exact ⟨nofun, fun h => absurd h.2 hnot⟩

/-- A committed write is one that the store shows. -/
theorem jobWrite_ne {s s' : JobStore} (h : s.Sound) {job : JobRuntimeState}
    (hw : JobWrite s job s') : s' ≠ s := by
  obtain ⟨event, hevents, -, -⟩ := hw.event h.logged
  intro heq
  rw [heq] at hevents
  exact absurd (congrArg List.length hevents) (by simp)

/-- A write that raises changes nothing, so its answer is true; one that commits is reported
    truly exactly when the response can show the job. -/
theorem respond_write {s : JobStore} (h : s.Sound) {call : JobCall} {jobId : Option String}
    (hjobId : ∀ s, jobId = some s → isIdentifier s = true) :
    (∀ response, respondRaised jobId (respondJob ((jobStep s call).1.mapError raisedOf)) =
        .ok response → response.ok = false → (jobStep s call).2 = s) ↔
      ∀ job s', jobStep s call = (.ok job, s') → Shown job.toJobRow := by
  rcases hout : jobStep s call with ⟨result, s'⟩
  cases result with
  | error e =>
    have hsame : s' = s := jobStep_error hout
    refine ⟨?_, fun _ _ _ _ => hsame⟩
    intro _ job s'' heq
    exact absurd (congrArg Prod.fst heq) (by simp)
  | ok job =>
    have hw := jobStep_ok h.logged.keyed hout
    have hcode : isIdentifier "OK" = true := by decide
    obtain ⟨response, hresponse, hiff⟩ := @respond_shown job jobId true "OK" [] hjobId hcode
    rw [Except.mapError]
    constructor
    · intro htrue job' s'' heq
      cases heq
      by_contra hnot
      refine jobWrite_ne h hw (htrue response hresponse ?_)
      rw [← Bool.not_eq_true]
      exact fun hok => hnot (hiff.mp hok).2.1
    · intro hshown response' hresponse' hfailed
      have hsame : response' = response := Except.ok.inj (hresponse'.symm.trans hresponse)
      have hok := hiff.mpr ⟨rfl, hshown job s' rfl, nofun⟩
      rw [hsame, hok] at hfailed
      cases hfailed

/-- The requests of one write. -/
def writeActions : List OperatorAction := [.jobCreate, .jobReady, .jobClaim, .jobGate, .jobCheckpoint]

/-- The job of the request is in `VERIFYING`. -/
def ReachedVerifying (jobId : Option String) (s : JobStore) : Prop :=
  ∃ r ∈ s.records, jobId = some r.jobId ∧ r.state = .verifying

/-- An answer tells the truth about the store: a write that is reported as failed changed nothing,
    and an operation that succeeded and took its job to `VERIFYING` is reported as a success. -/
structure Truthful (s : JobStore) (request : OperatorRequest) (answer : BackendAnswer) : Prop where
  failure : request.action ∈ writeActions → ∀ w, w.answer = answer → ∀ limit response,
    (answered w limit request s).1 = .ok response → response.ok = false →
      (answered w limit request s).2.1 = s
  success : request.action = .jobExecute → ∀ w, w.answer = answer → ∀ limit,
    requireEventRefLimit limit = .ok () → ∀ evidenceRef, answer = .result (.success evidenceRef) →
      Invoked (answered w limit request s).2.2 →
      ReachedVerifying request.jobId (answered w limit request s).2.1 →
        ∃ response, (answered w limit request s).1 = .ok response ∧ response.ok = true

/-- The row that the request names, at the version that it names. -/
def Addressed (request : OperatorRequest) (r : JobRow) : Prop :=
  request.jobId = some r.jobId ∧ request.expectedVersion = some r.version

/-- The policy allows the transition. -/
def Allowed (r : JobRow) (target : TaskState) (workerId : Option String) : Prop :=
  ∃ plan, planJobTransition r target workerId none = .ok plan

/-- The coordinator would run the operation of the request on the row. -/
def Runnable (request : OperatorRequest) (r : JobRow) : Prop :=
  r.state = .gating ∧ r.workerId = request.workerId ∧ r.attemptCount < r.maxAttempts ∧
    ∃ operationRef, request.operationRef = some operationRef ∧ requireOperationRef operationRef = .ok ()

/-- The limits of the response are those of the row that the request would write: a budget of at
    most 100, for a checkpoint a worker that is an identifier, and for an operation that succeeds
    evidence that is one. -/
def Representable (s : JobStore) (request : OperatorRequest) (answer : BackendAnswer) : Prop :=
  match request.action with
  | .jobReady => ∀ r ∈ s.records, Addressed request r → Allowed r .ready none → r.maxAttempts ≤ 100
  | .jobClaim => ∀ r ∈ s.records, Addressed request r → Allowed r .claimed request.workerId →
      r.maxAttempts ≤ 100
  | .jobGate => ∀ r ∈ s.records, Addressed request r → Allowed r .gating request.workerId →
      r.maxAttempts ≤ 100
  | .jobCheckpoint => ∀ r ∈ s.records, Addressed request r → requireOpen r.state = .ok () →
      r.maxAttempts ≤ 100 ∧ ∀ workerId, r.workerId = some workerId → isIdentifier workerId = true
  | .jobExecute => ∀ evidenceRef, answer = .result (.success evidenceRef) → ∀ r ∈ s.records,
      Addressed request r → Runnable request r →
        r.maxAttempts ≤ 100 ∧ isIdentifier evidenceRef = true
  | _ => True

variable {version : Int}

section Writes

variable {s : JobStore} {request : OperatorRequest} {w : Surroundings} {limit : Int}

theorem answered_refused {raised : Raised} (h : requireEventRefLimit limit = .error raised) :
    (answered w limit request s).1 = .error raised := by
  unfold answered dispatchOperatorRequest
  rw [h]
  rfl

theorem answered_serve (h : requireEventRefLimit limit = .ok ()) (haction : request.action ≠ .status) :
    answered w limit request s =
      (respondRaised request.jobId ((serve (durableJobControl w) limit request).exec s).1,
        ((serve (durableJobControl w) limit request).exec s).2) := by
  unfold answered dispatchOperatorRequest
  rw [h]
  dsimp only
  split
  · rename_i hstatus
    exact absurd hstatus haction
  · rw [exec_bind]
    simp [Proc.exec]

/-- The dispatcher serves the request by one write. -/
def ServedBy (request : OperatorRequest) (call : EventIdDraw → JobCall) : Prop :=
  ∀ w limit, serve (durableJobControl w) limit request =
    (do return respondJob (← write fun s => jobStep s (call w.draw)))

variable {call : EventIdDraw → JobCall}

theorem exec_served (h : ServedBy request call) :
    (serve (durableJobControl w) limit request).exec s =
      (respondJob ((jobStep s (call w.draw)).1.mapError raisedOf), (jobStep s (call w.draw)).2, []) := by
  rw [h w limit]
  rfl

/-- Failures of the request are reported truly exactly when the response can show every job that
    its write may leave. -/
theorem failure_iff (h : s.Sound) (haction : request.action ≠ .status)
    (hjobId : ∀ s, request.jobId = some s → isIdentifier s = true)
    (hserved : ServedBy request call) {answer : BackendAnswer} :
    (∀ w, w.answer = answer → ∀ limit response, (answered w limit request s).1 = .ok response →
      response.ok = false → (answered w limit request s).2.1 = s) ↔
      ∀ draw job s', jobStep s (call draw) = (.ok job, s') → Shown job.toJobRow := by
  constructor
  · intro htrue draw
    have hlimit : requireEventRefLimit 20 = .ok () := rfl
    have hw := htrue ⟨draw, none, none, none, none, answer⟩ rfl 20
    rw [answered_serve hlimit haction, exec_served hserved] at hw
    exact (respond_write h hjobId).mp hw
  · intro hshown w hw limit response hresponse hfailed
    cases hlimit : requireEventRefLimit limit with
    | error raised =>
      rw [answered_refused hlimit] at hresponse
      cases hresponse
    | ok u =>
      rw [answered_serve hlimit haction, exec_served hserved] at hresponse ⊢
      exact (respond_write h hjobId).mpr (hshown w.draw) response hresponse hfailed

/-- A transition leaves only jobs that a response can show, exactly when the rows that it may
    move have a budget of at most 100. -/
theorem transition_shown (h : s.Sound) {jobId : String} {target : TaskState}
    {workerId : Option String} (hjobId : isIdentifier jobId = true)
    (hworker : ∀ r plan, planJobTransition r target workerId none = .ok plan →
      ∀ w, plan.workerId = some w → isIdentifier w = true) :
    (∀ draw job s', jobStep s (.transition
        { jobId, targetState := target, expectedVersion := version, workerId } draw) = (.ok job, s') →
      Shown job.toJobRow) ↔
    ∀ r ∈ s.records, r.jobId = jobId → r.version = version → Allowed r target workerId →
      r.maxAttempts ≤ 100 := by
  constructor
  · rintro hshown r hr rfl rfl ⟨plan, hplan⟩
    obtain ⟨eventId, hfresh⟩ := exists_fresh s
    have hvalid := h.checked r hr
    have hargs : TransitionArgs.check { jobId := r.jobId, targetState := target, workerId
                                        expectedVersion := r.version } = .ok () := by
      unfold TransitionArgs.check
      simp only [bind_eq_ok, requireText_ok, requirePositiveInt_ok]
      exact ⟨(), hvalid.jobId, (), hvalid.version, rfl⟩
    obtain ⟨job, s', hout, hjob, -⟩ := transition_commits h hargs hr rfl rfl hplan hfresh
    have hmax := (hshown (some eventId) job s' hout).maxAttempts
    rw [hjob] at hmax
    exact hmax
  · intro hbudget draw job s' hout
    obtain ⟨old, hold, plan, eventId, hid, hversion, hplan, hjob, -⟩ :=
      transition_ok h.logged.keyed hout
    have hidentifier : isIdentifier old.jobId = true := (show old.jobId = jobId from hid) ▸ hjobId
    rw [hjob]
    exact ⟨hidentifier, hworker old plan hplan, hbudget old hold hid hversion ⟨plan, hplan⟩⟩

/-- A checkpoint keeps the worker, which a response must be able to show too. -/
theorem checkpoint_shown (h : s.Sound) {jobId checkpointRef : String}
    {evidenceRef : Option String} (hjobId : isIdentifier jobId = true)
    (hargs : CheckpointArgs.check { jobId, checkpointRef, expectedVersion := version, evidenceRef } =
      .ok ()) :
    (∀ draw job s', jobStep s (.checkpoint
        { jobId, checkpointRef, expectedVersion := version, evidenceRef } draw) = (.ok job, s') →
      Shown job.toJobRow) ↔
    ∀ r ∈ s.records, r.jobId = jobId → r.version = version → requireOpen r.state = .ok () →
      r.maxAttempts ≤ 100 ∧ ∀ w, r.workerId = some w → isIdentifier w = true := by
  constructor
  · rintro hshown r hr rfl rfl hopen
    obtain ⟨eventId, hfresh⟩ := exists_fresh s
    obtain ⟨job, s', hout, hjob, -⟩ := checkpoint_commits h hargs hr rfl rfl hopen hfresh
    have hfits := hshown (some eventId) job s' hout
    rw [hjob] at hfits
    exact ⟨hfits.maxAttempts, hfits.workerId⟩
  · intro hfits draw job s' hout
    obtain ⟨old, hold, eventId, hid, hversion, hopen, hjob, -⟩ := checkpoint_ok h.logged.keyed hout
    obtain ⟨hmax, hworker⟩ := hfits old hold hid hversion hopen
    have hidentifier : isIdentifier old.jobId = true := (show old.jobId = jobId from hid) ▸ hjobId
    rw [hjob]
    exact ⟨hidentifier, hworker, hmax⟩

end Writes

section Operations

variable {s : JobStore} {request : OperatorRequest} {jobId workerId operationRef : String}
  {version limit : Int}

/-- The call of the coordinator. -/
def executeCall (jobId workerId operationRef : String) (version : Int) (w : Surroundings) :
    ExecuteCall where
  jobId := jobId
  expectedVersion := version
  workerId := workerId
  operationRef := operationRef
  answer := w.answer
  executingDraw := w.executingDraw
  recoveryDraw := w.recoveryDraw
  checkpointDraw := w.checkpointDraw
  verifyingDraw := w.verifyingDraw

theorem exec_serve_execute (haction : request.action = .jobExecute)
    (hjobId : request.jobId = some jobId) (hversion : request.expectedVersion = some version)
    (hworker : request.workerId = some workerId) (href : request.operationRef = some operationRef)
    (w : Surroundings) :
    (serve (durableJobControl w) limit request).exec s =
      (respondOutcome request
        ((((execute (executeCall jobId workerId operationRef version w)).exec s).1.mapError
          raisedOfExecution).map some),
        ((execute (executeCall jobId workerId operationRef version w)).exec s).2) := by
  unfold serve
  rw [haction, hjobId, hversion, hworker, href]
  dsimp only [durableJobControl, controlExecute]
  rw [exec_bind, exec_bind]
  simp only [pure_eq, Proc.exec, List.append_nil]
  rfl

theorem respond_complete {outcome : JobExecutionOutcome} {evidenceRef : String}
    (hjobId : ∀ s, request.jobId = some s → isIdentifier s = true)
    (hsuccess : outcome.success = true) (hevidence : outcome.evidenceRef = some evidenceRef) :
    ∃ response, respondRaised request.jobId (respondOutcome request (.ok (some outcome))) =
        .ok response ∧
      (response.ok = true ↔ Shown outcome.job.toJobRow ∧ isIdentifier evidenceRef = true) := by
  have hcode : isIdentifier "OK" = true := by decide
  obtain ⟨response, hresponse, hiff⟩ :=
    @respond_shown outcome.job request.jobId true "OK" [evidenceRef] hjobId hcode
  refine ⟨response, ?_, ?_⟩
  · rw [← hresponse]
    unfold respondOutcome outcomeCode
    dsimp only
    rw [hsuccess, hevidence]
    rfl
  · rw [hiff]
    simp

/-- An operation that succeeds is reported as a success exactly when the response can show its
    job and its evidence. -/
theorem success_iff (h : s.Sound) (haction : request.action = .jobExecute)
    (hjobId : request.jobId = some jobId) (hversion : request.expectedVersion = some version)
    (hworker : request.workerId = some workerId) (href : request.operationRef = some operationRef)
    {answer : BackendAnswer}
    (hevidence : ∀ evidenceRef, answer = .result (.success evidenceRef) →
      Text.isBlank evidenceRef = false) :
    (∀ w, w.answer = answer → ∀ limit, requireEventRefLimit limit = .ok () →
      ∀ evidenceRef, answer = .result (.success evidenceRef) →
        Invoked (answered w limit request s).2.2 →
        ReachedVerifying request.jobId (answered w limit request s).2.1 →
          ∃ response, (answered w limit request s).1 = .ok response ∧ response.ok = true) ↔
      ∀ evidenceRef, answer = .result (.success evidenceRef) → ∀ r ∈ s.records,
        Addressed request r → Runnable request r →
          r.maxAttempts ≤ 100 ∧ isIdentifier evidenceRef = true := by
  have hstatus : request.action ≠ .status := by rw [haction]; decide
  have hids := request.valid.identifiers
  have hidentifier : ∀ s, request.jobId = some s → isIdentifier s = true :=
    hids _ (by simp [OperatorFields.identifiers])
  have hworkerId : isIdentifier workerId = true :=
    hids request.workerId (by simp [OperatorFields.identifiers]) _ hworker
  constructor
  · rintro htrue evidenceRef rfl r hr ⟨hid, hat⟩ ⟨hstate, hheld, hbudget, ref, href', hrefok⟩
    have hlimit : requireEventRefLimit 20 = .ok () := rfl
    have hjob : r.jobId = jobId := Option.some.inj (hid.symm.trans hjobId)
    have hver : r.version = version := Option.some.inj (hat.symm.trans hversion)
    have hop : ref = operationRef := Option.some.inj (href'.symm.trans href)
    subst hjob hver hop
    obtain ⟨executingDraw, checkpointDraw, verifyingDraw, outcome, s', notes, hout, hinvoked,
        hsuccess, houtcome, hmax, hmem, hoid, hverifying⟩ :=
      execute_commits h hr hstate (hheld.trans hworker) hbudget hrefok (hevidence evidenceRef rfl) none
    let w : Surroundings := ⟨none, executingDraw, none, checkpointDraw, verifyingDraw,
      .result (.success evidenceRef)⟩
    have hcall : (execute (executeCall r.jobId workerId ref r.version w)).exec s =
        (.ok outcome, s', notes) := hout
    have hanswered := htrue w rfl 20 hlimit evidenceRef rfl
    rw [answered_serve hlimit hstatus, exec_serve_execute haction hjobId hversion hworker href w,
      hcall] at hanswered
    obtain ⟨response, hresponse, hok⟩ :=
      hanswered hinvoked ⟨outcome.job.toJobRow, hmem, hid.trans (congrArg some hoid.symm), hverifying⟩
    obtain ⟨response', hresponse', hiff⟩ := respond_complete hidentifier hsuccess houtcome
    have hsame : response = response' := Except.ok.inj (hresponse.symm.trans hresponse')
    rw [hsame] at hok
    obtain ⟨hshown, hevident⟩ := hiff.mp hok
    exact ⟨hmax ▸ hshown.maxAttempts, hevident⟩
  · rintro hfits w hw limit hlimit evidenceRef rfl hinvoked hreached
    rw [answered_serve hlimit hstatus, exec_serve_execute haction hjobId hversion hworker href w]
      at hinvoked hreached ⊢
    dsimp only at hinvoked hreached ⊢
    obtain ⟨r, hr, hid, hat, hstate, hheld, hbudget, hrefok, hend⟩ := exec_execute h hw hinvoked
    obtain ⟨hmax, hevident⟩ := hfits evidenceRef rfl r hr
      ⟨hjobId.trans (congrArg some hid.symm), hversion.trans (congrArg some hat.symm)⟩
      ⟨hstate, hheld.trans hworker.symm, hbudget, operationRef, href, hrefok⟩
    rcases hend with ⟨outcome, hout, hcompleted⟩ | hstill
    · obtain ⟨response, hresponse, hiff⟩ :=
        respond_complete hidentifier hcompleted.success hcompleted.evidenceRef
      refine ⟨response, ?_, hiff.mpr ⟨⟨?_, ?_, ?_⟩, hevident⟩⟩
      · rw [hout]
        exact hresponse
      · rw [hcompleted.jobId]
        exact hidentifier jobId hjobId
      · intro worker hset
        rcases hcompleted.workerId with hnone | hsome
        · rw [hnone] at hset
          cases hset
        · rw [hsome] at hset
          cases hset
          exact hworkerId
      · rw [hcompleted.maxAttempts]
        exact hmax
    · obtain ⟨r', hr', hid', hverifying⟩ := hreached
      have hexecuting := hstill r' hr' (Option.some.inj (hid'.symm.trans hjobId))
      rw [hverifying] at hexecuting
      cases hexecuting

end Operations

/-- What the constructor of a backend result has checked of its texts. -/
def Constructed : BackendAnswer → Prop
  | .result (.success evidenceRef) => Text.isBlank evidenceRef = false
  | .result (.failure evidenceRef _ errorCode) =>
    (∀ s, evidenceRef = some s → Text.isBlank s = false) ∧
      ∀ s, errorCode = some s → Text.isBlank s = false
  | _ => True

theorem isBlank_identifier {s : String} (h : isIdentifier s = true) : Text.isBlank s = false := by
  have htext := isIdentifier_wireText h
  have hne : s ≠ "" := by
    rintro rfl
    cases h
  rw [← Bool.not_eq_true]
  intro hblank
  cases hchars : s.toList with
  | nil => exact hne (String.toList_eq_nil_iff.mp hchars)
  | cons c rest =>
    have hmem : c ∈ s.toList := by rw [hchars]; exact List.mem_cons_self
    obtain ⟨hlow, hhigh, -⟩ := identifierChar_code (htext c hmem)
    have hspace := List.all_eq_true.mp hblank c hmem
    simp only [Text.isSpace, Bool.or_eq_true, Bool.and_eq_true, decide_eq_true_eq] at hspace
    omega

theorem addressed_iff {request : OperatorRequest} {jobId : String}
    (hjobId : request.jobId = some jobId) (hversion : request.expectedVersion = some version)
    {r : JobRow} : Addressed request r ↔ r.jobId = jobId ∧ r.version = version := by
  unfold Addressed
  rw [hjobId, hversion]
  simp only [Option.some.injEq, eq_comm]

section Requests

variable {s : JobStore} {request : OperatorRequest} {answer : BackendAnswer}

/-- Of a request of one write, only the answers that report a failure have something to say. -/
theorem truthful_write (hmem : request.action ∈ writeActions) :
    Truthful s request answer ↔ ∀ w, w.answer = answer → ∀ limit response,
      (answered w limit request s).1 = .ok response → response.ok = false →
        (answered w limit request s).2.1 = s := by
  refine ⟨fun htrue => htrue.failure hmem, fun hfailure => ⟨fun _ => hfailure, fun heq => ?_⟩⟩
  rw [heq] at hmem
  exact absurd hmem (by decide)

theorem field_some {α : Type} {name : String} {o : Option α} (hfits : Fits request.action name o.isSome)
    (hmem : name ∈ actionRequiredFields request.action) : ∃ v, o = some v :=
  Option.isSome_iff_exists.mp (hfits.2 hmem)

theorem truthful_move (h : s.Sound) (hfitting : Fitting request.toOperatorFields)
    (hmem : request.action ∈ [OperatorAction.jobReady, .jobClaim, .jobGate]) {target : TaskState}
    {workerId : Option String}
    (hserve : ∀ w limit, serve (durableJobControl w) limit request =
      (do return respondJob (← move request.jobId target request.expectedVersion workerId w.draw)))
    (hworker : ∀ r plan, planJobTransition r target workerId none = .ok plan →
      ∀ w, plan.workerId = some w → isIdentifier w = true) :
    Truthful s request answer ↔ ∀ r ∈ s.records, Addressed request r →
      Allowed r target workerId → r.maxAttempts ≤ 100 := by
  have hwrites : request.action ∈ writeActions := by
    revert hmem
    cases request.action <;> decide
  have hstatus : request.action ≠ .status := by
    rintro heq
    rw [heq] at hmem
    exact absurd hmem (by decide)
  have hneeded : "job_id" ∈ actionRequiredFields request.action ∧
      "expected_version" ∈ actionRequiredFields request.action := by
    revert hmem
    cases request.action <;> decide
  obtain ⟨jobId, hjobId⟩ := field_some hfitting.jobId hneeded.1
  obtain ⟨version, hversion⟩ := field_some hfitting.expectedVersion hneeded.2
  have hidentifier : ∀ s, request.jobId = some s → isIdentifier s = true :=
    request.valid.identifiers _ (by simp [OperatorFields.identifiers])
  have hserved : ServedBy request fun draw => .transition
      { jobId, targetState := target, expectedVersion := version, workerId } draw := by
    intro w limit
    rw [hserve w limit, hjobId, hversion]
    rfl
  rw [truthful_write hwrites, failure_iff h hstatus hidentifier hserved,
    transition_shown h (hidentifier jobId hjobId) hworker]
  simp only [addressed_iff hjobId hversion, and_imp]

theorem truthful_other (hmem : request.action ∉ writeActions) (hexecute : request.action ≠ .jobExecute) :
    Truthful s request answer :=
  ⟨fun heq => absurd heq hmem, fun heq => absurd heq hexecute⟩

/-- A job that an operator creates can be shown. -/
theorem truthful_create (h : s.Sound) (hfitting : Fitting request.toOperatorFields)
    (haction : request.action = .jobCreate) : Truthful s request answer := by
  have hvalid := request.valid
  have hidentifier : ∀ s, request.jobId = some s → isIdentifier s = true :=
    hvalid.identifiers _ (by simp [OperatorFields.identifiers])
  obtain ⟨jobId, hjobId⟩ := field_some hfitting.jobId (by rw [haction]; decide)
  obtain ⟨work, hwork⟩ := field_some hfitting.workOrderRef (by rw [haction]; decide)
  obtain ⟨project, hproject⟩ := field_some hfitting.projectId (by rw [haction]; decide)
  obtain ⟨budget, hbudget⟩ := Option.isSome_iff_exists.mp (hfitting.budget haction)
  have hserved : ServedBy request fun draw => .createJob jobId work project budget draw := by
    intro w limit
    unfold serve
    rw [haction, hjobId, hwork, hproject, hbudget]
    rfl
  rw [truthful_write (by rw [haction]; decide), failure_iff h (by rw [haction]; decide) hidentifier
    hserved]
  intro draw job s' hout
  obtain ⟨hnew, -⟩ := createJob_ok hout
  rw [Job.make_ok hnew]
  exact ⟨hidentifier jobId hjobId, by simp, (hvalid.maxAttempts budget hbudget).2⟩

/-- The answer to a request with the fields of its action is the truth about the store exactly when
    the response can show what the request may write. -/
theorem truthful_iff (h : s.Sound) (hfitting : Fitting request.toOperatorFields)
    (hanswer : Constructed answer) :
    Truthful s request answer ↔ Representable s request answer := by
  have hids := request.valid.identifiers
  have hidentifier : ∀ s, request.jobId = some s → isIdentifier s = true :=
    hids _ (by simp [OperatorFields.identifiers])
  have hasked {target : TaskState} (hneeded : "worker_id" ∈ actionRequiredFields request.action) :
      ∀ r plan, planJobTransition r target request.workerId none = .ok plan →
        ∀ w, plan.workerId = some w → isIdentifier w = true := by
    intro r plan hplan w hw
    obtain ⟨worker, hworker⟩ := field_some hfitting.workerId hneeded
    rw [hworker] at hplan
    rcases planJobTransition_asked hplan with hnone | hsame
    · rw [hnone] at hw
      cases hw
    · rw [hsame] at hw
      cases hw
      exact hids request.workerId (by simp [OperatorFields.identifiers]) _ hworker
  unfold Representable
  cases haction : request.action with
  | status => exact iff_of_true (truthful_other (by rw [haction]; decide) (by rw [haction]; decide)) trivial
  | jobGet => exact iff_of_true (truthful_other (by rw [haction]; decide) (by rw [haction]; decide)) trivial
  | jobEvents =>
    exact iff_of_true (truthful_other (by rw [haction]; decide) (by rw [haction]; decide)) trivial
  | jobCreate => exact iff_of_true (truthful_create h hfitting haction) trivial
  | jobReady =>
    refine truthful_move h hfitting (by rw [haction]; decide) (fun w limit => ?_) fun r plan hplan => ?_
    · unfold serve
      rw [haction]
      rfl
    · rw [planJobTransition_released hplan rfl]
      simp
  | jobClaim =>
    refine truthful_move h hfitting (by rw [haction]; decide) (fun w limit => ?_)
      (hasked (by rw [haction]; decide))
    unfold serve
    rw [haction]
    rfl
  | jobGate =>
    refine truthful_move h hfitting (by rw [haction]; decide) (fun w limit => ?_)
      (hasked (by rw [haction]; decide))
    unfold serve
    rw [haction]
    rfl
  | jobCheckpoint =>
    obtain ⟨jobId, hjobId⟩ := field_some hfitting.jobId (by rw [haction]; decide)
    obtain ⟨version, hversion⟩ := field_some hfitting.expectedVersion (by rw [haction]; decide)
    obtain ⟨ref, href⟩ := field_some hfitting.checkpointRef (by rw [haction]; decide)
    have hserved : ServedBy request fun draw => .checkpoint
        { jobId, checkpointRef := ref, expectedVersion := version
          evidenceRef := request.evidenceRef } draw := by
      intro w limit
      unfold serve
      rw [haction, hjobId, hversion, href]
      rfl
    have hargs : CheckpointArgs.check { jobId, checkpointRef := ref, expectedVersion := version
                                        evidenceRef := request.evidenceRef } = .ok () := by
      unfold CheckpointArgs.check
      simp only [bind_eq_ok, requireText_ok, requirePositiveInt_ok, requireOptionalText_ok]
      refine ⟨(), isBlank_identifier (hidentifier jobId hjobId), (), isBlank_identifier ?_, (),
        request.valid.expectedVersion version hversion, fun v hv => isBlank_identifier ?_⟩
      · exact hids request.checkpointRef (by simp [OperatorFields.identifiers]) ref href
      · exact hids request.evidenceRef (by simp [OperatorFields.identifiers]) v hv
    rw [truthful_write (by rw [haction]; decide), failure_iff h (by rw [haction]; decide) hidentifier
      hserved, checkpoint_shown h (hidentifier jobId hjobId) hargs]
    simp only [addressed_iff hjobId hversion, and_imp]
  | jobExecute =>
    obtain ⟨jobId, hjobId⟩ := field_some hfitting.jobId (by rw [haction]; decide)
    obtain ⟨version, hversion⟩ := field_some hfitting.expectedVersion (by rw [haction]; decide)
    obtain ⟨worker, hworker⟩ := field_some hfitting.workerId (by rw [haction]; decide)
    obtain ⟨ref, href⟩ := field_some hfitting.operationRef (by rw [haction]; decide)
    rw [← success_iff h haction hjobId hversion hworker href fun e he => by subst he; exact hanswer]
    refine ⟨fun htrue => htrue.success haction, fun hsuccess => ⟨fun hmem => ?_, fun _ => hsuccess⟩⟩
    rw [haction] at hmem
    exact absurd hmem (by decide)

end Requests

/-- In every reachable job store, whoever wrote it, the answer to a parsed request is the truth about
    the store exactly when the response can show the row that the request may write. -/
theorem operator_response_truthful (calls : List JobCall) {payload : Payload}
    {request : OperatorRequest} (hparsed : parseOperatorRequest payload = .ok request)
    {answer : BackendAnswer} (hanswer : Constructed answer) :
    Truthful (run jobStep JobStore.empty calls).2 request answer ↔
      Representable (run jobStep JobStore.empty calls).2 request answer :=
  truthful_iff (run_sound calls) (parse_parsed hparsed).fitting hanswer

/-- `job.ready` of the first version of a job. -/
def readyPayload : Payload :=
  [(.lit "protocol_version", .str (.lit "operator.v1")), (.lit "action", .str (.lit "job.ready")),
    (.lit "job_id", .str (.lit "J")), (.lit "expected_version", .num (.int 1))]

def readyRequest : OperatorRequest where
  action := .jobReady
  jobId := some "J"
  expectedVersion := some 1
  checked := by decide

theorem parse_readyPayload : parseOperatorRequest readyPayload = .ok readyRequest := by
  decide +kernel

/-- A job with a budget of its creator. -/
def createdWith (maxAttempts : Int) : List JobCall :=
  [.createJob "J" "W" "P" maxAttempts (some "E1")]

def readyDraw : Surroundings := ⟨some "E2", none, none, none, none, .raised⟩

/-- A store may hold a job with 101 attempts; then `job.ready` commits and is answered as a
    failure. -/
theorem committed_ready_answered_failed :
    parseOperatorRequest readyPayload = .ok readyRequest ∧
    ((answered readyDraw 20 readyRequest
        (run jobStep JobStore.empty (createdWith 101)).2).1.toOption.map
      fun response => (response.ok, response.code)) =
        some (false, "OPERATOR_ATTEMPT_BUDGET_INVALID") ∧
    (answered readyDraw 20 readyRequest
        (run jobStep JobStore.empty (createdWith 101)).2).2.1.records.map JobRow.state =
      [.ready] ∧
    ¬ Truthful (run jobStep JobStore.empty (createdWith 101)).2 readyRequest .raised := by
  have hbefore : (run jobStep JobStore.empty (createdWith 101)).2.records.map JobRow.state =
      [.new] := by
    decide +kernel
  have hresponse : ((answered readyDraw 20 readyRequest
        (run jobStep JobStore.empty (createdWith 101)).2).1.toOption.map
      fun response => (response.ok, response.code)) =
        some (false, "OPERATOR_ATTEMPT_BUDGET_INVALID") := by
    decide +kernel
  have hafter : (answered readyDraw 20 readyRequest
        (run jobStep JobStore.empty (createdWith 101)).2).2.1.records.map JobRow.state =
      [.ready] := by
    decide +kernel
  refine ⟨parse_readyPayload, hresponse, hafter, fun htrue => ?_⟩
  generalize (run jobStep JobStore.empty (createdWith 101)).2 = s at *
  cases hanswer : (answered readyDraw 20 readyRequest s).1 with
  | error raised =>
    rw [hanswer] at hresponse
    cases hresponse
  | ok response =>
    rw [hanswer] at hresponse
    have hpair := Option.some.inj hresponse
    have hsame := htrue.failure (by decide) readyDraw rfl 20 response hanswer
      (congrArg Prod.fst hpair)
    rw [hsame, hbefore] at hafter
    cases hafter

/-- With three attempts the answer is the truth. -/
theorem operator_response_truthful_sample :
    (parseOperatorRequest readyPayload = .ok readyRequest ∧ Constructed .raised) ∧
      Truthful (run jobStep JobStore.empty (createdWith 3)).2 readyRequest .raised := by
  have hbudget : ∀ r ∈ (run jobStep JobStore.empty (createdWith 3)).2.records,
      r.maxAttempts ≤ 100 := by
    decide +kernel
  refine ⟨⟨parse_readyPayload, trivial⟩, ?_⟩
  exact (operator_response_truthful (createdWith 3) parse_readyPayload
    (show Constructed .raised from trivial)).mpr
    fun r hr _ _ => hbudget r hr

end AConductor.Operator

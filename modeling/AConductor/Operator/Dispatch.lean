import AConductor.Job.Execution
import AConductor.Operator.Protocol

/-!
# The operator dispatcher

`src/a_conductor/operator_dispatch.py`: one request, one method of a job service, one
response. The service is any that the protocol class allows: each of its methods is a call on a
store of its own. What a method raises counts by its `code`, if that is a text. The checks of
Python types are the types of the arguments here.
-/

namespace AConductor.Operator

open Proc Job

/-- What is raised: its `code`, if it has one. -/
abbrev Raised := Option String

/-- `OperatorJobControl` (`operator_dispatch.py:21-71`). -/
structure OperatorJobControl (σ ε : Type) where
  createJob (jobId workOrderRef projectId : Option String) (maxAttempts : Option Int) :
    Proc σ ε (Except Raised JobRuntimeState)
  getJob (jobId : Option String) : Proc σ ε (Except Raised JobRuntimeState)
  listEvents (jobId : Option String) : Proc σ ε (Except Raised (List JobEvent))
  markReady (jobId : Option String) (expectedVersion : Option Int) :
    Proc σ ε (Except Raised JobRuntimeState)
  claim (jobId : Option String) (expectedVersion : Option Int) (workerId : Option String) :
    Proc σ ε (Except Raised JobRuntimeState)
  gate (jobId : Option String) (expectedVersion : Option Int) (workerId : Option String) :
    Proc σ ε (Except Raised JobRuntimeState)
  checkpoint (jobId : Option String) (expectedVersion : Option Int)
    (checkpointRef evidenceRef : Option String) : Proc σ ε (Except Raised JobRuntimeState)
  /-- `none` is something that is no `JobExecutionOutcome`. -/
  executeOperation (jobId : Option String) (expectedVersion : Option Int)
    (workerId operationRef : Option String) :
    Proc σ ε (Except Raised (Option JobExecutionOutcome))

/-- `StatusProvider` (`operator_dispatch.py:74`); `none` is no `OperatorResponse`. -/
abbrev StatusProvider (σ ε : Type) := Proc σ ε (Except Raised (Option OperatorResponse))

/-- The constructor call `OperatorResponse(…)`, whose error carries its code. -/
def buildResponse (f : ResponseFields) : Except Raised OperatorResponse :=
  (OperatorResponse.make f).mapError some

/-- `_response_from_job` (`operator_dispatch.py:77-95`). -/
def responseFromJob (job : JobRuntimeState) (ok : Bool) (code : String) (refs : List String) :
    Except Raised OperatorResponse :=
  buildResponse {
    ok, code, jobId := some job.jobId, state := some job.state.value, version := some job.version
    workerId := job.workerId, attemptCount := some job.attemptCount
    maxAttempts := some job.maxAttempts, refs }

/-- `_SAFE_CODE_RE` (`operator_dispatch.py:18`), and no leading hyphen. -/
def isSafeCode (s : String) : Bool :=
  s ≠ "" && s.length ≤ 160 && s.toList.all identifierChar && !Text.startsWith s "-"

/-- `_safe_error_code` (`operator_dispatch.py:98-102`). -/
def safeErrorCode : Raised → String
  | some code => if isSafeCode code then code else "OPERATOR_INTERNAL_ERROR"
  | none => "OPERATOR_INTERNAL_ERROR"

/-- `_require_event_ref_limit` (`operator_dispatch.py:105-108`). -/
def requireEventRefLimit (value : Int) : Except Raised Unit :=
  Except.rejectIf (value < 0 ∨ 100 < value) none

/-- A response with the job of an answer. -/
def respondJob : Except Raised JobRuntimeState → Except Raised OperatorResponse
  | .error raised => .error raised
  | .ok job => responseFromJob job true "OK" []

/-- The response to `job.events` (`operator_dispatch.py:137-140`). -/
def respondEvents (request : OperatorRequest) (maxEventRefs : Int) :
    Except Raised (List JobEvent) → Except Raised OperatorResponse
  | .error raised => .error raised
  | .ok events =>
    buildResponse {
      ok := true, code := "OK", jobId := request.jobId
      refs := (events.take maxEventRefs.toNat).map JobEvent.eventId }

/-- `outcome.error_code or "JOB_EXECUTION_FAILED"`, of an outcome that failed. -/
def outcomeCode (outcome : JobExecutionOutcome) : String :=
  if outcome.success then "OK"
  else match outcome.errorCode with
  | none => "JOB_EXECUTION_FAILED"
  | some code => if code = "" then "JOB_EXECUTION_FAILED" else code

/-- The response to `job.execute` (`operator_dispatch.py:184-207`). -/
def respondOutcome (request : OperatorRequest) :
    Except Raised (Option JobExecutionOutcome) → Except Raised OperatorResponse
  | .error raised => .error raised
  | .ok none =>
    buildResponse { ok := false, code := "OPERATOR_INTERNAL_ERROR", jobId := request.jobId }
  | .ok (some outcome) =>
    responseFromJob outcome.job outcome.success (outcomeCode outcome) outcome.evidenceRef.toList

variable {σ ε : Type}

/-- The request of a job, to the method of its action (`operator_dispatch.py:133-214`). -/
def serve (service : OperatorJobControl σ ε) (maxEventRefs : Int) (request : OperatorRequest) :
    Proc σ ε (Except Raised OperatorResponse) :=
  match request.action with
  | .jobGet => do return respondJob (← service.getJob request.jobId)
  | .jobEvents => do
    return respondEvents request maxEventRefs (← service.listEvents request.jobId)
  | .jobCreate => do
    return respondJob (← service.createJob request.jobId request.workOrderRef request.projectId
      request.maxAttempts)
  | .jobReady => do
    return respondJob (← service.markReady request.jobId request.expectedVersion)
  | .jobClaim => do
    return respondJob (← service.claim request.jobId request.expectedVersion request.workerId)
  | .jobGate => do
    return respondJob (← service.gate request.jobId request.expectedVersion request.workerId)
  | .jobCheckpoint => do
    return respondJob (← service.checkpoint request.jobId request.expectedVersion
      request.checkpointRef request.evidenceRef)
  | .jobExecute => do
    return respondOutcome request (← service.executeOperation request.jobId
      request.expectedVersion request.workerId request.operationRef)
  | .status =>
    return buildResponse { ok := false, code := "OPERATOR_ACTION_UNSUPPORTED", jobId := request.jobId }

/-- The `except BaseException` clauses (`operator_dispatch.py:130-131, 215-220`): a response that
    may itself be refused. -/
def respondRaised (jobId : Option String) (out : Except Raised OperatorResponse) :
    Except Raised OperatorResponse :=
  match out with
  | .ok response => .ok response
  | .error raised => buildResponse { ok := false, code := safeErrorCode raised, jobId }

/-- The request of a status (`operator_dispatch.py:122-131`). -/
def serveStatus : Option (StatusProvider σ ε) → Proc σ ε (Except Raised OperatorResponse)
  | none => return buildResponse { ok := false, code := "OPERATOR_STATUS_UNAVAILABLE" }
  | some provider => do
    match ← provider with
    | .error raised => return .error raised
    | .ok none => return buildResponse { ok := false, code := "OPERATOR_INTERNAL_ERROR" }
    | .ok (some response) => return .ok response

/-- `dispatch_operator_request` (`operator_dispatch.py:111-220`). -/
def dispatchOperatorRequest (service : OperatorJobControl σ ε)
    (statusProvider : Option (StatusProvider σ ε)) (maxEventRefs : Int)
    (request : OperatorRequest) : Proc σ ε (Except Raised OperatorResponse) :=
  match requireEventRefLimit maxEventRefs with
  | .error raised => return .error raised
  | .ok () =>
    match request.action with
    | .status => do return respondRaised none (← serveStatus statusProvider)
    | _ => do return respondRaised request.jobId (← serve service maxEventRefs request)

end AConductor.Operator

import AConductor.Lib.Json
import AConductor.Lib.Text
import AConductor.Lib.Transaction

/-!
# The operator protocol

`src/a_conductor/operator_protocol.py`: the bounded requests and responses of an operator,
which exist only with what their constructors check, and the parser of a request. A value
of a payload is plain data; a payload whose keys are not all texts is refused at once and
left out. `protocol_version` is `operator.v1` in every request.
-/

namespace AConductor.Operator

open Except

/-- Plain data of the runtime. A float stands for its own literal. -/
abbrev Value := Json (Json.Number PyStr)

/-- A dictionary, whose keys are distinct. -/
abbrev Payload := List (PyStr × Value)

/-- `repr` of a number. -/
def numberText : Json.Number PyStr → PyStr
  | .int n => Json.intText n
  | .float literal => literal

/-- `OPERATOR_PROTOCOL_VERSION` (`operator_protocol.py:17`). -/
def operatorProtocolVersion : String := "operator.v1"

/-- `OperatorAction` (`operator_protocol.py:28-37`). -/
inductive OperatorAction where
  | status
  | jobGet
  | jobEvents
  | jobCreate
  | jobReady
  | jobClaim
  | jobGate
  | jobCheckpoint
  | jobExecute
  deriving DecidableEq, Repr

def OperatorAction.value : OperatorAction → String
  | .status => "status"
  | .jobGet => "job.get"
  | .jobEvents => "job.events"
  | .jobCreate => "job.create"
  | .jobReady => "job.ready"
  | .jobClaim => "job.claim"
  | .jobGate => "job.gate"
  | .jobCheckpoint => "job.checkpoint"
  | .jobExecute => "job.execute"

def OperatorAction.all : List OperatorAction :=
  [.status, .jobGet, .jobEvents, .jobCreate, .jobReady, .jobClaim, .jobGate, .jobCheckpoint,
    .jobExecute]

/-- `OperatorAction(text)`. -/
def OperatorAction.ofText? (text : PyStr) : Option OperatorAction :=
  OperatorAction.all.find? fun action => PyStr.lit action.value = text

/-- A character of `_IDENTIFIER_RE` (`operator_protocol.py:19`). -/
def identifierChar (c : Char) : Bool := c.isAlphanum || c ∈ ['.', '_', '/', '@', ':', '-']

/-- What `_require_identifier` takes (`operator_protocol.py:40-49`). -/
def isIdentifier (s : String) : Bool :=
  s ≠ "" && s.length ≤ 160 && !Text.startsWith s "-" && s.toList.all identifierChar &&
    s ≠ ".." && !Text.startsWith s "../" && !Text.hasInfix s "/../" &&
    !"/..".toList.isSuffixOf s.toList

/-- A text without lone surrogates. -/
def asString (s : PyStr) : Option String := s.toChars?.map String.ofList

/-- `_require_identifier`. -/
def requireIdentifier : Value → Except String String
  | .str s =>
    match asString s with
    | some text => if isIdentifier text then .ok text else .error "OPERATOR_IDENTIFIER_INVALID"
    | none => .error "OPERATOR_IDENTIFIER_INVALID"
  | _ => .error "OPERATOR_IDENTIFIER_INVALID"

/-- `_require_positive_int` (`operator_protocol.py:58-61`). -/
def requirePositiveInt (code : String) : Value → Except String Int
  | .num (.int n) => if n < 1 then .error code else .ok n
  | _ => .error code

/-- `_require_attempt_budget` (`operator_protocol.py:64-68`). -/
def requireAttemptBudget (value : Value) : Except String Int := do
  let n ← requirePositiveInt "OPERATOR_ATTEMPT_BUDGET_INVALID" value
  if 100 < n then .error "OPERATOR_ATTEMPT_BUDGET_INVALID" else .ok n

/-- The fields of `OperatorRequest` (`operator_protocol.py:71-83`). -/
structure OperatorFields where
  action : OperatorAction
  jobId : Option String := none
  workOrderRef : Option String := none
  projectId : Option String := none
  maxAttempts : Option Int := none
  expectedVersion : Option Int := none
  workerId : Option String := none
  checkpointRef : Option String := none
  evidenceRef : Option String := none
  operationRef : Option String := none
  deriving DecidableEq, Repr

def checkIdentifier (s : String) : Except String Unit :=
  rejectIf (!isIdentifier s) "OPERATOR_IDENTIFIER_INVALID"

def checkOptional {α : Type} (check : α → Except String Unit) : Option α → Except String Unit
  | none => .ok ()
  | some a => check a

/-- An integer of at least `least`. -/
def checkInt (least : Int) (code : String) (n : Int) : Except String Unit :=
  rejectIf (n < least) code

/-- `_require_attempt_budget` of an integer. -/
def checkAttemptBudget (n : Int) : Except String Unit :=
  rejectIf (n < 1 ∨ 100 < n) "OPERATOR_ATTEMPT_BUDGET_INVALID"

/-- The fields that are identifiers, in the order of their checks. -/
def OperatorFields.identifiers (f : OperatorFields) : List (Option String) :=
  [f.jobId, f.workOrderRef, f.projectId, f.workerId, f.checkpointRef, f.evidenceRef, f.operationRef]

/-- `OperatorRequest.__post_init__` (`operator_protocol.py:85-104`). -/
def OperatorFields.check (f : OperatorFields) : Except String Unit := do
  f.identifiers.forM (checkOptional checkIdentifier)
  checkOptional (checkInt 1 "OPERATOR_VERSION_INVALID") f.expectedVersion
  checkOptional checkAttemptBudget f.maxAttempts

structure OperatorRequest extends OperatorFields where
  checked : toOperatorFields.check = .ok ()
  deriving DecidableEq, Repr

/-- The constructor call `OperatorRequest(…)`. -/
def OperatorRequest.make (f : OperatorFields) : Except String OperatorRequest :=
  match h : f.check with
  | .ok () => .ok ⟨f, h⟩
  | .error code => .error code

/-- `_ACTION_REQUIRED_FIELDS` (`operator_protocol.py:143-158`). -/
def actionRequiredFields : OperatorAction → List String
  | .status => []
  | .jobGet => ["job_id"]
  | .jobEvents => ["job_id"]
  | .jobCreate => ["job_id", "work_order_ref", "project_id"]
  | .jobReady => ["job_id", "expected_version"]
  | .jobClaim => ["job_id", "expected_version", "worker_id"]
  | .jobGate => ["job_id", "expected_version", "worker_id"]
  | .jobCheckpoint => ["job_id", "expected_version", "checkpoint_ref"]
  | .jobExecute => ["job_id", "expected_version", "worker_id", "operation_ref"]

/-- `_ACTION_OPTIONAL_FIELDS` (`operator_protocol.py:159-169`). -/
def actionOptionalFields : OperatorAction → List String
  | .jobCreate => ["max_attempts"]
  | .jobCheckpoint => ["evidence_ref"]
  | _ => []

/-- `_BASE_FIELDS` (`operator_protocol.py:142`). -/
def baseFields : List String := ["protocol_version", "action"]

/-- `payload.get(key)`. -/
def getKey (payload : Payload) (key : String) : Value :=
  (Json.find? (.lit key) payload).getD .null

def hasKey (payload : Payload) (key : String) : Bool := (Json.find? (.lit key) payload).isSome

/-- `value == text`. -/
def isText (text : String) : Value → Bool
  | .str s => s = .lit text
  | _ => false

/-- `OperatorAction(raw_action)` (`operator_protocol.py:182-188`). -/
def parseAction : Value → Except String OperatorAction
  | .str s =>
    match OperatorAction.ofText? s with
    | some action => .ok action
    | none => .error "OPERATOR_ACTION_UNSUPPORTED"
  | _ => .error "OPERATOR_ACTION_UNSUPPORTED"

/-- The value of a field of the action, when the payload has it. -/
def parseField {α : Type} (payload : Payload) (action : OperatorAction) (key : String)
    (parse : Value → Except String α) : Except String (Option α) :=
  if key ∈ actionRequiredFields action ++ actionOptionalFields action then
    match Json.find? (.lit key) payload with
    | some value => (parse value).map some
    | none => .ok none
  else .ok none

/-- `parse_operator_request` (`operator_protocol.py:172-230`). -/
def parseOperatorRequest (payload : Payload) : Except String OperatorRequest := do
  rejectIf (!isText operatorProtocolVersion (getKey payload "protocol_version"))
    "OPERATOR_VERSION_UNSUPPORTED"
  let action ← parseAction (getKey payload "action")
  let required := actionRequiredFields action
  let allowed := baseFields ++ required ++ actionOptionalFields action
  rejectIf (!(required ++ baseFields).all (hasKey payload)) "OPERATOR_FIELDS_INVALID"
  rejectIf (!payload.all fun e => e.1 ∈ allowed.map PyStr.lit) "OPERATOR_FIELDS_INVALID"
  let jobId ← parseField payload action "job_id" requireIdentifier
  let workOrderRef ← parseField payload action "work_order_ref" requireIdentifier
  let projectId ← parseField payload action "project_id" requireIdentifier
  let workerId ← parseField payload action "worker_id" requireIdentifier
  let checkpointRef ← parseField payload action "checkpoint_ref" requireIdentifier
  let evidenceRef ← parseField payload action "evidence_ref" requireIdentifier
  let operationRef ← parseField payload action "operation_ref" requireIdentifier
  let expectedVersion ← parseField payload action "expected_version"
    (requirePositiveInt "OPERATOR_VERSION_INVALID")
  let given ← parseField payload action "max_attempts" requireAttemptBudget
  let maxAttempts := match given with
    | some n => some n
    | none => if action = .jobCreate then some 3 else none
  OperatorRequest.make { action, jobId, workOrderRef, projectId, maxAttempts, expectedVersion
                         workerId, checkpointRef, evidenceRef, operationRef }

/-- The fields of `OperatorResponse` (`operator_protocol.py:107-118`). -/
structure ResponseFields where
  ok : Bool
  code : String
  jobId : Option String := none
  state : Option String := none
  version : Option Int := none
  workerId : Option String := none
  attemptCount : Option Int := none
  maxAttempts : Option Int := none
  refs : List String := []
  deriving DecidableEq, Repr

/-- `OperatorResponse.__post_init__` (`operator_protocol.py:120-139`): the code of the first
    check that fails. -/
def ResponseFields.check (f : ResponseFields) : Except String Unit := do
  checkIdentifier f.code
  checkOptional checkIdentifier f.jobId
  checkOptional checkIdentifier f.state
  checkOptional checkIdentifier f.workerId
  checkOptional (checkInt 1 "OPERATOR_RESPONSE_INVALID") f.version
  checkOptional (checkInt 0 "OPERATOR_RESPONSE_INVALID") f.attemptCount
  checkOptional checkAttemptBudget f.maxAttempts
  f.refs.forM checkIdentifier

structure OperatorResponse extends ResponseFields where
  checked : toResponseFields.check = .ok ()
  deriving DecidableEq, Repr

/-- The constructor call `OperatorResponse(…)`. -/
def OperatorResponse.make (f : ResponseFields) : Except String OperatorResponse :=
  match h : f.check with
  | .ok () => .ok ⟨f, h⟩
  | .error code => .error code

end AConductor.Operator

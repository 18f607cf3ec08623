import AConductor.Lib.JsonCompact
import AConductor.Operator.Protocol

/-!
# The operator wire

`src/a_conductor/operator_wire.py`: requests and responses as bounded JSON objects. The
checks of Python types are the types of the arguments here. A text that nests too deep for the
runtime's stack has a field that is no identifier and no integer, and is refused here for that.
-/

namespace AConductor.Operator

/-- The bound on the digits of an integer, which the interpreter takes from 640 on. -/
structure WireEnv where
  maxDigits : Option Nat
  least : ∀ m ∈ maxDigits, 640 ≤ m

/-- A number within the bound. -/
def WireEnv.prints (env : WireEnv) : Json.Number PyStr → Bool
  | .int n => !env.maxDigits.any fun m => m < ((Json.intText n).filter Json.isDigit).length
  | .float _ => true

/-- `DEFAULT_REQUEST_MAX_BYTES` and `DEFAULT_RESPONSE_MAX_BYTES` (`operator_wire.py:22-23`). -/
def defaultRequestMaxBytes : Int := 4096

def defaultResponseMaxBytes : Int := 8192

/-- `_require_limit` (`operator_wire.py:32-35`). -/
def requireLimit (maxBytes : Int) : Except String Unit :=
  Except.rejectIf (maxBytes < 1) "OPERATOR_WIRE_LIMIT_INVALID"

/-- `_ensure_size` (`operator_wire.py:38-40`). -/
def ensureSize (data : List UInt8) (maxBytes : Int) : Except String Unit :=
  Except.rejectIf (maxBytes < data.length) "OPERATOR_WIRE_TOO_LARGE"

/-- The hooks of `_decode_object`: `_strict_object_pairs`, `_reject_constant` and the
    defaults (`operator_wire.py:43-53`). -/
def strictHooks (env : WireEnv) : Json.Hooks String (Json.Number PyStr) where
  parseInt text :=
    if env.maxDigits.any fun m => m < (text.filter Json.isDigit).length then
      .error "OPERATOR_WIRE_INVALID_JSON"
    else .ok (.num (.int (Json.intOf text)))
  parseFloat text := .ok (.num (.float text))
  parseConstant _ := .error "OPERATOR_WIRE_INVALID_JSON"
  objectPairs pairs :=
    if (pairs.map Prod.fst).Nodup then .ok (.obj pairs) else .error "OPERATOR_WIRE_DUPLICATE_KEY"

/-- `_decode_object` (`operator_wire.py:56-77`). -/
def decodeObject (env : WireEnv) (maxBytes : Int) (data : List UInt8) : Except String Payload := do
  requireLimit maxBytes
  ensureSize data maxBytes
  match PyStr.decode data with
  | none => .error "OPERATOR_WIRE_INVALID_UTF8"
  | some text =>
    match Json.loads (strictHooks env) text with
    | .error .decodeError => .error "OPERATOR_WIRE_INVALID_JSON"
    | .error (.hook code) => .error code
    | .ok (.obj entries) => .ok entries
    | .ok _ => .error "OPERATOR_WIRE_OBJECT_REQUIRED"

/-- `_encode_mapping` (`operator_wire.py:80-94`). -/
def encodeMapping (env : WireEnv) (maxBytes : Int) (mapping : Payload) :
    Except String (List UInt8) := do
  requireLimit maxBytes
  Except.rejectIf (!(Json.obj mapping).allNums env.prints) "OPERATOR_WIRE_ENCODE_FAILED"
  match PyStr.encode (Json.dumps Json.compactStyle numberText (Json.obj mapping).sortKeys) with
  | none => .error "OPERATOR_WIRE_ENCODE_FAILED"
  | some data => do
    ensureSize data maxBytes
    return data

/-- A mapping of the fields that are there. -/
def mappingOf (fields : List (String × Option Value)) : Payload :=
  fields.filterMap fun field => field.2.map fun value => (PyStr.lit field.1, value)

def textValue (s : String) : Value := .str (.lit s)

def intValue (n : Int) : Value := .num (.int n)

/-- The fields of `_request_mapping` (`operator_wire.py:97-118`). -/
def OperatorFields.entries (r : OperatorFields) : List (String × Option Value) :=
  [("protocol_version", some (textValue operatorProtocolVersion)),
    ("action", some (textValue r.action.value)),
    ("job_id", r.jobId.map textValue),
    ("work_order_ref", r.workOrderRef.map textValue),
    ("project_id", r.projectId.map textValue),
    ("max_attempts", r.maxAttempts.map intValue),
    ("expected_version", r.expectedVersion.map intValue),
    ("worker_id", r.workerId.map textValue),
    ("checkpoint_ref", r.checkpointRef.map textValue),
    ("evidence_ref", r.evidenceRef.map textValue),
    ("operation_ref", r.operationRef.map textValue)]

/-- `_request_mapping`. -/
def requestMapping (r : OperatorFields) : Payload := mappingOf r.entries

/-- The fields of `_response_mapping` (`operator_wire.py:121-140`). -/
def ResponseFields.entries (r : ResponseFields) : List (String × Option Value) :=
  [("ok", some (.bool r.ok)),
    ("code", some (textValue r.code)),
    ("refs", some (.arr (r.refs.map textValue))),
    ("job_id", r.jobId.map textValue),
    ("state", r.state.map textValue),
    ("version", r.version.map intValue),
    ("worker_id", r.workerId.map textValue),
    ("attempt_count", r.attemptCount.map intValue),
    ("max_attempts", r.maxAttempts.map intValue)]

/-- `_response_mapping`. -/
def responseMapping (r : ResponseFields) : Payload := mappingOf r.entries

/-- `encode_operator_request` (`operator_wire.py:143-148`). -/
def encodeOperatorRequest (env : WireEnv) (maxBytes : Int) (r : OperatorRequest) :
    Except String (List UInt8) :=
  encodeMapping env maxBytes (requestMapping r.toOperatorFields)

/-- `decode_operator_request` (`operator_wire.py:151-160`). -/
def decodeOperatorRequest (env : WireEnv) (maxBytes : Int) (data : List UInt8) :
    Except String OperatorRequest := do
  let mapping ← decodeObject env maxBytes data
  parseOperatorRequest mapping

/-- `encode_operator_response` (`operator_wire.py:163-168`). -/
def encodeOperatorResponse (env : WireEnv) (maxBytes : Int) (r : OperatorResponse) :
    Except String (List UInt8) :=
  encodeMapping env maxBytes (responseMapping r.toResponseFields)

/-- A list of texts. -/
def asTexts : Value → Option (List PyStr)
  | .arr items => items.mapM fun item =>
    match item with
    | .str s => some s
    | _ => none
  | _ => none

/-- `None`, or what a check makes of the value. -/
def optionalField {α : Type} (parse : Value → Except String α) :
    Value → Except String (Option α)
  | .null => .ok none
  | value => (parse value).map some

/-- An integer that is not negative (`operator_protocol.py:129-135`). -/
def requireCount : Value → Except String Int
  | .num (.int n) => if n < 0 then .error "OPERATOR_RESPONSE_INVALID" else .ok n
  | _ => .error "OPERATOR_RESPONSE_INVALID"

/-- The constructor call of `decode_operator_response` (`operator_wire.py:194-204`). -/
def responseOf (mapping : Payload) (refs : List PyStr) : Except String OperatorResponse := do
  match getKey mapping "ok" with
  | .bool ok =>
    let code ← requireIdentifier (getKey mapping "code")
    let jobId ← optionalField requireIdentifier (getKey mapping "job_id")
    let state ← optionalField requireIdentifier (getKey mapping "state")
    let workerId ← optionalField requireIdentifier (getKey mapping "worker_id")
    let version ← optionalField (requirePositiveInt "OPERATOR_RESPONSE_INVALID")
      (getKey mapping "version")
    let attemptCount ← optionalField requireCount (getKey mapping "attempt_count")
    let maxAttempts ← optionalField requireAttemptBudget (getKey mapping "max_attempts")
    let refs ← refs.mapM fun ref => requireIdentifier (.str ref)
    OperatorResponse.make
      { ok, code, jobId, state, version, workerId, attemptCount, maxAttempts, refs }
  | _ => .error "OPERATOR_RESPONSE_INVALID"

def responseRequired : List String := ["ok", "code"]

def responseOptional : List String :=
  ["job_id", "state", "version", "worker_id", "attempt_count", "max_attempts", "refs"]

/-- `decode_operator_response` (`operator_wire.py:171-206`). -/
def decodeOperatorResponse (env : WireEnv) (maxBytes : Int) (data : List UInt8) :
    Except String OperatorResponse := do
  let mapping ← decodeObject env maxBytes data
  Except.rejectIf (!responseRequired.all (hasKey mapping)) "OPERATOR_WIRE_FIELDS_INVALID"
  Except.rejectIf
    (!mapping.all fun e => e.1 ∈ (responseRequired ++ responseOptional).map PyStr.lit)
    "OPERATOR_WIRE_FIELDS_INVALID"
  match asTexts ((Json.find? (.lit "refs") mapping).getD (.arr [])) with
  | none => .error "OPERATOR_WIRE_RESPONSE_INVALID"
  | some refs => (responseOf mapping refs).mapError fun _ => "OPERATOR_WIRE_RESPONSE_INVALID"

end AConductor.Operator

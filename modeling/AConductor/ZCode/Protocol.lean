import AConductor.Lib.JsonCanonical
import AConductor.Lib.JsonNesting
import AConductor.Lib.Text

/-!
# The turn loop of the ZCode protocol driver

`src/a_conductor/zcode_protocol.py:204-393`: one turn over the lines an untrusted peer
sends. Each pass of the loop is an event: the deadline was reached, no line came, or one
did. Messages are kept as values; `sendText` is what goes to the wire. A transport that
raises while a line is written ends the turn and is left out, and so is the deadline
itself, a time in seconds. A `RecursionError` ends the turn where a line or the id of a request
nests too deep; the requests of the driver itself are flat.
-/

namespace AConductor.ZCode

/-- What the driver raises: a `ZCodeProtocolError` with its code, or an error of the
    runtime that passes through. -/
inductive TurnFault where
  | protocolError (code : String)
  | valueError
  | unicodeEncodeError
  | recursionError
  deriving DecidableEq, Repr

/-- The runtime, as far as the driver meets it: reading a float, comparing it with an integer,
    printing it; the bound on the digits of an integer; and how many containers inside one
    another `json.loads` and `json.dumps` have room for. -/
structure Runtime (F : Type) where
  read : PyStr → F
  eqInt : F → Int → Bool
  text : F → PyStr
  maxDigits : Option Nat
  decodeRoom : Nat
  encodeRoom : Nat

variable {F : Type}

abbrev Value (F : Type) := Json (Json.Number F)

abbrev Message (F : Type) := List (PyStr × Value F)

/-- `message.get(key)`. -/
def getKey (message : Message F) (key : String) : Value F :=
  (Json.find? (.lit key) message).getD .null

/-- `key in message`. -/
def hasKey (message : Message F) (key : String) : Bool := (Json.find? (.lit key) message).isSome

/-- `value == text`. -/
def isText (text : PyStr) : Value F → Bool
  | .str s => decide (s = text)
  | _ => false

/-- `value == n` for an integer: also a truth value and a float can equal it. -/
def eqInt (rt : Runtime F) (n : Int) : Value F → Bool
  | .num (.int m) => decide (m = n)
  | .num (.float f) => rt.eqInt f n
  | .bool b => decide ((if b then 1 else 0) = n)
  | _ => false

def isNull : Value F → Bool
  | .null => true
  | _ => false

/-- The entries of a value, if it is a dictionary. -/
def asDict : Value F → Option (Message F)
  | .obj entries => some entries
  | _ => none

def asText : Value F → Option PyStr
  | .str s => some s
  | _ => none

/-- `ZCodeRuntimeModel` (`zcode_protocol.py:53-127`), as a turn uses it; its fields were
    checked when it was made. -/
structure ZCodeRuntimeModel where
  revision : PyStr
  providerId : PyStr
  modelId : PyStr
  baseUrl : PyStr
  apiKeyEnv : PyStr
  deriving DecidableEq, Repr

def field (key : String) (value : Value F) : PyStr × Value F := (.lit key, value)

def textField (key : String) (value : PyStr) : PyStr × Value F := (.lit key, .str value)

/-- `model_ref` (`zcode_protocol.py:109-110`). -/
def ZCodeRuntimeModel.modelRef (m : ZCodeRuntimeModel) : Value F :=
  .obj [textField "providerId" m.providerId, textField "modelId" m.modelId]

/-- `as_dict` (`zcode_protocol.py:112-127`). -/
def ZCodeRuntimeModel.asDict (m : ZCodeRuntimeModel) : Value F :=
  .obj [textField "revision" m.revision, field "generatedAt" (.num (.int 0)),
    field "model" m.modelRef,
    field "provider" (.obj [textField "providerId" m.providerId,
      textField "kind" (.lit "anthropic"), textField "apiFormat" (.lit "anthropic-messages"),
      textField "source" (.lit "ephemeral"), textField "baseURL" m.baseUrl,
      field "apiKey" (.obj [textField "source" (.lit "env"), textField "name" m.apiKeyEnv]),
      field "apiKeyRequired" (.bool true),
      field "models" (.arr [.obj [textField "modelId" m.modelId]])])]

/-- The arguments of `run_turn`, and the driver's cap. -/
structure TurnArgs where
  prompt : PyStr
  workspace : PyStr
  mode : PyStr := .lit "plan"
  thoughtLevel : Option PyStr := none
  runtimeModel : Option ZCodeRuntimeModel := none
  maxResponseBytes : Nat := 65536

/-- `not text.strip()`. -/
def isBlank (text : PyStr) : Bool :=
  text.all fun
    | .char c => Text.isSpace c
    | .surrogate _ => false

/-- The checks of the arguments (`zcode_protocol.py:252-257`). -/
def TurnArgs.valid (args : TurnArgs) : Bool :=
  !isBlank args.prompt && decide (args.mode ∈ ["plan", "build"].map PyStr.lit) &&
    args.thoughtLevel.all fun level =>
      decide (level ∈ ["min", "low", "medium", "high", "max"].map PyStr.lit)

/-- The first request (`zcode_protocol.py:272-286`). -/
def createRequest (args : TurnArgs) : Message F :=
  let model : Message F := match args.runtimeModel with
    | none => []
    | some m => [field "runtimeModel" m.asDict, field "model" m.modelRef]
  [field "id" (.num (.int 1)), textField "method" (.lit "session/create"),
    field "params" (.obj ([field "workspace" (.obj [textField "workspacePath" args.workspace,
      textField "workspaceKey" args.workspace]), textField "mode" args.mode] ++ model))]

/-- The answer to a request of the peer. -/
def reply (mid : Value F) (key : String) : Message F :=
  [field "id" mid, field "result" (.obj [field key (.bool false)])]

/-- `session/subscribe` (`zcode_protocol.py:331-340`). -/
def subscribeRequest (sessionId : PyStr) : Message F :=
  [field "id" (.num (.int 2)), textField "method" (.lit "session/subscribe"),
    field "params" (.obj [textField "sessionId" sessionId,
      textField "deliveryKind" (.lit "desktop-continuous"), field "includeSnapshot" (.bool true),
      field "afterSeq" (.num (.int 0))])]

/-- `session/setThoughtLevel` (`zcode_protocol.py:347-351`). -/
def thoughtLevelRequest (sessionId level : PyStr) : Message F :=
  [field "id" (.num (.int 4)), textField "method" (.lit "session/setThoughtLevel"),
    field "params" (.obj [textField "sessionId" sessionId, textField "thoughtLevel" level])]

/-- `session/send` (`zcode_protocol.py:353-357, 362-366`). -/
def promptRequest (sessionId prompt : PyStr) : Message F :=
  [field "id" (.num (.int 3)), textField "method" (.lit "session/send"),
    field "params" (.obj [textField "sessionId" sessionId, textField "content" prompt])]

/-- `ZCodeProtocolTurn` (`zcode_protocol.py:197-201`). -/
structure ZCodeProtocolTurn where
  responseText : PyStr
  sessionId : Option PyStr
  turnCompleted : Bool
  bytesReceived : Nat
  deriving DecidableEq, Repr

/-- The variables of the loop, and what was sent. -/
structure TurnState (F : Type) where
  sessionId : Option PyStr := none
  deltas : List PyStr := []
  received : Nat := 0
  subscribed : Bool := false
  promptSent : Bool := false
  sent : List (Message F)

/-- How far a turn is: in the loop, or ended by `return` or `raise`. -/
inductive Turn (F : Type) where
  | running (state : TurnState F)
  | returned (state : TurnState F) (turn : ZCodeProtocolTurn)
  | raised (state : TurnState F) (fault : TurnFault)

def Turn.state : Turn F → TurnState F
  | .running s => s
  | .returned s _ => s
  | .raised s _ => s

/-- One pass of the loop. -/
inductive Event where
  | deadline
  | silent (alive : Bool)
  | line (text : PyStr)
  deriving DecidableEq, Repr

def TurnState.send (s : TurnState F) (message : Message F) : TurnState F :=
  { s with sent := s.sent ++ [message] }

def failed (s : TurnState F) (code : String) : Turn F := .raised s (.protocolError code)

/-- The model the peer says the session runs (`zcode_protocol.py:320-322`). -/
def attestedModel (result : Message F) : Option (Message F) := do
  let settings ← asDict (getKey result "settings")
  let model ← asDict (getKey settings "model")
  asDict (getKey model "current")

/-- The attestation of a requested model (`zcode_protocol.py:319-329`): the code to raise. -/
def attestation (args : TurnArgs) (result : Message F) : Option String :=
  match args.runtimeModel with
  | none => none
  | some wanted =>
    match attestedModel result with
    | none => some "SESSION_MODEL_ATTESTATION_MISSING"
    | some current =>
      if isText wanted.providerId (getKey current "providerId") &&
          isText wanted.modelId (getKey current "modelId") then none
      else some "SESSION_MODEL_MISMATCH"

/-- The result of `session/create` and the session id in it (`zcode_protocol.py:315-318`). -/
def createdSession (message : Message F) : Option (Message F × PyStr) := do
  let result ← asDict (getKey message "result")
  let session ← asDict (getKey result "session")
  let sessionId ← asText (getKey session "sessionId")
  return (result, sessionId)

/-- The response to `session/create` (`zcode_protocol.py:312-341`). -/
def onCreated (args : TurnArgs) (s : TurnState F) (message : Message F) : Turn F :=
  if hasKey message "error" then failed s "SESSION_CREATE_FAILED"
  else match createdSession message with
  | none => failed s "SESSION_CREATE_FAILED"
  | some (result, sessionId) =>
    match attestation args result with
    | some code => failed s code
    | none => .running ({ s with sessionId := some sessionId }.send (subscribeRequest sessionId))

/-- The response to `session/subscribe` (`zcode_protocol.py:342-359`). -/
def onSubscribed (args : TurnArgs) (s : TurnState F) (sessionId : PyStr) (message : Message F) :
    Turn F :=
  if hasKey message "error" then failed s "SUBSCRIBE_FAILED"
  else match args.thoughtLevel with
  | some level =>
    .running ({ s with subscribed := true }.send (thoughtLevelRequest sessionId level))
  | none =>
    .running { { s with subscribed := true }.send (promptRequest sessionId args.prompt) with
      promptSent := true }

/-- The response to `session/setThoughtLevel` (`zcode_protocol.py:360-368`). -/
def onThoughtLevel (args : TurnArgs) (s : TurnState F) (sessionId : PyStr) : Turn F :=
  .running { s.send (promptRequest sessionId args.prompt) with promptSent := true }

/-- A text delta (`zcode_protocol.py:380-384`). -/
def onDelta (args : TurnArgs) (s : TurnState F) (delta : PyStr) : Turn F :=
  match PyStr.encode delta with
  | none => .raised s .unicodeEncodeError
  | some bytes =>
    let s' := { s with received := s.received + bytes.length }
    if args.maxResponseBytes < s'.received then failed s' "RESPONSE_BUDGET_EXCEEDED"
    else .running { s' with deltas := s.deltas ++ [delta] }

/-- The text delta of a payload, if it is one (`zcode_protocol.py:378-379`). -/
def textDelta (payload : Value F) : Option PyStr := do
  let payload ← asDict payload
  if isText (.lit "text_delta") (getKey payload "kind") then asText (getKey payload "delta")
  else none

/-- A `session/event` (`zcode_protocol.py:372-393`). -/
def onEvent (args : TurnArgs) (s : TurnState F) (params : Message F) : Turn F :=
  let type := getKey params "type"
  if isText (.lit "model.streaming") type && (asDict (getKey params "payload")).isSome then
    match textDelta (getKey params "payload") with
    | none => .running s
    | some delta => onDelta args s delta
  else if isText (.lit "turn.completed") type then
    .returned s ⟨s.deltas.flatten, s.sessionId, true, s.received⟩
  else if isText (.lit "turn.failed") type then failed s "TURN_FAILED"
  else .running s

/-- `_send` of the answer to a request of the peer (`zcode_protocol.py:239-240, 302-310`). -/
def answer (rt : Runtime F) (s : TurnState F) (mid : Value F) (key : String) : Turn F :=
  if rt.encodeRoom < (Json.obj (reply mid key)).depth then .raised s .recursionError
  else .running (s.send (reply mid key))

/-- One message of the peer (`zcode_protocol.py:302-393`). -/
def onMessage (rt : Runtime F) (args : TurnArgs) (s : TurnState F) (message : Message F) :
    Turn F :=
  let method := getKey message "method"
  let mid := getKey message "id"
  if isText (.lit "session/requestRuntimePreferences") method && !isNull mid then
    answer rt s mid "nativeSearchEnhancementsEnabled"
  else if isText (.lit "interaction/requestPermission") method && !isNull mid then
    answer rt s mid "approved"
  else if eqInt rt 1 mid && s.sessionId.isNone then onCreated args s message
  else
    match s.sessionId, eqInt rt 2 mid && !s.subscribed, eqInt rt 4 mid && !s.promptSent with
    | some sessionId, true, _ => onSubscribed args s sessionId message
    | some sessionId, false, true => onThoughtLevel args s sessionId
    | _, _, _ =>
      if eqInt rt 3 mid && hasKey message "error" then failed s "PROMPT_SEND_REJECTED"
      else if isText (.lit "session/event") method then
        match asDict (getKey message "params") with
        | none => .running s
        | some params => onEvent args s params
      else .running s

/-- The hooks of `json.loads` in the driver. -/
def lineHooks (rt : Runtime F) : Json.Hooks TurnFault (Json.Number F) :=
  Json.plainHooks rt.maxDigits rt.read .valueError

/-- `json.loads` of a line. -/
def loadLine (rt : Runtime F) (line : PyStr) : Except (Json.Raised TurnFault) (Value F) :=
  Json.loadsWithin (lineHooks rt) rt.decodeRoom line

/-- One pass of the loop (`zcode_protocol.py:287-393`). -/
def turnStep (rt : Runtime F) (args : TurnArgs) (s : TurnState F) : Event → Turn F
  | .deadline => failed s "TURN_DEADLINE_EXCEEDED"
  | .silent true => .running s
  | .silent false => failed s "CHILD_EXITED"
  | .line text =>
    match loadLine rt text with
    | .error .decodeError => failed s "PROTOCOL_LINE_MALFORMED"
    | .error .recursionError => .raised s .recursionError
    | .error (.hook e) => .raised s e
    | .ok (.obj message) => onMessage rt args s message
    | .ok _ => failed s "PROTOCOL_LINE_MALFORMED"

/-- An event in any state of the turn; none is read after its end. -/
def advance (rt : Runtime F) (args : TurnArgs) : Turn F → Event → Turn F
  | .running s, event => turnStep rt args s event
  | turn, _ => turn

/-- The turn before the first line. -/
def startTurn (args : TurnArgs) : Turn F :=
  if args.valid then .running { sent := [createRequest args] }
  else .raised { sent := [] } .valueError

/-- `run_turn` (`zcode_protocol.py:242-393`) over the events of a peer. -/
def runTurn (rt : Runtime F) (args : TurnArgs) (events : List Event) : Turn F :=
  events.foldl (advance rt args) (startTurn args)

end AConductor.ZCode

import AConductor.Lib.Lines
import AConductor.Relay.Codec

/-!
# The relay log

`src/a_conductor/sidecar_relay.py:448-557`: `append_event` and `read_events` over the
bytes of one file, `none` where there is none. The failures of the file system itself
are left out; what an append that stops half way leaves behind is a beginning of the log.
-/

namespace AConductor.Relay

abbrev Bytes := List UInt8

abbrev LogFile := Option Bytes

def ioError : RelayFault := .carrierError "RELAY_IO_ERROR"

def lf : UInt8 := 10

def cr : UInt8 := 13

def newline : CodePoint := .char '\n'

/-- `RelayLogRead` (`sidecar_relay.py:448-453`). -/
structure RelayLogRead where
  events : List RelayEnvelope
  tornTailSkipped : Bool
  deriving DecidableEq, Repr

/-- One complete line of `read_events` (`sidecar_relay.py:481-487`). -/
def readLine (env : RelayEnv) (events : List RelayEnvelope) (line : PyStr) :
    Except RelayFault (List RelayEnvelope) := do
  Except.rejectIf (.char '\r' ∈ line) invalid
  let envelope ← envelopeFromJsonLine env line
  return if envelope.eventId ∈ events.map RelayEnvelope.eventId then events
    else events ++ [envelope]

/-- Whether a text ends in the middle of a line (`sidecar_relay.py:474`). -/
def tornTail (text : PyStr) : Bool := decide (text ≠ [] ∧ text.getLast? ≠ some newline)

/-- `read_events` (`sidecar_relay.py:456-488`). -/
def readEvents (env : RelayEnv) : LogFile → Except RelayFault RelayLogRead
  | none => .error ioError
  | some raw =>
    match PyStr.decode raw with
    | none => .error ioError
    | some text => do
      let kept := if tornTail text then Lines.upToLast newline text else text
      let events ← (kept.splitOn newline).dropLast.foldlM (readLine env) []
      return ⟨events, tornTail text⟩

/-- `value == text` for a text. -/
def isText (text : PyStr) : Value → Bool
  | .str value => decide (value = text)
  | _ => false

/-- One stored line seen by an append (`sidecar_relay.py:537-551`): whether it is the
    line to append. -/
def matchLine (env : RelayEnv) (payload eventId : PyStr) (rawLine : Bytes) :
    Except RelayFault Bool := do
  Except.rejectIf (cr ∈ rawLine) invalid
  match PyStr.decode rawLine with
  | none => .error invalid
  | some lineText =>
    match loadLine env lineText with
    | .error .decodeError => .error invalid
    | .error (.hook e) => .error e
    | .ok (.obj linePayload) =>
      if lineText = payload then .ok true
      else if isText eventId (getKey linePayload "EVENT_ID") then
        .error (.carrierError "RELAY_EVENT_DUPLICATE")
      else .ok false
    | .ok _ => .error invalid

/-- The scan of the stored lines: whether one of them is the line to append. -/
def findLine (env : RelayEnv) (payload eventId : PyStr) : List Bytes → Except RelayFault Bool
  | [] => .ok false
  | rawLine :: rawLines => do
    let same ← matchLine env payload eventId rawLine
    if same then return true else findLine env payload eventId rawLines

/-- What `append_event` establishes before it writes (`sidecar_relay.py:521-551`): the
    bytes of the line, or that it is stored already. -/
def prepareAppend (env : RelayEnv) (existing : Bytes) (envelope : RelayEnvelope) :
    Except RelayFault (Option Bytes) := do
  let checked ← envelopeFromMapping env envelope.toMapping
  match PyStr.encode checked.toJson with
  | none => .error .unicodeEncodeError
  | some data =>
    Except.rejectIf (maxEventBytes < data.length + 1) (.carrierError "RELAY_EVENT_TOO_LARGE")
    Except.rejectIf (existing ≠ [] ∧ existing.getLast? ≠ some lf) ioError
    let same ← findLine env checked.toJson checked.eventId
      (if existing = [] then [] else (existing.splitOn lf).dropLast)
    return if same then none else some data

/-- `append_event` (`sidecar_relay.py:512-557`): the answer and the file. -/
def appendEvent (env : RelayEnv) (file : LogFile) (envelope : RelayEnvelope) :
    Except RelayFault Unit × LogFile :=
  match prepareAppend env (file.getD []) envelope with
  | .error e => (.error e, file)
  | .ok none => (.ok (), file)
  | .ok (some data) => (.ok (), some (file.getD [] ++ (data ++ [lf])))

/-- The file after a sequence of calls. -/
def appendAll (env : RelayEnv) (file : LogFile) (calls : List RelayEnvelope) : LogFile :=
  calls.foldl (fun f e => (appendEvent env f e).2) file

/-- The envelopes whose call returned, in order. -/
def appended (env : RelayEnv) : LogFile → List RelayEnvelope → List RelayEnvelope
  | _, [] => []
  | file, e :: calls =>
    let rest := appended env (appendEvent env file e).2 calls
    if (appendEvent env file e).1 = .ok () then e :: rest else rest

end AConductor.Relay

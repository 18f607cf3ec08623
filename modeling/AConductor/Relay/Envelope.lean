import AConductor.Lib.JsonRoundTrip
import AConductor.Lib.Text
import AConductor.Lib.Transaction

/-!
# Relay envelopes

`src/a_conductor/sidecar_relay.py:82-445`: the allowlists and grammars, the strict
validation of a mapping, and the two directions of the JSON line codec. Unicode
categories, `str.lower` and `datetime.fromisoformat` are taken from the surroundings; a
JSON float stands for its own literal, since no check looks inside a number.
-/

namespace AConductor.Relay

open Except Json

/-- What the carrier can raise: a `RelayCarrierError` with its code, and the errors of the
    codecs that it lets through. -/
inductive RelayFault where
  | carrierError (code : String)
  | valueError
  | unicodeEncodeError
  deriving DecidableEq, Repr

/-- What the carrier takes from its surroundings: the categories `Cc`, `Cf` and `Co` of
    `unicodedata.category`, `str.lower`, whether `datetime.fromisoformat` reads a text
    (`none` where it raises) as an aware time, and the bound on the digits of an integer. -/
structure RelayEnv where
  unsafeChar : Char → Bool
  lower : PyStr → PyStr
  fromIsoFormat : PyStr → Option Bool
  maxDigits : Option Nat

abbrev Value := Json (Number PyStr)

abbrev Payload := List (PyStr × Value)

def invalid : RelayFault := .carrierError "RELAY_ENVELOPE_INVALID"

def texts (words : List String) : List PyStr := words.map .lit

/-- `EVENT_FAMILIES` (`sidecar_relay.py:90-104`). -/
def eventFamilies : List PyStr := texts
  ["SIDECAR_HELP_REQUEST", "SIDECAR_CHECKPOINT", "SIDECAR_RESULT_RECEIPT", "CODEX_STEER_REQUEST",
    "GLM_DISPATCH_REQUEST", "GLM_RESULT_RECEIPT", "JEV_ADVISORY_REQUEST", "JEV_ADVISORY_RECEIPT",
    "GPT_WORK_LIMITED", "CONTEXT_PRESSURE_HIGH", "HUMAN_GATE_REQUIRED"]

/-- `_SURFACES_BY_LENGTH` (`sidecar_relay.py:156`): the longest first. -/
def surfacesByLength : List PyStr := texts ["chatgpt-sidecar", "codex", "human", "glm", "jev", "gpt"]

/-- `SOURCE_SURFACES` (`sidecar_relay.py:105-107`). -/
def sourceSurfaces : List PyStr := surfacesByLength

/-- `PRIORITIES` (`sidecar_relay.py:108`). -/
def priorities : List PyStr := texts ["LOW", "NORMAL", "HIGH"]

/-- `DEFAULT_HIGH_PRIORITY_FAMILIES` (`sidecar_relay.py:109-111`). -/
def defaultHighPriorityFamilies : List PyStr :=
  texts ["HUMAN_GATE_REQUIRED", "CONTEXT_PRESSURE_HIGH"]

/-- `MUTATION_RELEVANT_FAMILIES` (`sidecar_relay.py:112-114`). -/
def mutationRelevantFamilies : List PyStr :=
  eventFamilies.filter (· ∉ texts ["GPT_WORK_LIMITED", "CONTEXT_PRESSURE_HIGH"])

/-- `RESULT_RECEIPT_FAMILIES` (`sidecar_relay.py:115-117`). -/
def resultReceiptFamilies : List PyStr := texts ["SIDECAR_RESULT_RECEIPT", "GLM_RESULT_RECEIPT"]

/-- `BINDING_KEYS` (`sidecar_relay.py:118`). -/
def bindingKeys : List String := ["TASK_ID", "CLAIM_ID", "REPO", "WORKTREE", "HEAD_SHA"]

/-- `_ENVELOPE_KEYS` (`sidecar_relay.py:119-137`). -/
def envelopeKeys : List PyStr := texts
  ["EVENT_ID", "EVENT_TYPE", "SOURCE_SURFACE", "SOURCE_THREAD_ID", "SOURCE_TURN_ID", "TASK_ID",
    "CLAIM_ID", "REPO", "WORKTREE", "HEAD_SHA", "REQUESTED_CAPABILITY", "PRIORITY",
    "EVIDENCE_REFS", "CREATED_AT", "DEVICE_CONTEXT"]

def maxEventBytes : Nat := 65536

def maxEvidenceRefs : Nat := 16

def isLower (c : CodePoint) : Bool := 97 ≤ c.code && c.code ≤ 122

def isUpper (c : CodePoint) : Bool := 65 ≤ c.code && c.code ≤ 90

/-- `[A-Za-z0-9]`. -/
def isAlnum (c : CodePoint) : Bool := isLower c || isUpper c || isDigit c

/-- A character of a class written out in a literal. -/
def oneOf (chars : String) (c : CodePoint) : Bool := c ∈ PyStr.lit chars

/-- `[first][rest]*` matched in full. -/
def matches₁ (first rest : CodePoint → Bool) : PyStr → Bool
  | [] => false
  | c :: cs => first c && cs.all rest

def tokenChar (c : CodePoint) : Bool := isAlnum c || oneOf "._-" c

/-- `_SAFE_TOKEN_RE` (`sidecar_relay.py:142`). -/
def safeTokenRe (s : PyStr) : Bool := matches₁ isAlnum tokenChar s

/-- `_REPO_RE` (`sidecar_relay.py:143-145`). -/
def repoRe (s : PyStr) : Bool :=
  let owner := s.takeWhile (· ≠ .char '/')
  let name := (s.drop owner.length).tail
  decide (s.drop owner.length ≠ []) && safeTokenRe owner && decide (owner.length ≤ 101) &&
    safeTokenRe name && decide (name.length ≤ 101)

/-- `_HEAD_SHA_RE` (`sidecar_relay.py:146`). -/
def headShaRe (s : PyStr) : Bool :=
  decide (s.length = 40) && s.all fun c => isDigit c || (97 ≤ c.code && c.code ≤ 102)

/-- `_CAPABILITY_RE` (`sidecar_relay.py:147`). -/
def capabilityRe (s : PyStr) : Bool :=
  decide (s.length ≤ 64) &&
    matches₁ (fun c => isLower c || isDigit c)
      (fun c => isLower c || isDigit c || oneOf "-" c) s

/-- A credential form: a start followed by so many characters of a class. -/
structure SecretPattern where
  start : String
  cls : CodePoint → Bool
  count : Nat

/-- `_SECRET_TOKEN_RES` (`sidecar_relay.py:160-171`). -/
def secretTokens : List SecretPattern :=
  ["ghp_", "gho_", "ghu_", "ghs_", "ghr_"].map (⟨·, isAlnum, 16⟩) ++
  [⟨"github_pat_", fun c => isAlnum c || oneOf "_" c, 16⟩,
    ⟨"sk-", fun c => isAlnum c || oneOf "_-" c, 16⟩] ++
  ["xoxa-", "xoxb-", "xoxp-", "xoxr-", "xoxs-"].map (⟨·, fun c => isAlnum c || oneOf "-" c, 16⟩) ++
  [⟨"AKIA", fun c => isDigit c || isUpper c, 16⟩,
    ⟨"AIza", fun c => isAlnum c || oneOf "_-" c, 35⟩]

/-- `pattern.search(value)`. -/
def SecretPattern.found (p : SecretPattern) (s : PyStr) : Bool :=
  s.tails.any fun t =>
    (PyStr.lit p.start).isPrefixOf t &&
      decide (p.count ≤ ((t.drop p.start.length).takeWhile p.cls).length)

/-- `needle in s`. -/
def contains (needle : String) (s : PyStr) : Bool :=
  s.tails.any fun t => (PyStr.lit needle).isPrefixOf t

/-- `str.isspace` of a character, as `str.strip` sees it. -/
def isSpace : CodePoint → Bool
  | .char c => Text.isSpace c
  | .surrogate _ => false

/-- `s.strip()`. -/
def strip (s : PyStr) : PyStr := ((s.dropWhile isSpace).reverse.dropWhile isSpace).reverse

section Checks

variable (env : RelayEnv)

/-- `unicodedata.category(c) in _UNSAFE_CATEGORIES`. -/
def unsafeCategory : CodePoint → Bool
  | .char c => env.unsafeChar c
  | .surrogate _ => true

/-- `_check_safe_text` (`sidecar_relay.py:197-205`). -/
def checkSafeText (value : PyStr) : Except RelayFault Unit :=
  if value.any (unsafeCategory env) then .error invalid
  else if contains "-----begin" (env.lower value) then .error invalid
  else if secretTokens.any fun p => p.found value then .error invalid
  else .ok ()

/-- `_require_text` (`sidecar_relay.py:208-214`). -/
def requireText (maxLen : Nat) : Value → Except RelayFault PyStr
  | .str value => do
    rejectIf (value = [] ∨ maxLen < value.length ∨ value ≠ strip value) invalid
    checkSafeText env value
    return value
  | _ => .error invalid

/-- A text of a grammar. -/
def requireMatch (maxLen : Nat) (grammar : PyStr → Bool) (value : Value) :
    Except RelayFault PyStr := do
  let text ← requireText env maxLen value
  rejectIf (grammar text = false) invalid
  return text

/-- `_require_token` (`sidecar_relay.py:217-221`). -/
def requireToken (maxLen : Nat) (value : Value) : Except RelayFault PyStr :=
  requireMatch env maxLen
    (fun t => safeTokenRe t && decide (t ≠ .lit ".") && decide (t ≠ .lit "..")) value

/-- The part of an event id after its surface (`sidecar_relay.py:236-243`). -/
def eventTail (sourceSurface rest : PyStr) : List PyStr → Except RelayFault PyStr
  | [] => .error invalid
  | surface :: surfaces =>
    if (surface ++ PyStr.lit "-").isPrefixOf rest then
      if surface ≠ sourceSurface then .error invalid
      else .ok (rest.drop (surface.length + 1))
    else eventTail sourceSurface rest surfaces

/-- `_validate_event_id` (`sidecar_relay.py:231-246`). -/
def validateEventId (sourceSurface : PyStr) (value : Value) : Except RelayFault PyStr := do
  let eventId ← requireText env 148 value
  rejectIf ((PyStr.lit "evt-").isPrefixOf eventId = false) invalid
  let tail ← eventTail sourceSurface (eventId.drop 4) surfacesByLength
  rejectIf (safeTokenRe tail = false ∨ 128 < tail.length) invalid
  return eventId

/-- `_validate_created_at` (`sidecar_relay.py:249-259`). -/
def validateCreatedAt (value : Value) : Except RelayFault PyStr :=
  requireMatch env 64
    (fun t => !(t.elem (.char ' ')) && decide (env.fromIsoFormat t = some true)) value

/-- One reference (`sidecar_relay.py:323-327`). -/
def evidenceRef (value : Value) : Except RelayFault PyStr :=
  requireMatch env 4096 (fun t => !contains "://" t) value

/-- `_validate_evidence_refs` (`sidecar_relay.py:315-330`). -/
def validateEvidenceRefs : Value → Except RelayFault (List PyStr)
  | .null => .ok []
  | .arr items => do
    rejectIf (maxEvidenceRefs < items.length) invalid
    let refs ← items.mapM (evidenceRef env)
    rejectIf (¬ refs.Nodup) invalid
    return refs
  | _ => .error invalid

end Checks

/-- `RelayEnvelope` (`sidecar_relay.py:262-280`). -/
structure RelayEnvelope where
  eventId : PyStr
  eventType : PyStr
  sourceSurface : PyStr
  sourceThreadId : PyStr
  sourceTurnId : PyStr
  priority : PyStr
  evidenceRefs : List PyStr
  createdAt : PyStr
  taskId : Option PyStr := none
  claimId : Option PyStr := none
  repo : Option PyStr := none
  worktree : Option PyStr := none
  headSha : Option PyStr := none
  requestedCapability : Option PyStr := none
  deviceContext : Option PyStr := none
  deriving DecidableEq, Repr

/-- An entry that is present only when its value is. -/
def optionalEntry (key : String) : Option PyStr → Payload
  | none => []
  | some value => [(.lit key, .str value)]

/-- `RelayEnvelope.to_mapping` (`sidecar_relay.py:282-304`). -/
def RelayEnvelope.toMapping (e : RelayEnvelope) : Payload :=
  [(.lit "EVENT_ID", .str e.eventId), (.lit "EVENT_TYPE", .str e.eventType),
    (.lit "SOURCE_SURFACE", .str e.sourceSurface),
    (.lit "SOURCE_THREAD_ID", .str e.sourceThreadId),
    (.lit "SOURCE_TURN_ID", .str e.sourceTurnId), (.lit "PRIORITY", .str e.priority),
    (.lit "EVIDENCE_REFS", .arr (e.evidenceRefs.map .str)),
    (.lit "CREATED_AT", .str e.createdAt)] ++
  optionalEntry "TASK_ID" e.taskId ++ optionalEntry "CLAIM_ID" e.claimId ++
  optionalEntry "REPO" e.repo ++ optionalEntry "WORKTREE" e.worktree ++
  optionalEntry "HEAD_SHA" e.headSha ++
  optionalEntry "REQUESTED_CAPABILITY" e.requestedCapability ++
  optionalEntry "DEVICE_CONTEXT" e.deviceContext

/-- The style of a line: compact, characters as they are. -/
def lineStyle : Style := ⟨false, false⟩

/-- `repr` of a number; no envelope holds one. -/
def numberText : Number PyStr → PyStr
  | .int n => intText n
  | .float literal => literal

/-- `RelayEnvelope.to_json` (`sidecar_relay.py:306-312`). -/
def RelayEnvelope.toJson (e : RelayEnvelope) : PyStr :=
  dumps lineStyle numberText (sortKeys (.obj e.toMapping))

/-- `payload.get(key)`, with `None` for an absent key. -/
def getKey (payload : Payload) (key : String) : Value :=
  (Json.find? (.lit key) payload).getD .null

/-- A member of an allowlist. -/
def requireMember (allowed : List PyStr) : Value → Except RelayFault PyStr
  | .str value => if value ∈ allowed then .ok value else .error invalid
  | _ => .error invalid

/-- `PRIORITY` and its default (`sidecar_relay.py:366-376`). -/
def priorityOf (eventType : PyStr) : Value → Except RelayFault PyStr
  | .null => .ok (if eventType ∈ defaultHighPriorityFamilies then .lit "HIGH" else .lit "NORMAL")
  | value => requireMember priorities value

/-- A field that is checked only when it is present. -/
def optionalField (check : Value → Except RelayFault PyStr) :
    Value → Except RelayFault (Option PyStr)
  | .null => .ok none
  | value => (check value).map some

/-- `value is None`. -/
def isNone : Value → Bool
  | .null => true
  | _ => false

/-- The exact binding tuple of a mutation-relevant family (`sidecar_relay.py:379-382`). -/
def bindingPresent (eventType : PyStr) (payload : Payload) : Bool :=
  decide (eventType ∉ mutationRelevantFamilies) ||
    bindingKeys.all fun key => !isNone (getKey payload key)

/-- `envelope_from_mapping` (`sidecar_relay.py:333-434`) on a dictionary. -/
def envelopeFromMapping (env : RelayEnv) (payload : Payload) : Except RelayFault RelayEnvelope := do
  rejectIf (¬ ∀ key ∈ payload.map Prod.fst, key ∈ envelopeKeys) invalid
  let eventType ← requireMember eventFamilies (getKey payload "EVENT_TYPE")
  let sourceSurface ← requireMember sourceSurfaces (getKey payload "SOURCE_SURFACE")
  let eventId ← validateEventId env sourceSurface (getKey payload "EVENT_ID")
  let sourceThreadId ← requireText env 256 (getKey payload "SOURCE_THREAD_ID")
  let sourceTurnId ← requireText env 256 (getKey payload "SOURCE_TURN_ID")
  let createdAt ← validateCreatedAt env (getKey payload "CREATED_AT")
  let priority ← priorityOf eventType (getKey payload "PRIORITY")
  rejectIf (bindingPresent eventType payload = false) invalid
  let taskId ← optionalField (requireToken env 128) (getKey payload "TASK_ID")
  let claimId ← optionalField (requireToken env 128) (getKey payload "CLAIM_ID")
  let repo ← optionalField (requireMatch env 256 repoRe) (getKey payload "REPO")
  let worktree ← optionalField (requireText env 1024) (getKey payload "WORKTREE")
  let headSha ← optionalField (requireMatch env 40 headShaRe) (getKey payload "HEAD_SHA")
  let requestedCapability ← optionalField (requireMatch env 64 capabilityRe)
    (getKey payload "REQUESTED_CAPABILITY")
  let deviceContext ← optionalField (requireText env 256) (getKey payload "DEVICE_CONTEXT")
  let evidenceRefs ← validateEvidenceRefs env (getKey payload "EVIDENCE_REFS")
  rejectIf (eventType ∈ resultReceiptFamilies ∧ evidenceRefs = [])
    (.carrierError "RELAY_EVIDENCE_MISSING")
  return {
    eventId, eventType, sourceSurface, sourceThreadId, sourceTurnId, priority, evidenceRefs
    createdAt, taskId, claimId, repo, worktree, headSha, requestedCapability, deviceContext }

/-- `json.loads` of a line. -/
def loadLine (env : RelayEnv) (line : PyStr) : Except (Fault RelayFault) Value :=
  loads (plainHooks env.maxDigits id .valueError) line

/-- `envelope_from_json_line` (`sidecar_relay.py:437-445`). -/
def envelopeFromJsonLine (env : RelayEnv) (line : PyStr) : Except RelayFault RelayEnvelope :=
  match loadLine env line with
  | .error .decodeError => .error invalid
  | .error (.hook e) => .error e
  | .ok (.obj payload) => envelopeFromMapping env payload
  | .ok _ => .error invalid

end AConductor.Relay

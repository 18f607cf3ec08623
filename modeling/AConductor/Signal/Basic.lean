import AConductor.Lib.JsonText
import AConductor.Lib.JsonScan

/-!
# Orchestration signals

`src/a_conductor/orchestration.py`: the values of a signal and of an outcome, their
validation, and the bounded codec of both. A field holds any value: the numbers of `Json`
stand for every object that is no text, truth value, `None`, list or dictionary, since
`_bounded_tree` refuses all of them alike. `datetime.fromisoformat` is taken from the
surroundings. A structure that contains itself is not a value here.
-/

namespace AConductor.Signal

open Except

/-- The codes of an `OrchestrationError` (`orchestration.py:29-35`). -/
inductive OrchestrationError where
  | valueInvalid
  | missingKey
  | unknownKey
  | versionUnsupported
  | typeUnknown
  | sourceMismatch
  | depthExceeded
  | fieldsExceeded
  | sizeExceeded
  | duplicateKey
  | encodingInvalid
  | jsonInvalid
  deriving DecidableEq, Repr

def OrchestrationError.code : OrchestrationError → String
  | .valueInvalid => "SIGNAL_VALUE_INVALID"
  | .missingKey => "SIGNAL_MISSING_KEY"
  | .unknownKey => "SIGNAL_UNKNOWN_KEY"
  | .versionUnsupported => "SIGNAL_VERSION_UNSUPPORTED"
  | .typeUnknown => "SIGNAL_TYPE_UNKNOWN"
  | .sourceMismatch => "SIGNAL_SOURCE_MISMATCH"
  | .depthExceeded => "SIGNAL_DEPTH_EXCEEDED"
  | .fieldsExceeded => "SIGNAL_FIELDS_EXCEEDED"
  | .sizeExceeded => "SIGNAL_SIZE_EXCEEDED"
  | .duplicateKey => "SIGNAL_DUPLICATE_KEY"
  | .encodingInvalid => "SIGNAL_ENCODING_INVALID"
  | .jsonInvalid => "SIGNAL_JSON_INVALID"

variable {ν : Type}

/-- `OrchestrationSignal` (`orchestration.py:38-56`). The dictionaries inside a payload have
    each key once. -/
structure OrchestrationSignal (ν : Type) where
  schemaVersion : Json ν
  signalId : Json ν
  kind : Json ν
  occurredAt : Json ν
  sourceRef : Json ν
  projectId : Json ν
  payload : Json ν
  taskRef : Json ν := .null
  workOrderRef : Json ν := .null
  bindingRef : Json ν := .null
  distinct : payload.Distinct

/-- What an outcome's `evidence_refs` can be. -/
inductive EvidenceRefs (ν : Type) where
  | list (items : List (Json ν))
  | tuple (items : List (Json ν))
  | other

/-- `OrchestrationOutcome` (`orchestration.py:58-69`). -/
structure OrchestrationOutcome (ν : Type) where
  signalId : Json ν
  kind : Json ν
  decision : Json ν
  reasonCode : Json ν
  evidenceRefs : EvidenceRefs ν
  submissionRef : Json ν := .null
  executionRef : Json ν := .null
  observabilityDegraded : Json ν := .bool false

def sizeLimit : Nat := 16384

def depthLimit : Nat := 4

def fieldLimit : Nat := 64

def refLimit : Nat := 256

def evidenceRefLimit : Nat := 16

def identifierLimit : Nat := 128

def texts (words : List String) : List PyStr := words.map .lit

def schemaVersions : List PyStr := texts ["orch-signal.v1"]

def kinds : List PyStr := texts ["ENQUEUE", "REPLAY", "UTILIZATION", "LIFECYCLE"]

def effectKinds : List PyStr := texts ["ENQUEUE", "REPLAY"]

def outcomeDecisions : List PyStr := texts
  ["OBSERVED_ONLY", "NO_ACTION", "DENIED", "RECONCILIATION_REQUIRED", "SUBMISSION_OBSERVED",
    "DISPATCH_OBSERVED"]

def signalFields : List PyStr := texts
  ["schema_version", "signal_id", "kind", "occurred_at", "source_ref", "project_id", "payload"]

def signalOptional : List PyStr := texts ["task_ref", "work_order_ref", "binding_ref"]

def outcomeFields : List PyStr := texts
  ["signal_id", "kind", "decision", "reason_code", "evidence_refs", "observability_degraded"]

def outcomeOptional : List PyStr := texts ["submission_ref", "execution_ref"]

abbrev Entries (ν : Type) := List (PyStr × Json ν)

abbrev Entries.keys (entries : Entries ν) : List PyStr := entries.map Prod.fst

/-- `value[key]`, or `value.get(key)`. -/
def getKey (entries : Entries ν) (key : String) : Json ν :=
  (Json.find? (.lit key) entries).getD .null

/-- `_keys` (`orchestration.py:72-78`) on a dictionary. -/
def checkKeys (required optional : List PyStr) (entries : Entries ν) :
    Except OrchestrationError Unit := do
  rejectIf (¬ ∀ key ∈ required, key ∈ entries.keys) .missingKey
  rejectIf (¬ ∀ key ∈ entries.keys, key ∈ required ++ optional) .unknownKey

/-- The values that `_ref` (`orchestration.py:81-84`) accepts. -/
def isRef (limit : Nat) : Json ν → Bool
  | .str s =>
    1 ≤ s.length && s.length ≤ limit && s.all fun c => 33 ≤ c.code && c.code ≤ 126
  | _ => false

def checkRef (limit : Nat) (value : Json ν) : Except OrchestrationError Unit :=
  rejectIf (isRef limit value = false) .valueInvalid

/-- `_refs` (`orchestration.py:87-91`). -/
def checkRefs : Json ν → Except OrchestrationError Unit
  | .arr items => do
    rejectIf (evidenceRefLimit < items.length) .valueInvalid
    rejectIf (items.all (isRef refLimit) = false) .valueInvalid
  | _ => .error .valueInvalid

/-- A text of an allowlist. -/
def member (allowed : List PyStr) (e : OrchestrationError) : Json ν → Except OrchestrationError PyStr
  | .str s => if s ∈ allowed then .ok s else .error e
  | _ => .error e

abbrev CharClass := CodePoint → Bool

def digitClass : CharClass := Json.isDigit

def oneOfClass (chars : String) : CharClass := fun c => c ∈ PyStr.lit chars

/-- The date and the time up to the seconds. -/
def dateTimePattern : List CharClass :=
  let d := digitClass
  let sign (c : String) := oneOfClass c
  [d, d, d, d, sign "-", d, d, sign "-", d, d, sign "T", d, d, sign ":", d, d, sign ":", d, d]

def fractionPatterns : List (List CharClass) :=
  [] :: (List.range 6).map fun n => oneOfClass "." :: List.replicate (n + 1) digitClass

def zonePatterns : List (List CharClass) :=
  let minutes := [oneOfClass ":", oneOfClass "012345", digitClass]
  [[oneOfClass "Z"], oneOfClass "+-" :: oneOfClass "01" :: digitClass :: minutes,
    oneOfClass "+-" :: oneOfClass "2" :: oneOfClass "0123" :: minutes]

/-- A text of one character for each class. -/
def matchesClasses : List CharClass → PyStr → Bool
  | [], [] => true
  | p :: ps, c :: cs => p c && matchesClasses ps cs
  | _, _ => false

/-- The expression of `_timestamp` (`orchestration.py:95-97`), matched in full. -/
def timestampRe (s : PyStr) : Bool :=
  fractionPatterns.any fun fraction =>
    zonePatterns.any fun zone => matchesClasses (dateTimePattern ++ fraction ++ zone) s

/-- `stamp.replace("Z", "+00:00")`. -/
def replaceZ (s : PyStr) : PyStr :=
  s.flatMap fun c => if c = .char 'Z' then PyStr.lit "+00:00" else [c]

/-- `_timestamp` (`orchestration.py:94-102`); `fromIsoFormat` says which texts
    `datetime.fromisoformat` reads. -/
def checkTimestamp (fromIsoFormat : PyStr → Bool) : Json ν → Except OrchestrationError Unit
  | .str s =>
    rejectIf
      (40 < s.length ∨ timestampRe s = false ∨ fromIsoFormat (replaceZ s) = false) .valueInvalid
  | _ => .error .valueInvalid

/-- The keys an effect's payload must have (`orchestration.py:114-120`). -/
def effectRequired (kind target : PyStr) : List PyStr :=
  texts ["target", "intent_ref", "trigger"] ++
  (if target = .lit "PARENT_QUEUE" then texts ["parent_binding_ref"]
    else texts ["ready_plan_ref", "task_map_ref"]) ++
  (if kind = .lit "REPLAY" then
    texts ["recovery_evidence_ref",
      if target = .lit "PARENT_QUEUE" then "prior_submission_ref" else "prior_execution_ref"]
    else [])

/-- The payload of an effect (`orchestration.py:108-122`). -/
def effectContract (kind : PyStr) (payload : Entries ν) : Except OrchestrationError Unit := do
  rejectIf (.lit "target" ∉ payload.keys) .missingKey
  let target ← member (texts ["PARENT_QUEUE", "WORKER_BATCH"]) .valueInvalid
    (getKey payload "target")
  checkKeys (effectRequired kind target) [] payload
  let _ ← member (texts ["EXPLICIT", "REFILL"]) .valueInvalid (getKey payload "trigger")
  return ()

/-- The keys by kind (`orchestration.py:108-130`). -/
def kindContract (kind : PyStr) (payload : Entries ν) : Except OrchestrationError Unit :=
  if kind ∈ effectKinds then effectContract kind payload
  else if kind = .lit "UTILIZATION" then
    checkKeys (texts ["census_ref", "ready_set_ref", "activation_ref", "provider_observation_ref"])
      [] payload
  else checkKeys (texts ["hook_event_ref", "subject_ref", "observation_ref"]) [] payload

/-- `_payload_contract` (`orchestration.py:105-130`). -/
def payloadContract (kind : PyStr) : Json ν → Except OrchestrationError Unit
  | .obj payload => do
    kindContract kind payload
    rejectIf (¬ ∀ e ∈ payload, isRef refLimit e.2 = true) .valueInvalid
  | _ => .error .valueInvalid

/-- `expected_source` (`orchestration.py:144-147`). -/
def checkSource (expectedSource : Option PyStr) (sourceRef : Json ν) :
    Except OrchestrationError Unit :=
  match expectedSource with
  | none => .ok ()
  | some expected => do
    checkRef identifierLimit (.str expected : Json ν)
    let _ ← member [expected] .sourceMismatch sourceRef
    return ()

/-- A reference that is checked where its key is present. -/
def checkOptionalRef (limit : Nat) (entries : Entries ν) (key : String) :
    Except OrchestrationError Unit :=
  rejectIf (.lit key ∈ entries.keys ∧ isRef limit (getKey entries key) = false) .valueInvalid

/-- `_validate` (`orchestration.py:133-157`). -/
def validate (fromIsoFormat : PyStr → Bool) (entries : Entries ν)
    (expectedSource : Option PyStr) : Except OrchestrationError Unit := do
  checkKeys signalFields signalOptional entries
  let _ ← member schemaVersions .versionUnsupported (getKey entries "schema_version")
  let kind ← member kinds .typeUnknown (getKey entries "kind")
  checkRef identifierLimit (getKey entries "signal_id")
  checkRef identifierLimit (getKey entries "source_ref")
  checkRef identifierLimit (getKey entries "project_id")
  checkSource expectedSource (getKey entries "source_ref")
  checkTimestamp fromIsoFormat (getKey entries "occurred_at")
  checkOptionalRef identifierLimit entries "task_ref"
  checkOptionalRef identifierLimit entries "work_order_ref"
  checkOptionalRef refLimit entries "binding_ref"
  rejectIf (kind ∈ effectKinds ∧
    ¬ (.lit "task_ref" ∈ entries.keys ∧ .lit "work_order_ref" ∈ entries.keys)) .missingKey
  payloadContract kind (getKey entries "payload")

/-- Whether a value is a truth value. -/
def isBool : Json ν → Bool
  | .bool _ => true
  | _ => false

/-- `_validate_outcome` (`orchestration.py:241-257`). -/
def validateOutcome (entries : Entries ν) : Except OrchestrationError Unit := do
  checkKeys outcomeFields outcomeOptional entries
  checkRef identifierLimit (getKey entries "signal_id")
  let _ ← member kinds .typeUnknown (getKey entries "kind")
  let _ ← member outcomeDecisions .valueInvalid (getKey entries "decision")
  checkRef identifierLimit (getKey entries "reason_code")
  checkRefs (getKey entries "evidence_refs")
  rejectIf (isBool (getKey entries "observability_degraded") = false) .valueInvalid
  rejectIf (.lit "submission_ref" ∈ entries.keys ∧ .lit "execution_ref" ∈ entries.keys)
    .valueInvalid
  checkOptionalRef identifierLimit entries "submission_ref"
  checkOptionalRef identifierLimit entries "execution_ref"

/-- What `_bounded_tree` has left to spend, and the fields it has counted. -/
structure TreeState where
  budget : Nat
  fields : Nat
  deriving DecidableEq, Repr

/-- `budget -= cost`, and the test at the end of the loop. -/
def spend (cost : Nat) (state : TreeState) : Except OrchestrationError TreeState := do
  rejectIf (state.budget < cost) .sizeExceeded
  return { state with budget := state.budget - cost }

/-- A text popped from `pending`. -/
def visitText (s : PyStr) (state : TreeState) : Except OrchestrationError TreeState :=
  spend (1 + (Json.dumpsStr true s).length) state

/-- The tests of a container (`orchestration.py:171-177`). -/
def enter (size parentDepth : Nat) (state : TreeState) :
    Except OrchestrationError TreeState := do
  rejectIf (depthLimit < parentDepth + 1) .depthExceeded
  rejectIf (fieldLimit < size) .fieldsExceeded
  rejectIf (fieldLimit < state.fields + size) .fieldsExceeded
  spend 1 { state with fields := state.fields + size }

mutual

/-- `_bounded_tree` (`orchestration.py:160-191`): what is pushed last is popped first, so a
    container's children are visited from the last one on, each with all it contains. -/
def visit : Json ν → Nat → TreeState → Except OrchestrationError TreeState
  | .null, _, state => spend 1 state
  | .bool _, _, state => spend 1 state
  | .num _, _, _ => .error .valueInvalid
  | .str s, _, state => visitText s state
  | .arr items, parentDepth, state => do
    let entered ← enter items.length parentDepth state
    visitItems items (parentDepth + 1) entered
  | .obj entries, parentDepth, state => do
    let entered ← enter entries.length parentDepth state
    visitEntries entries (parentDepth + 1) entered

def visitItems : List (Json ν) → Nat → TreeState → Except OrchestrationError TreeState
  | [], _, state => .ok state
  | item :: items, depth, state => do
    let after ← visitItems items depth state
    visit item depth after

def visitEntries : List (PyStr × Json ν) → Nat → TreeState → Except OrchestrationError TreeState
  | [], _, state => .ok state
  | (key, item) :: entries, depth, state => do
    let afterEntries ← visitEntries entries depth state
    let afterItem ← visit item depth afterEntries
    visitText key afterItem

end

def boundedTree (value : Json ν) : Except OrchestrationError Unit := do
  let _ ← visit value 0 ⟨sizeLimit, 0⟩
  return ()

/-- The style of `_encode`: ASCII and compact. -/
def signalStyle : Json.Style := ⟨true, false⟩

/-- `_encode` (`orchestration.py:203-209`). No number passes `_bounded_tree`; a text of
    ASCII always has an encoding. -/
def encodeValue (value : Json ν) : Except OrchestrationError (List UInt8) := do
  boundedTree value
  match PyStr.encode (Json.dumps signalStyle (fun _ => []) value.sortKeys) with
  | none => .error .encodingInvalid
  | some data =>
    rejectIf (sizeLimit < data.length) .sizeExceeded
    return data

/-- `item is not None`. -/
def present (e : PyStr × Json ν) : Bool :=
  match e.2 with
  | .null => false
  | _ => true

/-- The fields of a signal by name. -/
def signalItems (s : OrchestrationSignal ν) : Entries ν :=
  [(.lit "schema_version", s.schemaVersion), (.lit "signal_id", s.signalId), (.lit "kind", s.kind),
    (.lit "occurred_at", s.occurredAt), (.lit "source_ref", s.sourceRef),
    (.lit "project_id", s.projectId), (.lit "task_ref", s.taskRef),
    (.lit "work_order_ref", s.workOrderRef), (.lit "binding_ref", s.bindingRef),
    (.lit "payload", s.payload)]

/-- `_signal_value` (`orchestration.py:194-200`). -/
def signalValue (s : OrchestrationSignal ν) : Entries ν := (signalItems s).filter present

/-- `encode_signal` (`orchestration.py:212-217`). -/
def encodeSignal (fromIsoFormat : PyStr → Bool) (s : OrchestrationSignal ν) :
    Except OrchestrationError (List UInt8) := do
  boundedTree (.obj (signalValue s))
  validate fromIsoFormat (signalValue s) none
  encodeValue (.obj (signalValue s))

/-- The dictionary of an outcome (`orchestration.py:228-235`). -/
def outcomeValue (o : OrchestrationOutcome ν) (refs : List (Json ν)) : Entries ν :=
  [(.lit "signal_id", o.signalId), (.lit "kind", o.kind), (.lit "decision", o.decision),
    (.lit "reason_code", o.reasonCode), (.lit "evidence_refs", .arr refs),
    (.lit "observability_degraded", o.observabilityDegraded)] ++
  [(.lit "submission_ref", o.submissionRef), (.lit "execution_ref", o.executionRef)].filter present

/-- `list(outcome.evidence_refs)` behind its type test (`orchestration.py:224-227`). -/
def refsList : EvidenceRefs ν → Except OrchestrationError (List (Json ν))
  | .list items => .ok items
  | .tuple items => .ok items
  | .other => .error .valueInvalid

/-- `encode_outcome` (`orchestration.py:220-238`). -/
def encodeOutcome (o : OrchestrationOutcome ν) : Except OrchestrationError (List UInt8) := do
  let refs ← refsList o.evidenceRefs
  boundedTree (.obj (outcomeValue o refs))
  validateOutcome (outcomeValue o refs)
  encodeValue (.obj (outcomeValue o refs))

/-- What `_bounded_text` tracks. -/
structure TextState where
  depth : Int
  inString : Bool
  escaped : Bool
  fields : Nat
  deriving DecidableEq, Repr

/-- One character of `_bounded_text` (`orchestration.py:283-302`). -/
def boundedStep (state : TextState) (c : CodePoint) : Except OrchestrationError TextState :=
  if state.inString then
    if state.escaped then .ok { state with escaped := false }
    else if c = .char '\\' then .ok { state with escaped := true }
    else if c = .char '"' then .ok { state with inString := false }
    else .ok state
  else if c = .char '"' then .ok { state with inString := true }
  else if c = .char '{' ∨ c = .char '[' then
    if (depthLimit : Int) < state.depth + 1 then .error .depthExceeded
    else .ok { state with depth := state.depth + 1 }
  else if c = .char '}' ∨ c = .char ']' then .ok { state with depth := state.depth - 1 }
  else if c = .char ':' then
    if fieldLimit < state.fields + 1 then .error .fieldsExceeded
    else .ok { state with fields := state.fields + 1 }
  else .ok state

/-- `_bounded_text` (`orchestration.py:275-303`). -/
def boundedText (text : PyStr) : Except OrchestrationError Unit := do
  let _ ← text.foldlM boundedStep ⟨0, false, false, 0⟩
  return ()

/-- The hooks of `_parse`: `_unique_object` and `_numeric_token`
    (`orchestration.py:260-272`). -/
def signalHooks : Json.Hooks OrchestrationError ν where
  parseInt _ := .ok .null
  parseFloat _ := .ok .null
  parseConstant _ := .ok .null
  objectPairs pairs :=
    if (pairs.map Prod.fst).Nodup then .ok (.obj pairs) else .error .duplicateKey

/-- The handlers around `json.loads` (`orchestration.py:319-326`). -/
def loadText (text : PyStr) : Except OrchestrationError (Json ν) :=
  match Json.loads signalHooks text with
  | .error .decodeError => .error .jsonInvalid
  | .error (.hook e) => .error e
  | .ok value => .ok value

/-- `_parse` (`orchestration.py:306-329`). -/
def parse (data : List UInt8) : Except OrchestrationError (Json ν) := do
  rejectIf (sizeLimit < data.length) .sizeExceeded
  match PyStr.decode data with
  | none => .error .encodingInvalid
  | some text =>
    boundedText text
    loadText text

theorem signalHooks_keepDistinct : (signalHooks : Json.Hooks OrchestrationError ν).KeepDistinct where
  parseInt := by
    rintro text j ⟨⟩
    trivial
  parseFloat := by
    rintro text j ⟨⟩
    trivial
  parseConstant := by
    rintro text j ⟨⟩
    trivial
  objectPairs := by
    intro pairs j hpairs h
    dsimp only [signalHooks] at h
    split at h
    · cases h
      exact ⟨by assumption, hpairs⟩
    · cases h

theorem parse_distinct {data : List UInt8} {j : Json ν} (h : parse data = .ok j) : j.Distinct := by
  unfold parse at h
  obtain ⟨_, -, h⟩ := bind_eq_ok.mp h
  split at h
  · cases h
  · obtain ⟨_, -, h⟩ := bind_eq_ok.mp h
    unfold loadText at h
    split at h
    · cases h
    · cases h
    · cases h
      exact Json.loads_distinct signalHooks_keepDistinct (by assumption)

/-- `decode_signal` (`orchestration.py:332-341`). -/
def decodeSignal (fromIsoFormat : PyStr → Bool) (data : List UInt8)
    (expectedSource : Option PyStr) : Except OrchestrationError (OrchestrationSignal ν) :=
  match h : parse data with
  | .error e => .error e
  | .ok (.obj entries) =>
    match validate fromIsoFormat entries expectedSource with
    | .error e => .error e
    | .ok () => .ok {
        schemaVersion := getKey entries "schema_version"
        signalId := getKey entries "signal_id"
        kind := getKey entries "kind"
        occurredAt := getKey entries "occurred_at"
        sourceRef := getKey entries "source_ref"
        projectId := getKey entries "project_id"
        taskRef := getKey entries "task_ref"
        workOrderRef := getKey entries "work_order_ref"
        bindingRef := getKey entries "binding_ref"
        payload := getKey entries "payload"
        distinct := Json.distinct_find? (parse_distinct h).2 }
  | .ok _ => .error .jsonInvalid

/-- `tuple(value)` of a list. -/
def itemsOf : Json ν → List (Json ν)
  | .arr items => items
  | _ => []

/-- `decode_outcome` (`orchestration.py:344-354`). -/
def decodeOutcome (data : List UInt8) : Except OrchestrationError (OrchestrationOutcome ν) := do
  match ← (parse data : Except OrchestrationError (Json ν)) with
  | .obj entries =>
    validateOutcome entries
    return {
      signalId := getKey entries "signal_id"
      kind := getKey entries "kind"
      decision := getKey entries "decision"
      reasonCode := getKey entries "reason_code"
      evidenceRefs := .tuple (itemsOf (getKey entries "evidence_refs"))
      submissionRef := getKey entries "submission_ref"
      executionRef := getKey entries "execution_ref"
      observabilityDegraded := getKey entries "observability_degraded" }
  | _ => .error .jsonInvalid

end AConductor.Signal

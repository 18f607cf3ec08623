import AConductor.Lib.JsonNesting
import AConductor.Review.PromotionEvidence

/-!
# Reviews: the response and the report

`parse_review_v2_response` and `_parse_zcode_report`
(`src/a_conductor/zero_relay_review_evidence.py:25-174,177-183,215-237`): what a reviewing run wrote,
read back fail-closed. The interpreter's limits are parameters: the digits of an integer literal
and the nesting that its stack admits. That the response is a byte string is its type here.
-/

namespace AConductor.Review

open List Except Json

/-- The interpreter: the digits that `int` converts (`none` for no limit), the containers inside
    one another that the reader of JSON has room for, and `str.casefold`. -/
structure Interpreter where
  maxDigits : Option Nat
  room : Nat
  casefold : PyStr → PyStr

/-- What the parsers raise: a `ZeroRelayReviewEvidenceError` with its code, or a `ValueError`
    that nobody caught. -/
inductive ResponseFault where
  | evidence (code : String)
  | valueError
  deriving DecidableEq, Repr

/-- Nothing but the typed error escapes. -/
def Contained {α : Type} (outcome : Except ResponseFault α) : Prop :=
  ∀ fault, outcome = .error fault → ∃ code, fault = .evidence code

/-- What the hooks of the reader raise: `_DuplicateKeyError`, `_NonStandardJsonConstant`, and the
    plain `ValueError` of `int`. -/
inductive HookFault where
  | duplicateKey
  | nonStandardConstant
  | valueError
  deriving DecidableEq, Repr

/-- An integer literal that `int` refuses to convert. -/
def Interpreter.refuses (interpreter : Interpreter) (integer : PyStr) : Bool :=
  interpreter.maxDigits.any fun m => m < (integer.filter isDigit).length

/-- The defaults of `json.loads` with `_pairs_object` and `_reject_json_constant`
    (`zero_relay_review_evidence.py:61-82`). -/
def responseHooks (interpreter : Interpreter) : Hooks HookFault (Number PyStr) where
  parseInt text :=
    if interpreter.refuses text then .error .valueError else .ok (.num (.int (intOf text)))
  parseFloat text := .ok (.num (.float text))
  parseConstant _ := .error .nonStandardConstant
  objectPairs pairs :=
    if (pairs.map Prod.fst).Nodup then .ok (.obj pairs) else .error .duplicateKey

/-- The `except` clauses around `json.loads`. The plain `ValueError` is in none of them. -/
def caught (subject : String) : Raised HookFault → ResponseFault
  | .decodeError => .evidence (subject ++ "_JSON_INVALID")
  | .recursionError => .evidence (subject ++ "_JSON_INVALID")
  | .hook .duplicateKey => .evidence (subject ++ "_DUPLICATE_KEY")
  | .hook .nonStandardConstant => .evidence (subject ++ "_JSON_INVALID")
  | .hook .valueError => .valueError

/-- The decoding that both parsers begin with. -/
def decodePayload (interpreter : Interpreter) (subject : String) (raw : List UInt8) :
    Except ResponseFault EvidenceValue :=
  match PyStr.decode raw with
  | none => .error (.evidence (subject ++ "_UTF8_INVALID"))
  | some text =>
    (loadsWithin (responseHooks interpreter) interpreter.room text).mapError (caught subject)

def reportRequired : List String :=
  ["schema", "execution_id", "task_packet_sha256", "response_bytes", "response_sha256", "session_id"]

def reportAllowed : List String :=
  reportRequired ++ ["task_contract_ref", "selection_sha256", "exit_state"]

/-- Every entry has one of the names. -/
def keysAmong (names : List String) (payload : List (PyStr × EvidenceValue)) : Bool :=
  payload.all fun e => e.1 ∈ names.map PyStr.lit

/-- Each of the names has an entry. -/
def hasKeys (names : List String) (payload : List (PyStr × EvidenceValue)) : Bool :=
  names.all fun name => (Json.find? (.lit name) payload).isSome

/-- `payload.get(name) == expected` for a text. -/
def holdsText (payload : List (PyStr × EvidenceValue)) (name : String) (expected : PyStr) : Bool :=
  textField payload name = some expected

/-- The checks on the decoded report (`zero_relay_review_evidence.py:230-237`). -/
def acceptReport : EvidenceValue → Except ResponseFault (List (PyStr × EvidenceValue))
  | .obj payload => do
    rejectIf (¬ (hasKeys reportRequired payload ∧ keysAmong reportAllowed payload))
      (.evidence "REVIEW_REPORT_KEYS_INVALID")
    rejectIf (¬ holdsText payload "schema" (.lit "zcode-report/1"))
      (.evidence "REVIEW_REPORT_SCHEMA_MISMATCH")
    return payload
  | _ => .error (.evidence "REVIEW_REPORT_ROOT_INVALID")

/-- `_parse_zcode_report` (`zero_relay_review_evidence.py:215-237`). -/
def parseZcodeReport (interpreter : Interpreter) (raw : List UInt8) :
    Except ResponseFault (List (PyStr × EvidenceValue)) := do
  let payload ← decodePayload interpreter "REVIEW_REPORT" raw
  acceptReport payload

def maxResponseBytes : Nat := 32 * 1024

def maxFindings : Nat := 64

def maxFindingChars : Nat := 2048

/-- `ReviewDisposition` (`zero_relay.py:68-70`). -/
inductive ReviewDisposition where
  | accepted
  | rejected
  deriving DecidableEq, Repr

/-- `_ValidatedDirectReviewResult`. -/
structure ValidatedDirectReviewResult where
  reviewContractRef : PyStr
  reviewedHead : PyStr
  reviewTaskSha256 : PyStr
  disposition : ReviewDisposition
  findings : List PyStr
  deriving DecidableEq, Repr

/-- The checks of `_expected_text` on a text. -/
def isExpectedText (maxChars : Nat) (value : PyStr) : Bool :=
  decide (value ≠ [] ∧ value = value.strip ∧ value.length ≤ maxChars) &&
    value.all fun ch => 0x20 ≤ ch.code && ch.code ≠ 0x7f

/-- `_expected_text` (`zero_relay_review_evidence.py:85-90`); `none` is an object that is no
    text. -/
def expectedText (value : Option PyStr) (code : String) (maxChars : Nat) :
    Except ResponseFault PyStr :=
  match value with
  | none => .error (.evidence code)
  | some s => if isExpectedText maxChars s then .ok s else .error (.evidence code)

/-- What a response is compared with. -/
structure Expectation where
  contract : PyStr
  head : PyStr
  taskSha : PyStr

/-- The checks before the response is decoded
    (`zero_relay_review_evidence.py:106-119`). -/
def checkExpectation (interpreter : Interpreter) (raw : List UInt8)
    (expectedContractRef expectedReviewedHead expectedReviewTaskSha256 : Option PyStr) :
    Except ResponseFault Expectation := do
  rejectIf (raw = [] ∨ maxResponseBytes < raw.length) (.evidence "REVIEW_RESULT_TOO_LARGE")
  let contract ← expectedText expectedContractRef "REVIEW_EXPECTED_CONTRACT_INVALID" 512
  let reviewedHead ← expectedText expectedReviewedHead "REVIEW_EXPECTED_HEAD_INVALID" 64
  let reviewTaskSha ← expectedText expectedReviewTaskSha256 "REVIEW_EXPECTED_TASK_SHA_INVALID" 64
  let head := interpreter.casefold reviewedHead
  let taskSha := interpreter.casefold reviewTaskSha
  rejectIf (¬ isLowerHex 7 64 head) (.evidence "REVIEW_EXPECTED_HEAD_INVALID")
  rejectIf (¬ isLowerHex 64 64 taskSha) (.evidence "REVIEW_EXPECTED_TASK_SHA_INVALID")
  return { contract, head, taskSha }

def responseKeys : List String :=
  ["schema", "review_contract_ref", "reviewed_head", "review_task_sha256", "verdict", "findings"]

/-- The verdict of a response. -/
def dispositionOf (payload : List (PyStr × EvidenceValue)) :
    Except ResponseFault ReviewDisposition :=
  if holdsText payload "verdict" (.lit "ACCEPTED") then .ok .accepted
  else if holdsText payload "verdict" (.lit "REJECTED") then .ok .rejected
  else .error (.evidence "REVIEW_RESULT_VERDICT_INVALID")

/-- The checks on one finding. -/
def findingOf (finding : EvidenceValue) : Except ResponseFault PyStr :=
  match finding with
  | .str s =>
    if s ≠ [] ∧ s.length ≤ maxFindingChars ∧ .char '\x00' ∉ s ∧ s.all CodePoint.isChar then .ok s
    else .error (.evidence "REVIEW_RESULT_FINDINGS_INVALID")
  | _ => .error (.evidence "REVIEW_RESULT_FINDINGS_INVALID")

/-- The findings of a response. -/
def findingsOf (payload : List (PyStr × EvidenceValue)) : Except ResponseFault (List PyStr) :=
  match Json.find? (.lit "findings") payload with
  | some (.arr findings) =>
    if maxFindings < findings.length then .error (.evidence "REVIEW_RESULT_FINDINGS_INVALID")
    else findings.mapM findingOf
  | _ => .error (.evidence "REVIEW_RESULT_FINDINGS_INVALID")

/-- The checks on the decoded response (`zero_relay_review_evidence.py:134-174`). -/
def validateResponse (expected : Expectation) :
    EvidenceValue → Except ResponseFault ValidatedDirectReviewResult
  | .obj payload => do
    rejectIf (¬ (keysAmong responseKeys payload ∧ hasKeys responseKeys payload))
      (.evidence "REVIEW_RESULT_KEYS_INVALID")
    rejectIf (¬ holdsText payload "schema" (.lit "zra2-review-result-v2"))
      (.evidence "REVIEW_RESULT_SCHEMA_MISMATCH")
    rejectIf (¬ holdsText payload "review_contract_ref" expected.contract)
      (.evidence "REVIEW_RESULT_CONTRACT_MISMATCH")
    rejectIf (¬ holdsText payload "reviewed_head" expected.head)
      (.evidence "REVIEW_RESULT_HEAD_MISMATCH")
    rejectIf (¬ holdsText payload "review_task_sha256" expected.taskSha)
      (.evidence "REVIEW_RESULT_TASK_SHA_MISMATCH")
    let disposition ← dispositionOf payload
    let findings ← findingsOf payload
    return { reviewContractRef := expected.contract, reviewedHead := expected.head
             reviewTaskSha256 := expected.taskSha, disposition, findings }
  | _ => .error (.evidence "REVIEW_RESULT_ROOT_INVALID")

/-- `parse_review_v2_response` (`zero_relay_review_evidence.py:93-174`). -/
def parseReviewV2Response (interpreter : Interpreter) (raw : List UInt8)
    (expectedContractRef expectedReviewedHead expectedReviewTaskSha256 : Option PyStr) :
    Except ResponseFault ValidatedDirectReviewResult := do
  let expected ← checkExpectation interpreter raw expectedContractRef expectedReviewedHead
    expectedReviewTaskSha256
  let payload ← decodePayload interpreter "REVIEW_RESULT" raw
  validateResponse expected payload

section Checks

variable {α β : Type}

theorem contained_iff {outcome : Except ResponseFault α} :
    Contained outcome ↔ outcome ≠ .error .valueError := by
  constructor
  · rintro h rfl
    obtain ⟨code, ⟨⟩⟩ := h _ rfl
  · rintro h (code | _) hfault
    · exact ⟨code, rfl⟩
    · exact absurd hfault h

theorem contained_ok (a : α) : Contained (.ok a : Except ResponseFault α) := nofun

theorem contained_evidence (code : String) :
    Contained (.error (.evidence code) : Except ResponseFault α) := by
  rintro _ ⟨⟩
  exact ⟨code, rfl⟩

theorem contained_rejectIf (condition : Prop) [Decidable condition] (code : String) :
    Contained (rejectIf condition (.evidence code)) := by
  rintro _ h
  obtain ⟨-, rfl⟩ := rejectIf_eq_error.mp h
  exact ⟨code, rfl⟩

variable {f : α → Except ResponseFault β}

theorem Contained.bind {x : Except ResponseFault α} (hx : Contained x) (hf : ∀ a, Contained (f a)) :
    Contained (x >>= f) := by
  intro fault h
  rcases bind_eq_error.mp h with h | ⟨a, -, h⟩
  · exact hx fault h
  · exact hf a fault h

theorem contained_mapM (hf : ∀ a, Contained (f a)) (l : List α) : Contained (l.mapM f) := by
  induction l with
  | nil =>
    rw [mapM_nil]
    exact contained_ok []
  | cons a l ih =>
    rw [mapM_cons]
    exact (hf a).bind fun _ => ih.bind fun _ => contained_ok _

theorem contained_expectedText (value : Option PyStr) (code : String) (maxChars : Nat) :
    Contained (expectedText value code maxChars) := by
  unfold expectedText
  split
  · exact contained_evidence code
  · split
    · exact contained_ok _
    · exact contained_evidence code

theorem contained_checkExpectation (interpreter : Interpreter) (raw : List UInt8)
    (contract head taskSha : Option PyStr) :
    Contained (checkExpectation interpreter raw contract head taskSha) := by
  refine (contained_rejectIf _ _).bind fun _ => ?_
  refine (contained_expectedText _ _ _).bind fun _ => ?_
  refine (contained_expectedText _ _ _).bind fun _ => ?_
  refine (contained_expectedText _ _ _).bind fun _ => ?_
  refine (contained_rejectIf _ _).bind fun _ => ?_
  exact (contained_rejectIf _ _).bind fun _ => contained_ok _

theorem contained_acceptReport (payload : EvidenceValue) : Contained (acceptReport payload) := by
  unfold acceptReport
  split
  · refine (contained_rejectIf _ _).bind fun _ => ?_
    exact (contained_rejectIf _ _).bind fun _ => contained_ok _
  · exact contained_evidence _

theorem contained_dispositionOf (payload : List (PyStr × EvidenceValue)) :
    Contained (dispositionOf payload) := by
  unfold dispositionOf
  split
  · exact contained_ok _
  · split
    · exact contained_ok _
    · exact contained_evidence _

theorem contained_findingOf (finding : EvidenceValue) : Contained (findingOf finding) := by
  unfold findingOf
  split
  · split
    · exact contained_ok _
    · exact contained_evidence _
  · exact contained_evidence _

theorem contained_findingsOf (payload : List (PyStr × EvidenceValue)) :
    Contained (findingsOf payload) := by
  unfold findingsOf
  split
  · split
    · exact contained_evidence _
    · exact contained_mapM contained_findingOf _
  · exact contained_evidence _

theorem contained_validateResponse (expected : Expectation) (payload : EvidenceValue) :
    Contained (validateResponse expected payload) := by
  unfold validateResponse
  split
  · refine (contained_rejectIf _ _).bind fun _ => ?_
    refine (contained_rejectIf _ _).bind fun _ => ?_
    refine (contained_rejectIf _ _).bind fun _ => ?_
    refine (contained_rejectIf _ _).bind fun _ => ?_
    refine (contained_rejectIf _ _).bind fun _ => ?_
    refine (contained_dispositionOf _).bind fun _ => ?_
    exact (contained_findingsOf _).bind fun _ => contained_ok _
  · exact contained_evidence _

end Checks

/-- The reader of the response's text, going from left to right within its stack, comes to an
    integer literal that the interpreter refuses to convert. -/
def ReachesRefused (interpreter : Interpreter) (raw : List UInt8) : Prop :=
  ∃ text, PyStr.decode raw = some text ∧ text.head? ≠ some (.char '\ufeff') ∧
    ∃ target, Reaches (responseHooks interpreter) interpreter.room (skipWs text) target ∧
      ∃ integer, IntegerAt target integer ∧ interpreter.refuses integer = true

/-- The text of an expectation passes the checks that are made before the response is decoded. -/
def ExpectedTexts (interpreter : Interpreter) (contract head taskSha : Option PyStr) : Prop :=
  (∃ c ∈ contract, isExpectedText 512 c = true) ∧
  (∃ h ∈ head, isExpectedText 64 h = true ∧ isLowerHex 7 64 (interpreter.casefold h) = true) ∧
  ∃ t ∈ taskSha, isExpectedText 64 t = true ∧ isLowerHex 64 64 (interpreter.casefold t) = true

section Escapes

variable {interpreter : Interpreter} {raw : List UInt8}

theorem parseInt_eq_valueError {integer : PyStr} :
    (responseHooks interpreter).parseInt integer = .error .valueError ↔
      interpreter.refuses integer = true := by
  simp [responseHooks]

theorem objectPairs_ne_valueError (pairs : List (PyStr × EvidenceValue)) :
    (responseHooks interpreter).objectPairs pairs ≠ .error .valueError := by
  unfold responseHooks
  dsimp only
  split <;> exact nofun

theorem caught_eq_valueError {subject : String} {raised : Raised HookFault} :
    caught subject raised = .valueError ↔ raised = .hook .valueError := by
  cases raised with
  | decodeError => simp [caught]
  | recursionError => simp [caught]
  | hook e => cases e <;> simp [caught]

/-- The decoding lets the plain `ValueError` escape exactly at a refused literal. -/
theorem decodePayload_escapes (subject : String) :
    decodePayload interpreter subject raw = .error .valueError ↔ ReachesRefused interpreter raw := by
  have hread (room : Nat) (s : PyStr) :
      readValue (responseHooks interpreter) room s = .error (.hook .valueError) ↔ _ :=
    readValue_raises_iff (by simp [responseHooks]) (by simp [responseHooks])
      objectPairs_ne_valueError
  unfold decodePayload ReachesRefused
  cases hdecode : PyStr.decode raw with
  | none => simp
  | some text =>
    have hmapped {x : Except (Raised HookFault) EvidenceValue} :
        x.mapError (caught subject) = .error .valueError ↔ x = .error (.hook .valueError) := by
      cases x <;> simp [Except.mapError, caught_eq_valueError]
    simp only [hmapped, loadsWithin_raises_iff, hread, parseInt_eq_valueError,
      Option.some.injEq, exists_eq_left']

theorem expectedText_eq_ok {value : Option PyStr} {code : String} {maxChars : Nat} {s : PyStr} :
    expectedText value code maxChars = .ok s ↔ s ∈ value ∧ isExpectedText maxChars s = true := by
  unfold expectedText
  cases value with
  | none => simp
  | some v =>
    by_cases hv : isExpectedText maxChars v
    · simp only [hv, if_true, Except.ok.injEq, Option.mem_some_iff]
      constructor
      · rintro rfl
        exact ⟨rfl, hv⟩
      · exact fun h => h.1
    · simp only [hv, Bool.false_eq_true, if_false, reduceCtorEq, Option.mem_some_iff, false_iff]
      rintro ⟨rfl, h⟩
      exact hv h

/-- When the response is decoded at all. -/
theorem checkExpectation_returns {contract head taskSha : Option PyStr} :
    (∃ expected, checkExpectation interpreter raw contract head taskSha = .ok expected) ↔
      (raw ≠ [] ∧ raw.length ≤ maxResponseBytes) ∧ ExpectedTexts interpreter contract head taskSha := by
  unfold checkExpectation ExpectedTexts
  constructor
  · rintro ⟨expected, h⟩
    obtain ⟨hsize, h⟩ := check_bind_eq_ok.mp h
    obtain ⟨c, hc, h⟩ := bind_eq_ok.mp h
    obtain ⟨d, hd, h⟩ := bind_eq_ok.mp h
    obtain ⟨t, ht, h⟩ := bind_eq_ok.mp h
    obtain ⟨hhead, h⟩ := check_bind_eq_ok.mp h
    obtain ⟨htask, -⟩ := check_bind_eq_ok.mp h
    rw [rejectIf_eq_ok, not_or, Nat.not_lt] at hsize
    rw [rejectIf_eq_ok, not_not] at hhead htask
    rw [expectedText_eq_ok] at hc hd ht
    exact ⟨hsize, ⟨c, hc⟩, ⟨d, hd.1, hd.2, hhead⟩, t, ht.1, ht.2, htask⟩
  · rintro ⟨hsize, ⟨c, hc⟩, ⟨d, hd, hdtext, hhead⟩, t, ht, httext, htask⟩
    have hsize' : ¬ (raw = [] ∨ maxResponseBytes < raw.length) := by
      rwa [not_or, Nat.not_lt]
    rw [rejectIf_neg hsize', expectedText_eq_ok.mpr hc, expectedText_eq_ok.mpr ⟨hd, hdtext⟩,
      expectedText_eq_ok.mpr ⟨ht, httext⟩]
    simp only [ok_bind, hhead, htask, not_true_eq_false]
    exact ⟨_, rfl⟩

end Escapes

/-- A response and a report are parsed without anything but the typed error escaping, exactly
    unless their text leads the reader to an integer literal beyond the interpreter's limit; a
    response is decoded only after its length and what is expected of it have been checked. -/
theorem response_parsing_contained_iff (interpreter : Interpreter) (raw : List UInt8)
    (contract head taskSha : Option PyStr) :
    (Contained (parseReviewV2Response interpreter raw contract head taskSha) ↔
      ¬ ((raw ≠ [] ∧ raw.length ≤ maxResponseBytes) ∧
        ExpectedTexts interpreter contract head taskSha ∧ ReachesRefused interpreter raw)) ∧
    (Contained (parseZcodeReport interpreter raw) ↔ ¬ ReachesRefused interpreter raw) := by
  constructor
  · rw [contained_iff, not_iff_not, ← and_assoc, ← checkExpectation_returns,
      ← decodePayload_escapes "REVIEW_RESULT"]
    constructor
    · intro h
      rcases bind_eq_error.mp h with h | ⟨expected, hexpected, h⟩
      · exact absurd h (contained_iff.mp (contained_checkExpectation _ _ _ _ _))
      · rcases bind_eq_error.mp h with h | ⟨payload, -, h⟩
        · exact ⟨⟨expected, hexpected⟩, h⟩
        · exact absurd h (contained_iff.mp (contained_validateResponse _ _))
    · rintro ⟨⟨expected, hexpected⟩, h⟩
      exact bind_eq_error.mpr (.inr ⟨expected, hexpected, bind_eq_error.mpr (.inl h)⟩)
  · rw [contained_iff, not_iff_not, ← decodePayload_escapes "REVIEW_REPORT"]
    constructor
    · intro h
      rcases bind_eq_error.mp h with h | ⟨payload, -, h⟩
      · exact h
      · exact absurd h (contained_iff.mp (contained_acceptReport payload))
    · exact fun h => bind_eq_error.mpr (.inl h)

theorem decode_ones (n : Nat) :
    PyStr.decode (List.replicate n 0x31) = some (List.replicate n (.char '1')) := by
  have hones : List.replicate n (0x31 : UInt8) = PyStr.encodeChars (List.replicate n '1') := by
    induction n with
    | zero => rfl
    | succ n ih =>
      rw [replicate_succ, replicate_succ, PyStr.encodeChars_cons, ← ih]
      rfl
  rw [hones, PyStr.decode_encodeChars, PyStr.ofChars, map_replicate]

theorem integerAt_ones (n : Nat) :
    IntegerAt (List.replicate (n + 1) (.char '1')) (List.replicate (n + 1) (.char '1')) := by
  refine ⟨[], ?_, rfl, rfl⟩
  simp [replicate_succ, scanInteger, isDigit, CodePoint.code]

theorem reachesRefused_ones {interpreter : Interpreter} {n : Nat}
    (h : interpreter.maxDigits.any fun m => m < n + 1) :
    ReachesRefused interpreter (List.replicate (n + 1) 0x31) := by
  refine ⟨_, decode_ones (n + 1), by simp [replicate_succ], _, reaches_refl,
    List.replicate (n + 1) (.char '1'), ?_, ?_⟩
  · rw [replicate_succ, skipWs_cons (by rfl), ← replicate_succ]
    exact integerAt_ones n
  · simpa [Interpreter.refuses, isDigit, CodePoint.code] using h

/-- A response and a report of one integer literal of 4301 digits, under the interpreter's default
    limit. -/
theorem long_integer_escapes :
    let interpreter : Interpreter := { maxDigits := some 4300, room := 990, casefold := id }
    let raw : List UInt8 := List.replicate 4301 0x31
    raw.length ≤ maxResponseBytes ∧
    parseReviewV2Response interpreter raw (some (.lit "contract")) (some (.lit "abcdef0"))
      (some (List.replicate 64 (.char 'a'))) = .error .valueError ∧
    parseZcodeReport interpreter raw = .error .valueError := by
  intro interpreter raw
  have hreaches : ReachesRefused interpreter raw := reachesRefused_ones (by simp [interpreter])
  have hlength : raw.length = 4301 := length_replicate
  have hsize : raw.length ≤ maxResponseBytes := hlength ▸ (by decide)
  refine ⟨hsize, ?_, ?_⟩
  · obtain ⟨expected, hexpected⟩ : ∃ expected, checkExpectation interpreter raw
        (some (.lit "contract")) (some (.lit "abcdef0")) (some (List.replicate 64 (.char 'a'))) =
        .ok expected := by
      refine checkExpectation_returns.mpr ⟨⟨ne_nil_of_length_pos (by omega), hsize⟩, ?_⟩
      exact ⟨⟨_, rfl, by decide⟩, ⟨_, rfl, by decide, by decide⟩, _, rfl, by decide, by decide⟩
    exact bind_eq_error.mpr (.inr ⟨expected, hexpected,
      bind_eq_error.mpr (.inl ((decodePayload_escapes _).mpr hreaches))⟩)
  · exact bind_eq_error.mpr (.inl ((decodePayload_escapes _).mpr hreaches))

end AConductor.Review

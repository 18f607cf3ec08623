import AConductor.Dex.Wire
import AConductor.Lib.Json

/-!
# DEX: collected evidence

The strict decoder `decode_collected_evidence` (`src/a_conductor/dex_evidence.py`) up to the
comparison with what is expected, which is `decodePayload`. `Collected` is what a transport
can answer and `Collected.read` what the wire makes of it. A JSON float stands for its own
literal, since no accepted field is one. The fields that nothing reads afterwards are
checked and dropped.
-/

namespace AConductor.Dex

open Except

/-- What the decoder takes from its surroundings: the bound on the digits of an integer, the
    texts on which the scanner runs out of stack, and SHA-256 of an ASCII text, in
    hexadecimal digits. -/
structure EvidenceEnv where
  maxDigits : Option Nat
  tooDeep : PyStr → Bool
  sha256 : PyStr → String

abbrev Value := Json (Json.Number PyStr)

abbrev Payload := List (PyStr × Value)

/-- `payload[key]`, where the keys were checked. -/
def getKey (payload : Payload) (key : String) : Value :=
  (Json.find? (.lit key) payload).getD .null

/-- `value == text`. -/
def isText (text : PyStr) : Value → Bool
  | .str s => s = text
  | _ => false

/-- What the hooks of the decoder raise. -/
inductive HookFault where
  | duplicateKey
  | valueError
  deriving DecidableEq, Repr

/-- `object_pairs_hook=_object, parse_constant=_constant` (`dex_evidence.py:26-36`). -/
def evidenceHooks (env : EvidenceEnv) : Json.Hooks HookFault (Json.Number PyStr) :=
  { Json.plainHooks env.maxDigits id .valueError with
    parseConstant := fun _ => .error .valueError
    objectPairs := fun pairs =>
      if (pairs.map Prod.fst).Nodup then .ok (.obj pairs) else .error .duplicateKey }

/-- `_text` (`dex_evidence.py:39-42`). -/
def evidenceText (code : String) : Value → Except String PyStr
  | .str s =>
    if s = [] ∨ 1024 < s.length ∨ .char '\x00' ∈ s ∨ .char '\r' ∈ s ∨ .char '\n' ∈ s then
      .error code
    else .ok s
  | _ => .error code

/-- A text without lone surrogates. -/
def asString (s : PyStr) : Option String := s.toChars?.map String.ofList

/-- `_hex` (`dex_evidence.py:45-49`); its bound on the length is above that of the pattern. -/
def evidenceHex (n : Nat) (code : String) (value : Value) : Except String String := do
  let s ← evidenceText code value
  match asString s with
  | none => .error code
  | some text => if Text.isHex n text then .ok text else .error code

/-- `_uint` (`dex_evidence.py:52-55`). -/
def evidenceUint (code : String) : Value → Except String Int
  | .num (.int n) => if n < 0 then .error code else .ok n
  | _ => .error code

/-- An integer that is no truth value. -/
def evidenceInt (code : String) : Value → Except String Int
  | .num (.int n) => .ok n
  | _ => .error code

def evidenceBool (code : String) : Value → Except String Bool
  | .bool b => .ok b
  | _ => .error code

def evidenceList (code : String) : Value → Except String (List Value)
  | .arr items => .ok items
  | _ => .error code

def evidenceDict (code : String) : Value → Except String Payload
  | .obj entries => .ok entries
  | _ => .error code

/-- `set(value) == keys`. -/
def hasExactly (keys : List String) (payload : Payload) : Bool :=
  payload.all (fun e => e.1 ∈ keys.map PyStr.lit) &&
    keys.all fun key => (Json.find? (.lit key) payload).isSome

/-- A dictionary with exactly these keys. -/
def evidenceRecord (keys : List String) (code : String) (value : Value) : Except String Payload := do
  let entries ← evidenceDict code value
  rejectIf (!hasExactly keys entries) code
  return entries

/-- `DexArtifactDigest` (`dex_evidence.py:62-66`). -/
structure DexArtifactDigest where
  ref : PyStr
  sha256 : String
  sizeBytes : Int
  deriving DecidableEq, Repr

/-- One pass over an artifact, given those before it (`dex_evidence.py:133-140`). -/
def evidenceArtifact (before : List DexArtifactDigest) (item : Value) :
    Except String DexArtifactDigest := do
  let code := "DEX_EVIDENCE_ARTIFACTS_INVALID"
  let entries ← evidenceRecord ["ref", "sha256", "size_bytes"] code item
  let ref ← evidenceText code (getKey entries "ref")
  rejectIf (ref ∈ before.map DexArtifactDigest.ref) code
  let sha256 ← evidenceHex 64 code (getKey entries "sha256")
  let sizeBytes ← evidenceUint code (getKey entries "size_bytes")
  return { ref, sha256, sizeBytes }

def evidenceArtifacts (before : List DexArtifactDigest) :
    List Value → Except String (List DexArtifactDigest)
  | [] => .ok before
  | item :: items => do
    let artifact ← evidenceArtifact before item
    evidenceArtifacts (before ++ [artifact]) items

/-- The process of the evidence (`dex_evidence.py:119-128`). -/
def checkProcess (value : Value) : Except String Unit := do
  let code := "DEX_EVIDENCE_PROCESS_INVALID"
  let process ← evidenceRecord ["host_id", "boot_id", "pid", "creation_id", "exit_code"] code value
  let _ ← evidenceText code (getKey process "host_id")
  let _ ← evidenceText code (getKey process "boot_id")
  let pid ← evidenceUint code (getKey process "pid")
  let _ ← evidenceText code (getKey process "creation_id")
  rejectIf (pid < 1) code
  let _ ← evidenceInt code (getKey process "exit_code")
  return ()

/-- The artifacts and the result among them (`dex_evidence.py:130-148`): its digest. -/
def evidenceResult (payload : Payload) : Except String String := do
  let items ← evidenceList "DEX_EVIDENCE_ARTIFACTS_INVALID" (getKey payload "artifacts")
  rejectIf (items = [] ∨ 16 < items.length) "DEX_EVIDENCE_ARTIFACTS_INVALID"
  let artifacts ← evidenceArtifacts [] items
  let code := "DEX_EVIDENCE_RESULT_INVALID"
  let result ← evidenceRecord ["ref", "sha256"] code (getKey payload "result")
  let ref ← evidenceText code (getKey result "ref")
  let sha256 ← evidenceHex 64 code (getKey result "sha256")
  rejectIf ((artifacts.find? fun a => a.ref = ref).map DexArtifactDigest.sha256 ≠ some sha256)
    "DEX_EVIDENCE_RESULT_DIGEST_MISMATCH"
  return sha256

/-- `_canonical` (`dex_evidence.py:58-59`). -/
def canonicalText (payload : Payload) : PyStr :=
  Json.dumps ⟨true, false⟩ (fun
    | .int n => Json.intText n
    | .float literal => literal) (Json.sortKeys (.obj payload))

/-- `_TOP` (`dex_evidence.py:14`). -/
def evidenceKeys : List String :=
  ["schema", "execution_id", "attempt_id", "binding_digest", "claim_generation", "sha_set",
    "process", "artifacts", "result", "collected_under_drift", "evidence_sha256"]

/-- The fields of a payload, and whether the digest of its body is the one it states
    (`dex_evidence.py:103-165`). An id with a lone surrogate is that of no attempt. -/
def evidenceFields (env : EvidenceEnv) (payload : Payload) :
    Except String (DexCollectedEvidence × Bool) := do
  rejectIf (!hasExactly evidenceKeys payload) "DEX_EVIDENCE_KEYS_INVALID"
  rejectIf (!isText (.lit "dex.srm.collection.v1") (getKey payload "schema"))
    "DEX_EVIDENCE_SCHEMA_MISMATCH"
  let executionId ← evidenceText "DEX_EVIDENCE_EXECUTION_INVALID" (getKey payload "execution_id")
  let attemptId ← evidenceText "DEX_EVIDENCE_ATTEMPT_INVALID" (getKey payload "attempt_id")
  let bindingDigest ← evidenceHex 64 "DEX_EVIDENCE_BINDING_INVALID" (getKey payload "binding_digest")
  let claimGeneration ← evidenceUint "DEX_EVIDENCE_GENERATION_INVALID"
    (getKey payload "claim_generation")
  let shaSet ← evidenceRecord ["authority", "execution"] "DEX_EVIDENCE_SHA_SET_INVALID"
    (getKey payload "sha_set")
  let authoritySha ← evidenceHex 40 "DEX_EVIDENCE_SHA_SET_INVALID" (getKey shaSet "authority")
  let executionSha ← evidenceHex 40 "DEX_EVIDENCE_SHA_SET_INVALID" (getKey shaSet "execution")
  checkProcess (getKey payload "process")
  let resultSha256 ← evidenceResult payload
  let evidenceSha256 ← evidenceHex 64 "DEX_EVIDENCE_DIGEST_INVALID" (getKey payload "evidence_sha256")
  let collectedUnderDrift ← evidenceBool "DEX_EVIDENCE_DRIFT_INVALID"
    (getKey payload "collected_under_drift")
  match asString executionId, asString attemptId with
  | some executionId, some attemptId =>
    let body := payload.filter fun e => e.1 ≠ .lit "evidence_sha256"
    return ({ executionId, attemptId, bindingDigest, claimGeneration, authoritySha, executionSha
              resultSha256, collectedUnderDrift, evidenceSha256 },
      env.sha256 (canonicalText body) = evidenceSha256)
  | _, _ => .error "DEX_EVIDENCE_IDENTITY_MISMATCH"

/-- The text of the evidence (`dex_evidence.py:93-102`). -/
def evidencePayload (env : EvidenceEnv) (raw : List UInt8) : Except String Payload := do
  rejectIf (raw = [] ∨ 262144 < raw.length) "DEX_EVIDENCE_BYTES_INVALID"
  match PyStr.decode raw with
  | none => .error "DEX_EVIDENCE_JSON_INVALID"
  | some text =>
    if env.tooDeep text then .error "DEX_EVIDENCE_JSON_INVALID"
    else match Json.loads (evidenceHooks env) text with
    | .error (.hook .duplicateKey) => .error "DEX_EVIDENCE_DUPLICATE_KEY"
    | .error _ => .error "DEX_EVIDENCE_JSON_INVALID"
    | .ok (.obj payload) => .ok payload
    | .ok _ => .error "DEX_EVIDENCE_ROOT_INVALID"

/-- `decode_collected_evidence`, before it compares. -/
def decodeCollectedEvidence (env : EvidenceEnv) (raw : List UInt8) :
    Except String (DexCollectedEvidence × Bool) := do
  let payload ← evidencePayload env raw
  evidenceFields env payload

/-- The process of the evidence, field by field. -/
structure EvidenceProcess where
  hostId : PyStr
  bootId : PyStr
  pid : Int
  creationId : PyStr
  exitCode : Int
  deriving DecidableEq, Repr

def evidenceProcess (value : Value) : Except String EvidenceProcess := do
  let code := "DEX_EVIDENCE_PROCESS_INVALID"
  let process ← evidenceRecord ["host_id", "boot_id", "pid", "creation_id", "exit_code"] code value
  let hostId ← evidenceText code (getKey process "host_id")
  let bootId ← evidenceText code (getKey process "boot_id")
  let pid ← evidenceUint code (getKey process "pid")
  let creationId ← evidenceText code (getKey process "creation_id")
  rejectIf (pid < 1) code
  let exitCode ← evidenceInt code (getKey process "exit_code")
  return { hostId, bootId, pid, creationId, exitCode }

/-- The whole of `DexCollectedEvidence` (`dex_evidence.py:73-89`). -/
structure DexEvidence extends DexCollectedEvidence where
  process : EvidenceProcess
  artifacts : List DexArtifactDigest
  resultRef : PyStr
  deriving DecidableEq, Repr

/-- The fields that the wire does not read. -/
def evidenceDetails (payload : Payload) :
    Except String (EvidenceProcess × List DexArtifactDigest × PyStr) := do
  let process ← evidenceProcess (getKey payload "process")
  let items ← evidenceList "DEX_EVIDENCE_ARTIFACTS_INVALID" (getKey payload "artifacts")
  let artifacts ← evidenceArtifacts [] items
  let code := "DEX_EVIDENCE_RESULT_INVALID"
  let result ← evidenceRecord ["ref", "sha256"] code (getKey payload "result")
  let resultRef ← evidenceText code (getKey result "ref")
  return (process, artifacts, resultRef)

/-- `decode_collected_evidence` with every field it returns, before it compares. -/
def decodeEvidence (env : EvidenceEnv) (raw : List UInt8) : Except String (DexEvidence × Bool) := do
  let payload ← evidencePayload env raw
  let (evidence, digestMatches) ← evidenceFields env payload
  let (process, artifacts, resultRef) ← evidenceDetails payload
  return ({ toDexCollectedEvidence := evidence, process, artifacts, resultRef }, digestMatches)

/-- What `transport.collect` can do: raise, return something that is not bytes, or return
    bytes. -/
inductive Collected where
  | raised (err : Thrown)
  | notBytes
  | bytes (raw : List UInt8)
  deriving DecidableEq, Repr

/-- What the wire makes of it. -/
def Collected.read (env : EvidenceEnv) : Collected → CollectAnswer
  | .raised err => .raised err
  | .notBytes => .malformed "DEX_EVIDENCE_BYTES_INVALID"
  | .bytes raw =>
    match decodeCollectedEvidence env raw with
    | .error code => .malformed code
    | .ok (evidence, digestMatches) => .payload evidence digestMatches

/-- What the decoder established about the fields it returns. -/
structure DexCollectedEvidence.WellFormed (e : DexCollectedEvidence) : Prop where
  bindingDigest : Text.isHex 64 e.bindingDigest = true
  claimGeneration : 0 ≤ e.claimGeneration
  authoritySha : Text.isHex 40 e.authoritySha = true
  executionSha : Text.isHex 40 e.executionSha = true
  resultSha256 : Text.isHex 64 e.resultSha256 = true
  evidenceSha256 : Text.isHex 64 e.evidenceSha256 = true

theorem evidenceHex_ok {n : Nat} {code text : String} {value : Value}
    (h : evidenceHex n code value = .ok text) : Text.isHex n text = true := by
  unfold evidenceHex at h
  obtain ⟨s, -, h⟩ := bind_eq_ok.mp h
  cases hs : asString s with
  | none =>
    rw [hs] at h
    cases h
  | some read =>
    rw [hs] at h
    by_cases hhex : Text.isHex n read = true
    · simp only [if_pos hhex] at h
      cases h
      exact hhex
    · simp only [if_neg hhex] at h
      cases h

theorem evidenceUint_ok {code : String} {value : Value} {n : Int}
    (h : evidenceUint code value = .ok n) : 0 ≤ n := by
  unfold evidenceUint at h
  split at h
  · split at h
    · cases h
    · cases h
      omega
  · cases h

variable {payload : Payload} {env : EvidenceEnv} {e : DexCollectedEvidence}

theorem evidenceResult_ok {sha256 : String} (h : evidenceResult payload = .ok sha256) :
    Text.isHex 64 sha256 = true := by
  unfold evidenceResult at h
  simp only [bind_eq_ok] at h
  obtain ⟨_, -, _, -, _, -, _, -, _, -, _, hhex, _, -, hsha⟩ := h
  cases hsha
  exact evidenceHex_ok hhex

theorem evidenceFields_ok {m : Bool} (h : evidenceFields env payload = .ok (e, m)) :
    e.WellFormed := by
  unfold evidenceFields at h
  simp only [bind_eq_ok] at h
  obtain ⟨_, -, _, -, executionId, -, attemptId, -, binding, hbinding, generation, hgeneration, _, -,
    authority, hauthority, execution, hexecution, _, -, result, hresult, evidence, hevidence, drift,
    -, h⟩ := h
  split at h
  · cases h
    exact ⟨evidenceHex_ok hbinding, evidenceUint_ok hgeneration, evidenceHex_ok hauthority,
      evidenceHex_ok hexecution, evidenceResult_ok hresult, evidenceHex_ok hevidence⟩
  · cases h

theorem checkProcess_eq (value : Value) :
    checkProcess value = (evidenceProcess value).map fun _ => () := by
  unfold checkProcess evidenceProcess
  simp only [Except.map_bind]
  rfl

/-- The fields that are left out here pass whenever the others do. -/
theorem evidenceDetails_of_fields {out : DexCollectedEvidence × Bool}
    (h : evidenceFields env payload = .ok out) :
    ∃ details, evidenceDetails payload = .ok details := by
  unfold evidenceFields at h
  simp only [bind_eq_ok, checkProcess_eq] at h
  obtain ⟨_, -, _, -, _, -, _, -, _, -, _, -, _, -, _, -, _, -, _, hprocess, _, hresult, -⟩ := h
  cases hp : evidenceProcess (getKey payload "process") with
  | error e =>
    rw [hp] at hprocess
    cases hprocess
  | ok process =>
    unfold evidenceResult at hresult
    simp only [bind_eq_ok] at hresult
    obtain ⟨items, hitems, _, -, artifacts, hartifacts, result, hrecord, ref, href, -⟩ := hresult
    refine ⟨(process, artifacts, ref), ?_⟩
    unfold evidenceDetails
    simp only [hp, hitems, hartifacts, hrecord, href, ok_bind]
    rfl

/-- The decoder accepts the same bytes whether or not all its fields are looked at. -/
theorem decodeCollectedEvidence_eq (env : EvidenceEnv) (raw : List UInt8) :
    decodeCollectedEvidence env raw =
      (decodeEvidence env raw).map fun out => (out.1.toDexCollectedEvidence, out.2) := by
  unfold decodeCollectedEvidence decodeEvidence
  cases evidencePayload env raw with
  | error e => rfl
  | ok payload =>
    rw [ok_bind, ok_bind]
    cases hfields : evidenceFields env payload with
    | error e => rfl
    | ok out =>
      obtain ⟨details, hdetails⟩ := evidenceDetails_of_fields hfields
      rw [ok_bind]
      dsimp only
      rw [hdetails]
      rfl

theorem Collected.read_bytes {raw : List UInt8} {m : Bool}
    (h : decodeCollectedEvidence env raw = .ok (e, m)) :
    (Collected.bytes raw).read env = .payload e m := by
  dsimp only [Collected.read]
  rw [h]

/-- A payload that reaches the comparison is well formed. -/
theorem Collected.read_wellFormed {answer : Collected} {m : Bool}
    (h : answer.read env = .payload e m) : e.WellFormed := by
  cases answer with
  | raised err => cases h
  | notBytes => cases h
  | bytes raw =>
    dsimp only [Collected.read] at h
    cases hdecode : decodeCollectedEvidence env raw with
    | error code =>
      rw [hdecode] at h
      cases h
    | ok out =>
      rw [hdecode] at h
      cases h
      unfold decodeCollectedEvidence at hdecode
      obtain ⟨payload, -, hfields⟩ := bind_eq_ok.mp hdecode
      exact evidenceFields_ok hfields

end AConductor.Dex

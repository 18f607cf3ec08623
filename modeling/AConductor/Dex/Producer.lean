import AConductor.Dex.Digests
import AConductor.Lib.JsonLength
import AConductor.Lib.JsonText
import AConductor.Lib.Machine

/-!
# DEX: the reference producer of evidence

`FakeSrmCollectionProducer` (`src/a_conductor/dex_fake_substrate.py`): what it checks when it
is made, the evidence it emits for the outputs of an attempt, and its memory of the first
collection. What it emits the strict decoder accepts, with every field as it was given.
-/

namespace AConductor.Dex

open List Except Json Text PyStr

/-- SHA-256 of bytes, in hexadecimal digits, beside what the decoder takes from its
    surroundings. -/
structure ProducerEnv extends EvidenceEnv where
  dataSha256 : List UInt8 → String

/-- What the producer is made of (`dex_fake_substrate.py:39-74`). -/
structure ProducerFields where
  executionId : String
  attemptId : String
  bindingDigest : String
  claimGeneration : Int
  authoritySha : String
  executionSha : String
  hostId : String
  bootId : String
  pid : Int
  creationId : String
  deriving DecidableEq, Repr

def ProducerFields.valid (p : ProducerFields) : Bool :=
  [p.executionId, p.attemptId, p.hostId, p.bootId, p.creationId].all (validText 1024) &&
  isHex 64 p.bindingDigest && 0 ≤ p.claimGeneration && isHex 40 p.authoritySha &&
  isHex 40 p.executionSha && 1 ≤ p.pid

structure FakeSrmCollectionProducer extends ProducerFields where
  checked : toProducerFields.valid = true

/-- What `collect` can raise: a `FakeSrmCollectionError`, or the `ValueError` of an integer
    that is too long to print. -/
inductive ProducerFault where
  | collectionError (code : String)
  | valueError
  deriving DecidableEq, Repr

/-- `_MAX_ARTIFACT_BYTES` (`dex_fake_substrate.py:13`). -/
def maxArtifactBytes : Nat := 1024 * 1024

/-- `_artifact` (`dex_fake_substrate.py:76-82`). -/
def artifactOf (env : ProducerEnv) (ref : String) (data : List UInt8) :
    Except ProducerFault DexArtifactDigest := do
  rejectIf (maxArtifactBytes < data.length)
    (.collectionError "FAKE_COLLECTION_ARTIFACT_TOO_LARGE")
  return { ref := .lit ref, sha256 := env.dataSha256 data, sizeBytes := data.length }

/-- The arguments of `collect`. -/
structure CollectArgs where
  resultBytes : List UInt8
  stdoutBytes : List UInt8
  stderrBytes : List UInt8
  exitCode : Int
  deriving DecidableEq, Repr

/-- The outputs that a collection describes. -/
structure Outputs where
  result : DexArtifactDigest
  stdout : DexArtifactDigest
  stderr : DexArtifactDigest
  exitCode : Int
  deriving DecidableEq, Repr

def Outputs.artifacts (o : Outputs) : List DexArtifactDigest := [o.result, o.stdout, o.stderr]

/-- The dictionary of an artifact. -/
def artifactPayload (a : DexArtifactDigest) : Payload :=
  [(.lit "ref", .str a.ref), (.lit "sha256", .str (.lit a.sha256)),
    (.lit "size_bytes", .num (.int a.sizeBytes))]

def shaSetPayload (p : ProducerFields) : Payload :=
  [(.lit "authority", .str (.lit p.authoritySha)), (.lit "execution", .str (.lit p.executionSha))]

def processPayload (p : ProducerFields) (exitCode : Int) : Payload :=
  [(.lit "host_id", .str (.lit p.hostId)), (.lit "boot_id", .str (.lit p.bootId)),
    (.lit "pid", .num (.int p.pid)), (.lit "creation_id", .str (.lit p.creationId)),
    (.lit "exit_code", .num (.int exitCode))]

def resultPayload (o : Outputs) : Payload :=
  [(.lit "ref", .str (.lit "result")), (.lit "sha256", .str (.lit o.result.sha256))]

/-- The payload before its digest (`dex_fake_substrate.py:109-126`). -/
def bodyPayload (p : ProducerFields) (o : Outputs) : Payload :=
  [(.lit "schema", .str (.lit "dex.srm.collection.v1")),
    (.lit "execution_id", .str (.lit p.executionId)),
    (.lit "attempt_id", .str (.lit p.attemptId)),
    (.lit "binding_digest", .str (.lit p.bindingDigest)),
    (.lit "claim_generation", .num (.int p.claimGeneration)),
    (.lit "sha_set", .obj (shaSetPayload p)),
    (.lit "process", .obj (processPayload p o.exitCode)),
    (.lit "artifacts", .arr (o.artifacts.map fun a => .obj (artifactPayload a))),
    (.lit "result", .obj (resultPayload o)),
    (.lit "collected_under_drift", .bool false)]

/-- The payload with its digest (`dex_fake_substrate.py:127`). -/
def collectionPayload (env : EvidenceEnv) (p : ProducerFields) (o : Outputs) : Payload :=
  bodyPayload p o ++
    [(.lit "evidence_sha256", .str (.lit (env.sha256 (canonicalText (bodyPayload p o)))))]

/-- A number that the interpreter prints. -/
def EvidenceEnv.prints (env : EvidenceEnv) : Number PyStr → Bool
  | .int n => !env.maxDigits.any fun m => m < ((intText n).filter isDigit).length
  | .float _ => true

/-- `_canonical` (`dex_fake_substrate.py:32-33`). -/
def canonicalBytes (env : EvidenceEnv) (payload : Payload) : Except ProducerFault (List UInt8) :=
  if (Json.obj payload).allNums env.prints then
    match encode (canonicalText payload) with
    | some raw => .ok raw
    | none => .error .valueError
  else .error .valueError

/-- `_signature` and `_raw`. -/
abbrev ProducerMemory := Option (Outputs × List UInt8)

/-- `collect` (`dex_fake_substrate.py:84-130`). The digest is taken of the canonical body, so
    both texts are printed. -/
def collect (env : ProducerEnv) (p : FakeSrmCollectionProducer) (memory : ProducerMemory)
    (args : CollectArgs) : Except ProducerFault (List UInt8) × ProducerMemory :=
  let outputs : Except ProducerFault Outputs := do
    let result ← artifactOf env "result" args.resultBytes
    let stdout ← artifactOf env "stdout" args.stdoutBytes
    let stderr ← artifactOf env "stderr" args.stderrBytes
    return { result, stdout, stderr, exitCode := args.exitCode }
  match outputs with
  | .error e => (.error e, memory)
  | .ok o =>
    match memory with
    | some (signature, raw) =>
      if o ≠ signature then (.error (.collectionError "FAKE_COLLECTION_IMMUTABLE"), memory)
      else (.ok raw, memory)
    | none =>
      match canonicalBytes env.toEvidenceEnv (bodyPayload p.toProducerFields o),
        canonicalBytes env.toEvidenceEnv
          (collectionPayload env.toEvidenceEnv p.toProducerFields o) with
      | .ok _, .ok raw => (.ok raw, some (o, raw))
      | .error e, _ => (.error e, none)
      | _, .error e => (.error e, none)

/-! ### The decoder on a sorted payload -/

variable {text : String} {a : DexArtifactDigest}

section Decoder

variable {env : EvidenceEnv} {payload : Payload} {names : List String}

theorem nodup_names (hkeys : payload.map Prod.fst = names.map PyStr.lit) (hnodup : names.Nodup) :
    (payload.map Prod.fst).Nodup := by
  rw [hkeys]
  exact nodup_lit hnodup

theorem getKey_cons (name : String) (value : Value) (rest : Payload) (key : String) :
    getKey ((.lit name, value) :: rest) key = if name = key then value else getKey rest key := by
  unfold getKey
  rw [find?_lit_cons]
  split
  · rfl
  · rfl

theorem getKey_sorted (hnodup : (payload.map Prod.fst).Nodup) (key : String) :
    getKey (sortedEntries payload) key = (getKey payload key).sortKeys := by
  unfold getKey
  rw [find?_sortedEntries hnodup]
  cases Json.find? (.lit key) payload with
  | none => simp only [Option.map_none, Option.getD_none, sortKeys]
  | some value => rfl

theorem hasExactly_sorted (hkeys : payload.map Prod.fst = names.map PyStr.lit)
    (hnodup : names.Nodup) {keys : List String} (hsame : ∀ name, name ∈ names ↔ name ∈ keys) :
    hasExactly keys (sortedEntries payload) = true := by
  have hmem (key : PyStr) : key ∈ (sortedEntries payload).map Prod.fst ↔
      key ∈ names.map PyStr.lit := by
    rw [(keys_sortedEntries payload).mem_iff, hkeys]
  unfold hasExactly
  rw [Bool.and_eq_true, all_eq_true, all_eq_true]
  constructor
  · intro e he
    obtain ⟨name, hname, heq⟩ := mem_map.mp ((hmem e.1).mp (mem_map_of_mem he))
    rw [decide_eq_true_iff, ← heq]
    exact mem_map_of_mem ((hsame name).mp hname)
  · intro key hkey
    obtain ⟨e, he, heq⟩ :=
      mem_map.mp ((hmem (.lit key)).mpr (mem_map_of_mem ((hsame key).mpr hkey)))
    have hsorted : ((sortedEntries payload).map Prod.fst).Nodup :=
      (keys_sortedEntries payload).nodup_iff.mpr (nodup_names hkeys hnodup)
    have hfound : Json.find? (.lit key) (sortedEntries payload) = some e.2 := by
      rw [find?_eq_some hsorted, ← heq]
      exact he
    rw [hfound]
    rfl

/-- A dictionary with the expected keys is a record. -/
theorem evidenceRecord_sorted (hkeys : payload.map Prod.fst = names.map PyStr.lit)
    (hnodup : names.Nodup) {keys : List String} (hsame : ∀ name, name ∈ names ↔ name ∈ keys)
    (code : String) :
    evidenceRecord keys code (sortKeys (.obj payload)) = .ok (sortedEntries payload) := by
  rw [sortKeys_obj]
  unfold evidenceRecord evidenceDict
  rw [ok_bind, rejectIf_neg (by
    rw [hasExactly_sorted hkeys hnodup hsame]
    exact Bool.false_ne_true)]
  rfl

theorem mem_lit {c : Char} : CodePoint.char c ∈ PyStr.lit text ↔ hasChar text c = true := by
  unfold PyStr.lit PyStr.ofChars hasChar
  rw [elem_eq_mem, decide_eq_true_iff]
  constructor
  · intro h
    obtain ⟨d, hd, heq⟩ := mem_map.mp h
    cases heq
    exact hd
  · exact mem_map_of_mem

theorem evidenceText_lit (h : validText 1024 text = true) (code : String) :
    evidenceText code (sortKeys (.str (.lit text))) = .ok (.lit text) := by
  unfold validText at h
  simp only [Bool.and_eq_true, Bool.not_eq_true', decide_eq_true_eq] at h
  obtain ⟨⟨⟨⟨hne, hlength⟩, hnul⟩, hcr⟩, hlf⟩ := h
  rw [sortKeys]
  refine if_neg ?_
  rintro (hempty | hlong | hmem | hmem | hmem)
  · apply hne
    have hnil : PyStr.lit text = PyStr.lit "" := hempty
    exact lit_injective hnil
  · unfold PyStr.lit at hlong
    rw [length_ofChars, String.length_toList] at hlong
    omega
  · rw [mem_lit, hnul] at hmem
    cases hmem
  · rw [mem_lit, hcr] at hmem
    cases hmem
  · rw [mem_lit, hlf] at hmem
    cases hmem

theorem validText_of_isHex {n : Nat} (h : isHex n text = true) (hn : 0 < n) (hmax : n ≤ 1024) :
    validText 1024 text = true := by
  have hlength := (isHex_chars h).1
  unfold validText
  rw [hasChar_of_isHex h (by decide), hasChar_of_isHex h (by decide),
    hasChar_of_isHex h (by decide)]
  have hne : text ≠ "" := by
    rintro rfl
    rw [show "".length = 0 from rfl] at hlength
    omega
  simp [hne, hlength, hmax]

theorem asString_lit (text : String) : asString (.lit text) = some text := by
  unfold asString PyStr.lit
  rw [toChars?_ofChars]
  exact congrArg some (String.ofList_toList)

theorem evidenceHex_lit {n : Nat} (h : isHex n text = true) (hn : 0 < n) (hmax : n ≤ 1024)
    (code : String) : evidenceHex n code (sortKeys (.str (.lit text))) = .ok text := by
  unfold evidenceHex
  rw [evidenceText_lit (validText_of_isHex h hn hmax), ok_bind]
  rw [asString_lit]
  exact if_pos h

theorem evidenceUint_int {n : Int} (h : 0 ≤ n) (code : String) :
    evidenceUint code (sortKeys (.num (.int n))) = .ok n := by
  rw [sortKeys]
  exact if_neg (by omega)

theorem evidenceInt_int (n : Int) (code : String) :
    evidenceInt code (sortKeys (.num (.int n))) = .ok n := by
  rw [sortKeys]
  rfl

end Decoder

/-! ### What the decoder makes of a collection -/

/-- The outputs as `collect` describes them. -/
structure Outputs.Described (o : Outputs) : Prop where
  refs : o.artifacts.map DexArtifactDigest.ref = [.lit "result", .lit "stdout", .lit "stderr"]
  digests : ∀ a ∈ o.artifacts, isHex 64 a.sha256 = true
  sizes : ∀ a ∈ o.artifacts, 0 ≤ a.sizeBytes

/-- What `__init__` checked. -/
structure ProducerFields.Checked (p : ProducerFields) : Prop where
  executionId : validText 1024 p.executionId = true
  attemptId : validText 1024 p.attemptId = true
  hostId : validText 1024 p.hostId = true
  bootId : validText 1024 p.bootId = true
  creationId : validText 1024 p.creationId = true
  bindingDigest : isHex 64 p.bindingDigest = true
  claimGeneration : 0 ≤ p.claimGeneration
  authoritySha : isHex 40 p.authoritySha = true
  executionSha : isHex 40 p.executionSha = true
  pid : 1 ≤ p.pid

theorem ProducerFields.checked_of_valid {p : ProducerFields} (h : p.valid = true) : p.Checked := by
  unfold ProducerFields.valid at h
  simp only [all_cons, all_nil, Bool.and_eq_true, decide_eq_true_eq, and_true] at h
  obtain ⟨⟨⟨⟨⟨⟨hexecution, hattempt, hhost, hboot, hcreation⟩, hbinding⟩, hgeneration⟩,
    hauthority⟩, hsha⟩, hpid⟩ := h
  exact ⟨hexecution, hattempt, hhost, hboot, hcreation, hbinding, hgeneration, hauthority, hsha,
    hpid⟩

/-- The evidence that a collection is meant to be. -/
def producedEvidence (env : EvidenceEnv) (p : ProducerFields) (o : Outputs) : DexEvidence where
  executionId := p.executionId
  attemptId := p.attemptId
  bindingDigest := p.bindingDigest
  claimGeneration := p.claimGeneration
  authoritySha := p.authoritySha
  executionSha := p.executionSha
  resultSha256 := o.result.sha256
  collectedUnderDrift := false
  evidenceSha256 := env.sha256 (canonicalText (bodyPayload p o))
  process :=
    { hostId := .lit p.hostId, bootId := .lit p.bootId, pid := p.pid
      creationId := .lit p.creationId, exitCode := o.exitCode }
  artifacts := o.artifacts
  resultRef := .lit "result"

section Collection

variable {env : EvidenceEnv} {p : ProducerFields} {o : Outputs}

theorem keys_artifactPayload (a : DexArtifactDigest) :
    (artifactPayload a).map Prod.fst = ["ref", "sha256", "size_bytes"].map PyStr.lit := rfl

theorem keys_shaSetPayload (p : ProducerFields) :
    (shaSetPayload p).map Prod.fst = ["authority", "execution"].map PyStr.lit := rfl

theorem keys_processPayload (p : ProducerFields) (exitCode : Int) :
    (processPayload p exitCode).map Prod.fst =
      ["host_id", "boot_id", "pid", "creation_id", "exit_code"].map PyStr.lit := rfl

theorem keys_resultPayload (o : Outputs) :
    (resultPayload o).map Prod.fst = ["ref", "sha256"].map PyStr.lit := rfl

/-- The keys in the order in which the producer writes them. -/
def producedKeys : List String :=
  ["schema", "execution_id", "attempt_id", "binding_digest", "claim_generation", "sha_set",
    "process", "artifacts", "result", "collected_under_drift", "evidence_sha256"]

theorem keys_collectionPayload :
    (collectionPayload env p o).map Prod.fst = producedKeys.map PyStr.lit := rfl

/-- A field of the sorted collection is the field of the producer, sorted. -/
theorem getKey_collection (key : String) :
    getKey (sortedEntries (collectionPayload env p o)) key =
      (getKey (collectionPayload env p o) key).sortKeys :=
  getKey_sorted (nodup_names keys_collectionPayload (by decide)) key

theorem evidenceProcess_produced (env : EvidenceEnv) (o : Outputs) (hp : p.Checked) :
    evidenceProcess (sortKeys (.obj (processPayload p o.exitCode))) =
      .ok (producedEvidence env p o).process := by
  have hget : ∀ key, getKey (sortedEntries (processPayload p o.exitCode)) key =
      (getKey (processPayload p o.exitCode) key).sortKeys := getKey_sorted (nodup_names (keys_processPayload p o.exitCode) (by decide))
  unfold evidenceProcess
  dsimp only
  rw [evidenceRecord_sorted (keys_processPayload p o.exitCode) (by decide) (by simp), ok_bind]
  simp only [hget]
  simp only [processPayload, getKey_cons, String.reduceEq, if_false, if_true,
    evidenceText_lit hp.hostId, evidenceText_lit hp.bootId, evidenceText_lit hp.creationId,
    evidenceUint_int (show 0 ≤ p.pid by have := hp.pid; omega), evidenceInt_int, ok_bind]
  rw [rejectIf_neg (by have := hp.pid; omega)]
  rfl

theorem evidenceArtifact_produced {ref : String} {before : List DexArtifactDigest}
    (href : a.ref = .lit ref) (hvalid : validText 1024 ref = true)
    (hnew : a.ref ∉ before.map DexArtifactDigest.ref) (hhex : isHex 64 a.sha256 = true)
    (hsize : 0 ≤ a.sizeBytes) :
    evidenceArtifact before (sortKeys (.obj (artifactPayload a))) = .ok a := by
  have hget : ∀ key, getKey (sortedEntries (artifactPayload a)) key =
      (getKey (artifactPayload a) key).sortKeys := getKey_sorted (nodup_names (keys_artifactPayload a) (by decide))
  unfold evidenceArtifact
  dsimp only
  rw [evidenceRecord_sorted (keys_artifactPayload a) (by decide) (by simp), ok_bind]
  simp only [hget]
  rw [href] at hnew
  simp only [artifactPayload, getKey_cons, String.reduceEq, if_false, if_true, href,
    evidenceText_lit hvalid, evidenceHex_lit hhex (by decide) (by decide), evidenceUint_int hsize,
    ok_bind, rejectIf_neg hnew]
  rw [← href]
  rfl

theorem evidenceArtifacts_produced (ho : o.Described) :
    evidenceArtifacts [] (sortKeysItems (o.artifacts.map fun a => .obj (artifactPayload a))) =
      .ok o.artifacts := by
  obtain ⟨hrefs, hdigests, hsizes⟩ := ho
  simp only [Outputs.artifacts, map_cons, map_nil, List.cons.injEq, and_true] at hrefs
  obtain ⟨hresult, hstdout, hstderr⟩ := hrefs
  have hmem {a : DexArtifactDigest} (h : a ∈ [o.result, o.stdout, o.stderr]) : a ∈ o.artifacts := h
  have hne : PyStr.lit "stdout" ≠ .lit "result" ∧ PyStr.lit "stderr" ≠ .lit "result" ∧
      PyStr.lit "stderr" ≠ .lit "stdout" := by
    simp only [ne_eq, lit_injective.eq_iff, String.reduceEq, not_false_eq_true, and_self]
  simp only [Outputs.artifacts, map_cons, map_nil, sortKeysItems]
  unfold evidenceArtifacts
  rw [evidenceArtifact_produced hresult (by decide) (by simp)
    (hdigests _ (hmem (by simp))) (hsizes _ (hmem (by simp))), ok_bind]
  unfold evidenceArtifacts
  rw [evidenceArtifact_produced hstdout (by decide) (by simp [hresult, hstdout, hne])
    (hdigests _ (hmem (by simp))) (hsizes _ (hmem (by simp))), ok_bind]
  unfold evidenceArtifacts
  rw [evidenceArtifact_produced hstderr (by decide) (by simp [hresult, hstdout, hstderr, hne])
    (hdigests _ (hmem (by simp))) (hsizes _ (hmem (by simp))), ok_bind]
  rfl

theorem getKey_artifacts :
    getKey (sortedEntries (collectionPayload env p o)) "artifacts" =
      .arr (sortKeysItems (o.artifacts.map fun a => .obj (artifactPayload a))) := by
  rw [getKey_collection]
  simp only [collectionPayload, bodyPayload, cons_append, nil_append, getKey_cons,
    String.reduceEq, if_false, if_true, sortKeys]

theorem getKey_result :
    getKey (sortedEntries (collectionPayload env p o)) "result" =
      sortKeys (.obj (resultPayload o)) := by
  rw [getKey_collection]
  simp only [collectionPayload, bodyPayload, cons_append, nil_append, getKey_cons,
    String.reduceEq, if_false, if_true]

theorem getKey_resultPayload (key : String) :
    getKey (sortedEntries (resultPayload o)) key = (getKey (resultPayload o) key).sortKeys :=
  getKey_sorted (nodup_names (keys_resultPayload o) (by decide)) key

theorem evidenceResult_produced (ho : o.Described) :
    evidenceResult (sortedEntries (collectionPayload env p o)) = .ok o.result.sha256 := by
  have hhex : isHex 64 o.result.sha256 = true := ho.digests _ mem_cons_self
  have hresult : o.result.ref = .lit "result" := by
    have hrefs := ho.refs
    simp only [Outputs.artifacts, map_cons, List.cons.injEq] at hrefs
    exact hrefs.1
  have hcount : (sortKeysItems (o.artifacts.map fun a =>
      (.obj (artifactPayload a) : Value))).length = 3 := by
    rw [sortKeysItems_eq, length_map, length_map]
    rfl
  unfold evidenceResult
  rw [getKey_artifacts]
  unfold evidenceList
  rw [ok_bind, rejectIf_neg (by
    rw [hcount, ← length_eq_zero_iff, hcount]
    decide), ok_bind, evidenceArtifacts_produced ho, ok_bind]
  dsimp only
  rw [getKey_result, evidenceRecord_sorted (keys_resultPayload o) (by decide) (by simp),
    ok_bind]
  simp only [getKey_resultPayload]
  simp only [resultPayload, getKey_cons, String.reduceEq, if_false, if_true,
    evidenceText_lit (show validText 1024 "result" = true by decide),
    evidenceHex_lit hhex (by decide) (by decide), ok_bind]
  rw [rejectIf_neg]
  · rfl
  · rw [Outputs.artifacts, List.find?_cons_of_pos (by rw [hresult]; exact decide_eq_true rfl)]
    simp

/-- The body of what is read has the text of the body that was digested. -/
theorem canonicalText_body :
    canonicalText ((sortedEntries (collectionPayload env p o)).filter fun e =>
      e.1 ≠ .lit "evidence_sha256") = canonicalText (bodyPayload p o) := by
  have hbody : (collectionPayload env p o).filter (fun e => e.1 ≠ .lit "evidence_sha256") =
      bodyPayload p o := by
    simp only [collectionPayload, bodyPayload, cons_append, nil_append, filter_cons,
      filter_nil, ne_eq, lit_injective.eq_iff, String.reduceEq, not_false_eq_true,
      not_true_eq_false, decide_true, decide_false, if_true, if_false, Bool.false_eq_true]
  rw [canonicalText_eq, canonicalText_eq,
    sortedEntries_without (nodup_names keys_collectionPayload (by decide)), hbody]

/-- The fields of a collection that are texts and numbers, as they are read. -/
theorem getKey_texts (key : String) (value : Value)
    (h : (key, value) ∈ [("schema", Json.str (.lit "dex.srm.collection.v1")),
      ("execution_id", .str (.lit p.executionId)), ("attempt_id", .str (.lit p.attemptId)),
      ("binding_digest", .str (.lit p.bindingDigest)),
      ("claim_generation", .num (.int p.claimGeneration)), ("sha_set", .obj (shaSetPayload p)),
      ("process", .obj (processPayload p o.exitCode)), ("collected_under_drift", .bool false),
      ("evidence_sha256", .str (.lit (env.sha256 (canonicalText (bodyPayload p o)))))]) :
    getKey (sortedEntries (collectionPayload env p o)) key = value.sortKeys := by
  rw [getKey_collection]
  simp only [mem_cons, not_mem_nil, or_false, Prod.mk.injEq] at h
  have hentry : getKey (collectionPayload env p o) key = value := by
    rcases h with ⟨rfl, rfl⟩ | ⟨rfl, rfl⟩ | ⟨rfl, rfl⟩ | ⟨rfl, rfl⟩ | ⟨rfl, rfl⟩ | ⟨rfl, rfl⟩ |
      ⟨rfl, rfl⟩ | ⟨rfl, rfl⟩ | ⟨rfl, rfl⟩ <;>
    simp only [collectionPayload, bodyPayload, cons_append, nil_append, getKey_cons,
      String.reduceEq, if_false, if_true]
  rw [hentry]

/-- The fields of a collection are those it was made of. -/
theorem evidenceFields_produced (hp : p.Checked) (ho : o.Described)
    (hhash : ∀ text, isHex 64 (env.sha256 text) = true) :
    evidenceFields env (sortedEntries (collectionPayload env p o)) =
      .ok ((producedEvidence env p o).toDexCollectedEvidence, true) := by
  have hexact : hasExactly evidenceKeys (sortedEntries (collectionPayload env p o)) = true :=
    hasExactly_sorted keys_collectionPayload (by decide) (by simp [producedKeys, evidenceKeys])
  have hsha : ∀ key, getKey (sortedEntries (shaSetPayload p)) key =
      (getKey (shaSetPayload p) key).sortKeys := getKey_sorted (nodup_names (keys_shaSetPayload p) (by decide))
  have hresult : evidenceResult (sortedEntries (collectionPayload env p o)) =
      .ok o.result.sha256 := evidenceResult_produced ho
  have hbody : canonicalText ((sortedEntries (collectionPayload env p o)).filter fun e =>
      e.1 ≠ .lit "evidence_sha256") = canonicalText (bodyPayload p o) := canonicalText_body
  have hget := @getKey_texts env p o
  generalize sortedEntries (collectionPayload env p o) = sorted at hexact hresult hbody hget ⊢
  unfold evidenceFields
  simp only [hresult, hbody, hget "schema" (.str (.lit "dex.srm.collection.v1")) (by simp),
    hget "execution_id" (.str (.lit p.executionId)) (by simp),
    hget "attempt_id" (.str (.lit p.attemptId)) (by simp),
    hget "binding_digest" (.str (.lit p.bindingDigest)) (by simp),
    hget "claim_generation" (.num (.int p.claimGeneration)) (by simp),
    hget "sha_set" (.obj (shaSetPayload p)) (by simp),
    hget "process" (.obj (processPayload p o.exitCode)) (by simp),
    hget "collected_under_drift" (.bool false) (by simp),
    hget "evidence_sha256" (.str (.lit (env.sha256 (canonicalText (bodyPayload p o))))) (by simp)]
  rw [hexact, rejectIf_neg (by simp), ok_bind, rejectIf_neg (by
    rw [sortKeys]
    simp [isText]), ok_bind]
  simp only [evidenceText_lit hp.executionId, evidenceText_lit hp.attemptId,
    evidenceHex_lit hp.bindingDigest (by decide) (by decide), evidenceUint_int hp.claimGeneration,
    evidenceRecord_sorted (keys_shaSetPayload p) (by decide)
      (show ∀ name, name ∈ ["authority", "execution"] ↔ name ∈ ["authority", "execution"] by simp),
    hsha, checkProcess_eq, evidenceProcess_produced env o hp,
    evidenceHex_lit (hhash _) (by decide) (by decide), ok_bind]
  simp only [shaSetPayload, getKey_cons, String.reduceEq, if_false, if_true,
    evidenceHex_lit hp.authoritySha (by decide) (by decide),
    evidenceHex_lit hp.executionSha (by decide) (by decide), ok_bind, Except.map]
  rw [sortKeys]
  simp only [evidenceBool, asString_lit, ok_bind, decide_true]
  rfl

theorem evidenceDetails_produced (env : EvidenceEnv) (hp : p.Checked) (ho : o.Described) :
    evidenceDetails (sortedEntries (collectionPayload env p o)) =
      .ok ((producedEvidence env p o).process, o.artifacts, .lit "result") := by
  unfold evidenceDetails
  rw [getKey_texts "process" (.obj (processPayload p o.exitCode)) (by simp),
    evidenceProcess_produced env o hp, ok_bind, getKey_artifacts]
  unfold evidenceList
  rw [ok_bind, evidenceArtifacts_produced ho, ok_bind]
  dsimp only
  rw [getKey_result, evidenceRecord_sorted (keys_resultPayload o) (by decide) (by simp),
    ok_bind, getKey_resultPayload]
  simp only [resultPayload, getKey_cons, String.reduceEq, if_true,
    evidenceText_lit (show validText 1024 "result" = true by decide), ok_bind]
  rfl

/-! ### The bytes of a collection -/

/-- The integers of a collection are printed. -/
structure Printed (env : EvidenceEnv) (p : ProducerFields) (o : Outputs) : Prop where
  claimGeneration : env.Converts p.claimGeneration
  pid : env.Converts p.pid
  exitCode : env.Converts o.exitCode
  sizes : ∀ a ∈ o.artifacts, env.Converts a.sizeBytes

theorem allNums_collection :
    (Json.obj (collectionPayload env p o)).allNums env.prints = true ↔ Printed env p o := by
  have hconverts {n : Int} : env.prints (.int n) = true ↔ env.Converts n := by
    simp [EvidenceEnv.prints, EvidenceEnv.Converts]
  simp only [collectionPayload, bodyPayload, cons_append, nil_append, allNums,
    allNumsEntries, shaSetPayload, processPayload, resultPayload, Outputs.artifacts,
    map_cons, map_nil, allNumsItems, artifactPayload, Bool.and_true, Bool.true_and,
    Bool.and_eq_true, hconverts]
  constructor
  · rintro ⟨hgeneration, ⟨hpid, hexit⟩, hresult, hstdout, hstderr⟩
    refine ⟨hgeneration, hpid, hexit, ?_⟩
    intro a ha
    simp only [Outputs.artifacts, mem_cons, not_mem_nil, or_false] at ha
    rcases ha with rfl | rfl | rfl
    · exact hresult
    · exact hstdout
    · exact hstderr
  · intro h
    refine ⟨h.claimGeneration, ⟨h.pid, h.exitCode⟩, h.sizes _ ?_, h.sizes _ ?_, h.sizes _ ?_⟩
    · simp [Outputs.artifacts]
    · simp [Outputs.artifacts]
    · simp [Outputs.artifacts]

theorem Outputs.Described.isChar (ho : o.Described) (ha : a ∈ o.artifacts) :
    a.ref.all CodePoint.isChar = true := by
  have hmem : a.ref ∈ o.artifacts.map DexArtifactDigest.ref := mem_map_of_mem ha
  rw [ho.refs] at hmem
  simp only [mem_cons, not_mem_nil, or_false] at hmem
  rcases hmem with h | h | h <;> rw [h] <;> exact all_isChar_lit _

theorem readable_artifactPayload (ho : o.Described) (hprinted : Printed env p o)
    (ha : a ∈ o.artifacts) : Json.Readable env.Prints (.obj (artifactPayload a)) := by
  refine ⟨nodup_names (keys_artifactPayload a) (by decide), ?_⟩
  have hsize : env.Prints (.int a.sizeBytes) := ⟨_, rfl, hprinted.sizes a ha⟩
  simp only [artifactPayload, ReadableEntries, Json.Readable, all_isChar_lit, hsize,
    ho.isChar ha, and_self]

theorem readable_collectionPayload (ho : o.Described) (hprinted : Printed env p o) :
    Json.Readable env.Prints (.obj (collectionPayload env p o)) := by
  refine ⟨nodup_names keys_collectionPayload (by decide), ?_⟩
  have hgeneration : env.Prints (.int p.claimGeneration) := ⟨_, rfl, hprinted.claimGeneration⟩
  have hpid : env.Prints (.int p.pid) := ⟨_, rfl, hprinted.pid⟩
  have hexit : env.Prints (.int o.exitCode) := ⟨_, rfl, hprinted.exitCode⟩
  have hsha : Json.Readable env.Prints (.obj (shaSetPayload p)) := by
    refine ⟨nodup_names (keys_shaSetPayload p) (by decide), ?_⟩
    simp only [shaSetPayload, ReadableEntries, Json.Readable, all_isChar_lit, and_self]
  have hprocess : Json.Readable env.Prints (.obj (processPayload p o.exitCode)) := by
    refine ⟨nodup_names (keys_processPayload p o.exitCode) (by decide), ?_⟩
    simp only [processPayload, ReadableEntries, Json.Readable, all_isChar_lit, hpid,
      hexit, and_self]
  have hresult : Json.Readable env.Prints (.obj (resultPayload o)) := by
    refine ⟨nodup_names (keys_resultPayload o) (by decide), ?_⟩
    simp only [resultPayload, ReadableEntries, Json.Readable, all_isChar_lit, and_self]
  have hartifacts : Json.Readable env.Prints
      (.arr (o.artifacts.map fun a => .obj (artifactPayload a))) := by
    rw [Json.Readable, readableItems_iff]
    intro item hitem
    obtain ⟨a, ha, rfl⟩ := mem_map.mp hitem
    exact readable_artifactPayload ho hprinted ha
  have hgenerationValue : Json.Readable env.Prints (.num (.int p.claimGeneration)) := hgeneration
  have htext (text : String) : Json.Readable env.Prints (.str (.lit text)) :=
    all_isChar_lit text
  have hbool : Json.Readable env.Prints (.bool false) := trivial
  simp only [collectionPayload, bodyPayload, cons_append, nil_append,
    ReadableEntries, all_isChar_lit, htext, hgenerationValue, hsha, hprocess, hresult,
    hartifacts, hbool, and_self]

theorem depth_collectionPayload : (Json.obj (collectionPayload env p o)).depth ≤ 3 := by
  simp only [collectionPayload, bodyPayload, cons_append, nil_append, depth,
    depthEntries, shaSetPayload, processPayload, resultPayload, Outputs.artifacts,
    map_cons, map_nil, depthItems, artifactPayload]
  decide

/-! ### Its length -/

theorem dumps_str (s : PyStr) :
    dumps ⟨true, false⟩ numberText (.str s) = dumpsStr true s := by
  rw [dumps]

theorem dumps_int (n : Int) :
    dumps ⟨true, false⟩ numberText (.num (.int n)) = intText n := by
  rw [dumps]
  rfl

theorem length_colon : (⟨true, false⟩ : Style).colon.length = 1 := rfl

theorem length_comma : (⟨true, false⟩ : Style).comma.length = 1 := rfl

theorem length_dumps_obj (payload : Payload) :
    (dumps ⟨true, false⟩ numberText (.obj payload)).length =
      (payload.map (entryLength ⟨true, false⟩ numberText)).sum + (payload.length - 1) + 2 := by
  rw [dumps, length_cons, length_append, length_dumpsEntries, length_comma]
  simp only [length_singleton]
  omega

theorem length_dumpsStr_lit (text : String) :
    (dumpsStr true (.lit text)).length ≤ 12 * text.length + 2 := by
  have hle := length_dumpsStr_le true (.lit text)
  unfold PyStr.lit at hle ⊢
  rwa [length_ofChars, String.length_toList] at hle

theorem length_name (name : String) (h : name.length ≤ 21) :
    (dumpsStr true (.lit name)).length ≤ 254 := by
  have hle := length_dumpsStr_lit name
  omega

theorem length_validText (h : validText 1024 text = true) :
    (dumpsStr true (.lit text)).length ≤ 12290 := by
  have hle := length_dumpsStr_lit text
  unfold validText at h
  simp only [Bool.and_eq_true, decide_eq_true_eq] at h
  omega

theorem length_isHex {n : Nat} (h : isHex n text = true) :
    (dumpsStr true (.lit text)).length ≤ 12 * n + 2 := by
  have hle := length_dumpsStr_lit text
  rwa [(isHex_chars h).1] at hle

/-- The runtime limits the digits of an integer, to the default of 4300 or less. -/
def EvidenceEnv.Limited (env : EvidenceEnv) : Prop := ∃ limit ≤ 4300, env.maxDigits = some limit

theorem length_converts (hlimit : env.Limited) {n : Int} (h : env.Converts n) :
    (intText n).length ≤ 4301 := by
  obtain ⟨limit, hmax, hlimit⟩ := hlimit
  unfold EvidenceEnv.Converts at h
  rw [hlimit, Option.any_some, decide_eq_false_iff_not] at h
  have hle := length_intText_le n
  omega

theorem length_artifactPayload (ho : o.Described) (hprinted : Printed env p o)
    (hlimit : env.Limited) (ha : a ∈ o.artifacts) :
    (dumps ⟨true, false⟩ numberText (.obj (artifactPayload a))).length ≤ 6140 := by
  have href : (dumpsStr true a.ref).length ≤ 254 := by
    have hmem : a.ref ∈ o.artifacts.map DexArtifactDigest.ref := mem_map_of_mem ha
    rw [ho.refs] at hmem
    simp only [mem_cons, not_mem_nil, or_false] at hmem
    rcases hmem with h | h | h <;> rw [h] <;> exact length_name _ (by decide)
  have hsha := length_isHex (ho.digests a ha)
  have hsize := length_converts hlimit (hprinted.sizes a ha)
  have h₁ := length_name "ref" (by decide)
  have h₂ := length_name "sha256" (by decide)
  have h₃ := length_name "size_bytes" (by decide)
  rw [length_dumps_obj]
  simp only [artifactPayload, map_cons, map_nil, sum_cons, sum_nil,
    entryLength, dumps_str, dumps_int, length_colon, length_cons, length_nil]
  omega

theorem length_artifacts (ho : o.Described) (hprinted : Printed env p o) (hlimit : env.Limited) :
    (dumps ⟨true, false⟩ numberText
      (.arr (o.artifacts.map fun a => .obj (artifactPayload a)))).length ≤ 18430 := by
  have h₁ := length_artifactPayload ho hprinted hlimit (a := o.result) (by simp [Outputs.artifacts])
  have h₂ := length_artifactPayload ho hprinted hlimit (a := o.stdout) (by simp [Outputs.artifacts])
  have h₃ := length_artifactPayload ho hprinted hlimit (a := o.stderr) (by simp [Outputs.artifacts])
  rw [dumps, length_cons, length_append, length_dumpsItems, length_comma]
  simp only [Outputs.artifacts, map_cons, map_nil, sum_cons, sum_nil,
    length_cons, length_nil]
  omega

theorem length_shaSetPayload (hp : p.Checked) :
    (dumps ⟨true, false⟩ numberText (.obj (shaSetPayload p))).length ≤ 1500 := by
  have h₁ := length_name "authority" (by decide)
  have h₂ := length_name "execution" (by decide)
  have hauthority := length_isHex hp.authoritySha
  have hexecution := length_isHex hp.executionSha
  rw [length_dumps_obj]
  simp only [shaSetPayload, map_cons, map_nil, sum_cons, sum_nil,
    entryLength, dumps_str, length_colon, length_cons, length_nil]
  omega

theorem length_resultPayload (ho : o.Described) :
    (dumps ⟨true, false⟩ numberText (.obj (resultPayload o))).length ≤ 1600 := by
  have h₁ := length_name "ref" (by decide)
  have h₂ := length_name "sha256" (by decide)
  have h₃ := length_name "result" (by decide)
  have hdigest := length_isHex (ho.digests o.result (by simp [Outputs.artifacts]))
  rw [length_dumps_obj]
  simp only [resultPayload, map_cons, map_nil, sum_cons, sum_nil,
    entryLength, dumps_str, length_colon, length_cons, length_nil]
  omega

theorem length_processPayload (hp : p.Checked) (hprinted : Printed env p o)
    (hlimit : env.Limited) :
    (dumps ⟨true, false⟩ numberText (.obj (processPayload p o.exitCode))).length ≤ 46800 := by
  have h₁ := length_name "host_id" (by decide)
  have h₂ := length_name "boot_id" (by decide)
  have h₃ := length_name "pid" (by decide)
  have h₄ := length_name "creation_id" (by decide)
  have h₅ := length_name "exit_code" (by decide)
  have hhost := length_validText hp.hostId
  have hboot := length_validText hp.bootId
  have hcreation := length_validText hp.creationId
  have hpid := length_converts hlimit hprinted.pid
  have hexit := length_converts hlimit hprinted.exitCode
  rw [length_dumps_obj]
  simp only [processPayload, map_cons, map_nil, sum_cons, sum_nil,
    entryLength, dumps_str, dumps_int, length_colon, length_cons, length_nil]
  omega

/-- Every collection is within the decoder's bound on bytes. -/
theorem length_collection (hp : p.Checked) (ho : o.Described)
    (hhash : ∀ text, isHex 64 (env.sha256 text) = true) (hprinted : Printed env p o)
    (hlimit : env.Limited) : (canonicalText (collectionPayload env p o)).length ≤ 262144 := by
  have hartifacts := length_artifacts ho hprinted hlimit
  have hsha := length_shaSetPayload hp
  have hresult := length_resultPayload ho
  have hprocess := length_processPayload hp hprinted hlimit
  have hbool : (dumps ⟨true, false⟩ numberText (.bool false)).length ≤ 5 := by decide
  have hnames : ∀ name ∈ producedKeys, (dumpsStr true (.lit name)).length ≤ 254 := by
    intro name hname
    apply length_name
    revert name
    decide
  have hschema := length_name "dex.srm.collection.v1" (by decide)
  have hexecution := length_validText hp.executionId
  have hattempt := length_validText hp.attemptId
  have hbinding := length_isHex hp.bindingDigest
  have hgeneration := length_converts hlimit hprinted.claimGeneration
  have hdigest := length_isHex (hhash (canonicalText (bodyPayload p o)))
  simp only [producedKeys, forall_mem_cons] at hnames
  obtain ⟨n₁, n₂, n₃, n₄, n₅, n₆, n₇, n₈, n₉, n₁₀, n₁₁, -⟩ := hnames
  have hsplit : collectionPayload env p o = bodyPayload p o ++
    [(.lit "evidence_sha256", .str (.lit (env.sha256 (canonicalText (bodyPayload p o)))))] := rfl
  rw [canonicalText_eq, ← sortKeys_obj, length_dumps_sortKeys, length_dumps_obj, hsplit,
    map_append, sum_append, length_append]
  generalize env.sha256 (canonicalText (bodyPayload p o)) = digest at hdigest ⊢
  simp only [bodyPayload, map_cons, map_nil, sum_cons, sum_nil,
    entryLength, length_colon, length_cons, length_nil, dumps_str, dumps_int]
  omega

/-! ### The round trip -/

/-- The scanner has stack enough for values that nest three deep. -/
def EvidenceEnv.Shallow (env : EvidenceEnv) : Prop :=
  ∀ payload : Payload, (Json.obj payload).depth ≤ 3 → env.tooDeep (canonicalText payload) = false

theorem ascii_canonicalText {payload : Payload} (h : Json.Readable env.Prints (.obj payload)) :
    ∀ c ∈ canonicalText payload, c.code < 0x80 := by
  rw [canonicalText_eq]
  have hsorted := h.sortKeys
  rw [sortKeys_obj] at hsorted
  refine ascii_dumps rfl ?_ _ hsorted
  rintro n ⟨i, rfl, -⟩
  exact ascii_intText i

/-- A collection whose integers are printed has its bytes. -/
theorem canonicalBytes_produced (ho : o.Described) (hprinted : Printed env p o) :
    ∃ raw, canonicalBytes env (collectionPayload env p o) = .ok raw := by
  have hascii := ascii_canonicalText (readable_collectionPayload ho hprinted)
  have hchars : (canonicalText (collectionPayload env p o)).all CodePoint.isChar = true := by
    rw [all_eq_true]
    intro c hc
    have hcode := hascii c hc
    cases c with
    | char d => rfl
    | surrogate n =>
      simp only [CodePoint.code] at hcode
      omega
  obtain ⟨cs, hcs⟩ := ofChars_of_all hchars
  refine ⟨encodeChars cs, ?_⟩
  have hencode : encode (canonicalText (collectionPayload env p o)) =
      some (encodeChars cs) := by
    rw [hcs]
    unfold encode
    rw [toChars?_ofChars]
    rfl
  unfold canonicalBytes
  rw [if_pos (allNums_collection.mpr hprinted), hencode]

/-- The bytes of a collection are accepted, and every field is as it was given. -/
theorem decodeEvidence_produced (hp : p.Checked) (ho : o.Described)
    (hhash : ∀ text, isHex 64 (env.sha256 text) = true) (hlimit : env.Limited)
    (hshallow : env.Shallow) {raw : List UInt8}
    (h : canonicalBytes env (collectionPayload env p o) = .ok raw) :
    decodeEvidence env raw = .ok (producedEvidence env p o, true) := by
  unfold canonicalBytes at h
  split at h
  · rename_i hnums
    have hprinted := allNums_collection.mp hnums
    have hreadable := readable_collectionPayload ho hprinted
    have hloads := loads_canonicalText hreadable
    have hlength := length_collection hp ho hhash hprinted hlimit
    cases hencode : encode (canonicalText (collectionPayload env p o)) with
    | none =>
      rw [hencode] at h
      cases h
    | some bytes =>
      rw [hencode] at h
      cases h
      have hascii := ascii_canonicalText hreadable
      have hraw : raw.length = (canonicalText (collectionPayload env p o)).length :=
        length_encode_ascii hencode hascii
      have hpositive : 2 ≤ (canonicalText (collectionPayload env p o)).length := by
        rw [canonicalText_eq, length_dumps_obj]
        omega
      have hdecode : decode raw = some (canonicalText (collectionPayload env p o)) :=
        decode_encode hencode
      have hpayload : evidencePayload env raw =
          .ok (sortedEntries (collectionPayload env p o)) := by
        unfold evidencePayload
        rw [rejectIf_neg (by
          rintro (hempty | hlong)
          · rw [hempty, length_nil] at hraw
            omega
          · omega), ok_bind, hdecode]
        dsimp only
        rw [hshallow _ depth_collectionPayload, if_neg Bool.false_ne_true, hloads]
      unfold decodeEvidence
      rw [hpayload, ok_bind, evidenceFields_produced hp ho hhash, ok_bind]
      dsimp only
      rw [evidenceDetails_produced env hp ho]
      rfl
  · cases h

end Collection

/-! ### Any number of collections -/

section Calls

variable {env : ProducerEnv} {p : FakeSrmCollectionProducer}

/-- The bytes are those of a collection of described outputs. -/
def Collects (env : ProducerEnv) (p : FakeSrmCollectionProducer) (o : Outputs) (raw : List UInt8) :
    Prop :=
  o.Described ∧ canonicalBytes env.toEvidenceEnv
    (collectionPayload env.toEvidenceEnv p.toProducerFields o) = .ok raw

/-- The producer remembers nothing, or a collection of its own. -/
def ProducerMemory.Sound (env : ProducerEnv) (p : FakeSrmCollectionProducer)
    (memory : ProducerMemory) : Prop :=
  ∀ o raw, memory = some (o, raw) → Collects env p o raw

theorem artifactOf_ok {ref : String} {data : List UInt8} (h : artifactOf env ref data = .ok a) :
    a = { ref := .lit ref, sha256 := env.dataSha256 data, sizeBytes := data.length } := by
  unfold artifactOf at h
  obtain ⟨_, -, h⟩ := bind_eq_ok.mp h
  cases h
  rfl

/-- One collection: the memory stays sound, and what is returned is a collection. -/
theorem collect_sound (hdata : ∀ data, isHex 64 (env.dataSha256 data) = true)
    {memory : ProducerMemory} (hmemory : memory.Sound env p) (args : CollectArgs) :
    (collect env p memory args).2.Sound env p ∧
      ∀ raw, (collect env p memory args).1 = .ok raw → ∃ o, Collects env p o raw := by
  unfold collect
  dsimp only
  split
  · exact ⟨hmemory, fun raw h => by cases h⟩
  · rename_i o houtputs
    simp only [bind_eq_ok] at houtputs
    obtain ⟨result, hresult, stdout, hstdout, stderr, hstderr, hmade⟩ := houtputs
    have ho : o.Described := by
      cases hmade
      obtain rfl := artifactOf_ok hresult
      obtain rfl := artifactOf_ok hstdout
      obtain rfl := artifactOf_ok hstderr
      refine ⟨rfl, ?_, ?_⟩
      · intro a ha
        simp only [Outputs.artifacts, mem_cons, not_mem_nil, or_false] at ha
        rcases ha with rfl | rfl | rfl <;> exact hdata _
      · intro a ha
        simp only [Outputs.artifacts, mem_cons, not_mem_nil, or_false] at ha
        rcases ha with rfl | rfl | rfl <;> exact Int.natCast_nonneg _
    cases memory with
    | some first =>
      obtain ⟨signature, raw⟩ := first
      dsimp only
      split
      · exact ⟨hmemory, fun raw h => by cases h⟩
      · refine ⟨hmemory, fun raw' h => ?_⟩
        cases h
        exact ⟨signature, hmemory signature raw rfl⟩
    | none =>
      dsimp only
      split
      · rename_i raw _ hraw
        refine ⟨?_, ?_⟩
        · intro o' raw' hsome
          cases hsome
          exact ⟨ho, hraw⟩
        · intro raw' hok
          cases hok
          exact ⟨o, ho, hraw⟩
      · exact ⟨nofun, nofun⟩
      · exact ⟨nofun, nofun⟩

/-- The bytes that a producer returns, after any calls. -/
def Emitted (env : ProducerEnv) (p : FakeSrmCollectionProducer) (raw : List UInt8) : Prop :=
  ∃ calls args, (collect env p (Machine.run (collect env p) none calls).2 args).1 = .ok raw

/-- Whatever a producer returns is accepted, with the fields it was made of. -/
theorem emitted_decodes (hhash : ∀ text, isHex 64 (env.sha256 text) = true)
    (hdata : ∀ data, isHex 64 (env.dataSha256 data) = true) (hlimit : env.Limited)
    (hshallow : env.Shallow) {raw : List UInt8} (h : Emitted env p raw) :
    ∃ o, o.Described ∧ decodeEvidence env.toEvidenceEnv raw =
      .ok (producedEvidence env.toEvidenceEnv p.toProducerFields o, true) := by
  obtain ⟨calls, args, hraw⟩ := h
  have hsound : ProducerMemory.Sound env p (Machine.run (collect env p) none calls).2 :=
    Machine.Reachable.induction (P := ProducerMemory.Sound env p) ⟨calls, rfl⟩ nofun
      fun memory args hmemory => (collect_sound hdata hmemory args).1
  obtain ⟨o, ho, hbytes⟩ := (collect_sound hdata hsound args).2 raw hraw
  exact ⟨o, ho, decodeEvidence_produced (ProducerFields.checked_of_valid p.checked) ho hhash hlimit
    hshallow hbytes⟩

end Calls

end AConductor.Dex

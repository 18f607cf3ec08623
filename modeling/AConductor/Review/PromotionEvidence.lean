import AConductor.Lib.JsonSurrogate
import AConductor.Lib.JsonLength
import AConductor.Lib.PyText

/-!
# Reviews: the evidence of a promotion

`ReviewPromotionResourceIdentity` and its codec
(`src/a_conductor/zero_relay_review_verification.py:84-222`): what the promotion of a review run
keeps of the attempt, as one bounded line of text.
-/

namespace AConductor.Review

open List Json

abbrev EvidenceValue := Json (Number PyStr)

/-- `ZeroRelayReviewVerificationError` by its code. -/
inductive VerificationFault where
  | identityInvalid
  | evidenceMalformed
  deriving DecidableEq, Repr

/-- The fields of `ReviewPromotionResourceIdentity`. -/
structure PromotionFields where
  executionId : PyStr
  reviewContractRef : PyStr
  reviewTaskSha256 : PyStr
  workerId : PyStr
  projectId : PyStr
  repoRoot : PyStr
  branch : PyStr
  head : PyStr
  providerId : PyStr
  modelId : PyStr
  dispatchExecutionId : PyStr
  batchId : PyStr
  providerGeneration : Int
  leaseId : PyStr
  leaseSessionId : PyStr
  leaseTaskId : PyStr
  admissionId : PyStr
  deriving DecidableEq, Repr

/-- `_require_identity_text` (`zero_relay_review_verification.py:88-96`). -/
def requireIdentityText (value : PyStr) (limit : Nat) : Bool :=
  !value.isBlank && decide (value.length ≤ limit) && !value.contains (.char '\x00')

/-- A text of `least` to `most` characters of `[0-9a-f]`. -/
def isLowerHex (least most : Nat) (value : PyStr) : Bool :=
  decide (least ≤ value.length ∧ value.length ≤ most) &&
    value.all fun c => match c with
      | .char d => d.isDigit || ('a' ≤ d && d ≤ 'f')
      | .surrogate _ => false

def maxIdentityGeneration : Int := 10 ^ 9

/-- `__post_init__` (`zero_relay_review_verification.py:121-155`). -/
def PromotionFields.valid (i : PromotionFields) : Bool :=
  requireIdentityText i.executionId 128 && requireIdentityText i.reviewContractRef 512 &&
  isLowerHex 64 64 i.reviewTaskSha256 && requireIdentityText i.workerId 128 &&
  requireIdentityText i.projectId 128 && requireIdentityText i.repoRoot 1024 &&
  requireIdentityText i.branch 256 && isLowerHex 7 64 i.head && requireIdentityText i.providerId 128 &&
  requireIdentityText i.modelId 256 && requireIdentityText i.dispatchExecutionId 128 &&
  requireIdentityText i.batchId 512 &&
  decide (1 ≤ i.providerGeneration ∧ i.providerGeneration ≤ maxIdentityGeneration) &&
  requireIdentityText i.leaseId 128 && requireIdentityText i.leaseSessionId 128 &&
  requireIdentityText i.leaseTaskId 256 && requireIdentityText i.admissionId 128

/-- `ReviewPromotionResourceIdentity`: fields that passed its constructor. -/
structure ReviewPromotionResourceIdentity extends PromotionFields where
  valid : toPromotionFields.valid = true
  deriving DecidableEq, Repr

/-- The constructor call. -/
def ReviewPromotionResourceIdentity.make (i : PromotionFields) :
    Except VerificationFault ReviewPromotionResourceIdentity :=
  if h : i.valid = true then .ok ⟨i, h⟩ else .error .identityInvalid

/-- `dataclasses.asdict`. -/
def PromotionFields.asDict (i : PromotionFields) : List (String × EvidenceValue) :=
  [("execution_id", .str i.executionId), ("review_contract_ref", .str i.reviewContractRef),
    ("review_task_sha256", .str i.reviewTaskSha256), ("worker_id", .str i.workerId),
    ("project_id", .str i.projectId), ("repo_root", .str i.repoRoot), ("branch", .str i.branch),
    ("head", .str i.head), ("provider_id", .str i.providerId), ("model_id", .str i.modelId),
    ("dispatch_execution_id", .str i.dispatchExecutionId), ("batch_id", .str i.batchId),
    ("provider_generation", Json.int i.providerGeneration), ("lease_id", .str i.leaseId),
    ("lease_session_id", .str i.leaseSessionId), ("lease_task_id", .str i.leaseTaskId),
    ("admission_id", .str i.admissionId)]

/-- The texts of an identity. -/
def PromotionFields.texts (i : PromotionFields) : List PyStr :=
  [i.executionId, i.reviewContractRef, i.reviewTaskSha256, i.workerId, i.projectId, i.repoRoot,
    i.branch, i.head, i.providerId, i.modelId, i.dispatchExecutionId, i.batchId, i.leaseId,
    i.leaseSessionId, i.leaseTaskId, i.admissionId]

def promotionEvidencePrefix : PyStr := .lit "zra2-review-verification-v2:"

def maxPromotionEvidenceChars : Nat := 2048

/-- The text of `build_promotion_evidence_ref` before its length is checked. -/
def promotionEvidence (i : PromotionFields) : PyStr :=
  promotionEvidencePrefix ++
    dumps ⟨true, false⟩ plainNumber (Json.obj (Json.named i.asDict)).sortKeys

/-- `build_promotion_evidence_ref` (`zero_relay_review_verification.py:167-182`). -/
def buildPromotionEvidenceRef (i : ReviewPromotionResourceIdentity) :
    Except VerificationFault PyStr :=
  if maxPromotionEvidenceChars < (promotionEvidence i.toPromotionFields).length then
    .error .evidenceMalformed
  else .ok (promotionEvidence i.toPromotionFields)

/-- `_reject_duplicate_json_keys`. A limit on the digits of integers or on the nesting would change
    no answer: what is accepted holds texts and one integer of at most ten digits. -/
def evidenceHooks : Hooks Unit (Number PyStr) :=
  { plainHooks none id () with
    objectPairs := fun pairs =>
      if (pairs.map Prod.fst).Nodup then .ok (.obj pairs) else .error () }

/-- A field that has to be a text. -/
def textField (d : List (PyStr × EvidenceValue)) (name : String) : Option PyStr :=
  match Json.find? (.lit name) d with
  | some (.str s) => some s
  | _ => none

/-- A field that has to be an integer. -/
def intField (d : List (PyStr × EvidenceValue)) (name : String) : Option Int :=
  match Json.find? (.lit name) d with
  | some (.num (.int n)) => some n
  | _ => none

/-- `ReviewPromotionResourceIdentity(**payload)`, as far as the types of the fields go. -/
def PromotionFields.ofPayload (d : List (PyStr × EvidenceValue)) : Option PromotionFields := do
  let executionId ← textField d "execution_id"
  let reviewContractRef ← textField d "review_contract_ref"
  let reviewTaskSha256 ← textField d "review_task_sha256"
  let workerId ← textField d "worker_id"
  let projectId ← textField d "project_id"
  let repoRoot ← textField d "repo_root"
  let branch ← textField d "branch"
  let head ← textField d "head"
  let providerId ← textField d "provider_id"
  let modelId ← textField d "model_id"
  let dispatchExecutionId ← textField d "dispatch_execution_id"
  let batchId ← textField d "batch_id"
  let providerGeneration ← intField d "provider_generation"
  let leaseId ← textField d "lease_id"
  let leaseSessionId ← textField d "lease_session_id"
  let leaseTaskId ← textField d "lease_task_id"
  let admissionId ← textField d "admission_id"
  return { executionId, reviewContractRef, reviewTaskSha256, workerId, projectId, repoRoot, branch
           head, providerId, modelId, dispatchExecutionId, batchId, providerGeneration, leaseId
           leaseSessionId, leaseTaskId, admissionId }

/-- The names of the fields. -/
def promotionFieldNames : List String :=
  ["execution_id", "review_contract_ref", "review_task_sha256", "worker_id", "project_id",
    "repo_root", "branch", "head", "provider_id", "model_id", "dispatch_execution_id", "batch_id",
    "provider_generation", "lease_id", "lease_session_id", "lease_task_id", "admission_id"]

/-- What `parse_promotion_evidence_ref` makes of the decoded payload. -/
def ofEvidence (payload : EvidenceValue) : Except VerificationFault ReviewPromotionResourceIdentity :=
  match payload with
  | .obj d =>
    if d.all (fun e => e.1 ∈ promotionFieldNames.map PyStr.lit) &&
        promotionFieldNames.all (fun name => (Json.find? (.lit name) d).isSome) then
      match PromotionFields.ofPayload d with
      | some i => (ReviewPromotionResourceIdentity.make i).mapError fun _ => .evidenceMalformed
      | none => .error .evidenceMalformed
    else .error .evidenceMalformed
  | _ => .error .evidenceMalformed

/-- `parse_promotion_evidence_ref` (`zero_relay_review_verification.py:185-222`). -/
def parsePromotionEvidenceRef (text : PyStr) :
    Except VerificationFault ReviewPromotionResourceIdentity :=
  if !promotionEvidencePrefix.isPrefixOf text then .error .evidenceMalformed
  else if maxPromotionEvidenceChars < text.length then .error .evidenceMalformed
  else
    match loads evidenceHooks (text.drop promotionEvidencePrefix.length) with
    | .error _ => .error .evidenceMalformed
    | .ok payload => ofEvidence payload

section ReadBack

variable {i : PromotionFields}

theorem names_asDict (i : PromotionFields) : i.asDict.map Prod.fst = promotionFieldNames := rfl

theorem nodup_fieldNames : promotionFieldNames.Nodup := by decide

theorem nodup_named_asDict (i : PromotionFields) : ((Json.named i.asDict).map Prod.fst).Nodup := by
  have hkeys : (Json.named i.asDict).map Prod.fst = promotionFieldNames.map PyStr.lit := by
    rw [← names_asDict i, Json.named, map_map, map_map]
    rfl
  rw [hkeys]
  exact nodup_fieldNames.map PyStr.lit_injective

/-- The payload of an identity: its dictionary with sorted keys. -/
def payloadOf (i : PromotionFields) : List (PyStr × EvidenceValue) :=
  sortedEntries (Json.named i.asDict)

theorem find?_payloadOf {name : String} {value : EvidenceValue} (h : (name, value) ∈ i.asDict) :
    Json.find? (.lit name) (payloadOf i) = some value.sortKeys := by
  have hentry : Json.find? (.lit name) (Json.named i.asDict) = some value := by
    rw [find?_eq_some (nodup_named_asDict i)]
    exact mem_map_of_mem (f := fun e : String × EvidenceValue => (PyStr.lit e.1, e.2)) h
  unfold payloadOf
  rw [find?_sortedEntries (nodup_named_asDict i), hentry]
  rfl

theorem textField_payloadOf {name : String} {s : PyStr} (h : (name, .str s) ∈ i.asDict) :
    textField (payloadOf i) name = some s := by
  unfold textField
  rw [find?_payloadOf h, sortKeys]

theorem intField_payloadOf :
    intField (payloadOf i) "provider_generation" = some i.providerGeneration := by
  unfold intField
  have hentry : ("provider_generation", Json.int i.providerGeneration) ∈ i.asDict := by
    simp [PromotionFields.asDict]
  rw [find?_payloadOf hentry,
    Json.int, sortKeys]

/-- The fields are those of the payload. -/
theorem ofPayload_payloadOf (i : PromotionFields) :
    PromotionFields.ofPayload (payloadOf i) = some i := by
  have htext (name : String) (s : PyStr) (h : (name, .str s) ∈ i.asDict) :
      textField (payloadOf i) name = some s := textField_payloadOf h
  unfold PromotionFields.ofPayload
  simp only [PromotionFields.asDict] at htext
  rw [htext "execution_id" i.executionId (by simp),
    htext "review_contract_ref" i.reviewContractRef (by simp),
    htext "review_task_sha256" i.reviewTaskSha256 (by simp),
    htext "worker_id" i.workerId (by simp),
    htext "project_id" i.projectId (by simp),
    htext "repo_root" i.repoRoot (by simp),
    htext "branch" i.branch (by simp),
    htext "head" i.head (by simp),
    htext "provider_id" i.providerId (by simp),
    htext "model_id" i.modelId (by simp),
    htext "dispatch_execution_id" i.dispatchExecutionId (by simp),
    htext "batch_id" i.batchId (by simp), intField_payloadOf,
    htext "lease_id" i.leaseId (by simp),
    htext "lease_session_id" i.leaseSessionId (by simp),
    htext "lease_task_id" i.leaseTaskId (by simp),
    htext "admission_id" i.admissionId (by simp)]
  rfl

/-- The payload of an identity has just the names of its fields. -/
theorem ofEvidence_payloadOf (i : PromotionFields) :
    ofEvidence (.obj (payloadOf i)) =
      (ReviewPromotionResourceIdentity.make i).mapError fun _ => .evidenceMalformed := by
  have hall : (payloadOf i).all (fun e => e.1 ∈ promotionFieldNames.map PyStr.lit) = true := by
    rw [all_eq_true]
    intro e he
    have hkey := (keys_sortedEntries _).mem_iff.mp (mem_map_of_mem (f := Prod.fst) he)
    rw [Json.named, map_map] at hkey
    obtain ⟨entry, hentry, heq⟩ := mem_map.mp hkey
    rw [decide_eq_true_eq, ← heq, ← names_asDict i]
    exact mem_map_of_mem (mem_map_of_mem hentry)
  have hsome : promotionFieldNames.all (fun name => (Json.find? (.lit name) (payloadOf i)).isSome) =
      true := by
    rw [all_eq_true]
    intro name hname
    rw [← names_asDict i] at hname
    obtain ⟨e, he, rfl⟩ := mem_map.mp hname
    rw [find?_payloadOf he]
    rfl
  unfold ofEvidence
  dsimp only
  rw [ofPayload_payloadOf, if_pos (by rw [hall, hsome, Bool.and_self])]

theorem readsBack_asDict {strOk : PyStr → Prop} {numOk : Number PyStr → Prop}
    (hlit : ∀ name, strOk (.lit name)) (hnum : numOk (.int i.providerGeneration))
    (h : ∀ s ∈ i.texts, strOk s) :
    ReadsBack strOk numOk (Json.obj (Json.named i.asDict)).sortKeys := by
  have hstr {s : PyStr} (hs : s ∈ i.texts) :
      ReadsBack strOk numOk (Json.str s : EvidenceValue) := by
    unfold ReadsBack
    exact h s hs
  have hint : ReadsBack strOk numOk (Json.int i.providerGeneration) := by
    unfold Json.int ReadsBack
    exact hnum
  have hnames : (i.asDict.map Prod.fst).Nodup := nodup_fieldNames
  refine (readsBack_named hlit hnames fun e he => ?_).sortKeys
  simp only [PromotionFields.texts] at hstr
  simp only [PromotionFields.asDict, mem_cons, not_mem_nil, or_false] at he
  rcases he with rfl | rfl | rfl | rfl | rfl | rfl | rfl | rfl | rfl | rfl | rfl | rfl | rfl | rfl |
    rfl | rfl | rfl
  all_goals first
    | exact hint
    | exact hstr (by simp)

/-- What is printed of an identity without split pairs is read back as its payload. -/
theorem loads_evidence (h : ∀ s ∈ i.texts, Json.Unpaired s) :
    loads evidenceHooks (dumps ⟨true, false⟩ plainNumber
      (Json.obj (Json.named i.asDict)).sortKeys) = .ok (.obj (payloadOf i)) := by
  have hnumber : ReadsNumber evidenceHooks plainNumber (.int i.providerGeneration) := by
    refine readsNumber_int (n := i.providerGeneration) rfl ?_
    show Except.ok (Json.num (Number.int (intOf (intText _)))) = _
    rw [intOf_intText]
  have hobjects : KeepsObjects evidenceHooks := by
    intro entries hnodup
    exact if_pos hnodup
  have hbom : (dumps ⟨true, false⟩ plainNumber
      (Json.obj (Json.named i.asDict)).sortKeys).head? ≠ some (.char '\ufeff') := by
    rw [sortKeys_obj, dumps]
    simp
  have hload := loads_dumps_of ⟨true, false⟩ plainNumber hobjects
    readsStrings_unpaired (readsBack_asDict unpaired_lit hnumber h) hbom
  rw [hload, sortKeys_obj]
  rfl

/-- An identity with its pairs of surrogates read as characters. -/
def PromotionFields.joinPairs (i : PromotionFields) : PromotionFields where
  executionId := Json.joinPairs i.executionId
  reviewContractRef := Json.joinPairs i.reviewContractRef
  reviewTaskSha256 := Json.joinPairs i.reviewTaskSha256
  workerId := Json.joinPairs i.workerId
  projectId := Json.joinPairs i.projectId
  repoRoot := Json.joinPairs i.repoRoot
  branch := Json.joinPairs i.branch
  head := Json.joinPairs i.head
  providerId := Json.joinPairs i.providerId
  modelId := Json.joinPairs i.modelId
  dispatchExecutionId := Json.joinPairs i.dispatchExecutionId
  batchId := Json.joinPairs i.batchId
  providerGeneration := i.providerGeneration
  leaseId := Json.joinPairs i.leaseId
  leaseSessionId := Json.joinPairs i.leaseSessionId
  leaseTaskId := Json.joinPairs i.leaseTaskId
  admissionId := Json.joinPairs i.admissionId

theorem joinPairs_eq_iff : i.joinPairs = i ↔ ∀ s ∈ i.texts, Json.Unpaired s := by
  simp only [PromotionFields.texts, forall_mem_cons, ← Json.joinPairs_eq_iff]
  cases i
  simp [PromotionFields.joinPairs]

theorem unpaired_joinPairs (i : PromotionFields) : ∀ s ∈ i.joinPairs.texts, Json.Unpaired s := by
  intro s hs
  simp only [PromotionFields.texts, PromotionFields.joinPairs, mem_cons, not_mem_nil,
    or_false] at hs
  have hjoin (t : PyStr) (h : s = Json.joinPairs t) : Json.Unpaired s :=
    h ▸ Json.unpaired_joinPairs t
  rcases hs with h | h | h | h | h | h | h | h | h | h | h | h | h | h | h | h
  all_goals exact hjoin _ h

theorem promotionEvidence_joinPairs (i : PromotionFields) :
    promotionEvidence i.joinPairs = promotionEvidence i := by
  have hdict : (Json.obj (Json.named i.joinPairs.asDict) : EvidenceValue) =
      Json.mapTexts Json.joinPairs (.obj (Json.named i.asDict)) := by
    simp only [PromotionFields.asDict, PromotionFields.joinPairs, Json.named, Json.int,
      map_cons, map_nil, Json.mapTexts, mapTextsEntries]
  unfold promotionEvidence
  rw [hdict, sortKeys_mapTexts, dumps_mapTexts _ dumpsStr_joinPairs]

/-- What is read back of the text of an identity that is not too long. -/
theorem parse_promotionEvidence (i : PromotionFields)
    (hlength : (promotionEvidence i).length ≤ maxPromotionEvidenceChars) :
    parsePromotionEvidenceRef (promotionEvidence i) =
      (ReviewPromotionResourceIdentity.make i.joinPairs).mapError fun _ => .evidenceMalformed := by
  rw [← promotionEvidence_joinPairs] at hlength ⊢
  have hprefix : promotionEvidencePrefix.isPrefixOf (promotionEvidence i.joinPairs) = true := by
    rw [List.isPrefixOf_iff_prefix]
    exact prefix_append _ _
  unfold parsePromotionEvidenceRef
  rw [ hprefix, Bool.not_true, if_neg Bool.false_ne_true, if_neg (by omega), promotionEvidence,
    drop_left, loads_evidence (unpaired_joinPairs i)]
  exact ofEvidence_payloadOf i.joinPairs

end ReadBack

/-- The evidence of an identity is built exactly when its text has at most as many characters as
    the bound, and it is read back exactly when, besides, no text of it holds a high surrogate
    directly in front of a low one. -/
theorem promotion_evidence_round_trip (i : ReviewPromotionResourceIdentity) :
    ((∃ text, buildPromotionEvidenceRef i = .ok text) ↔
      (promotionEvidence i.toPromotionFields).length ≤ maxPromotionEvidenceChars) ∧
    ((buildPromotionEvidenceRef i >>= parsePromotionEvidenceRef) = .ok i ↔
      (promotionEvidence i.toPromotionFields).length ≤ maxPromotionEvidenceChars ∧
        ∀ s ∈ i.texts, Json.Unpaired s) := by
  unfold buildPromotionEvidenceRef
  by_cases hlength : (promotionEvidence i.toPromotionFields).length ≤ maxPromotionEvidenceChars
  · rw [if_neg (by omega), Except.ok_bind, parse_promotionEvidence _ hlength]
    refine ⟨iff_of_true ⟨_, rfl⟩ hlength, ?_⟩
    rw [← joinPairs_eq_iff]
    unfold ReviewPromotionResourceIdentity.make
    constructor
    · intro h
      refine ⟨hlength, ?_⟩
      split at h
      · exact congrArg ReviewPromotionResourceIdentity.toPromotionFields (Except.ok.inj h)
      · cases h
    · rintro ⟨-, hsame⟩
      have hvalid : i.joinPairs.valid = true := by
        rw [hsame]
        exact i.valid
      rw [dif_pos hvalid]
      obtain ⟨fields, hfields⟩ := i
      show Except.ok _ = _
      congr
  · rw [if_pos (by omega)]
    refine ⟨iff_of_false nofun hlength, iff_of_false nofun fun h => hlength h.1⟩

/-- An identity in a deep directory, with long references of its contract and its batch. -/
def deepFields : PromotionFields where
  executionId := .lit "execution-1"
  reviewContractRef := List.replicate 512 (.char 'c')
  reviewTaskSha256 := List.replicate 64 (.char 'a')
  workerId := .lit "worker-1"
  projectId := .lit "project-1"
  repoRoot := List.replicate 1024 (.char '/')
  branch := .lit "main"
  head := List.replicate 40 (.char 'a')
  providerId := .lit "provider-1"
  modelId := .lit "model-1"
  dispatchExecutionId := .lit "dispatch-1"
  batchId := List.replicate 512 (.char 'b')
  providerGeneration := 1
  leaseId := .lit "lease-1"
  leaseSessionId := .lit "session-1"
  leaseTaskId := .lit "task-1"
  admissionId := .lit "admission-1"

def deepIdentity : ReviewPromotionResourceIdentity := ⟨deepFields, by decide +kernel⟩

/-- The constructor takes it, and its evidence is refused. -/
theorem deep_identity_not_built :
    buildPromotionEvidenceRef deepIdentity = .error .evidenceMalformed := by
  decide +kernel

end AConductor.Review

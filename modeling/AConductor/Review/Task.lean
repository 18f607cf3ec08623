import AConductor.Lib.JsonCompact
import AConductor.Relay.Envelope

/-!
# Review tasks

`src/a_conductor/zero_relay_review_task.py:34-380` (protocol v2) and the result identity of
`src/a_conductor/zero_relay.py:80-105`: what a review of an author's result is identified by,
and the two texts that are published for it, the prompt and the authority. The digest is a
parameter. The checks of Python types are the types of the arguments here.
-/

namespace AConductor.Review

open Except

open Relay (strip)

/-- What the review modules raise: a `ZeroRelayReviewTaskError` with its code, the
    `UnicodeEncodeError` of a text with lone surrogates, and an `OSError` that nobody names. -/
inductive ReviewFault where
  | reviewError (code : String)
  | unicodeEncodeError
  | osError
  deriving DecidableEq, Repr

/-- Plain data, as the canonical texts hold it. -/
abbrev Value := Json (Json.Number PyStr)

/-- A text literal. -/
def text (s : String) : Value := .str (.lit s)

def texts (l : List String) : Value := .arr (l.map text)

def int (n : Int) : Value := .num (.int n)

/-- An object, by its literal keys. -/
def record (entries : List (String × Value)) : Value :=
  .obj (entries.map fun e => (.lit e.1, e.2))

/-- `repr` of a number. -/
def numberText : Json.Number PyStr → PyStr
  | .int n => Json.intText n
  | .float literal => literal

/-- `json.dumps(payload, sort_keys=True, separators=(",", ":"), ensure_ascii=False)`. -/
def canonicalText (payload : Value) : PyStr :=
  Json.dumps Json.compactStyle numberText payload.sortKeys

/-- `text.encode("utf-8")`. -/
def encodeText (s : PyStr) : Except ReviewFault (List UInt8) :=
  match s.encode with
  | some data => .ok data
  | none => .error .unicodeEncodeError

/-- What the modules are given: the digest in hexadecimal. -/
structure ReviewEnv where
  sha256 : List UInt8 → PyStr

/-- A character of `[0-9a-fA-F]`. -/
def hexChar : CodePoint → Bool
  | .char c => c.isDigit || ('a' ≤ c && c ≤ 'f') || ('A' ≤ c && c ≤ 'F')
  | .surrogate _ => false

/-- A text of `least` to `most` hexadecimal digits. -/
def isHex (least most : Nat) (s : PyStr) : Bool :=
  least ≤ s.length && s.length ≤ most && s.all hexChar

/-- `casefold` of a hexadecimal text. -/
def foldHex (s : PyStr) : PyStr :=
  s.map fun
    | .char c => .char c.toLower
    | .surrogate n => .surrogate n

/-- The fields of `ResultIdentity` (`zero_relay.py:80-90`). -/
structure IdentityFields where
  taskContractRef : PyStr
  taskSha256 : PyStr
  resultRef : PyStr
  resultSha256 : PyStr
  attemptId : PyStr
  generation : Int
  authorExecutionId : PyStr
  deriving DecidableEq, Repr

/-- `_identity_text` (`zero_relay.py:32-39`). -/
def identityText (value : PyStr) (field : String) : Except String Unit := do
  rejectIf (value = [] ∨ value ≠ strip value) (field ++ " is invalid")
  rejectIf (256 < value.length) (field ++ " is invalid")
  rejectIf (value.any fun c => c.code < 0x20 || c.code = 0x7f) (field ++ " is invalid")

/-- `_sha256_text` (`zero_relay.py:42-45`). -/
def sha256Text (value : PyStr) (field : String) : Except String Unit :=
  rejectIf (!isHex 64 64 value) (field ++ " is invalid")

/-- `_generation` (`zero_relay.py:48-51`). -/
def checkGeneration (value : Int) : Except String Unit :=
  rejectIf (value ≠ 0 ∧ value ≠ 1) "generation is invalid"

/-- `ResultIdentity.__post_init__` (`zero_relay.py:92-105`): the text of the `ValueError`. -/
def IdentityFields.check (f : IdentityFields) : Except String Unit := do
  identityText f.taskContractRef "task_contract_ref"
  sha256Text f.taskSha256 "task_sha256"
  identityText f.resultRef "result_ref"
  sha256Text f.resultSha256 "result_sha256"
  identityText f.attemptId "attempt_id"
  checkGeneration f.generation
  identityText f.authorExecutionId "author_execution_id"

/-- `ResultIdentity`: fields that passed their checks. -/
structure ResultIdentity extends IdentityFields where
  checked : toIdentityFields.check = .ok ()
  deriving DecidableEq, Repr

/-- `TaskPrivacyClass` (`provider_policy.py:27-31`). -/
inductive TaskPrivacyClass where
  | publicData
  | internal
  | sensitive
  | secret
  deriving DecidableEq, Repr

def TaskPrivacyClass.value : TaskPrivacyClass → String
  | .publicData => "PUBLIC"
  | .internal => "INTERNAL"
  | .sensitive => "SENSITIVE"
  | .secret => "SECRET"

/-- `TaskNetworkPolicy` (`provider_policy.py:34-37`). -/
inductive TaskNetworkPolicy where
  | denied
  | allowlisted
  | inherit
  deriving DecidableEq, Repr

def TaskNetworkPolicy.value : TaskNetworkPolicy → String
  | .denied => "DENIED"
  | .allowlisted => "ALLOWLISTED"
  | .inherit => "INHERIT"

/-- `ProviderPolicyTaskSecurity` (`provider_policy.py:40-65`), with the hosts as its constructor
    leaves them. -/
structure ProviderPolicyTaskSecurity where
  privacyClass : TaskPrivacyClass
  networkPolicy : TaskNetworkPolicy
  networkAllowlist : List PyStr
  secretAccess : Bool
  deriving DecidableEq, Repr

/-- `_reviewed_head` (`zero_relay_review_task.py:38-41`). -/
def reviewedHead (value : PyStr) : Except ReviewFault PyStr :=
  if isHex 7 64 value then .ok (foldHex value) else .error (.reviewError "REVIEW_HEAD_INVALID")

/-- `_v2_text` (`zero_relay_review_task.py:134-139`). -/
def v2Text (value : PyStr) (code : String) (maxChars : Nat) : Except ReviewFault PyStr := do
  rejectIf (value = [] ∨ value ≠ strip value) (.reviewError code)
  rejectIf (maxChars < value.length ∨
    value.any fun c => c.code = 0 || c.code = 0x0d || c.code = 0x0a) (.reviewError code)
  return value

/-- `_V2_SCHEMA` and `_V2_RESULT_SCHEMA` (`zero_relay_review_task.py:26-27`). -/
def v2Schema : String := "zra2-review-v2"

def v2ResultSchema : String := "zra2-review-result-v2"

/-- `_V2_MAX_RESPONSE_BYTES`, `_V2_MAX_FINDINGS` and `_V2_MAX_FINDING_CHARS`
    (`zero_relay_review_task.py:28-30`). -/
def v2MaxResponseBytes : Int := 32 * 1024

def v2MaxFindings : Int := 64

def v2MaxFindingChars : Int := 2048

/-- `_v2_security_payload` (`zero_relay_review_task.py:142-150`). -/
def v2SecurityPayload (security : ProviderPolicyTaskSecurity) : Value :=
  record [("privacy_class", text security.privacyClass.value),
    ("network_policy", text security.networkPolicy.value),
    ("network_allowlist", .arr (security.networkAllowlist.map .str)),
    ("secret_access", .bool security.secretAccess)]

/-- `_v2_response_contract_payload` (`zero_relay_review_task.py:153-160`). -/
def v2ResponseContractPayload : Value :=
  record [("schema", text v2ResultSchema), ("verdicts", texts ["ACCEPTED", "REJECTED"]),
    ("max_response_bytes", int v2MaxResponseBytes), ("max_findings", int v2MaxFindings),
    ("max_finding_chars", int v2MaxFindingChars)]

/-- What a review is asked for. -/
structure ReviewRequest where
  identity : ResultIdentity
  reviewedHead : PyStr
  projectId : PyStr
  security : ProviderPolicyTaskSecurity
  deriving DecidableEq, Repr

/-- The payload that identifies a review (`zero_relay_review_task.py:180-193`). -/
def reviewV2Payload (r : ReviewRequest) (head project : PyStr) : Value :=
  record [("schema", text v2Schema), ("project_id", .str project),
    ("task_contract_ref", .str r.identity.taskContractRef),
    ("task_sha256", .str r.identity.taskSha256), ("result_ref", .str r.identity.resultRef),
    ("result_sha256", .str r.identity.resultSha256), ("attempt_id", .str r.identity.attemptId),
    ("generation", int r.identity.generation),
    ("author_execution_id", .str r.identity.authorExecutionId), ("reviewed_head", .str head),
    ("security", v2SecurityPayload r.security), ("response_contract", v2ResponseContractPayload)]

/-- `canonical_review_v2_bytes` (`zero_relay_review_task.py:163-196`). -/
def canonicalReviewV2Bytes (r : ReviewRequest) : Except ReviewFault (List UInt8) := do
  let head ← reviewedHead r.reviewedHead
  let project ← v2Text r.projectId "REVIEW_PROJECT_INVALID" 128
  encodeText (canonicalText (reviewV2Payload r head project))

/-- `ReviewTaskRefs` (`zero_relay_review_task.py:58-63`). -/
structure ReviewTaskRefs where
  digest : PyStr
  contractRef : PyStr
  taskPath : PyStr
  resultRef : PyStr
  deriving DecidableEq, Repr

/-- The references of a digest. -/
def refsOf (digest : PyStr) : ReviewTaskRefs where
  digest := digest
  contractRef := .lit "runs/zra2-review-v2-" ++ digest ++ .lit ".task.json"
  taskPath := .lit "runs/zra2-review-v2-" ++ digest ++ .lit ".md"
  resultRef := .lit "runs/zra2-review-result-v2-" ++ digest ++ .lit ".json"

section Texts

variable (env : ReviewEnv)

/-- `deterministic_review_v2_refs` (`zero_relay_review_task.py:199-219`). -/
def deterministicReviewV2Refs (r : ReviewRequest) : Except ReviewFault ReviewTaskRefs := do
  let data ← canonicalReviewV2Bytes r
  return refsOf (env.sha256 data)

/-- The text of the prompt (`zero_relay_review_task.py:236-266`). -/
def promptText (identity : ResultIdentity) (head project : PyStr) (refs : ReviewTaskRefs) : PyStr :=
  ([
    .lit "# ZRA-2 Independent Review Task - protocol v2\n",
    .lit "\n",
    .lit ("This is a READ_ONLY independent review. " ++
      "Do not mutate repository or runtime state.\n"),
    .lit "Project: ", project, .lit "\n",
    .lit "Reviewed HEAD: ", head, .lit "\n",
    .lit "Review authority contract: ", refs.contractRef, .lit "\n",
    .lit "Semantic result destination: ", refs.resultRef, .lit "\n",
    .lit "\n",
    .lit "## Exact author result identity\n",
    .lit "- task_contract_ref: ", identity.taskContractRef, .lit "\n",
    .lit "- task_sha256: ", identity.taskSha256, .lit "\n",
    .lit "- result_ref: ", identity.resultRef, .lit "\n",
    .lit "- result_sha256: ", identity.resultSha256, .lit "\n",
    .lit "- attempt_id: ", identity.attemptId, .lit "\n",
    .lit "- generation: ", Json.intText identity.generation, .lit "\n",
    .lit "- author_execution_id: ", identity.authorExecutionId, .lit "\n",
    .lit "\n",
    .lit "## Required whole response\n",
    .lit ("Return JSON only. No Markdown fence, prefix, suffix, explanation, " ++
      "or extra keys.\n"),
    .lit "The response schema is ", .lit v2ResultSchema,
    .lit ". Verdict is exactly ACCEPTED or REJECTED.\n",
    .lit "Read ", refs.contractRef,
    .lit " and echo metadata.review_prompt_sha256 as review_task_sha256.\n",
    .lit "The exact object keys are: schema, review_contract_ref, reviewed_head, ",
    .lit "review_task_sha256, verdict, findings.\n",
    .lit "Whole response must be <= ", Json.intText v2MaxResponseBytes, .lit " bytes.\n",
    .lit "findings is a JSON array of bounded plain strings only; findings never grant ",
    .lit "ready/merge/retry/complete authority.\n",
    .lit "External merge/release authority remains GPT/A-Sunday Conductor.\n"] : List PyStr).flatten

/-- `render_review_v2_task_markdown` (`zero_relay_review_task.py:222-266`). -/
def renderReviewV2TaskMarkdown (r : ReviewRequest) : Except ReviewFault PyStr := do
  let head ← reviewedHead r.reviewedHead
  let project ← v2Text r.projectId "REVIEW_PROJECT_INVALID" 128
  let refs ← deterministicReviewV2Refs env r
  return promptText r.identity head project refs

/-- The payload of the authority (`zero_relay_review_task.py:295-378`). -/
def authorityPayload (r : ReviewRequest) (head project prompt promptSha result : PyStr)
    (refs : ReviewTaskRefs) : Value :=
  record [("schema_version", text "1.0.0"),
    ("task_id", .str (.lit "zra2-review-v2-" ++ refs.digest)),
    ("work_order_ref", .str refs.contractRef),
    ("goal", text ("Independently review the exact bound author result and return " ++
      "one strict JSON verdict.")),
    ("task_type", text "independent-review"),
    ("risk_class", text "HIGH"),
    ("authority", record [("requested_by", text "A-Sunday Conductor"), ("approved_by", .null),
      ("approval_ref", .null), ("mutation_allowed", .bool false),
      ("human_approval_required", .bool false)]),
    ("target", record [("project_id", .str project), ("repository_identity_ref", .null),
      ("expected_worktree_path", .null), ("expected_branch", .null), ("expected_head", .str head),
      ("identity_policy", text "EXACT")]),
    ("scope", record [("allowed_files", texts ["**"]), ("forbidden_files", .arr []),
      ("allowed_commands", texts ["read-only repository inspection", "targeted verification"]),
      ("forbidden_commands", texts ["repository mutation", "destructive operations"]),
      ("max_changed_files", int 0), ("max_diff_bytes", int 0), ("scope_growth", text "FORBIDDEN")]),
    ("acceptance", record [
      ("criteria", texts ["Return one exact zra2-review-result-v2 JSON object."]),
      ("verify_commands", .arr []), ("review_required", .bool false),
      ("required_review_class", .null)]),
    ("security", v2SecurityPayload r.security),
    ("routing", record [("required_capabilities", texts ["repository-read", "code-review"]),
      ("preferred_surface_traits", record [("supports_long_running", .bool true),
        ("supports_resume", .bool true), ("supports_background_execution", .bool true),
        ("supports_repo_tools", .bool true), ("requires_human_presence", .bool false),
        ("max_safe_transaction_scope", text "READ_ONLY")])]),
    ("budget", record [("max_elapsed_seconds", int 3600), ("max_input_tokens", .null),
      ("max_output_tokens", .null), ("max_estimated_cost_usd", .null)]),
    ("retry_policy", record [("max_attempts", int 1), ("max_identical_failures", int 1),
      ("on_lease_expiry", text "RECOVERY_REQUIRED")]),
    ("escalation", record [("conditions", texts ["ARCHITECTURE_DECISION",
      "SECURITY_BOUNDARY_CHANGE", "SCOPE_EXPANSION", "IDENTITY_MISMATCH",
      "UNKNOWN_RECOVERY_STATE"])]),
    ("required_evidence", texts ["REPOSITORY_IDENTITY", "REVIEW_RESULT", "CHECKSUM"]),
    ("metadata", record [("review_protocol", text v2Schema),
      ("review_result_schema", text v2ResultSchema), ("review_identity_digest", .str refs.digest),
      ("task_contract_ref", .str r.identity.taskContractRef),
      ("task_sha256", .str r.identity.taskSha256),
      ("author_result_ref", .str r.identity.resultRef),
      ("author_result_sha256", .str r.identity.resultSha256),
      ("author_attempt_id", .str r.identity.attemptId),
      ("author_generation", int r.identity.generation),
      ("author_execution_id", .str r.identity.authorExecutionId), ("reviewed_head", .str head),
      ("review_prompt_path", .str prompt), ("review_prompt_sha256", .str promptSha),
      ("semantic_result_ref", .str result), ("verdicts", texts ["ACCEPTED", "REJECTED"]),
      ("max_response_bytes", int v2MaxResponseBytes), ("max_findings", int v2MaxFindings),
      ("max_finding_chars", int v2MaxFindingChars)])]

/-- The text of `canonical_review_v2_authority_bytes`, which are its bytes
    (`zero_relay_review_task.py:269-382`). -/
def canonicalReviewV2Authority (r : ReviewRequest) (promptPath promptSha256 resultRef : PyStr) :
    Except ReviewFault PyStr := do
  let head ← reviewedHead r.reviewedHead
  let project ← v2Text r.projectId "REVIEW_PROJECT_INVALID" 128
  let refs ← deterministicReviewV2Refs env r
  let prompt ← v2Text promptPath "REVIEW_V2_PROMPT_PATH_INVALID" 512
  let result ← v2Text resultRef "REVIEW_V2_RESULT_REF_INVALID" 512
  rejectIf (prompt ≠ refs.taskPath ∨ result ≠ refs.resultRef)
    (.reviewError "REVIEW_V2_REF_MISMATCH")
  rejectIf (!isHex 64 64 promptSha256) (.reviewError "REVIEW_V2_PROMPT_SHA_INVALID")
  let authority := canonicalText
    (authorityPayload r head project prompt (foldHex promptSha256) result refs)
  let _ ← encodeText authority
  return authority

end Texts

end AConductor.Review

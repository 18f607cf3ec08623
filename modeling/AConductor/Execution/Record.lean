import AConductor.Lib.Text

/-!
# Executions: records and receipts

`src/a_conductor/execution_record.py`: the durable record of one supervised execution
and the immutable receipt of one attempt. Both exist only with the invariants their
constructors check. The checks of Python types are the types of the arguments here, and
SHA-256 is a parameter wherever it is taken.
-/

namespace AConductor.Execution

/-- What a store call can raise: a `ValueError` with its text, an `ExecutionStoreError`
    with its code, and an integer that does not fit a column. -/
inductive StoreFault where
  | valueError (text : String)
  | storeError (code : String)
  | overflowError
  deriving DecidableEq, Repr

/-- `TransportState` (`execution_record.py:25-29`). -/
inductive TransportState where
  | connected
  | degraded
  | lost
  | unavailable
  deriving DecidableEq, Repr

/-- `ExecutionProcessState` (`execution_record.py:32-43`). -/
inductive ExecutionProcessState where
  | queued
  | starting
  | running
  | processStillRunning
  | processExitedUnknownResult
  | succeeded
  | failed
  | partialResult
  | cancelled
  | recoveryRequired
  | verificationRequired
  deriving DecidableEq, Repr

/-- `_MAX_TEXT_CHARS` and `_MAX_SUMMARY_CHARS` (`execution_record.py:19-20`). -/
def maxTextChars : Nat := 1024

def maxSummaryChars : Nat := 256

/-- `_require_text` (`execution_record.py:46-53`). -/
def requireLine (maxChars : Nat) (value fieldName : String) : Except StoreFault Unit :=
  if Text.isBlank value then .error (.valueError (fieldName ++ " must not be blank"))
  else if Text.hasChar value '\x00' || Text.hasChar value '\r' || Text.hasChar value '\n' then
    .error (.valueError (fieldName ++ " must be a single-line text value"))
  else if maxChars < value.length then
    .error (.valueError (fieldName ++ " exceeds maximum length"))
  else .ok ()

/-- `_require_optional_text` (`execution_record.py:56-64`). -/
def requireOptionalLine (value : Option String) (fieldName : String) : Except StoreFault Unit :=
  match value with
  | none => .ok ()
  | some v => requireLine maxTextChars v fieldName

/-- `_require_positive_int` (`execution_record.py:67-70`). -/
def requirePositiveInt (value : Int) (fieldName : String) : Except StoreFault Unit :=
  if value < 1 then .error (.valueError (fieldName ++ " must be >= 1")) else .ok ()

/-- `_require_optional_pid` (`execution_record.py:73-76`). -/
def requireOptionalPid : Option Int → Except StoreFault Unit
  | none => .ok ()
  | some pid => requirePositiveInt pid "pid"

/-- `_require_optional_author_pair` (`execution_record.py:87-107`). -/
def requireOptionalAuthorPair : Option String → Option Int → Except StoreFault Unit
  | none, none => .ok ()
  | some attemptId, some generation => do
    requireLine maxTextChars attemptId "author_attempt_id"
    if generation ≠ 0 ∧ generation ≠ 1 then
      .error (.valueError "author_generation must be exactly 0 or 1")
  | _, _ => .error (.valueError "author provenance pair must be both present or both None")

/-- `_require_sha256` (`execution_record.py:247-250`). -/
def requireSha256 (value fieldName : String) : Except StoreFault Unit :=
  if Text.isHex 64 value then .ok ()
  else .error (.valueError (fieldName ++ " must be lowercase SHA-256 hex"))

/-- `_require_git_sha` (`execution_record.py:253-256`). -/
def requireGitSha (value fieldName : String) : Except StoreFault Unit :=
  if Text.isHex 40 value then .ok ()
  else .error (.valueError (fieldName ++ " must be a 40-character lowercase Git SHA"))

/-- The fields of `DurableExecutionRecord` (`execution_record.py:110-139`), also the
    columns of `execution_records` that a record is read from. -/
structure ExecutionRow where
  executionId : String
  jobId : String
  workOrderRef : String
  projectId : String
  workerId : String
  backendId : String
  agentRef : Option String
  repoRoot : String
  branch : String
  headBefore : String
  operationRef : String
  commandFingerprint : String
  commandSummary : String
  runtimeProfileRef : Option String
  runDirRef : Option String
  stdoutRef : Option String
  stderrRef : Option String
  resultRef : Option String
  reportRef : Option String
  transportState : TransportState
  executionState : ExecutionProcessState := .queued
  pid : Option Int := none
  exitCode : Option Int := none
  startedAt : Option String := none
  finishedAt : Option String := none
  version : Int := 1
  authorAttemptId : Option String := none
  authorGeneration : Option Int := none
  deriving DecidableEq, Repr

/-- `DurableExecutionRecord.__post_init__` (`execution_record.py:141-177`). -/
def ExecutionRow.check (r : ExecutionRow) : Except StoreFault Unit := do
  requireLine maxTextChars r.executionId "execution_id"
  requireLine maxTextChars r.jobId "job_id"
  requireLine maxTextChars r.workOrderRef "work_order_ref"
  requireLine maxTextChars r.projectId "project_id"
  requireLine maxTextChars r.workerId "worker_id"
  requireLine maxTextChars r.backendId "backend_id"
  requireOptionalLine r.agentRef "agent_ref"
  requireLine maxTextChars r.repoRoot "repo_root"
  requireLine maxTextChars r.branch "branch"
  requireLine maxTextChars r.headBefore "head_before"
  requireLine maxTextChars r.operationRef "operation_ref"
  requireSha256 r.commandFingerprint "command_fingerprint"
  requireLine maxSummaryChars r.commandSummary "command_summary"
  requireOptionalLine r.runtimeProfileRef "runtime_profile_ref"
  requireOptionalLine r.runDirRef "run_dir_ref"
  requireOptionalLine r.stdoutRef "stdout_ref"
  requireOptionalLine r.stderrRef "stderr_ref"
  requireOptionalLine r.resultRef "result_ref"
  requireOptionalLine r.reportRef "report_ref"
  requireOptionalPid r.pid
  requireOptionalLine r.startedAt "started_at"
  requireOptionalLine r.finishedAt "finished_at"
  requirePositiveInt r.version "version"
  requireOptionalAuthorPair r.authorAttemptId r.authorGeneration

/-- `DurableExecutionRecord`: a record that passed its own checks. -/
structure DurableExecutionRecord extends ExecutionRow where
  checked : toExecutionRow.check = .ok ()
  deriving DecidableEq, Repr

/-- The constructor call `DurableExecutionRecord(…)`. -/
def DurableExecutionRecord.make (r : ExecutionRow) : Except StoreFault DurableExecutionRecord :=
  match h : r.check with
  | .ok () => .ok ⟨r, h⟩
  | .error e => .error e

theorem DurableExecutionRecord.make_ok {r : ExecutionRow} {record : DurableExecutionRecord}
    (h : make r = .ok record) : record.toExecutionRow = r := by
  unfold make at h
  split at h
  · cases h
    rfl
  · cases h

/-- `ReceiptDisposition` (`execution_record.py:242-244`). -/
inductive ReceiptDisposition where
  | accepted
  | quarantined
  deriving DecidableEq, Repr

/-- What a receipt is identified by: `compute_receipt_id` hashes exactly this
    (`execution_record.py:259-284`). -/
structure ReceiptIdentity where
  executionId : String
  attemptId : String
  resultDigest : String
  bindingDigest : String
  deriving DecidableEq, Repr

/-- `DurableExecutionReceipt` (`execution_record.py:287-299`) without the time column,
    also a row of `execution_receipts`. -/
structure ReceiptRow extends ReceiptIdentity where
  receiptId : String
  claimGeneration : Int
  authoritySha : String
  executionSha : String
  disposition : ReceiptDisposition
  evidenceRef : Option String
  deriving DecidableEq, Repr

/-- `compute_receipt_id` (`execution_record.py:259-284`). -/
def computeReceiptId (hash : ReceiptIdentity → String) (identity : ReceiptIdentity) :
    Except StoreFault String := do
  requireLine maxTextChars identity.executionId "execution_id"
  requireLine maxTextChars identity.attemptId "attempt_id"
  requireSha256 identity.resultDigest "result_digest"
  requireSha256 identity.bindingDigest "binding_digest"
  pure (hash identity)

/-- `DurableExecutionReceipt.__post_init__` (`execution_record.py:301-321`). -/
def ReceiptRow.check (hash : ReceiptIdentity → String) (r : ReceiptRow) :
    Except StoreFault Unit := do
  requireSha256 r.receiptId "receipt_id"
  requireLine maxTextChars r.executionId "execution_id"
  requireLine maxTextChars r.attemptId "attempt_id"
  requireSha256 r.resultDigest "result_digest"
  requireSha256 r.bindingDigest "binding_digest"
  requirePositiveInt r.claimGeneration "claim_generation"
  requireGitSha r.authoritySha "authority_sha"
  requireGitSha r.executionSha "execution_sha"
  requireOptionalLine r.evidenceRef "evidence_ref"
  let expected ← computeReceiptId hash r.toReceiptIdentity
  if r.receiptId ≠ expected then
    .error (.valueError "receipt_id must match the contract identity")

/-- `new_execution_receipt` (`execution_record.py:324-352`). -/
def newExecutionReceipt (hash : ReceiptIdentity → String) (identity : ReceiptIdentity)
    (claimGeneration : Int) (authoritySha executionSha : String)
    (disposition : ReceiptDisposition) (evidenceRef : Option String) :
    Except StoreFault ReceiptRow := do
  let receiptId ← computeReceiptId hash identity
  let receipt : ReceiptRow := { identity with
    receiptId, claimGeneration, authoritySha, executionSha, disposition, evidenceRef }
  receipt.check hash
  pure receipt

end AConductor.Execution

import AConductor.Execution.Spec

/-!
# Executions: duplicate-execution decisions

`src/a_conductor/execution_deduplication.py`: the canonical fingerprint input and the
decision over what the store already holds for a fingerprint. SHA-256 over the
canonical form and the resolution of a path are parameters.
-/

namespace AConductor.Execution

/-- `DuplicateExecutionDecision` (`execution_deduplication.py:22-26`). -/
inductive DuplicateExecutionDecision where
  | safeToLaunch
  | attachRunning
  | reuseCompleted
  | blockedUnknown
  deriving DecidableEq, Repr

/-- `ExecutionFingerprintSpec` (`execution_deduplication.py:80-92`). -/
structure ExecutionFingerprintSpec where
  projectId : String
  jobId : String
  workOrderRef : String
  backendId : String
  repoRoot : String
  branch : String
  headBefore : String
  operationRef : String
  runtimeProfileRef : Option String
  targetArgv : List String
  deriving DecidableEq, Repr

/-- What is computed outside: the digest of the canonical form, and the absolute,
    resolved, case-folded form of a path, `none` where there is none. -/
structure FingerprintHost where
  digest : ExecutionFingerprintSpec → String
  resolve : String → Option String

/-- `_text` (`execution_deduplication.py:29-39`). -/
def fingerprintText (value fieldName : String) : Except StoreFault String :=
  if Text.isBlank value || Text.hasChar value '\x00' || Text.hasChar value '\r' ||
      Text.hasChar value '\n' || decide (1024 < value.length) then
    .error (.valueError (fieldName ++ " is invalid"))
  else .ok (Text.strip value)

def fingerprintOptionalText (value : Option String) (fieldName : String) :
    Except StoreFault (Option String) :=
  match value with
  | none => .ok none
  | some v => (fingerprintText v fieldName).map some

/-- `_normalize_repo_root` (`execution_deduplication.py:48-56`). -/
def normalizeRepoRoot (host : FingerprintHost) (value : String) : Except StoreFault String := do
  let raw ← fingerprintText value "repo_root"
  match host.resolve raw with
  | none => .error (.valueError "repo_root must be absolute")
  | some path => .ok path

/-- An item of `_normalize_argv` (`execution_deduplication.py:59-77`). -/
def validArgument (value : String) : Bool :=
  value ≠ "" && !Text.hasChar value '\x00' && !Text.hasChar value '\r' &&
    !Text.hasChar value '\n' && value.length ≤ 1024

def normalizeArgv (argv : List String) : Except StoreFault (List String) :=
  if argv = [] then .error (.valueError "target_argv must not be empty")
  else match argv.findIdx? fun value => !validArgument value with
    | some index => .error (.valueError ("target_argv[" ++ toString index ++ "] is invalid"))
    | none => .ok argv

/-- `ExecutionFingerprintSpec.__post_init__` (`execution_deduplication.py:93-107`). -/
def ExecutionFingerprintSpec.make (host : FingerprintHost) (spec : ExecutionFingerprintSpec) :
    Except StoreFault ExecutionFingerprintSpec := do
  let projectId ← fingerprintText spec.projectId "project_id"
  let jobId ← fingerprintText spec.jobId "job_id"
  let workOrderRef ← fingerprintText spec.workOrderRef "work_order_ref"
  let backendId ← fingerprintText spec.backendId "backend_id"
  let repoRoot ← normalizeRepoRoot host spec.repoRoot
  let branch ← fingerprintText spec.branch "branch"
  let headBefore ← fingerprintText spec.headBefore "head_before"
  let operationRef ← fingerprintText spec.operationRef "operation_ref"
  let runtimeProfileRef ← fingerprintOptionalText spec.runtimeProfileRef "runtime_profile_ref"
  let targetArgv ← normalizeArgv spec.targetArgv
  pure { projectId, jobId, workOrderRef, backendId, repoRoot, branch, headBefore, operationRef
         runtimeProfileRef, targetArgv }

theorem fingerprintText_ok {value fieldName text : String}
    (h : fingerprintText value fieldName = .ok text) : text = Text.strip value := by
  unfold fingerprintText at h
  split at h
  · cases h
  · exact (Except.ok.inj h).symm

theorem normalizeArgv_ok {argv taken : List String} (h : normalizeArgv argv = .ok taken) :
    taken = argv := by
  unfold normalizeArgv at h
  split at h
  · cases h
  · split at h
    · cases h
    · exact (Except.ok.inj h).symm

theorem normalizeRepoRoot_ok {host : FingerprintHost} {value path : String}
    (h : normalizeRepoRoot host value = .ok path) : host.resolve (Text.strip value) = some path := by
  unfold normalizeRepoRoot at h
  obtain ⟨raw, hraw, h⟩ := Except.bind_eq_ok.mp h
  rw [fingerprintText_ok hraw] at h
  cases hresolve : host.resolve (Text.strip value) with
  | none =>
    rw [hresolve] at h
    cases h
  | some resolved =>
    rw [hresolve] at h
    rw [Except.ok.inj h]

/-- `_LIVE_STATES` (`execution_deduplication.py:162-169`). -/
def liveState (s : ExecutionProcessState) : Bool :=
  s ∈ [.queued, .starting, .running, .processStillRunning]

/-- `_COMPLETED_EVIDENCE_STATES` (`execution_deduplication.py:170-176`). -/
def completedEvidenceState (s : ExecutionProcessState) : Bool :=
  s ∈ [.verificationRequired, .succeeded, .failed]

/-- `_identity_matches` (`execution_deduplication.py:179-190`); the root of the record is
    resolved only when what stands before it matches. -/
def identityMatches (host : FingerprintHost) (record : DurableExecutionRecord)
    (spec : ExecutionFingerprintSpec) : Except StoreFault Bool :=
  if record.projectId = spec.projectId ∧ record.jobId = spec.jobId ∧
      record.workOrderRef = spec.workOrderRef ∧ record.backendId = spec.backendId then do
    let root ← normalizeRepoRoot host record.repoRoot
    pure (root = spec.repoRoot && record.branch = spec.branch &&
      record.headBefore = spec.headBefore && record.operationRef = spec.operationRef &&
      record.runtimeProfileRef = spec.runtimeProfileRef)
  else pure false

/-- `DuplicateExecutionAssessment` (`execution_deduplication.py:134-140`). -/
structure DuplicateExecutionAssessment where
  decision : DuplicateExecutionDecision
  fingerprint : String
  record : Option DurableExecutionRecord
  reasonCode : String
  retryAuthorized : Bool := false
  deriving DecidableEq, Repr

/-- A found record is the execution that is asked for. -/
def equivalent (host : FingerprintHost) (spec : ExecutionFingerprintSpec)
    (record : DurableExecutionRecord) : Except StoreFault Bool :=
  if record.commandFingerprint ≠ host.digest spec then .ok false
  else identityMatches host record spec

/-- `DuplicateExecutionGuard.assess` behind its lookup
    (`execution_deduplication.py:202-242`). -/
def assess (host : FingerprintHost) (spec : ExecutionFingerprintSpec) :
    List DurableExecutionRecord → Except StoreFault DuplicateExecutionAssessment
  | [] => .ok { decision := .safeToLaunch, fingerprint := host.digest spec, record := none
                reasonCode := "NO_EQUIVALENT_EXECUTION" }
  | record :: _ => do
    let same ← equivalent host spec record
    let found (decision : DuplicateExecutionDecision) (reasonCode : String) :
        DuplicateExecutionAssessment :=
      { decision, fingerprint := host.digest spec, record := some record, reasonCode }
    if !same then pure (found .blockedUnknown "DUPLICATE_IDENTITY_MISMATCH")
    else if liveState record.executionState then
      pure (found .attachRunning "EQUIVALENT_EXECUTION_ACTIVE")
    else if completedEvidenceState record.executionState then
      pure (found .reuseCompleted "EQUIVALENT_EXECUTION_COMPLETED")
    else pure (found .blockedUnknown "EQUIVALENT_EXECUTION_UNSAFE_STATE")

/-- A launch is safe only where the store holds no equivalent execution, in whatever
    state: no state of an earlier execution lets the guard launch again. -/
theorem assess_safeToLaunch {host : FingerprintHost} {spec : ExecutionFingerprintSpec}
    {found : List DurableExecutionRecord} {assessment : DuplicateExecutionAssessment}
    (h : assess host spec found = .ok assessment)
    (hsafe : assessment.decision = .safeToLaunch) : found = [] := by
  cases found with
  | nil => rfl
  | cons record rest =>
    unfold assess at h
    obtain ⟨same, -, h⟩ := Except.bind_eq_ok.mp h
    cases same with
    | false =>
      cases h
      cases hsafe
    | true =>
      simp only [Bool.not_true, Bool.false_eq_true, if_false] at h
      split at h
      · cases h
        cases hsafe
      · split at h
        · cases h
          cases hsafe
        · cases h
          cases hsafe

/-- The identity columns of the stored records: id and fingerprint. -/
def ExecutionStore.identities (s : ExecutionStore) : List (String × String) :=
  s.records.map fun r => (r.executionId, r.commandFingerprint)

theorem readRecords_nil {rows : List StoredRecord} (h : readRecords rows = .ok []) :
    rows = [] := by
  cases rows with
  | nil => rfl
  | cons row rows =>
    unfold readRecords at h
    obtain ⟨record, -, h⟩ := Except.bind_eq_ok.mp h
    obtain ⟨rest, -, h⟩ := Except.bind_eq_ok.mp h
    cases h

variable {s s' : ExecutionStore}

/-- A lookup that finds nothing: no stored record has the fingerprint. -/
theorem findByFingerprint_nil {fingerprint : String}
    (h : findByFingerprint fingerprint s = (.ok [], s')) :
    s' = s ∧ ∀ x ∈ s.identities, x.2 ≠ fingerprint := by
  refine checkedTxn_ok (Q := fun r s' => r = [] → s' = s ∧ ∀ x ∈ s.identities, x.2 ≠ fingerprint)
    h ?_ rfl
  unfold findBody
  simp only [Txn.wp_bind, Txn.wp_query]
  apply Txn.wp_ofExcept_of_ok
  intro records hrecords hnil
  rw [hnil] at hrecords
  have hrows := readRecords_nil hrecords
  refine ⟨rfl, ?_⟩
  intro x hx hfp
  simp only [ExecutionStore.identities, List.mem_map] at hx
  obtain ⟨row, hrow, rfl⟩ := hx
  have hmem : row ∈ newestFirst (s.records.filter fun r => r.commandFingerprint = fingerprint) := by
    unfold newestFirst
    rw [List.mem_insertionSort, List.mem_reverse, List.mem_filter]
    exact ⟨hrow, by simpa using hfp⟩
  rw [hrows] at hmem
  cases hmem

theorem findByFingerprint_state {fingerprint : String}
    {r : Except StoreFault (List DurableExecutionRecord)}
    (h : findByFingerprint fingerprint s = (r, s')) : s' = s := by
  cases r with
  | error e => exact checkedTxn_error h
  | ok records =>
    refine checkedTxn_ok (Q := fun _ s' => s' = s) h ?_
    unfold findBody
    simp only [Txn.wp_bind, Txn.wp_query]
    apply Txn.wp_ofExcept_of_ok
    intro _ _
    rfl

theorem get_state {executionId : String} {s s' : ExecutionStore}
    {r : Except StoreFault DurableExecutionRecord} (h : get executionId s = (r, s')) :
    s' = s := by
  cases r with
  | error e => exact checkedTxn_error h
  | ok record =>
    refine checkedTxn_ok (Q := fun _ s' => s' = s) h ?_
    apply wp_loadRecord
    intro _ _ _ _
    rfl

theorem identities_updateExecution {a : UpdateArgs} {change : ExecutionChange} {draw : String}
    {r : Except StoreFault DurableExecutionRecord} (h : updateExecution a change draw s = (r, s')) :
    s'.identities = s.identities := by
  cases r with
  | error e => rw [checkedTxn_error h]
  | ok next =>
    obtain ⟨row, -, -, -, rfl⟩ := updateExecution_ok h
    simp only [ExecutionStore.identities, Table.updateWhere, List.map_map]
    apply List.map_congr_left
    intro row _
    simp only [Function.comp_apply]
    split
    · rfl
    · rfl

theorem identities_create {record created : DurableExecutionRecord} {createdAt : Int}
    {draw : String} (h : create record createdAt draw s = (.ok created, s')) :
    created = record ∧ s'.identities =
        s.identities ++ [(record.executionId, record.commandFingerprint)] ∧
      ∀ x ∈ s.identities, x.1 ≠ record.executionId := by
  obtain ⟨hcreated, -, hnone, rfl⟩ := create_ok h
  refine ⟨hcreated, by simp [ExecutionStore.identities], ?_⟩
  intro x hx hid
  simp only [ExecutionStore.identities, List.mem_map] at hx
  obtain ⟨row, hrow, rfl⟩ := hx
  have hfind := List.find?_eq_none.mp hnone row hrow
  simp at hfind
  exact hfind hid

end AConductor.Execution

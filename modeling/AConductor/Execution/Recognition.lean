import AConductor.Execution.Reuse

/-!
# Executions: a run that is asked for again

The record of a fresh launch (`src/a_conductor/supervised_run_coordinator.py:570-594`) holds the
texts of the identity as they are, while the guard compares it with the stripped ones
(`src/a_conductor/execution_deduplication.py:94-107,179-190`).
-/

namespace AConductor.Execution

open Except List

/-- The texts that the guard compares as the specification has them. -/
def RunCall.identityTexts (call : RunCall) : List String :=
  [call.identity.projectId, call.identity.jobId, call.identity.workOrderRef,
    call.identity.backendId, call.identity.branch, call.identity.headBefore,
    call.policy.deriveOperationRef call.argv, call.identity.runtimeProfileRef]

/-- The answer about a record that the guard recognises, by the state of the record
    (`execution_deduplication.py:220-242`). -/
def recognised (host : FingerprintHost) (spec : ExecutionFingerprintSpec)
    (record : DurableExecutionRecord) : DuplicateExecutionAssessment :=
  let found (decision : DuplicateExecutionDecision) (reasonCode : String) :
      DuplicateExecutionAssessment :=
    { decision, fingerprint := host.digest spec, record := some record, reasonCode }
  if liveState record.executionState then found .attachRunning "EQUIVALENT_EXECUTION_ACTIVE"
  else if completedEvidenceState record.executionState then
    found .reuseCompleted "EQUIVALENT_EXECUTION_COMPLETED"
  else found .blockedUnknown "EQUIVALENT_EXECUTION_UNSAFE_STATE"

/-- The later states of a store: a record is updated, an execution is created, or what is not a
    record changes. A transaction that fails leaves the store. -/
inductive Later (s : ExecutionStore) : ExecutionStore → Prop where
  | refl : Later s s
  | update {s' s'' : ExecutionStore} {a : UpdateArgs} {change : ExecutionChange} {draw : String}
      {next : DurableExecutionRecord} (h : Later s s')
      (hstep : updateExecution a change draw s' = (.ok next, s'')) : Later s s''
  | create {s' s'' : ExecutionStore} {record created : DurableExecutionRecord} {createdAt : Int}
      {draw : String} (h : Later s s')
      (hstep : create record createdAt draw s' = (.ok created, s'')) : Later s s''
  | elsewhere {s' s'' : ExecutionStore} (h : Later s s')
      (hrecords : s''.records = s'.records) : Later s s''

theorem Later.trans {s s' s'' : ExecutionStore} (h : Later s s') (h' : Later s' s'') :
    Later s s'' := by
  induction h' with
  | refl => exact h
  | update _ hstep ih => exact ih.update hstep
  | create _ hstep ih => exact ih.create hstep
  | elsewhere _ hrecords ih => exact ih.elsewhere hrecords

/-- The rows of a fingerprint as a lookup orders them: by the time of creation, then by row id. -/
def ExecutionStore.ofFingerprint (s : ExecutionStore) (fingerprint : String) : List StoredRecord :=
  newestFirst (s.records.filter fun r => r.commandFingerprint = fingerprint)

/-- No execution of the fingerprint was created later. -/
def Newest (fingerprint executionId : String) (s : ExecutionStore) : Prop :=
  (s.ofFingerprint fingerprint).head?.map (fun r => r.executionId) = some executionId

/-- The columns that no update changes, as far as the guard reads them. -/
def ExecutionRow.identityColumns (r : ExecutionRow) :=
  (r.executionId, r.commandFingerprint, r.projectId, r.jobId, r.workOrderRef, r.backendId,
    r.repoRoot, r.branch, r.headBefore, r.operationRef, r.runtimeProfileRef)

/-- The rows of the fingerprint are records. -/
def Readable (fingerprint : String) (s : ExecutionStore) : Prop :=
  ∀ row ∈ s.records, row.commandFingerprint = fingerprint → row.toExecutionRow.check = .ok ()

/-- The record that was launched is stored, once. -/
def HoldsLaunch (fresh : ExecutionRow) (s : ExecutionStore) : Prop :=
  ∃ row, (s.records.filter fun r => r.executionId = fresh.executionId) = [row] ∧
    row.identityColumns = fresh.identityColumns

variable {fingerprint : String} {s s' : ExecutionStore}

theorem check_overwrite {new : ExecutionRow} {r : StoredRecord} (hnew : new.check = .ok ())
    (hr : r.toExecutionRow.check = .ok ()) : (r.overwrite new).toExecutionRow.check = .ok () := by
  simp only [ExecutionRow.check, StoredRecord.overwrite, check_bind_eq_ok] at hnew hr ⊢
  tauto

theorem filter_updateWhere {p : StoredRecord → Bool} {new : ExecutionRow} {executionId : String}
    {rows : List StoredRecord} :
    ((Table.updateWhere p (StoredRecord.overwrite new) rows).filter fun r =>
        r.executionId = executionId) =
      (rows.filter fun r => r.executionId = executionId).map fun r =>
        if p r then r.overwrite new else r := by
  unfold Table.updateWhere
  rw [filter_map]
  congr 2
  funext r
  simp only [Function.comp_apply]
  split <;> rfl

theorem Readable.later (h : Readable fingerprint s) (hlater : Later s s') :
    Readable fingerprint s' := by
  induction hlater with
  | refl => exact h
  | update _ hstep ih =>
    obtain ⟨_, -, -, -, rfl⟩ := updateExecution_ok hstep
    intro row hrow hfingerprint
    obtain ⟨old, hold, rfl⟩ := mem_map.mp hrow
    split at hfingerprint
    · rw [if_pos ‹_›]
      exact check_overwrite (DurableExecutionRecord.checked _) (ih old hold hfingerprint)
    · rw [if_neg ‹_›]
      exact ih old hold hfingerprint
  | create _ hstep ih =>
    obtain ⟨-, -, -, rfl⟩ := create_ok hstep
    intro row hrow hfingerprint
    rcases mem_append.mp hrow with hrow | hrow
    · exact ih row hrow hfingerprint
    · rw [mem_singleton.mp hrow]
      exact DurableExecutionRecord.checked _
  | elsewhere _ hrecords ih =>
    intro row hrow
    rw [hrecords] at hrow
    exact ih row hrow

theorem HoldsLaunch.later {fresh : ExecutionRow} (h : HoldsLaunch fresh s) (hlater : Later s s') :
    HoldsLaunch fresh s' := by
  induction hlater with
  | refl => exact h
  | update _ hstep ih =>
    obtain ⟨row, hrows, hcolumns⟩ := ih
    obtain ⟨_, -, -, -, rfl⟩ := updateExecution_ok hstep
    refine ⟨_, by rw [filter_updateWhere, hrows, map_singleton], ?_⟩
    split
    · exact hcolumns
    · exact hcolumns
  | @create s₁ _ record _ _ _ _ hstep ih =>
    obtain ⟨row, hrows, hcolumns⟩ := ih
    obtain ⟨-, -, hnew, rfl⟩ := create_ok hstep
    have hrow : row ∈ s₁.records.filter fun r => r.executionId = fresh.executionId := by
      rw [hrows]
      exact mem_singleton_self row
    obtain ⟨hmem, hid⟩ := mem_filter.mp hrow
    have hother : record.executionId ≠ fresh.executionId := fun heq =>
      ExecutionStore.record?_none hnew row hmem ((of_decide_eq_true hid).trans heq.symm)
    exact ⟨row, by simp [filter_append, hrows, hother], hcolumns⟩
  | elsewhere _ hrecords ih =>
    unfold HoldsLaunch at ih ⊢
    rwa [hrecords]

/-- The creation of a record whose id is not taken stores it once. -/
theorem holdsLaunch_create {record created : DurableExecutionRecord} {createdAt : Int}
    {draw : String} (h : create record createdAt draw s = (.ok created, s')) :
    HoldsLaunch record.toExecutionRow s' := by
  obtain ⟨-, -, hnew, rfl⟩ := create_ok h
  have hothers : (s.records.filter fun r => r.executionId = record.executionId) = [] := by
    rw [filter_eq_nil_iff]
    intro r hr
    simpa using ExecutionStore.record?_none hnew r hr
  exact ⟨_, by rw [filter_append, hothers]; simp; rfl, rfl⟩

/-- What `get` finds is the only row of the id. -/
theorem HoldsLaunch.row {fresh : ExecutionRow} (h : HoldsLaunch fresh s) :
    ∃ row ∈ s.records, s.record? fresh.executionId = some row ∧
      row.identityColumns = fresh.identityColumns ∧
      ∀ r ∈ s.records, r.executionId = fresh.executionId → r = row := by
  obtain ⟨row, hrows, hcolumns⟩ := h
  have hmem : row ∈ s.records.filter fun r => r.executionId = fresh.executionId := by
    rw [hrows]
    exact mem_singleton_self row
  refine ⟨row, (mem_filter.mp hmem).1, ?_, hcolumns, fun r hr hid => ?_⟩
  · unfold ExecutionStore.record?
    rw [← head?_filter]
    exact congrArg List.head? hrows
  · have hsingle : r ∈ [row] := by
      rw [← hrows]
      exact mem_filter.mpr ⟨hr, decide_eq_true hid⟩
    exact mem_singleton.mp hsingle

theorem readRecords_checked {rows : List StoredRecord}
    (h : ∀ row ∈ rows, row.toExecutionRow.check = .ok ()) :
    ∃ records, readRecords rows = .ok records ∧
      records.map DurableExecutionRecord.toExecutionRow =
        rows.map StoredRecord.toExecutionRow := by
  induction rows with
  | nil => exact ⟨[], rfl, rfl⟩
  | cons row rows ih =>
    obtain ⟨records, hrecords, hmap⟩ := ih fun r hr => h r (mem_cons_of_mem _ hr)
    refine ⟨⟨row.toExecutionRow, h row mem_cons_self⟩ :: records, ?_, ?_⟩
    · show ((DurableExecutionRecord.make row.toExecutionRow).mapError _ >>= fun record =>
        readRecords rows >>= fun rest => pure (record :: rest)) = _
      rw [make_checked (h row mem_cons_self), hrecords]
      rfl
    · rw [map_cons, map_cons, hmap]

/-- A lookup finds the records of the fingerprint in the store's order. -/
theorem Readable.found (h : Readable fingerprint s)
    (hsha : requireSha256 fingerprint "fingerprint" = .ok ()) :
    ∃ records, (findByFingerprint fingerprint s).1 = .ok records ∧
      records.map DurableExecutionRecord.toExecutionRow =
        (s.ofFingerprint fingerprint).map StoredRecord.toExecutionRow := by
  obtain ⟨records, hread, hmap⟩ := @readRecords_checked (s.ofFingerprint fingerprint) fun row hrow => by
    unfold ExecutionStore.ofFingerprint newestFirst at hrow
    rw [mem_insertionSort, mem_reverse, mem_filter] at hrow
    exact h row hrow.1 (of_decide_eq_true hrow.2)
  refine ⟨records, ?_, hmap⟩
  have hbody : findBody fingerprint s = (.ok records, s) := by
    show Txn.ofExcept (readRecords (s.ofFingerprint fingerprint)) s = _
    rw [hread]
    rfl
  unfold findByFingerprint checkedTxn
  rw [hsha]
  show (Txn.atomically (findBody fingerprint) s).1 = _
  unfold Txn.atomically
  rw [hbody]

/-- What a specification holds of the identity. -/
structure SpecOf (host : FingerprintHost) (call : RunCall) (spec : ExecutionFingerprintSpec) :
    Prop where
  projectId : spec.projectId = Text.strip call.identity.projectId
  jobId : spec.jobId = Text.strip call.identity.jobId
  workOrderRef : spec.workOrderRef = Text.strip call.identity.workOrderRef
  backendId : spec.backendId = Text.strip call.identity.backendId
  repoRoot : normalizeRepoRoot host call.identity.repoRoot = .ok spec.repoRoot
  branch : spec.branch = Text.strip call.identity.branch
  headBefore : spec.headBefore = Text.strip call.identity.headBefore
  operationRef : spec.operationRef = Text.strip (call.policy.deriveOperationRef call.argv)
  runtimeProfileRef : spec.runtimeProfileRef = some (Text.strip call.identity.runtimeProfileRef)

variable {spec : ExecutionFingerprintSpec} {host : FingerprintHost}

theorem specOf_fingerprintSpec {call : RunCall}
    (h : fingerprintSpec host call = .ok spec) : SpecOf host call spec := by
  unfold fingerprintSpec ExecutionFingerprintSpec.make at h
  obtain ⟨_, hproject, h⟩ := bind_eq_ok.mp h
  obtain ⟨_, hjob, h⟩ := bind_eq_ok.mp h
  obtain ⟨_, horder, h⟩ := bind_eq_ok.mp h
  obtain ⟨_, hbackend, h⟩ := bind_eq_ok.mp h
  obtain ⟨_, hroot, h⟩ := bind_eq_ok.mp h
  obtain ⟨_, hbranch, h⟩ := bind_eq_ok.mp h
  obtain ⟨_, hhead, h⟩ := bind_eq_ok.mp h
  obtain ⟨_, hoperation, h⟩ := bind_eq_ok.mp h
  obtain ⟨_, hprofile, h⟩ := bind_eq_ok.mp h
  obtain ⟨_, -, h⟩ := bind_eq_ok.mp h
  cases h
  obtain ⟨_, href, rfl⟩ := map_eq_ok.mp hprofile
  exact ⟨fingerprintText_ok hproject, fingerprintText_ok hjob, fingerprintText_ok horder,
    fingerprintText_ok hbackend, hroot, fingerprintText_ok hbranch, fingerprintText_ok hhead,
    fingerprintText_ok hoperation, congrArg some (fingerprintText_ok href)⟩

/-- The record of a launch is the execution that is asked for exactly when nothing was stripped. -/
theorem equivalent_eq {call : RunCall}
    {found : DurableExecutionRecord} (hspec : SpecOf host call spec)
    (hcolumns : found.identityColumns = (freshRow call (host.digest spec)).identityColumns) :
    equivalent host spec found =
      .ok (decide (∀ text ∈ call.identityTexts, text = Text.strip text)) := by
  simp only [ExecutionRow.identityColumns, freshRow, Prod.mk.injEq] at hcolumns
  obtain ⟨-, hcommand, hproject, hjob, horder, hbackend, hroot, hbranch, hhead, hoperation,
    hprofile⟩ := hcolumns
  unfold equivalent identityMatches
  rw [if_neg (not_not.mpr hcommand), hproject, hjob, horder, hbackend, hroot, hbranch, hhead,
    hoperation, hprofile, hspec.projectId, hspec.jobId, hspec.workOrderRef, hspec.backendId,
    hspec.repoRoot, hspec.branch, hspec.headBefore, hspec.operationRef, hspec.runtimeProfileRef]
  split
  · rename_i hfirst
    refine congrArg Except.ok (Bool.eq_iff_iff.mpr ?_)
    simp only [RunCall.identityTexts, Bool.and_eq_true, decide_eq_true_eq, forall_mem_cons,
      Option.some.injEq]
    tauto
  · rename_i hfirst
    have hnot : ¬ ∀ text ∈ call.identityTexts, text = Text.strip text := fun hall =>
      hfirst ⟨hall _ (by simp [RunCall.identityTexts]), hall _ (by simp [RunCall.identityTexts]),
        hall _ (by simp [RunCall.identityTexts]), hall _ (by simp [RunCall.identityTexts])⟩
    exact congrArg Except.ok (decide_eq_false hnot).symm

theorem recognised_inj
    {record other : DurableExecutionRecord}
    (h : recognised host spec record = recognised host spec other) : record = other := by
  have hrecord : ∀ r : DurableExecutionRecord, (recognised host spec r).record = some r := by
    intro r
    simp only [recognised]
    split_ifs
    · rfl
    · rfl
    · rfl
  have hsame := congrArg DuplicateExecutionAssessment.record h
  rw [hrecord, hrecord] at hsame
  exact Option.some_inj.mp hsame

/-- What the guard answers about the newest record: it is recognised, or it is another execution. -/
theorem assess_cons
    {first : DurableExecutionRecord} (rest : List DurableExecutionRecord) {same : Bool}
    (h : equivalent host spec first = .ok same) :
    assess host spec (first :: rest) = .ok (if same then recognised host spec first else
      { decision := .blockedUnknown, fingerprint := host.digest spec, record := some first
        reasonCode := "DUPLICATE_IDENTITY_MISMATCH" }) := by
  show (equivalent host spec first >>= _) = _
  rw [h, ok_bind]
  cases same with
  | false => rfl
  | true =>
    unfold recognised
    simp only [Bool.not_true, Bool.false_eq_true, if_false, if_true]
    split
    · rfl
    · split
      · rfl
      · rfl

theorem recognised_ne_mismatch
    {record first : DurableExecutionRecord} :
    recognised host spec record ≠
      { decision := .blockedUnknown, fingerprint := host.digest spec, record := some first
        reasonCode := "DUPLICATE_IDENTITY_MISMATCH" } := by
  intro h
  have hreason := congrArg DuplicateExecutionAssessment.reasonCode h
  simp only [recognised] at hreason
  split_ifs at hreason
  · simp at hreason
  · simp at hreason
  · simp at hreason

/-- The guard recognises a record exactly when it is the newest one and the execution that is asked
    for. -/
theorem assess_recognised_iff
    {record : DurableExecutionRecord} {found : List DurableExecutionRecord} {same : Bool}
    (hsame : equivalent host spec record = .ok same) :
    assess host spec found = .ok (recognised host spec record) ↔
      same = true ∧ found.head? = some record := by
  cases found with
  | nil =>
    refine iff_of_false (fun h => ?_) (fun h => by simp at h)
    have hnone := congrArg DuplicateExecutionAssessment.reasonCode (Except.ok.inj h)
    simp only [recognised] at hnone
    split_ifs at hnone
    · simp at hnone
    · simp at hnone
    · simp at hnone
  | cons first rest =>
    rw [head?_cons, Option.some_inj]
    constructor
    · intro h
      obtain ⟨answer, hanswer, -⟩ := Except.bind_eq_ok.mp h
      rw [assess_cons rest hanswer] at h
      cases answer with
      | false => exact absurd (Except.ok.inj h).symm recognised_ne_mismatch
      | true =>
        have hfirst := recognised_inj (Except.ok.inj h)
        subst hfirst
        exact ⟨Except.ok.inj (hsame.symm.trans hanswer), rfl⟩
    · rintro ⟨rfl, rfl⟩
      rw [assess_cons rest hsame]
      rfl

/-- A record is the first of what a lookup read exactly if its id is that of the newest row. -/
theorem head_eq_iff_newest {executionId : String} {row : StoredRecord}
    {found : List DurableExecutionRecord} {launched : DurableExecutionRecord}
    (hmap : found.map DurableExecutionRecord.toExecutionRow =
      (s.ofFingerprint fingerprint).map StoredRecord.toExecutionRow)
    (hlaunched : launched.toExecutionRow = row.toExecutionRow) (hid : row.executionId = executionId)
    (honly : ∀ r ∈ s.records, r.executionId = executionId → r = row) :
    found.head? = some launched ↔ Newest fingerprint executionId s := by
  have hhead := congrArg List.head? hmap
  rw [head?_map, head?_map] at hhead
  unfold Newest
  constructor
  · intro h
    rw [h, Option.map_some, hlaunched] at hhead
    obtain ⟨first, hfirst, heq⟩ := Option.map_eq_some_iff.mp hhead.symm
    rw [hfirst, ← hid]
    exact congrArg (fun r => some (ExecutionRow.executionId r)) heq
  · intro h
    obtain ⟨first, hfirst, hfirstId⟩ := Option.map_eq_some_iff.mp h
    have hin : first ∈ s.records := by
      have hnewest := mem_of_mem_head? (Option.mem_def.mpr hfirst)
      unfold ExecutionStore.ofFingerprint newestFirst at hnewest
      rw [mem_insertionSort, mem_reverse] at hnewest
      exact (mem_filter.mp hnewest).1
    rw [hfirst, honly first hin hfirstId, Option.map_some, ← hlaunched] at hhead
    obtain ⟨other, hother, heq⟩ := Option.map_eq_some_iff.mp hhead
    rw [hother, Option.some_inj]
    cases other
    cases launched
    cases heq
    rfl

/-- A call whose project id is spelled with a blank in front. -/
def blankedCall : RunCall :=
  { repairCall "exec-1" with identity := { (repairCall "exec-1").identity with
      projectId := " project-1" } }

end AConductor.Execution

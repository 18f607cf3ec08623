import AConductor.Execution.Recollect

/-!
# Executions: reusing a completed run

The reuse branch of `run_with_outcome` (`src/a_conductor/supervised_run_coordinator.py:512-526`,
`:690-725`) collects the result of the completed execution in the same way as that of a fresh one,
so its state is written anew.
-/

namespace AConductor.Execution

open Proc List

/-- A part of a call that leaves the store as it is. -/
abbrev ReadsOnly {α : Type} (p : RunProc α) : Prop := p.run.Through Eq

theorem readsOnly_get (executionId : String) : ReadsOnly (runStore (get executionId)) :=
  through_transact fun s => (@get_state executionId s _ _ rfl).symm

theorem readsOnly_recoveryOutcome (executionId code : String) :
    ReadsOnly (recoveryOutcome executionId code) := by
  refine Through.tryBind (through_transact fun s => ?_) fun _ => trivial
  rcases hget : get executionId s with ⟨r, s'⟩
  have hsame := get_state hget
  subst hsame
  cases r with
  | ok record => rfl
  | error e => rfl

theorem readsOnly_collectFault (fault : RunFault) : ReadsOnly (collectFault fault) := by
  unfold collectFault
  split
  · trivial
  · trivial
  · trivial

section Outcome

variable {s : ExecutionStore} {row : StoredRecord} {executionId : String}

/-- What reports a collection only reads. -/
theorem collectOutcome_store (call : RunCall) (kind : SupervisedRunOutcomeKind)
    (hrow : s.record? executionId = some row) (hcheck : row.toExecutionRow.check = .ok ()) :
    ((collectOutcome call executionId kind).run.exec s).2.1 =
      ((collectChild call executionId row.version).run.exec s).2.1 := by
  unfold collectOutcome
  refine (exec_bind_reads (fun collected => ?_) s).trans ?_
  · cases collected with
    | error code => exact readsOnly_recoveryOutcome executionId code
    | ok exitCode => trivial
  · refine (exec_tryCatch_reads (fun fault => ?_) s).trans ?_
    · exact (readsOnly_collectFault fault).tryBind fun _ => trivial
    · rw [exec_runStore_ok (get_run hrow hcheck)]
      refine exec_bind_reads (fun _ => ?_) s
      trivial

/-- What `run_with_outcome` leaves of an execution that it attaches to or reuses. -/
theorem awaitOutcome_store (call : RunCall) (kind : SupervisedRunOutcomeKind)
    (hrow : s.record? executionId = some row) (hcheck : row.toExecutionRow.check = .ok ()) :
    ((awaitOutcome call executionId kind).run.exec s).2.1 =
      if call.poll = .resultAvailable then
        ((collectChild call executionId row.version).run.exec s).2.1
      else s := by
  unfold awaitOutcome
  cases call.poll with
  | inspectFailed => exact (readsOnly_recoveryOutcome _ _).exec_eq s
  | timedOut =>
    refine Through.exec_eq ?_ s
    exact (readsOnly_get executionId).tryBind fun _ => trivial
  | recovery code => exact (readsOnly_recoveryOutcome _ _).exec_eq s
  | resultAvailable => exact collectOutcome_store call kind hrow hcheck

end Outcome

/-- The state that a collection sets, when it sets one. -/
def collectedState (call : RunCall) (row : ExecutionRow) : Option ExecutionProcessState :=
  match call.child with
  | .raised _ | .missing => none
  | .invalid _ => some .recoveryRequired
  | .result childPid exitCode _ _ =>
    if row.pid.any (· ≠ childPid) then some .recoveryRequired else some (exitState exitCode)

/-- The store takes the changes, each on what the one before left. -/
def AllTaken : List PlannedChange → ExecutionRow → Prop
  | [], _ => True
  | w :: ws, row => Taken w.evidenceRef (w.change.apply row) ∧ AllTaken ws (w.change.apply row)

theorem applyAll_taken {w : PlannedChange} {ws : List PlannedChange} {row : StoredRecord}
    (h : Taken w.evidenceRef (w.change.apply row.toExecutionRow)) :
    applyAll (w :: ws) row = applyAll ws (row.changed w.change) := if_pos h

theorem applyAll_untaken {w : PlannedChange} {ws : List PlannedChange} {row : StoredRecord}
    (h : ¬ Taken w.evidenceRef (w.change.apply row.toExecutionRow)) :
    applyAll (w :: ws) row = (row, false) := if_neg h

/-- A change of the state at the end of changes that do not set it. -/
theorem applyAll_state {ws : List PlannedChange} {target : ExecutionProcessState}
    {evidenceRef : Option String} {row : StoredRecord}
    (hothers : ∀ w ∈ ws, ∀ r : ExecutionRow,
      (w.change.apply r).executionState = r.executionState) :
    (applyAll (ws ++ [⟨.execution target, evidenceRef⟩]) row).1.executionState =
        row.executionState ↔
      (AllTaken (ws ++ [⟨.execution target, evidenceRef⟩]) row.toExecutionRow →
        target = row.executionState) := by
  induction ws generalizing row with
  | nil =>
    rw [nil_append]
    by_cases h : Taken evidenceRef ((ExecutionChange.execution target).apply row.toExecutionRow)
    · rw [applyAll_taken h]
      exact ⟨fun heq _ => heq, fun heq => heq ⟨h, trivial⟩⟩
    · rw [applyAll_untaken h]
      exact ⟨fun _ htaken => absurd htaken.1 h, fun _ => rfl⟩
  | cons w ws ih =>
    rw [cons_append]
    have hstate := hothers w mem_cons_self row.toExecutionRow
    by_cases h : Taken w.evidenceRef (w.change.apply row.toExecutionRow)
    · have hrest := @ih (row.changed w.change) fun v hv => hothers v (mem_cons_of_mem _ hv)
      rw [changed_row, hstate] at hrest
      rw [applyAll_taken h]
      exact hrest.trans
        ⟨fun hset htaken => hset htaken.2, fun hset htaken => hset ⟨h, htaken⟩⟩
    · rw [applyAll_untaken h]
      exact ⟨fun _ htaken => absurd htaken.1 h, fun _ => rfl⟩

/-- A collection leaves the state of the record as it is, unless it sets another one and the store
    takes all its writes. -/
theorem applyAll_collectChanges (call : RunCall) (row : StoredRecord) :
    (applyAll (collectChanges call row.toExecutionRow) row).1.executionState =
        row.executionState ↔
      ∀ target, collectedState call row.toExecutionRow = some target →
        AllTaken (collectChanges call row.toExecutionRow) row.toExecutionRow →
          target = row.executionState := by
  unfold collectChanges collectPlan collectedState
  cases call.child with
  | raised fault => exact ⟨fun _ target h => (nomatch h), fun _ => rfl⟩
  | missing => exact ⟨fun _ target h => (nomatch h), fun _ => rfl⟩
  | invalid code =>
    refine (@applyAll_state [] .recoveryRequired _ row (by simp)).trans ?_
    simp
  | result childPid exitCode startedAt finishedAt =>
    dsimp only
    by_cases hpid : (row.pid.any (· ≠ childPid)) = true
    · rw [if_pos hpid, if_pos hpid]
      refine (@applyAll_state [] .recoveryRequired _ row (by simp)).trans ?_
      simp
    · rw [if_neg hpid, if_neg hpid]
      refine (@applyAll_state [⟨.process childPid startedAt, row.resultRef⟩,
        ⟨.result exitCode finishedAt, row.resultRef⟩] (exitState exitCode) row.resultRef row
        ?_).trans ?_
      · simp [ExecutionChange.apply]
      · simp

variable {found : List DurableExecutionRecord} {record : DurableExecutionRecord}

theorem readRecords_mem {rows : List StoredRecord} (h : readRecords rows = .ok found)
    (hmem : record ∈ found) : ∃ row ∈ rows, row.toExecutionRow = record.toExecutionRow := by
  induction rows generalizing found with
  | nil =>
    cases h
    cases hmem
  | cons row rows ih =>
    unfold readRecords at h
    obtain ⟨first, hfirst, h⟩ := Except.bind_eq_ok.mp h
    obtain ⟨rest, hrest, h⟩ := Except.bind_eq_ok.mp h
    cases h
    rcases mem_cons.mp hmem with rfl | hmem
    · refine ⟨row, mem_cons_self, ?_⟩
      cases hmake : DurableExecutionRecord.make row.toExecutionRow with
      | error e =>
        rw [hmake] at hfirst
        cases hfirst
      | ok made =>
        rw [hmake] at hfirst
        cases hfirst
        exact (DurableExecutionRecord.make_ok hmake).symm
    · obtain ⟨stored, hstored, heq⟩ := ih hrest hmem
      exact ⟨stored, mem_cons_of_mem _ hstored, heq⟩

/-- What a lookup finds is stored. -/
theorem findByFingerprint_stored {fingerprint : String} {s : ExecutionStore}
    (hkeys : Table.Unique StoredRecord.idKey s.records)
    (h : (findByFingerprint fingerprint s).1 = .ok found)
    (hmem : record ∈ found) :
    ∃ row, s.record? record.executionId = some row ∧
      row.toExecutionRow = record.toExecutionRow := by
  have hstored : ∃ row ∈ s.records, row.toExecutionRow = record.toExecutionRow := by
    refine checkedTxn_ok (Q := fun found _ => record ∈ found → ∃ row ∈ s.records,
      row.toExecutionRow = record.toExecutionRow)
      (Prod.ext h rfl) ?_ hmem
    unfold findBody
    simp only [Txn.wp_bind, Txn.wp_query]
    apply Txn.wp_ofExcept_of_ok
    intro records hrecords hin
    obtain ⟨row, hrow, heq⟩ := readRecords_mem hrecords hin
    unfold newestFirst at hrow
    rw [mem_insertionSort, mem_reverse, mem_filter] at hrow
    exact ⟨row, hrow.1, heq⟩
  obtain ⟨row, hrow, heq⟩ := hstored
  have hid : row.executionId = record.executionId := congrArg ExecutionRow.executionId heq
  have hsome : (s.record? record.executionId).isSome = true := by
    unfold ExecutionStore.record?
    rw [List.find?_isSome]
    exact ⟨row, hrow, by simpa using hid⟩
  obtain ⟨other, hother⟩ := Option.isSome_iff_exists.mp hsome
  obtain ⟨hmemOther, hidOther⟩ := ExecutionStore.record?_some hother
  have hsame : other = row := hkeys.eq_of_key hmemOther hrow (congrArg some hidOther)
    (congrArg some hid)
  subst hsame
  exact ⟨other, hother, heq⟩

/-- What is reused is the newest record that was found. -/
theorem assess_reuseCompleted {host : FingerprintHost} {spec : ExecutionFingerprintSpec}
    {assessment : DuplicateExecutionAssessment} (h : assess host spec found = .ok assessment)
    (hreuse : assessment.decision = .reuseCompleted) :
    ∃ record rest, found = record :: rest ∧ assessment.record = some record := by
  cases found with
  | nil =>
    cases h
    cases hreuse
  | cons record rest =>
    refine ⟨record, rest, rfl, ?_⟩
    unfold assess at h
    obtain ⟨same, -, h⟩ := Except.bind_eq_ok.mp h
    cases same with
    | false =>
      cases h
      rfl
    | true =>
      simp only [Bool.not_true, Bool.false_eq_true, if_false] at h
      split at h
      · cases h
        rfl
      · split at h
        · cases h
          rfl
        · cases h
          rfl

/-- The state of the stored execution stays as it is: no result is available, or what is collected
    sets no other state, or the store refuses one of the writes. -/
def KeepsState (call : RunCall) (row : ExecutionRow) : Prop :=
  call.poll = .resultAvailable → ∀ target, collectedState call row = some target →
    AllTaken (collectChanges call row) row → target = row.executionState

section Reuse

variable {host : FingerprintHost} {call : RunCall} {s : ExecutionStore}
  {spec : ExecutionFingerprintSpec} {found : List DurableExecutionRecord}
  {assessment : DuplicateExecutionAssessment} {record : DurableExecutionRecord}

/-- A call that reuses an execution waits for its result. -/
theorem runWithOutcome_reuse (hspec : fingerprintSpec host call = .ok spec)
    (hfound : (findByFingerprint (host.digest spec) s).1 = .ok found)
    (hassess : assess host spec found = .ok assessment)
    (hreuse : assessment.decision = .reuseCompleted) (hrecord : assessment.record = some record) :
    ((runWithOutcome host call).exec s).2.1 =
      ((awaitOutcome call record.executionId .reuseCompleted).run.exec s).2.1 := by
  have hlookup : findByFingerprint (host.digest spec) s = (.ok found, s) :=
    Prod.ext hfound (findByFingerprint_state rfl)
  obtain ⟨first, rest, hcons, -⟩ := assess_reuseCompleted hassess hreuse
  have hassessed : (assessDuplicate host spec).run.exec s = (.ok assessment, s, []) := by
    show ((((findByFingerprint (host.digest spec) s).1 >>= assess host spec).mapError
      RunFault.store, (findByFingerprint (host.digest spec) s).2,
      (lookupNote (host.digest spec) (findByFingerprint (host.digest spec) s).1).toList ++ []) :
        _ × _ × _) = _
    rw [hlookup]
    dsimp only
    rw [Except.ok_bind, hassess, hcons]
    rfl
  have hact : actOn call assessment = awaitOutcome call record.executionId .reuseCompleted := by
    unfold actOn
    rw [hreuse, hrecord]
  unfold runWithOutcome
  rw [hspec]
  dsimp only
  rw [exec_bind_quiet hassessed, hact]

/-- A reused execution keeps its stored state exactly when its result, when it has one, leads to
    the same state again. -/
theorem reuse_keeps_state_iff (hkeys : Table.Unique StoredRecord.idKey s.records)
    (hspec : fingerprintSpec host call = .ok spec)
    (hfound : (findByFingerprint (host.digest spec) s).1 = .ok found)
    (hassess : assess host spec found = .ok assessment)
    (hreuse : assessment.decision = .reuseCompleted) (hrecord : assessment.record = some record)
    (hdraws : call.collectDraws.Nodup) (hfresh : ∀ draw ∈ call.collectDraws, FreshDraw s draw) :
    (((runWithOutcome host call).exec s).2.1.record? record.executionId).map
        (fun r => r.executionState) = some record.executionState ↔
      KeepsState call record.toExecutionRow := by
  obtain ⟨first, rest, hcons, hfirst⟩ := assess_reuseCompleted hassess hreuse
  have hmem : record ∈ found := by
    rw [hcons, Option.some_inj.mp (hrecord.symm.trans hfirst)]
    exact mem_cons_self
  obtain ⟨row, hrow, heq⟩ := findByFingerprint_stored hkeys hfound hmem
  have hcheck : row.toExecutionRow.check = .ok () := by
    rw [heq]
    exact record.checked
  rw [runWithOutcome_reuse hspec hfound hassess hreuse hrecord,
    awaitOutcome_store call .reuseCompleted hrow hcheck]
  unfold KeepsState
  by_cases hpoll : call.poll = .resultAvailable
  · rw [if_pos hpoll, collectChild_left call hrow hcheck hdraws hfresh, Option.map_some,
      Option.some_inj]
    have hkept := applyAll_collectChanges call row
    rw [heq] at hkept ⊢
    rw [hkept]
    exact ⟨fun h _ => h, fun h => h hpoll⟩
  · rw [if_neg hpoll, hrow]
    refine ⟨fun _ h => absurd h hpoll, fun _ => ?_⟩
    exact congrArg (fun r => some r.executionState) heq

end Reuse

/-- An execution that was verified. -/
def verifiedRow : StoredRecord :=
  { freshRow (repairCall "exec-1") oneDigest with
    executionState := .succeeded, pid := some 7, exitCode := some 0
    finishedAt := some "2026-01-01T00:00:00Z", version := 7, createdAt := 0 }

def verifiedStore : ExecutionStore := { ExecutionStore.empty with records := [verifiedRow] }

def verifiedRecord : DurableExecutionRecord := ⟨verifiedRow.toExecutionRow, by decide +kernel⟩

/-- The same run asked for again, with the result file still there. -/
def repeatedCall : RunCall := { finishedCall "exec-2" with poll := .resultAvailable }

/-- What the repeated call asks for. -/
def repeatedSpec : ExecutionFingerprintSpec where
  projectId := "project-1"
  jobId := "job-1"
  workOrderRef := "work-order-1"
  backendId := "backend-1"
  repoRoot := "/repo"
  branch := "main"
  headBefore := "head"
  operationRef := "operation-1"
  runtimeProfileRef := some "profile-1"
  targetArgv := ["repair"]

theorem repeated_reuse :
    fingerprintSpec oneDigestHost repeatedCall = .ok repeatedSpec ∧
    (findByFingerprint oneDigest verifiedStore).1 = .ok [verifiedRecord] ∧
    assess oneDigestHost repeatedSpec [verifiedRecord] =
      .ok { decision := .reuseCompleted, fingerprint := oneDigest, record := some verifiedRecord
            reasonCode := "EQUIVALENT_EXECUTION_COMPLETED" } := by
  decide +kernel

theorem reuse_keeps_state_iff_verified :
    (((runWithOutcome oneDigestHost repeatedCall).exec verifiedStore).2.1.record?
        verifiedRecord.executionId).map (fun r => r.executionState) =
          some verifiedRecord.executionState ↔
      KeepsState repeatedCall verifiedRecord.toExecutionRow := by
  obtain ⟨hspec, hfound, hassess⟩ := repeated_reuse
  have hkeys : Table.Unique StoredRecord.idKey verifiedStore.records :=
    pairwise_singleton _ verifiedRow
  have hspelled : ∀ draw ∈ repeatedCall.collectDraws, draw.toList.all (· = ' ') = false := by
    decide +kernel
  exact reuse_keeps_state_iff hkeys hspec hfound hassess rfl rfl
    (by decide +kernel) fun draw hdraw => ⟨hspelled draw hdraw, fun e he => nomatch he⟩

/-- An execution that was verified has to be verified again once it is reused. -/
theorem reuse_demotes_verified :
    fingerprintSpec oneDigestHost repeatedCall = .ok repeatedSpec ∧
    (findByFingerprint oneDigest verifiedStore).1 = .ok [verifiedRecord] ∧
    (assess oneDigestHost repeatedSpec [verifiedRecord]).map
        (fun a => (a.decision, a.record)) = .ok (.reuseCompleted, some verifiedRecord) ∧
    verifiedStore.records.map (fun r => (r.executionId, r.executionState)) =
      [("exec-1", .succeeded)] ∧
    ((runWithOutcome oneDigestHost repeatedCall).exec verifiedStore).2.1.records.map
        (fun r => (r.executionId, r.executionState)) = [("exec-1", .verificationRequired)] := by
  decide +kernel

end AConductor.Execution

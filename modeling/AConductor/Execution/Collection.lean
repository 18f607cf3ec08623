import AConductor.Execution.Coordinator
import AConductor.Execution.Writes
import AConductor.Lib.Crash

/-!
# Executions: what a collection leaves

`SupervisedExecutionService.collect` (`src/a_conductor/supervised_execution.py:654-727`) makes a
plan from the record and the result file and writes its changes one after the other, each under
the version that the one before returned, until the store refuses one. `applyAll` is the record
that this leaves.
-/

namespace AConductor.Execution

open Txn Proc List Except

/-- A change with the evidence it is written with. -/
structure PlannedChange where
  change : ExecutionChange
  evidenceRef : Option String
  deriving DecidableEq, Repr

/-- A write: the planned change and the id drawn for its event. -/
structure PlannedWrite extends PlannedChange where
  draw : String
  deriving DecidableEq, Repr

/-- The evidence of `_mark_recovery`. -/
def recoveryEvidence (row : ExecutionRow) (code : String) : Option String :=
  some (row.resultRef.getD ("supervised:" ++ code))

/-- The state that the exit code leads to. -/
def exitState (exitCode : Int) : ExecutionProcessState :=
  if exitCode = 0 then .verificationRequired else .failed

/-- The writes of `collect` for a record. -/
def collectPlan (call : RunCall) (row : ExecutionRow) : List PlannedWrite :=
  match call.child with
  | .raised _ | .missing => []
  | .invalid code =>
    [⟨⟨.execution .recoveryRequired, recoveryEvidence row code⟩, call.draws.recovery⟩]
  | .result childPid exitCode startedAt finishedAt =>
    if row.pid.any (· ≠ childPid) then
      [⟨⟨.execution .recoveryRequired, recoveryEvidence row "RESULT_PID_MISMATCH"⟩,
        call.draws.recovery⟩]
    else
      [⟨⟨.process childPid startedAt, row.resultRef⟩, call.draws.collectProcess⟩,
        ⟨⟨.result exitCode finishedAt, row.resultRef⟩, call.draws.collectResult⟩,
        ⟨⟨.execution (exitState exitCode), row.resultRef⟩, call.draws.collectState⟩]

/-- What `collect` answers, if it answers, when no write is refused. -/
def collectAnswer : ChildResult → Except String Int
  | .raised _ => .error ""
  | .missing => .error "RESULT_NOT_AVAILABLE"
  | .invalid code => .error code
  | .result _ exitCode _ _ => .ok exitCode

/-- Write one change after the other, each under the version that the last one returned. -/
def writeAll {α : Type} (executionId : String) (answer : α) :
    Int → List PlannedWrite → RunProc α
  | _, [] => pure answer
  | version, w :: ws => do
    let next ← runStore (updateExecution
      { executionId, expectedVersion := version, evidenceRef := w.evidenceRef } w.change w.draw)
    writeAll executionId answer next.version ws

/-- The writes of `collect` for a record that was read. -/
def collectWrites (call : RunCall) (executionId : String) (row : ExecutionRow) :
    RunProc (Except String Int) :=
  match call.child with
  | .raised fault => throw fault
  | child => writeAll executionId (collectAnswer child) row.version (collectPlan call row)

section Steps

variable {α β : Type} {tx : ExecutionStore → Except StoreFault α × ExecutionStore}
  {f : α → RunProc β} {s s' : ExecutionStore}

theorem exec_runStore_ok {a : α} (h : tx s = (.ok a, s')) :
    (runStore tx >>= f).run.exec s = (f a).run.exec s' := by
  refine exec_bind_quiet ?_
  show (((tx s).1.mapError RunFault.store, (tx s).2, []) : _ × _ × _) = _
  rw [h]
  rfl

theorem exec_runStore_error {e : StoreFault} (h : tx s = (.error e, s')) :
    (runStore tx >>= f).run.exec s = (.error (.store e), s', []) := by
  refine exec_bind_error ?_
  show (((tx s).1.mapError RunFault.store, (tx s).2, []) : _ × _ × _) = _
  rw [h]
  rfl

theorem cut_runStore_ok {a : α} (n : Nat) (h : tx s = (.ok a, s')) :
    (runStore tx >>= f).run.cut (n + 1) s = (f a).run.cut n s' := by
  show Proc.cut _ (.atomic _ _ _) _ = _
  rw [cut_atomic, h]
  rfl

theorem cut_runStore_error {e : StoreFault} (n : Nat) (h : tx s = (.error e, s')) :
    (runStore tx >>= f).run.cut (n + 1) s = s' := by
  show Proc.cut _ (.atomic _ _ _) _ = _
  rw [cut_atomic, h]
  exact cut_ret n _ s'

end Steps

theorem requireText_of_line {maxChars : Nat} {value fieldName other : String}
    (h : requireLine maxChars value fieldName = .ok ()) : requireText value other = .ok () := by
  unfold requireLine at h
  split at h
  · cases h
  · rename_i hblank
    split at h
    · cases h
    · rename_i hline
      have hzero : Text.hasChar value '\x00' = false := by
        simp only [Bool.or_eq_true, not_or, Bool.not_eq_true] at hline
        exact hline.1.1
      unfold requireText
      rw [hzero, Bool.or_false, if_neg hblank]

/-- What the checks of a record say of its id and version. -/
theorem check_id {r : ExecutionRow} (h : r.check = .ok ()) :
    requireText r.executionId "execution_id" = .ok () ∧ 1 ≤ r.version := by
  unfold ExecutionRow.check at h
  obtain ⟨_, hid, h⟩ := bind_eq_ok.mp h
  iterate 21 obtain ⟨_, -, h⟩ := bind_eq_ok.mp h
  obtain ⟨_, hversion, h⟩ := bind_eq_ok.mp h
  refine ⟨requireText_of_line hid, ?_⟩
  unfold requirePositiveInt at hversion
  split at hversion
  · cases hversion
  · omega

section Record

variable {s : ExecutionStore} {row : StoredRecord} {executionId : String}

theorem get_run (hrow : s.record? executionId = some row)
    (hcheck : row.toExecutionRow.check = .ok ()) :
    get executionId s = (.ok ⟨row.toExecutionRow, hcheck⟩, s) := by
  have hid : row.executionId = executionId := (ExecutionStore.record?_some hrow).2
  have harg : requireText executionId "execution_id" = .ok () := by
    rw [← hid]
    exact (check_id hcheck).1
  unfold get checkedTxn
  rw [harg]
  show atomically (loadRecord executionId) s = _
  unfold atomically
  rw [loadRecord_run hrow hcheck]

/-- `collect` is a read, and for the record it asks for the writes. -/
theorem collectChild_bind (call : RunCall) (executionId : String) (expectedVersion : Int) :
    ∃ body, collectChild call executionId expectedVersion = runStore (get executionId) >>= body ∧
      ∀ record : DurableExecutionRecord, record.executionId = executionId →
        record.version = expectedVersion →
          body record = collectWrites call executionId record.toExecutionRow := by
  refine ⟨_, rfl, ?_⟩
  intro record hid hversion
  rw [if_neg (not_not.mpr hversion)]
  unfold collectWrites collectPlan
  subst hid
  cases call.child with
  | raised fault => rfl
  | missing => rfl
  | invalid code => rfl
  | result childPid exitCode startedAt finishedAt =>
    dsimp only
    by_cases hpid : (record.pid.any (· ≠ childPid)) = true
    · simp only [if_pos hpid]
      rfl
    · simp only [if_neg hpid]
      rfl

theorem collectChild_step (call : RunCall) (hrow : s.record? executionId = some row)
    (hcheck : row.toExecutionRow.check = .ok ()) :
    (collectChild call executionId row.version).run.exec s =
        (collectWrites call executionId row.toExecutionRow).run.exec s ∧
      ∀ n, (collectChild call executionId row.version).run.cut (n + 1) s =
        (collectWrites call executionId row.toExecutionRow).run.cut n s := by
  obtain ⟨body, hbind, hbody⟩ := collectChild_bind call executionId row.version
  have hwrites : body ⟨row.toExecutionRow, hcheck⟩ =
      collectWrites call executionId row.toExecutionRow :=
    hbody _ (ExecutionStore.record?_some hrow).2 rfl
  rw [hbind, ← hwrites]
  exact ⟨exec_runStore_ok (get_run hrow hcheck), fun n => cut_runStore_ok n (get_run hrow hcheck)⟩

end Record

/-- The store takes the row as the next state of a record, with this evidence. -/
def Taken (evidenceRef : Option String) (next : ExecutionRow) : Prop :=
  requireOptionalText evidenceRef "evidence_ref" = .ok () ∧ Accepted next

instance (evidenceRef : Option String) (next : ExecutionRow) : Decidable (Taken evidenceRef next) :=
  inferInstanceAs (Decidable (_ ∧ _))

/-- The record that the changes leave when they are made in turn until one is refused, and
    whether none was. -/
def applyAll : List PlannedChange → StoredRecord → StoredRecord × Bool
  | [], row => (row, true)
  | w :: ws, row =>
    if Taken w.evidenceRef (w.change.apply row.toExecutionRow) then
      applyAll ws (row.changed w.change)
    else (row, false)

section Writes

variable {α : Type} {s : ExecutionStore} {row : StoredRecord} {executionId : String}

theorem updateExecution_taken {w : PlannedChange} {draw : String}
    (hrow : s.record? executionId = some row) (hcheck : row.toExecutionRow.check = .ok ())
    (hfresh : FreshDraw s draw) (htaken : Taken w.evidenceRef (w.change.apply row.toExecutionRow)) :
    updateExecution ⟨executionId, row.version, w.evidenceRef⟩ w.change draw s =
      (.ok ⟨w.change.apply row.toExecutionRow, htaken.2.checked⟩,
        s.written row w.change w.evidenceRef draw) := by
  have hid : row.executionId = executionId := (ExecutionStore.record?_some hrow).2
  refine updateExecution_accepted hrow hcheck ?_ rfl hfresh htaken.2
  obtain ⟨htext, hversion⟩ := check_id hcheck
  unfold UpdateArgs.check
  rw [← hid, htext, ok_bind]
  unfold requirePositiveInt
  rw [if_neg (by dsimp only; omega), ok_bind, htaken.1]

theorem updateExecution_untaken {w : PlannedChange} (draw : String)
    (hrow : s.record? executionId = some row)
    (huntaken : ¬ Taken w.evidenceRef (w.change.apply row.toExecutionRow)) :
    ∃ e, updateExecution ⟨executionId, row.version, w.evidenceRef⟩ w.change draw s =
      (.error e, s) := by
  by_cases hargs : UpdateArgs.check ⟨executionId, row.version, w.evidenceRef⟩ = .ok ()
  · refine updateExecution_refused hrow fun haccepted => huntaken ⟨?_, haccepted⟩
    obtain ⟨_, -, h⟩ := bind_eq_ok.mp hargs
    obtain ⟨_, -, h⟩ := bind_eq_ok.mp h
    exact h
  · unfold updateExecution checkedTxn
    cases hcheck : UpdateArgs.check ⟨executionId, row.version, w.evidenceRef⟩ with
    | error e => exact ⟨e, rfl⟩
    | ok u => exact absurd hcheck hargs

variable {ws : List PlannedWrite}

theorem written_first {w : PlannedWrite} (hrow : s.record? executionId = some row)
    (hfresh : ∀ v ∈ w :: ws, FreshDraw s v.draw) (hnew : w.draw ∉ ws.map PlannedWrite.draw)
    (htaken : Taken w.evidenceRef (w.change.apply row.toExecutionRow)) :
    (s.written row w.change w.evidenceRef w.draw).record? executionId =
        some (row.changed w.change) ∧
      (row.changed w.change).toExecutionRow.check = .ok () ∧
      (∀ v ∈ ws, FreshDraw (s.written row w.change w.evidenceRef w.draw) v.draw) ∧
      (w.change.apply row.toExecutionRow).version = (row.changed w.change).version := by
  have hid : row.executionId = executionId := (ExecutionStore.record?_some hrow).2
  subst hid
  refine ⟨written_record? hrow, ?_, fun v hv => ?_, ?_⟩
  · rw [changed_row]
    exact htaken.2.checked
  · exact (hfresh v (mem_cons_of_mem _ hv)).written fun heq =>
      hnew (heq ▸ mem_map_of_mem hv)
  · exact (congrArg ExecutionRow.version (changed_row row w.change)).symm

/-- What is written in turn is what the changes leave. -/
theorem exec_writeAll (answer : α) (hrow : s.record? executionId = some row)
    (hcheck : row.toExecutionRow.check = .ok ()) (hfresh : ∀ w ∈ ws, FreshDraw s w.draw)
    (hdistinct : (ws.map PlannedWrite.draw).Nodup) :
    let out := (writeAll executionId answer row.version ws).run.exec s
    let left := applyAll (ws.map PlannedWrite.toPlannedChange) row
    out.2.1.record? executionId = some left.1 ∧
      out.1.toOption = if left.2 then some answer else none := by
  induction ws generalizing s row with
  | nil => exact ⟨hrow, rfl⟩
  | cons w ws ih =>
    obtain ⟨hnew, hrest⟩ := nodup_cons.mp hdistinct
    intro out left
    by_cases htaken : Taken w.evidenceRef (w.change.apply row.toExecutionRow)
    · have hwrite := updateExecution_taken hrow hcheck (hfresh w mem_cons_self) htaken
      obtain ⟨hchanged, hchecked, hunused, hversion⟩ := written_first hrow hfresh hnew htaken
      have hnext := ih hchanged hchecked hunused hrest
      have hout : out = (writeAll executionId answer (row.changed w.change).version ws).run.exec
          (s.written row w.change w.evidenceRef w.draw) := hversion ▸ exec_runStore_ok hwrite
      have hleft : left = applyAll (ws.map PlannedWrite.toPlannedChange) (row.changed w.change) :=
        if_pos htaken
      rw [hout, hleft]
      exact hnext
    · obtain ⟨e, hwrite⟩ := updateExecution_untaken w.draw hrow htaken
      have hout : out = (.error (.store e), s, []) := exec_runStore_error hwrite
      have hleft : left = (row, false) := if_neg htaken
      rw [hout, hleft]
      exact ⟨hrow, rfl⟩

/-- When the writes are cut short, what they leave is what the first changes leave, and no id is
    used but theirs. -/
theorem cut_writeAll (answer : α) (n : Nat) (hrow : s.record? executionId = some row)
    (hcheck : row.toExecutionRow.check = .ok ()) (hfresh : ∀ w ∈ ws, FreshDraw s w.draw)
    (hdistinct : (ws.map PlannedWrite.draw).Nodup) :
    let store := (writeAll executionId answer row.version ws).run.cut n s
    store.record? executionId =
        some (applyAll ((ws.take n).map PlannedWrite.toPlannedChange) row).1 ∧
      ∀ draw, FreshDraw s draw → draw ∉ ws.map PlannedWrite.draw → FreshDraw store draw := by
  induction ws generalizing s row n with
  | nil =>
    intro store
    have hstore : store = s := cut_ret n _ s
    rw [hstore, take_nil]
    exact ⟨hrow, fun draw h _ => h⟩
  | cons w ws ih =>
    obtain ⟨hnew, hrest⟩ := nodup_cons.mp hdistinct
    intro store
    cases n with
    | zero =>
      have hstore : store = s := cut_zero _ s
      rw [hstore]
      exact ⟨hrow, fun draw h _ => h⟩
    | succ n =>
      by_cases htaken : Taken w.evidenceRef (w.change.apply row.toExecutionRow)
      · have hwrite := updateExecution_taken hrow hcheck (hfresh w mem_cons_self) htaken
        obtain ⟨hchanged, hchecked, hunused, hversion⟩ := written_first hrow hfresh hnew htaken
        have hnext := ih n hchanged hchecked hunused hrest
        have hstore : store = (writeAll executionId answer (row.changed w.change).version ws).run.cut
            n (s.written row w.change w.evidenceRef w.draw) := hversion ▸ cut_runStore_ok n hwrite
        have hleft : applyAll (((w :: ws).take (n + 1)).map PlannedWrite.toPlannedChange) row =
            applyAll ((ws.take n).map PlannedWrite.toPlannedChange) (row.changed w.change) :=
          if_pos htaken
        rw [hstore, hleft]
        refine ⟨hnext.1, fun draw hdraw hmem => ?_⟩
        obtain ⟨hne, hmem⟩ := ne_and_not_mem_of_not_mem_cons hmem
        exact hnext.2 draw (hdraw.written hne) hmem
      · obtain ⟨e, hwrite⟩ := updateExecution_untaken w.draw hrow htaken
        have hstore : store = s := cut_runStore_error n hwrite
        have hleft : applyAll (((w :: ws).take (n + 1)).map PlannedWrite.toPlannedChange) row =
            (row, false) := if_neg htaken
        rw [hstore, hleft]
        exact ⟨hrow, fun draw h _ => h⟩

end Writes

end AConductor.Execution

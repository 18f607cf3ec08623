import AConductor.Execution.Collection
import AConductor.Execution.SingleLaunch

/-!
# Executions: collecting again after a crash

A collection (`SupervisedExecutionService.collect`, `src/a_conductor/supervised_execution.py:654-727`)
that dies between two of its writes is made up for by another one: the changes of a plan touch
different columns, so that making the first of them twice changes nothing but the version.
-/

namespace AConductor.Execution

open Txn Proc List

/-- A record without its version counter. -/
def StoredRecord.core (row : StoredRecord) : StoredRecord := { row with version := 1 }

/-- The columns a change touches. -/
inductive ChangeKind where
  | transport
  | execution
  | process
  | result
  deriving DecidableEq, Repr

def ExecutionChange.kind : ExecutionChange → ChangeKind
  | .transport _ => .transport
  | .execution _ => .execution
  | .process _ _ => .process
  | .result _ _ => .result

theorem core_changed (row : StoredRecord) (change : ExecutionChange) :
    (row.core.changed change).core = (row.changed change).core := by
  cases change <;> rfl

/-- A change that was made changes nothing when it is made again. -/
theorem changed_again (row : StoredRecord) (change : ExecutionChange) :
    ((row.changed change).changed change).core = (row.changed change).core := by
  cases change <;> rfl

theorem changed_comm (row : StoredRecord) {c d : ExecutionChange} (h : c.kind ≠ d.kind) :
    ((row.changed c).changed d).core = ((row.changed d).changed c).core := by
  cases c with
  | transport state =>
    cases d with
    | transport state' => exact absurd rfl h
    | execution state' => rfl
    | process pid startedAt => rfl
    | result exitCode finishedAt => rfl
  | execution state =>
    cases d with
    | transport state' => rfl
    | execution state' => exact absurd rfl h
    | process pid startedAt => rfl
    | result exitCode finishedAt => rfl
  | process pid startedAt =>
    cases d with
    | transport state' => rfl
    | execution state' => rfl
    | process pid' startedAt' => exact absurd rfl h
    | result exitCode finishedAt => rfl
  | result exitCode finishedAt =>
    cases d with
    | transport state' => rfl
    | execution state' => rfl
    | process pid startedAt => rfl
    | result exitCode' finishedAt' => exact absurd rfl h

variable {row : StoredRecord} {ws : List PlannedChange} {w : PlannedChange}

/-- Whether a row is accepted does not depend on its version, as long as the column holds it. -/
theorem accepted_core (hlow : 1 ≤ row.version) (hhigh : row.version < 2 ^ 63) :
    Accepted row.core.toExecutionRow ↔ Accepted row.toExecutionRow := by
  have hone : requirePositiveInt (1 : Int) "version" = .ok () := rfl
  have hversion : requirePositiveInt row.version "version" = .ok () := if_neg (by omega)
  have hcheck : row.core.toExecutionRow.check = row.toExecutionRow.check := by
    unfold ExecutionRow.check StoredRecord.core
    dsimp only
    rw [hone, hversion]
  have hfits : row.core.toExecutionRow.fits = row.toExecutionRow.fits := by
    have hcolumn : fitsColumn row.version = true := by
      unfold fitsColumn
      simp only [Bool.and_eq_true, decide_eq_true_eq]
      omega
    have hcolumn1 : fitsColumn 1 = true := by decide
    unfold ExecutionRow.fits StoredRecord.core
    dsimp only
    rw [hcolumn, hcolumn1]
  constructor
  · intro h
    exact ⟨hcheck ▸ h.checked, hfits ▸ h.fits⟩
  · intro h
    exact ⟨hcheck.trans h.checked, hfits.trans h.fits⟩

/-- `applyAll` on records without versions. -/
def settle : List PlannedChange → StoredRecord → StoredRecord × Bool
  | [], row => (row, true)
  | w :: ws, row =>
    if Taken w.evidenceRef (row.changed w.change).core.toExecutionRow then
      settle ws (row.changed w.change).core
    else (row, false)

/-- The versions are not read by what the changes do. -/
theorem applyAll_core {ws : List PlannedChange} {row : StoredRecord} (hlow : 1 ≤ row.version)
    (hhigh : row.version + ws.length < 2 ^ 63) :
    ((applyAll ws row).1.core, (applyAll ws row).2) = settle ws row.core := by
  induction ws generalizing row with
  | nil => rfl
  | cons w ws ih =>
    have hversion : (row.changed w.change).version = row.version + 1 := by
      rw [changed_row, apply_version]
    rw [length_cons] at hhigh
    push_cast at hhigh
    have htaken : Taken w.evidenceRef (row.core.changed w.change).core.toExecutionRow ↔
        Taken w.evidenceRef (w.change.apply row.toExecutionRow) := by
      rw [core_changed, ← changed_row]
      exact and_congr_right fun _ => accepted_core (by omega) (by omega)
    unfold applyAll settle
    by_cases h : Taken w.evidenceRef (w.change.apply row.toExecutionRow)
    · rw [if_pos h, if_pos (htaken.mpr h), core_changed]
      exact ih (by omega) (by omega)
    · rw [if_neg h, if_neg (mt htaken.mp h)]

theorem applyAll_version_le (ws : List PlannedChange) (row : StoredRecord) :
    row.version ≤ (applyAll ws row).1.version := by
  induction ws generalizing row with
  | nil => exact le_refl _
  | cons w ws ih =>
    have hversion : (row.changed w.change).version = row.version + 1 := by
      rw [changed_row, apply_version]
    unfold applyAll
    by_cases h : Taken w.evidenceRef (w.change.apply row.toExecutionRow)
    · rw [if_pos h]
      have hle := ih (row.changed w.change)
      omega
    · rw [if_neg h]

theorem settle_cons_taken (h : Taken w.evidenceRef (row.changed w.change).core.toExecutionRow) :
    settle (w :: ws) row = settle ws (row.changed w.change).core := if_pos h

theorem settle_cons_untaken (h : ¬ Taken w.evidenceRef (row.changed w.change).core.toExecutionRow) :
    settle (w :: ws) row = (row, false) := if_neg h

/-- The change has been made: making it again would change the version only. -/
def Made (change : ExecutionChange) (row : StoredRecord) : Prop :=
  (row.changed change).core = row

theorem made_changed (row : StoredRecord) (change : ExecutionChange) :
    Made change (row.changed change).core := by
  unfold Made
  rw [core_changed, changed_again]

/-- Changes to other columns keep what has been made, and what they leave is acceptable. -/
theorem Made.settle {change : ExecutionChange} (h : Made change row)
    (haccepted : Accepted row.toExecutionRow) (hkinds : ∀ w ∈ ws, w.change.kind ≠ change.kind) :
    Made change (settle ws row).1 ∧ Accepted (settle ws row).1.toExecutionRow := by
  induction ws generalizing row with
  | nil => exact ⟨h, haccepted⟩
  | cons w ws ih =>
    by_cases htaken : Taken w.evidenceRef (row.changed w.change).core.toExecutionRow
    · rw [settle_cons_taken htaken]
      refine ih ?_ htaken.2 fun v hv => hkinds v (mem_cons_of_mem _ hv)
      have hcomm := changed_comm row (hkinds w mem_cons_self)
      have hmade : (row.changed change).core = row := h
      show ((row.changed w.change).core.changed change).core = _
      rw [core_changed, hcomm, ← core_changed (row.changed change), hmade]
    · rw [settle_cons_untaken htaken]
      exact ⟨h, haccepted⟩

/-- After the first of the changes, all of them leave what they leave at once. -/
theorem settle_again (n : Nat) (hkinds : ws.Pairwise fun v w => w.change.kind ≠ v.change.kind) :
    settle ws (settle (ws.take n) row).1 = settle ws row := by
  induction ws generalizing row n with
  | nil =>
    rw [take_nil]
    rfl
  | cons w ws ih =>
    obtain ⟨hfirst, hrest⟩ := pairwise_cons.mp hkinds
    cases n with
    | zero => rfl
    | succ n =>
      rw [take_succ_cons]
      by_cases htaken : Taken w.evidenceRef (row.changed w.change).core.toExecutionRow
      · have hkept := (made_changed row w.change).settle htaken.2
          fun v hv => hfirst v (mem_of_mem_take (i := n) hv)
        obtain ⟨hmade, haccepted⟩ := hkept
        have hcore : ((settle (ws.take n) (row.changed w.change).core).1.changed w.change).core =
            (settle (ws.take n) (row.changed w.change).core).1 := hmade
        rw [settle_cons_taken htaken, settle_cons_taken htaken]
        rw [settle_cons_taken (by rw [hcore]; exact ⟨htaken.1, haccepted⟩), hcore]
        exact ih n hrest
      · rw [settle_cons_untaken htaken, settle_cons_untaken htaken]

/-- The ids that the writes of a collection draw. -/
def RunCall.collectDraws (call : RunCall) : List String :=
  [call.draws.recovery, call.draws.collectProcess, call.draws.collectResult, call.draws.collectState]

/-- The changes of a plan, without the ids. -/
def collectChanges (call : RunCall) (row : ExecutionRow) : List PlannedChange :=
  (collectPlan call row).map PlannedWrite.toPlannedChange

theorem collectPlan_draws (call : RunCall) (row : ExecutionRow) :
    ((collectPlan call row).map PlannedWrite.draw).Sublist call.collectDraws := by
  unfold collectPlan RunCall.collectDraws
  cases call.child with
  | raised fault => exact nil_sublist _
  | missing => exact nil_sublist _
  | invalid code => simp
  | result childPid exitCode startedAt finishedAt =>
    dsimp only
    split
    · simp
    · simp

theorem collectPlan_length (call : RunCall) (row : ExecutionRow) :
    (collectPlan call row).length ≤ 3 := by
  unfold collectPlan
  cases call.child with
  | raised fault => exact Nat.zero_le 3
  | missing => exact Nat.zero_le 3
  | invalid code => exact Nat.le_add_left 1 2
  | result childPid exitCode startedAt finishedAt =>
    dsimp only
    split
    · exact Nat.le_add_left 1 2
    · exact Nat.le_refl 3

theorem collectChanges_kinds (call : RunCall) (row : ExecutionRow) :
    (collectChanges call row).Pairwise fun v w => w.change.kind ≠ v.change.kind := by
  unfold collectChanges collectPlan
  cases call.child with
  | raised fault => exact List.Pairwise.nil
  | missing => exact List.Pairwise.nil
  | invalid code => exact pairwise_singleton _ _
  | result childPid exitCode startedAt finishedAt =>
    dsimp only
    split
    · exact pairwise_singleton _ _
    · simp [ExecutionChange.kind]

theorem collectChanges_child {call again : RunCall} (hchild : again.child = call.child)
    (row : ExecutionRow) : collectChanges again row = collectChanges call row := by
  unfold collectChanges collectPlan
  rw [hchild]
  cases call.child with
  | raised fault => rfl
  | missing => rfl
  | invalid code => rfl
  | result childPid exitCode startedAt finishedAt =>
    dsimp only
    split
    · rfl
    · rfl

/-- A write of the plan leaves the plan as it was. -/
theorem collectChanges_step {call : RunCall} {row : ExecutionRow}
    (hmem : w ∈ collectChanges call row) :
    collectChanges call (w.change.apply row) = collectChanges call row := by
  unfold collectChanges collectPlan at *
  cases hchild : call.child with
  | raised fault => rfl
  | missing => rfl
  | invalid code =>
    rw [hchild] at hmem
    rw [map_singleton, mem_singleton] at hmem
    subst hmem
    rfl
  | result childPid exitCode startedAt finishedAt =>
    rw [hchild] at hmem
    dsimp only at hmem ⊢
    by_cases hpid : (row.pid.any (· ≠ childPid)) = true
    · rw [if_pos hpid, map_singleton, mem_singleton] at hmem
      subst hmem
      show _ = List.map _ (if row.pid.any (· ≠ childPid) = true then _ else _)
      rw [if_pos hpid]
      exact congrArg _ (if_pos hpid)
    · rw [if_neg hpid]
      rw [if_neg hpid] at hmem
      simp only [map_cons, map_nil, mem_cons, not_mem_nil, or_false] at hmem
      rcases hmem with rfl | rfl | rfl
      · refine congrArg _ (if_neg ?_)
        simp [ExecutionChange.apply]
      · exact congrArg _ (if_neg hpid)
      · exact congrArg _ (if_neg hpid)

theorem collectChanges_applyAll {call : RunCall}
    (hmem : ∀ w ∈ ws, w ∈ collectChanges call row.toExecutionRow) :
    collectChanges call (applyAll ws row).1.toExecutionRow =
      collectChanges call row.toExecutionRow := by
  induction ws generalizing row with
  | nil => rfl
  | cons w ws ih =>
    unfold applyAll
    by_cases h : Taken w.evidenceRef (w.change.apply row.toExecutionRow)
    · have hstep : collectChanges call (row.changed w.change).toExecutionRow =
          collectChanges call row.toExecutionRow := by
        rw [changed_row]
        exact collectChanges_step (hmem w mem_cons_self)
      rw [if_pos h, ih fun v hv => hstep ▸ hmem v (mem_cons_of_mem _ hv), hstep]
    · rw [if_neg h]

theorem applyAll_checked (h : row.toExecutionRow.check = .ok ()) :
    (applyAll ws row).1.toExecutionRow.check = .ok () := by
  induction ws generalizing row with
  | nil => exact h
  | cons w ws ih =>
    unfold applyAll
    by_cases htaken : Taken w.evidenceRef (w.change.apply row.toExecutionRow)
    · rw [if_pos htaken]
      refine ih ?_
      rw [changed_row]
      exact htaken.2.checked
    · rw [if_neg htaken]
      exact h

section Collect

variable {s : ExecutionStore} {row : StoredRecord} {executionId : String}

theorem get_unreadable (hrow : s.record? executionId = some row)
    (hcheck : row.toExecutionRow.check ≠ .ok ()) : ∃ e, get executionId s = (.error e, s) := by
  unfold get checkedTxn
  cases harg : requireText executionId "execution_id" with
  | error e => exact ⟨e, rfl⟩
  | ok u =>
    have hload : loadRecord executionId s =
        (.error (.storeError "EXECUTION_RECORD_INVALID"), s) := by
      unfold loadRecord
      rw [query_bind_run, hrow]
      dsimp only
      unfold DurableExecutionRecord.make
      split
      · rename_i hok
        exact absurd hok hcheck
      · rfl
    refine ⟨.storeError "EXECUTION_RECORD_INVALID", ?_⟩
    dsimp only
    unfold atomically
    rw [hload]

/-- A record that cannot be read is not collected. -/
theorem collectChild_unreadable (call : RunCall) (version : Int)
    (hrow : s.record? executionId = some row) (hcheck : row.toExecutionRow.check ≠ .ok ()) :
    ((collectChild call executionId version).run.exec s).2.1 = s ∧
      ∀ n, (collectChild call executionId version).run.cut n s = s := by
  obtain ⟨body, hbind, -⟩ := collectChild_bind call executionId version
  obtain ⟨e, hget⟩ := get_unreadable hrow hcheck
  rw [hbind]
  constructor
  · rw [exec_runStore_error hget]
  · intro n
    cases n with
    | zero => exact cut_zero _ s
    | succ n => exact cut_runStore_error n hget

theorem collectWrites_eq (call : RunCall) (executionId : String) (row : ExecutionRow) :
    collectWrites call executionId row =
        writeAll executionId (collectAnswer call.child) row.version (collectPlan call row) ∨
      ∃ fault, collectWrites call executionId row = throw fault ∧
        collectPlan call row = [] := by
  unfold collectWrites
  cases hchild : call.child with
  | raised fault => exact .inr ⟨fault, rfl, by unfold collectPlan; rw [hchild]⟩
  | missing => exact .inl rfl
  | invalid code => exact .inl rfl
  | result childPid exitCode startedAt finishedAt => exact .inl rfl

theorem collectChild_left (call : RunCall) (hrow : s.record? executionId = some row)
    (hcheck : row.toExecutionRow.check = .ok ()) (hdraws : call.collectDraws.Nodup)
    (hfresh : ∀ draw ∈ call.collectDraws, FreshDraw s draw) :
    ((collectChild call executionId row.version).run.exec s).2.1.record? executionId =
      some (applyAll (collectChanges call row.toExecutionRow) row).1 := by
  have hsub := collectPlan_draws call row.toExecutionRow
  rw [(collectChild_step call hrow hcheck).1]
  rcases collectWrites_eq call executionId row.toExecutionRow with heq | ⟨code, heq, hnil⟩
  · rw [heq]
    exact (exec_writeAll _ hrow hcheck
      (fun w hw => hfresh _ (hsub.subset (mem_map_of_mem hw))) (hsub.nodup hdraws)).1
  · unfold collectChanges
    rw [heq, hnil]
    exact hrow

theorem collectChild_cut (call : RunCall) (n : Nat) (hrow : s.record? executionId = some row)
    (hcheck : row.toExecutionRow.check = .ok ()) (hdraws : call.collectDraws.Nodup)
    (hfresh : ∀ draw ∈ call.collectDraws, FreshDraw s draw) :
    ∃ k, ((collectChild call executionId row.version).run.cut n s).record? executionId =
        some (applyAll ((collectChanges call row.toExecutionRow).take k) row).1 ∧
      ∀ draw, FreshDraw s draw → draw ∉ call.collectDraws →
        FreshDraw ((collectChild call executionId row.version).run.cut n s) draw := by
  have hsub := collectPlan_draws call row.toExecutionRow
  cases n with
  | zero =>
    rw [cut_zero]
    exact ⟨0, hrow, fun draw h _ => h⟩
  | succ n =>
    rw [(collectChild_step call hrow hcheck).2]
    rcases collectWrites_eq call executionId row.toExecutionRow with heq | ⟨code, heq, hnil⟩
    · have hcut := cut_writeAll (collectAnswer call.child) n hrow hcheck
        (fun w hw => hfresh _ (hsub.subset (mem_map_of_mem hw))) (hsub.nodup hdraws)
      rw [heq]
      refine ⟨n, ?_, fun draw hdraw hmem => hcut.2 draw hdraw fun hin => hmem (hsub.subset hin)⟩
      unfold collectChanges
      rw [← map_take]
      exact hcut.1
    · have hcut : (collectWrites call executionId row.toExecutionRow).run.cut n s = s := by
        rw [heq]
        exact cut_ret n _ s
      unfold collectChanges
      rw [hcut, hnil]
      exact ⟨0, hrow, fun draw h _ => h⟩

/-- A collection that dies after any number of its transactions, and another one of what it left,
    lead to the record that an uninterrupted collection leads to, but for the version, as long as
    the counter has room for the writes of the second. -/
theorem collect_again_after_crash (call again : RunCall) (n : Nat)
    (hrow : s.record? executionId = some row) (hchild : again.child = call.child)
    (hdraws : (call.collectDraws ++ again.collectDraws).Nodup)
    (hfresh : ∀ draw ∈ call.collectDraws ++ again.collectDraws, FreshDraw s draw)
    (hroom : ∀ found, ((collectChild call executionId row.version).run.cut n s).record? executionId =
      some found → found.version + (collectPlan again found.toExecutionRow).length < 2 ^ 63) :
    ∃ last found final,
      ((collectChild call executionId row.version).run.exec s).2.1.record? executionId = some last ∧
      ((collectChild call executionId row.version).run.cut n s).record? executionId = some found ∧
      ((collectChild again executionId found.version).run.exec
        ((collectChild call executionId row.version).run.cut n s)).2.1.record? executionId =
          some final ∧
      final.core = last.core := by
  by_cases hcheck : row.toExecutionRow.check = .ok ()
  · obtain ⟨hown, hsecond, hapart⟩ := nodup_append.mp hdraws
    have hlast := collectChild_left call hrow hcheck hown
      fun draw hdraw => hfresh draw (mem_append_left _ hdraw)
    obtain ⟨k, hfound, hkept⟩ := collectChild_cut call n hrow hcheck hown
      fun draw hdraw => hfresh draw (mem_append_left _ hdraw)
    generalize hchanges : collectChanges call row.toExecutionRow = ws at *
    have hchecked : (applyAll (ws.take k) row).1.toExecutionRow.check = .ok () :=
      applyAll_checked hcheck
    have hfinal := collectChild_left again hfound hchecked hsecond fun draw hdraw =>
      hkept draw (hfresh draw (mem_append_right _ hdraw))
        fun hin => hapart draw hin draw hdraw rfl
    have hagain : collectChanges again (applyAll (ws.take k) row).1.toExecutionRow = ws := by
      rw [collectChanges_child hchild, collectChanges_applyAll, hchanges]
      intro w hw
      rw [hchanges]
      exact mem_of_mem_take hw
    rw [hagain] at hfinal
    refine ⟨_, _, _, hlast, hfound, hfinal, ?_⟩
    have hlow : 1 ≤ row.version := (check_id hcheck).2
    have hhigh := hroom _ hfound
    have hlength : (collectPlan again (applyAll (ws.take k) row).1.toExecutionRow).length =
        ws.length := by
      rw [← length_map PlannedWrite.toPlannedChange]
      exact congrArg List.length hagain
    rw [hlength] at hhigh
    have hshort : (ws.take k).length ≤ ws.length := length_take_le' k ws
    have hle := applyAll_version_le (ws.take k) row
    -- Without the versions, the changes that were made change nothing when they are made again.
    have hlastCore := congrArg Prod.fst (@applyAll_core ws row hlow (by omega))
    have hfoundCore := congrArg Prod.fst (@applyAll_core (ws.take k) row hlow (by omega))
    have hfinalCore := congrArg Prod.fst
      (@applyAll_core ws (applyAll (ws.take k) row).1 (by omega) hhigh)
    have hkinds := collectChanges_kinds call row.toExecutionRow
    rw [hchanges] at hkinds
    calc (applyAll ws (applyAll (ws.take k) row).1).1.core
        = (settle ws (applyAll (ws.take k) row).1.core).1 := hfinalCore
      _ = (settle ws (settle (ws.take k) row.core).1).1 := by rw [← hfoundCore]
      _ = (settle ws row.core).1 := by rw [settle_again k hkinds]
      _ = (applyAll ws row).1.core := hlastCore.symm
  · obtain ⟨hexec, hcut⟩ := collectChild_unreadable call row.version hrow hcheck
    obtain ⟨hagain, -⟩ := collectChild_unreadable again row.version hrow hcheck
    refine ⟨row, row, row, ?_, ?_, ?_, rfl⟩
    · rw [hexec]
      exact hrow
    · rw [hcut]
      exact hrow
    · rw [hcut, hagain]
      exact hrow

end Collect

/-- A call that finds the result of a finished process. -/
def finishedCall (executionId : String) : RunCall :=
  { repairCall executionId with child := .result 7 0 none "2026-01-01T00:00:00Z" }

/-- A running execution, the only one of the store. -/
def runningRow (version : Int) : StoredRecord :=
  { freshRow (repairCall "exec-1") oneDigest with
    executionState := .running, version, createdAt := 0 }

def runningAt (version : Int) : ExecutionStore :=
  { ExecutionStore.empty with records := [runningRow version] }

/-- What a collection that dies behind its first write leaves. -/
def diedAt (version : Int) : ExecutionStore :=
  (collectChild (finishedCall "exec-1") "exec-1" version).run.cut 2 (runningAt version)

theorem collect_again_after_first_write :
    ∃ last found final,
      ((collectChild (finishedCall "exec-1") "exec-1" (runningRow 4).version).run.exec
        (runningAt 4)).2.1.record? "exec-1" = some last ∧
      ((collectChild (finishedCall "exec-1") "exec-1" (runningRow 4).version).run.cut 2
        (runningAt 4)).record? "exec-1" = some found ∧
      ((collectChild (finishedCall "exec-2") "exec-1" found.version).run.exec
        ((collectChild (finishedCall "exec-1") "exec-1" (runningRow 4).version).run.cut 2
          (runningAt 4))).2.1.record? "exec-1" = some final ∧
      final.core = last.core := by
  have hrow : (runningAt 4).record? "exec-1" = some (runningRow 4) := by decide +kernel
  have hspelled : ∀ draw ∈
      (finishedCall "exec-1").collectDraws ++ (finishedCall "exec-2").collectDraws,
      draw.toList.all (· = ' ') = false := by
    decide +kernel
  have hversion : ((diedAt 4).record? "exec-1").map (fun r => r.version) = some 5 := by
    decide +kernel
  refine collect_again_after_crash (finishedCall "exec-1") (finishedCall "exec-2") 2 hrow rfl
    (by decide +kernel) (fun draw hdraw => ⟨hspelled draw hdraw, fun e he => nomatch he⟩) ?_
  intro found hfound
  have hplan := collectPlan_length (finishedCall "exec-2") found.toExecutionRow
  have hfound' : (diedAt 4).record? "exec-1" = some found := hfound
  rw [hfound'] at hversion
  have hfive : found.version = 5 := Option.some_inj.mp hversion
  omega

/-- When the version is four below the bound of its column, the uninterrupted collection can make
    its three writes, and the second one runs out of versions before its last. -/
theorem collect_again_of_a_full_counter :
    ((collectChild (finishedCall "exec-1") "exec-1" (2 ^ 63 - 4)).run.exec
        (runningAt (2 ^ 63 - 4))).2.1.records.map (fun r => (r.executionState, r.version)) =
      [(.verificationRequired, 2 ^ 63 - 1)] ∧
    (diedAt (2 ^ 63 - 4)).records.map (fun r => (r.executionState, r.version)) =
      [(.running, 2 ^ 63 - 3)] ∧
    ((collectChild (finishedCall "exec-2") "exec-1" (2 ^ 63 - 3)).run.exec
        (diedAt (2 ^ 63 - 4))).2.1.records.map (fun r => (r.executionState, r.version)) =
      [(.running, 2 ^ 63 - 1)] := by
  decide +kernel

end AConductor.Execution

import AConductor.Execution.Reconciliation

/-!
# Executions: what a reconciliation leaves

A reconciliation (`src/a_conductor/recovery_reconciliation.py:305-465`) restores the transport and
then makes the changes that the inspection and the result call for, whatever state the record is in.
-/

namespace AConductor.Execution

open Proc

section Parts

variable {α : Type} {s s' : ExecutionStore}

theorem exec_checked (r : Except RecoveryFault α) (s : ExecutionStore) :
    (checked r).run.exec s = (r, s, []) := rfl

theorem exec_answering {β : Type} (k : Except RecoveryFault α → Except RecoveryFault β)
    (p : RecoveryProc α) (s : ExecutionStore) :
    (answering k p).run.exec s =
      (k (p.run.exec s).1, (p.run.exec s).2.1, (p.run.exec s).2.2) := by
  refine (exec_bind p.run _ s).trans ?_
  simp [exec]

theorem exec_serve (p : RunProc α) (s : ExecutionStore) :
    (serve p).run.exec s =
      ((p.run.exec s).1.mapError .run, (p.run.exec s).2.1, (p.run.exec s).2.2) := by
  refine (exec_bind p.run _ s).trans ?_
  simp [exec]

theorem exec_runStore (tx : ExecutionStore → Except StoreFault α × ExecutionStore)
    (s : ExecutionStore) :
    (runStore tx).run.exec s = ((tx s).1.mapError RunFault.store, (tx s).2, []) := rfl

variable {tx : ExecutionStore → Except StoreFault α × ExecutionStore}

theorem exec_serve_store {a : α} (h : tx s = (.ok a, s')) :
    (serve (runStore tx)).run.exec s = (.ok a, s', []) := by
  rw [exec_serve, exec_runStore, h]
  rfl

theorem exec_raising_ok {a : α} (f : RecoveryFault → RecoveryFault) (h : tx s = (.ok a, s')) :
    (raising f (runStore tx)).run.exec s = (.ok a, s', []) := by
  unfold raising
  rw [exec_answering, exec_serve_store h]
  rfl

theorem exec_raising_error {e : StoreFault} (f : RecoveryFault → RecoveryFault)
    (h : tx s = (.error e, s')) :
    (raising f (runStore tx)).run.exec s = (.error (f (.run (.store e))), s', []) := by
  unfold raising
  rw [exec_answering, exec_serve, exec_runStore, h]
  rfl

theorem through_outcome (o : RecoveryReconciliationOutcome) : (outcome o).run.Through Eq := by
  unfold outcome
  split
  · trivial
  · split
    · trivial
    · trivial

theorem through_stateOutcome (record : DurableExecutionRecord) (changed : Bool)
    (set : DurableExecutionRecord → RecoveryReconciliationOutcome)
    (current : Option DurableExecutionRecord) :
    (stateOutcome record changed set current).run.Through Eq := by
  cases current with
  | none => exact through_outcome _
  | some current => exact through_outcome _

end Parts

/-- The coordinator's view of a collection. -/
def SupervisedCollectOutcome.answer (o : SupervisedCollectOutcome) : Except String Int :=
  match o.exitCode with
  | some exitCode => .ok exitCode
  | none => .error (o.errorCode.getD "")

theorem runStore_bind_assoc {α β γ : Type}
    (tx : ExecutionStore → Except StoreFault α × ExecutionStore) (f : α → RunProc β)
    (g : β → RunProc γ) : runStore tx >>= f >>= g = runStore tx >>= fun a => f a >>= g := by
  refine congrArg (fun k => ExceptT.mk (atomic _ _ k)) (funext fun r => ?_)
  cases r with
  | error e => rfl
  | ok a => rfl

/-- The coordinator collects as the service does, and keeps the answer only. -/
theorem collectChild_eq (call : RunCall) (executionId : String) (expectedVersion : Int) :
    collectChild call executionId expectedVersion =
      collect call.child call.draws executionId expectedVersion >>= fun o => pure o.answer := by
  unfold collectChild collect
  rw [runStore_bind_assoc]
  congr
  funext record
  split
  · rfl
  · cases call.child with
    | raised fault => rfl
    | missing => rfl
    | invalid code =>
      unfold markRecovery
      dsimp only
      rw [runStore_bind_assoc]
      rfl
    | result childPid exitCode startedAt finishedAt =>
      unfold markRecovery
      dsimp only
      split
      · rw [runStore_bind_assoc]
        rfl
      · simp only [runStore_bind_assoc]
        rfl

variable {o : SupervisedCollectOutcome}

/-- A collection that came to something reports it: only a result that is not there leads on. -/
theorem collect_reports {child : ChildResult} {draws : RunDraws} {executionId : String}
    {expectedVersion : Int} {s s' : ExecutionStore} {notes : List RunNote}
    (hchild : child ≠ .missing)
    (h : (collect child draws executionId expectedVersion).run.exec s = (.ok o, s', notes)) :
    o.recoveryRequired = true ∨ o.exitCode.isSome = true := by
  unfold collect at h
  obtain ⟨record, s₁, _, _, -, h⟩ := exec_bind_eq_ok h
  split at h
  · cases h
  · cases child with
    | raised fault => cases h
    | missing => exact absurd rfl hchild
    | invalid code =>
      obtain ⟨recovered, _, _, _, -, h⟩ := exec_bind_eq_ok h
      cases h
      exact .inl rfl
    | result childPid exitCode startedAt finishedAt =>
      dsimp only at h
      split at h
      · obtain ⟨recovered, _, _, _, -, h⟩ := exec_bind_eq_ok h
        cases h
        exact .inl rfl
      · obtain ⟨withProcess, _, _, _, -, h⟩ := exec_bind_eq_ok h
        obtain ⟨withResult, _, _, _, -, h⟩ := exec_bind_eq_ok h
        obtain ⟨final, _, _, _, -, h⟩ := exec_bind_eq_ok h
        cases h
        exact .inr rfl

section Collect

variable {s : ExecutionStore} {row : StoredRecord} {executionId : String}

theorem collect_missing (draws : RunDraws) (hrow : s.record? executionId = some row)
    (hcheck : row.toExecutionRow.check = .ok ()) :
    (collect .missing draws executionId row.version).run.exec s =
      (.ok { record := ⟨row.toExecutionRow, hcheck⟩, exitCode := none, recoveryRequired := false
             errorCode := some "RESULT_NOT_AVAILABLE" }, s, []) := by
  unfold collect
  rw [exec_runStore_ok (get_run hrow hcheck)]
  simp
  rfl

theorem collect_left (call : RunCall) (hrow : s.record? executionId = some row)
    (hcheck : row.toExecutionRow.check = .ok ()) (hdraws : call.collectDraws.Nodup)
    (hfresh : ∀ draw ∈ call.collectDraws, FreshDraw s draw) :
    ((collect call.child call.draws executionId row.version).run.exec s).2.1.record? executionId =
      some (applyAll (collectChanges call row.toExecutionRow) row).1 := by
  have hreads : ∀ o : SupervisedCollectOutcome,
      (pure o.answer : RunProc (Except String Int)).run.Through Eq := fun _ => trivial
  have hleft := collectChild_left call hrow hcheck hdraws hfresh
  rw [collectChild_eq, exec_bind_reads hreads] at hleft
  exact hleft

end Collect

/-- The change that gives a record the state, when it has another one. -/
def stateChange (target : ExecutionProcessState) (row : ExecutionRow) : List PlannedChange :=
  if row.executionState = target then [] else [⟨.execution target, none⟩]

/-- The changes that the result of an execution calls for. -/
def collectionChanges (child : ChildResult) (row : ExecutionRow) : List PlannedChange :=
  match child with
  | .raised _ => []
  | .missing => stateChange .recoveryRequired row
  | .invalid code => [⟨.execution .recoveryRequired, recoveryEvidence row code⟩]
  | .result childPid exitCode startedAt finishedAt =>
    if row.pid.any (· ≠ childPid) then
      [⟨.execution .recoveryRequired, recoveryEvidence row "RESULT_PID_MISMATCH"⟩]
    else
      [⟨.process childPid startedAt, row.resultRef⟩, ⟨.result exitCode finishedAt, row.resultRef⟩,
        ⟨.execution (exitState exitCode), row.resultRef⟩]

/-- The changes after an inspection. -/
def inspectionChanges (child : ChildResult) (state : SupervisedInspectionState)
    (row : ExecutionRow) : List PlannedChange :=
  match state with
  | .supervisorRunning => stateChange .processStillRunning row
  | .starting => []
  | .resultAvailable => collectionChanges child row
  | .supervisorExitedResultMissing | .recoveryRequired => stateChange .recoveryRequired row

/-- The state that the changes after an inspection end with. -/
def inspectionTarget (child : ChildResult) (state : SupervisedInspectionState)
    (row : ExecutionRow) : Option ExecutionProcessState :=
  match state with
  | .supervisorRunning => some .processStillRunning
  | .starting => none
  | .resultAvailable =>
    match child with
    | .raised _ => none
    | .missing | .invalid _ => some .recoveryRequired
    | .result childPid exitCode _ _ =>
      if row.pid.any (· ≠ childPid) then some .recoveryRequired else some (exitState exitCode)
  | .supervisorExitedResultMissing | .recoveryRequired => some .recoveryRequired

theorem applyAll_stateChange (target : ExecutionProcessState) (row : StoredRecord) :
    (applyAll (stateChange target row.toExecutionRow) row).1.executionState = row.executionState ↔
      ∀ t, some target = some t →
        AllTaken (stateChange target row.toExecutionRow) row.toExecutionRow →
          t = row.executionState := by
  unfold stateChange
  by_cases h : row.executionState = target
  · rw [if_pos h]
    exact ⟨fun _ t ht _ => (Option.some_inj.mp ht).symm.trans h.symm, fun _ => rfl⟩
  · rw [if_neg h]
    refine (@applyAll_state [] target none row (by simp)).trans ?_
    simp

/-- The changes after an inspection leave the state of the record as it is, unless they end with
    another one and the store takes them all. -/
theorem applyAll_inspectionChanges (child : ChildResult) (state : SupervisedInspectionState)
    (row : StoredRecord) :
    (applyAll (inspectionChanges child state row.toExecutionRow) row).1.executionState =
        row.executionState ↔
      ∀ target, inspectionTarget child state row.toExecutionRow = some target →
        AllTaken (inspectionChanges child state row.toExecutionRow) row.toExecutionRow →
          target = row.executionState := by
  cases state with
  | supervisorRunning => exact applyAll_stateChange .processStillRunning row
  | starting => exact ⟨fun _ target h => (nomatch h), fun _ => rfl⟩
  | supervisorExitedResultMissing => exact applyAll_stateChange .recoveryRequired row
  | recoveryRequired => exact applyAll_stateChange .recoveryRequired row
  | resultAvailable =>
    unfold inspectionChanges inspectionTarget collectionChanges
    cases child with
    | raised fault => exact ⟨fun _ target h => (nomatch h), fun _ => rfl⟩
    | missing => exact applyAll_stateChange .recoveryRequired row
    | invalid code =>
      refine (@applyAll_state [] .recoveryRequired _ row (by simp)).trans ?_
      simp
    | result childPid exitCode startedAt finishedAt =>
      dsimp only
      by_cases hpid : (row.pid.any (· ≠ childPid)) = true
      · rw [if_pos hpid, if_pos hpid]
        refine (@applyAll_state [] .recoveryRequired _ row (by simp)).trans ?_
        simp
      · rw [if_neg hpid, if_neg hpid]
        refine (@applyAll_state [⟨.process childPid startedAt, row.resultRef⟩,
          ⟨.result exitCode finishedAt, row.resultRef⟩] (exitState exitCode) row.resultRef row
          ?_).trans ?_
        · simp [ExecutionChange.apply]
        · simp

section After

variable {s : ExecutionStore} {row : StoredRecord} {executionId : String}

theorem trySetState_left {state : ExecutionProcessState} {draw : String}
    (hrow : s.record? executionId = some row) (hcheck : row.toExecutionRow.check = .ok ())
    (hfresh : FreshDraw s draw) :
    ((trySetState ⟨row.toExecutionRow, hcheck⟩ state draw).run.exec s).2.1.record? executionId =
      some (applyAll (stateChange state row.toExecutionRow) row).1 := by
  have hid : row.executionId = executionId := (ExecutionStore.record?_some hrow).2
  subst hid
  unfold trySetState stateChange
  by_cases h : row.executionState = state
  · rw [if_pos h, if_pos h]
    exact hrow
  · rw [if_neg h, if_neg h]
    rw [exec_answering, exec_serve, exec_runStore]
    by_cases htaken : Taken none ((ExecutionChange.execution state).apply row.toExecutionRow)
    · have hwrite := @updateExecution_taken s row row.executionId ⟨.execution state, none⟩ draw hrow
        hcheck hfresh htaken
      rw [applyAll_taken htaken]
      unfold setExecutionState
      rw [hwrite]
      exact written_record? hrow
    · obtain ⟨e, hwrite⟩ := @updateExecution_untaken s row row.executionId
        ⟨.execution state, none⟩ draw hrow htaken
      rw [applyAll_untaken htaken]
      unfold setExecutionState
      rw [hwrite]
      exact hrow

/-- What the changes of a collection are in the plan of the service. -/
theorem collectionChanges_eq {call : RunCall} (row : ExecutionRow) (hchild : call.child ≠ .missing) :
    collectChanges call row = collectionChanges call.child row := by
  unfold collectChanges collectPlan collectionChanges
  cases hcase : call.child with
  | raised fault => rfl
  | missing => exact absurd hcase hchild
  | invalid code => rfl
  | result childPid exitCode startedAt finishedAt =>
    dsimp only
    split
    · rfl
    · rfl

variable {call : RecoveryCall}

theorem markRecoveryRequired_left (reasonCode : String) (changed : Bool)
    (hrow : s.record? executionId = some row) (hcheck : row.toExecutionRow.check = .ok ())
    (hfresh : FreshDraw s call.stateDraw) :
    ((markRecoveryRequired call ⟨row.toExecutionRow, hcheck⟩ reasonCode changed).run.exec
        s).2.1.record? executionId =
      some (applyAll (stateChange .recoveryRequired row.toExecutionRow) row).1 := by
  unfold markRecoveryRequired
  rw [exec_bind_reads (through_stateOutcome _ _ _)]
  exact trySetState_left hrow hcheck hfresh

/-- The event ids that a reconciliation draws after it restored the transport. -/
def RecoveryCall.laterDraws (call : RecoveryCall) : List String :=
  [call.stateDraw, call.draws.recovery, call.draws.collectProcess, call.draws.collectResult,
    call.draws.collectState]

/-- What follows a collection that found a result leaves the store as it is. -/
theorem through_afterCollection (dirty : Option Bool)
    (changed : Bool) (h : o.recoveryRequired = true ∨ o.exitCode.isSome = true) :
    (afterCollection call dirty changed o).run.Through Eq := by
  unfold afterCollection
  by_cases hrecovery : o.recoveryRequired = true
  · rw [if_pos hrecovery]
    exact through_outcome _
  · rw [if_neg hrecovery]
    cases hexit : o.exitCode with
    | none =>
      rw [hexit] at h
      exact absurd h (by simpa using hrecovery)
    | some exitCode => exact through_outcome _

theorem collected_left (dirty : Option Bool) (changed : Bool)
    (hrow : s.record? call.executionId = some row) (hcheck : row.toExecutionRow.check = .ok ())
    (hdraws : call.laterDraws.Nodup) (hfresh : ∀ draw ∈ call.laterDraws, FreshDraw s draw) :
    ((serve (collect call.child call.draws call.executionId row.version) >>=
        afterCollection call dirty changed).run.exec s).2.1.record? call.executionId =
      some (applyAll (collectionChanges call.child row.toExecutionRow) row).1 := by
  by_cases hchild : call.child = .missing
  · rw [hchild]
    have hserve := exec_serve (collect .missing call.draws call.executionId row.version) s
    rw [collect_missing call.draws hrow hcheck] at hserve
    rw [exec_bind_quiet hserve]
    exact markRecoveryRequired_left _ changed hrow hcheck (hfresh _ List.mem_cons_self)
  · rw [exec_bind_reads_of]
    · obtain ⟨run, hrun, hids⟩ : ∃ run : RunCall, run.child = call.child ∧ run.draws = call.draws :=
        ⟨{ repairCall call.executionId with child := call.child, draws := call.draws }, rfl, rfl⟩
      have hlater : call.laterDraws = call.stateDraw :: run.collectDraws := by
        unfold RunCall.collectDraws
        rw [hids]
        rfl
      rw [hlater] at hdraws hfresh
      rw [exec_serve, ← hrun, ← hids, collect_left run hrow hcheck hdraws.of_cons
        (fun draw hdraw => hfresh draw (List.mem_cons_of_mem _ hdraw)),
        collectionChanges_eq _ (hrun ▸ hchild)]
    · intro o s' notes ho
      refine through_afterCollection dirty changed ?_
      rw [exec_serve] at ho
      rcases hcollect : (collect call.child call.draws call.executionId row.version).run.exec s with
        ⟨e | o', s₁, notes'⟩
      · rw [hcollect] at ho
        cases ho
      · rw [hcollect] at ho
        cases ho
        exact collect_reports hchild hcollect

theorem afterInspection_left (dirty : Option Bool) (changed : Bool)
    (inspection : SupervisedInspection) (hrow : s.record? call.executionId = some row)
    (hcheck : row.toExecutionRow.check = .ok ()) (hdraws : call.laterDraws.Nodup)
    (hfresh : ∀ draw ∈ call.laterDraws, FreshDraw s draw) :
    ((afterInspection call dirty ⟨row.toExecutionRow, hcheck⟩ changed inspection).run.exec
        s).2.1.record? call.executionId =
      some (applyAll (inspectionChanges call.child inspection.state row.toExecutionRow) row).1 := by
  have hstate : FreshDraw s call.stateDraw := hfresh _ List.mem_cons_self
  unfold afterInspection
  cases inspection.state with
  | supervisorRunning =>
    dsimp only
    rw [exec_bind_reads (through_stateOutcome _ _ _)]
    exact trySetState_left hrow hcheck hstate
  | starting =>
    dsimp only
    rw [(through_outcome _).exec_eq]
    exact hrow
  | resultAvailable => exact collected_left dirty changed hrow hcheck hdraws hfresh
  | supervisorExitedResultMissing => exact markRecoveryRequired_left _ changed hrow hcheck hstate
  | recoveryRequired => exact markRecoveryRequired_left _ changed hrow hcheck hstate

/-- The repository is that of the record and its paths resolve: the execution is inspected. -/
structure Inspected (call : RecoveryCall) (row : ExecutionRow) : Prop where
  repository : ∃ repository, call.repository = .ok repository ∧
    identityError call.samePath repository row = none
  paths : call.inspection.pathsError = none

/-- The changes of a reconciliation once the transport is restored. -/
def reconcileChanges (call : RecoveryCall) (row : ExecutionRow) : List PlannedChange :=
  inspectionChanges call.child (inspected call.inspection row.executionState).state row

theorem exec_inspect (a : InspectionAnswers) (hrow : s.record? executionId = some row)
    (hcheck : row.toExecutionRow.check = .ok ()) :
    (serve (inspect executionId a)).run.exec s =
      (match a.pathsError with
        | some code => .error (.run (.supervised code))
        | none => .ok (inspected a row.executionState), s, []) := by
  unfold inspect
  rw [exec_serve, exec_runStore_ok (get_run hrow hcheck)]
  cases a.pathsError with
  | some code => rfl
  | none => rfl

theorem resume_left (changed : Bool) (hrow : s.record? call.executionId = some row)
    (hcheck : row.toExecutionRow.check = .ok ()) (hdraws : call.laterDraws.Nodup)
    (hfresh : ∀ draw ∈ call.laterDraws, FreshDraw s draw) :
    (Inspected call row.toExecutionRow →
      ((resume call ⟨row.toExecutionRow, hcheck⟩ changed).run.exec s).2.1.record?
          call.executionId = some (applyAll (reconcileChanges call row.toExecutionRow) row).1) ∧
    (¬ Inspected call row.toExecutionRow →
      ((resume call ⟨row.toExecutionRow, hcheck⟩ changed).run.exec s).2.1.record?
          call.executionId = some row) := by
  have hinspect := exec_inspect call.inspection hrow hcheck
  unfold resume
  cases hrepository : call.repository with
  | error text =>
    refine ⟨fun h => ?_, fun _ => hrow⟩
    obtain ⟨repository, hok, -⟩ := h.repository
    rw [hrepository] at hok
    cases hok
  | ok repository =>
    dsimp only
    cases hidentity : identityError call.samePath repository row.toExecutionRow with
    | some code =>
      refine ⟨fun h => ?_, fun _ => ?_⟩
      · obtain ⟨other, hok, hnone⟩ := h.repository
        rw [hrepository] at hok
        cases hok
        rw [hidentity] at hnone
        cases hnone
      · dsimp only
        rw [(through_outcome _).exec_eq]
        exact hrow
    | none =>
      dsimp only
      cases hpaths : call.inspection.pathsError with
      | some code =>
        rw [hpaths] at hinspect
        refine ⟨fun h => absurd h.paths (by simp [hpaths]), fun _ => ?_⟩
        rw [exec_bind_error hinspect]
        exact hrow
      | none =>
        rw [hpaths] at hinspect
        refine ⟨fun _ => ?_, fun h => absurd ⟨⟨repository, hrepository, hidentity⟩, hpaths⟩ h⟩
        rw [exec_bind_quiet hinspect]
        exact afterInspection_left _ changed _ hrow hcheck hdraws hfresh

end After

/-- The record once its transport is restored. -/
def StoredRecord.connected (row : StoredRecord) : StoredRecord :=
  if row.transportState = .connected then row else row.changed (.transport .connected)

/-- The transport is restored: the evidence is well formed, the job belongs to the worker of the
    record, the version is the expected one, and the store takes the change where there is one. -/
structure Connects (call : RecoveryCall) (row : ExecutionRow) : Prop where
  evidence : validateEvidence call.transportEvidenceRef = .ok ()
  owner : checkOwner call.job row = .ok ()
  version : row.version = call.expectedVersion
  taken : row.transportState ≠ .connected →
    Taken call.transportEvidenceRef ((ExecutionChange.transport .connected).apply row)

@[simp] theorem connected_state (row : StoredRecord) :
    row.connected.executionState = row.executionState := by
  unfold StoredRecord.connected
  split
  · rfl
  · rfl

section Connect

variable {s : ExecutionStore} {row : StoredRecord} {call : RecoveryCall}

/-- `mark_connected` restores the transport, or raises and leaves the store as it is. -/
theorem markConnected_exec (hrow : s.record? call.executionId = some row)
    (hcheck : row.toExecutionRow.check = .ok ()) (hfresh : FreshDraw s call.transportDraw) :
    (Connects call row.toExecutionRow ∧
      ∃ (hchecked : row.connected.toExecutionRow.check = .ok ()) (changed : Bool)
        (s' : ExecutionStore),
        (markConnected call).run.exec s =
          (.ok (⟨row.connected.toExecutionRow, hchecked⟩, changed), s', []) ∧
        s'.record? call.executionId = some row.connected ∧
        ∀ draw, FreshDraw s draw → draw ≠ call.transportDraw → FreshDraw s' draw) ∨
    (¬ Connects call row.toExecutionRow ∧
      ∃ e, (markConnected call).run.exec s = (.error e, s, [])) := by
  unfold markConnected
  cases hevidence : validateEvidence call.transportEvidenceRef with
  | error e =>
    refine .inr ⟨fun h => ?_, e, exec_bind_error (exec_checked _ s)⟩
    rw [h.evidence] at hevidence
    cases hevidence
  | ok u =>
    rw [exec_bind_quiet (exec_checked _ s),
      exec_bind_quiet (exec_raising_ok loadFault (get_run hrow hcheck))]
    cases howner : checkOwner call.job row.toExecutionRow with
    | error e =>
      refine .inr ⟨fun h => ?_, e, exec_bind_error (exec_checked _ s)⟩
      rw [h.owner] at howner
      cases howner
    | ok u =>
      rw [exec_bind_quiet (exec_checked _ s)]
      dsimp only
      by_cases hversion : row.version = call.expectedVersion
      · rw [if_neg (not_not.mpr hversion)]
        by_cases hconnected : row.transportState = .connected
        · have hsame : row.connected = row := if_pos hconnected
          rw [if_pos hconnected, hsame]
          exact .inl ⟨⟨hevidence, howner, hversion, fun h => absurd hconnected h⟩,
            hcheck, false, s, rfl, hrow, fun draw h _ => h⟩
        · have hnew : row.connected = row.changed (.transport .connected) := if_neg hconnected
          rw [if_neg hconnected, hnew]
          unfold setTransportState
          rw [← hversion]
          by_cases htaken : Taken call.transportEvidenceRef
              ((ExecutionChange.transport .connected).apply row.toExecutionRow)
          · have hwrite := @updateExecution_taken s row call.executionId
              ⟨.transport .connected, call.transportEvidenceRef⟩ call.transportDraw hrow hcheck
              hfresh htaken
            have hid : row.executionId = call.executionId := (ExecutionStore.record?_some hrow).2
            refine .inl ⟨⟨hevidence, howner, hversion, fun _ => htaken⟩, htaken.2.checked, true, _,
              exec_bind_quiet (exec_raising_ok transportFault hwrite), ?_,
              fun draw h hne => h.written hne⟩
            rw [← hid] at hrow ⊢
            exact written_record? hrow
          · obtain ⟨e, hwrite⟩ := @updateExecution_untaken s row call.executionId
              ⟨.transport .connected, call.transportEvidenceRef⟩ call.transportDraw hrow htaken
            exact .inr ⟨fun h => htaken (h.taken hconnected), _,
              exec_bind_error (exec_raising_error transportFault hwrite)⟩
      · rw [if_pos hversion]
        exact .inr ⟨fun h => hversion h.version, _, rfl⟩

/-- What a reconciliation leaves of a record: the restored transport, and the changes that the
    inspection calls for. -/
theorem reconcile_left (hrow : s.record? call.executionId = some row)
    (hcheck : row.toExecutionRow.check = .ok ())
    (hdraws : (call.transportDraw :: call.laterDraws).Nodup)
    (hfresh : ∀ draw ∈ call.transportDraw :: call.laterDraws, FreshDraw s draw) :
    (Connects call row.toExecutionRow → Inspected call row.connected.toExecutionRow →
      ((reconcile call).run.exec s).2.1.record? call.executionId =
        some (applyAll (reconcileChanges call row.connected.toExecutionRow) row.connected).1) ∧
    (¬ (Connects call row.toExecutionRow ∧ Inspected call row.connected.toExecutionRow) →
      (((reconcile call).run.exec s).2.1.record? call.executionId).map
        (fun r => r.executionState) = some row.executionState) := by
  obtain ⟨hid, hlow⟩ := check_id hcheck
  have hstored : row.executionId = call.executionId := (ExecutionStore.record?_some hrow).2
  have hkept : (s.record? call.executionId).map (fun r => r.executionState) =
      some row.executionState := by
    rw [hrow]
    rfl
  unfold reconcile
  have hblank : Text.isBlank call.executionId ≠ true := by
    intro h
    unfold requireText at hid
    rw [hstored, h, Bool.true_or, if_pos rfl] at hid
    cases hid
  rw [if_neg hblank]
  by_cases hexpected : call.expectedVersion < 1
  · rw [if_pos hexpected]
    refine ⟨fun h => ?_, fun _ => hkept⟩
    have hversion := h.version
    omega
  · rw [if_neg hexpected, exec_bind_quiet (exec_raising_ok baseFault (get_run hrow hcheck))]
    obtain ⟨hnew, hlater⟩ := List.nodup_cons.mp hdraws
    rcases markConnected_exec hrow hcheck (hfresh _ List.mem_cons_self) with
      ⟨hconnects, hchecked, changed, s', hexec, hrow', hfresh'⟩ | ⟨hnot, e, hexec⟩
    · have hanswer : (answering connectAnswer (markConnected call)).run.exec s =
          (.ok (.ok (⟨row.connected.toExecutionRow, hchecked⟩, changed)), s', []) := by
        rw [exec_answering, hexec]
        rfl
      have hresume := resume_left changed hrow' hchecked hlater fun draw hdraw =>
        hfresh' draw (hfresh draw (List.mem_cons_of_mem _ hdraw)) fun heq => hnew (heq ▸ hdraw)
      rw [exec_bind_quiet hanswer]
      dsimp only [afterConnect]
      refine ⟨fun _ hinspected => hresume.1 hinspected, fun hnot => ?_⟩
      rw [hresume.2 fun h => hnot ⟨hconnects, h⟩, Option.map_some, connected_state]
    · refine ⟨fun h => absurd h hnot, fun _ => ?_⟩
      rw [exec_bind_reads_of, exec_answering, hexec]
      · exact hkept
      · intro r s' notes hr
        rw [exec_answering, hexec] at hr
        cases e with
        | transport code =>
          cases hr
          exact through_outcome _
        | valueError text => cases hr
        | runtimeError code => cases hr
        | jobStore code => cases hr
        | observer text => cases hr
        | run fault => cases hr

end Connect

/-- The states of an execution that is over. -/
def isFinished (state : ExecutionProcessState) : Prop :=
  state = .succeeded ∨ state = .failed ∨ state = .cancelled

instance (state : ExecutionProcessState) : Decidable (isFinished state) :=
  inferInstanceAs (Decidable (_ ∨ _))

/-- The changes of a reconciliation stop before they reach another state: the record cannot be
    read, the transport is not restored, the execution is not inspected, or what is found sets no
    state, or a failure is found again, or the store refuses one of the writes. -/
def KeepsFinished (call : RecoveryCall) (row : StoredRecord) : Prop :=
  row.toExecutionRow.check = .ok () → Connects call row.toExecutionRow →
    Inspected call row.connected.toExecutionRow →
    ∀ target, inspectionTarget call.child (inspected call.inspection row.executionState).state
        row.connected.toExecutionRow = some target →
      AllTaken (reconcileChanges call row.connected.toExecutionRow)
          row.connected.toExecutionRow →
        target = .failed ∧ row.executionState = .failed

/-- Of the states that an inspection leads to, a finished execution can only be in that of a
    failure. -/
theorem inspectionTarget_finished {child : ChildResult} {found : SupervisedInspectionState}
    {row : ExecutionRow} {target state : ExecutionProcessState} (hfinished : isFinished state)
    (h : inspectionTarget child found row = some target) :
    target = state ↔ target = .failed ∧ state = .failed := by
  have hreached : target = .processStillRunning ∨ target = .recoveryRequired ∨
      target = .verificationRequired ∨ target = .failed := by
    unfold inspectionTarget at h
    cases found with
    | supervisorRunning => simp_all
    | starting => simp_all
    | supervisorExitedResultMissing => simp_all
    | recoveryRequired => simp_all
    | resultAvailable =>
      cases child with
      | raised fault => simp_all
      | missing => simp_all
      | invalid code => simp_all
      | result childPid exitCode startedAt finishedAt =>
        dsimp only [exitState] at h
        split at h
        · simp_all
        · split at h
          · simp_all
          · simp_all
  unfold isFinished at hfinished
  rcases hreached with rfl | rfl | rfl | rfl
  · rcases hfinished with rfl | rfl | rfl <;> simp
  · rcases hfinished with rfl | rfl | rfl <;> simp
  · rcases hfinished with rfl | rfl | rfl <;> simp
  · simp [eq_comm]

/-- A reconciliation keeps the state of a finished execution exactly when it is stopped before its
    changes, or they lead to the same state. -/
theorem reconcile_keeps_finished_iff {s : ExecutionStore} {row : StoredRecord}
    {call : RecoveryCall} (hrow : s.record? call.executionId = some row)
    (hfinished : isFinished row.executionState)
    (hdraws : (call.transportDraw :: call.laterDraws).Nodup)
    (hfresh : ∀ draw ∈ call.transportDraw :: call.laterDraws, FreshDraw s draw) :
    (((reconcile call).run.exec s).2.1.record? call.executionId).map (fun r => r.executionState) =
        some row.executionState ↔ KeepsFinished call row := by
  unfold KeepsFinished
  by_cases hcheck : row.toExecutionRow.check = .ok ()
  · obtain ⟨hreached, hstopped⟩ := reconcile_left hrow hcheck hdraws hfresh
    by_cases h : Connects call row.toExecutionRow ∧ Inspected call row.connected.toExecutionRow
    · rw [hreached h.1 h.2, Option.map_some, Option.some_inj]
      have hkept := applyAll_inspectionChanges call.child
        (inspected call.inspection row.executionState).state row.connected
      rw [connected_state] at hkept
      unfold reconcileChanges
      rw [connected_state]
      refine hkept.trans ⟨fun hsame _ _ _ target htarget htaken => ?_,
        fun hsame target htarget htaken => ?_⟩
      · exact (inspectionTarget_finished hfinished htarget).mp (hsame target htarget htaken)
      · exact (inspectionTarget_finished hfinished htarget).mpr
          (hsame hcheck h.1 h.2 target htarget htaken)
    · refine ⟨fun _ _ hconnects hinspected => absurd ⟨hconnects, hinspected⟩ h,
        fun _ => hstopped h⟩
  · refine ⟨fun _ h => absurd h hcheck, fun _ => ?_⟩
    obtain ⟨e, hget⟩ := get_unreadable hrow hcheck
    have hstore : ((reconcile call).run.exec s).2.1 = s := by
      unfold reconcile
      split
      · rfl
      · split
        · rfl
        · rw [exec_bind_error (exec_raising_error baseFault hget)]
    rw [hstore, hrow]
    rfl

/-- A reconciliation of the verified execution after its run directory was cleared. -/
def clearedCall : RecoveryCall where
  executionId := "exec-1"
  expectedVersion := 7
  transportEvidenceRef := none
  job := .found "project-1" (some "worker-1")
  repository := .ok { repoRoot := "/repo", branch := some "main", head := some "head"
                      dirty := some false }
  samePath := fun a b => a = b
  inspection := { pathsError := none, resultExists := false, metadata := .absent
                  resultAppeared := false, ownership := .absent }
  child := .missing
  transportDraw := "exec-2/0"
  stateDraw := "exec-2/9"
  draws := (repairCall "exec-2").draws

theorem reconcile_keeps_finished_iff_cleared :
    (((reconcile clearedCall).run.exec verifiedStore).2.1.record? clearedCall.executionId).map
        (fun r => r.executionState) = some verifiedRow.executionState ↔
      KeepsFinished clearedCall verifiedRow := by
  have hspelled : ∀ draw ∈ clearedCall.transportDraw :: clearedCall.laterDraws,
      draw.toList.all (· = ' ') = false := by
    decide +kernel
  exact reconcile_keeps_finished_iff (by decide +kernel) (by decide) (by decide +kernel)
    fun draw hdraw => ⟨hspelled draw hdraw, fun e he => nomatch he⟩

/-- A verified execution has to be recovered once it is reconciled. -/
theorem reconcile_demotes_verified :
    verifiedStore.records.map (fun r => (r.executionId, r.executionState)) =
      [("exec-1", .succeeded)] ∧
    ((reconcile clearedCall).run.exec verifiedStore).2.1.records.map
        (fun r => (r.executionId, r.executionState)) = [("exec-1", .recoveryRequired)] ∧
    ((reconcile clearedCall).run.exec verifiedStore).1.map (fun o => (o.decision, o.reasonCode)) =
      .ok (.recoveryRequired, "SUPERVISOR_PID_ABSENT") := by
  decide +kernel

end AConductor.Execution

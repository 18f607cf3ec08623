import AConductor.Job.EventSourcing

/-!
# Jobs: worked states and the attempt count

`src/a_conductor/job_state.py:43-123`. An attempt is counted when a job enters
`EXECUTING`. The states after it can also be entered from `RECOVERY_NEEDED`, whose
target follows the recorded classification alone, and `RECOVERY_NEEDED` can be entered
from `GATING`, where nothing has executed.
-/

namespace AConductor.Job

/-- The states that stand for work done on the job. -/
def worked (s : TaskState) : Bool :=
  s ∈ [.verifying, .reviewPending, .changesRequired, .repairing, .complete]

/-- A transition that leaves `GATING` for recovery with a classification whose target is
    a worked state. -/
def JobEvent.recoveredAtGate (e : JobEvent) : Bool :=
  e.eventType = .transition && e.fromState = some .gating && e.toState = some .recoveryNeeded &&
    e.recoveryClassification ∈ [some .mutationCompleteUnverified, some .completeVerified]

variable {classification : Option RecoveryClassification}

/-- A planned transition is a recovery to the target of the recorded classification, or
    an edge of the table; only an edge into `RECOVERY_NEEDED` records a
    classification. -/
theorem planJobTransition_edge {r : JobRow} {target : TaskState} {workerId : Option String}
    {plan : JobTransitionPlan} (h : planJobTransition r target workerId classification = .ok plan) :
    (∃ c, r.state = .recoveryNeeded ∧ r.recoveryClassification = some c ∧
        target = recoveryTarget c ∧ plan.recoveryClassification = none) ∨
      (r.state ≠ .recoveryNeeded ∧ target ∈ allowedTransitions r.state ∧
        plan.recoveryClassification = if target = .recoveryNeeded then classification else none) := by
  unfold planJobTransition at h
  simp only [Except.bind_eq_ok] at h
  obtain ⟨_, _, _, _, owner, howner, attempts, _, hplan⟩ := h
  cases hplan
  unfold planOwner at howner
  by_cases hrecovery : r.state = .recoveryNeeded
  · left
    rw [if_pos hrecovery] at howner
    unfold planRecovery at howner
    cases hc : r.recoveryClassification with
    | none =>
      rw [hc] at howner
      cases howner
    | some c =>
      rw [hc] at howner
      dsimp only at howner
      by_cases htarget : target = recoveryTarget c
      · rw [if_neg (not_not.mpr htarget)] at howner
        split at howner
        · cases howner
        · cases howner
          exact ⟨c, hrecovery, rfl, htarget, rfl⟩
      · rw [if_pos htarget] at howner
        cases howner
  · right
    rw [if_neg hrecovery] at howner
    unfold planOrdinary at howner
    by_cases hallowed : target ∈ allowedTransitions r.state
    · rw [if_neg (not_not.mpr hallowed)] at howner
      simp only [Except.bind_eq_ok] at howner
      obtain ⟨worker, -, recovery, hclass, hout⟩ := howner
      cases hout
      refine ⟨hrecovery, hallowed, ?_⟩
      unfold planClassification at hclass
      by_cases ht : target = .recoveryNeeded
      · rw [if_pos ht] at hclass ⊢
        split at hclass
        · cases hclass
        · cases hclass
          rfl
      · rw [if_neg ht] at hclass ⊢
        split at hclass
        · cases hclass
        · cases hclass
          rfl
    · rw [if_pos hallowed] at howner
      cases howner

/-- A worked state is entered from `EXECUTING` or from another worked state. -/
theorem worked_of_edge {s target : TaskState} (hedge : target ∈ allowedTransitions s)
    (h : worked target = true) : s = .executing ∨ worked s = true := by
  revert hedge h
  cases s <;> cases target <;> decide

/-- Recovery is entered from `GATING`, from `EXECUTING` or from a worked state. -/
theorem recovery_of_edge {s : TaskState} (hedge : .recoveryNeeded ∈ allowedTransitions s) :
    s = .gating ∨ s = .executing ∨ worked s = true := by
  revert hedge
  cases s <;> decide

/-- The states in which the record vouches for an attempt: those that follow one, and
    `RECOVERY_NEEDED` when it leads back to a worked state. -/
def JobRow.vouches (r : JobRow) : Prop :=
  r.state = .executing ∨ worked r.state = true ∨
    r.state = .recoveryNeeded ∧
      ∃ c, r.recoveryClassification = some c ∧ worked (recoveryTarget c) = true

/-- A record that vouches for an attempt has one, or its log recovered it at the gate. -/
def Attempted (r : JobRow) (events : List JobEvent) : Prop :=
  r.vouches → 1 ≤ r.attemptCount ∨ ∃ e ∈ events, e.recoveredAtGate = true

theorem Attempted.transitioned {r : JobRow} {events : List JobEvent} (h : Attempted r events)
    (hlog : Logged r events) {target : TaskState} {workerId : Option String}
    {plan : JobTransitionPlan}
    (hplan : planJobTransition r target workerId classification = .ok plan)
    (evidenceRef : Option String) (eventId : String) (sequenceNo : Int) :
    Attempted (r.transitioned plan)
      (events ++ [(transitionEntry r plan evidenceRef).event eventId sequenceNo]) := by
  obtain ⟨htarget, hattempts, -⟩ := planJobTransition_ok hplan
  have hnonneg : 0 ≤ r.attemptCount := by
    rw [hlog.attempts]
    omega
  have hgrows : r.attemptCount ≤ (r.transitioned plan).attemptCount := by
    show r.attemptCount ≤ plan.attemptCount
    rw [hattempts]
    split <;> omega
  -- whatever the old record vouched for still stands
  have carried (hv : r.vouches) :
      1 ≤ (r.transitioned plan).attemptCount ∨
        ∃ e ∈ events ++ [(transitionEntry r plan evidenceRef).event eventId sequenceNo],
          e.recoveredAtGate = true := by
    rcases h hv with hone | ⟨e, he, hgate⟩
    · exact .inl (hone.trans hgrows)
    · exact .inr ⟨e, List.mem_append_left _ he, hgate⟩
  intro hv
  have hstate : (r.transitioned plan).state = target := htarget
  rcases planJobTransition_edge hplan with ⟨c, hrecovery, hc, hto, -⟩ | ⟨-, hedge, hclass⟩
  · apply carried
    right; right
    refine ⟨hrecovery, c, hc, ?_⟩
    rcases hv with hexec | hworked | ⟨hneeded, -⟩
    · exfalso
      rw [hstate, hto] at hexec
      revert hexec
      cases c <;> decide
    · rwa [hstate, hto] at hworked
    · exfalso
      rw [hstate, hto] at hneeded
      revert hneeded
      cases c <;> decide
  · rcases hv with hexec | hworked | ⟨hneeded, k, hk, hkworked⟩
    · -- the attempt is counted here
      left
      rw [hstate] at hexec
      show 1 ≤ plan.attemptCount
      rw [hattempts, if_pos hexec]
      omega
    · rw [hstate] at hworked
      apply carried
      rcases worked_of_edge hedge hworked with he | hw
      · exact .inl he
      · exact .inr (.inl hw)
    · rw [hstate] at hneeded
      subst hneeded
      rcases recovery_of_edge hedge with hgating | he | hw
      · right
        refine ⟨_, List.mem_append_right _ (List.mem_singleton.mpr rfl), ?_⟩
        have hk' : plan.recoveryClassification = some k := hk
        revert hkworked
        simp only [JobEvent.recoveredAtGate, JobEntry.event, transitionEntry, htarget, hgating, hk']
        cases k <;> decide
      · exact carried (.inl he)
      · exact carried (.inr (.inl hw))

/-- How a record and its log come to be in the store after a write: as they were, or by
    the write. -/
inductive RecordStep (s s' : JobStore) (r' : JobRow) : Prop where
  | kept (h : r' ∈ s.records) (hevents : s'.eventsOf r'.jobId = s.eventsOf r'.jobId)
  | created (h : r'.state = .new)
  | transitioned {r : JobRow} {target : TaskState} {workerId evidenceRef : Option String}
      {classification : Option RecoveryClassification} {plan : JobTransitionPlan}
      {eventId : String} {sequenceNo : Int} (h : r ∈ s.records)
      (hplan : planJobTransition r target workerId classification = .ok plan)
      (hrow : r' = r.transitioned plan)
      (hevents : s'.eventsOf r'.jobId =
        s.eventsOf r.jobId ++ [(transitionEntry r plan evidenceRef).event eventId sequenceNo])
  | checkpointed {r : JobRow} {event : JobEvent} (h : r ∈ s.records) (hrow : r' = r.checkpointed)
      (hevents : s'.eventsOf r'.jobId = s.eventsOf r.jobId ++ [event])

/-- The records of a store in which one was replaced. -/
theorem mem_replaced_log {s : JobStore} {old new r' : JobRow} {event : JobEvent}
    (hold : old ∈ s.records) (hid : new.jobId = old.jobId) (hevent : event.jobId = old.jobId)
    (hr : r' ∈ (s.replaced new event).records) :
    (r' = new ∧ (s.replaced new event).eventsOf r'.jobId = s.eventsOf old.jobId ++ [event]) ∨
      (r' ∈ s.records ∧ (s.replaced new event).eventsOf r'.jobId = s.eventsOf r'.jobId) := by
  have happended : (s.replaced new event).events = s.events ++ [event] := rfl
  have hevents := eventsOf_append happended
  rcases (mem_records_replaced hold hid).mp hr with rfl | ⟨hr', hne⟩
  · left
    refine ⟨rfl, ?_⟩
    rw [hevents, if_pos (hevent.trans hid.symm), hid]
  · right
    refine ⟨hr', ?_⟩
    rw [hevents, if_neg]
    intro heq
    exact hne (heq.symm.trans (hevent.trans hid.symm))

theorem JobWrite.recordStep {s s' : JobStore} {job : JobRuntimeState} (hw : JobWrite s job s')
    {r' : JobRow} (hr : r' ∈ s'.records) : RecordStep s s' r' := by
  cases hw with
  | created hnew hc =>
    obtain ⟨hfresh, eventId, rfl⟩ := hc
    rcases List.mem_append.mp hr with hr' | hr'
    · refine .kept hr' ?_
      rw [eventsOf_append (s := s) rfl, if_neg]
      intro heq
      exact hfresh r' hr' heq.symm
    · rw [List.mem_singleton] at hr'
      subst hr'
      exact .created (newJobState_row hnew).1
  | transitioned ht =>
    obtain ⟨old, hold, plan, eventId, -, -, hplan, -, rfl⟩ := ht
    have hid : (old.transitioned plan).jobId = old.jobId := rfl
    rcases mem_replaced_log hold hid hid hr with ⟨hrow, hevents⟩ | ⟨hr', hevents⟩
    · exact .transitioned hold hplan hrow hevents
    · exact .kept hr' hevents
  | checkpointed hc =>
    obtain ⟨old, hold, eventId, -, -, -, -, rfl⟩ := hc
    have hid : old.checkpointed.jobId = old.jobId := rfl
    rcases mem_replaced_log hold hid hid hr with ⟨hrow, hevents⟩ | ⟨hr', hevents⟩
    · exact .checkpointed hold hrow hevents
    · exact .kept hr' hevents

theorem RecordStep.attempted {s s' : JobStore} {r' : JobRow} (hstep : RecordStep s s' r')
    (hlogged : JobsLogged s) (h : ∀ r ∈ s.records, Attempted r (s.eventsOf r.jobId)) :
    Attempted r' (s'.eventsOf r'.jobId) := by
  cases hstep with
  | kept hr hevents =>
    rw [hevents]
    exact h r' hr
  | created hstate =>
    intro hv
    simp [JobRow.vouches, hstate, worked] at hv
  | transitioned hr hplan hrow hevents =>
    rw [hevents, hrow]
    exact (h _ hr).transitioned (hlogged.logged _ hr) hplan _ _ _
  | @checkpointed r event hr hrow hevents =>
    rw [hevents, hrow]
    intro hv
    rcases h r hr hv with hone | ⟨e, he, hgate⟩
    · exact .inl hone
    · exact .inr ⟨e, List.mem_append_left _ he, hgate⟩

theorem reachable_attempted {s : JobStore} (h : Machine.Reachable jobStep JobStore.empty s) :
    JobsLogged s ∧ ∀ r ∈ s.records, Attempted r (s.eventsOf r.jobId) := by
  apply h.induction (P := fun s => JobsLogged s ∧ ∀ r ∈ s.records, Attempted r (s.eventsOf r.jobId))
  · refine ⟨jobsLogged_empty, ?_⟩
    intro r hr
    cases hr
  · intro s call ⟨hlogged, hattempted⟩
    refine ⟨(jobStep_grows hlogged call).1, ?_⟩
    intro r' hr
    rcases hout : jobStep s call with ⟨answer, s'⟩
    rw [hout] at hr
    cases answer with
    | error e =>
      have hsame : s' = s := jobStep_error hout
      subst hsame
      exact hattempted r' hr
    | ok job => exact ((jobStep_ok hlogged.keyed hout).recordStep hr).attempted hlogged hattempted

/-- Over every run of the store, by any interleaving of writers: a job in `VERIFYING`,
    `REVIEW_PENDING`, `CHANGES_REQUIRED`, `REPAIRING` or `COMPLETE` has an attempt,
    unless nothing of it has executed and its log left `GATING` for recovery with a
    classification that leads to `VERIFYING` or `REVIEW_PENDING`. -/
theorem worked_job_attempted (calls : List JobCall) :
    ∀ r ∈ (Machine.run jobStep JobStore.empty calls).2.records, worked r.state = true →
      1 ≤ r.attemptCount ∨
        r.attemptCount = 0 ∧
          ∃ e ∈ (Machine.run jobStep JobStore.empty calls).2.eventsOf r.jobId,
            e.recoveredAtGate = true := by
  intro r hr hworked
  obtain ⟨hlogged, hattempted⟩ := reachable_attempted ⟨calls, rfl⟩
  rcases hattempted r hr (.inr (.inl hworked)) with hone | hgate
  · exact .inl hone
  · have hcount := (hlogged.logged r hr).attempts
    by_cases hone : 1 ≤ r.attemptCount
    · exact .inl hone
    · exact .inr ⟨by omega, hgate⟩

/-- The calls that move job `j` along a path, one version at a time. -/
def moves (version : Nat) : List (TaskState × Option RecoveryClassification) → List JobCall
  | [] => []
  | (target, classification) :: path =>
    .transition
      { jobId := "j", targetState := target, expectedVersion := version
        workerId := if target = .claimed then some "w" else none
        recoveryClassification := classification }
      (some ("e" ++ toString version)) :: moves (version + 1) path

/-- The job `j` after one execution. -/
def verifiedJob : JobRow where
  jobId := "j"
  workOrderRef := "wo"
  projectId := "p"
  state := .verifying
  workerId := some "w"
  attemptCount := 1
  maxAttempts := 3
  recoveryClassification := none
  version := 6

theorem worked_job_attempted_executed :
    let calls := .createJob "j" "wo" "p" 3 (some "e0") ::
      moves 1 [(.ready, none), (.claimed, none), (.gating, none), (.executing, none),
        (.verifying, none)]
    1 ≤ verifiedJob.attemptCount ∨
      verifiedJob.attemptCount = 0 ∧
        ∃ e ∈ (Machine.run jobStep JobStore.empty calls).2.eventsOf verifiedJob.jobId,
          e.recoveredAtGate = true :=
  worked_job_attempted _ verifiedJob (by decide +kernel) (by decide)

/-- A job is gated, recovered as complete but unverified, and verified, with no attempt. -/
theorem verifying_unattempted :
    ∃ r ∈ (Machine.run jobStep JobStore.empty (.createJob "j" "wo" "p" 3 (some "e0") ::
        moves 1 [(.ready, none), (.claimed, none), (.gating, none),
          (.recoveryNeeded, some .mutationCompleteUnverified), (.verifying, none)])).2.records,
      r.state = .verifying ∧ r.attemptCount = 0 := by
  decide +kernel

end AConductor.Job

import AConductor.Job.Attempts

/-!
# Jobs: the worker that holds a job

`src/a_conductor/job_state.py:43-123, 192-260`. The table does not mention workers: a
claim sets one, a releasing state clears it, and every other transition and every
checkpoint keeps it. The states with a worker are read off the runs of the store.
-/

namespace AConductor.Job

open List

/-- The states between the claim of a job and its release. -/
def holdsClaim (s : TaskState) : Bool :=
  s ∈ [.claimed, .gating, .executing, .verifying, .reviewPending, .changesRequired, .repairing,
    .recoveryNeeded]

/-- The record names a worker exactly in the states that hold a claim. -/
def JobRow.Owned (r : JobRow) : Prop := r.workerId.isSome = true ↔ holdsClaim r.state = true

variable {classification : Option RecoveryClassification} {workerId : Option String}
  {plan : JobTransitionPlan}

variable {target : TaskState} {r : JobRow} {s : JobStore}

/-- Only a free job is claimed, by the worker that is named; any other transition keeps
    the worker or releases it. -/
theorem planJobTransition_worker
    (h : planJobTransition r target workerId classification = .ok plan) :
    (target = .claimed ∧ r.state = .ready ∧ plan.workerId.isSome = true) ∨
      (target ≠ .claimed ∧
        plan.workerId = if releasesClaim target then none else r.workerId) := by
  have hedge := planJobTransition_edge h
  unfold planJobTransition at h
  simp only [Except.bind_eq_ok] at h
  obtain ⟨_, _, _, _, owner, howner, _, _, hplan⟩ := h
  cases hplan
  dsimp only
  unfold planOwner at howner
  rcases hedge with ⟨c, hrecovery, hc, hto, -⟩ | ⟨hrecovery, hallowed, -⟩
  · right
    rw [if_pos hrecovery] at howner
    unfold planRecovery at howner
    rw [hc] at howner
    dsimp only at howner
    rw [if_neg (not_not.mpr hto)] at howner
    split at howner
    · cases howner
    · cases howner
      refine ⟨?_, rfl⟩
      rw [hto]
      cases c <;> decide
  · rw [if_neg hrecovery] at howner
    unfold planOrdinary at howner
    rw [if_neg (not_not.mpr hallowed)] at howner
    simp only [Except.bind_eq_ok] at howner
    obtain ⟨worker, hworker, _, _, hout⟩ := howner
    cases hout
    unfold planWorker at hworker
    by_cases hclaim : target = .claimed
    · left
      subst hclaim
      rw [if_pos rfl] at hworker
      refine ⟨rfl, ?_, ?_⟩
      · revert hallowed
        cases r.state <;> decide
      · cases workerId with
        | none => cases hworker
        | some w =>
          cases hworker
          rfl
    · right
      rw [if_neg hclaim] at hworker
      split at hworker
      · cases hworker
      · cases hworker
        exact ⟨hclaim, rfl⟩

/-- Away from a claim, an edge that does not release stays on its side. -/
theorem holdsClaim_of_edge {s target : TaskState} (hedge : target ∈ allowedTransitions s)
    (hclaim : target ≠ .claimed) (hkeeps : releasesClaim target = false) :
    holdsClaim target = holdsClaim s := by
  revert hedge hclaim hkeeps
  cases s <;> cases target <;> decide

theorem holdsClaim_of_releases {s : TaskState} (h : releasesClaim s = true) :
    holdsClaim s = false := by
  revert h
  cases s <;> decide

theorem holdsClaim_recoveryTarget {c : RecoveryClassification}
    (h : releasesClaim (recoveryTarget c) = false) : holdsClaim (recoveryTarget c) = true := by
  revert h
  cases c <;> decide

theorem JobRow.Owned.transitioned (h : r.Owned)
    (hplan : planJobTransition r target workerId classification = .ok plan) :
    (r.transitioned plan).Owned := by
  have hstate : plan.targetState = target := (planJobTransition_ok hplan).1
  show plan.workerId.isSome = true ↔ holdsClaim plan.targetState = true
  rw [hstate]
  rcases planJobTransition_worker hplan with ⟨rfl, -, hworker⟩ | ⟨hclaim, hworker⟩
  · exact ⟨fun _ => rfl, fun _ => hworker⟩
  · rw [hworker]
    cases hreleases : releasesClaim target with
    | true => simp [holdsClaim_of_releases hreleases]
    | false =>
      rw [if_neg Bool.false_ne_true]
      refine h.trans ?_
      rcases planJobTransition_edge hplan with ⟨c, hrecovery, -, hto, -⟩ | ⟨-, hedge, -⟩
      · rw [hto] at hreleases ⊢
        rw [hrecovery, holdsClaim_recoveryTarget hreleases]
        exact ⟨fun _ => rfl, fun _ => rfl⟩
      · rw [holdsClaim_of_edge hedge hclaim hreleases]

/-- A record that holds a claim is left with the same worker, or with none. -/
theorem JobRow.Owned.transitioned_worker (h : r.Owned) (hset : r.workerId.isSome = true)
    (hplan : planJobTransition r target workerId classification = .ok plan) :
    (r.transitioned plan).workerId = r.workerId ∨ (r.transitioned plan).workerId = none := by
  show plan.workerId = r.workerId ∨ plan.workerId = none
  rcases planJobTransition_worker hplan with ⟨-, hready, -⟩ | ⟨-, hworker⟩
  · exfalso
    have hheld := h.mp hset
    rw [hready] at hheld
    cases hheld
  · rw [hworker]
    split
    · exact .inr rfl
    · exact .inl rfl

theorem JobWrite.owned {s s' : JobStore} {job : JobRuntimeState} (hw : JobWrite s job s')
    (h : ∀ r ∈ s.records, r.Owned) : ∀ r ∈ s'.records, r.Owned := by
  intro r hr
  cases hw with
  | created hnew hc =>
    obtain ⟨-, eventId, rfl⟩ := hc
    rcases mem_append.mp hr with hr' | hr'
    · exact h r hr'
    · rw [mem_singleton] at hr'
      subst hr'
      obtain ⟨hstate, hworker, -⟩ := newJobState_row hnew
      unfold JobRow.Owned
      rw [hstate, hworker]
      decide
  | transitioned ht =>
    obtain ⟨old, hold, plan, eventId, -, -, hplan, -, rfl⟩ := ht
    have hid : (old.transitioned plan).jobId = old.jobId := rfl
    rcases (mem_records_replaced hold hid).mp hr with rfl | ⟨hr', -⟩
    · exact (h old hold).transitioned hplan
    · exact h r hr'
  | checkpointed hc =>
    obtain ⟨old, hold, eventId, -, -, -, -, rfl⟩ := hc
    have hid : old.checkpointed.jobId = old.jobId := rfl
    rcases (mem_records_replaced hold hid).mp hr with rfl | ⟨hr', -⟩
    · exact h old hold
    · exact h r hr'

/-- Every record of the store keeps its job, and a worker it names is left in place or
    taken away. -/
def KeepsOwner (s s' : JobStore) : Prop :=
  ∀ r ∈ s.records, ∃ r' ∈ s'.records, r'.jobId = r.jobId ∧
    (r.workerId.isSome = true → r'.workerId = r.workerId ∨ r'.workerId = none)

theorem KeepsOwner.refl (s : JobStore) : KeepsOwner s s :=
  fun r hr => ⟨r, hr, rfl, fun _ => .inl rfl⟩

theorem keepsOwner_replaced (hk : s.Keyed) {old new : JobRow} {event : JobEvent}
    (hold : old ∈ s.records) (hid : new.jobId = old.jobId)
    (hworker : old.workerId.isSome = true →
      new.workerId = old.workerId ∨ new.workerId = none) :
    KeepsOwner s (s.replaced new event) := by
  intro r hr
  by_cases hj : r.jobId = new.jobId
  · have : r = old := hk.eq_of_jobId hr hold (hj.trans hid)
    subst this
    exact ⟨new, (mem_records_replaced hold hid).mpr (.inl rfl), hid, hworker⟩
  · exact ⟨r, (mem_records_replaced hold hid).mpr (.inr ⟨hr, hj⟩), rfl, fun _ => .inl rfl⟩

theorem JobWrite.keepsOwner {s s' : JobStore} {job : JobRuntimeState} (hw : JobWrite s job s')
    (hk : s.Keyed) (h : ∀ r ∈ s.records, r.Owned) : KeepsOwner s s' := by
  cases hw with
  | created _ hc =>
    obtain ⟨-, eventId, rfl⟩ := hc
    intro r hr
    exact ⟨r, mem_append_left _ hr, rfl, fun _ => .inl rfl⟩
  | transitioned ht =>
    obtain ⟨old, hold, plan, eventId, -, -, hplan, -, rfl⟩ := ht
    exact keepsOwner_replaced hk hold rfl fun hset => (h old hold).transitioned_worker hset hplan
  | checkpointed hc =>
    obtain ⟨old, hold, eventId, -, -, -, -, rfl⟩ := hc
    exact keepsOwner_replaced hk hold rfl fun _ => .inl rfl

theorem reachable_owned (h : Machine.Reachable jobStep JobStore.empty s) :
    JobsLogged s ∧ ∀ r ∈ s.records, r.Owned := by
  apply h.induction (P := fun s => JobsLogged s ∧ ∀ r ∈ s.records, r.Owned)
  · exact ⟨jobsLogged_empty, fun r hr => absurd hr not_mem_nil⟩
  · intro s call ⟨hlogged, howned⟩
    refine ⟨(jobStep_grows hlogged call).1, ?_⟩
    rcases hout : jobStep s call with ⟨answer, s'⟩
    cases answer with
    | error e =>
      have hsame : s' = s := jobStep_error hout
      subst hsame
      exact howned
    | ok job => exact (jobStep_ok hlogged.keyed hout).owned howned

theorem jobStep_keepsOwner (h : Machine.Reachable jobStep JobStore.empty s) (call : JobCall) :
    KeepsOwner s (jobStep s call).2 := by
  obtain ⟨hlogged, howned⟩ := reachable_owned h
  rcases hout : jobStep s call with ⟨answer, s'⟩
  cases answer with
  | error e =>
    have hsame : s' = s := jobStep_error hout
    subst hsame
    exact KeepsOwner.refl _
  | ok job => exact (jobStep_ok hlogged.keyed hout).keepsOwner hlogged.keyed howned

/-- The store after the calls, from the empty one. -/
abbrev storeAfter (calls : List JobCall) : JobStore :=
  (Machine.run jobStep JobStore.empty calls).2

/-- While a job stays owned, it stays with its worker. -/
theorem owner_kept (calls more : List JobCall) (hr : r ∈ (storeAfter calls).records)
    (hset : ∀ between, between <+: more → ∀ r' ∈ (storeAfter (calls ++ between)).records,
      r'.jobId = r.jobId → r'.workerId.isSome = true) :
    ∃ r' ∈ (storeAfter (calls ++ more)).records,
      r'.jobId = r.jobId ∧ r'.workerId = r.workerId := by
  induction more using List.reverseRecOn with
  | nil => exact ⟨r, by rwa [append_nil], rfl, rfl⟩
  | append_singleton cs c ih =>
    obtain ⟨r₁, hr₁, hid, hworker⟩ :=
      ih fun between hpre => hset between (hpre.trans (prefix_append cs [c]))
    have hstep : storeAfter (calls ++ (cs ++ [c])) = (jobStep (storeAfter (calls ++ cs)) c).2 := by
      unfold storeAfter
      rw [← append_assoc, Machine.run_snoc]
    obtain ⟨r₂, hr₂, hid₂, hkept⟩ := jobStep_keepsOwner ⟨calls ++ cs, rfl⟩ c r₁ hr₁
    rw [← hstep] at hr₂
    have hset₁ := hset cs (prefix_append cs [c]) r₁ hr₁ hid
    have hset₂ := hset (cs ++ [c]) prefix_rfl r₂ hr₂ (hid₂.trans hid)
    refine ⟨r₂, hr₂, hid₂.trans hid, ?_⟩
    rcases hkept hset₁ with hsame | hnone
    · exact hsame.trans hworker
    · rw [hnone] at hset₂
      cases hset₂

/-- Over every run of the store, by any interleaving of writers, a job has a worker
    exactly in the states that hold a claim; and as long as it has one in every state of
    the run, it is the same one. -/
theorem job_owner_matches_state (calls : List JobCall) :
    (∀ r ∈ (Machine.run jobStep JobStore.empty calls).2.records,
      r.workerId.isSome = true ↔
        r.state ∈ [TaskState.claimed, .gating, .executing, .verifying, .reviewPending,
          .changesRequired, .repairing, .recoveryNeeded]) ∧
    ∀ more, ∀ r ∈ (Machine.run jobStep JobStore.empty calls).2.records,
      ∀ r' ∈ (Machine.run jobStep JobStore.empty (calls ++ more)).2.records,
        r'.jobId = r.jobId →
        (∀ between, between <+: more →
          ∀ r'' ∈ (Machine.run jobStep JobStore.empty (calls ++ between)).2.records,
            r''.jobId = r.jobId → r''.workerId.isSome = true) →
        r'.workerId = r.workerId := by
  constructor
  · intro r hr
    have howned := (reachable_owned ⟨calls, rfl⟩).2 r hr
    rw [← decide_eq_true_iff (p := r.state ∈ _)]
    exact howned
  · intro more r hr r' hr' hid hset
    obtain ⟨kept, hkept, hkid, hworker⟩ := owner_kept calls more hr hset
    have hkeyed := (reachable_owned ⟨calls ++ more, rfl⟩).1.keyed
    have : r' = kept := hkeyed.eq_of_jobId hr' hkept (hid.trans hkid.symm)
    rw [this, hworker]

end AConductor.Job

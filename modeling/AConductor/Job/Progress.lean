import AConductor.Job.Execution

/-!
# Jobs: when a write commits

The specifications of the store say what a write did that returned. Here is when it returns:
a transition or a checkpoint of a stored row at its own version commits, whenever the policy
allows it and the event id is a new one (`src/a_conductor/job_store.py:428-584`,
`src/a_conductor/job_state.py:192-260`). With new ids, an operation that succeeds takes its job
to `VERIFYING` (`src/a_conductor/job_execution.py:199-299`).
-/

namespace AConductor.Job

open Txn Proc List Text Option

/-! ### What a checked record satisfies -/

structure JobRow.Valid (r : JobRow) : Prop where
  jobId : isBlank r.jobId = false
  workOrderRef : isBlank r.workOrderRef = false
  projectId : isBlank r.projectId = false
  workerId : ∀ w, r.workerId = some w → isBlank w = false
  attempts : 0 ≤ r.attemptCount
  maxAttempts : 1 ≤ r.maxAttempts
  budget : r.attemptCount ≤ r.maxAttempts
  version : 1 ≤ r.version
  recovery : r.state = .recoveryNeeded ↔ r.recoveryClassification.isSome = true

variable {u : Unit} {fieldName : String} {s s' : JobStore}
  {owner : Option String × Option RecoveryClassification}

theorem requireText_ok {value fieldName : String} :
    requireText value fieldName = .ok u ↔ isBlank value = false := by
  unfold requireText
  by_cases h : isBlank value = true
  · simp [h]
  · simp [h]

theorem requireOptionalText_ok {value : Option String} :
    requireOptionalText value fieldName = .ok u ↔
      ∀ v, value = some v → isBlank v = false := by
  cases value with
  | none => simp [requireOptionalText]
  | some v => simp [requireOptionalText, requireText_ok]

theorem requirePositiveInt_ok {value : Int} :
    requirePositiveInt value fieldName = .ok u ↔ 1 ≤ value := by
  unfold requirePositiveInt
  by_cases h : value < 1
  · simp [h]
  · simp [h]
    omega

theorem requireNonnegativeInt_ok {value : Int} :
    requireNonnegativeInt value fieldName = .ok u ↔ 0 ≤ value := by
  unfold requireNonnegativeInt
  by_cases h : value < 0
  · simp [h]
  · simp [h]
    omega

variable {r : JobRow} {job : JobRuntimeState} {classification : Option RecoveryClassification}
  {target : TaskState} {workerId : Option String} {plan : JobTransitionPlan} {a : TransitionArgs}

theorem JobRow.check_iff : r.check = .ok () ↔ r.Valid := by
  unfold JobRow.check
  simp only [Except.bind_eq_ok, requireText_ok, requireOptionalText_ok, requireNonnegativeInt_ok,
    requirePositiveInt_ok]
  constructor
  · rintro ⟨_, hjob, _, hwork, _, hproject, _, hworker, _, hattempts, _, hmax, h⟩
    split at h
    · cases h
    · rename_i hbudget
      obtain ⟨_, hversion, h⟩ := Except.bind_eq_ok.mp h
      rw [requirePositiveInt_ok] at hversion
      refine ⟨hjob, hwork, hproject, hworker, hattempts, hmax, by omega, hversion, ?_⟩
      by_cases hstate : r.state = .recoveryNeeded
      · rw [if_pos hstate] at h
        split at h
        · cases h
        · rename_i hsome
          rw [isNone_iff_eq_none, ← ne_eq, ne_none_iff_isSome] at hsome
          exact ⟨fun _ => hsome, fun _ => hstate⟩
      · rw [if_neg hstate] at h
        split at h
        · cases h
        · rename_i hnone
          exact ⟨fun heq => absurd heq hstate, fun hsome => absurd hsome hnone⟩
  · intro h
    refine ⟨(), h.jobId, (), h.workOrderRef, (), h.projectId, (), h.workerId, (), h.attempts, (),
      h.maxAttempts, ?_⟩
    rw [if_neg (by have := h.budget; omega)]
    refine Except.bind_eq_ok.mpr ⟨(), requirePositiveInt_ok.mpr h.version, ?_⟩
    by_cases hstate : r.state = .recoveryNeeded
    · have hsome := h.recovery.mp hstate
      rw [if_pos hstate, if_neg (by rw [isNone_iff_eq_none, ← ne_eq, ne_none_iff_isSome]; exact hsome)]
      rfl
    · have hnone : ¬ r.recoveryClassification.isSome = true := fun hsome => hstate (h.recovery.mpr hsome)
      rw [if_neg hstate, if_neg hnone]
      rfl

/-- Every stored record passes its own checks. -/
def JobStore.Checked (s : JobStore) : Prop := ∀ r ∈ s.records, r.Valid

theorem JobRuntimeState.valid (job : JobRuntimeState) : job.toJobRow.Valid :=
  JobRow.check_iff.mp job.checked

theorem checked_empty : JobStore.empty.Checked := by
  intro r hr
  exact absurd hr not_mem_nil

theorem JobWrite.checked (hw : JobWrite s job s') (h : s.Checked) : s'.Checked := by
  have hreplaced {old new : JobRow} {event : JobEvent} (hold : old ∈ s.records)
      (hid : new.jobId = old.jobId) (hnew : job.toJobRow = new) :
      (s.replaced new event).Checked := by
    intro r hr
    rcases (mem_records_replaced hold hid).mp hr with rfl | ⟨hr, -⟩
    · exact hnew ▸ job.valid
    · exact h r hr
  cases hw with
  | created hnew hc =>
    obtain ⟨-, eventId, rfl⟩ := hc
    intro r hr
    rcases mem_append.mp hr with hr | hr
    · exact h r hr
    · rw [mem_singleton.mp hr]
      exact job.valid
  | transitioned ht =>
    obtain ⟨old, hold, plan, eventId, -, -, -, hjob, rfl⟩ := ht
    exact hreplaced hold rfl hjob
  | checkpointed hc =>
    obtain ⟨old, hold, eventId, -, -, -, hjob, rfl⟩ := hc
    exact hreplaced hold rfl hjob

/-- What every reachable store satisfies. -/
structure JobStore.Sound (s : JobStore) : Prop where
  logged : JobsLogged s
  checked : s.Checked

theorem jobStep_sound (h : s.Sound) (call : JobCall) : (jobStep s call).2.Sound := by
  refine ⟨(jobStep_grows h.logged call).1, ?_⟩
  rcases hout : jobStep s call with ⟨r, s'⟩
  cases r with
  | error e =>
    have hsame : s' = s := jobStep_error hout
    subst hsame
    exact h.checked
  | ok job => exact (jobStep_ok h.logged.keyed hout).checked h.checked

/-- Any run of the store's writers, from the empty store. -/
theorem run_sound (calls : List JobCall) : (Machine.run jobStep JobStore.empty calls).2.Sound :=
  Machine.run_induction (P := fun _ (s : JobStore) => s.Sound) ⟨jobsLogged_empty, checked_empty⟩
    (fun _ _ call h => jobStep_sound h call) calls

/-! ### The record that a plan describes -/

theorem planOwner_worker {current : JobRow}
    (h : planOwner current target workerId classification = .ok owner) :
    owner.1 = current.workerId ∨ owner.1 = workerId := by
  unfold planOwner at h
  split at h
  · unfold planRecovery at h
    split at h
    · cases h
    · split at h
      · cases h
      · split at h
        · cases h
        · cases h
          exact .inl rfl
  · unfold planOrdinary at h
    split at h
    · cases h
    · obtain ⟨worker, hworker, h⟩ := Except.bind_eq_ok.mp h
      obtain ⟨recovery, -, h⟩ := Except.bind_eq_ok.mp h
      cases h
      unfold planWorker at hworker
      split at hworker
      · split at hworker
        · cases hworker
        · cases hworker
          exact .inr rfl
      · split at hworker
        · cases hworker
        · cases hworker
          exact .inl rfl

theorem planOwner_recovery {current : JobRow}
    (h : planOwner current target workerId classification = .ok owner) :
    target = .recoveryNeeded ↔ owner.2.isSome = true := by
  unfold planOwner at h
  split at h
  · unfold planRecovery at h
    split at h
    · cases h
    · rename_i c hc
      split at h
      · cases h
      · rename_i htarget
        split at h
        · cases h
        · cases h
          rw [ne_eq, not_not] at htarget
          rw [htarget]
          cases c <;> simp [recoveryTarget]
  · unfold planOrdinary at h
    split at h
    · cases h
    · obtain ⟨worker, -, h⟩ := Except.bind_eq_ok.mp h
      obtain ⟨recovery, hrecovery, h⟩ := Except.bind_eq_ok.mp h
      cases h
      unfold planClassification at hrecovery
      split at hrecovery
      · rename_i htarget
        split at hrecovery
        · cases hrecovery
        · rename_i hsome
          cases hrecovery
          rw [isNone_iff_eq_none, ← ne_eq, ne_none_iff_isSome] at hsome
          exact ⟨fun _ => hsome, fun _ => htarget⟩
      · rename_i htarget
        split at hrecovery
        · cases hrecovery
        · cases hrecovery
          exact ⟨fun heq => absurd heq htarget, by simp⟩

/-- The worker that a plan leaves is none, the one before, or the one that asked. -/
theorem planJobTransition_workerId
    (h : planJobTransition r target workerId classification = .ok plan) :
    plan.workerId = none ∨ plan.workerId = r.workerId ∨ plan.workerId = workerId := by
  unfold planJobTransition at h
  simp only [Except.bind_eq_ok] at h
  obtain ⟨_, -, _, -, owner, howner, attempts, -, hplan⟩ := h
  cases hplan
  dsimp only
  split
  · exact .inl rfl
  · exact .inr (planOwner_worker howner)

/-- A transition that releases the claim leaves no worker. -/
theorem planJobTransition_released
    (h : planJobTransition r target workerId classification = .ok plan)
    (hreleases : releasesClaim target = true) : plan.workerId = none := by
  unfold planJobTransition at h
  simp only [Except.bind_eq_ok] at h
  obtain ⟨_, -, _, -, owner, -, attempts, -, hplan⟩ := h
  cases hplan
  exact if_pos hreleases

/-- A worker that asks is the one that a plan leaves, if it leaves one. -/
theorem planJobTransition_asked {workerId : String}
    (h : planJobTransition r target (some workerId) classification = .ok plan) :
    plan.workerId = none ∨ plan.workerId = some workerId := by
  unfold planJobTransition at h
  simp only [Except.bind_eq_ok] at h
  obtain ⟨_, -, _, -, owner, howner, attempts, -, hplan⟩ := h
  cases hplan
  dsimp only
  split
  · exact .inl rfl
  · unfold planOwner at howner
    split at howner
    · unfold planRecovery at howner
      split at howner
      · cases howner
      · split at howner
        · cases howner
        · split at howner
          · cases howner
          · rename_i hsame
            cases howner
            cases hw : r.workerId with
            | none => exact .inl rfl
            | some w =>
              rw [hw] at hsame
              simp only [isSome_some, ne_eq, true_and, not_not] at hsame
              exact .inr hsame.symm
    · unfold planOrdinary at howner
      split at howner
      · cases howner
      · obtain ⟨worker, hworker, howner⟩ := Except.bind_eq_ok.mp howner
        obtain ⟨recovery, -, howner⟩ := Except.bind_eq_ok.mp howner
        cases howner
        unfold planWorker at hworker
        split at hworker
        · cases hworker
          exact .inr rfl
        · split at hworker
          · cases hworker
          · rename_i hsame
            cases hworker
            simp only [isSome_some, ne_eq, true_and, not_not] at hsame
            exact .inr hsame.symm

/-- The record that a plan describes passes its own checks. -/
theorem valid_transitioned (hr : r.Valid)
    (h : planJobTransition r target workerId classification = .ok plan) :
    (r.transitioned plan).Valid := by
  have hworker := planJobTransition_workerId h
  obtain ⟨htarget, hattempts, hbudget⟩ := planJobTransition_ok h
  unfold planJobTransition at h
  simp only [Except.bind_eq_ok] at h
  obtain ⟨_, htext, _, -, owner, howner, attempts, -, hplan⟩ := h
  rw [requireOptionalText_ok] at htext
  have hrecovery := planOwner_recovery howner
  have hle := hr.budget
  have hnonneg := hr.attempts
  refine ⟨hr.jobId, hr.workOrderRef, hr.projectId, ?_, ?_, hr.maxAttempts, ?_, ?_, ?_⟩
  · intro w hw
    have hw' : plan.workerId = some w := hw
    rcases hworker with hnone | hsame | hasked
    · rw [hnone] at hw'
      cases hw'
    · exact hr.workerId w (hsame ▸ hw')
    · exact htext w (hasked ▸ hw')
  · show 0 ≤ plan.attemptCount
    rw [hattempts]
    split <;> omega
  · show plan.attemptCount ≤ r.maxAttempts
    rw [hattempts]
    split
    · rename_i hexecuting
      have hlt := hbudget hexecuting
      omega
    · exact hle
  · have hversion := hr.version
    show 1 ≤ r.version + 1
    omega
  · cases hplan
    exact hrecovery

theorem valid_checkpointed (hr : r.Valid) : r.checkpointed.Valid := by
  have hversion := hr.version
  refine ⟨hr.jobId, hr.workOrderRef, hr.projectId, hr.workerId, hr.attempts, hr.maxAttempts,
    hr.budget, ?_, hr.recovery⟩
  show 1 ≤ r.version + 1
  omega

theorem make_of_valid (h : r.Valid) :
    ∃ job, JobRuntimeState.make r = .ok job ∧ job.toJobRow = r := by
  have hcheck := JobRow.check_iff.mpr h
  unfold JobRuntimeState.make
  split
  · exact ⟨_, rfl, rfl⟩
  · rename_i e he
    rw [hcheck] at he
    cases he

/-! ### When a write commits -/

/-- An event id that the store can take. -/
def JobStore.Fresh (s : JobStore) (eventId : String) : Prop :=
  isBlank eventId = false ∧ ∀ e ∈ s.events, e.eventId ≠ eventId

/-- There is always one: an id longer than all the others. -/
theorem exists_fresh (s : JobStore) : ∃ eventId, s.Fresh eventId := by
  have hlength : ∀ e ∈ s.events,
      e.eventId.length ≤ (s.events.map fun e => e.eventId.length).sum := fun e he =>
    le_sum_of_mem (mem_map_of_mem (f := fun e : JobEvent => e.eventId.length) he)
  generalize (s.events.map fun e => e.eventId.length).sum = total at hlength
  refine ⟨String.ofList (List.replicate (total + 1) 'e'), ?_, ?_⟩
  · have hspace : isSpace 'e' = false := by decide
    simp [isBlank, replicate_succ, hspace]
  · intro e he heq
    have hle := hlength e he
    have hlong : e.eventId.length = total + 1 := by
      rw [heq, String.length_ofList, length_replicate]
    omega

section Commits

variable {s : JobStore} {old : JobRow} {eventId : String} {E : JobFault → JobStore → Prop}

theorem wp_loadJob_stored (hk : s.Keyed) (hold : old ∈ s.records) (hvalid : old.Valid)
    {Q : JobRuntimeState → JobStore → Prop}
    (hQ : ∀ job : JobRuntimeState, job.toJobRow = old → Q job s) :
    wp (loadJob old.jobId) Q E s := by
  unfold loadJob
  rw [wp_bind, wp_query]
  cases hf : s.records.find? (fun r => r.jobId = old.jobId) with
  | none => exact absurd (List.find?_eq_none.mp hf old hold) (by simp)
  | some row =>
    have hid : row.jobId = old.jobId := by simpa using List.find?_some hf
    have hrow : row = old := hk.eq_of_jobId (mem_of_find?_eq_some hf) hold hid
    obtain ⟨job, hmake, hjob⟩ := make_of_valid hvalid
    subst hrow
    simp only [hmake, Except.mapError, wp_ofExcept_ok]
    exact hQ job hjob

variable {Q : Unit → JobStore → Prop}

theorem wp_updateRecord_stored (hk : s.Keyed) (hold : old ∈ s.records) {f : JobRow → JobRow}
    (hid : (f old).jobId = old.jobId)
    (hQ : Q () { s with
      records := Table.updateWhere (fun r => r.jobId = (f old).jobId) (fun _ => f old)
        s.records }) :
    wp (updateRecord old.jobId old.version f) Q E s := by
  have hone : (s.records.filter fun r => r.jobId = old.jobId && r.version = old.version).length = 1 := by
    have hle := Table.Unique.length_filter_le_one hk (k := old.jobId)
      (p := fun r => r.jobId = old.jobId && r.version = old.version)
      (fun r _ hr => by
        simp only [Bool.and_eq_true, decide_eq_true_eq] at hr
        rw [JobRow.idKey, hr.1])
    have hpos := length_pos_of_mem (mem_filter.mpr ⟨hold, by simp⟩ :
      old ∈ s.records.filter fun r => r.jobId = old.jobId && r.version = old.version)
    omega
  unfold updateRecord
  simp only [wp_bind, wp_query, wp_require, hone, decide_true, wp_update, forall_const,
    reduceCtorEq, false_implies, and_true]
  rw [updateWhere_guarded hk hold hid]
  exact hQ

theorem wp_insertEvent_fresh {entry : JobEntry} (hfresh : s.Fresh eventId)
    (hsequence : ∀ e ∈ s.events, e.jobId = entry.jobId →
      e.sequenceNo ≠ s.nextSequence entry.jobId)
    (hrow : ∃ r ∈ s.records, r.jobId = entry.jobId)
    (hQ : Q () { s with
      events := s.events ++ [entry.event eventId (s.nextSequence entry.jobId)] }) :
    wp (insertEvent (some eventId) entry) Q E s := by
  have hid : Table.conflicts JobEvent.idKey
      { entry with eventId, sequenceNo := s.nextSequence entry.jobId } s.events = false := by
    rw [Table.conflicts_eq_false]
    intro e he k hk hek
    exact hfresh.2 e he (Option.some.inj (hek.trans hk.symm))
  have hnumber : Table.conflicts JobEvent.sequenceKey
      { entry with eventId, sequenceNo := s.nextSequence entry.jobId } s.events = false := by
    rw [Table.conflicts_eq_false]
    intro e he k hk hek
    have hpair := Option.some.inj (hek.trans hk.symm)
    exact hsequence e he (congrArg Prod.fst hpair) (congrArg Prod.snd hpair)
  have hany : (s.records.any fun r => r.jobId = entry.jobId) = true := by
    obtain ⟨r, hr, hrid⟩ := hrow
    exact any_eq_true.mpr ⟨r, hr, by simp [hrid]⟩
  have hdraw : nextEventId (some eventId) = .ok eventId := by
    unfold nextEventId
    dsimp only
    rw [if_neg (by rw [hfresh.1]; simp)]
  unfold insertEvent
  simp only [wp_bind, hdraw, wp_ofExcept_ok, wp_query, wp_require, hid, hnumber, hany, wp_update,
    Bool.or_false, Bool.not_false, forall_const, reduceCtorEq, false_implies, and_true]
  exact hQ

/-- The next number of a job is none of its events. -/
theorem JobsLogged.sequence_new (h : JobsLogged s) (hold : old ∈ s.records) :
    ∀ e ∈ s.events, e.jobId = old.jobId → e.sequenceNo ≠ s.nextSequence old.jobId := by
  intro e he hjob heq
  have hlog := h.logged old hold
  have hmem : e ∈ s.eventsOf old.jobId := mem_filter.mpr ⟨he, by simp [hjob]⟩
  have hnumber := mem_map_of_mem (f := JobEvent.sequenceNo) hmem
  rw [hlog.sequence] at hnumber
  obtain ⟨i, hi, hie⟩ := mem_map.mp hnumber
  rw [mem_range] at hi
  have hnext := hlog.nextSequence
  have hversion := hlog.version
  omega

theorem checkedTxn_commits {α : Type} {args : Except JobFault Unit} {body : JobTxn α}
    (hargs : args = .ok ()) {Q : α → JobStore → Prop} (h : wp body Q (fun _ _ => False) s) :
    ∃ a s', checkedTxn args body s = (.ok a, s') ∧ Q a s' := by
  rcases atomically_spec (E := fun _ => False) h with ⟨a, s', hout, hQ⟩ | ⟨_, _, hfalse⟩
  · refine ⟨a, s', ?_, hQ⟩
    rw [hargs]
    unfold checkedTxn
    dsimp only
    rw [hout]
    rfl
  · exact absurd hfalse id

theorem checkVersion_stored (hvalid : old.Valid) {expected : Int} (h : old.version = expected) :
    checkVersion old expected = .ok () := by
  have hpositive : requirePositiveInt expected "expected_version" = .ok () :=
    requirePositiveInt_ok.mpr (h ▸ hvalid.version)
  unfold checkVersion
  rw [hpositive]
  exact if_neg (not_not.mpr h)

/-- What a transition and a checkpoint do once they are allowed. -/
theorem wp_rewrite (h : s.Sound) (hold : old ∈ s.records) {f : JobRow → JobRow}
    (hid : (f old).jobId = old.jobId) (hvalid : (f old).Valid) {entry : JobEntry}
    (hentry : entry.jobId = old.jobId) (hfresh : s.Fresh eventId) : wp (do
      updateRecord old.jobId old.version f
      insertEvent (some eventId) entry
      ofExcept (JobRuntimeState.make (f old)))
      (fun job s' => job.toJobRow = f old ∧ job.toJobRow ∈ s'.records) E s := by
  obtain ⟨job, hmake, hjob⟩ := make_of_valid hvalid
  have hmem : f old ∈
      Table.updateWhere (fun r => r.jobId = (f old).jobId) (fun _ => f old) s.records :=
    Table.mem_updateWhere.mpr ⟨old, hold, by rw [hid]; simp⟩
  rw [wp_bind]
  refine wp_updateRecord_stored h.logged.keyed hold hid ?_
  rw [wp_bind]
  apply wp_insertEvent_fresh
  · exact hfresh
  · rw [hentry]
    exact h.logged.sequence_new hold
  · exact ⟨f old, hmem, by rw [hid, hentry]⟩
  · rw [hmake, wp_ofExcept_ok, hjob]
    exact ⟨rfl, hmem⟩

/-- A transition that the policy allows commits. -/
theorem transition_commits (h : s.Sound) (hargs : a.check = .ok ()) (hold : old ∈ s.records)
    (hid : old.jobId = a.jobId) (hversion : old.version = a.expectedVersion)
    (hplan : planJobTransition old a.targetState a.workerId a.recoveryClassification = .ok plan)
    (hfresh : s.Fresh eventId) :
    ∃ job s', transition a (some eventId) s = (.ok job, s') ∧
      job.toJobRow = old.transitioned plan ∧ job.toJobRow ∈ s'.records := by
  have hvalid := h.checked old hold
  refine checkedTxn_commits hargs (Q := fun (job : JobRuntimeState) s' =>
    job.toJobRow = old.transitioned plan ∧ job.toJobRow ∈ s'.records) ?_
  unfold transitionBody
  rw [wp_bind, ← hid]
  refine wp_loadJob_stored h.logged.keyed hold hvalid fun current hcurrent => ?_
  rw [hcurrent, wp_bind, checkVersion_stored hvalid hversion, wp_ofExcept_ok, wp_bind, hplan,
    wp_ofExcept_ok]
  exact wp_rewrite h hold (f := fun r => r.transitioned plan) rfl (valid_transitioned hvalid hplan)
    rfl hfresh

/-- A checkpoint of a job that is open commits. -/
theorem checkpoint_commits (h : s.Sound) {a : CheckpointArgs} (hargs : a.check = .ok ())
    (hold : old ∈ s.records) (hid : old.jobId = a.jobId) (hversion : old.version = a.expectedVersion)
    (hopen : requireOpen old.state = .ok ()) (hfresh : s.Fresh eventId) :
    ∃ job s', checkpoint a (some eventId) s = (.ok job, s') ∧
      job.toJobRow = old.checkpointed ∧ job.toJobRow ∈ s'.records := by
  have hvalid := h.checked old hold
  refine checkedTxn_commits hargs (Q := fun (job : JobRuntimeState) s' =>
    job.toJobRow = old.checkpointed ∧ job.toJobRow ∈ s'.records) ?_
  unfold checkpointBody
  rw [wp_bind, ← hid]
  refine wp_loadJob_stored h.logged.keyed hold hvalid fun current hcurrent => ?_
  rw [hcurrent, wp_bind, checkVersion_stored hvalid hversion, wp_ofExcept_ok, wp_bind, hopen,
    wp_ofExcept_ok]
  exact wp_rewrite h hold rfl (valid_checkpointed hvalid) rfl hfresh

end Commits

/-! ### An operation that succeeds -/

/-- The transitions of an execution are allowed to the worker that holds the job. -/
theorem plan_ordinary {workerId : String} (hedge : target ∈ allowedTransitions r.state)
    (htarget : target ∉ [.claimed, .recoveryNeeded]) (hworker : r.workerId = some workerId)
    (hblank : isBlank workerId = false)
    (hbudget : target = .executing → r.attemptCount < r.maxAttempts) :
    ∃ plan, planJobTransition r target (some workerId) none = .ok plan := by
  simp only [mem_cons, not_mem_nil, or_false, not_or] at htarget
  have hopen : requireOpen r.state = .ok () := by
    revert hedge
    cases r.state <;> simp [allowedTransitions, requireOpen, TaskState.terminal]
  have hrecovery : r.state ≠ .recoveryNeeded := by
    rintro heq
    rw [heq] at hedge
    cases hedge
  have howner : planOwner r target (some workerId) none = .ok (some workerId, none) := by
    unfold planOwner
    rw [if_neg hrecovery]
    unfold planOrdinary planWorker planClassification
    rw [hworker, if_neg (not_not.mpr hedge), if_neg htarget.1, if_neg (by simp), if_neg htarget.2]
    rfl
  have hattempts : ∃ attempts, planAttempts r target = .ok attempts := by
    unfold planAttempts
    by_cases hexecuting : target = .executing
    · have hlt := hbudget hexecuting
      rw [if_pos hexecuting, if_neg (by omega)]
      exact ⟨_, rfl⟩
    · rw [if_neg hexecuting]
      exact ⟨_, rfl⟩
  obtain ⟨attempts, hattempts⟩ := hattempts
  have htext : requireOptionalText (some workerId) "worker_id" = .ok () := by
    rw [requireOptionalText_ok]
    rintro v ⟨⟩
    exact hblank
  unfold planJobTransition
  rw [htext, hopen, howner, hattempts]
  exact ⟨_, rfl⟩

section Execution

variable {call : ExecuteCall} {s : JobStore} {executing : JobRuntimeState} {evidenceRef : String}

/-- The rows of the job of a call, while its operation is not complete. -/
def StillExecuting (call : ExecuteCall) (s : JobStore) : Prop :=
  ∀ r ∈ s.records, r.jobId = call.jobId → r.state = .executing

theorem stillExecuting (hk : s.Keyed) (hr : r ∈ s.records) (hid : r.jobId = call.jobId)
    (hstate : r.state = .executing) : StillExecuting call s := by
  intro r' hr' hid'
  have hsame : r' = r := hk.eq_of_jobId hr' hr (hid'.trans hid.symm)
  rw [hsame, hstate]

/-- What a completed operation returns: the job of the call, with the worker of the call or
    none, and the budget it had. -/
structure CompletedBy (call : ExecuteCall) (evidenceRef : String) (maxAttempts : Int)
    (outcome : JobExecutionOutcome) : Prop where
  success : outcome.success = true
  evidenceRef : outcome.evidenceRef = some evidenceRef
  jobId : outcome.job.jobId = call.jobId
  workerId : outcome.job.workerId = none ∨ outcome.job.workerId = some call.workerId
  maxAttempts : outcome.job.maxAttempts = maxAttempts

theorem Transitioned.mem (h : Transitioned a s job s') : job.toJobRow ∈ s'.records := by
  obtain ⟨old, hold, plan, eventId, -, -, -, hjob, rfl⟩ := h
  have hid : (old.transitioned plan).jobId = old.jobId := rfl
  rw [hjob]
  exact (mem_records_replaced hold hid).mpr (.inl rfl)

theorem Checkpointed.mem {a : CheckpointArgs} (h : Checkpointed a s job s') :
    job.toJobRow ∈ s'.records := by
  obtain ⟨old, hold, eventId, -, -, -, hjob, rfl⟩ := h
  have hid : old.checkpointed.jobId = old.jobId := rfl
  rw [hjob]
  exact (mem_records_replaced hold hid).mpr (.inl rfl)

variable {draw : EventIdDraw} {result : Except JobFault JobRuntimeState}

theorem transition_sound (h : s.Sound) (hout : transition a draw s = (result, s')) : s'.Sound := by
  have hstep := jobStep_sound h (.transition a draw)
  rwa [show jobStep s (.transition a draw) = (result, s') from hout] at hstep

theorem checkpoint_sound (h : s.Sound) {a : CheckpointArgs}
    (hout : checkpoint a draw s = (result, s')) : s'.Sound := by
  have hstep := jobStep_sound h (.checkpoint a draw)
  rwa [show jobStep s (.checkpoint a draw) = (result, s') from hout] at hstep

/-- What a transition of a stored row returned is that row, moved. -/
theorem transition_row (h : s.Sound) (hout : transition a draw s = (.ok job, s'))
    (hr : r ∈ s.records) (hid : r.jobId = a.jobId) :
    ∃ plan, planJobTransition r a.targetState a.workerId a.recoveryClassification = .ok plan ∧
      job.toJobRow = r.transitioned plan := by
  obtain ⟨old, hold, plan, _, hjob, -, hplan, hrow, -⟩ := transition_ok h.logged.keyed hout
  have hsame : old = r := h.logged.keyed.eq_of_jobId hold hr (hjob.trans hid.symm)
  rw [← hsame]
  exact ⟨plan, hplan, hrow⟩

/-- After a success of the backend the operation is complete, or its job is still `EXECUTING`. -/
theorem exec_completeAfterBackend (h : s.Sound) (hmem : executing.toJobRow ∈ s.records)
    (hid : executing.jobId = call.jobId) (hstate : executing.state = .executing) :
    (∃ outcome, ((completeAfterBackend call executing evidenceRef).exec s).1 = .ok outcome ∧
        CompletedBy call evidenceRef executing.maxAttempts outcome) ∨
      StillExecuting call ((completeAfterBackend call executing evidenceRef).exec s).2.1 := by
  unfold completeAfterBackend
  rw [exec_bind]
  rcases hcheckpoint : checkpoint {
      jobId := call.jobId, checkpointRef := "operation:" ++ call.operationRef ++ ":complete"
      expectedVersion := executing.version, evidenceRef := some evidenceRef }
      call.checkpointDraw s with ⟨result, s₁⟩
  simp only [transact, Proc.exec, hcheckpoint]
  cases result with
  | error fault =>
    have hsame : s₁ = s := checkpoint_error hcheckpoint
    right
    rw [hsame]
    exact stillExecuting h.logged.keyed hmem hid hstate
  | ok checkpointed =>
    have hsound := checkpoint_sound h hcheckpoint
    have hwritten := checkpoint_ok h.logged.keyed hcheckpoint
    have hmem₁ := hwritten.mem
    obtain ⟨old, hold, _, hjob, -, -, hrow, -⟩ := hwritten
    have hsame : old = executing.toJobRow :=
      h.logged.keyed.eq_of_jobId hold hmem (hjob.trans hid.symm)
    have hid₁ : checkpointed.jobId = call.jobId := by rw [hrow, hsame]; exact hid
    have hstate₁ : checkpointed.state = .executing := by rw [hrow, hsame]; exact hstate
    have hmax₁ : checkpointed.maxAttempts = executing.maxAttempts := by rw [hrow, hsame]; rfl
    rcases hverifying : transition {
        jobId := call.jobId, targetState := .verifying, expectedVersion := checkpointed.version
        workerId := some call.workerId, evidenceRef := some evidenceRef }
        call.verifyingDraw s₁ with ⟨result, s₂⟩
    dsimp only
    rw [exec_bind]
    simp only [Proc.exec, hverifying]
    cases result with
    | error fault =>
      have hsame₂ : s₂ = s₁ := transition_error hverifying
      right
      rw [hsame₂]
      exact stillExecuting hsound.logged.keyed hmem₁ hid₁ hstate₁
    | ok verifying =>
      obtain ⟨plan, hplan, hrow₂⟩ := transition_row hsound hverifying hmem₁ hid₁
      left
      refine ⟨_, rfl, rfl, rfl, ?_, ?_, ?_⟩
      · show verifying.jobId = call.jobId
        rw [hrow₂]
        exact hid₁
      · show verifying.workerId = none ∨ verifying.workerId = some call.workerId
        rw [hrow₂]
        exact planJobTransition_asked hplan
      · show verifying.maxAttempts = executing.maxAttempts
        rw [hrow₂]
        exact hmax₁

theorem isBlank_operation (operationRef : String) :
    isBlank ("operation:" ++ operationRef ++ ":complete") = false := by
  have hspace : isSpace 'o' = false := by decide
  simp [isBlank, hspace]

/-- With new event ids, it is complete and its job is in `VERIFYING`. -/
theorem completeAfterBackend_commits (h : s.Sound) (hmem : executing.toJobRow ∈ s.records)
    (hid : executing.jobId = call.jobId) (hstate : executing.state = .executing)
    (hworker : executing.workerId = some call.workerId)
    (hevidence : isBlank evidenceRef = false) :
    ∃ checkpointDraw verifyingDraw, ∃ outcome s',
      (completeAfterBackend { call with checkpointDraw, verifyingDraw } executing evidenceRef).exec s =
        (.ok outcome, s', []) ∧
      outcome.success = true ∧ outcome.evidenceRef = some evidenceRef ∧
      outcome.job.maxAttempts = executing.maxAttempts ∧
      outcome.job.toJobRow ∈ s'.records ∧ outcome.job.jobId = call.jobId ∧
      outcome.job.state = .verifying := by
  have hvalid := h.checked _ hmem
  obtain ⟨checkpointId, hcheckpointId⟩ := exists_fresh s
  have hargs : CheckpointArgs.check {
      jobId := call.jobId, checkpointRef := "operation:" ++ call.operationRef ++ ":complete"
      expectedVersion := executing.version, evidenceRef := some evidenceRef } = .ok () := by
    have hjobId : isBlank call.jobId = false := hid ▸ hvalid.jobId
    unfold CheckpointArgs.check
    simp only [Except.bind_eq_ok, requireText_ok, requirePositiveInt_ok, requireOptionalText_ok]
    refine ⟨(), hjobId, (), isBlank_operation _, (), hvalid.version, ?_⟩
    rintro v ⟨⟩
    exact hevidence
  have hopen : requireOpen executing.state = .ok () := by
    rw [hstate]
    rfl
  obtain ⟨checkpointed, s₁, hcheckpoint, hrow, hmem₁⟩ :=
    checkpoint_commits h hargs hmem hid rfl hopen hcheckpointId
  have hsound := checkpoint_sound h hcheckpoint
  obtain ⟨verifyingId, hverifyingId⟩ := exists_fresh s₁
  obtain ⟨plan, hplan⟩ : ∃ plan,
      planJobTransition checkpointed.toJobRow .verifying (some call.workerId) none = .ok plan := by
    rw [hrow]
    have hstate₁ : executing.checkpointed.state = .executing := hstate
    have hblank := hvalid.workerId call.workerId hworker
    refine plan_ordinary ?_ (by decide) hworker hblank nofun
    rw [hstate₁]
    decide
  have hid₁ : checkpointed.jobId = call.jobId := by rw [hrow]; exact hid
  have hargs₁ : TransitionArgs.check {
      jobId := call.jobId, targetState := .verifying, expectedVersion := checkpointed.version
      workerId := some call.workerId, evidenceRef := some evidenceRef } = .ok () := by
    unfold TransitionArgs.check
    simp only [Except.bind_eq_ok, requireText_ok, requirePositiveInt_ok, requireOptionalText_ok]
    refine ⟨(), hid₁ ▸ checkpointed.valid.jobId, (), checkpointed.valid.version, ?_⟩
    rintro v ⟨⟩
    exact hevidence
  obtain ⟨verifying, s₂, hverifying, hrow₂, hmem₂⟩ :=
    transition_commits hsound hargs₁ hmem₁ hid₁ rfl hplan hverifyingId
  refine ⟨some checkpointId, some verifyingId, ⟨true, verifying, some evidenceRef, none, false⟩, s₂,
    ?_, rfl, rfl, ?_, hmem₂, ?_, ?_⟩
  · unfold completeAfterBackend
    rw [exec_bind]
    simp only [transact, Proc.exec, hcheckpoint]
    rw [exec_bind]
    simp only [Proc.exec, hverifying]
    rfl
  · show verifying.maxAttempts = executing.maxAttempts
    rw [hrow₂, hrow]
    rfl
  · show verifying.jobId = call.jobId
    rw [hrow₂]
    exact hid₁
  · show verifying.state = .verifying
    rw [hrow₂]
    exact (planJobTransition_ok hplan).1

/-- The backend was invoked. -/
def Invoked (notes : List ExecutionNote) : Prop :=
  ∃ operationRef context, ExecutionNote.invoked operationRef context ∈ notes

theorem not_invoked_nil : ¬ Invoked [] := by
  rintro ⟨_, _, h⟩
  cases h

theorem silent_recoverAfterBackend (executing : JobRuntimeState)
    (classification : RecoveryClassification) (evidenceRef : Option String) (errorCode : String)
    (draw : EventIdDraw) :
    (recoverAfterBackend executing classification evidenceRef errorCode draw).Silent := by
  refine (silent_transact _).bind fun result => ?_
  cases result <;> trivial

/-- What is left of a success once the job is in `EXECUTING`. -/
theorem exec_invokeBackend (h : s.Sound) (hanswer : call.answer = .result (.success evidenceRef))
    (hmem : executing.toJobRow ∈ s.records) (hid : executing.jobId = call.jobId)
    (hstate : executing.state = .executing)
    (hinvoked : Invoked ((invokeBackend call executing).exec s).2.2) :
    (∃ outcome, ((invokeBackend call executing).exec s).1 = .ok outcome ∧
        CompletedBy call evidenceRef executing.maxAttempts outcome) ∨
      StillExecuting call ((invokeBackend call executing).exec s).2.1 := by
  unfold invokeBackend at hinvoked ⊢
  cases hcontext : (executionContext executing call.workerId).check with
  | error fault =>
    rw [hcontext] at hinvoked
    have hsilent := (silent_recoverAfterBackend executing .unknown none "BACKEND_EXECUTION_FAILED"
      call.recoveryDraw).notes s
    have hnone : ((afterBackend call executing .raised).exec s).2.2 = [] := hsilent
    dsimp only at hinvoked
    rw [hnone] at hinvoked
    exact absurd hinvoked not_invoked_nil
  | ok u =>
    dsimp only
    rw [exec_bind, hanswer]
    exact exec_completeAfterBackend h hmem hid hstate

theorem Invoked.of_append {before after : List ExecutionNote} (h : Invoked (before ++ after))
    (hbefore : ¬ Invoked before) : Invoked after := by
  obtain ⟨operationRef, context, hnote⟩ := h
  rcases mem_append.mp hnote with hmem | hmem
  · exact absurd ⟨operationRef, context, hmem⟩ hbefore
  · exact ⟨operationRef, context, hmem⟩

/-- What an invocation says of the row that was entered. -/
theorem exec_enterExecuting {current : JobRuntimeState} (h : s.Sound)
    (hanswer : call.answer = .result (.success evidenceRef))
    (hmem : current.toJobRow ∈ s.records) (hid : current.jobId = call.jobId)
    (hinvoked : Invoked ((enterExecuting call current).exec s).2.2) :
    current.state = .gating ∧ current.workerId = some call.workerId ∧
      current.attemptCount < current.maxAttempts ∧
      ((∃ outcome, ((enterExecuting call current).exec s).1 = .ok outcome ∧
          CompletedBy call evidenceRef current.maxAttempts outcome) ∨
        StillExecuting call ((enterExecuting call current).exec s).2.1) := by
  unfold enterExecuting at hinvoked ⊢
  rw [exec_bind] at hinvoked ⊢
  rcases hentered : transition {
      jobId := call.jobId, targetState := .executing, expectedVersion := current.version
      workerId := some call.workerId } call.executingDraw s with ⟨result, s₁⟩
  simp only [transactNoting, Proc.exec, hentered] at hinvoked ⊢
  cases result with
  | error fault => simp [Invoked, entry, Proc.exec] at hinvoked
  | ok executing =>
    obtain ⟨plan, hplan, hrow⟩ := transition_row h hentered hmem hid
    obtain ⟨hstate, hworker, -⟩ := planJobTransition_executing hplan
    obtain ⟨htarget, -, hbudget⟩ := planJobTransition_ok hplan
    have hinvoked' := hinvoked.of_append (by simp [Invoked, entry])
    have hid₁ : executing.jobId = call.jobId := by rw [hrow]; exact hid
    have hstate₁ : executing.state = .executing := by rw [hrow]; exact htarget
    have hmax₁ : executing.maxAttempts = current.maxAttempts := by rw [hrow]; rfl
    have hrest := exec_invokeBackend (transition_sound h hentered) hanswer
      (transition_ok h.logged.keyed hentered).mem hid₁ hstate₁ hinvoked'
    rw [hmax₁] at hrest
    exact ⟨hstate, hworker, hbudget rfl, hrest⟩

/-- An operation that succeeds was run on a row in `GATING`, under its worker and within its
    budget; then it is complete, or its job is still `EXECUTING`. -/
theorem exec_execute (h : s.Sound) (hanswer : call.answer = .result (.success evidenceRef))
    (hinvoked : Invoked ((execute call).exec s).2.2) :
    ∃ r ∈ s.records, r.jobId = call.jobId ∧ r.version = call.expectedVersion ∧ r.state = .gating ∧
      r.workerId = some call.workerId ∧ r.attemptCount < r.maxAttempts ∧
      requireOperationRef call.operationRef = .ok () ∧
      ((∃ outcome, ((execute call).exec s).1 = .ok outcome ∧
          CompletedBy call evidenceRef r.maxAttempts outcome) ∨
        StillExecuting call ((execute call).exec s).2.1) := by
  unfold execute at hinvoked ⊢
  cases hcheck : call.check with
  | error fault =>
    rw [hcheck] at hinvoked
    exact absurd hinvoked not_invoked_nil
  | ok u =>
    have href : requireOperationRef call.operationRef = .ok () := by
      unfold ExecuteCall.check at hcheck
      simp only [Except.bind_eq_ok] at hcheck
      obtain ⟨_, -, _, -, _, -, href⟩ := hcheck
      exact href
    rw [hcheck] at hinvoked
    dsimp only at hinvoked ⊢
    rw [exec_bind] at hinvoked ⊢
    rcases hget : getJob call.jobId s with ⟨result, s₀⟩
    simp only [transactNoting, Proc.exec, hget] at hinvoked ⊢
    cases result with
    | error fault => simp [Invoked, refusal, Proc.exec] at hinvoked
    | ok current =>
      obtain ⟨hsame, hmem, hid⟩ := getJob_ok hget
      subst hsame
      cases hpre : checkPreconditions current.toJobRow call.expectedVersion call.workerId with
      | error fault => simp [Invoked, refusal, Proc.exec, hpre] at hinvoked
      | ok u =>
        have hversion : current.version = call.expectedVersion := by
          unfold checkPreconditions at hpre
          by_contra hne
          rw [if_pos hne] at hpre
          cases hpre
        have hquiet : ¬ Invoked ((refusal call (.ok current)).toList ++ []) := by
          simp [Invoked, refusal, hpre]
        dsimp only at hinvoked ⊢
        rw [hpre] at hinvoked ⊢
        obtain ⟨hstate, hworker, hbudget, hrest⟩ :=
          exec_enterExecuting h hanswer hmem hid (hinvoked.of_append hquiet)
        exact ⟨current.toJobRow, hmem, hid, hversion, hstate, hworker, hbudget, href, hrest⟩

theorem getJob_returns (h : s.Sound) (hr : r ∈ s.records) :
    ∃ job, getJob r.jobId s = (.ok job, s) ∧ job.toJobRow = r := by
  have hvalid := h.checked r hr
  obtain ⟨job, s', hout, hjob⟩ := checkedTxn_commits (requireText_ok.mpr hvalid.jobId)
    (wp_loadJob_stored h.logged.keyed hr hvalid (Q := fun (job : JobRuntimeState) _ =>
      job.toJobRow = r) fun job hjob => hjob)
  obtain ⟨hsame, -, -⟩ := getJob_ok hout
  rw [hsame] at hout
  exact ⟨job, hout, hjob⟩

/-- An operation on a row in `GATING` can succeed: with new event ids, and a backend that
    answers so. -/
theorem execute_commits (h : s.Sound) (hr : r ∈ s.records) (hstate : r.state = .gating)
    {workerId operationRef : String} (hworker : r.workerId = some workerId)
    (hbudget : r.attemptCount < r.maxAttempts) (href : requireOperationRef operationRef = .ok ())
    (hevidence : isBlank evidenceRef = false) (recoveryDraw : EventIdDraw) :
    ∃ executingDraw checkpointDraw verifyingDraw, ∃ outcome s' notes,
      (execute { jobId := r.jobId, expectedVersion := r.version, workerId, operationRef
                 answer := .result (.success evidenceRef)
                 executingDraw, recoveryDraw, checkpointDraw, verifyingDraw }).exec s =
        (.ok outcome, s', notes) ∧
      Invoked notes ∧ outcome.success = true ∧ outcome.evidenceRef = some evidenceRef ∧
      outcome.job.maxAttempts = r.maxAttempts ∧ outcome.job.toJobRow ∈ s'.records ∧
      outcome.job.jobId = r.jobId ∧ outcome.job.state = .verifying := by
  have hvalid := h.checked r hr
  have hblank := hvalid.workerId workerId hworker
  obtain ⟨current, hget, hcurrent⟩ := getJob_returns h hr
  obtain ⟨plan, hplan⟩ : ∃ plan, planJobTransition r .executing (some workerId) none = .ok plan := by
    refine plan_ordinary ?_ (by decide) hworker hblank fun _ => hbudget
    rw [hstate]
    decide
  obtain ⟨executingId, hexecutingId⟩ := exists_fresh s
  have hargs : TransitionArgs.check { jobId := r.jobId, targetState := .executing
                                      expectedVersion := r.version, workerId := some workerId } =
      .ok () := by
    unfold TransitionArgs.check
    simp only [Except.bind_eq_ok, requireText_ok, requirePositiveInt_ok]
    exact ⟨(), hvalid.jobId, (), hvalid.version, rfl⟩
  obtain ⟨executing, s₁, hentered, hrow, hmem₁⟩ :=
    transition_commits h hargs hr rfl rfl hplan hexecutingId
  obtain ⟨htarget, hattempts, -⟩ := planJobTransition_ok hplan
  obtain ⟨-, -, hplanned⟩ := planJobTransition_executing hplan
  have hid₁ : executing.jobId = r.jobId := by rw [hrow]; rfl
  have hstate₁ : executing.state = .executing := by rw [hrow]; exact htarget
  have hworker₁ : executing.workerId = some workerId := by rw [hrow]; exact hplanned
  have hmax₁ : executing.maxAttempts = r.maxAttempts := by rw [hrow]; rfl
  have hattempts₁ : executing.attemptCount = r.attemptCount + 1 := by
    rw [hrow]
    exact hattempts
  let base : ExecuteCall := {
    jobId := r.jobId, expectedVersion := r.version, workerId, operationRef
    answer := .result (.success evidenceRef), executingDraw := some executingId, recoveryDraw
    checkpointDraw := none, verifyingDraw := none }
  obtain ⟨checkpointDraw, verifyingDraw, outcome, s', hout, hsuccess, houtcome, hmax, hmem, hid, hend⟩ :=
    @completeAfterBackend_commits base s₁ executing evidenceRef (transition_sound h hentered) hmem₁ hid₁ hstate₁
      hworker₁ hevidence
  have hcontext : (executionContext executing workerId).check = .ok () := by
    have hlow := hvalid.attempts
    have hpositive := hvalid.maxAttempts
    unfold JobExecutionContext.check executionContext
    simp only [Except.bind_eq_ok, requireText_ok, requirePositiveInt_ok]
    refine ⟨(), executing.valid.jobId, (), executing.valid.workOrderRef, (),
      executing.valid.projectId, (), hblank, (), by omega, (), by omega, if_neg (by omega)⟩
  have hcheck : ExecuteCall.check { base with checkpointDraw, verifyingDraw } = .ok () := by
    unfold ExecuteCall.check
    simp only [Except.bind_eq_ok, requireText_ok, requirePositiveInt_ok]
    exact ⟨(), hvalid.jobId, (), hvalid.version, (), hblank, href⟩
  have hpre : checkPreconditions current.toJobRow r.version workerId = .ok () := by
    unfold checkPreconditions
    rw [hcurrent, if_neg (not_not.mpr rfl), if_neg (not_not.mpr hstate), if_neg (not_not.mpr hworker)]
  have hversion : current.version = r.version := by rw [hcurrent]
  refine ⟨some executingId, checkpointDraw, verifyingDraw, outcome, s',
    [.entered executing, .invoked operationRef (executionContext executing workerId)], ?_,
    ⟨operationRef, executionContext executing workerId, by simp⟩, hsuccess, houtcome,
    hmax.trans hmax₁, hmem, hid, hend⟩
  have hrefusal : refusal { base with checkpointDraw, verifyingDraw } (.ok current) = none := by
    unfold refusal
    dsimp only
    rw [show checkPreconditions current.toJobRow base.expectedVersion base.workerId = _ from hpre]
  have hinvoke : (invokeBackend { base with checkpointDraw, verifyingDraw } executing).exec s₁ =
      (.ok outcome, s', [.invoked operationRef (executionContext executing workerId)]) := by
    unfold invokeBackend
    dsimp only
    rw [show (executionContext executing base.workerId).check = .ok () from hcontext]
    dsimp only
    rw [exec_bind]
    simp only [emit, Proc.exec, toList_some, append_nil]
    rw [show afterBackend { base with checkpointDraw, verifyingDraw } executing base.answer =
      completeAfterBackend { base with checkpointDraw, verifyingDraw } executing evidenceRef from rfl,
      hout]
    rfl
  have henter : (enterExecuting { base with checkpointDraw, verifyingDraw } current).exec s =
      (.ok outcome, s', [.entered executing,
        .invoked operationRef (executionContext executing workerId)]) := by
    unfold enterExecuting
    rw [exec_bind, hversion]
    simp only [transactNoting, Proc.exec]
    rw [show transition { jobId := base.jobId, targetState := .executing, expectedVersion := r.version
                          workerId := some base.workerId } base.executingDraw s =
      (.ok executing, s₁) from hentered]
    dsimp only
    rw [hinvoke]
    rfl
  show (execute { base with checkpointDraw, verifyingDraw }).exec s = _
  unfold execute
  rw [hcheck]
  dsimp only
  rw [exec_bind]
  simp only [transactNoting, Proc.exec]
  rw [show getJob base.jobId s = (.ok current, s) from hget]
  dsimp only
  rw [show checkPreconditions current.toJobRow base.expectedVersion base.workerId = .ok () from hpre]
  dsimp only
  rw [henter, hrefusal]
  rfl

end Execution

end AConductor.Job

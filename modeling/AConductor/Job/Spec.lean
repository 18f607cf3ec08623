import AConductor.Job.Store

namespace AConductor.Job

open Txn

/-- The event that stores `entry`. -/
def JobEntry.event (entry : JobEntry) (eventId : String) (sequenceNo : Int) : JobEvent :=
  { entry with eventId, sequenceNo }

/-- The store after a job's row was replaced and one event was appended. -/
def JobStore.replaced (s : JobStore) (new : JobRow) (event : JobEvent) : JobStore where
  records := Table.updateWhere (fun r => r.jobId = new.jobId) (fun _ => new) s.records
  events := s.events ++ [event]

/-- The primary key of `job_records`. -/
def JobStore.Keyed (s : JobStore) : Prop := Table.Unique JobRow.idKey s.records

variable {s s' : JobStore} {job : JobRuntimeState} {jobId : String} {draw : EventIdDraw}
  {e : JobFault}

theorem JobStore.Keyed.eq_of_jobId (h : s.Keyed) {a b : JobRow} (ha : a ∈ s.records)
    (hb : b ∈ s.records) (hab : a.jobId = b.jobId) : a = b :=
  h.eq_of_key ha hb (k := b.jobId) (by rw [JobRow.idKey, hab]) rfl

theorem JobStore.Keyed.replaced (h : s.Keyed) (new : JobRow) (event : JobEvent) :
    (s.replaced new event).Keyed := by
  apply Table.Unique.updateWhere h
  intro r hr
  left
  rw [decide_eq_true_eq] at hr
  simp only [JobRow.idKey, hr]

theorem mem_records_replaced {old new : JobRow} {event : JobEvent} (hold : old ∈ s.records)
    (hid : new.jobId = old.jobId) {r : JobRow} :
    r ∈ (s.replaced new event).records ↔ r = new ∨ (r ∈ s.records ∧ r.jobId ≠ new.jobId) := by
  unfold JobStore.replaced
  rw [Table.mem_updateWhere]
  constructor
  · rintro ⟨r₀, hr₀, heq⟩
    by_cases hj : r₀.jobId = new.jobId
    · left
      simpa [hj] using heq.symm
    · right
      have : r₀ = r := by simpa [hj] using heq
      subst this
      exact ⟨hr₀, hj⟩
  · rintro (rfl | ⟨hr, hj⟩)
    · exact ⟨old, hold, by simp [hid]⟩
    · exact ⟨r, hr, by simp [hj]⟩

theorem make_ok {r : JobRow} (h : JobRuntimeState.make r = .ok job) : job.toJobRow = r := by
  unfold JobRuntimeState.make at h
  split at h
  · cases h
    rfl
  · cases h

theorem wp_loadJob {Q : JobRuntimeState → JobStore → Prop}
    (hQ : ∀ job : JobRuntimeState, job.toJobRow ∈ s.records → job.jobId = jobId → Q job s) :
    wp (loadJob jobId) Q (fun _ _ => True) s := by
  unfold loadJob
  rw [wp_bind, wp_query]
  cases hf : s.records.find? (fun r => r.jobId = jobId) with
  | none => trivial
  | some row =>
    have hmem := List.mem_of_find?_eq_some hf
    have hid : row.jobId = jobId := by simpa using List.find?_some hf
    cases hm : JobRuntimeState.make row with
    | error e =>
      simp only [hm, Except.mapError, wp_ofExcept_error]
    | ok job =>
      have hjob := make_ok hm
      simp only [hm, Except.mapError, wp_ofExcept_ok]
      apply hQ job
      · rw [hjob]; exact hmem
      · rw [hjob]; exact hid

variable {Q : Unit → JobStore → Prop}

theorem wp_insertEvent {entry : JobEntry}
    (hQ : ∀ eventId, Q () { s with
      events := s.events ++ [entry.event eventId (s.nextSequence entry.jobId)] }) :
    wp (insertEvent draw entry) Q (fun _ _ => True) s := by
  unfold insertEvent
  rw [wp_bind]
  apply wp_ofExcept_of_ok
  intro eventId _
  simp only [wp_bind, wp_query, wp_require, implies_true, and_true, wp_update]
  intro _ _
  exact hQ eventId

theorem checkVersion_ok {current : JobRow} {expected : Int} {u : Unit}
    (h : checkVersion current expected = .ok u) : current.version = expected := by
  unfold checkVersion at h
  cases hp : requirePositiveInt expected "expected_version" with
  | error e => rw [hp] at h; cases h
  | ok _ =>
    rw [hp] at h
    by_contra hne
    simp only [bind, Except.bind] at h
    rw [if_pos hne] at h
    cases h

/-- The guarded update of a stored row is the replacement of that row, since its job
    has no other. -/
theorem updateWhere_guarded (hk : s.Keyed) {old : JobRow} (hold : old ∈ s.records)
    {f : JobRow → JobRow} (hid : (f old).jobId = old.jobId) :
    Table.updateWhere (fun r => r.jobId = old.jobId && r.version = old.version) f s.records =
      Table.updateWhere (fun r => r.jobId = (f old).jobId) (fun _ => f old) s.records := by
  apply List.map_congr_left
  intro r hr
  by_cases hj : r.jobId = old.jobId
  · have : r = old := hk.eq_of_jobId hr hold hj
    subst this
    simp [hid]
  · simp [hj, hid]

theorem wp_updateRecord (hk : s.Keyed) {old : JobRow} (hold : old ∈ s.records)
    {f : JobRow → JobRow} (hid : (f old).jobId = old.jobId)
    (hQ : Q () { s with
      records := Table.updateWhere (fun r => r.jobId = (f old).jobId) (fun _ => f old)
        s.records }) :
    wp (updateRecord old.jobId old.version f) Q (fun _ _ => True) s := by
  unfold updateRecord
  simp only [wp_bind, wp_query, wp_require, implies_true, and_true, wp_update]
  intro _
  rw [updateWhere_guarded hk hold hid]
  exact hQ

theorem nextSequence_records (s : JobStore) (records : List JobRow) (jobId : String) :
    JobStore.nextSequence { s with records := records } jobId = s.nextSequence jobId := rfl

variable {α : Type} {body : JobTxn α} {a : TransitionArgs}

theorem nameConflict_ok {out : Except JobFault α × JobStore} {a : α}
    (h : nameConflict out = (.ok a, s')) : out = (.ok a, s') := by
  unfold nameConflict at h
  split at h
  · cases h
  · exact h

theorem nameConflict_error (h : nameConflict (atomically body s) = (.error e, s')) : s' = s := by
  rcases ho : atomically body s with ⟨x, s₁⟩
  have hstore : ∀ e₁, x = .error e₁ → s₁ = s := by
    intro e₁ hx
    have hrolled : (atomically body s).2 = s := atomically_error (e := e₁) (by rw [ho, hx])
    rwa [ho] at hrolled
  rw [ho] at h
  unfold nameConflict at h
  split at h
  · rename_i heq
    cases heq
    cases h
    exact hstore _ rfl
  · cases h
    exact hstore e rfl

variable {args : Except JobFault Unit}

theorem checkedTxn_ok {a : α}
    (h : checkedTxn args body s = (.ok a, s')) : atomically body s = (.ok a, s') := by
  unfold checkedTxn at h
  cases args with
  | error e => cases h
  | ok u => exact nameConflict_ok h

theorem checkedTxn_error
    (h : checkedTxn args body s = (.error e, s')) : s' = s := by
  unfold checkedTxn at h
  cases args with
  | error e' =>
    cases h
    rfl
  | ok u => exact nameConflict_error h

/-- What `create_job` did when it returned `job`: the row is new, and the job has its
    first event. -/
def Created (s : JobStore) (job : JobRuntimeState) (s' : JobStore) : Prop :=
  (∀ r ∈ s.records, r.jobId ≠ job.jobId) ∧
  ∃ eventId, s' = {
    records := s.records ++ [job.toJobRow]
    events := s.events ++ [(createdEntry job.toJobRow).event eventId (s.nextSequence job.jobId)] }

/-- What `transition` did when it returned `job`: the row of the expected version was
    replaced by the one the plan describes. -/
def Transitioned (a : TransitionArgs) (s : JobStore) (job : JobRuntimeState) (s' : JobStore) :
    Prop :=
  ∃ old ∈ s.records, ∃ plan eventId,
    old.jobId = a.jobId ∧ old.version = a.expectedVersion ∧
    planJobTransition old a.targetState a.workerId a.recoveryClassification = .ok plan ∧
    job.toJobRow = old.transitioned plan ∧
    s' = s.replaced (old.transitioned plan)
      ((transitionEntry old plan a.evidenceRef).event eventId (s.nextSequence a.jobId))

/-- What `checkpoint` did when it returned `job`: only the version of the row changed. -/
def Checkpointed (a : CheckpointArgs) (s : JobStore) (job : JobRuntimeState) (s' : JobStore) :
    Prop :=
  ∃ old ∈ s.records, ∃ eventId,
    old.jobId = a.jobId ∧ old.version = a.expectedVersion ∧ requireOpen old.state = .ok () ∧
    job.toJobRow = old.checkpointed ∧
    s' = s.replaced old.checkpointed
      ((checkpointEntry old a.checkpointRef a.evidenceRef).event eventId (s.nextSequence a.jobId))

theorem createBody_spec :
    wp (createBody job draw) (fun job' s' => job' = job ∧ Created s job s') (fun _ _ => True) s := by
  unfold createBody insertRecord
  simp only [wp_bind, wp_query, wp_require, implies_true, and_true, wp_update]
  intro hfresh _ _
  apply wp_insertEvent
  intro eventId
  refine ⟨rfl, ?_, eventId, rfl⟩
  intro r hr heq
  simp only [Bool.not_eq_true', List.any_eq_false] at hfresh
  exact hfresh r hr (by simpa using heq)

theorem createJob_ok {jobId workOrderRef projectId : String} {maxAttempts : Int}
    (h : createJob jobId workOrderRef projectId maxAttempts draw s = (.ok job, s')) :
    newJobState jobId workOrderRef projectId maxAttempts = .ok job ∧ Created s job s' := by
  unfold createJob at h
  cases hn : newJobState jobId workOrderRef projectId maxAttempts with
  | error e => rw [hn] at h; cases h
  | ok new =>
    rw [hn] at h
    obtain ⟨rfl, hcreated⟩ := atomically_ok createBody_spec (nameConflict_ok h)
    exact ⟨rfl, hcreated⟩

theorem createJob_error {jobId workOrderRef projectId : String} {maxAttempts : Int}
    (h : createJob jobId workOrderRef projectId maxAttempts draw s = (.error e, s')) : s' = s := by
  unfold createJob at h
  cases hn : newJobState jobId workOrderRef projectId maxAttempts with
  | error e' =>
    rw [hn] at h
    cases h
    rfl
  | ok new =>
    rw [hn] at h
    exact nameConflict_error h

theorem transitionBody_spec (hk : s.Keyed) :
    wp (transitionBody a draw) (Transitioned a s) (fun _ _ => True) s := by
  unfold transitionBody
  rw [wp_bind]
  apply wp_loadJob
  intro current hmem hid
  rw [wp_bind]
  apply wp_ofExcept_of_ok
  intro _ hversion
  rw [wp_bind]
  apply wp_ofExcept_of_ok
  intro plan hplan
  rw [wp_bind]
  refine wp_updateRecord hk hmem rfl ?_
  rw [wp_bind]
  apply wp_insertEvent
  intro eventId
  apply wp_ofExcept_of_ok
  intro job' hmake
  refine ⟨current.toJobRow, hmem, plan, eventId, hid, checkVersion_ok hversion, hplan,
    make_ok hmake, ?_⟩
  rw [nextSequence_records]
  simp only [JobStore.replaced, transitionEntry, hid]

theorem transition_ok (hk : s.Keyed) (h : transition a draw s = (.ok job, s')) :
    Transitioned a s job s' := atomically_ok (transitionBody_spec hk) (checkedTxn_ok h)

theorem transition_error (h : transition a draw s = (.error e, s')) : s' = s := checkedTxn_error h

theorem checkpointBody_spec {a : CheckpointArgs} (hk : s.Keyed) :
    wp (checkpointBody a draw) (Checkpointed a s) (fun _ _ => True) s := by
  unfold checkpointBody
  rw [wp_bind]
  apply wp_loadJob
  intro current hmem hid
  rw [wp_bind]
  apply wp_ofExcept_of_ok
  intro _ hversion
  rw [wp_bind]
  apply wp_ofExcept_of_ok
  intro _ hopen
  rw [wp_bind]
  refine wp_updateRecord hk hmem rfl ?_
  rw [wp_bind]
  apply wp_insertEvent
  intro eventId
  apply wp_ofExcept_of_ok
  intro job' hmake
  refine ⟨current.toJobRow, hmem, eventId, hid, checkVersion_ok hversion, hopen,
    make_ok hmake, ?_⟩
  rw [nextSequence_records]
  simp only [JobStore.replaced, checkpointEntry, hid]

theorem checkpoint_ok {a : CheckpointArgs}
    (hk : s.Keyed) (h : checkpoint a draw s = (.ok job, s')) :
    Checkpointed a s job s' := atomically_ok (checkpointBody_spec hk) (checkedTxn_ok h)

theorem checkpoint_error {a : CheckpointArgs}
    (h : checkpoint a draw s = (.error e, s')) : s' = s := checkedTxn_error h

theorem getJob_ok (h : getJob jobId s = (.ok job, s')) :
    s' = s ∧ job.toJobRow ∈ s.records ∧ job.jobId = jobId := by
  have spec : wp (loadJob jobId)
      (fun job s' => s' = s ∧ job.toJobRow ∈ s.records ∧ job.jobId = jobId) (fun _ _ => True) s :=
    wp_loadJob fun job hmem hid => ⟨rfl, hmem, hid⟩
  have hread := atomically_ok spec (checkedTxn_ok h)
  exact hread

/-- A listing returns the events of the job, in the order of their numbers. -/
theorem listEvents_ok {events : List JobEvent} (h : listEvents jobId s = (.ok events, s')) :
    s' = s ∧ events = bySequence (s.eventsOf jobId) := by
  have spec : wp (listEventsBody jobId)
      (fun events s' => s' = s ∧ events = bySequence (s.eventsOf jobId)) (fun _ _ => True) s := by
    unfold listEventsBody
    simp only [wp_bind, wp_query, wp_require, implies_true, and_true]
    intro _ _
    exact ⟨rfl, rfl⟩
  have hread := atomically_ok spec (checkedTxn_ok h)
  exact hread

theorem listEvents_error (h : listEvents jobId s = (.error e, s')) : s' = s := checkedTxn_error h

theorem getJob_error (h : getJob jobId s = (.error e, s')) : s' = s := checkedTxn_error h

end AConductor.Job

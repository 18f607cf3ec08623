import AConductor.Job.Spec
import AConductor.Lib.Machine
import AConductor.Lib.Numbering

namespace AConductor.Job

open Numbering List

/-- A write of the store, with the event id it draws. -/
inductive JobCall where
  | createJob (jobId workOrderRef projectId : String) (maxAttempts : Int) (draw : EventIdDraw)
  | transition (args : TransitionArgs) (draw : EventIdDraw)
  | checkpoint (args : CheckpointArgs) (draw : EventIdDraw)
  deriving DecidableEq, Repr

/-- Perform one write. -/
def jobStep (s : JobStore) : JobCall → Except JobFault JobRuntimeState × JobStore
  | .createJob jobId workOrderRef projectId maxAttempts draw =>
    createJob jobId workOrderRef projectId maxAttempts draw s
  | .transition args draw => transition args draw s
  | .checkpoint args draw => checkpoint args draw s

/-- What the log says about a job. -/
structure JobProjection where
  state : TaskState
  workerId : Option String
  recoveryClassification : Option RecoveryClassification
  attemptCount : Int
  deriving DecidableEq, Repr

def JobRow.projection (r : JobRow) : JobProjection :=
  ⟨r.state, r.workerId, r.recoveryClassification, r.attemptCount⟩

/-- The event moves its job into `EXECUTING`. -/
def JobEvent.intoExecuting (e : JobEvent) : Bool :=
  e.eventType = .transition && e.toState = some .executing

/-- The reading of one event. A creation starts a job, a transition moves it and
    counts an attempt when it enters `EXECUTING`, a checkpoint leaves it where it is;
    an event that names no state is unreadable. -/
def applyEvent (p : Option JobProjection) (e : JobEvent) : Option JobProjection :=
  match e.eventType, e.toState with
  | .created, some state => some ⟨state, e.workerId, e.recoveryClassification, 0⟩
  | .transition, some state => p.map fun q =>
      ⟨state, e.workerId, e.recoveryClassification,
        if state = .executing then q.attemptCount + 1 else q.attemptCount⟩
  | .checkpoint, some _ => p
  | _, none => none

/-- Fold a log from its creation event. -/
def replay (events : List JobEvent) : Option JobProjection := events.foldl applyEvent none

theorem replay_append (events : List JobEvent) (e : JobEvent) :
    replay (events ++ [e]) = applyEvent (replay events) e := by
  simp [replay, foldl_append]

/-- The log of a record: it numbers the versions, it replays to the record, and its
    transitions into `EXECUTING` are the attempts, within the budget. -/
structure Logged (r : JobRow) (events : List JobEvent) : Prop where
  version : r.version = events.length
  sequence : events.map JobEvent.sequenceNo = upTo events.length
  replayed : replay events = some r.projection
  attempts : r.attemptCount = (events.filter JobEvent.intoExecuting).length
  budget : r.attemptCount ≤ r.maxAttempts

variable {s s' : JobStore} {classification : Option RecoveryClassification}
  {plan : JobTransitionPlan} {job : JobRuntimeState}

variable {jobId workOrderRef projectId : String} {r : JobRow}

/-- A log of `n` events is continued with number `n + 1`. -/
theorem nextSequence_of_sequence
    (h : (s.eventsOf jobId).map JobEvent.sequenceNo = upTo (s.eventsOf jobId).length) :
    s.nextSequence jobId = (s.eventsOf jobId).length + 1 := by
  unfold JobStore.nextSequence
  rw [h, ← max?_next]
  cases (upTo (s.eventsOf jobId).length).max? with
  | none => rfl
  | some m => rfl

theorem Logged.nextSequence (h : Logged r (s.eventsOf r.jobId)) :
    s.nextSequence r.jobId = r.version + 1 := by
  rw [nextSequence_of_sequence h.sequence, h.version]

/-! ### The successor of a record -/

/-- The plan moves to the target, and counts an attempt exactly when that is
    `EXECUTING`, within the budget. -/
theorem planJobTransition_ok {target : TaskState} {workerId : Option String}
    (h : planJobTransition r target workerId classification = .ok plan) :
    plan.targetState = target ∧
      plan.attemptCount = (if target = .executing then r.attemptCount + 1 else r.attemptCount) ∧
      (target = .executing → r.attemptCount < r.maxAttempts) := by
  unfold planJobTransition at h
  simp only [Except.bind_eq_ok] at h
  obtain ⟨_, _, _, _, owner, _, attempts, hattempts, hplan⟩ := h
  cases hplan
  unfold planAttempts at hattempts
  by_cases ht : target = .executing
  · rw [if_pos ht] at hattempts
    by_cases hb : r.maxAttempts ≤ r.attemptCount
    · rw [if_pos hb] at hattempts
      cases hattempts
    · rw [if_neg hb] at hattempts
      cases hattempts
      simp only [ht, if_true, true_and]
      intro _
      omega
  · rw [if_neg ht] at hattempts
    cases hattempts
    simp [ht]

/-- `EXECUTING` is entered from `GATING`, under the worker that holds the claim. -/
theorem planJobTransition_executing {workerId : String}
    (h : planJobTransition r .executing (some workerId) classification = .ok plan) :
    r.state = .gating ∧ r.workerId = some workerId ∧ plan.workerId = some workerId := by
  unfold planJobTransition at h
  simp only [Except.bind_eq_ok] at h
  obtain ⟨_, _, _, _, owner, howner, attempts, _, hplan⟩ := h
  cases hplan
  unfold planOwner at howner
  by_cases hrecovery : r.state = .recoveryNeeded
  · rw [if_pos hrecovery] at howner
    unfold planRecovery at howner
    split at howner
    · cases howner
    · rename_i c _
      rw [if_pos (by cases c <;> simp [recoveryTarget])] at howner
      cases howner
  · rw [if_neg hrecovery] at howner
    unfold planOrdinary at howner
    by_cases hallowed : TaskState.executing ∈ allowedTransitions r.state
    · have hstate : r.state = .gating := by
        revert hallowed
        cases r.state <;> simp [allowedTransitions]
      rw [if_neg (by simpa using hallowed)] at howner
      simp only [Except.bind_eq_ok] at howner
      obtain ⟨worker, hworker, recovery, _, hout⟩ := howner
      cases hout
      unfold planWorker at hworker
      by_cases hsame : some workerId = r.workerId
      · simp only [reduceCtorEq, if_false, hsame, ne_eq, not_true_eq_false, and_false] at hworker
        cases hworker
        exact ⟨hstate, hsame.symm, by simp [releasesClaim, hsame]⟩
      · simp [hsame] at hworker
    · rw [if_pos hallowed] at howner
      cases howner

/-- The state and worker that a log replays to were recorded by one of its events. -/
theorem replay_source {events : List JobEvent} {p : JobProjection}
    (h : replay events = some p) :
    ∃ e ∈ events, e.eventType ≠ .checkpoint ∧ e.toState = some p.state ∧
      e.workerId = p.workerId := by
  induction events using List.reverseRecOn generalizing p with
  | nil => cases h
  | append_singleton init e ih =>
    rw [replay_append] at h
    unfold applyEvent at h
    split at h
    · rename_i htype hto
      cases h
      exact ⟨e, by simp, by rw [htype]; simp, hto, rfl⟩
    · rename_i htype hto
      obtain ⟨q, -, rfl⟩ := Option.map_eq_some_iff.mp h
      exact ⟨e, by simp, by rw [htype]; simp, hto, rfl⟩
    · obtain ⟨e', he', hsource⟩ := ih h
      exact ⟨e', mem_append_left _ he', hsource⟩
    · cases h

theorem Logged.transitioned {events : List JobEvent} (h : Logged r events) {target : TaskState}
    {workerId : Option String}
    (hplan : planJobTransition r target workerId classification = .ok plan)
    (evidenceRef : Option String) (eventId : String) {sequenceNo : Int}
    (hseq : sequenceNo = r.version + 1) :
    Logged (r.transitioned plan)
      (events ++ [(transitionEntry r plan evidenceRef).event eventId sequenceNo]) := by
  obtain ⟨htarget, hattempts, hbudget⟩ := planJobTransition_ok hplan
  have hversion := h.version
  have hcount := h.attempts
  constructor
  · simp only [JobRow.transitioned, length_append, length_singleton]
    omega
  · rw [map_append, h.sequence, length_append, length_singleton, upTo_succ]
    simp only [map_cons, map_nil, JobEntry.event]
    rw [hseq, hversion]
  · rw [replay_append, h.replayed]
    simp only [applyEvent, JobEntry.event, transitionEntry, JobRow.projection, JobRow.transitioned,
      Option.map_some, hattempts, htarget]
  · rw [filter_append]
    simp only [JobRow.transitioned, hattempts, length_append]
    by_cases ht : target = .executing
    · simp [JobEvent.intoExecuting, JobEntry.event, transitionEntry, htarget, ht]
      omega
    · simp [JobEvent.intoExecuting, JobEntry.event, transitionEntry, htarget, ht]
      omega
  · have hb := h.budget
    simp only [JobRow.transitioned, hattempts]
    by_cases ht : target = .executing
    · have := hbudget ht
      simp only [ht, if_true]
      omega
    · simp only [ht, if_false]
      omega

theorem Logged.checkpointed {r : JobRow} {events : List JobEvent} (h : Logged r events)
    (checkpointRef : String) (evidenceRef : Option String) (eventId : String) {sequenceNo : Int}
    (hseq : sequenceNo = r.version + 1) :
    Logged r.checkpointed
      (events ++ [(checkpointEntry r checkpointRef evidenceRef).event eventId sequenceNo]) := by
  have hversion := h.version
  constructor
  · simp only [JobRow.checkpointed, length_append, length_singleton]
    omega
  · rw [map_append, h.sequence, length_append, length_singleton, upTo_succ]
    simp only [map_cons, map_nil, JobEntry.event]
    rw [hseq, hversion]
  · rw [replay_append, h.replayed]
    simp only [applyEvent, JobEntry.event, checkpointEntry, JobRow.projection, JobRow.checkpointed]
  · rw [filter_append]
    simpa [JobEvent.intoExecuting, JobEntry.event, checkpointEntry, JobRow.checkpointed]
      using h.attempts
  · exact h.budget

/-! ### The store -/

/-- Every record has its log, and every event its record. -/
structure JobsLogged (s : JobStore) : Prop where
  keyed : s.Keyed
  logged : ∀ r ∈ s.records, Logged r (s.eventsOf r.jobId)
  owned : ∀ e ∈ s.events, ∃ r ∈ s.records, r.jobId = e.jobId

theorem jobsLogged_empty : JobsLogged JobStore.empty := by
  refine ⟨Table.unique_nil _, ?_, ?_⟩
  · intro r hr
    cases hr
  · intro e he
    cases he

theorem eventsOf_append {event : JobEvent} (h : s'.events = s.events ++ [event]) (jobId : String) :
    s'.eventsOf jobId =
      if event.jobId = jobId then s.eventsOf jobId ++ [event] else s.eventsOf jobId := by
  unfold JobStore.eventsOf
  rw [h, filter_append]
  by_cases hj : event.jobId = jobId
  · simp [hj]
  · simp [hj]

theorem JobsLogged.replaced (h : JobsLogged s) {old new : JobRow} {event : JobEvent}
    (hold : old ∈ s.records) (hid : new.jobId = old.jobId) (hevent : event.jobId = old.jobId)
    (hlog : Logged new (s.eventsOf old.jobId ++ [event])) : JobsLogged (s.replaced new event) := by
  have hevents : (s.replaced new event).events = s.events ++ [event] := rfl
  refine ⟨h.keyed.replaced new event, ?_, ?_⟩
  · intro r hr
    rw [eventsOf_append hevents]
    rcases (mem_records_replaced hold hid).mp hr with rfl | ⟨hr', hne⟩
    · rw [if_pos (hevent.trans hid.symm), hid]
      exact hlog
    · rw [if_neg (by rw [hevent, ← hid]; exact fun heq => hne heq.symm)]
      exact h.logged r hr'
  · -- a replaced row keeps its job, so the owner of an event is found where it was
    have kept : ∀ r ∈ s.records, ∃ r' ∈ (s.replaced new event).records, r'.jobId = r.jobId := by
      intro r hr
      by_cases hj : r.jobId = new.jobId
      · exact ⟨new, (mem_records_replaced hold hid).mpr (.inl rfl), hj.symm⟩
      · exact ⟨r, (mem_records_replaced hold hid).mpr (.inr ⟨hr, hj⟩), rfl⟩
    intro e he
    rw [hevents, mem_append, mem_singleton] at he
    rcases he with he | rfl
    · obtain ⟨r, hr, hre⟩ := h.owned e he
      obtain ⟨r', hr', hr'e⟩ := kept r hr
      exact ⟨r', hr', hr'e.trans hre⟩
    · obtain ⟨r', hr', hr'e⟩ := kept old hold
      exact ⟨r', hr', hr'e.trans hevent.symm⟩

theorem JobsLogged.eventsOf_eq_nil (h : JobsLogged s) (hfresh : ∀ r ∈ s.records, r.jobId ≠ jobId) :
    s.eventsOf jobId = [] := by
  unfold JobStore.eventsOf
  rw [filter_eq_nil_iff]
  intro e he hj
  obtain ⟨r, hr, hre⟩ := h.owned e he
  exact hfresh r hr (hre.trans (by simpa using hj))

theorem newJobState_row {maxAttempts : Int}
    (h : newJobState jobId workOrderRef projectId maxAttempts = .ok job) :
    job.state = .new ∧ job.workerId = none ∧ job.recoveryClassification = none ∧
      job.attemptCount = 0 ∧ job.version = 1 := by
  have hrow := make_ok h
  rw [hrow]
  exact ⟨rfl, rfl, rfl, rfl, rfl⟩

theorem JobRow.check_maxAttempts (h : r.check = .ok ()) : r.attemptCount ≤ r.maxAttempts := by
  by_contra hlt
  unfold JobRow.check at h
  simp only [Except.bind_eq_ok] at h
  obtain ⟨_, _, _, _, _, _, _, _, _, _, _, _, h⟩ := h
  rw [if_pos (by omega)] at h
  cases h

theorem Logged.created (hstate : job.state = .new) (hworker : job.workerId = none)
    (hrecovery : job.recoveryClassification = none) (hattempts : job.attemptCount = 0)
    (hversion : job.version = 1) (eventId : String) :
    Logged job.toJobRow [(createdEntry job.toJobRow).event eventId 1] := by
  constructor
  · simpa using hversion
  · rfl
  · simp [replay, applyEvent, createdEntry, JobEntry.event, JobRow.projection, hstate, hworker,
      hrecovery, hattempts]
  · simpa [JobEvent.intoExecuting, createdEntry, JobEntry.event] using hattempts
  · exact JobRow.check_maxAttempts job.checked

theorem JobsLogged.created (h : JobsLogged s)
    {maxAttempts : Int} (hnew : newJobState jobId workOrderRef projectId maxAttempts = .ok job)
    (hc : Created s job s') : JobsLogged s' := by
  obtain ⟨hfresh, eventId, rfl⟩ := hc
  obtain ⟨hstate, hworker, hrecovery, hattempts, hversion⟩ := newJobState_row hnew
  have hnone := h.eventsOf_eq_nil hfresh
  have hseq : s.nextSequence job.jobId = 1 := by
    rw [nextSequence_of_sequence (by rw [hnone]; rfl), hnone]
    rfl
  rw [hseq]
  set event := (createdEntry job.toJobRow).event eventId 1 with hevent
  have hjob : event.jobId = job.jobId := rfl
  refine ⟨?_, ?_, ?_⟩
  · apply Table.Unique.insert h.keyed
    rw [Table.conflicts_eq_false]
    intro r hr k hk hrk
    exact hfresh r hr (Option.some.inj (hrk.trans hk.symm))
  · intro r hr
    rw [eventsOf_append (show _ = s.events ++ [event] from rfl), hjob]
    rcases mem_append.mp hr with hr' | hr'
    · rw [if_neg (fun heq => hfresh r hr' heq.symm)]
      exact h.logged r hr'
    · rw [mem_singleton] at hr'
      subst hr'
      rw [if_pos rfl, hnone]
      exact Logged.created hstate hworker hrecovery hattempts hversion eventId
  · intro e he
    rcases mem_append.mp he with he' | he'
    · obtain ⟨r, hr, hre⟩ := h.owned e he'
      exact ⟨r, mem_append_left _ hr, hre⟩
    · rw [mem_singleton] at he'
      subst he'
      exact ⟨job.toJobRow, by simp, rfl⟩

theorem JobsLogged.transitioned (h : JobsLogged s) {a : TransitionArgs}
    (ht : Transitioned a s job s') : JobsLogged s' := by
  obtain ⟨old, hold, plan, eventId, hid, -, hplan, -, rfl⟩ := ht
  have hlog := h.logged old hold
  refine h.replaced hold rfl rfl (hlog.transitioned hplan _ eventId ?_)
  rw [← hid]
  exact hlog.nextSequence

theorem JobsLogged.checkpointed {s s' : JobStore} (h : JobsLogged s) {job : JobRuntimeState}
    {a : CheckpointArgs} (hc : Checkpointed a s job s') : JobsLogged s' := by
  obtain ⟨old, hold, eventId, hid, -, -, -, rfl⟩ := hc
  have hlog := h.logged old hold
  refine h.replaced hold rfl rfl (hlog.checkpointed _ _ eventId ?_)
  rw [← hid]
  exact hlog.nextSequence

/-! ### Runs -/

/-- What one write can do: raise and change nothing, or commit. -/
inductive JobWrite (s : JobStore) (job : JobRuntimeState) (s' : JobStore) : Prop where
  | created {jobId workOrderRef projectId : String} {maxAttempts : Int}
      (hnew : newJobState jobId workOrderRef projectId maxAttempts = .ok job)
      (h : Created s job s')
  | transitioned {a : TransitionArgs} (h : Transitioned a s job s')
  | checkpointed {a : CheckpointArgs} (h : Checkpointed a s job s')

theorem jobStep_ok (hk : s.Keyed) {call : JobCall} (h : jobStep s call = (.ok job, s')) :
    JobWrite s job s' := by
  cases call with
  | createJob jobId workOrderRef projectId maxAttempts draw =>
    obtain ⟨hnew, hc⟩ := createJob_ok h
    exact .created hnew hc
  | transition args draw => exact .transitioned (transition_ok hk h)
  | checkpoint args draw => exact .checkpointed (checkpoint_ok hk h)

theorem jobStep_error {call : JobCall} {e : JobFault} (h : jobStep s call = (.error e, s')) :
    s' = s := by
  cases call with
  | createJob jobId workOrderRef projectId maxAttempts draw => exact createJob_error h
  | transition args draw => exact transition_error h
  | checkpoint args draw => exact checkpoint_error h

theorem JobWrite.jobsLogged (hw : JobWrite s job s') (h : JobsLogged s) : JobsLogged s' := by
  cases hw with
  | created hnew hc => exact h.created hnew hc
  | transitioned ht => exact h.transitioned ht
  | checkpointed hc => exact h.checkpointed hc

/-- A committed write appends one event, numbered by the version it produced. -/
theorem JobWrite.event (hw : JobWrite s job s')
    (h : JobsLogged s) : ∃ event : JobEvent, s'.events = s.events ++ [event] ∧
      event.jobId = job.jobId ∧ event.sequenceNo = job.version := by
  cases hw with
  | created hnew hc =>
    obtain ⟨hfresh, eventId, rfl⟩ := hc
    obtain ⟨-, -, -, -, hversion⟩ := newJobState_row hnew
    have hnone := h.eventsOf_eq_nil hfresh
    refine ⟨_, rfl, rfl, ?_⟩
    rw [hversion]
    show s.nextSequence job.jobId = 1
    rw [nextSequence_of_sequence (by rw [hnone]; rfl), hnone]
    rfl
  | transitioned ht =>
    obtain ⟨old, hold, plan, eventId, hid, -, -, hjob, rfl⟩ := ht
    refine ⟨_, rfl, by rw [hjob]; rfl, ?_⟩
    rw [hjob, ← hid]
    exact (h.logged old hold).nextSequence
  | checkpointed hc =>
    obtain ⟨old, hold, eventId, hid, -, -, hjob, rfl⟩ := hc
    refine ⟨_, rfl, by rw [hjob]; rfl, ?_⟩
    rw [hjob, ← hid]
    exact (h.logged old hold).nextSequence

/-- What no writer takes back: a job keeps its identity and budget, its version and its
    attempts only grow, and its events stay. -/
structure JobStore.Grows (s s' : JobStore) : Prop where
  records : ∀ r ∈ s.records, ∃ r' ∈ s'.records, r'.jobId = r.jobId ∧ r'.maxAttempts = r.maxAttempts ∧
    r.version ≤ r'.version ∧ r.attemptCount ≤ r'.attemptCount
  events : s.events <+: s'.events

theorem JobStore.Grows.refl (s : JobStore) : s.Grows s :=
  ⟨fun r hr => ⟨r, hr, rfl, rfl, le_refl _, le_refl _⟩, prefix_refl _⟩

theorem grows_replaced (hk : s.Keyed) {old new : JobRow} {event : JobEvent} (hold : old ∈ s.records)
    (hid : new.jobId = old.jobId) (hmax : new.maxAttempts = old.maxAttempts)
    (hversion : old.version ≤ new.version) (hattempts : old.attemptCount ≤ new.attemptCount) :
    s.Grows (s.replaced new event) := by
  refine ⟨?_, ⟨[event], rfl⟩⟩
  intro r hr
  by_cases hj : r.jobId = new.jobId
  · have : r = old := hk.eq_of_jobId hr hold (hj.trans hid)
    subst this
    exact ⟨new, (mem_records_replaced hold hid).mpr (.inl rfl), hid, hmax, hversion, hattempts⟩
  · exact ⟨r, (mem_records_replaced hold hid).mpr (.inr ⟨hr, hj⟩), rfl, rfl, le_refl _, le_refl _⟩

theorem JobWrite.grows (hw : JobWrite s job s') (hk : s.Keyed) : s.Grows s' := by
  cases hw with
  | created hnew hc =>
    obtain ⟨-, eventId, rfl⟩ := hc
    refine ⟨?_, ⟨_, rfl⟩⟩
    intro r hr
    exact ⟨r, mem_append_left _ hr, rfl, rfl, le_refl _, le_refl _⟩
  | transitioned ht =>
    obtain ⟨old, hold, plan, eventId, -, -, hplan, -, rfl⟩ := ht
    obtain ⟨-, hattempts, -⟩ := planJobTransition_ok hplan
    refine grows_replaced hk hold rfl rfl ?_ ?_
    · simp only [JobRow.transitioned]
      omega
    · simp only [JobRow.transitioned, hattempts]
      split <;> omega
  | checkpointed hc =>
    obtain ⟨old, hold, eventId, -, -, -, -, rfl⟩ := hc
    refine grows_replaced hk hold rfl rfl ?_ (le_refl _)
    simp only [JobRow.checkpointed]
    omega

/-- A write keeps the logs and only lets the store grow, whether it commits or not. -/
theorem jobStep_grows (h : JobsLogged s) (call : JobCall) :
    JobsLogged (jobStep s call).2 ∧ s.Grows (jobStep s call).2 := by
  rcases hout : jobStep s call with ⟨r, s'⟩
  cases r with
  | error e =>
    have hsame : s' = s := jobStep_error hout
    subst hsame
    exact ⟨h, JobStore.Grows.refl _⟩
  | ok job =>
    have hw := jobStep_ok h.keyed hout
    exact ⟨hw.jobsLogged h, hw.grows h.keyed⟩

/-- The version a call produced for a job, when it succeeded on that job. -/
def writtenVersion (jobId : String) (entry : JobCall × Except JobFault JobRuntimeState) :
    Option Int :=
  match entry.2 with
  | .ok job => if job.jobId = jobId then some job.version else none
  | .error _ => none

/-- The versions that the writes of a history produced are the numbers of the log. -/
def HistoryLogged (history : List (JobCall × Except JobFault JobRuntimeState)) (s : JobStore) :
    Prop :=
  JobsLogged s ∧
    ∀ jobId, history.filterMap (writtenVersion jobId) = (s.eventsOf jobId).map JobEvent.sequenceNo

theorem historyLogged_step {history : List (JobCall × Except JobFault JobRuntimeState)}
    (h : HistoryLogged history s) (call : JobCall) :
    HistoryLogged (history ++ [(call, (jobStep s call).1)]) (jobStep s call).2 := by
  obtain ⟨hlogged, hversions⟩ := h
  rcases hout : jobStep s call with ⟨r, s'⟩
  cases r with
  | error e =>
    have hsame : s' = s := jobStep_error hout
    subst hsame
    refine ⟨hlogged, ?_⟩
    intro jobId
    rw [filterMap_append, hversions]
    simp [writtenVersion]
  | ok job =>
    have hw := jobStep_ok hlogged.keyed hout
    refine ⟨hw.jobsLogged hlogged, ?_⟩
    intro jobId
    obtain ⟨event, hevents, hjob, hseq⟩ := hw.event hlogged
    rw [filterMap_append, hversions, eventsOf_append hevents, hjob]
    by_cases hj : job.jobId = jobId
    · simp [writtenVersion, hj, hseq]
    · simp [writtenVersion, hj]

/-- Over every run of the store, by any interleaving of writers: a record's version is
    the number of its events, which are numbered `1, …, version`; replaying them gives
    the record's state, worker, classification and attempts; the attempts are the
    transitions into `EXECUTING` and stay within the budget; the successful writes of a
    job produced the versions `1, …, version`, each once and in this order; and a write
    that raises changes nothing. -/
theorem job_log_reproduces_record (calls : List JobCall) :
    let out := Machine.run jobStep JobStore.empty calls
    (∀ r ∈ out.2.records,
      r.version = (out.2.eventsOf r.jobId).length ∧
      (out.2.eventsOf r.jobId).map JobEvent.sequenceNo = upTo r.version.toNat ∧
      replay (out.2.eventsOf r.jobId) = some r.projection ∧
      r.attemptCount = ((out.2.eventsOf r.jobId).filter JobEvent.intoExecuting).length ∧
      r.attemptCount ≤ r.maxAttempts ∧
      out.1.filterMap (writtenVersion r.jobId) = upTo r.version.toNat) ∧
    (∀ call e, (jobStep out.2 call).1 = .error e → (jobStep out.2 call).2 = out.2) := by
  intro out
  have inv : HistoryLogged out.1 out.2 :=
    Machine.run_induction (P := HistoryLogged) ⟨jobsLogged_empty, fun _ => rfl⟩
      (fun _ _ call h => historyLogged_step h call) calls
  refine ⟨?_, fun call e he => jobStep_error (Prod.ext he rfl)⟩
  intro r hr
  have hlog := inv.1.logged r hr
  have hlen : r.version.toNat = (out.2.eventsOf r.jobId).length := by
    rw [hlog.version]
    simp
  refine ⟨hlog.version, ?_, hlog.replayed, hlog.attempts, hlog.budget, ?_⟩
  · rw [hlen]
    exact hlog.sequence
  · rw [inv.2, hlen]
    exact hlog.sequence

end AConductor.Job

import AConductor.Job.EventSourcing
import AConductor.WorkerLease.ExistingHealth

/-!
# Closing a goal: the evidence

`src/a_conductor/production_closeout_observation.py:733-812`. The journal is read again at the end
of the call; the job and the leases are read once, one after the other.
-/

namespace AConductor.Closeout

open Job Lease Except

/-- The two stores. -/
structure Authorities where
  jobs : JobStore
  leases : LeaseStore

/-- Another party commits a transaction, or nothing happens. -/
inductive Authorities.Moves (w : Authorities) : Authorities → Prop where
  | idle : w.Moves w
  | job (call : JobCall) : w.Moves { w with jobs := (jobStep w.jobs call).2 }
  | lease (call : LeaseCall) : w.Moves { w with leases := (leaseStep w.leases call).2 }

/-- The references of `completed_closeout_checkpoint_refs` (`goal_closeout_assembly.py:168-172`). -/
def checkpointRefs (events : List JobEvent) : List String :=
  (events.filter fun e => e.eventType = .checkpoint).filterMap fun e =>
    e.checkpointRef.filter (· ≠ "")

/-- `_durable_refs`. -/
def durableRefs (jobId : String) (s : JobStore) : Except String (List String) :=
  match (listEvents jobId s).1 with
  | .ok events => .ok (checkpointRefs events)
  | .error _ => .error "CHECKPOINT_JOURNAL_READ_FAILED"

/-- `_job_state`. -/
def jobState (jobId : String) (s : JobStore) : Except String TaskState :=
  match (getJob jobId s).1 with
  | .ok job => .ok job.state
  | .error _ => .error "DURABLE_JOB_READ_FAILED"

/-- `_own_lease_health`: nothing without a lease id, and no health where it is unavailable. -/
def ownLeaseHealth (leaseId : Option String) (now : TimeArg) (s : LeaseStore) :
    Option (Option LeaseHealth) :=
  leaseId.map fun id => (inspectHealth id now s).1.toOption

/-- `SQLiteWorkerLeaseStore.list_active` (`worker_lease.py:1490-1498`). -/
def listActive (s : LeaseStore) : List WorkerLease :=
  (s.leases.filter WorkerLease.unreleased).insertionSort fun a b =>
    a.workerId < b.workerId ∨ a.workerId = b.workerId ∧ a.leaseId ≤ b.leaseId

/-- What the call reads of the stores. -/
structure DurableFacts where
  refs : List String
  jobState : TaskState
  ownHealth : Option (Option LeaseHealth)
  activeLeases : List WorkerLease

/-- The arguments, and what the other authorities do in the call: the review, the first look at
    Git, the merge and its run; the second look at Git; the comparison of the two looks and the
    composition. -/
structure EvidenceCall (γ β : Type) where
  jobId : String
  leaseId : Option String
  now : TimeArg
  outside : Except String γ
  gitLast : Except String Unit
  compose : DurableFacts → γ → Except String β

/-- The instants of the five reads of the stores. -/
structure Instants where
  first : Nat
  job : Nat
  own : Nat
  active : Nat
  last : Nat
  ordered : first ≤ job ∧ job ≤ own ∧ own ≤ active ∧ active ≤ last

variable {γ β : Type}

/-- `evidence` over the states of the stores, with the facts of its bundle. -/
def evidence (call : EvidenceCall γ β) (world : Nat → Authorities) (t : Instants) :
    Except String (DurableFacts × β) := do
  let first ← durableRefs call.jobId (world t.first).jobs
  let state ← jobState call.jobId (world t.job).jobs
  let own := ownLeaseHealth call.leaseId call.now (world t.own).leases
  let active := listActive (world t.active).leases
  let outside ← call.outside
  let last ← durableRefs call.jobId (world t.last).jobs
  call.gitLast
  rejectIf (¬ (first ⊆ last ∧ last ⊆ first)) "CHECKPOINT_JOURNAL_DRIFT"
  let facts : DurableFacts := ⟨last, state, own, active⟩
  return (facts, ← call.compose facts outside)

/-- All the facts hold of one state. -/
def EvidenceCall.HeldAt (call : EvidenceCall γ β) (facts : DurableFacts) (w : Authorities) : Prop :=
  (∀ r, r ∈ facts.refs ↔ r ∈ checkpointRefs (w.jobs.eventsOf call.jobId)) ∧
    jobState call.jobId w.jobs = .ok facts.jobState ∧
    ownLeaseHealth call.leaseId call.now w.leases = facts.ownHealth ∧
    listActive w.leases = facts.activeLeases

/-- Nobody moves the job between its read and that of the active leases, or changes the health of
    the call's own lease between its read and that of the active leases. -/
structure Undisturbed (call : EvidenceCall γ β) (world : Nat → Authorities) (t : Instants) :
    Prop where
  job : ∀ n, t.job ≤ n → n < t.active →
    jobState call.jobId (world (n + 1)).jobs = jobState call.jobId (world n).jobs
  own : ∀ n, t.own ≤ n → n < t.active →
    ownLeaseHealth call.leaseId call.now (world (n + 1)).leases =
      ownLeaseHealth call.leaseId call.now (world n).leases

theorem kept_between {α : Type} {f : Nat → α} {a b : Nat} (hab : a ≤ b)
    (h : ∀ n, a ≤ n → n < b → f (n + 1) = f n) : f b = f a := by
  induction b, hab using Nat.le_induction with
  | base => rfl
  | succ b hab ih =>
    exact (h b hab b.lt_succ_self).trans (ih fun n ha hb => h n ha (hb.trans b.lt_succ_self))

theorem Authorities.Moves.logged {w w' : Authorities} (h : w.Moves w') (hw : JobsLogged w.jobs) :
    JobsLogged w'.jobs ∧ w.jobs.events <+: w'.jobs.events := by
  cases h with
  | idle => exact ⟨hw, List.prefix_refl _⟩
  | job call => exact ⟨(jobStep_grows hw call).1, (jobStep_grows hw call).2.events⟩
  | lease call => exact ⟨hw, List.prefix_refl _⟩

variable {world : Nat → Authorities}

theorem journal_grows (hstart : (world 0).jobs = .empty)
    (hmoves : ∀ n, (world n).Moves (world (n + 1))) {m n : Nat} (hmn : m ≤ n) :
    (world m).jobs.events <+: (world n).jobs.events := by
  have hlogged : ∀ n, JobsLogged (world n).jobs := by
    intro n
    induction n with
    | zero => exact hstart ▸ jobsLogged_empty
    | succ n ih => exact ((hmoves n).logged ih).1
  induction n, hmn using Nat.le_induction with
  | base => exact List.prefix_refl _
  | succ n _ ih => exact ih.trans ((hmoves n).logged (hlogged n)).2

theorem checkpointRefs_mono {s s' : JobStore} (h : s.events <+: s'.events) (jobId : String) :
    checkpointRefs (s.eventsOf jobId) ⊆ checkpointRefs (s'.eventsOf jobId) :=
  (((h.sublist.filter _).filter _).filterMap _).subset

theorem durableRefs_ok {jobId : String} {s : JobStore} {refs : List String}
    (h : durableRefs jobId s = .ok refs) (r : String) :
    r ∈ refs ↔ r ∈ checkpointRefs (s.eventsOf jobId) := by
  unfold durableRefs at h
  cases hlist : (listEvents jobId s).1 with
  | error e => simp [hlist] at h
  | ok events =>
    rw [hlist] at h
    cases h
    rw [(listEvents_ok (Prod.ext hlist rfl)).2]
    exact (((List.perm_insertionSort _ _).filter _).filterMap _).mem_iff

/-- The facts of a bundle held at once when nobody disturbs the reads of the job and the leases. -/
theorem evidence_held_at_once {call : EvidenceCall γ β} {t : Instants} {facts : DurableFacts}
    {bundle : β} (hstart : (world 0).jobs = .empty) (hmoves : ∀ n, (world n).Moves (world (n + 1)))
    (hquiet : Undisturbed call world t) (h : evidence call world t = .ok (facts, bundle)) :
    ∃ n, t.first ≤ n ∧ n ≤ t.last ∧ call.HeldAt facts (world n) := by
  obtain ⟨hfirst, hjob, hown, hlast⟩ := t.ordered
  obtain ⟨first, hrefs, h⟩ := bind_eq_ok.mp h
  obtain ⟨state, hstate, h⟩ := bind_eq_ok.mp h
  obtain ⟨outside, -, h⟩ := bind_eq_ok.mp h
  obtain ⟨last, hagain, h⟩ := bind_eq_ok.mp h
  obtain ⟨_, -, h⟩ := bind_eq_ok.mp h
  obtain ⟨_, hdrift, h⟩ := bind_eq_ok.mp h
  obtain ⟨_, -, h⟩ := bind_eq_ok.mp h
  cases h
  rw [rejectIf_eq_ok, not_not] at hdrift
  refine ⟨t.active, by omega, hlast, fun r => ?_, ?_, ?_, rfl⟩
  · -- Between two equal readings of a journal that grows there is nothing else.
    have hbefore := checkpointRefs_mono (journal_grows hstart hmoves (m := t.first) (n := t.active)
      (by omega)) call.jobId
    have hafter := checkpointRefs_mono (journal_grows hstart hmoves hlast) call.jobId
    exact ⟨fun hr => hbefore ((durableRefs_ok hrefs r).mp (hdrift.2 hr)),
      fun hr => (durableRefs_ok hagain r).mpr (hafter hr)⟩
  · rw [← hstate]
    exact kept_between (f := fun n => jobState call.jobId (world n).jobs) (by omega) hquiet.job
  · exact kept_between (f := fun n => ownLeaseHealth call.leaseId call.now (world n).leases) hown
      hquiet.own

def openedJob : JobStore := (jobStep .empty (.createJob "job-1" "w" "p" 1 (some "e1"))).2

def readyJob : JobStore :=
  (jobStep openedJob (.transition { jobId := "job-1", targetState := .ready, expectedVersion := 1 }
    (some "e2"))).2

/-- A job is created and becomes ready, and a lease is taken. -/
def driftingWorld : Nat → Authorities
  | 0 => ⟨.empty, .empty⟩
  | 1 => ⟨openedJob, .empty⟩
  | 2 => ⟨readyJob, .empty⟩
  | _ + 3 => ⟨readyJob, (leaseStep .empty takeFirst).2⟩

theorem driftingWorld_moves : ∀ n, (driftingWorld n).Moves (driftingWorld (n + 1))
  | 0 => .job _
  | 1 => .job _
  | 2 => .lease _
  | _ + 3 => .idle

def plainCall : EvidenceCall Unit Unit :=
  ⟨"job-1", none, .ok (.instant 0), .ok (), .ok (), fun _ _ => .ok ()⟩

/-- The lease is taken between the read of the job and that of the active leases. -/
theorem evidence_held_at_once_late : ∃ n, 2 ≤ n ∧ n ≤ 3 ∧
    plainCall.HeldAt ⟨[], .ready, none, [raceLease]⟩ (driftingWorld n) := by
  refine evidence_held_at_once (t := ⟨2, 2, 3, 3, 3, by decide⟩) rfl driftingWorld_moves ?_
    (show _ = Except.ok (_, ()) from rfl)
  constructor
  · intro n hfrom hto
    obtain rfl : n = 2 := Nat.le_antisymm (Nat.le_of_lt_succ hto) hfrom
    rfl
  · exact fun _ h h' => absurd h' h.not_gt

/-- The state of the job is from before the lease, and the leases are from after it moved on. -/
theorem drifting_evidence :
    (∀ n, (driftingWorld n).Moves (driftingWorld (n + 1))) ∧
    evidence plainCall driftingWorld ⟨1, 1, 3, 3, 3, by decide⟩ =
      .ok (⟨[], .new, none, [raceLease]⟩, ()) ∧
    ∀ n, ¬ plainCall.HeldAt ⟨[], .new, none, [raceLease]⟩ (driftingWorld n) := by
  refine ⟨driftingWorld_moves, by rfl, fun n h => ?_⟩
  have hstate := h.2.1
  have hactive := h.2.2.2
  match n with
  | 0 => cases hactive
  | 1 => cases hactive
  | 2 => cases hactive
  | _ + 3 =>
    have hready : jobState "job-1" readyJob = .ok .ready := by decide +kernel
    rw [show jobState plainCall.jobId (driftingWorld (_ + 3)).jobs = _ from hready] at hstate
    cases hstate

end AConductor.Closeout

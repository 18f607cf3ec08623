import AConductor.WorkerLease.Broker
import AConductor.WorkerLease.Safety
import AConductor.Lib.RelyGuarantee

/-!
# Worker leases: existing answers and the health of the lease

Broker acquisitions interleaved with each other and with every other call of the store.
An answer `EXISTING` from the lookup has passed the health inspection. One that comes from
an attempt, where the race for the owner task was lost after the lookup, has passed none:
its lease is the one that the attempt met.
-/

namespace AConductor.Lease

open Interleave Proc List

/-- The broker with all other calls of the store as its surroundings. -/
def brokerSystem :
    System BrokerCall LeaseCall LeaseStore BrokerNote (Except LeaseFault WorkerLeaseOutcome) where
  prog := acquire
  env call s := (leaseStep s call).2

/-- The health of a lease at the clock value of a call. -/
def healthAt (lease : WorkerLease) (now : TimeArg) : Except LeaseFault LeaseHealthKind :=
  (timestamp now).bind (leaseHealthKind lease)

/-- An `EXISTING` outcome carries a lease that is active, or one that an attempt of the
    call met. -/
def Vouched (own : List BrokerNote) (now : TimeArg) (outcome : WorkerLeaseOutcome) : Prop :=
  outcome.kind = .existing → ∃ lease, outcome.lease = some lease ∧
    (healthAt lease now = .ok .active ∨ .tried now (some lease) ∈ own)

variable {now : TimeArg} {outcome : WorkerLeaseOutcome}

theorem Vouched.mono {own own' : List BrokerNote}
    (h : Vouched own now outcome) (hsub : own ⊆ own') : Vouched own' now outcome := by
  intro hkind
  obtain ⟨lease, hlease, hlive | hmet⟩ := h hkind
  · exact ⟨lease, hlease, .inl hlive⟩
  · exact ⟨lease, hlease, .inr (hsub hmet)⟩

def brokerProtocol : Protocol LeaseStore BrokerNote where
  Inv _ trace := ∀ i now outcome, (i, .returned now outcome) ∈ trace →
    Vouched (own i trace) now outcome
  Grows _ _ := True

/-- What the call may answer, given the notes it has left. -/
def Answered (now : TimeArg) (r : Except LeaseFault WorkerLeaseOutcome) :
    Assertion LeaseStore BrokerNote :=
  fun _ own => ∀ outcome, r = .ok outcome → Vouched own now outcome

section Outlines

variable {i : Nat} {A : Assertion LeaseStore BrokerNote}

/-- A note that is not an answer leaves the answers vouched for. -/
theorem brokerInv_tagged {s s' : LeaseStore} {trace : List (Nat × BrokerNote)}
    (h : brokerProtocol.Inv s trace) (i : Nat) {note : Option BrokerNote}
    (hnote : ∀ now outcome, note ≠ some (.returned now outcome)) :
    brokerProtocol.Inv s' (trace ++ tagged i note) := by
  intro k now outcome hmem
  rcases mem_append.mp hmem with hmem | hmem
  · rw [own_append]
    exact (h k now outcome hmem).mono (subset_append_left _ _)
  · obtain ⟨e, he, heq⟩ := mem_map.mp hmem
    cases heq
    exact absurd (Option.mem_toList.mp he) (hnote now outcome)

theorem answered_error {e : LeaseFault} :
    Outline brokerProtocol i (.ret (.error e)) A (Answered now) := by
  intro s own _ outcome h
  cases h

/-- A computation that raises ends the call; otherwise the call goes on with its value. -/
theorem outline_raiseOr {α : Type} {x : Except LeaseFault α} {f : α → BrokerProc WorkerLeaseOutcome}
    (h : ∀ a, x = .ok a → Outline brokerProtocol i (f a).run A (Answered now)) :
    Outline brokerProtocol i (raiseOr x >>= f).run A (Answered now) := by
  cases x with
  | error e => exact answered_error
  | ok a => exact h a rfl

theorem outline_readStore {α : Type}
    {tx : LeaseStore → Except LeaseFault α × LeaseStore} {f : α → BrokerProc WorkerLeaseOutcome}
    (h : ∀ a s, (tx s).1 = .ok a →
      Outline brokerProtocol i (f a).run (fun _ _ => True) (Answered now)) :
    Outline brokerProtocol i (readStore tx >>= f).run A (Answered now) := by
  show Outline brokerProtocol i (transact tx >>= fun r => _) A _
  apply outline_transact
  intro s trace r s' htx hinv _
  refine ⟨hinv, trivial, fun _ _ => True, fun _ _ _ _ h => h, trivial, ?_⟩
  cases r with
  | error e => exact answered_error
  | ok a => exact h a s (congrArg Prod.fst htx)

theorem answered_unvouched (h : outcome.kind ≠ .existing) :
    Outline brokerProtocol i (.ret (.ok outcome)) A (Answered now) := by
  intro s own _ outcome' heq hkind
  cases heq
  exact absurd hkind h

/-- A lease that an attempt did not create is the one it met. -/
theorem metLease_of_existing {env : LeaseEnv} {request : WorkerLeaseRequest}
    {candidate : WorkerLeaseCandidate} {leaseId : String} {s : LeaseStore} {lease : WorkerLease}
    (h : (tryAcquireResult env request candidate leaseId now none s).1 = .ok ⟨some lease, false⟩) :
    metLease env request candidate leaseId now s = some lease := by
  rcases tryAcquireResult_cases env request candidate leaseId now none s with
    ⟨r, s', proposed, heq, hproposed, houtcome⟩ | ⟨e, heq⟩
  · rw [heq] at h
    cases h
    cases houtcome with
    | existing owned matching =>
      have hfor := proposedLease_for hproposed
      rw [hfor.sessionId, hfor.taskId] at owned
      unfold metLease
      rw [hproposed]
      dsimp only
      rw [owned, Option.filter_some, if_pos (by simpa using matching)]
  · rw [heq] at h
    cases h

theorem judgeAttempt_existing {rejections : List CandidateRejection}
    {answer : Except LeaseFault AcquireResult}
    (h : judgeAttempt rejections answer = .ok (.inl outcome)) (hkind : outcome.kind = .existing) :
    ∃ lease, outcome.lease = some lease ∧ answer = .ok ⟨some lease, false⟩ := by
  unfold judgeAttempt at h
  split at h
  · cases h
  · cases h
  · rename_i lease created
    cases h
    cases created with
    | true => cases hkind
    | false => exact ⟨lease, rfl, rfl⟩
  · cases h

theorem inspectHealth_ok {leaseId : String} {s : LeaseStore} {health : LeaseHealth}
    (h : (inspectHealth leaseId now s).1 = .ok health) :
    healthAt health.lease now = .ok health.kind := by
  unfold inspectHealth at h
  obtain ⟨_, -, h⟩ := Except.bind_eq_ok.mp h
  obtain ⟨stamp, hstamp, h⟩ := Except.bind_eq_ok.mp h
  split at h
  · cases h
  · obtain ⟨kind, hkind, h⟩ := Except.bind_eq_ok.mp h
    cases h
    unfold healthAt
    rw [hstamp]
    exact hkind

theorem outline_tryWorkers (c : BrokerCall) (n : Nat) (workers : List String)
    (rejections : List CandidateRejection) :
    Outline brokerProtocol i (tryWorkers c n workers rejections).run A (Answered c.now) := by
  induction workers generalizing n rejections A with
  | nil =>
    refine answered_unvouched ?_
    unfold unleased
    split <;> simp
  | cons workerId rest ih =>
    unfold tryWorkers
    split
    · exact ih _ _
    · rename_i item _
      split
      · exact ih _ _
      · apply outline_raiseOr
        intro drawn _
        apply outline_raiseOr
        intro leaseId _
        show Outline brokerProtocol i (transactNoting _ _ >>= fun r => _) A _
        apply outline_transactNoting
        intro s trace r s' htx hinv _
        refine ⟨brokerInv_tagged hinv i (by simp), trivial,
          fun _ own => BrokerNote.tried c.now r.1 ∈ own, fun _ _ _ _ h => h, by simp, ?_⟩
        apply outline_raiseOr
        intro verdict hjudge
        cases verdict with
        | inr kind => exact ih _ _
        | inl outcome =>
          intro s₂ own hmem outcome' heq hkind
          cases heq
          obtain ⟨lease, hlease, hanswer⟩ := judgeAttempt_existing hjudge hkind
          refine ⟨lease, hlease, .inr ?_⟩
          have hmet := congrArg (fun out => out.1.1) htx
          have hsecond := congrArg (fun out => out.1.2) htx
          dsimp only at hmet hsecond
          rw [hanswer] at hsecond
          rw [← metLease_of_existing hsecond, hmet]
          exact hmem

theorem outline_answerExisting (c : BrokerCall) (hotspotKey : Option String)
    (existing : WorkerLease) :
    Outline brokerProtocol i (answerExisting c hotspotKey existing).run A (Answered c.now) := by
  unfold answerExisting
  apply outline_raiseOr
  intro matching _
  apply outline_readStore
  intro health s hhealth
  apply outline_raiseOr
  intro latest hlatest
  have hsame := requireMatchingRequest_ok hlatest
  subst hsame
  intro s₂ own _ outcome heq hkind
  cases heq
  refine ⟨health.lease, rfl, .inl ?_⟩
  by_cases hactive : health.kind = .active
  · rw [← hactive]
    exact inspectHealth_ok hhealth
  · rw [if_neg hactive] at hkind
    cases hkind

theorem outline_acquireOutcome (c : BrokerCall) :
    Outline brokerProtocol i (acquireOutcome c).run A (Answered c.now) := by
  unfold acquireOutcome
  apply outline_raiseOr
  intro hotspotKey _
  apply outline_readStore
  intro found s _
  cases found with
  | some existing => exact outline_answerExisting c hotspotKey existing
  | none =>
    dsimp only
    split
    · exact outline_tryWorkers c 0 _ _
    · exact answered_error

theorem outline_acquire (c : BrokerCall) (i : Nat) :
    Outline brokerProtocol i (acquire c) (fun _ own => own = []) fun _ _ _ => True := by
  refine outline_tryBind (outline_acquireOutcome c) (fun _ _ _ _ => trivial) ?_
  intro outcome
  show Outline brokerProtocol i (emit (.returned c.now outcome) >>= fun _ => _) _ _
  refine outline_emit (fun _ => trivial) (fun _ _ _ _ h => h : Stable _ fun _ _ => True) ?_
    (outline_ret fun _ _ _ => trivial)
  intro s trace hinv hanswered
  refine ⟨?_, trivial⟩
  intro k now outcome' hmem
  rw [own_append]
  rcases mem_append.mp hmem with hmem | hmem
  · exact (hinv k now outcome' hmem).mono (subset_append_left _ _)
  · rw [mem_singleton] at hmem
    cases hmem
    exact (hanswered outcome rfl).mono (subset_append_left _ _)

end Outlines

/-- Every lease that an attempt of a broker call met in place of a free worker was active
    at the clock value of the call. -/
def MeetsActive (trace : List (Nat × BrokerNote)) : Prop :=
  ∀ i now lease, (i, .tried now (some lease)) ∈ trace → healthAt lease now = .ok .active

/-- Over every interleaving of broker acquisitions with each other and with any other calls
    of the store: where the attempts meet only active leases of their owner tasks, an
    `EXISTING` outcome carries a lease that is active at the `now` of its call. -/
theorem existing_answers_active (decisions : List (Schedule BrokerCall LeaseCall))
    (hmeets : MeetsActive (run brokerSystem LeaseStore.empty decisions).trace) :
    ∀ i now outcome,
      (i, .returned now outcome) ∈ (run brokerSystem LeaseStore.empty decisions).trace →
      outcome.kind = .existing →
        ∃ lease, outcome.lease = some lease ∧ healthAt lease now = .ok .active := by
  have hinv : brokerProtocol.Inv (run brokerSystem LeaseStore.empty decisions).shared
      (run brokerSystem LeaseStore.empty decisions).trace := by
    refine run_invariant (P := brokerProtocol) (fun _ => trivial) outline_acquire ?_ ?_ decisions
    · intro call s trace hs
      exact ⟨hs, trivial⟩
    · intro i now outcome hmem
      cases hmem
  intro i now outcome hmem hkind
  obtain ⟨lease, hlease, hlive | hmet⟩ := hinv i now outcome hmem hkind
  · exact ⟨lease, hlease, hlive⟩
  · exact ⟨lease, hlease, hmeets i now lease (mem_own.mp hmet)⟩

/-! ### A lost race -/

/-- A call for `t1` at the instant 0 with the one worker `w1`. -/
def raceCall : BrokerCall where
  env := ⟨⟨id, fun _ => some "h"⟩, id⟩
  request := { sampleRequest "t1" "w1" "a" with }
  candidates := [{
    workerId := "w1", runtimeId := none, state := "READY", reserved := false, activeTask := false
    capabilities := [], projectId := some "p", worktree := some "w", branch := some "main"
    head := some "abcdef0", healthFresh := true, ownershipKnown := true, dirtyState := .clean
    mutationAuthorized := true }]
  now := .ok (.instant 0)
  leaseIdFactory _ := .ok "l2"

/-- The lease that another session's call for `t1` took first. -/
def raceLease : WorkerLease where
  leaseId := "l1"
  workerId := "w1"
  sessionId := "s"
  taskId := "t1"
  projectId := "p"
  runtimeId := none
  worktreeKey := "w"
  branch := "main"
  expectedHead := "abcdef0"
  requiredCapabilities := []
  allowedScope := [.lit "a"]
  forbiddenScope := []
  mutableScope := [.lit "a"]
  mutationIntent := .mutation
  acquiredAt := .instant 0
  heartbeatAt := .instant 0
  leaseTtlSeconds := 300
  expiresAt := some (.instant 300000000)
  hotspotKey := some "h"

/-- The call looks up and finds nothing; the other calls are performed; the call attempts
    its worker and answers. -/
def raceWith (others : List LeaseCall) : List (Schedule BrokerCall LeaseCall) :=
  [.start raceCall, .advance 0] ++ others.map .environment ++ [.advance 0, .advance 0]

def takeFirst : LeaseCall :=
  .tryAcquireResult raceCall.env.toLeaseEnv raceCall.request.toWorkerLeaseRequest ⟨"w1", none⟩ "l1"
    (.ok (.instant 0)) none

theorem raceWith_takeFirst :
    (run brokerSystem LeaseStore.empty (raceWith [takeFirst])).trace =
      [(0, .tried raceCall.now (some raceLease)),
        (0, .returned raceCall.now ⟨.existing, some raceLease, []⟩)] := by
  decide +kernel

/-- The race is lost to an active lease. -/
theorem existing_answers_active_race :
    ∃ lease, some raceLease = some lease ∧ healthAt lease raceCall.now = .ok .active := by
  refine existing_answers_active (raceWith [takeFirst]) ?_ 0 raceCall.now
    ⟨.existing, some raceLease, []⟩ ?_ rfl
  · intro i now lease hmem
    rw [raceWith_takeFirst] at hmem
    simp only [mem_cons, Prod.mk.injEq, BrokerNote.tried.injEq, Option.some.injEq,
      reduceCtorEq, and_false, not_mem_nil, or_false] at hmem
    obtain ⟨-, rfl, rfl⟩ := hmem
    decide
  · rw [raceWith_takeFirst]
    simp

/-- The other lease expires and is quarantined before the attempt. -/
def quarantineFirst : LeaseCall :=
  .reconcileStale raceCall.env.toLeaseEnv "l1" "s" "t1"
    { workerId := "w1", worktree := "w", branch := "main", head := "abcdef0", dirtyState := .dirty
      ownershipKnown := true, runtimeRunning := some false, recoveryClassification := .unknown
      evidenceRef := "e", observedAt := .instant 400000000 }

/-- The attempt answers `EXISTING` with the quarantined lease. -/
theorem existing_answer_quarantined :
    ∃ lease, (0, .returned raceCall.now ⟨.existing, some lease, []⟩) ∈
        (run brokerSystem LeaseStore.empty (raceWith [takeFirst, quarantineFirst])).trace ∧
      healthAt lease raceCall.now = .ok .quarantined := by
  refine ⟨{ raceLease with
    quarantinedAt := some (.instant 400000000)
    quarantineCode := some "WORKTREE_DIRTY"
    recoveryClassification := some .unknown
    recoveryEvidenceRef := some "e"
    reconciledAt := some (.instant 400000000) }, ?_⟩
  decide +kernel

end AConductor.Lease

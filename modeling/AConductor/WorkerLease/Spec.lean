import AConductor.WorkerLease.Provisioning

/-!
# Worker leases: what a call writes

One call either leaves the store alone, inserts a lease or a reservation, rewrites one
unreleased lease, or moves one reservation to its next state. `LeaseWrite` lists these
with the guards each has passed; every invariant of the store is derived from it.
-/

namespace AConductor.Lease

open Txn AConductor.Graph Except Table

/-- One call of the store, with what it takes from its surroundings. -/
inductive LeaseCall where
  | tryAcquireResult (env : LeaseEnv) (request : WorkerLeaseRequest)
      (candidate : WorkerLeaseCandidate) (leaseId : String) (acquiredAt : TimeArg)
      (expiresAt : Option TimeArg)
  | heartbeat (leaseId sessionId taskId : String) (heartbeatAt : TimeArg)
  | release (leaseId sessionId taskId : String) (releasedAt : TimeArg)
  | reconcileStale (env : LeaseEnv) (leaseId sessionId taskId : String)
      (observation : RecoveryObservation)
  | acquireProvisioningReservation (env : LeaseEnv) (request : ReservationRequest) (now : TimeArg)
  | transitionProvisioningReservation (reservationId sessionId taskId state : String)
      (now : TimeArg) (workerId : Option String)
  | reconcileStaleProvisioning (reservationId sessionId taskId : String) (now : TimeArg)
      (staleAfterSeconds : Int)

/-- What a call answers. -/
inductive LeaseAnswer where
  | acquired (result : AcquireResult)
  | beaten (lease : WorkerLease)
  | released (result : ReleaseResult)
  | reconciled (result : ReconciliationResult)
  | reserved (result : ReservationResult)
  | reservation (record : ReservationRecord)
  deriving DecidableEq, Repr

/-- Tag the answer of one operation. -/
def answer {α : Type} (tag : α → LeaseAnswer) (out : Except LeaseFault α × LeaseStore) :
    Except LeaseFault LeaseAnswer × LeaseStore := (out.1.map tag, out.2)

/-- Perform one call. -/
def leaseStep (s : LeaseStore) : LeaseCall → Except LeaseFault LeaseAnswer × LeaseStore
  | .tryAcquireResult env request candidate leaseId acquiredAt expiresAt =>
    answer .acquired (tryAcquireResult env request candidate leaseId acquiredAt expiresAt s)
  | .heartbeat leaseId sessionId taskId heartbeatAt =>
    answer .beaten (heartbeat leaseId sessionId taskId heartbeatAt s)
  | .release leaseId sessionId taskId releasedAt =>
    answer .released (release leaseId sessionId taskId releasedAt s)
  | .reconcileStale env leaseId sessionId taskId observation =>
    answer .reconciled (reconcileStale env leaseId sessionId taskId observation s)
  | .acquireProvisioningReservation env request now =>
    answer .reserved (acquireProvisioningReservation env request now s)
  | .transitionProvisioningReservation reservationId sessionId taskId state now workerId =>
    answer .reservation
      (transitionProvisioningReservation reservationId sessionId taskId state now workerId s)
  | .reconcileStaleProvisioning reservationId sessionId taskId now staleAfterSeconds =>
    answer .reservation
      (reconcileStaleProvisioning reservationId sessionId taskId now staleAfterSeconds s)

/-- What a proposed lease takes over from its request. -/
structure ProposedFor (env : LeaseEnv) (request : WorkerLeaseRequest) (lease : WorkerLease) :
    Prop where
  sessionId : lease.sessionId = request.sessionId
  taskId : lease.taskId = request.taskId
  allowedScope : lease.allowedScope = request.allowedScope
  forbiddenScope : lease.forbiddenScope = request.forbiddenScope
  mutableScope : lease.mutableScope = request.mutableScope
  mutationIntent : lease.mutationIntent = request.mutationIntent
  hotspotKey : request.mutationIntent = .mutation →
    ∃ key, resolveMutationHotspot env request.worktree = .ok key ∧ lease.hotspotKey = some key

variable {leaseId sessionId taskId leaseId' sessionId' taskId' : String}
  {request : WorkerLeaseRequest} {env : LeaseEnv} {s : LeaseStore}

variable {lease : WorkerLease} {candidate : WorkerLeaseCandidate}
  {Q : WorkerLease → LeaseStore → Prop}

variable {expiresAt : Option TimeArg}

theorem proposedLease_for {acquiredAt : TimeArg}
    (h : proposedLease env request candidate leaseId acquiredAt expiresAt = .ok lease) :
    ProposedFor env request lease := by
  have hreadOnly : request.mutationIntent = .readOnly → ¬ request.mutationIntent = .mutation :=
    fun h h' => nomatch h.symm.trans h'
  unfold proposedLease at h
  iterate 2 obtain ⟨_, -, h⟩ := bind_eq_ok.mp h
  -- The expiry apart, both ways of telling it go on with the same steps.
  cases expiresAt
  case' some => iterate 2 obtain ⟨_, -, h⟩ := bind_eq_ok.mp h
  all_goals
    obtain ⟨_, -, h⟩ := bind_eq_ok.mp h
    dsimp only at h
    split at h
    · obtain ⟨_, hkey, h⟩ := bind_eq_ok.mp h
      obtain ⟨_, -, h⟩ := bind_eq_ok.mp h
      cases h
      obtain ⟨key, hresolved, rfl⟩ := map_eq_ok.mp hkey
      exact ⟨rfl, rfl, rfl, rfl, rfl, rfl, fun _ => ⟨key, hresolved, rfl⟩⟩
    · rename_i hintent
      iterate 2 obtain ⟨_, -, h⟩ := bind_eq_ok.mp h
      cases h
      exact ⟨rfl, rfl, rfl, rfl, rfl, rfl, fun hc => absurd hc (hreadOnly hintent)⟩

/-- The rows `UPDATE … WHERE lease_id = ? AND released_at IS NULL` leaves. -/
def LeaseStore.rewritten (s : LeaseStore) (leaseId : String) (f : WorkerLease → WorkerLease) :
    LeaseStore :=
  { s with leases := updateWhere (fun l => l.leaseId = leaseId && l.unreleased) f s.leases }

/-- What `reconcile_stale` has checked of an unreleased lease before it writes. -/
structure Reconcilable (lease : WorkerLease) (observed : Stamp) : Prop where
  latest : ∃ latest, latestEvidence lease.heartbeatAt [lease.quarantinedAt, lease.reconciledAt] =
    .ok latest ∧ ∃ order, timestampCompare observed latest = .ok order ∧ order ≠ .lt
  health : ∃ health, leaseHealthKind lease observed = .ok health ∧ health ≠ .active

/-- The calls that rewrite an unreleased lease, and how. -/
inductive LeaseRewrite (lease : WorkerLease) : LeaseCall → (WorkerLease → WorkerLease) → Prop where
  | heartbeat {leaseId sessionId taskId : String} {heartbeatAt : TimeArg}
      {beat expires expiry : Stamp}
      (args : ownerTimeArgs leaseId sessionId taskId heartbeatAt =
        .ok (lease.leaseId, lease.sessionId, lease.taskId, beat))
      (unquarantined : lease.quarantineCode = none) (expiring : lease.expiresAt = some expires)
      (later : timestampCompare beat lease.heartbeatAt = .ok .gt)
      (live : timestampCompare beat expires = .ok .lt)
      (renewed : timestampAddSeconds beat lease.leaseTtlSeconds "expires_at" = .ok expiry) :
      LeaseRewrite lease (.heartbeat leaseId sessionId taskId heartbeatAt)
        fun l => { l with heartbeatAt := beat, expiresAt := some expiry }
  | release {leaseId sessionId taskId : String} {releasedAt : TimeArg} {released expires : Stamp}
      {order : Ordering}
      (args : ownerTimeArgs leaseId sessionId taskId releasedAt =
        .ok (lease.leaseId, lease.sessionId, lease.taskId, released))
      (unquarantined : lease.quarantineCode = none) (expiring : lease.expiresAt = some expires)
      (ordered : timestampCompare released lease.heartbeatAt = .ok order) (fresh : order ≠ .lt)
      (live : timestampCompare released expires = .ok .lt) :
      LeaseRewrite lease (.release leaseId sessionId taskId releasedAt)
        fun l => { l with releasedAt := some released }
  | reconcileRelease {env : LeaseEnv} {leaseId sessionId taskId : String}
      {observation : RecoveryObservation}
      (args : ownerArgs "lease_id" leaseId sessionId taskId =
        .ok (lease.leaseId, lease.sessionId, lease.taskId))
      (reconcilable : Reconcilable lease observation.observedAt)
      (safe : reconciliationQuarantineReason env lease observation = none) :
      LeaseRewrite lease (.reconcileStale env leaseId sessionId taskId observation)
        fun l => { l with
          releasedAt := some observation.observedAt
          recoveryClassification := some observation.recoveryClassification
          recoveryEvidenceRef := some observation.evidenceRef
          reconciledAt := some observation.observedAt }
  | quarantine {env : LeaseEnv} {leaseId sessionId taskId : String}
      {observation : RecoveryObservation} {reason : String}
      (args : ownerArgs "lease_id" leaseId sessionId taskId =
        .ok (lease.leaseId, lease.sessionId, lease.taskId))
      (reconcilable : Reconcilable lease observation.observedAt)
      (refused : reconciliationQuarantineReason env lease observation = some reason) :
      LeaseRewrite lease (.reconcileStale env leaseId sessionId taskId observation)
        fun l => { l with
          quarantinedAt := some (l.quarantinedAt.getD observation.observedAt)
          quarantineCode := some reason
          recoveryClassification := some observation.recoveryClassification
          recoveryEvidenceRef := some observation.evidenceRef
          reconciledAt := some observation.observedAt }

/-- What one call writes. -/
inductive LeaseWrite (s : LeaseStore) : LeaseCall → LeaseStore → Prop where
  | nothing {call : LeaseCall} : LeaseWrite s call s
  | leased {env : LeaseEnv} {request : WorkerLeaseRequest} {candidate : WorkerLeaseCandidate}
      {leaseId : String} {acquiredAt : TimeArg} {expiresAt : Option TimeArg} {lease : WorkerLease}
      (proposed : proposedLease env request candidate leaseId acquiredAt expiresAt = .ok lease)
      (unfenced : fencedByReservation lease (s.boundReservation lease.workerId) = false)
      (scanned : lease.mutationIntent = .mutation →
        (s.hotspotRows lease.hotspotKey).any
          (fun row => writeSetsOverlap lease.mutableScope row.mutableScope) = false)
      (freshId : conflicts WorkerLease.idKey lease s.leases = false)
      (freshWorker : conflicts WorkerLease.activeWorkerKey lease s.leases = false)
      (freshOwner : conflicts WorkerLease.activeOwnerKey lease s.leases = false) :
      LeaseWrite s (.tryAcquireResult env request candidate leaseId acquiredAt expiresAt)
        { s with leases := s.leases ++ [lease.stored] }
  | rewrote {call : LeaseCall} {lease : WorkerLease} {f : WorkerLease → WorkerLease}
      (mem : lease ∈ s.leases) (unreleased : lease.unreleased = true)
      (rewrite : LeaseRewrite lease call f) : LeaseWrite s call (s.rewritten lease.leaseId f)
  | reserved {env : LeaseEnv} {request : ReservationRequest} {now : TimeArg}
      {record : ReservationRecord} {maxExtraWorkers : Nat}
      (proposed : proposedReservation env request now = .ok (record, maxExtraWorkers))
      (room : (s.reservations.filter fun r => r.state ≠ .released).length < maxExtraWorkers)
      (freshId : conflicts ReservationRecord.idKey record s.reservations = false)
      (freshOwner : conflicts ReservationRecord.ownerKey record s.reservations = false)
      (freshWorker : conflicts ReservationRecord.workerKey record s.reservations = false) :
      LeaseWrite s (.acquireProvisioningReservation env request now)
        { s with reservations := s.reservations ++ [record.stored] }
  | moved {reservationId sessionId taskId state : String} {now : TimeArg}
      {workerId boundTo : Option String} {current : ReservationRecord} {target : ReservationState}
      {observed : Stamp}
      (args : transitionArgs reservationId sessionId taskId state now workerId =
        .ok (current.reservationId, current.sessionId, current.taskId, target, observed, boundTo))
      (mem : current ∈ s.reservations) (allowed : target ∈ allowedTransitions current.state)
      (unstolen : foreignLease s target boundTo current.sessionId current.taskId = false)
      (freshOwner : conflicts ReservationRecord.ownerKey
        { current with state := target, workerId := boundTo, updatedAt := observed }
        (s.reservations.filter fun r => r.reservationId ≠ current.reservationId) = false)
      (freshWorker : conflicts ReservationRecord.workerKey
        { current with state := target, workerId := boundTo, updatedAt := observed }
        (s.reservations.filter fun r => r.reservationId ≠ current.reservationId) = false) :
      LeaseWrite s (.transitionProvisioningReservation reservationId sessionId taskId state now
          workerId)
        { s with
          reservations := updateWhere (fun r => r.reservationId = current.reservationId)
            (fun r => { r with state := target, workerId := boundTo, updatedAt := observed })
            s.reservations }

/-- A lease operation goes on with the row of its id and owner. -/
theorem wp_ownedLease
    (hQ : ∀ lease ∈ s.leases, lease.leaseId = leaseId → lease.sessionId = sessionId →
      lease.taskId = taskId → Q lease s) :
    wp (ownedLease leaseId sessionId taskId) Q (fun _ _ => True) s := by
  unfold ownedLease
  rw [wp_bind, wp_query]
  cases hfound : s.leases.find? fun l => l.leaseId = leaseId with
  | none => trivial
  | some lease =>
    have hid : lease.leaseId = leaseId := by simpa using List.find?_some hfound
    simp only [wp_ite, wp_raise, wp_pure, implies_true, true_and]
    intro howner
    rw [not_or, not_not, not_not] at howner
    exact hQ lease (List.mem_of_find?_eq_some hfound) hid howner.1 howner.2

theorem wp_rereadLease (hQ : ∀ l, Q l s) : wp (rereadLease leaseId) Q (fun _ _ => True) s := by
  unfold rereadLease
  rw [wp_bind, wp_query]
  cases s.leases.find? fun l => l.leaseId = leaseId with
  | none => trivial
  | some l => exact hQ l

theorem heartbeatBody_write
    {heartbeatAt : TimeArg} {beat : Stamp}
    (args : ownerTimeArgs leaseId sessionId taskId heartbeatAt =
      .ok (leaseId', sessionId', taskId', beat)) :
    wp (heartbeatBody leaseId' sessionId' taskId' beat)
      (fun _ s' => LeaseWrite s (.heartbeat leaseId sessionId taskId heartbeatAt) s')
      (fun _ _ => True) s := by
  unfold heartbeatBody
  rw [wp_bind]
  apply wp_ownedLease
  rintro lease hmem rfl rfl rfl
  simp only [wp_bind, wp_require, implies_true, and_true, Option.isNone_iff_eq_none]
  intro hunreleased hunquarantined
  cases hexpires : lease.expiresAt with
  | none => trivial
  | some expires =>
    simp only [wp_bind]
    apply wp_ofExcept_of_ok
    intro order horder
    cases order with
    | lt => trivial
    | eq => exact .nothing
    | gt =>
      simp only [wp_bind]
      apply wp_ofExcept_of_ok
      intro order' hlive
      simp only [wp_require, decide_eq_true_eq, implies_true, and_true]
      rintro rfl
      apply wp_ofExcept_of_ok
      intro expiry hrenewed
      unfold updateLease
      rw [wp_update]
      apply wp_rereadLease
      intro _
      exact .rewrote hmem (by simp [WorkerLease.unreleased, hunreleased])
        (.heartbeat args hunquarantined hexpires horder hlive hrenewed)

theorem releaseBody_write
    {releasedAt : TimeArg} {released : Stamp}
    (args : ownerTimeArgs leaseId sessionId taskId releasedAt =
      .ok (leaseId', sessionId', taskId', released)) :
    wp (releaseBody leaseId' sessionId' taskId' released)
      (fun _ s' => LeaseWrite s (.release leaseId sessionId taskId releasedAt) s')
      (fun _ _ => True) s := by
  unfold releaseBody
  rw [wp_bind]
  apply wp_ownedLease
  rintro lease hmem rfl rfl rfl
  rw [wp_ite]
  refine ⟨fun _ => .nothing, fun hunreleased => ?_⟩
  rw [wp_bind]
  apply wp_ofExcept_of_ok
  intro order horder
  simp only [wp_bind, wp_require, implies_true, and_true, decide_eq_true_eq,
    Option.isNone_iff_eq_none]
  intro hfresh hunquarantined
  cases hexpires : lease.expiresAt with
  | none => trivial
  | some expires =>
    simp only [wp_bind]
    apply wp_ofExcept_of_ok
    intro order' hlive
    simp only [wp_require, implies_true, and_true, decide_eq_true_eq]
    rintro rfl
    unfold updateLease
    rw [wp_update]
    have hopen : lease.unreleased = true := by
      rw [Option.not_isSome_iff_eq_none] at hunreleased
      simp [WorkerLease.unreleased, hunreleased]
    exact .rewrote hmem hopen (.release args hunquarantined hexpires horder hfresh hlive)

theorem reconcileBody_write {observation : RecoveryObservation}
    (args : ownerArgs "lease_id" leaseId sessionId taskId = .ok (leaseId', sessionId', taskId')) :
    wp (reconcileBody env leaseId' sessionId' taskId' observation)
      (fun _ s' => LeaseWrite s (.reconcileStale env leaseId sessionId taskId observation) s')
      (fun _ _ => True) s := by
  unfold reconcileBody
  rw [wp_bind]
  apply wp_ownedLease
  rintro lease hmem rfl rfl rfl
  simp only [wp_bind, wp_require, implies_true, and_true, decide_eq_true_eq,
    Option.isNone_iff_eq_none]
  intro hunreleased
  have hopen : lease.unreleased = true := by simp [WorkerLease.unreleased, hunreleased]
  apply wp_ofExcept_of_ok
  intro latest hlatest
  apply wp_ofExcept_of_ok
  intro order horder hfresh
  apply wp_ofExcept_of_ok
  intro health hhealth hnotActive
  have reconcilable : Reconcilable lease observation.observedAt :=
    ⟨⟨latest, hlatest, order, horder, hfresh⟩, ⟨health, hhealth, hnotActive⟩⟩
  unfold updateLease
  cases hreason : reconciliationQuarantineReason env lease observation with
  | none =>
    simp only [wp_bind, wp_update]
    apply wp_rereadLease
    intro _
    exact .rewrote hmem hopen (.reconcileRelease args reconcilable hreason)
  | some reason =>
    simp only [wp_bind, wp_update]
    apply wp_rereadLease
    intro _
    exact .rewrote hmem hopen (.quarantine args reconcilable hreason)

/-- The fence passes only with the scan done. -/
theorem wp_mutationFence
    {Q : Unit → LeaseStore → Prop}
    (hQ : (lease.mutationIntent = .mutation →
      (s.hotspotRows lease.hotspotKey).any
        (fun row => writeSetsOverlap lease.mutableScope row.mutableScope) = false) → Q () s) :
    wp (mutationFence lease) Q (fun _ _ => True) s := by
  unfold mutationFence
  cases hm : lease.mutationIntent with
  | readOnly => exact hQ (by rw [hm]; intro hc; cases hc)
  | mutation =>
    simp only [wp_bind, wp_query, wp_require, implies_true, and_true]
    intro _ hscan
    exact hQ fun _ => by simpa using hscan

/-- The ways an acquisition returns: with the unreleased lease its owner has already,
    with nothing where the worker is taken or fenced, or with a new lease. -/
inductive AcquireOutcome (env : LeaseEnv) (request : WorkerLeaseRequest) (lease : WorkerLease)
    (s : LeaseStore) : AcquireResult → LeaseStore → Prop where
  | existing {active : WorkerLease}
      (owned : s.activeOwner lease.sessionId lease.taskId = some active)
      (matching : requireMatchingRequest env request active lease.hotspotKey = .ok active) :
      AcquireOutcome env request lease s ⟨some active, false⟩ s
  | busy : AcquireOutcome env request lease s ⟨none, false⟩ s
  | leased (unfenced : fencedByReservation lease (s.boundReservation lease.workerId) = false)
      (scanned : lease.mutationIntent = .mutation →
        (s.hotspotRows lease.hotspotKey).any
          (fun row => writeSetsOverlap lease.mutableScope row.mutableScope) = false)
      (freshId : conflicts WorkerLease.idKey lease s.leases = false)
      (freshWorker : conflicts WorkerLease.activeWorkerKey lease s.leases = false)
      (freshOwner : conflicts WorkerLease.activeOwnerKey lease s.leases = false) :
      AcquireOutcome env request lease s ⟨some lease, true⟩
        { s with leases := s.leases ++ [lease.stored] }

theorem requireMatchingRequest_ok {lease matching : WorkerLease} {hotspotKey : Option String}
    (h : requireMatchingRequest env request lease hotspotKey = .ok matching) :
    matching = lease := by
  unfold requireMatchingRequest at h
  obtain ⟨found, -, h⟩ := bind_eq_ok.mp h
  split at h
  · cases h
    rfl
  · cases h

theorem acquireBody_outcome :
    wp (acquireBody env request lease) (AcquireOutcome env request lease s) (fun _ _ => True)
      s := by
  unfold acquireBody
  rw [wp_bind, wp_query]
  cases howned : s.activeOwner lease.sessionId lease.taskId with
  | some active =>
    simp only [wp_bind]
    apply wp_ofExcept_of_ok
    intro existing hmatching
    have hsame : existing = active := requireMatchingRequest_ok hmatching
    subst hsame
    exact .existing howned hmatching
  | none =>
    simp only [wp_bind, wp_query]
    cases s.activeWorker lease.workerId with
    | some _ => exact .busy
    | none =>
      simp only [wp_bind, wp_query, wp_ite]
      refine ⟨fun _ => .busy, fun hunfenced => ?_⟩
      apply wp_mutationFence
      intro hscan
      unfold insertLease
      simp only [wp_bind, wp_query, wp_require, implies_true, and_true, wp_update]
      intro hkeys
      rw [Bool.not_eq_true', Bool.or_eq_false_iff, Bool.or_eq_false_iff] at hkeys
      exact .leased (by simpa using hunfenced) hscan hkeys.1.1 hkeys.1.2 hkeys.2

/-- A reservation operation goes on with the row of its id and owner. -/
theorem wp_ownedReservation {reservationId sessionId taskId : String}
    {Q : ReservationRecord → LeaseStore → Prop}
    (hQ : ∀ r ∈ s.reservations, r.reservationId = reservationId → r.sessionId = sessionId →
      r.taskId = taskId → Q r s) :
    wp (ownedReservation reservationId sessionId taskId) Q (fun _ _ => True) s := by
  unfold ownedReservation LeaseStore.reservation
  rw [wp_bind, wp_query]
  cases hfound : s.reservations.find? fun r => r.reservationId = reservationId with
  | none => trivial
  | some r =>
    have hid : r.reservationId = reservationId := by simpa using List.find?_some hfound
    simp only [wp_ite, wp_raise, wp_pure, implies_true, true_and]
    intro howner
    rw [not_or, not_not, not_not] at howner
    exact hQ r (List.mem_of_find?_eq_some hfound) hid howner.1 howner.2

theorem reserveBody_write {request : ReservationRequest} {now : TimeArg}
    {record : ReservationRecord} {maxExtraWorkers : Nat}
    (proposed : proposedReservation env request now = .ok (record, maxExtraWorkers)) :
    wp (reserveBody record maxExtraWorkers)
      (fun _ s' => LeaseWrite s (.acquireProvisioningReservation env request now) s')
      (fun _ _ => True) s := by
  unfold reserveBody
  rw [wp_bind, wp_query]
  split
  · rw [wp_ite]
    exact ⟨fun _ => trivial, fun _ => .nothing⟩
  · simp only [wp_bind, wp_query, wp_ite]
    refine ⟨fun _ => .nothing, fun hroom => ?_⟩
    unfold insertReservation
    simp only [wp_bind, wp_query, wp_require, implies_true, and_true, wp_update]
    intro hkeys
    rw [Bool.not_eq_true', Bool.or_eq_false_iff, Bool.or_eq_false_iff] at hkeys
    have hwrite := LeaseWrite.reserved proposed (Nat.lt_of_not_le hroom) hkeys.1.1 hkeys.1.2
      hkeys.2
    split <;> exact hwrite

theorem transitionBody_write {reservationId sessionId taskId state reservationId' sessionId'
      taskId' : String} {now : TimeArg} {workerId boundTo : Option String}
    {target : ReservationState} {observed : Stamp}
    (args : transitionArgs reservationId sessionId taskId state now workerId =
      .ok (reservationId', sessionId', taskId', target, observed, boundTo)) :
    wp (transitionBody reservationId' sessionId' taskId' target observed boundTo)
      (fun _ s' => LeaseWrite s
        (.transitionProvisioningReservation reservationId sessionId taskId state now workerId) s')
      (fun _ _ => True) s := by
  unfold transitionBody
  rw [wp_bind]
  apply wp_ownedReservation
  rintro current hmem rfl rfl rfl
  rw [wp_ite]
  refine ⟨fun _ => .nothing, fun _ => ?_⟩
  unfold updateReservation
  simp only [wp_bind, wp_query, wp_require, implies_true, and_true, wp_update, decide_eq_true_eq]
  intro hallowed hunstolen hkeys
  rw [Bool.not_eq_true', Bool.or_eq_false_iff] at hkeys
  have hwrite := LeaseWrite.moved args hmem hallowed (by simpa using hunstolen) hkeys.1 hkeys.2
  split
  · trivial
  · exact hwrite

/-- Reconciling a reservation writes nothing. -/
theorem reconcileProvisioningBody_write {reservationId sessionId taskId : String}
    {now staleAfterSeconds : Int} {call : LeaseCall} :
    wp (reconcileProvisioningBody reservationId sessionId taskId now staleAfterSeconds)
      (fun _ s' => LeaseWrite s call s') (fun _ _ => True) s := by
  unfold reconcileProvisioningBody
  rw [wp_bind]
  apply wp_ownedReservation
  rintro current - - - -
  split
  · exact .nothing
  · trivial
  · rw [wp_bind]
    apply wp_ofExcept_of_ok
    intro updated _
    simp only [wp_bind, wp_require, implies_true, and_true]
    intro _
    split
    · trivial
    · simp only [wp_bind, wp_query, wp_require, wp_raise, implies_true, and_true]

theorem nameIntegrityError_state {α : Type} (code : String)
    (out : Except LeaseFault α × LeaseStore) : (nameIntegrityError code out).2 = out.2 := by
  unfold nameIntegrityError
  split <;> rfl

/-- An acquisition returns in one of the three ways, or raises and leaves the store alone. -/
theorem tryAcquireResult_cases (env : LeaseEnv) (request : WorkerLeaseRequest)
    (candidate : WorkerLeaseCandidate) (leaseId : String) (acquiredAt : TimeArg)
    (expiresAt : Option TimeArg) (s : LeaseStore) :
    (∃ r s' lease, tryAcquireResult env request candidate leaseId acquiredAt expiresAt s =
        (.ok r, s') ∧
      proposedLease env request candidate leaseId acquiredAt expiresAt = .ok lease ∧
      AcquireOutcome env request lease s r s') ∨
    ∃ e, tryAcquireResult env request candidate leaseId acquiredAt expiresAt s = (.error e, s) := by
  unfold tryAcquireResult
  cases proposedLease env request candidate leaseId acquiredAt expiresAt with
  | error e => exact .inr ⟨e, rfl⟩
  | ok lease =>
    rcases atomically_spec (E := fun _ => True) acquireBody_outcome with
      ⟨r, s', heq, houtcome⟩ | ⟨e, heq, -⟩
    · exact .inl ⟨r, s', lease, by simp only [heq], rfl, houtcome⟩
    · cases e with
      | integrityError =>
        simp only [heq]
        split
        · exact .inl ⟨_, _, lease, rfl, rfl, .busy⟩
        · exact .inr ⟨_, rfl⟩
      | valueError text => exact .inr ⟨.valueError text, by simp only [heq]⟩
      | leaseError code => exact .inr ⟨.leaseError code, by simp only [heq]⟩

theorem tryAcquireResult_write {acquiredAt : TimeArg} :
    LeaseWrite s (.tryAcquireResult env request candidate leaseId acquiredAt expiresAt)
      (tryAcquireResult env request candidate leaseId acquiredAt expiresAt s).2 := by
  rcases tryAcquireResult_cases env request candidate leaseId acquiredAt expiresAt s with
    ⟨r, s', lease, heq, hproposed, houtcome⟩ | ⟨e, heq⟩
  · rw [heq]
    cases houtcome with
    | existing => exact .nothing
    | busy => exact .nothing
    | leased unfenced scanned freshId freshWorker freshOwner =>
      exact .leased hproposed unfenced scanned freshId freshWorker freshOwner
  · rw [heq]
    exact .nothing

/-- One call writes one of the things listed. -/
theorem leaseStep_write (s : LeaseStore) (call : LeaseCall) :
    LeaseWrite s call (leaseStep s call).2 := by
  cases call with
  | tryAcquireResult env request candidate leaseId acquiredAt expiresAt =>
    exact tryAcquireResult_write
  | heartbeat leaseId sessionId taskId heartbeatAt =>
    show LeaseWrite s _ (heartbeat leaseId sessionId taskId heartbeatAt s).2
    unfold heartbeat
    split
    · exact .nothing
    · exact atomically_state .nothing (heartbeatBody_write ‹_›)
  | release leaseId sessionId taskId releasedAt =>
    show LeaseWrite s _ (release leaseId sessionId taskId releasedAt s).2
    unfold release
    split
    · exact .nothing
    · exact atomically_state .nothing (releaseBody_write ‹_›)
  | reconcileStale env leaseId sessionId taskId observation =>
    show LeaseWrite s _ (reconcileStale env leaseId sessionId taskId observation s).2
    unfold reconcileStale
    split
    · exact .nothing
    · exact atomically_state .nothing (reconcileBody_write ‹_›)
  | acquireProvisioningReservation env request now =>
    show LeaseWrite s _ (acquireProvisioningReservation env request now s).2
    unfold acquireProvisioningReservation
    split
    · exact .nothing
    · rw [nameIntegrityError_state]
      exact atomically_state .nothing (reserveBody_write ‹_›)
  | transitionProvisioningReservation reservationId sessionId taskId state now workerId =>
    show LeaseWrite s _
      (transitionProvisioningReservation reservationId sessionId taskId state now workerId s).2
    unfold transitionProvisioningReservation
    split
    · exact .nothing
    · rw [nameIntegrityError_state]
      exact atomically_state .nothing (transitionBody_write ‹_›)
  | reconcileStaleProvisioning reservationId sessionId taskId now staleAfterSeconds =>
    show LeaseWrite s _
      (reconcileStaleProvisioning reservationId sessionId taskId now staleAfterSeconds s).2
    unfold reconcileStaleProvisioning
    split
    · exact .nothing
    · exact atomically_state .nothing reconcileProvisioningBody_write

end AConductor.Lease

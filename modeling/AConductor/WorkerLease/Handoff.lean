import AConductor.WorkerLease.Safety

namespace AConductor.Lease

open AConductor.Graph List Table Machine

structure ReservationsKeyed (s : LeaseStore) : Prop where
  ids : Unique ReservationRecord.idKey s.reservations
  owners : Unique ReservationRecord.ownerKey s.reservations
  workers : Unique ReservationRecord.workerKey s.reservations

theorem reservationsKeyed_empty : ReservationsKeyed LeaseStore.empty :=
  ⟨unique_nil _, unique_nil _, unique_nil _⟩

variable {s : LeaseStore} {call : LeaseCall}

theorem ReservationsKeyed.eq_of_id (h : ReservationsKeyed s) {a b : ReservationRecord}
    (ha : a ∈ s.reservations) (hb : b ∈ s.reservations) (hid : a.reservationId = b.reservationId) :
    a = b :=
  h.ids.eq_of_key ha hb (congrArg some hid) rfl

/-- A reservation moves to a state and worker under which no other has its key. -/
theorem ReservationsKeyed.moved_unique (h : ReservationsKeyed s)
    {current : ReservationRecord} (hmem : current ∈ s.reservations) {K : Type} [DecidableEq K]
    {key : ReservationRecord → Option K} (hkey : Unique key s.reservations)
    {move : ReservationRecord → ReservationRecord}
    (hfresh : conflicts key (move current)
      (s.reservations.filter fun r => r.reservationId ≠ current.reservationId) = false) :
    Unique key (updateWhere (fun r => r.reservationId = current.reservationId) move
      s.reservations) := by
  apply hkey.updateOne
  · apply h.ids.imp
    rintro a b hab ⟨ha, hb⟩
    simp only [decide_eq_true_eq] at ha hb
    exact hab _ rfl (congrArg some (hb.trans ha.symm))
  · intro a ha hpa b hb hpb
    simp only [decide_eq_true_eq] at hpa
    simp only [decide_eq_false_iff_not] at hpb
    rw [h.eq_of_id ha hmem hpa]
    exact conflicts_eq_false.mp hfresh b (mem_filter.mpr ⟨hb, by simpa using hpb⟩)

theorem proposedReservation_ok {env : LeaseEnv} {request : ReservationRequest} {now : TimeArg}
    {record : ReservationRecord} {maxExtraWorkers : Nat}
    (h : proposedReservation env request now = .ok (record, maxExtraWorkers)) :
    record.state = .preProvision ∧ record.workerId = none ∧
      (maxExtraWorkers : Int) = request.maxExtraWorkers := by
  unfold proposedReservation at h
  iterate 3 obtain ⟨_, -, h⟩ := Except.bind_eq_ok.mp h
  dsimp only at h
  -- with and without a worktree the rest is the same
  split at h
  on_goal 1 => obtain ⟨_, -, h⟩ := Except.bind_eq_ok.mp h
  on_goal 2 => iterate 2 obtain ⟨_, -, h⟩ := Except.bind_eq_ok.mp h
  all_goals
    obtain ⟨_, -, h⟩ := Except.bind_eq_ok.mp h
    split at h
    · cases h
    · rename_i hrange
      iterate 2 obtain ⟨_, -, h⟩ := Except.bind_eq_ok.mp h
      cases h
      exact ⟨rfl, rfl, Int.toNat_of_nonneg (by omega)⟩

theorem LeaseWrite.keyed {s s' : LeaseStore} (hw : LeaseWrite s call s') (h : ReservationsKeyed s) :
    ReservationsKeyed s' := by
  cases hw with
  | nothing => exact h
  | leased => exact ⟨h.ids, h.owners, h.workers⟩
  | rewrote => exact ⟨h.ids, h.owners, h.workers⟩
  | reserved proposed room freshId freshOwner freshWorker =>
    exact ⟨h.ids.insert freshId, h.owners.insert freshOwner, h.workers.insert freshWorker⟩
  | moved args mem allowed unstolen freshOwner freshWorker =>
    exact ⟨h.ids.updateWhere fun r _ => .inl rfl, h.moved_unique mem h.owners freshOwner,
      h.moved_unique mem h.workers freshWorker⟩

/-- The holder of a worker is the owner of its provisioned reservation. -/
def HandoffsHeld (s : LeaseStore) : Prop :=
  ∀ r ∈ s.reservations, r.state = .provisioned → ∀ l ∈ s.leases, l.unreleased = true →
    r.workerId = some l.workerId → l.sessionId = r.sessionId ∧ l.taskId = r.taskId

/-- An acquisition that is not fenced is by the owner of whatever reservation hands the
    worker over. -/
theorem ReservationsKeyed.unfenced (h : ReservationsKeyed s) {lease : WorkerLease}
    (hunfenced : fencedByReservation lease (s.boundReservation lease.workerId) = false)
    {r : ReservationRecord} (hr : r ∈ s.reservations)
    (hstate : r.state = .provisioned ∨ r.state = .recoveryRequired)
    (hworker : r.workerId = some lease.workerId) :
    r.state = .provisioned ∧ lease.sessionId = r.sessionId ∧ lease.taskId = r.taskId := by
  have key : ∀ b : ReservationRecord, b.state = .provisioned ∨ b.state = .recoveryRequired →
      b.workerId = some lease.workerId → b.workerKey = some lease.workerId := by
    intro b hb hw
    unfold ReservationRecord.workerKey
    rcases hb with hb | hb <;> simp [hb, hw]
  cases hfound : s.boundReservation lease.workerId with
  | none =>
    unfold LeaseStore.boundReservation at hfound
    have habsent := List.find?_eq_none.mp hfound r hr
    rcases hstate with hstate | hstate <;> simp [hstate, hworker] at habsent
  | some bound =>
    have hbound := List.find?_some hfound
    simp only [Bool.and_eq_true, Bool.or_eq_true, decide_eq_true_eq] at hbound
    have hsame : bound = r := h.workers.eq_of_key (mem_of_find?_eq_some hfound) hr
      (key bound hbound.2 hbound.1) (key r hstate hworker)
    rw [hfound, hsame] at hunfenced
    simp only [fencedByReservation, Bool.or_eq_false_iff, decide_eq_false_iff_not,
      not_not] at hunfenced
    exact ⟨hunfenced.1.1, hunfenced.1.2.symm, hunfenced.2.symm⟩

/-- A transition that steals nothing is by the holder of the worker. -/
theorem LeasesExclusive.unstolen (h : LeasesExclusive s) {boundTo : Option String}
    {sessionId taskId : String}
    (hunstolen : foreignLease s .provisioned boundTo sessionId taskId = false) {l : WorkerLease}
    (hl : l ∈ s.leases) (hopen : l.unreleased = true) (hworker : boundTo = some l.workerId) :
    l.sessionId = sessionId ∧ l.taskId = taskId := by
  unfold foreignLease at hunstolen
  cases hfound : s.leases.find? fun l => some l.workerId = boundTo && l.unreleased with
  | none =>
    have habsent := List.find?_eq_none.mp hfound l hl
    simp [hworker, hopen] at habsent
  | some holder =>
    have hholder := List.find?_some hfound
    simp only [Bool.and_eq_true, decide_eq_true_eq] at hholder
    have hsame : holder = l := by
      apply h.workers.eq_of_key (mem_of_find?_eq_some hfound) hl (k := l.workerId)
      · have hid : holder.workerId = l.workerId := Option.some.inj (hholder.1.trans hworker)
        simp [WorkerLease.activeWorkerKey, hholder.2, hid]
      · simp [WorkerLease.activeWorkerKey, hopen]
    rw [hfound, hsame] at hunstolen
    simpa using hunstolen

theorem LeaseWrite.held {s s' : LeaseStore} (hw : LeaseWrite s call s')
    (hexclusive : LeasesExclusive s) (hkeyed : ReservationsKeyed s) (h : HandoffsHeld s) :
    HandoffsHeld s' := by
  cases hw with
  | nothing => exact h
  | leased proposed unfenced =>
    intro r hr hstate l hl hopen hworker
    rcases mem_append.mp hl with hl | hl
    · exact h r hr hstate l hl hopen hworker
    · rw [mem_singleton] at hl
      subst hl
      exact (hkeyed.unfenced unfenced hr (.inl hstate) hworker).2
  | rewrote mem unreleased rewrite =>
    have hf := rewrite.keepsClaims
    intro r hr hstate l' hl' hopen hworker
    obtain ⟨l, hl, rfl⟩ := mem_updateWhere.mp hl'
    split at hopen
    · rename_i hp
      rw [if_pos hp] at hworker ⊢
      rw [hf.workerId] at hworker
      rw [hf.sessionId, hf.taskId]
      exact h r hr hstate l hl (hf.unreleased hopen) hworker
    · rename_i hp
      rw [if_neg hp] at hworker ⊢
      exact h r hr hstate l hl hopen hworker
  | reserved proposed =>
    intro r hr hstate
    rcases mem_append.mp hr with hr | hr
    · exact h r hr hstate
    · rw [mem_singleton] at hr
      subst hr
      have hpre := (proposedReservation_ok proposed).1.symm.trans hstate
      cases hpre
  | @moved _ _ _ _ _ _ _ current target _ args mem allowed unstolen =>
    intro r' hr' hstate l hl hopen hworker
    obtain ⟨r, hr, rfl⟩ := mem_updateWhere.mp hr'
    split at hstate
    · rename_i hp
      rw [if_pos hp] at hworker ⊢
      simp only [decide_eq_true_eq] at hp
      have hsame : r = current := hkeyed.eq_of_id hr mem hp
      subst hsame
      have htarget : target = .provisioned := hstate
      subst htarget
      exact hexclusive.unstolen unstolen hl hopen hworker
    · rename_i hp
      rw [if_neg hp] at hworker ⊢
      exact h r hr hstate l hl hopen hworker

theorem handoffsHeld_empty : HandoffsHeld LeaseStore.empty := by
  intro r hr
  cases hr

theorem reachable_held (h : Reachable leaseStep LeaseStore.empty s) :
    LeasesExclusive s ∧ ReservationsKeyed s ∧ HandoffsHeld s := by
  apply h.induction ⟨leasesExclusive_empty, reservationsKeyed_empty, handoffsHeld_empty⟩
  rintro s call ⟨hexclusive, hkeyed, hheld⟩
  have hw := leaseStep_write s call
  exact ⟨hw.exclusive hexclusive, hw.keyed hkeyed, hw.held hexclusive hkeyed hheld⟩

/-- In every store that calls can reach, an unreleased lease on the worker of a
    provisioned reservation belongs to the owner task of the reservation. -/
theorem provisioned_excludes_foreign_leases {s : LeaseStore}
    (h : Reachable leaseStep LeaseStore.empty s) :
    ∀ r ∈ s.reservations, r.state = .provisioned → ∀ w, r.workerId = some w →
      ∀ l ∈ s.leases, l.unreleased = true → l.workerId = w →
        l.sessionId = r.sessionId ∧ l.taskId = r.taskId := by
  rintro r hr hstate w hw l hl hopen rfl
  exact (reachable_held h).2.2 r hr hstate l hl hopen hw

/-- The reservation `r1` of the owner task `t1` is moved on. -/
def moveOn (state : String) (workerId : Option String) : LeaseCall :=
  .transitionProvisioningReservation "r1" "s" "t1" state (.ok (.instant 0)) workerId

/-- The reservation reaches PROVISIONED with the worker `w1`. -/
def provisionCalls : List LeaseCall :=
  [.acquireProvisioningReservation ⟨id, fun _ => some "h"⟩
    { reservationId := "r1", sessionId := "s", taskId := "t1", runtimeKind := "serena"
      maxExtraWorkers := 1 } (.ok (.instant 0)),
   moveOn "PROVISIONING" none, moveOn "PROVISIONED" (some "w1")]

/-- The owner task `task` asks for the worker. -/
def leaseW1 (task : String) : LeaseCall :=
  .tryAcquireResult ⟨id, fun _ => some "h"⟩ (sampleRequest task "w1" "a") ⟨"w1", none⟩ "l1"
    (.ok (.instant 0)) none

theorem provisioned_excludes_foreign_leases_owner :
    let s := (run leaseStep .empty (provisionCalls ++ [leaseW1 "t2", leaseW1 "t1"])).2
    (s.leases.map fun l => (l.workerId, l.taskId)) = [("w1", "t1")] ∧
    ∀ r ∈ s.reservations, r.state = .provisioned → ∀ w, r.workerId = some w →
      ∀ l ∈ s.leases, l.unreleased = true → l.workerId = w →
        l.sessionId = r.sessionId ∧ l.taskId = r.taskId :=
  ⟨by decide +kernel, provisioned_excludes_foreign_leases ⟨_, rfl⟩⟩

/-- If the call takes the reservation on to CAPACITY or RECOVERY_REQUIRED, then with the
    worker `w`. -/
def LeaseCall.namesWorker (reservationId w : String) : LeaseCall → Bool
  | .transitionProvisioningReservation id sessionId taskId state now workerId =>
    match transitionArgs id sessionId taskId state now workerId with
    | .ok (id, _, _, target, _, boundTo) =>
      id ≠ reservationId || (target ≠ .capacity && target ≠ .recoveryRequired) || boundTo = some w
    | .error _ => true
  | _ => true

/-- The reservation `r` is still there with its owner and `w`, and not released. -/
def HandedOver (r : ReservationRecord) (w : String) (s : LeaseStore) : Prop :=
  ∃ r' ∈ s.reservations, r'.reservationId = r.reservationId ∧ r'.sessionId = r.sessionId ∧
    r'.taskId = r.taskId ∧ r'.workerId = some w ∧
    r'.state ∈ [ReservationState.provisioned, .capacity, .recoveryRequired]

/-- PROVISIONED leads on to two states, and they nowhere. -/
theorem allowedTransitions_handedOver {state target : ReservationState}
    (h : state ∈ [ReservationState.provisioned, .capacity, .recoveryRequired])
    (hallowed : target ∈ allowedTransitions state) :
    target = .capacity ∨ target = .recoveryRequired := by
  cases state <;> simp [allowedTransitions] at h hallowed
  exact hallowed

/-- A call that changes the store keeps the reservation with the worker. -/
def KeepsWorker (reservationId w : String) (s : LeaseStore) (call : LeaseCall) : Prop :=
  (leaseStep s call).2 ≠ s → call.namesWorker reservationId w = true

theorem LeaseWrite.handedOver {s s' : LeaseStore} (hw : LeaseWrite s call s')
    (hkeyed : ReservationsKeyed s) {r : ReservationRecord} {w : String} (hnames : call.namesWorker r.reservationId w = true)
    (h : HandedOver r w s) : HandedOver r w s' := by
  cases hw with
  | nothing => exact h
  | leased => exact h
  | rewrote => exact h
  | reserved =>
    obtain ⟨r', hr', hfacts⟩ := h
    exact ⟨r', mem_append_left _ hr', hfacts⟩
  | @moved _ _ _ _ _ _ _ current _ _ args mem allowed =>
    obtain ⟨r', hr', hid, hsession, htask, hworker, hstate⟩ := h
    refine ⟨_, mem_updateWhere.mpr ⟨r', hr', rfl⟩, ?_⟩
    by_cases hsame : r'.reservationId = current.reservationId
    · rw [if_pos (by simpa using hsame)]
      have hcurrent : r' = current := hkeyed.eq_of_id hr' mem hsame
      subst hcurrent
      have htarget := allowedTransitions_handedOver hstate allowed
      simp only [LeaseCall.namesWorker, args, hid] at hnames
      rcases htarget with rfl | rfl
      · exact ⟨hid, hsession, htask, by simpa using hnames, by simp⟩
      · exact ⟨hid, hsession, htask, by simpa using hnames, by simp⟩
    · rw [if_neg (by simpa using hsame)]
      exact ⟨hid, hsession, htask, hworker, hstate⟩

/-- Once a reservation is provisioned with a worker, and if whatever takes it on names that worker,
    it records the worker and is never released; until it is capacity, only its owner can
    lease the worker, and only while the reservation is provisioned. -/
theorem provisioned_worker_kept (before after : List LeaseCall) {r : ReservationRecord} {w : String}
    (hr : r ∈ (run leaseStep .empty before).2.reservations)
    (hstate : r.state = .provisioned) (hworker : r.workerId = some w)
    (hnames : Along leaseStep (KeepsWorker r.reservationId w)
      (run leaseStep .empty before).2 after) :
    let s := (run leaseStep .empty (before ++ after)).2
    ∃ r' ∈ s.reservations, r'.reservationId = r.reservationId ∧ r'.sessionId = r.sessionId ∧
      r'.taskId = r.taskId ∧ r'.workerId = some w ∧
      r'.state ∈ [ReservationState.provisioned, .capacity, .recoveryRequired] ∧
      (r'.state ≠ .capacity → ∀ env request candidate leaseId acquiredAt expiresAt lease,
        (tryAcquireResult env request candidate leaseId acquiredAt expiresAt s).1 =
          .ok ⟨some lease, true⟩ → lease.workerId = w →
        r'.state = .provisioned ∧ lease.sessionId = r.sessionId ∧ lease.taskId = r.taskId) := by
  intro s
  have now : HandedOver r w (run leaseStep .empty before).2 :=
    ⟨r, hr, rfl, rfl, rfl, hworker, by simp [hstate]⟩
  have keyed : ReservationsKeyed (run leaseStep .empty before).2 :=
    (reachable_held ⟨before, rfl⟩).2.1
  have kept : HandedOver r w s := by
    show HandedOver r w (run leaseStep .empty (before ++ after)).2
    rw [run_append_state]
    refine (hnames.kept (P := fun s => ReservationsKeyed s ∧ HandedOver r w s) ?_ ⟨keyed, now⟩).2
    rintro s call - hfit ⟨hkeyed, h⟩
    have hw := leaseStep_write s call
    refine ⟨hw.keyed hkeyed, ?_⟩
    by_cases hsame : (leaseStep s call).2 = s
    · rwa [hsame]
    · exact hw.handedOver hkeyed (hfit hsame) h
  obtain ⟨r', hr', hid, hsession, htask, hbound, hmember⟩ := kept
  refine ⟨r', hr', hid, hsession, htask, hbound, hmember, ?_⟩
  intro hnotCapacity env request candidate leaseId acquiredAt expiresAt lease hok hlease
  have hkeyed : ReservationsKeyed s := (reachable_held ⟨before ++ after, rfl⟩).2.1
  have hfencing : r'.state = .provisioned ∨ r'.state = .recoveryRequired := by
    simp only [mem_cons, not_mem_nil, or_false] at hmember
    rcases hmember with h | h | h
    · exact .inl h
    · exact absurd h hnotCapacity
    · exact .inr h
  rcases tryAcquireResult_cases env request candidate leaseId acquiredAt expiresAt s with
    ⟨out, s', proposed, heq, -, houtcome⟩ | ⟨e, heq⟩
  · rw [heq] at hok
    cases hok
    cases houtcome with
    | leased unfenced =>
      obtain ⟨hprovisioned, howner⟩ := hkeyed.unfenced unfenced hr' hfencing (hlease ▸ hbound)
      exact ⟨hprovisioned, hsession ▸ howner.1, htask ▸ howner.2⟩
  · rw [heq] at hok
    cases hok

def provisionedRow : ReservationRecord where
  reservationId := "r1"
  sessionId := "s"
  taskId := "t1"
  runtimeKind := "serena"
  state := .provisioned
  workerId := some "w1"
  acquiredAt := .instant 0
  updatedAt := .instant 0
  projectId := none
  worktreeKey := none
  mutableScope := []

theorem provisioned_worker_kept_recovery :
    let s := (run leaseStep .empty
      (provisionCalls ++ [moveOn "RECOVERY_REQUIRED" (some "w1"), leaseW1 "t2"])).2
    ∃ r' ∈ s.reservations, r'.reservationId = "r1" ∧ r'.workerId = some "w1" := by
  intro s
  obtain ⟨r', hr', hid, -, -, hworker, -⟩ := provisioned_worker_kept provisionCalls
    [moveOn "RECOVERY_REQUIRED" (some "w1"), leaseW1 "t2"] (r := provisionedRow)
    (by decide +kernel) rfl rfl ⟨fun _ => by decide +kernel, fun _ => by decide +kernel, trivial⟩
  exact ⟨r', hr', hid, hworker⟩

/-- A transition to RECOVERY_REQUIRED that names no worker takes the worker out of the
    record, and one to CAPACITY lifts the fence: either way another owner leases it. -/
theorem provisioned_worker_dropped :
    let after := fun calls => (run leaseStep .empty (provisionCalls ++ calls)).2
    let bound := fun s : LeaseStore => s.reservations.map fun r => (r.state, r.workerId)
    let held := fun s : LeaseStore => s.leases.map fun l => (l.workerId, l.taskId)
    bound (after []) = [(.provisioned, some "w1")] ∧
    bound (after [moveOn "RECOVERY_REQUIRED" none, leaseW1 "t2"]) = [(.recoveryRequired, none)] ∧
    held (after [moveOn "RECOVERY_REQUIRED" none, leaseW1 "t2"]) = [("w1", "t2")] ∧
    bound (after [moveOn "CAPACITY" (some "w1"), leaseW1 "t2"]) = [(.capacity, some "w1")] ∧
    held (after [moveOn "CAPACITY" (some "w1"), leaseW1 "t2"]) = [("w1", "t2")] := by
  decide +kernel

end AConductor.Lease

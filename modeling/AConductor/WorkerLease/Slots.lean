import AConductor.WorkerLease.Handoff

/-!
# Worker leases: provisioning slots

`acquire_provisioning_reservation` counts the reservations that are not RELEASED against the
caller's `max_extra_workers` (`worker_lease.py:938-950`). Every other state counts, the
uncertain RECOVERY_REQUIRED among them, so that a slot comes free only on the way from
PRE_PROVISION to RELEASED.
-/

namespace AConductor.Lease

open Txn

/-- The number of reservations that consume a slot (`worker_lease.py:938-941`). -/
def LeaseStore.consuming (s : LeaseStore) : Nat :=
  (s.reservations.filter fun r => r.state ≠ .released).length

/-- The states that `allowed_transitions` leads out of nowhere
    (`worker_lease.py:1034-1041`). -/
def ReservationState.terminal : ReservationState → Bool
  | .capacity | .recoveryRequired | .released => true
  | .preProvision | .active | .provisioning | .provisioned => false

theorem allowedTransitions_terminal {state : ReservationState} :
    allowedTransitions state = [] ↔ state.terminal = true := by
  cases state <;> simp [allowedTransitions, ReservationState.terminal]

/-- A reservation that moves was not RELEASED before. -/
theorem ne_released_of_allowed {state target : ReservationState}
    (h : target ∈ allowedTransitions state) : state ≠ .released := by
  rintro rfl
  cases h

/-- The call is an acquisition, and it has answered that it acquired a reservation. -/
def Acquires (call : LeaseCall) (answered : Except LeaseFault LeaseAnswer)
    (request : ReservationRequest) : Prop :=
  ∃ env now result, call = .acquireProvisioningReservation env request now ∧
    answered = .ok (.reserved result) ∧ result.kind = .acquired

/-- An acquisition leaves the table alone and says so, or inserts its row while there is
    room. -/
inductive ReserveOutcome (s : LeaseStore) (record : ReservationRecord) (maxExtraWorkers : Nat) :
    ReservationResult → LeaseStore → Prop where
  | kept {result : ReservationResult} (kind : result.kind ≠ .acquired) :
      ReserveOutcome s record maxExtraWorkers result s
  | inserted {result : ReservationResult} (kind : result.kind = .acquired)
      (room : s.consuming < maxExtraWorkers) :
      ReserveOutcome s record maxExtraWorkers result
        { s with reservations := s.reservations ++ [record.stored] }

theorem reserveBody_outcome {record : ReservationRecord} {maxExtraWorkers : Nat}
    {s : LeaseStore} :
    wp (reserveBody record maxExtraWorkers) (ReserveOutcome s record maxExtraWorkers)
      (fun _ _ => True) s := by
  unfold reserveBody
  rw [wp_bind, wp_query]
  split
  · rw [wp_ite]
    exact ⟨fun _ => trivial, fun _ => .kept (by simp)⟩
  · simp only [wp_bind, wp_query, wp_ite]
    refine ⟨fun _ => .kept (by simp), fun hroom => ?_⟩
    unfold insertReservation
    simp only [wp_bind, wp_query, wp_require, implies_true, and_true, wp_update]
    intro _
    split
    · -- the row just inserted is found
      rename_i hmissing
      have habsent := List.find?_eq_none.mp hmissing record.stored
        (List.mem_append_right _ List.mem_cons_self)
      exact absurd (decide_eq_true rfl) habsent
    · exact .inserted rfl (Nat.lt_of_not_le hroom)

/-- An acquisition returns in one of the two ways, or raises and leaves the table alone. -/
theorem acquireProvisioningReservation_cases (env : LeaseEnv) (request : ReservationRequest)
    (now : TimeArg) (s : LeaseStore) :
    (∃ result s' record maxExtraWorkers,
      acquireProvisioningReservation env request now s = (.ok result, s') ∧
      proposedReservation env request now = .ok (record, maxExtraWorkers) ∧
      ReserveOutcome s record maxExtraWorkers result s') ∨
    ∃ e, acquireProvisioningReservation env request now s = (.error e, s) := by
  unfold acquireProvisioningReservation
  cases hproposed : proposedReservation env request now with
  | error e => exact .inr ⟨e, rfl⟩
  | ok proposed =>
    obtain ⟨record, maxExtraWorkers⟩ := proposed
    have hbody : wp (reserveBody record maxExtraWorkers)
        (ReserveOutcome s record maxExtraWorkers) (fun _ _ => True) s := reserveBody_outcome
    rcases atomically_spec (E := fun _ => True) hbody with
      ⟨result, s', heq, houtcome⟩ | ⟨e, heq, -⟩
    · refine .inl ⟨result, s', record, maxExtraWorkers, ?_, rfl, houtcome⟩
      simp only [heq]
      rfl
    · refine .inr ?_
      cases e with
      | integrityError => exact ⟨_, by simp only [heq]; rfl⟩
      | valueError text => exact ⟨.valueError text, by simp only [heq]; rfl⟩
      | leaseError code => exact ⟨.leaseError code, by simp only [heq]; rfl⟩

/-- A call that takes no slot leaves at most as many taken. -/
theorem LeaseWrite.consuming_le {s s' : LeaseStore} {call : LeaseCall} (hw : LeaseWrite s call s')
    (hkeyed : ReservationsKeyed s)
    (hcall : ∀ env request now, call ≠ .acquireProvisioningReservation env request now) :
    s'.consuming ≤ s.consuming := by
  cases hw with
  | nothing => exact Nat.le_refl _
  | leased => exact Nat.le_refl _
  | rewrote => exact Nat.le_refl _
  | @reserved env request now => exact absurd rfl (hcall env request now)
  | @moved _ _ _ _ _ _ _ current _ _ args mem allowed =>
    apply Table.length_filter_updateWhere_le
    intro r hr hp _
    simp only [decide_eq_true_eq] at hp
    have hsame : r = current := hkeyed.eq_of_id hr mem hp
    subst hsame
    simpa using ne_released_of_allowed allowed

/-- An acquisition takes one slot, within the bound it was called with, or none. -/
theorem acquireProvisioningReservation_slots (env : LeaseEnv) (request : ReservationRequest)
    (now : TimeArg) (s : LeaseStore) :
    let call := LeaseCall.acquireProvisioningReservation env request now
    let out := leaseStep s call
    (Acquires call out.1 request ∧ out.2.consuming = s.consuming + 1 ∧
      (out.2.consuming : Int) ≤ request.maxExtraWorkers) ∨
    ((∀ asked, ¬ Acquires call out.1 asked) ∧ out.2 = s) := by
  intro call out
  have hout : out = answer .reserved (acquireProvisioningReservation env request now s) := rfl
  rcases acquireProvisioningReservation_cases env request now s with
    ⟨result, s', record, maxExtraWorkers, heq, hproposed, houtcome⟩ | ⟨e, heq⟩
  · have hpair : out = (.ok (.reserved result), s') := by
      rw [hout, heq]
      rfl
    rw [hpair]
    cases houtcome with
    | kept kind =>
      refine .inr ⟨?_, rfl⟩
      rintro asked ⟨_, _, _, _, hanswer, hkind⟩
      cases hanswer
      exact kind hkind
    | inserted kind room =>
      have hpre : record.stored.state = .preProvision := (proposedReservation_ok hproposed).1
      have hone : LeaseStore.consuming
          { s with reservations := s.reservations ++ [record.stored] } = s.consuming + 1 := by
        unfold LeaseStore.consuming
        rw [List.filter_append, List.length_append, List.filter_singleton, hpre]
        rfl
      have hmax := (proposedReservation_ok hproposed).2.2
      refine .inl ⟨⟨env, now, result, rfl, rfl, kind⟩, hone, ?_⟩
      rw [hone]
      omega
  · have hpair : out = (.error e, s) := by
      rw [hout, heq]
      rfl
    rw [hpair]
    refine .inr ⟨?_, rfl⟩
    rintro asked ⟨_, _, _, _, hanswer, _⟩
    cases hanswer

/-- A reservation in a terminal state stays as it is. -/
theorem LeaseWrite.keepsTerminal {s s' : LeaseStore} {call : LeaseCall}
    (hw : LeaseWrite s call s') (hkeyed : ReservationsKeyed s) {r : ReservationRecord}
    (hr : r ∈ s.reservations) (hterminal : r.state.terminal = true) : r ∈ s'.reservations := by
  cases hw with
  | nothing => exact hr
  | leased => exact hr
  | rewrote => exact hr
  | reserved => exact List.mem_append_left _ hr
  | @moved _ _ _ _ _ _ _ current _ _ args mem allowed =>
    refine Table.mem_updateWhere.mpr ⟨r, hr, ?_⟩
    rw [if_neg]
    intro hp
    simp only [decide_eq_true_eq] at hp
    have hsame : r = current := hkeyed.eq_of_id hr mem hp
    subst hsame
    rw [allowedTransitions_terminal.mpr hterminal] at allowed
    cases allowed

/-- After any calls, an acquisition that succeeds leaves at most `max_extra_workers` slots
    taken; a call after which more slots are taken is an acquisition that succeeded, and
    takes one; a reservation in a terminal state stays in it through all further calls. -/
theorem provisioning_slots_conserved (before : List LeaseCall) :
    let s := (Machine.run leaseStep .empty before).2
    (∀ call request, Acquires call (leaseStep s call).1 request →
      ((leaseStep s call).2.consuming : Int) ≤ request.maxExtraWorkers) ∧
    (∀ call, s.consuming < (leaseStep s call).2.consuming →
      (∃ request, Acquires call (leaseStep s call).1 request) ∧
        (leaseStep s call).2.consuming = s.consuming + 1) ∧
    (∀ r ∈ s.reservations, r.state.terminal = true → ∀ after,
      let later := (Machine.run leaseStep .empty (before ++ after)).2
      r ∈ later.reservations ∧
        ∀ r' ∈ later.reservations, r'.reservationId = r.reservationId → r' = r) := by
  intro s
  have hkeyed : ∀ s, Machine.Reachable leaseStep LeaseStore.empty s → ReservationsKeyed s :=
    fun s hs => (reachable_held hs).2.1
  refine ⟨?_, ?_, ?_⟩
  · intro call request hacquires
    obtain ⟨env, now, result, rfl, -⟩ := id hacquires
    rcases acquireProvisioningReservation_slots env request now s with ⟨-, -, hmax⟩ | ⟨hnot, -⟩
    · exact hmax
    · exact absurd hacquires (hnot request)
  · intro call hmore
    by_cases hcall : ∃ env asked now, call = .acquireProvisioningReservation env asked now
    · obtain ⟨env, asked, now, rfl⟩ := hcall
      rcases acquireProvisioningReservation_slots env asked now s with
        ⟨hacquires, hone, -⟩ | ⟨-, hsame⟩
      · exact ⟨⟨asked, hacquires⟩, hone⟩
      · rw [hsame] at hmore
        exact absurd hmore (Nat.lt_irrefl _)
    · have hle := (leaseStep_write s call).consuming_le (hkeyed s ⟨before, rfl⟩)
        fun env asked now h => hcall ⟨env, asked, now, h⟩
      exact absurd hmore (Nat.not_lt.mpr hle)
  · intro r hr hterminal after later
    have hkept : r ∈ later.reservations := by
      refine Machine.run_kept (P := fun s : LeaseStore => r ∈ s.reservations)
        (A := fun _ => True) hr ?_ fun _ _ => trivial
      intro s call hs _ hmem
      exact (leaseStep_write s call).keepsTerminal (hkeyed s hs) hmem hterminal
    exact ⟨hkept, fun r' hr' hid => (hkeyed later ⟨before ++ after, rfl⟩).eq_of_id hr' hkept hid⟩

end AConductor.Lease

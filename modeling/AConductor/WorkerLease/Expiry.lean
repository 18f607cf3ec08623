import AConductor.WorkerLease.Safety

namespace AConductor.Lease

open List Except Table

/-- The instant that a clock value stands for. -/
def instantOf : TimeArg → Option Int
  | .ok (.instant t) => some t
  | _ => none

/-- The `now` of a call. -/
def LeaseCall.now : LeaseCall → Option Int
  | .tryAcquireResult _ _ _ _ acquiredAt _ => instantOf acquiredAt
  | .heartbeat _ _ _ heartbeatAt => instantOf heartbeatAt
  | .release _ _ _ releasedAt => instantOf releasedAt
  | .reconcileStale _ _ _ _ observation => instantOf (.ok observation.observedAt)
  | .acquireProvisioningReservation _ _ now => instantOf now
  | .transitionProvisioningReservation _ _ _ _ now _ => instantOf now
  | .reconcileStaleProvisioning _ _ _ now _ => instantOf now

theorem timestampCompare_lt {a b : Stamp} (h : timestampCompare a b = .ok .lt) :
    ∃ x y, a = .instant x ∧ b = .instant y ∧ x < y := by
  cases a with
  | naive raw => cases h
  | malformed raw => cases h
  | instant x =>
    cases b with
    | naive raw => cases h
    | malformed raw => cases h
    | instant y =>
      refine ⟨x, y, rfl, rfl, ?_⟩
      have hlt : compare x y = .lt := Except.ok.inj h
      exact compare_lt_iff_lt.mp hlt

/-- The lease is past its expiry at `t`, quarantined or released. -/
def Ended (l : WorkerLease) (t : Int) : Prop :=
  l.releasedAt.isSome = true ∨ l.quarantineCode.isSome = true ∨
    ∃ e, l.expiresAt = some (.instant e) ∧ e ≤ t

variable {l lease : WorkerLease} {call : LeaseCall} {f : WorkerLease → WorkerLease}
  {s s' : LeaseStore}

theorem Ended.later {t t' : Int} (h : Ended l t) (ht : t ≤ t') : Ended l t' := by
  rcases h with h | h | ⟨e, he, hle⟩
  · exact .inl h
  · exact .inr (.inl h)
  · exact .inr (.inr ⟨e, he, le_trans hle ht⟩)

variable {t : Int}

theorem Ended.not_active (h : Ended l t) : leaseHealthKind l (.instant t) ≠ .ok .active := by
  unfold leaseHealthKind
  rcases h with h | h | ⟨e, he, hle⟩
  · simp [h]
  · simp only [h, if_true]
    split <;> simp
  · split
    · simp
    · split
      · simp
      · rw [he]
        have hnot : compare t e ≠ .lt := by
          rw [ne_eq, compare_lt_iff_lt]
          omega
        simp [timestampCompare, timestampDatetime, Except.bind, bind, pure, Except.pure, hnot]

/-- What `_lease_health_kind` reports of a lease that has ended. -/
def endedKinds : List (Except LeaseFault LeaseHealthKind) :=
  [.ok .stale, .ok .quarantined, .ok .released]

theorem ended_of_health (h : leaseHealthKind l (.instant t) ∈ endedKinds) : Ended l t := by
  unfold leaseHealthKind at h
  split at h
  · exact .inl ‹_›
  · split at h
    · exact .inr (.inl ‹_›)
    · cases hexpires : l.expiresAt with
      | none => simp [hexpires, endedKinds] at h
      | some expires =>
        rw [hexpires] at h
        cases expires with
        | naive raw => simp [endedKinds, timestampCompare, timestampDatetime, Except.bind, bind] at h
        | malformed raw =>
          simp [endedKinds, timestampCompare, timestampDatetime, Except.bind, bind] at h
        | instant e =>
          refine .inr (.inr ⟨e, hexpires, ?_⟩)
          by_contra hlt
          have hcompare : compare t e = .lt := compare_lt_iff_lt.mpr (by omega)
          simp [endedKinds, timestampCompare, timestampDatetime, Except.bind, bind, pure,
            Except.pure, hcompare] at h

/-- The row of a lease id is there and has ended. -/
def EndedRow (leaseId : String) (t : Int) (s : LeaseStore) : Prop :=
  (∃ l ∈ s.leases, l.leaseId = leaseId) ∧ ∀ l ∈ s.leases, l.leaseId = leaseId → Ended l t

theorem instantOf_time {leaseId sessionId taskId leaseId' sessionId' taskId' : String}
    {time : TimeArg}
    (h : ownerTimeArgs leaseId sessionId taskId time =
      .ok (leaseId', sessionId', taskId', .instant t)) : instantOf time = some t := by
  unfold ownerTimeArgs at h
  obtain ⟨_, -, h⟩ := bind_eq_ok.mp h
  obtain ⟨stamp, hstamp, h⟩ := bind_eq_ok.mp h
  cases h
  unfold timestamp at hstamp
  rw [mapError_eq_ok.mp hstamp]
  rfl

/-- A lease that has ended at `t` is ended by whatever rewrites it from `t` on. -/
theorem LeaseRewrite.ended (h : LeaseRewrite lease call f) (hnow : ∀ u ∈ call.now, t ≤ u)
    (hended : Ended lease t) (hopen : lease.unreleased = true) (l : WorkerLease) :
    Ended (f l) t := by
  cases h with
  | heartbeat args unquarantined expiring later live renewed =>
    -- a heartbeat from `t` on comes too late
    obtain ⟨b, e, rfl, rfl, hlt⟩ := timestampCompare_lt live
    have hbeat : t ≤ b := hnow b (instantOf_time args)
    rcases hended with h | h | ⟨e', he', hle⟩
    · unfold WorkerLease.unreleased at hopen
      rw [Option.isNone_iff_eq_none] at hopen
      simp [hopen] at h
    · simp [unquarantined] at h
    · rw [expiring] at he'
      cases he'
      omega
  | release => exact .inl rfl
  | reconcileRelease => exact .inl rfl
  | quarantine => exact .inr (.inl rfl)

theorem LeaseRewrite.leaseId (h : LeaseRewrite lease call f) (l : WorkerLease) :
    (f l).leaseId = l.leaseId := by
  cases h <;> rfl

/-- A row that is updated keeps its id. -/
theorem LeaseRewrite.rewritten_leaseId (h : LeaseRewrite lease call f) (c : Prop) [Decidable c]
    (l : WorkerLease) : (if c then f l else l).leaseId = l.leaseId := by
  split
  · exact h.leaseId l
  · rfl

variable {leaseId : String}

theorem LeaseWrite.ended (hw : LeaseWrite s call s') (hnow : ∀ u ∈ call.now, t ≤ u)
    (h : EndedRow leaseId t s) : EndedRow leaseId t s' := by
  obtain ⟨⟨old, hold, hid⟩, hall⟩ := h
  cases hw with
  | nothing => exact ⟨⟨old, hold, hid⟩, hall⟩
  | reserved => exact ⟨⟨old, hold, hid⟩, hall⟩
  | moved => exact ⟨⟨old, hold, hid⟩, hall⟩
  | leased proposed unfenced scanned freshId =>
    refine ⟨⟨old, mem_append_left _ hold, hid⟩, ?_⟩
    intro l hl hlid
    rcases mem_append.mp hl with hl | hl
    · exact hall l hl hlid
    · rw [mem_singleton] at hl
      subst hl
      exact absurd (congrArg some (hid.trans hlid.symm))
        (conflicts_eq_false.mp freshId old hold _ rfl)
  | @rewrote _ lease f mem unreleased rewrite =>
    refine ⟨⟨_, mem_updateWhere.mpr ⟨old, hold, rfl⟩, ?_⟩, ?_⟩
    · rw [rewrite.rewritten_leaseId, hid]
    · intro l' hl' hlid
      obtain ⟨l, hl, rfl⟩ := mem_updateWhere.mp hl'
      rw [rewrite.rewritten_leaseId] at hlid
      split
      · rename_i hp
        simp only [Bool.and_eq_true, decide_eq_true_eq] at hp
        exact rewrite.ended hnow (hall lease mem (hp.1.symm.trans hlid)) unreleased l
      · exact hall l hl hlid

theorem LeaseWrite.ids (hw : LeaseWrite s call s') (h : Unique WorkerLease.idKey s.leases) :
    Unique WorkerLease.idKey s'.leases := by
  cases hw with
  | nothing => exact h
  | reserved => exact h
  | moved => exact h
  | leased proposed unfenced scanned freshId => exact h.insert freshId
  | rewrote mem unreleased rewrite =>
    exact h.updateWhere fun r _ => .inl (congrArg some (rewrite.leaseId r))

theorem LeaseWrite.frozen (hw : LeaseWrite s call s') (hl : l ∈ s.leases)
    (hreleased : l.unreleased = false) : l ∈ s'.leases := by
  cases hw with
  | nothing => exact hl
  | reserved => exact hl
  | moved => exact hl
  | leased => exact mem_append_left _ hl
  | rewrote => exact mem_updateWhere.mpr ⟨l, hl, by simp [hreleased]⟩

/-- The lease expires when its time to live after the last heartbeat is over. -/
def Renewed (l : WorkerLease) : Prop :=
  ∃ expiry, l.expiresAt = some expiry ∧
    timestampAddSeconds l.heartbeatAt l.leaseTtlSeconds "expires_at" = .ok expiry

/-- The lease stands as one of the calls acquired it, with an expiry of the call's own. -/
def NamedExpiry (calls : List LeaseCall) (l : WorkerLease) : Prop :=
  ∃ env request candidate leaseId acquiredAt expiresAt acquired,
    LeaseCall.tryAcquireResult env request candidate leaseId acquiredAt (some expiresAt) ∈ calls ∧
    proposedLease env request candidate leaseId acquiredAt (some expiresAt) = .ok acquired ∧
    acquired.leaseId = l.leaseId ∧ l.heartbeatAt = acquired.heartbeatAt ∧
    l.expiresAt = acquired.expiresAt

theorem NamedExpiry.more {calls : List LeaseCall} (h : NamedExpiry calls l) (call : LeaseCall) :
    NamedExpiry (calls ++ [call]) l := by
  obtain ⟨env, request, candidate, leaseId, acquiredAt, expiresAt, acquired, hmem, hrest⟩ := h
  exact ⟨env, request, candidate, leaseId, acquiredAt, expiresAt, acquired,
    mem_append_left _ hmem, hrest⟩

theorem proposedLease_renewed {env : LeaseEnv} {request : WorkerLeaseRequest}
    {candidate : WorkerLeaseCandidate} {acquiredAt : TimeArg}
    (h : proposedLease env request candidate leaseId acquiredAt none = .ok lease) :
    Renewed lease := by
  unfold proposedLease at h
  iterate 2 obtain ⟨_, -, h⟩ := bind_eq_ok.mp h
  obtain ⟨expiry, hexpiry, h⟩ := bind_eq_ok.mp h
  dsimp only at h
  split at h
  all_goals
    iterate 2 obtain ⟨_, -, h⟩ := bind_eq_ok.mp h
    cases h
    exact ⟨expiry, rfl, hexpiry⟩

theorem LeaseRewrite.renewed (h : LeaseRewrite lease call f)
    (httl : l.leaseTtlSeconds = lease.leaseTtlSeconds) :
    Renewed (f l) ∨ ((f l).heartbeatAt = l.heartbeatAt ∧ (f l).expiresAt = l.expiresAt ∧
      (f l).leaseTtlSeconds = l.leaseTtlSeconds) := by
  cases h with
  | heartbeat args unquarantined expiring later live renewed =>
    exact .inl ⟨_, rfl, by rw [← renewed, ← httl]⟩
  | release => exact .inr ⟨rfl, rfl, rfl⟩
  | reconcileRelease => exact .inr ⟨rfl, rfl, rfl⟩
  | quarantine => exact .inr ⟨rfl, rfl, rfl⟩

theorem LeaseWrite.expiry (hw : LeaseWrite s call s')
    (hids : Unique WorkerLease.idKey s.leases) {calls : List LeaseCall}
    (h : ∀ l ∈ s.leases, Renewed l ∨ NamedExpiry calls l) :
    ∀ l ∈ s'.leases, Renewed l ∨ NamedExpiry (calls ++ [call]) l := by
  have kept : ∀ l ∈ s.leases, Renewed l ∨ NamedExpiry (calls ++ [call]) l :=
    fun l hl => (h l hl).imp_right fun hnamed => hnamed.more call
  cases hw with
  | nothing => exact kept
  | reserved => exact kept
  | moved => exact kept
  | @leased env request candidate leaseId acquiredAt expiresAt lease proposed =>
    intro l hl
    rcases mem_append.mp hl with hl | hl
    · exact kept l hl
    · obtain rfl := mem_singleton.mp hl
      cases expiresAt with
      | none =>
        have hrenewed : Renewed lease := proposedLease_renewed proposed
        exact .inl hrenewed
      | some expiry =>
        exact .inr ⟨env, request, candidate, leaseId, acquiredAt, expiry, lease, by simp, proposed,
          rfl, rfl, rfl⟩
  | @rewrote _ lease f mem unreleased rewrite =>
    intro l hl
    rcases hids.mem_updateWhere mem rfl (by simp [unreleased])
      (by simp +contextual [WorkerLease.idKey]) hl with rfl | ⟨hl, -⟩
    · rcases rewrite.renewed (l := lease) rfl with hrenewed | ⟨hbeat, hexpires, httl⟩
      · exact .inl hrenewed
      · rcases kept lease mem with ⟨expiry, hexpiry, hadd⟩ | ⟨env, request, candidate, leaseId,
          acquiredAt, named, acquired, hmem, hproposed, hid, hbeat', hexpires'⟩
        · exact .inl ⟨expiry, hexpires.trans hexpiry, by rw [hbeat, httl, hadd]⟩
        · exact .inr ⟨env, request, candidate, leaseId, acquiredAt, named, acquired, hmem,
            hproposed, hid.trans (rewrite.leaseId lease).symm, hbeat.trans hbeat',
            hexpires.trans hexpires'⟩
    · exact kept l hl

/-- The store after the calls. -/
def leasesAfter (calls : List LeaseCall) : LeaseStore := (Machine.run leaseStep .empty calls).2

theorem leasesAfter_snoc (calls : List LeaseCall) (call : LeaseCall) :
    leasesAfter (calls ++ [call]) = (leaseStep (leasesAfter calls) call).2 := by
  unfold leasesAfter
  rw [Machine.run_snoc]

theorem leasesAfter_ids (calls : List LeaseCall) :
    Unique WorkerLease.idKey (leasesAfter calls).leases :=
  Machine.Reachable.induction (P := fun s => Unique WorkerLease.idKey s.leases)
    ⟨calls, rfl⟩ (unique_nil _) fun s call hs => (leaseStep_write s call).ids hs

theorem leasesAfter_expiry (calls : List LeaseCall) :
    ∀ l ∈ (leasesAfter calls).leases, Renewed l ∨ NamedExpiry calls l := by
  induction calls using List.reverseRecOn with
  | nil =>
    intro l hl
    cases hl
  | append_singleton calls call ih =>
    rw [leasesAfter_snoc]
    exact (leaseStep_write _ call).expiry (leasesAfter_ids calls) ih

theorem leasesAfter_ended {before after : List LeaseCall}
    (hnow : ∀ u ∈ after.filterMap LeaseCall.now, t ≤ u)
    (h : EndedRow leaseId t (leasesAfter before)) :
    EndedRow leaseId t (leasesAfter (before ++ after)) := by
  refine Machine.run_kept (A := fun call => ∀ u, call.now = some u → t ≤ u) h ?_ ?_
  · intro s call _ hcall hrow
    exact (leaseStep_write s call).ended hcall hrow
  · intro call hmem u hu
    exact hnow u (mem_filterMap.mpr ⟨call, hmem, hu⟩)

theorem leasesAfter_frozen {before : List LeaseCall} (hl : l ∈ (leasesAfter before).leases)
    (hreleased : l.unreleased = false) (after : List LeaseCall) :
    l ∈ (leasesAfter (before ++ after)).leases :=
  Machine.run_kept (P := fun s => l ∈ s.leases) (A := fun _ => True) hl
    (fun s call _ _ hmem => (leaseStep_write s call).frozen hmem hreleased) fun _ _ => trivial

/-- In a run whose clock never goes back, a lease that is stale, quarantined or released at
    one point is active at no later one. An unreleased lease expires when its time to live
    after the last heartbeat is over, unless its acquisition named an expiry and no
    heartbeat has come since. A released row stays as it is. -/
theorem lease_expiry_final :
    (∀ before after t t', (before.filterMap LeaseCall.now ++ t ::
        (after.filterMap LeaseCall.now ++ [t'])).Pairwise (· ≤ ·) →
      ∀ l ∈ (leasesAfter before).leases, leaseHealthKind l (.instant t) ∈ endedKinds →
        ∀ l' ∈ (leasesAfter (before ++ after)).leases, l'.leaseId = l.leaseId →
          leaseHealthKind l' (.instant t') ≠ .ok .active) ∧
    (∀ calls, ∀ l ∈ (leasesAfter calls).leases, l.unreleased = true →
      Renewed l ∨ NamedExpiry calls l) ∧
    (∀ before after, ∀ l ∈ (leasesAfter before).leases, l.unreleased = false →
      l ∈ (leasesAfter (before ++ after)).leases ∧
      ∀ l' ∈ (leasesAfter (before ++ after)).leases, l'.leaseId = l.leaseId → l' = l) := by
  refine ⟨?_, fun calls l hl _ => leasesAfter_expiry calls l hl, ?_⟩
  · intro before after t t' hclock l hl hhealth l' hl' hid
    obtain ⟨hafter, -⟩ := pairwise_cons.mp (pairwise_append.mp hclock).2.1
    have hrow : EndedRow l.leaseId t (leasesAfter before) := by
      refine ⟨⟨l, hl, rfl⟩, ?_⟩
      intro other hother hsame
      rw [(leasesAfter_ids before).eq_of_key hother hl (congrArg some hsame) rfl]
      exact ended_of_health hhealth
    have hended := leasesAfter_ended (fun u hu => hafter u (mem_append_left _ hu)) hrow
    have htt' : t ≤ t' := hafter t' (by simp)
    exact ((hended.2 l' hl' hid).later htt').not_active
  · intro before after l hl hreleased
    have hstays := leasesAfter_frozen hl hreleased after
    refine ⟨hstays, ?_⟩
    intro l' hl' hid
    exact (leasesAfter_ids (before ++ after)).eq_of_key hl' hstays (congrArg some hid) rfl

def leaseAt (task worker leaseId : String) (now : Int) (expiresAt : Option TimeArg) : LeaseCall :=
  .tryAcquireResult ⟨id, fun _ => some "h"⟩ (sampleRequest task worker task) ⟨worker, none⟩ leaseId
    (.ok (.instant now)) expiresAt

/-- A lease of 300 seconds that is stale by then gets no heartbeat any more. -/
theorem lease_expiry_final_stale :
    ∀ l' ∈ (leasesAfter ([leaseAt "t1" "w1" "l1" 0 none] ++
        [.heartbeat "l1" "s" "t1" (.ok (.instant 400000000))])).leases,
      l'.leaseId = "l1" → leaseHealthKind l' (.instant 400000000) ≠ .ok .active := by
  obtain ⟨l, hl, hid, hstale⟩ : ∃ l ∈ (leasesAfter [leaseAt "t1" "w1" "l1" 0 none]).leases,
      l.leaseId = "l1" ∧ leaseHealthKind l (.instant 300000000) ∈ endedKinds := by
    decide +kernel
  intro l' hl' hid'
  exact lease_expiry_final.1 _ _ 300000000 400000000 (by decide) l hl hstale l' hl'
    (hid'.trans hid.symm)

/-- An acquisition may name an expiry that its time to live does not give. -/
theorem lease_expiry_named :
    ¬ ∀ l ∈ (leasesAfter [leaseAt "t1" "w1" "l1" 0 (some (.ok (.instant 1)))]).leases,
      l.unreleased = true → l.expiresAt.map Except.ok =
        some (timestampAddSeconds l.heartbeatAt l.leaseTtlSeconds "expires_at") := by
  decide +kernel

end AConductor.Lease

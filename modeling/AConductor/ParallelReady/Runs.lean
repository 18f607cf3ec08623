import AConductor.ParallelReady.Observed

/-!
# Parallel ready execution: what is run

The runs of a call of `execute` (`src/a_conductor/parallel_ready_execution.py:768-1081`), as its
observed ports record them: each is of a selected task, under a lease that the broker granted to
this call on the assigned worker, and within the capacity of its provider. The outcomes follow the
plan.
-/

namespace AConductor.Parallel

open Provider AConductor.Graph Lease Txn List

variable {W α β : Type} {x : ParallelReadyExecutor W} {c : BatchContext} {t : ParallelReadyTask}

/-! ### A task that leaves the loop names its node -/

def Named (t : ParallelReadyTask) : Stop → Prop
  | .outcome o => o.nodeId = t.nodeId
  | .fault _ => True

/-- Whatever stops the work on the task is its own outcome, or ends the call. -/
def Names (t : ParallelReadyTask) (f : Placing W α) : Prop :=
  ∀ s, wp f (fun _ _ => True) (fun why _ => Named t why) s

theorem names_pure (a : α) : Names t (pure a : Placing W α) := fun _ => trivial

theorem names_stop {o : ParallelReadyOutcome} (h : o.nodeId = t.nodeId) :
    Names t (stop o : Placing W α) := fun _ => h

theorem names_lift (f : Batch W α) : Names t (lift f) := by
  intro s
  unfold lift
  rw [wp_recast]
  exact wp_intro (fun _ _ _ => trivial) fun _ _ _ => trivial

theorem names_require {o : ParallelReadyOutcome} {b : Bool} (h : o.nodeId = t.nodeId) :
    Names t (require b (.outcome o) : Placing W Unit) := by
  intro s
  rw [wp_require]
  exact ⟨fun _ => trivial, fun _ => h⟩

theorem Names.bind {f : Placing W α} {k : α → Placing W β} (hf : Names t f)
    (hk : ∀ a, Names t (k a)) : Names t (f >>= k) := by
  intro s
  rw [wp_bind]
  exact wp_mono (hf s) (fun a s' _ => hk a s') fun _ _ h => h

theorem Names.map {f : Placing W α} (k : α → β) (hf : Names t f) : Names t (k <$> f) :=
  hf.bind fun a => names_pure (k a)

theorem names_eligibleProfile (now : Option Int) : Names t (eligibleProfile x now t) := by
  unfold eligibleProfile
  cases t.authority with
  | some authority =>
    refine (names_lift _).bind fun check => ?_
    exact (names_require rfl).bind fun _ => names_pure _
  | none =>
    refine (names_lift _).bind fun ready => ?_
    refine (names_require rfl).bind fun _ => ?_
    cases quotaReason t with
    | some reason => exact names_stop rfl
    | none => exact names_pure _

theorem names_screenTask (counts : Dict String Nat) : Names t (screenTask x c counts t) := by
  unfold screenTask
  refine (names_require rfl).bind fun _ => ?_
  refine (names_require rfl).bind fun _ => ?_
  refine (names_eligibleProfile c.now).bind fun profile => ?_
  exact (names_require rfl).bind fun _ => names_pure _

theorem names_useAdmission (a : ProviderAdmissionRecord) : Names t (useAdmission x c t a) := by
  unfold useAdmission
  refine (names_lift _).bind fun current => ?_
  cases validateProviderAdmissionRecord t c.batchId a current with
  | some reason => exact names_stop rfl
  | none => exact names_pure _

theorem names_judgeAcquired (answer : AcquireAnswer) : Names t (judgeAcquired x c t answer) := by
  unfold judgeAcquired
  split
  case h_8 a => exact (names_lift _).bind fun _ => names_useAdmission a
  all_goals exact names_stop rfl

theorem names_fenceTask (profile : ProviderConfiguration) : Names t (fenceTask x c t profile) := by
  unfold fenceTask
  cases c.preAcquired.get? t.nodeId with
  | some a => exact (names_useAdmission a).map _
  | none =>
    cases x.providerAdmissionStore with
    | none => exact names_pure _
    | some port =>
      refine (names_lift _).bind fun answer => ?_
      cases answer with
      | error e => exact names_stop rfl
      | ok r => exact (names_judgeAcquired r).map _

theorem names_preLease (admission : Option ProviderAdmissionRecord) :
    Names t (preLease x c t admission) := by
  unfold preLease
  cases t.authority with
  | none => exact names_pure _
  | some authority =>
    refine (names_lift _).bind fun check => ?_
    cases check.allowed with
    | true => exact names_pure _
    | false =>
      refine (names_lift _).bind fun current => ?_
      refine (names_lift _).bind fun released => ?_
      cases released with
      | some reason => exact names_stop rfl
      | none => exact names_stop rfl

theorem names_judgeLease (admission : Option ProviderAdmissionRecord) (o : WorkerLeaseOutcome) :
    Names t (judgeLease x c t admission o) := by
  unfold judgeLease
  split
  · split
    · exact names_stop rfl
    · split
      · exact names_stop rfl
      · exact names_pure _
  · split
    · refine (names_lift _).bind fun released => ?_
      cases released with
      | some reason => exact names_stop rfl
      | none => exact names_stop (leaseWaitOutcome_nodeId t.nodeId o)
    · exact names_stop (leaseWaitOutcome_nodeId t.nodeId o)

theorem names_placeTask (counts : Dict String Nat) : Names t (placeTask x c counts t) := by
  unfold placeTask admitTask
  refine (names_screenTask counts).bind fun profile => ?_
  refine (names_fenceTask profile).bind fun admission => ?_
  refine (names_preLease admission).bind fun _ => ?_
  unfold leaseTask
  refine (names_lift _).bind fun answer => ?_
  match answer with
  | .error e => exact names_stop rfl
  | .ok .other => exact names_stop rfl
  | .ok (.outcome o) => exact (names_judgeLease admission o).bind fun lease => names_pure _

/-! ### A task that is to run -/

/-- The profile under which the task was let through: its own, or that of a check that allowed
    it. -/
def InForce (s : Observed W) (t : ParallelReadyTask) (profile : ProviderConfiguration) : Prop :=
  (t.authority = none ∧ profile = t.providerProfile) ∨
    ∃ check, (t, check) ∈ s.checks ∧ check.allowed = true ∧ profile = check.profile

/-- The broker granted the lease to the request of the task, on its assigned worker. -/
def Obtained (s : Observed W) (t : ParallelReadyTask) (lease : WorkerLease) : Prop :=
  ∃ o, (t.leaseRequest, t.candidate, .outcome o) ∈ s.leases ∧ o.kind = .leased ∧
    o.lease = some lease ∧ lease.workerId = t.assignment.workerId

variable {profile : ProviderConfiguration} {ps : List Placement} {ts : List ParallelReadyTask}
  {s s' : Observed W} {r : Runnable} {counts : Dict String Nat}

theorem InForce.later (h : InForce s t profile) (hchecks : s.checks ⊆ s'.checks) :
    InForce s' t profile := by
  rcases h with hown | ⟨check, hmem, hallowed, hprofile⟩
  · exact .inl hown
  · exact .inr ⟨check, hchecks hmem, hallowed, hprofile⟩

theorem Obtained.later {lease : WorkerLease} (h : Obtained s t lease)
    (hleases : s.leases ⊆ s'.leases) : Obtained s' t lease := by
  obtain ⟨o, hmem, hgranted⟩ := h
  exact ⟨o, hleases hmem, hgranted⟩

section Round

variable {s s' : BatchRun (Observed W)} {counts : Dict String Nat}

theorem lift_ok {f : Batch W α} {s s' : BatchRun W} {a : α} (h : lift f s = (.ok a, s')) :
    f s = (.ok a, s') := by
  unfold lift recast at h
  rcases hf : f s with ⟨e | b, s₁⟩
  · rw [hf] at h
    cases h
  · rw [hf] at h
    cases h
    rfl

theorem require_ok {σ ε : Type} {b : Bool} {e : ε} {s s' : σ} {u : Unit}
    (h : (require b e : Txn σ ε Unit) s = (.ok u, s')) : b = true ∧ s = s' := by
  cases b with
  | true =>
    cases h
    exact ⟨rfl, rfl⟩
  | false => cases h

/-- An authority check that answered is recorded, unless there is no store to ask. -/
theorem checkProviderAuthority_recorded {authority : TaskAuthority} {check : ProviderAuthorityCheck}
    (hallowed : check.allowed = true)
    (h : checkProviderAuthority x.observed t authority s = (.ok check, s')) :
    (t, check) ∈ s'.world.checks := by
  unfold checkProviderAuthority at h
  rw [observed_store] at h
  cases hstore : x.providerAdmissionStore with
  | none =>
    rw [hstore] at h
    cases h
    cases hallowed
  | some port =>
    rw [hstore] at h
    change ask (observe (fun check s => { s with checks := s.checks ++ [(t, check)] })
      (port.authority t authority)) s = _ at h
    unfold ask recast askRaw observe at h
    dsimp only at h
    rcases hport : port.authority t authority s.world.world with ⟨e | answer, w⟩
    · rw [hport] at h
      cases h
    · rw [hport] at h
      cases h
      exact mem_append_right _ mem_cons_self

theorem eligibleProfile_inForce {now : Option Int}
    (h : eligibleProfile x.observed now t s = (.ok profile, s')) : InForce s'.world t profile := by
  unfold eligibleProfile at h
  cases hauthority : t.authority with
  | some authority =>
    rw [hauthority] at h
    obtain ⟨check, s₁, hcheck, h⟩ := bind_eq_ok h
    obtain ⟨_, s₂, hrequire, h⟩ := bind_eq_ok h
    obtain ⟨hallowed, rfl⟩ := require_ok hrequire
    cases h
    exact .inr ⟨check, checkProviderAuthority_recorded hallowed (lift_ok hcheck), hallowed, rfl⟩
  | none =>
    rw [hauthority] at h
    obtain ⟨ready, s₁, -, h⟩ := bind_eq_ok h
    obtain ⟨_, s₂, -, h⟩ := bind_eq_ok h
    cases hquota : quotaReason t with
    | some reason =>
      rw [hquota] at h
      cases h
    | none =>
      rw [hquota] at h
      cases h
      exact .inl ⟨hauthority, rfl⟩

/-- A task that is let through has room at its provider. -/
theorem screenTask_room (h : screenTask x.observed c counts t s = (.ok profile, s')) :
    InForce s'.world t profile ∧
      (c.providerInflight.get? t.providerId).getD 0 + (counts.get? t.providerId).getD 0 <
        profile.maxConcurrency := by
  unfold screenTask at h
  obtain ⟨_, s₁, -, h⟩ := bind_eq_ok h
  obtain ⟨_, s₂, -, h⟩ := bind_eq_ok h
  obtain ⟨found, s₃, hfound, h⟩ := bind_eq_ok h
  obtain ⟨_, s₄, hroom, h⟩ := bind_eq_ok h
  obtain ⟨hfree, rfl⟩ := require_ok hroom
  cases h
  exact ⟨eligibleProfile_inForce hfound, of_decide_eq_true hfree⟩

theorem broker_recorded {answer : LeaseAnswer}
    (h : tryAsk (x.observed.broker t.leaseRequest t.candidate) s = (.ok (.ok answer), s')) :
    (t.leaseRequest, t.candidate, answer) ∈ s'.world.leases := by
  change Txn.attempt (askRaw (observe
    (fun answer s => { s with leases := s.leases ++ [(t.leaseRequest, t.candidate, answer)] })
      (x.broker t.leaseRequest t.candidate))) s = _ at h
  unfold Txn.attempt askRaw observe at h
  dsimp only at h
  rcases hbroker : x.broker t.leaseRequest t.candidate s.world.world with ⟨e | granted, w⟩
  · rw [hbroker] at h
    cases h
  · rw [hbroker] at h
    cases h
    exact mem_append_right _ mem_cons_self

variable {admission : Option ProviderAdmissionRecord}

theorem judgeLease_granted {o : WorkerLeaseOutcome} {lease : WorkerLease}
    (h : judgeLease x.observed c t admission o s = (.ok lease, s')) :
    o.kind = .leased ∧ o.lease = some lease ∧ lease.workerId = t.assignment.workerId := by
  unfold judgeLease at h
  by_cases hkind : o.kind = .leased
  · rw [if_pos hkind] at h
    cases hlease : o.lease with
    | none =>
      rw [hlease] at h
      cases h
    | some granted =>
      rw [hlease] at h
      dsimp only at h
      by_cases hworker : granted.workerId ≠ t.assignment.workerId
      · rw [if_pos hworker] at h
        cases h
      · rw [if_neg hworker] at h
        cases h
        exact ⟨hkind, rfl, not_not.mp hworker⟩
  · rw [if_neg hkind] at h
    split at h
    · obtain ⟨released, s₁, -, h⟩ := bind_eq_ok h
      cases released with
      | some reason => cases h
      | none => cases h
    · cases h

/-- A task that is leased has its lease from the broker. -/
theorem leaseTask_obtained (h : leaseTask x.observed c t admission s = (.ok r, s')) :
    r.task = t ∧ Obtained s'.world t r.lease := by
  unfold leaseTask at h
  obtain ⟨answer, s₁, hanswer, h⟩ := bind_eq_ok h
  match answer with
  | .error e => cases h
  | .ok .other => cases h
  | .ok (.outcome o) =>
    obtain ⟨lease, s₂, hlease, h⟩ := bind_eq_ok h
    cases h
    have hrecorded := broker_recorded (lift_ok hanswer)
    have hasked := (observes_judgeLease admission o).moves hlease
    obtain ⟨hkind, hsome, hworker⟩ := judgeLease_granted hlease
    exact ⟨rfl, o, hasked.leases hrecorded, hkind, hsome, hworker⟩

/-- What is known of a task that is to run. -/
structure Placed (c : BatchContext) (counts : Dict String Nat) (t : ParallelReadyTask)
    (s : Observed W) (r : Runnable) : Prop where
  task : r.task = t
  obtained : Obtained s t r.lease
  room : ∃ profile, InForce s t profile ∧
    (c.providerInflight.get? t.providerId).getD 0 + (counts.get? t.providerId).getD 0 <
      profile.maxConcurrency

theorem placeTask_placed (h : placeTask x.observed c counts t s = (.ok r, s')) :
    Placed c counts t s'.world r := by
  unfold placeTask at h
  obtain ⟨profile, s₁, hscreen, h⟩ := bind_eq_ok h
  obtain ⟨hforce, hroom⟩ := screenTask_room hscreen
  have hlater : Asked s₁ s' := (observes_admitTask profile).moves h
  unfold admitTask at h
  obtain ⟨admission, s₂, -, h⟩ := bind_eq_ok h
  obtain ⟨_, s₃, -, h⟩ := bind_eq_ok h
  obtain ⟨htask, hobtained⟩ := leaseTask_obtained h
  exact ⟨htask, hobtained, profile, hforce.later hlater.checks, hroom⟩

/-- A round ends the task under its own name, or places it and counts it. -/
theorem placeStep_cases {p : Placement} {counts' : Dict String Nat}
    (h : placeStep x.observed c counts t s = (.ok (p, counts'), s')) :
    (∃ o, p = .ended o ∧ o.nodeId = t.nodeId ∧ counts' = counts) ∨
      ∃ r, p = .runnable r ∧ Placed c counts t s'.world r ∧
        counts' = counts.set t.providerId ((counts.get? t.providerId).getD 0 + 1) := by
  unfold placeStep at h
  rcases hrun : placeTask x.observed c counts t s with ⟨(o | e) | r, s₁⟩
  · rw [hrun] at h
    cases h
    have hnamed := wp_error (names_placeTask counts s) hrun
    exact .inl ⟨o, rfl, hnamed, rfl⟩
  · rw [hrun] at h
    cases h
  · rw [hrun] at h
    cases h
    exact .inr ⟨r, rfl, placeTask_placed hrun, rfl⟩

end Round

/-! ### The loop -/

/-- The placement is one of the task. -/
def Stands (t : ParallelReadyTask) : Placement → Prop
  | .ended o => o.nodeId = t.nodeId
  | .runnable r => r.task = t

/-- The tasks of a provider among those that are to run. -/
def ofProvider (provider : String) (rs : List Runnable) : List Runnable :=
  rs.filter fun r => r.task.providerId = provider

/-- Each item is let through with its lease, while its provider has room for it beside what is in
    flight, what was counted before, and the items in front of it. -/
def WithinRoom (c : BatchContext) (counts : Dict String Nat) (s : Observed W)
    (rs : List Runnable) : Prop :=
  ∀ before r after, rs = before ++ r :: after → Obtained s r.task r.lease ∧
    ∃ profile, InForce s r.task profile ∧
      (c.providerInflight.get? r.task.providerId).getD 0 +
          (counts.get? r.task.providerId).getD 0 +
        (ofProvider r.task.providerId before).length < profile.maxConcurrency

theorem withinRoom_cons {rs : List Runnable} (hplaced : Placed c counts t s r)
    (hrest : WithinRoom c (counts.set t.providerId ((counts.get? t.providerId).getD 0 + 1)) s rs) :
    WithinRoom c counts s (r :: rs) := by
  obtain ⟨htask, hobtained, hroom⟩ := hplaced
  subst htask
  intro before r' after heq
  cases before with
  | nil =>
    cases heq
    obtain ⟨profile, hforce, hroom⟩ := hroom
    exact ⟨hobtained, profile, hforce, by simpa [ofProvider] using hroom⟩
  | cons first before =>
    cases heq
    obtain ⟨hobtained', profile, hforce, hroom'⟩ := hrest before r' after rfl
    refine ⟨hobtained', profile, hforce, ?_⟩
    rw [Dict.get?_set] at hroom'
    unfold ofProvider at hroom' ⊢
    rw [filter_cons]
    by_cases hsame : r'.task.providerId = r.task.providerId
    · rw [if_pos hsame, Option.getD_some] at hroom'
      rw [if_pos (by simp [hsame]), length_cons, hsame]
      rw [hsame] at hroom'
      push_cast at hroom' ⊢
      omega
    · rw [if_neg hsame] at hroom'
      rw [if_neg (by simpa using fun h => hsame h.symm)]
      exact hroom'

theorem WithinRoom.later {rs : List Runnable} (h : WithinRoom c counts s rs)
    (hchecks : s.checks ⊆ s'.checks) (hleases : s.leases ⊆ s'.leases) :
    WithinRoom c counts s' rs := by
  intro before r after heq
  obtain ⟨hobtained, profile, hforce, hfree⟩ := h before r after heq
  exact ⟨hobtained.later hleases, profile, hforce.later hchecks, hfree⟩

theorem placeAll_stands {s s' : BatchRun (Observed W)}
    (h : placeAll x.observed c ts counts s = (.ok ps, s')) :
    List.Forall₂ Stands ts ps ∧ WithinRoom c counts s'.world (runnables ps) := by
  induction ts generalizing counts s ps with
  | nil =>
    cases h
    refine ⟨.nil, ?_⟩
    intro before r after heq
    cases before with
    | nil => cases heq
    | cons _ _ => cases heq
  | cons t ts ih =>
    unfold placeAll at h
    obtain ⟨⟨p, counts₁⟩, s₁, hstep, h⟩ := bind_eq_ok h
    obtain ⟨rest, s₂, hrest, h⟩ := bind_eq_ok h
    cases h
    obtain ⟨hstands, hroom⟩ := ih hrest
    have hlater : Asked s₁ s' := (observes_placeAll ts counts₁).moves hrest
    rcases placeStep_cases hstep with ⟨o, rfl, hnode, rfl⟩ | ⟨r, rfl, hplaced, rfl⟩
    · exact ⟨.cons hnode hstands, hroom⟩
    · refine ⟨.cons hplaced.task hstands, withinRoom_cons ?_ hroom⟩
      obtain ⟨profile, hforce, hfree⟩ := hplaced.room
      exact ⟨hplaced.task, hplaced.obtained.later hlater.leases, profile,
        hforce.later hlater.checks, hfree⟩

/-! ### The runs and the outcomes -/

theorem settleRun_nodeId (answer : Except Raised RunnerAnswer) (s : BatchRun W) :
    wp (settleRun x c r answer) (fun o _ => o.nodeId = r.task.nodeId) (fun _ _ => True) s := by
  have hreleased : ∀ (result : RunnerAnswer) (o : ParallelReadyOutcome),
      o.nodeId = r.task.nodeId →
      wp (releaseRun x c r result o) (fun o _ => o.nodeId = r.task.nodeId) (fun _ _ => True) s := by
    intro result o hnode
    unfold releaseRun
    rw [wp_bind]
    refine wp_intro (fun current s₁ _ => ?_) fun _ _ _ => trivial
    rw [wp_bind]
    refine wp_intro (fun released s₂ _ => ?_) fun _ _ _ => trivial
    cases released with
    | some reason => exact rfl
    | none => exact hnode
  cases answer with
  | error e => exact rfl
  | ok result =>
    unfold settleRun
    dsimp only
    split
    · exact rfl
    · split
      · exact hreleased result _ rfl
      · split
        · exact hreleased result _ rfl
        · exact rfl

variable {answers : String → Except Raised RunnerAnswer}

/-- The outcomes are those of the tasks, in their order. -/
theorem settleAll_nodeIds {os : List ParallelReadyOutcome} {s s' : BatchRun W}
    (hstands : List.Forall₂ Stands ts ps) (h : settleAll x c answers ps s = (.ok os, s')) :
    os.map ParallelReadyOutcome.nodeId = ts.map ParallelReadyTask.nodeId := by
  induction hstands generalizing s os with
  | nil =>
    cases h
    rfl
  | @cons t p ts ps hhead _ ih =>
    cases p with
    | ended o =>
      have hnode : o.nodeId = t.nodeId := hhead
      unfold settleAll at h
      obtain ⟨rest, s₁, hrest, h⟩ := bind_eq_ok h
      cases h
      rw [map_cons, map_cons, hnode, ih hrest]
    | runnable r =>
      have htask : r.task = t := hhead
      unfold settleAll at h
      obtain ⟨o, s₁, hone, h⟩ := bind_eq_ok h
      obtain ⟨rest, s₂, hrest, h⟩ := bind_eq_ok h
      cases h
      have hnode := wp_ok (settleRun_nodeId (answers r.task.nodeId) s) hone
      rw [map_cons, map_cons, hnode, htask, ih hrest]

/-- The items to run are of different tasks. -/
theorem runnables_sublist (hstands : List.Forall₂ Stands ts ps) :
    ((runnables ps).map Runnable.task).Sublist ts := by
  induction hstands with
  | nil => exact List.Sublist.slnil
  | @cons t p ts ps hhead _ ih =>
    cases p with
    | ended o => exact ih.cons t
    | runnable r =>
      have htask : r.task = t := hhead
      subst htask
      exact ih.cons_cons r.task

/-- The submitted tasks of a provider. -/
def runsOf (provider : String) (rs : List (ParallelReadyTask × WorkerLease)) :
    List (ParallelReadyTask × WorkerLease) :=
  rs.filter fun r => r.1.providerId = provider

/-- What a call runs: at most one task for a node, each a task of the plan, under a lease granted
    in this call on its assigned worker, and at each item no more items of its provider, with those
    in flight, than the profile allows under which it was let through. -/
structure RunsWithin (call : ExecuteCall) (s : Observed W) : Prop where
  once : (s.runs.map fun r => r.1.nodeId).Nodup
  planned : ∀ r ∈ s.runs, r.1.assignment ∈ call.plan.selected
  leased : ∀ r ∈ s.runs, Obtained s r.1 r.2
  capacity : ∀ before r after, s.runs = before ++ r :: after → ∃ profile,
    InForce s r.1 profile ∧ (call.providerInflight.get? r.1.providerId).getD 0 +
      (runsOf r.1.providerId (before ++ [r])).length ≤ profile.maxConcurrency

theorem runsWithin_nil {call : ExecuteCall} (h : s.runs = []) : RunsWithin call s := by
  refine ⟨by rw [h]; exact nodup_nil, ?_, ?_, ?_⟩
  · rw [h]
    exact fun r hr => nomatch hr
  · rw [h]
    exact fun r hr => nomatch hr
  · rw [h]
    intro before r after heq
    exact absurd heq.symm (append_ne_nil_of_right_ne_nil _ (cons_ne_nil r after))

theorem exists_last {γ : Type} {p : γ → Bool} {l : List γ} (h : ∃ r ∈ l, p r = true) :
    ∃ before r after, l = before ++ r :: after ∧ p r = true ∧ after.filter p = [] := by
  induction l with
  | nil =>
    obtain ⟨r, hr, -⟩ := h
    cases hr
  | cons first l ih =>
    by_cases hlater : ∃ r ∈ l, p r = true
    · obtain ⟨before, r, after, rfl, hr, hnone⟩ := ih hlater
      exact ⟨first :: before, r, after, rfl, hr, hnone⟩
    · obtain ⟨r, hr, hpr⟩ := h
      have hnone : l.filter p = [] := by
        rw [filter_eq_nil_iff]
        exact fun q hq hpq => hlater ⟨q, hq, hpq⟩
      rcases mem_cons.mp hr with rfl | hr
      · exact ⟨[], r, l, rfl, hpr, hnone⟩
      · exact absurd ⟨r, hr, hpr⟩ hlater

/-- The last item of a provider shows how many there are at most. -/
theorem RunsWithin.total {call : ExecuteCall} (h : RunsWithin call s) {provider : String}
    (hsome : ∃ r ∈ s.runs, r.1.providerId = provider) :
    ∃ r ∈ s.runs, r.1.providerId = provider ∧ ∃ profile, InForce s r.1 profile ∧
      (call.providerInflight.get? provider).getD 0 + (runsOf provider s.runs).length ≤
        profile.maxConcurrency := by
  have hlast : ∃ r ∈ s.runs, decide (r.1.providerId = provider) = true := by
    obtain ⟨r, hr, heq⟩ := hsome
    exact ⟨r, hr, decide_eq_true heq⟩
  obtain ⟨before, r, after, heq, hr, hnone⟩ := exists_last hlast
  have hprovider : r.1.providerId = provider := of_decide_eq_true hr
  subst hprovider
  obtain ⟨profile, hforce, hroom⟩ := h.capacity before r after heq
  refine ⟨r, heq ▸ mem_append_right _ mem_cons_self, rfl, profile, hforce, ?_⟩
  have hall : runsOf r.1.providerId s.runs = runsOf r.1.providerId (before ++ [r]) := by
    unfold runsOf
    rw [heq, append_cons, filter_append, hnone, append_nil]
  rw [hall]
  exact hroom

section Call

variable {call : ExecuteCall} {s s' : BatchRun (Observed W)} {tasks : List ParallelReadyTask}

theorem validateBatch_assignments {plan : SchedulePlan}
    {tasksByNode : Dict String ParallelReadyTask} {inflight : Dict String Int}
    (h : validateBatch plan tasksByNode inflight = .ok tasks) :
    tasks.map ParallelReadyTask.assignment = plan.selected := by
  unfold validateBatch at h
  dsimp only at h
  split at h
  · cases h
  · split at h
    · cases h
    · exact validateTasks_assignments h

theorem prepare_tasks (h : prepare x.observed call s = (.ok (tasks, c), s')) :
    tasks.map ParallelReadyTask.assignment = call.plan.selected ∧
      (tasks.map ParallelReadyTask.nodeId).Nodup ∧ c.providerInflight = call.providerInflight := by
  unfold prepare at h
  obtain ⟨ts, s₁, hvalid, h⟩ := bind_eq_ok h
  obtain ⟨_, s₂, -, h⟩ := bind_eq_ok h
  obtain ⟨batchId, s₃, -, h⟩ := bind_eq_ok h
  obtain ⟨now, s₄, -, h⟩ := bind_eq_ok h
  have hbatch : validateBatch call.plan call.tasksByNode call.providerInflight = .ok ts :=
    congrArg Prod.fst hvalid
  cases h
  exact ⟨validateBatch_assignments hbatch, validateBatch_nodup hbatch, rfl⟩

/-- What is submitted of a loop's placements. -/
theorem runsWithin_of_placed (hstands : List.Forall₂ Stands tasks ps)
    (hplan : tasks.map ParallelReadyTask.assignment = call.plan.selected)
    (hnodup : (tasks.map ParallelReadyTask.nodeId).Nodup)
    (hinflight : c.providerInflight = call.providerInflight)
    (hroom : WithinRoom c .empty s.world (runnables ps))
    (hruns : s.world.runs = (runnables ps).map fun r => (r.task, r.lease)) :
    RunsWithin call s.world := by
  have hsub := runnables_sublist hstands
  refine ⟨?_, ?_, ?_, ?_⟩
  · rw [hruns, map_map]
    have hmap := (hsub.map ParallelReadyTask.nodeId).nodup hnodup
    rwa [map_map] at hmap
  · intro r hr
    rw [hruns] at hr
    obtain ⟨q, hq, rfl⟩ := mem_map.mp hr
    rw [← hplan]
    exact mem_map_of_mem (hsub.subset (mem_map_of_mem hq))
  · intro r hr
    rw [hruns] at hr
    obtain ⟨q, hq, rfl⟩ := mem_map.mp hr
    obtain ⟨before, after, heq⟩ := append_of_mem hq
    exact (hroom before q after heq).1
  · intro before r after heq
    rw [hruns] at heq
    obtain ⟨rs, rest, hsplit, hbefore, hrest⟩ := map_eq_append_iff.mp heq
    obtain ⟨q, qs, rfl, hq, -⟩ := map_eq_cons_iff.mp hrest
    subst hq hbefore
    obtain ⟨-, profile, hforce, hfree⟩ := hroom rs q qs hsplit
    refine ⟨profile, hforce, ?_⟩
    rw [Dict.get?_empty, Option.getD_none, hinflight] at hfree
    have hcount : (runsOf q.task.providerId
        (rs.map (fun r => (r.task, r.lease)) ++ [(q.task, q.lease)])).length =
          (ofProvider q.task.providerId rs).length + 1 := by
      unfold runsOf ofProvider
      rw [filter_append, length_append, filter_map, length_map]
      simp [Function.comp_def]
    dsimp only
    rw [hcount]
    push_cast at hfree ⊢
    omega

theorem runPool_record (h : runPool x.observed ps s = (.ok answers, s')) :
    s'.world.runs = s.world.runs ++ (runnables ps).map (fun r => (r.task, r.lease)) ∧
      s'.world.checks = s.world.checks ∧ s'.world.leases = s.world.leases := by
  have hruns := (@observed_runPool W x ps s).2
  rw [h] at hruns
  refine ⟨hruns, ?_⟩
  unfold runPool at h
  dsimp only at h
  split at h
  · cases h
    exact ⟨rfl, rfl⟩
  · cases h
    exact ⟨rfl, rfl⟩

theorem execute_cases (hfresh : s.world.runs = []) :
    RunsWithin call (execute x.observed call s).2.world ∧
      ∀ outcomes, (execute x.observed call s).1 = .ok outcomes →
        outcomes.map ParallelReadyOutcome.nodeId =
          call.plan.selected.map SelectedAssignment.nodeId := by
  unfold execute
  rw [bind_run]
  rcases hprepare : prepare x.observed call s with ⟨e | ⟨tasks, c⟩, s₁⟩
  · have hasked := (observes_prepare call).moves hprepare
    refine ⟨runsWithin_nil (hasked.runs.trans hfresh), ?_⟩
    intro outcomes h
    cases h
  obtain ⟨hplan, hnodup, hinflight⟩ := prepare_tasks hprepare
  have hasked₁ := (observes_prepare call).moves hprepare
  dsimp only
  rw [bind_run]
  rcases hplace : placeAll x.observed c tasks .empty s₁ with ⟨e | ps, s₂⟩
  · have hasked₂ := (observes_placeAll tasks .empty).moves hplace
    refine ⟨runsWithin_nil (hasked₂.runs.trans (hasked₁.runs.trans hfresh)), ?_⟩
    intro outcomes h
    cases h
  have hasked₂ := (observes_placeAll tasks .empty).moves hplace
  obtain ⟨hstands, hroom⟩ := placeAll_stands hplace
  dsimp only
  rw [bind_run]
  rcases hrun : runPool x.observed ps s₂ with ⟨e | answers, s₃⟩
  · unfold runPool at hrun
    dsimp only at hrun
    split at hrun
    · cases hrun
    · cases hrun
  obtain ⟨hruns, hchecks, hleases⟩ := runPool_record hrun
  dsimp only
  rcases hsettle : settleAll x.observed c answers ps s₃ with ⟨r, s₄⟩
  have hasked₄ := (observes_settleAll answers ps).moves hsettle
  have hroom₄ : WithinRoom c .empty s₄.world (runnables ps) :=
    hroom.later (hchecks ▸ hasked₄.checks) (hleases ▸ hasked₄.leases)
  refine ⟨runsWithin_of_placed hstands hplan hnodup hinflight hroom₄ ?_, ?_⟩
  · rw [hasked₄.runs, hruns, hasked₂.runs, hasked₁.runs, hfresh, nil_append]
  · intro outcomes h
    cases h
    rw [settleAll_nodeIds hstands hsettle, ← hplan, map_map]
    rfl

/-- What is on record after a call. -/
def observation (x : ParallelReadyExecutor W) (call : ExecuteCall) (w : W) : Observed W :=
  (execute x.observed call ⟨⟨w, [], [], []⟩, []⟩).2.world

/-- What every call runs, whatever its ports answer and whether it returns or raises: tasks of the
    plan, each node at most once, each under a lease that was granted in this call on its assigned
    worker. For a provider of which something is run, the items with those in flight are no more
    than the profile allows under which the last of them was let through. The outcomes of a call
    that returns are those of the selected nodes, in the order of the plan. -/
theorem execute_runs_within (x : ParallelReadyExecutor W) (call : ExecuteCall) (w : W) :
    RunsWithin call (observation x call w) ∧
      (∀ provider, (∃ r ∈ (observation x call w).runs, r.1.providerId = provider) →
        ∃ r ∈ (observation x call w).runs, r.1.providerId = provider ∧ ∃ profile,
          InForce (observation x call w) r.1 profile ∧
            (call.providerInflight.get? provider).getD 0 +
              (runsOf provider (observation x call w).runs).length ≤ profile.maxConcurrency) ∧
      ∀ outcomes, (execute x call ⟨w, []⟩).1 = .ok outcomes →
        outcomes.map ParallelReadyOutcome.nodeId =
          call.plan.selected.map SelectedAssignment.nodeId := by
  obtain ⟨hwithin, houtcomes⟩ := @execute_cases W x call ⟨⟨w, [], [], []⟩, []⟩ rfl
  refine ⟨hwithin, fun provider hsome => hwithin.total hsome, ?_⟩
  intro outcomes h
  have hsame := congrArg Prod.fst (@observed_execute W x call ⟨⟨w, [], [], []⟩, []⟩)
  exact houtcomes outcomes (hsame.symm.trans h)

end Call

/-! ### A provider that is over its limit -/

/-- A call with a provider of which more is in flight than its profile allows. -/
def overloadedCall : ExecuteCall :=
  { reservedCall with
    providerInflight := Dict.empty.set "provider-1" (sampleProfile.maxConcurrency + 1)
    preAcquired := Dict.empty }

/-- Nothing is run of a provider that is over its limit before the call, and it stays over it. -/
theorem execute_overloaded :
    ((execute (reservedExecutor true) overloadedCall ⟨(), []⟩).1.map
        fun outcomes => outcomes.map fun o => (o.nodeId, o.kind)) =
      .ok [("node-1", .providerCapacityWait)] ∧
    reservedTask.providerProfile = sampleProfile ∧
    sampleProfile.maxConcurrency <
      (overloadedCall.providerInflight.get? sampleProfile.providerId).getD 0 +
        (runsOf sampleProfile.providerId
          (observation (reservedExecutor true) overloadedCall ()).runs).length := by
  refine ⟨rfl, rfl, ?_⟩
  decide +kernel

end AConductor.Parallel

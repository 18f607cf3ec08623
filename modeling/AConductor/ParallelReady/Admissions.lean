import AConductor.ParallelReady.Executor

namespace AConductor.Parallel

open Provider AConductor.Graph Lease Txn List

variable {W α : Type}

/-- The logs differ in events of the node only. -/
def SameOthers (node : String) (l l' : List AdmissionEvent) : Prop :=
  ∀ e, e.nodeId ≠ node → (e ∈ l' ↔ e ∈ l)

theorem SameOthers.refl (node : String) (l : List AdmissionEvent) : SameOthers node l l :=
  fun _ _ => Iff.rfl

variable {node : String} {l : List AdmissionEvent} {o : ParallelReadyOutcome}
  {admission : Option ProviderAdmissionRecord} {x : ParallelReadyExecutor W} {c : BatchContext}
  {s' : BatchRun W} {p : Placement}

theorem SameOthers.trans {l l' l'' : List AdmissionEvent} (h : SameOthers node l l')
    (h' : SameOthers node l' l'') : SameOthers node l l'' :=
  fun e he => (h' e he).trans (h e he)

theorem SameOthers.snoc {e : AdmissionEvent} (he : e.nodeId = node) :
    SameOthers node l (l ++ [e]) := by
  intro e' hne
  rw [mem_append, mem_singleton]
  constructor
  · rintro (h | rfl)
    · exact h
    · exact absurd he hne
  · exact .inl

/-- The log holds no event of the node. -/
def Untouched (node : String) (l : List AdmissionEvent) : Prop := ∀ e ∈ l, e.nodeId ≠ node

/-- The admission belongs to the node: it was handed in, or acquired. -/
def Owned (c : BatchContext) (l : List AdmissionEvent) (node : String)
    (a : ProviderAdmissionRecord) : Prop :=
  c.preAcquired.get? node = some a ∨ .acquired node a ∈ l

/-- The admission of the node is the one at hand, and there is a store to release it in. -/
structure Holding (x : ParallelReadyExecutor W) (c : BatchContext) (node : String)
    (admission : Option ProviderAdmissionRecord) (l : List AdmissionEvent) : Prop where
  only : ∀ a, Owned c l node a → admission = some a
  store : admission.isSome = true → x.providerAdmissionStore.isSome = true

/-- Every admission of the node is released, or named by an outcome of a recovery kind. -/
def Settled (c : BatchContext) (l : List AdmissionEvent) (o : ParallelReadyOutcome) : Prop :=
  ∀ a, Owned c l o.nodeId a → .released o.nodeId a ∈ l ∨
    (o.kind.recoveryRequired = true ∧ o.providerAdmission = some a)

theorem Holding.settled_named (h : Holding x c o.nodeId o.providerAdmission l)
    (hkind : o.kind.recoveryRequired = true) :
    Settled c l o := fun a ha => .inr ⟨hkind, h.only a ha⟩

theorem Holding.settled_released (h : Holding x c o.nodeId admission l)
    (hreleased : ∀ a, admission = some a → .released o.nodeId a ∈ l) : Settled c l o :=
  fun a ha => .inl (hreleased a (h.only a ha))

theorem settled_unowned
    (h : ∀ a, ¬ Owned c l o.nodeId a) : Settled c l o := fun a ha => absurd ha (h a)

/-- What is said of a node depends on its own events. -/
theorem settled_congr {l l' : List AdmissionEvent}
    (h : ∀ e, e.nodeId = o.nodeId → (e ∈ l' ↔ e ∈ l)) : Settled c l' o ↔ Settled c l o := by
  have hacquired : ∀ a, AdmissionEvent.acquired o.nodeId a ∈ l' ↔
      AdmissionEvent.acquired o.nodeId a ∈ l := fun a => h _ rfl
  have hreleased : ∀ a, AdmissionEvent.released o.nodeId a ∈ l' ↔
      AdmissionEvent.released o.nodeId a ∈ l := fun a => h _ rfl
  simp only [Settled, Owned, hacquired, hreleased]

theorem Holding.congr {l l' : List AdmissionEvent} (hold : Holding x c node admission l)
    (h : ∀ e, e.nodeId = node → (e ∈ l' ↔ e ∈ l)) : Holding x c node admission l' := by
  refine ⟨?_, hold.store⟩
  rintro a (hpre | hacquired)
  · exact hold.only a (.inl hpre)
  · exact hold.only a (.inr ((h _ rfl).mp hacquired))

section Rules

variable {Q : α → BatchRun W → Prop} {E : ExecuteFault → BatchRun W → Prop} {s : BatchRun W}

theorem wp_ask {f : Txn W Raised α} (hQ : ∀ a w, Q a { s with world := w })
    (hE : ∀ e w, E (.raised e) { s with world := w }) : wp (ask f) Q E s := by
  unfold ask
  rw [wp_recast]
  unfold wp askRaw
  rcases f s.world with ⟨e | a, w⟩
  · exact hE e w
  · exact hQ a w

theorem wp_tryAsk {f : Txn W Raised α} {Q : Except Raised α → BatchRun W → Prop}
    (hQ : ∀ r w, Q r { s with world := w }) : wp (tryAsk f) Q E s := by
  unfold tryAsk
  rw [wp_attempt]
  exact hQ _ _

theorem wp_checkProviderAuthority {t : ParallelReadyTask} {authority : TaskAuthority}
    {Q : ProviderAuthorityCheck → BatchRun W → Prop} (hQ : ∀ check w, Q check { s with world := w })
    (hE : ∀ e w, E (.raised e) { s with world := w }) :
    wp (checkProviderAuthority x t authority) Q E s := by
  unfold checkProviderAuthority
  cases x.providerAdmissionStore with
  | none => exact hQ _ s.world
  | some port => exact wp_ask hQ hE

end Rules

/-- A task that leaves the loop early leaves its admission settled. -/
def Leaves (c : BatchContext) (node : String) (l : List AdmissionEvent) : Stop → BatchRun W → Prop
  | .outcome o, s => o.nodeId = node ∧ SameOthers node l s.log ∧ Settled c s.log o
  | .fault _, _ => True

/-- A task that goes on holds its admission. -/
def Goes (x : ParallelReadyExecutor W) (c : BatchContext) (node : String)
    (l : List AdmissionEvent) (admission : Option ProviderAdmissionRecord) (s : BatchRun W) :
    Prop :=
  SameOthers node l s.log ∧ Holding x c node admission s.log

variable {x : ParallelReadyExecutor W} {c : BatchContext} {t : ParallelReadyTask}
  {l : List AdmissionEvent} {s : BatchRun W}

variable {a : ProviderAdmissionRecord}

theorem wp_useAdmission
    (h : Goes x c t.nodeId l (some a) s) :
    wp (useAdmission x c t a) (fun b s' => Goes x c t.nodeId l (some b) s')
      (Leaves c t.nodeId l) s := by
  unfold useAdmission lift
  rw [wp_bind, wp_recast]
  refine wp_ask ?_ fun _ _ => trivial
  intro current w
  cases validateProviderAdmissionRecord t c.batchId a current with
  | none => exact h
  | some reason =>
    exact ⟨rfl, h.1, Holding.settled_named (o := admissionRecovery t reason (some a)) h.2 rfl⟩

variable {port : ProviderAdmissionPort W}

/-- An admission that was just acquired is the only one of the node. -/
theorem goes_acquired
    (hstore : x.providerAdmissionStore = some port) (hnone : c.preAcquired.get? t.nodeId = none)
    (hfresh : Untouched t.nodeId s.log) :
    Goes x c t.nodeId s.log (some a) { s with log := s.log ++ [.acquired t.nodeId a] } := by
  refine ⟨SameOthers.snoc rfl, ?_, ?_⟩
  · rintro b (hpre | hacquired)
    · rw [hnone] at hpre
      cases hpre
    · rcases mem_append.mp hacquired with hold | hnew
      · exact absurd rfl (hfresh _ hold)
      · cases mem_singleton.mp hnew
        rfl
  · intro _
    rw [hstore]
    rfl

theorem not_owned (hnone : c.preAcquired.get? t.nodeId = none) (hfresh : Untouched t.nodeId s.log)
    (a : ProviderAdmissionRecord) : ¬ Owned c s.log t.nodeId a := by
  rintro (hpre | hacquired)
  · rw [hnone] at hpre
    cases hpre
  · exact hfresh _ hacquired rfl

/-- Before anything is acquired a task may leave with any outcome. -/
theorem leaves_unowned (ho : o.nodeId = t.nodeId) (hnone : c.preAcquired.get? t.nodeId = none)
    (hfresh : Untouched t.nodeId s.log) : Leaves c t.nodeId s.log (.outcome o) s := by
  refine ⟨ho, SameOthers.refl _ _, settled_unowned ?_⟩
  rw [ho]
  exact not_owned hnone hfresh

theorem wp_judgeAcquired
    (hstore : x.providerAdmissionStore = some port) (hnone : c.preAcquired.get? t.nodeId = none)
    (hfresh : Untouched t.nodeId s.log) (answer : AcquireAnswer) :
    wp (judgeAcquired x c t answer) (fun a s' => Goes x c t.nodeId s.log (some a) s')
      (Leaves c t.nodeId s.log) s := by
  have hleave : ∀ o : ParallelReadyOutcome, o.nodeId = t.nodeId →
      Leaves c t.nodeId s.log (.outcome o) s := fun o ho => leaves_unowned ho hnone hfresh
  match answer with
  | .other => exact hleave _ rfl
  | .result none _ _ => exact hleave _ rfl
  | .result (some _) _ .other => exact hleave _ rfl
  | .result (some .capacityWait) _ .missing => exact hleave _ rfl
  | .result (some .capacityWait) _ (.record _) => exact hleave _ rfl
  | .result (some .existing) _ .missing => exact hleave _ rfl
  | .result (some .existing) _ (.record _) => exact hleave _ rfl
  | .result (some .recoveryRequired) _ .missing => exact hleave _ rfl
  | .result (some .recoveryRequired) _ (.record _) => exact hleave _ rfl
  | .result (some .admitted) _ .missing => exact hleave _ rfl
  | .result (some .admitted) _ (.record a) =>
    show wp (lift (note (.acquired t.nodeId a)) >>= fun _ => useAdmission x c t a) _ _ s
    unfold lift note
    rw [wp_bind, wp_recast, wp_update]
    exact wp_useAdmission (goes_acquired hstore hnone hfresh)

/-- A task that gets past its admission holds it. -/
theorem wp_fenceTask (profile : ProviderConfiguration)
    (hstore : (c.preAcquired.get? t.nodeId).isSome = true →
      x.providerAdmissionStore.isSome = true)
    (hfresh : Untouched t.nodeId s.log) :
    wp (fenceTask x c t profile) (Goes x c t.nodeId s.log) (Leaves c t.nodeId s.log) s := by
  unfold fenceTask
  cases hpre : c.preAcquired.get? t.nodeId with
  | some a =>
    have hgoes : Goes x c t.nodeId s.log (some a) s := by
      refine ⟨SameOthers.refl _ _, ?_, fun _ => hstore (by rw [hpre]; rfl)⟩
      rintro b (hb | hacquired)
      · rw [hpre] at hb
        exact hb
      · exact absurd rfl (hfresh _ hacquired)
    show wp (useAdmission x c t a >>= fun b => pure (some b)) _ _ s
    rw [wp_bind]
    exact wp_useAdmission hgoes
  | none =>
    cases hport : x.providerAdmissionStore with
    | none =>
      refine ⟨SameOthers.refl _ _, ?_, fun h => by cases h⟩
      intro a ha
      exact absurd ha (not_owned hpre hfresh a)
    | some port =>
      dsimp only
      unfold lift
      rw [wp_bind, wp_recast]
      refine wp_tryAsk ?_
      intro r w
      cases r with
      | error e => exact leaves_unowned (s := { s with world := w }) rfl hpre hfresh
      | ok answer =>
        show wp (judgeAcquired x c t answer >>= fun b => pure (some b)) _ _ _
        rw [wp_bind]
        exact wp_judgeAcquired (s := { s with world := w }) hport hpre hfresh answer

/-- A release that reports nothing has been confirmed. -/
theorem wp_releaseProviderAdmission (now : Option Int) (h : Goes x c t.nodeId l admission s) :
    wp (releaseProviderAdmission x c t admission now)
      (fun r s' => Goes x c t.nodeId l admission s' ∧
        (r = none → ∀ a, admission = some a → .released t.nodeId a ∈ s'.log))
      (fun _ _ => True) s := by
  unfold releaseProviderAdmission
  cases admission with
  | none => exact ⟨h, fun _ a ha => by cases ha⟩
  | some a =>
    cases hport : x.providerAdmissionStore with
    | none =>
      have hsome := h.2.store rfl
      rw [hport] at hsome
      cases hsome
    | some port =>
      dsimp only
      rw [wp_bind]
      refine wp_tryAsk ?_
      intro r w
      cases r with
      | error e => exact ⟨h, fun hr => by cases hr⟩
      | ok released =>
        dsimp only
        cases validateProviderReleaseRecord a released with
        | some reason => exact ⟨h, fun hr => by cases hr⟩
        | none =>
          dsimp only
          unfold note
          rw [wp_bind, wp_update]
          refine ⟨⟨h.1.trans (SameOthers.snoc rfl), ?_, h.2.store⟩, ?_⟩
          · rintro b (hb | hacquired)
            · exact h.2.only b (.inl hb)
            · rcases mem_append.mp hacquired with hold | hnew
              · exact h.2.only b (.inr hold)
              · cases mem_singleton.mp hnew
          · intro _ b hb
            cases hb
            exact mem_append_right _ mem_cons_self

/-- Releasing, and leaving with one outcome when that fails and another when it is done. -/
theorem wp_releaseThenStop (now : Option Int)
    {failed : String → ParallelReadyOutcome} {done : ParallelReadyOutcome}
    {Q : α → BatchRun W → Prop} (h : Goes x c t.nodeId l admission s)
    (hfailed : ∀ reason, (failed reason).nodeId = t.nodeId ∧
      (failed reason).kind.recoveryRequired = true ∧
      (failed reason).providerAdmission = admission) (hdone : done.nodeId = t.nodeId) :
    wp (lift (releaseProviderAdmission x c t admission now) >>= fun r =>
        match r with
        | some reason => stop (failed reason)
        | none => (stop done : Placing W α)) Q (Leaves c t.nodeId l) s := by
  unfold lift
  rw [wp_bind, wp_recast]
  refine wp_mono (wp_releaseProviderAdmission now h) ?_ fun _ _ _ => trivial
  rintro r s' ⟨hgoes, hreleased⟩
  cases r with
  | some reason =>
    obtain ⟨hnode, hkind, hnamed⟩ := hfailed reason
    refine ⟨hnode, hgoes.1, Holding.settled_named (x := x) ?_ hkind⟩
    rw [hnode, hnamed]
    exact hgoes.2
  | none =>
    have hhold : Holding x c done.nodeId admission s'.log := by
      rw [hdone]
      exact hgoes.2
    refine ⟨hdone, hgoes.1, hhold.settled_released ?_⟩
    rw [hdone]
    exact hreleased rfl

theorem wp_preLease (h : Goes x c t.nodeId l admission s) :
    wp (preLease x c t admission) (fun _ s' => Goes x c t.nodeId l admission s')
      (Leaves c t.nodeId l) s := by
  unfold preLease
  cases t.authority with
  | none => exact h
  | some authority =>
    dsimp only
    unfold lift
    rw [wp_bind, wp_recast]
    refine wp_checkProviderAuthority ?_ fun _ _ => trivial
    intro check w
    by_cases hallowed : check.allowed = true
    · rw [if_pos hallowed]
      exact h
    · rw [if_neg hallowed, wp_bind, wp_recast]
      refine wp_ask ?_ fun _ _ => trivial
      intro current w'
      exact wp_releaseThenStop current (s := { s with world := w' }) h
        (fun reason => ⟨rfl, rfl, rfl⟩) rfl

theorem leaseWaitOutcome_nodeId (node : String) (o : WorkerLeaseOutcome) :
    (leaseWaitOutcome node o).nodeId = node := by
  unfold leaseWaitOutcome
  cases o.kind <;> rfl

/-- An outcome of the broker that is neither a lease nor a wait asks for recovery. -/
theorem leaseWaitOutcome_recovery (node : String) {o : WorkerLeaseOutcome}
    (h : ¬ (o.kind = .wait ∨ o.kind = .rdcReadOnly)) :
    (leaseWaitOutcome node o).kind.recoveryRequired = true := by
  unfold leaseWaitOutcome
  cases hkind : o.kind with
  | wait => exact absurd (.inl hkind) h
  | rdcReadOnly => exact absurd (.inr hkind) h
  | existing => rfl
  | recoveryRequired => rfl
  | leased => rfl

theorem leaves_named (h : Goes x c t.nodeId l admission s) (hnode : o.nodeId = t.nodeId)
    (hkind : o.kind.recoveryRequired = true) (hnamed : o.providerAdmission = admission) :
    Leaves c t.nodeId l (.outcome o) s := by
  refine ⟨hnode, h.1, Holding.settled_named (x := x) ?_ hkind⟩
  rw [hnode, hnamed]
  exact h.2

theorem wp_judgeLease (h : Goes x c t.nodeId l admission s) (o : WorkerLeaseOutcome) :
    wp (judgeLease x c t admission o) (fun _ s' => Goes x c t.nodeId l admission s')
      (Leaves c t.nodeId l) s := by
  unfold judgeLease
  by_cases hleased : o.kind = .leased
  · rw [if_pos hleased]
    cases o.lease with
    | none => exact leaves_named h rfl rfl rfl
    | some lease =>
      dsimp only
      by_cases hdrift : lease.workerId ≠ t.assignment.workerId
      · rw [if_pos hdrift]
        exact leaves_named h rfl rfl rfl
      · rw [if_neg hdrift]
        exact h
  · rw [if_neg hleased]
    by_cases hwait : o.kind = .wait ∨ o.kind = .rdcReadOnly
    · rw [if_pos hwait]
      exact wp_releaseThenStop c.now h (fun reason => ⟨rfl, rfl, rfl⟩)
        (leaseWaitOutcome_nodeId _ _)
    · rw [if_neg hwait]
      exact leaves_named h (leaseWaitOutcome_nodeId _ _) (leaseWaitOutcome_recovery _ hwait) rfl

/-- What a task in the pool holds. -/
def Waits (x : ParallelReadyExecutor W) (c : BatchContext) (t : ParallelReadyTask)
    (l : List AdmissionEvent) (r : Runnable) (s : BatchRun W) : Prop :=
  r.task = t ∧ Goes x c t.nodeId l r.admission s

theorem wp_leaseTask (h : Goes x c t.nodeId l admission s) :
    wp (leaseTask x c t admission) (Waits x c t l) (Leaves c t.nodeId l) s := by
  unfold leaseTask lift
  rw [wp_bind, wp_recast]
  refine wp_tryAsk ?_
  intro r w
  match r with
  | .error e => exact leaves_named (s := { s with world := w }) h rfl rfl rfl
  | .ok .other => exact leaves_named (s := { s with world := w }) h rfl rfl rfl
  | .ok (.outcome o) =>
    dsimp only
    rw [wp_bind]
    refine wp_mono (wp_judgeLease (s := { s with world := w }) h o) ?_ fun _ _ he => he
    intro lease s' hgoes
    exact ⟨rfl, hgoes⟩

/-- Past the screening a task leaves its admission settled or holds it. -/
theorem wp_admitTask (profile : ProviderConfiguration)
    (hstore : (c.preAcquired.get? t.nodeId).isSome = true →
      x.providerAdmissionStore.isSome = true)
    (hfresh : Untouched t.nodeId s.log) :
    wp (admitTask x c t profile) (Waits x c t s.log) (Leaves c t.nodeId s.log) s := by
  unfold admitTask
  rw [wp_bind]
  refine wp_mono (wp_fenceTask profile hstore hfresh) ?_ fun _ _ he => he
  intro admission s₁ h₁
  rw [wp_bind]
  refine wp_mono (wp_preLease h₁) ?_ fun _ _ he => he
  intro _ s₂ h₂
  exact wp_leaseTask h₂

/-- The profile under which the task may run now: the one of the authority check that allows
    it, or its own while the provider is ready and within its quota. -/
def Eligible (x : ParallelReadyExecutor W) (now : Option Int) (t : ParallelReadyTask)
    (s : BatchRun W) (profile : ProviderConfiguration) : Prop :=
  match t.authority with
  | some authority => ∃ check s', checkProviderAuthority x t authority s = (.ok check, s') ∧
      check.allowed = true ∧ check.profile = profile
  | none => isProviderReady t.providerProfile t.providerObservation now = .ok true ∧
      quotaReason t = none ∧ t.providerProfile = profile

/-- The task is let through to its admission. -/
structure Passes (x : ParallelReadyExecutor W) (c : BatchContext) (counts : Dict String Nat)
    (t : ParallelReadyTask) (s : BatchRun W) : Prop where
  requirement : x.requireProviderAuthority = true → t.providerRequirement.isSome = true
  gate : t.dispatchGate.allowed = true
  capacity : ∃ profile, Eligible x c.now t s profile ∧
    (c.providerInflight.get? t.providerId).getD 0 + ((counts.get? t.providerId).getD 0 : Nat) <
      profile.maxConcurrency

theorem Eligible.unique {now : Option Int} {p p' : ProviderConfiguration}
    (h : Eligible x now t s p) (h' : Eligible x now t s p') : p = p' := by
  unfold Eligible at h h'
  cases hauthority : t.authority with
  | some authority =>
    rw [hauthority] at h h'
    obtain ⟨check, s₁, hcheck, -, hp⟩ := h
    obtain ⟨check', s₂, hcheck', -, hp'⟩ := h'
    rw [hcheck] at hcheck'
    cases hcheck'
    exact hp.symm.trans hp'
  | none =>
    rw [hauthority] at h h'
    exact h.2.2.symm.trans h'.2.2

/-- A task that is turned away for want of `P` has touched no admission and names none. -/
def TurnsAway (node : String) (l : List AdmissionEvent) (P : Prop) : Stop → BatchRun W → Prop
  | .outcome o, s => o.nodeId = node ∧ s.log = l ∧ o.providerAdmission = none ∧ ¬ P
  | .fault _, _ => True

theorem wp_eligibleProfile (now : Option Int) :
    wp (eligibleProfile x now t) (fun p s' => s'.log = s.log ∧ Eligible x now t s p)
      (TurnsAway t.nodeId s.log (∃ p, Eligible x now t s p)) s := by
  unfold eligibleProfile Eligible
  cases t.authority with
  | some authority =>
    dsimp only
    unfold lift
    rw [wp_bind, wp_recast]
    have hlog : wp (checkProviderAuthority x t authority) (fun _ s' => s'.log = s.log)
        (fun _ _ => True) s := wp_checkProviderAuthority (fun _ _ => rfl) fun _ _ => trivial
    refine wp_intro ?_ fun _ _ _ => trivial
    intro check s' hrun
    have hlog' := wp_ok hlog hrun
    rw [wp_bind, wp_require]
    constructor
    · intro hallowed
      exact ⟨hlog', check, s', hrun, hallowed, rfl⟩
    · intro hdenied
      refine ⟨rfl, hlog', rfl, ?_⟩
      rintro ⟨p, check', s'', hrun', hallowed, -⟩
      rw [hrun] at hrun'
      cases hrun'
      rw [hdenied] at hallowed
      cases hallowed
  | none =>
    dsimp only
    unfold lift
    rw [wp_bind, wp_recast]
    refine wp_ofExcept_of ?_ fun _ _ => trivial
    intro ready hready
    rw [wp_bind, wp_require]
    constructor
    · rintro rfl
      cases hquota : quotaReason t with
      | some reason =>
        refine ⟨rfl, rfl, rfl, ?_⟩
        rintro ⟨p, -, hnone, -⟩
        cases hnone
      | none => exact ⟨rfl, hready, rfl, rfl⟩
    · rintro rfl
      refine ⟨rfl, rfl, rfl, ?_⟩
      rintro ⟨p, htrue, -⟩
      rw [hready] at htrue
      cases htrue

/-- The screening lets a task through just when it passes. -/
theorem wp_screenTask (counts : Dict String Nat) :
    wp (screenTask x c counts t) (fun _ s' => s'.log = s.log ∧ Passes x c counts t s)
      (TurnsAway t.nodeId s.log (Passes x c counts t s)) s := by
  unfold screenTask
  rw [wp_bind, wp_require]
  constructor
  swap
  · intro hmissing
    refine ⟨rfl, rfl, rfl, fun hpasses => ?_⟩
    have hboth : x.requireProviderAuthority = true ∧ t.providerRequirement.isNone = true := by
      simpa using hmissing
    have hsome := hpasses.requirement hboth.1
    rw [Option.isNone_iff_eq_none.mp hboth.2] at hsome
    cases hsome
  intro hrequirement
  rw [wp_bind, wp_require]
  constructor
  swap
  · intro hblocked
    refine ⟨rfl, rfl, rfl, fun hpasses => ?_⟩
    rw [hpasses.gate] at hblocked
    cases hblocked
  intro hgate
  rw [wp_bind]
  refine wp_mono (wp_eligibleProfile c.now) ?_ ?_
  · rintro profile s' ⟨hlog, heligible⟩
    dsimp only
    rw [wp_bind, wp_require]
    constructor
    · intro hroom
      refine ⟨hlog, ?_, hgate, profile, heligible, of_decide_eq_true hroom⟩
      intro hrequired
      cases hsome : t.providerRequirement with
      | some r => rfl
      | none =>
        rw [hrequired, hsome] at hrequirement
        cases hrequirement
    · intro hfull
      refine ⟨rfl, hlog, rfl, fun hpasses => ?_⟩
      obtain ⟨profile', heligible', hroom⟩ := hpasses.capacity
      rw [heligible'.unique heligible] at hroom
      exact of_decide_eq_false hfull hroom
  · rintro (o | e) s' hturned
    · obtain ⟨hnode, hlog, hnamed, hnone⟩ := hturned
      refine ⟨hnode, hlog, hnamed, fun hpasses => hnone ?_⟩
      obtain ⟨profile, heligible, -⟩ := hpasses.capacity
      exact ⟨profile, heligible⟩
    · trivial

/-- No task with an admission that was handed in is turned away when its turn comes. -/
def HandedInPass (x : ParallelReadyExecutor W) (c : BatchContext) :
    List ParallelReadyTask → Dict String Nat → BatchRun W → Prop
  | [], _, _ => True
  | t :: ts, counts, s =>
    ((c.preAcquired.get? t.nodeId).isSome = true → Passes x c counts t s) ∧
      ∀ p counts' s', placeStep x c counts t s = (.ok (p, counts'), s') →
        HandedInPass x c ts counts' s'

/-- The placement is one of the task, which holds its admission if it is to run. -/
def Fits (x : ParallelReadyExecutor W) (c : BatchContext) (l : List AdmissionEvent)
    (t : ParallelReadyTask) : Placement → Prop
  | .ended o => o.nodeId = t.nodeId
  | .runnable r => r.task = t ∧ Holding x c t.nodeId r.admission l

/-- The admission of the placement is settled, or will be by the run. -/
def Kept (c : BatchContext) (l : List AdmissionEvent) : Placement → Prop
  | .ended o => Settled c l o
  | .runnable _ => True

/-- A task that is turned away is kept just when nothing was handed in for it. -/
theorem settled_turnedAway {P : Prop} (hfresh : Untouched t.nodeId s.log)
    (h : TurnsAway t.nodeId s.log P (.outcome o) s') :
    Settled c s'.log o ↔ ((c.preAcquired.get? t.nodeId).isSome = true → P) := by
  obtain ⟨hnode, hlog, hnamed, hnot⟩ := h
  rw [hlog]
  constructor
  · intro hsettled hpre
    obtain ⟨a, ha⟩ := Option.isSome_iff_exists.mp hpre
    rcases hsettled a (.inl (by rw [hnode]; exact ha)) with hreleased | ⟨-, hsome⟩
    · exact absurd hnode (hfresh _ hreleased)
    · rw [hnamed] at hsome
      cases hsome
  · intro hpass
    refine settled_unowned ?_
    rw [hnode]
    refine not_owned ?_ hfresh
    cases hpre : c.preAcquired.get? t.nodeId with
    | none => rfl
    | some a => exact absurd (hpass (by rw [hpre]; rfl)) hnot

/-- In one round the admission is kept unless it was handed in for a task turned away. -/
theorem placeStep_spec {counts counts' : Dict String Nat}
    (hstore : (c.preAcquired.get? t.nodeId).isSome = true →
      x.providerAdmissionStore.isSome = true)
    (hfresh : Untouched t.nodeId s.log)
    (h : placeStep x c counts t s = (.ok (p, counts'), s')) :
    SameOthers t.nodeId s.log s'.log ∧ Fits x c s'.log t p ∧
      (Kept c s'.log p ↔
        ((c.preAcquired.get? t.nodeId).isSome = true → Passes x c counts t s)) := by
  have hscreen := wp_screenTask (x := x) (c := c) (t := t) (s := s) counts
  unfold placeStep placeTask at h
  rw [bind_run] at h
  rcases hrun : screenTask x c counts t s with ⟨r, s₁⟩
  rw [hrun] at h
  cases r with
  | error why =>
    have haway := wp_error hscreen hrun
    cases why with
    | outcome o =>
      cases h
      refine ⟨?_, haway.1, settled_turnedAway hfresh haway⟩
      rw [haway.2.1]
      exact SameOthers.refl _ _
    | fault e => cases h
  | ok profile =>
    obtain ⟨hlog, hpasses⟩ := wp_ok hscreen hrun
    have hfresh₁ : Untouched t.nodeId s₁.log := by
      rw [hlog]
      exact hfresh
    have hadmit := wp_admitTask (x := x) profile hstore hfresh₁
    rw [hlog] at hadmit
    dsimp only at h
    rcases hrest : admitTask x c t profile s₁ with ⟨r, s₂⟩
    rw [hrest] at h
    cases r with
    | error why =>
      have hleft := wp_error hadmit hrest
      cases why with
      | outcome o =>
        cases h
        obtain ⟨hnode, hothers, hsettled⟩ := hleft
        exact ⟨hothers, hnode, fun _ _ => hpasses, fun _ => hsettled⟩
      | fault e => cases h
    | ok r =>
      cases h
      obtain ⟨htask, hothers, hhold⟩ := wp_ok hadmit hrest
      exact ⟨hothers, ⟨htask, hhold⟩, fun _ _ => hpasses, fun _ => trivial⟩

theorem Fits.congr {l' : List AdmissionEvent} (h : Fits x c l t p)
    (hsame : ∀ e, e.nodeId = t.nodeId → (e ∈ l' ↔ e ∈ l)) : Fits x c l' t p := by
  cases p with
  | ended o => exact h
  | runnable r => exact ⟨h.1, h.2.congr hsame⟩

theorem kept_congr {l' : List AdmissionEvent} (h : Fits x c l t p)
    (hsame : ∀ e, e.nodeId = t.nodeId → (e ∈ l' ↔ e ∈ l)) : Kept c l' p ↔ Kept c l p := by
  cases p with
  | ended o =>
    have hnode : o.nodeId = t.nodeId := h
    exact settled_congr fun e he => hsame e (he.trans hnode)
  | runnable r => exact Iff.rfl

/-- After the loop: every admission is kept just when none was handed in for a task that was
    turned away. -/
theorem placeAll_spec {ts : List ParallelReadyTask} {counts : Dict String Nat}
    {ps : List Placement}
    (hstore : ∀ t ∈ ts, (c.preAcquired.get? t.nodeId).isSome = true →
      x.providerAdmissionStore.isSome = true)
    (hnodup : (ts.map ParallelReadyTask.nodeId).Nodup)
    (hfresh : ∀ t ∈ ts, Untouched t.nodeId s.log)
    (h : placeAll x c ts counts s = (.ok ps, s')) :
    (∀ e, (∀ t ∈ ts, e.nodeId ≠ t.nodeId) → (e ∈ s'.log ↔ e ∈ s.log)) ∧
      List.Forall₂ (Fits x c s'.log) ts ps ∧
      ((∀ p ∈ ps, Kept c s'.log p) ↔ HandedInPass x c ts counts s) := by
  induction ts generalizing counts s ps with
  | nil =>
    cases h
    refine ⟨fun _ _ => Iff.rfl, .nil, fun _ => trivial, ?_⟩
    intro _ p hp
    cases hp
  | cons t ts ih =>
    unfold placeAll at h
    obtain ⟨⟨p, counts₁⟩, s₁, hstep, h⟩ := bind_eq_ok h
    obtain ⟨rest, s₂, hrest, h⟩ := bind_eq_ok h
    cases h
    obtain ⟨hnot, htail⟩ := nodup_cons.mp hnodup
    have hne : ∀ u ∈ ts, u.nodeId ≠ t.nodeId := by
      intro u hu heq
      exact hnot (heq ▸ mem_map_of_mem hu)
    obtain ⟨hothers, hfits, hkept⟩ :=
      placeStep_spec (hstore t mem_cons_self) (hfresh t mem_cons_self) hstep
    have hfresh₁ : ∀ u ∈ ts, Untouched u.nodeId s₁.log := by
      intro u hu e he heq
      have hold := (hothers e (heq ▸ hne u hu)).mp he
      exact hfresh u (mem_cons_of_mem _ hu) e hold heq
    obtain ⟨hframe, hforall, hpass⟩ :=
      ih (fun u hu => hstore u (mem_cons_of_mem _ hu)) htail hfresh₁ hrest
    have hsame : ∀ e, e.nodeId = t.nodeId → (e ∈ s'.log ↔ e ∈ s₁.log) := by
      intro e he
      refine hframe e ?_
      intro u hu heq
      exact hne u hu (heq.symm.trans he)
    refine ⟨?_, .cons (hfits.congr hsame) hforall, ?_⟩
    · intro e he
      rw [hframe e fun u hu => he u (mem_cons_of_mem _ hu)]
      exact hothers e (he t mem_cons_self)
    · rw [forall_mem_cons, kept_congr hfits hsame, hkept, hpass, HandedInPass]
      refine and_congr_right fun _ => ?_
      constructor
      · intro hin p' counts' s'' hstep'
        rw [hstep] at hstep'
        cases hstep'
        exact hin
      · intro hall
        exact hall p counts₁ s₁ hstep

end AConductor.Parallel

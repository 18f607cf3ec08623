import AConductor.Lib.Simulation
import AConductor.ParallelReady.Settlement

/-!
# Parallel ready execution: calls that are observed

To say what a call asked of its ports, they are put over a world that also records the authority
checks, the answers of the lease broker and the runs that were submitted. The record is written
only: a call over the observed ports answers what the call over the ports answers, and leaves the
same world and the same log.
-/

namespace AConductor.Parallel

open Provider AConductor.Graph Lease Txn

variable {W α : Type}

/-- The world, and what was asked of the ports so far. -/
structure Observed (W : Type) where
  world : W
  checks : List (ParallelReadyTask × ProviderAuthorityCheck)
  leases : List (BrokerRequest × BrokerCandidate × LeaseAnswer)
  runs : List (ParallelReadyTask × WorkerLease)

/-- A port whose answers are recorded. -/
def observe (record : α → Observed W → Observed W) (f : Txn W Raised α) :
    Txn (Observed W) Raised α := fun s =>
  match f s.world with
  | (.ok a, w) => (.ok a, record a { s with world := w })
  | (.error e, w) => (.error e, { s with world := w })

def ProviderAdmissionPort.observed (port : ProviderAdmissionPort W) :
    ProviderAdmissionPort (Observed W) where
  authority t authority :=
    observe (fun check s => { s with checks := s.checks ++ [(t, check)] })
      (port.authority t authority)
  acquireAdmission call := observe (fun _ s => s) (port.acquireAdmission call)
  releaseAdmission call := observe (fun _ s => s) (port.releaseAdmission call)

/-- The executor over observed ports. -/
def ParallelReadyExecutor.observed (x : ParallelReadyExecutor W) :
    ParallelReadyExecutor (Observed W) where
  broker request candidate :=
    observe (fun answer s => { s with leases := s.leases ++ [(request, candidate, answer)] })
      (x.broker request candidate)
  runs items s :=
    ((x.runs items s.world).1,
      { s with
        world := (x.runs items s.world).2
        runs := s.runs ++ items })
  clock := observe (fun _ s => s) x.clock
  providerAdmissionStore := x.providerAdmissionStore.map ProviderAdmissionPort.observed
  requireProviderAuthority := x.requireProviderAuthority
  required h := by
    rw [Option.isSome_map]
    exact x.required h
  hash := x.hash
  isalnum := x.isalnum

/-- The run without the record. -/
def BatchRun.unobserved (s : BatchRun (Observed W)) : BatchRun W := ⟨s.world.world, s.log⟩

/-- The record has grown by checks and leases only. -/
structure Asked (s s' : BatchRun (Observed W)) : Prop where
  checks : s.world.checks ⊆ s'.world.checks
  leases : s.world.leases ⊆ s'.world.leases
  runs : s'.world.runs = s.world.runs

instance : Std.Refl (@Asked W) := ⟨fun _ => ⟨fun _ h => h, fun _ h => h, rfl⟩⟩

instance : IsTrans (BatchRun (Observed W)) Asked where
  trans _ _ _ h h' :=
    ⟨fun _ hx => h'.checks (h.checks hx), fun _ hx => h'.leases (h.leases hx),
      h'.runs.trans h.runs⟩

/-- What the observed part of a call answers and leaves, and how its record grows. -/
abbrev Observes {ε : Type} (x : Txn (BatchRun (Observed W)) ε α) (y : Txn (BatchRun W) ε α) :
    Prop :=
  x.Shows BatchRun.unobserved Asked y

/-! ### The parts of a call -/

theorem observes_askRaw {record : α → Observed W → Observed W} {f : Txn W Raised α}
    (hworld : ∀ a s, (record a s).world = s.world)
    (hasked : ∀ a (s : BatchRun (Observed W)), Asked s { s with world := record a s.world }) :
    Observes (askRaw (observe record f)) (askRaw f) := by
  intro s
  unfold askRaw observe BatchRun.unobserved
  dsimp only
  rcases hrun : f s.world.world with ⟨e | a, w⟩
  · exact ⟨rfl, ⟨fun _ h => h, fun _ h => h, rfl⟩⟩
  · obtain ⟨hchecks, hleases, hruns⟩ :=
      hasked a ⟨⟨w, s.world.checks, s.world.leases, s.world.runs⟩, s.log⟩
    refine ⟨?_, hchecks, hleases, hruns⟩
    rw [hworld]

section Parts

variable {x : ParallelReadyExecutor W} {c : BatchContext} {t : ParallelReadyTask}

theorem observed_store : x.observed.providerAdmissionStore =
    x.providerAdmissionStore.map ProviderAdmissionPort.observed := rfl

theorem asked_self (s : BatchRun (Observed W)) : Asked s s := Std.Refl.refl s

theorem observes_silent {f : Txn W Raised α} :
    Observes (askRaw (observe (fun _ s => s) f)) (askRaw f) :=
  observes_askRaw (fun _ _ => rfl) fun _ s => asked_self s

theorem observes_clock : Observes (ask x.observed.clock) (ask x.clock) :=
  observes_silent.recast _

theorem observes_note (e : AdmissionEvent) : Observes (note e : Batch (Observed W) Unit) (note e) :=
  shows_update (fun _ => rfl) fun _ => ⟨fun _ h => h, fun _ h => h, rfl⟩

theorem observes_checkProviderAuthority (authority : TaskAuthority) :
    Observes (checkProviderAuthority x.observed t authority)
      (checkProviderAuthority x t authority) := by
  unfold checkProviderAuthority ParallelReadyExecutor.observed
  dsimp only
  cases x.providerAdmissionStore with
  | none => exact shows_pure _
  | some port =>
    refine Shows.recast _ (observes_askRaw (fun _ _ => rfl) fun check s => ?_)
    exact ⟨List.subset_append_left _ _, fun _ h => h, rfl⟩

theorem observes_eligibleProfile (now : Option Int) :
    Observes (eligibleProfile x.observed now t) (eligibleProfile x now t) := by
  unfold eligibleProfile
  cases t.authority with
  | some authority =>
    refine ((observes_checkProviderAuthority authority).recast _).bind fun check => ?_
    exact (shows_require _ _).bind fun _ => shows_pure _
  | none =>
    refine ((shows_ofExcept _).recast _).bind fun ready => ?_
    refine (shows_require _ _).bind fun _ => ?_
    cases quotaReason t with
    | some reason => exact shows_raise _
    | none => exact shows_pure _

theorem observes_screenTask (counts : Dict String Nat) :
    Observes (screenTask x.observed c counts t) (screenTask x c counts t) := by
  unfold screenTask
  refine (shows_require _ _).bind fun _ => ?_
  refine (shows_require _ _).bind fun _ => ?_
  refine (observes_eligibleProfile c.now).bind fun profile => ?_
  exact (shows_require _ _).bind fun _ => shows_pure _

theorem observes_useAdmission (a : ProviderAdmissionRecord) :
    Observes (useAdmission x.observed c t a) (useAdmission x c t a) := by
  unfold useAdmission
  refine (observes_clock.recast _).bind fun current => ?_
  cases validateProviderAdmissionRecord t c.batchId a current with
  | some reason => exact shows_raise _
  | none => exact shows_pure _

theorem observes_judgeAcquired (answer : AcquireAnswer) :
    Observes (judgeAcquired x.observed c t answer) (judgeAcquired x c t answer) := by
  unfold judgeAcquired
  split
  case h_8 a =>
    exact ((observes_note _).recast _).bind fun _ => observes_useAdmission a
  all_goals exact shows_raise _

theorem observes_fenceTask (profile : ProviderConfiguration) :
    Observes (fenceTask x.observed c t profile) (fenceTask x c t profile) := by
  unfold fenceTask
  cases c.preAcquired.get? t.nodeId with
  | some a => exact (observes_useAdmission a).map _
  | none =>
    cases hstore : x.providerAdmissionStore with
    | none =>
      rw [observed_store, hstore]
      exact shows_pure _
    | some port =>
      rw [observed_store, hstore]
      refine ((observes_silent.attempt).recast _).bind fun answer => ?_
      cases answer with
      | error e => exact shows_raise _
      | ok r => exact (observes_judgeAcquired r).map _

theorem observes_releaseProviderAdmission (admission : Option ProviderAdmissionRecord)
    (now : Option Int) :
    Observes (releaseProviderAdmission x.observed c t admission now)
      (releaseProviderAdmission x c t admission now) := by
  unfold releaseProviderAdmission
  cases admission with
  | none => exact shows_pure _
  | some a =>
    cases hstore : x.providerAdmissionStore with
    | none =>
      rw [observed_store, hstore]
      exact shows_pure _
    | some port =>
      rw [observed_store, hstore]
      refine observes_silent.attempt.bind fun answer => ?_
      cases answer with
      | error e => exact shows_pure _
      | ok released =>
        dsimp only
        cases validateProviderReleaseRecord a released with
        | some reason => exact shows_pure _
        | none => exact (observes_note _).bind fun _ => shows_pure _

theorem observes_preLease (admission : Option ProviderAdmissionRecord) :
    Observes (preLease x.observed c t admission) (preLease x c t admission) := by
  unfold preLease
  cases t.authority with
  | none => exact shows_pure _
  | some authority =>
    refine ((observes_checkProviderAuthority authority).recast _).bind fun check => ?_
    cases check.allowed with
    | true => exact shows_pure _
    | false =>
      refine (observes_clock.recast _).bind fun current => ?_
      refine ((observes_releaseProviderAdmission admission current).recast _).bind fun released => ?_
      cases released with
      | some reason => exact shows_raise _
      | none => exact shows_raise _

theorem observes_judgeLease (admission : Option ProviderAdmissionRecord) (o : WorkerLeaseOutcome) :
    Observes (judgeLease x.observed c t admission o) (judgeLease x c t admission o) := by
  unfold judgeLease
  split
  · split
    · exact shows_raise _
    · split
      · exact shows_raise _
      · exact shows_pure _
  · split
    · refine ((observes_releaseProviderAdmission admission c.now).recast _).bind fun released => ?_
      cases released with
      | some reason => exact shows_raise _
      | none => exact shows_raise _
    · exact shows_raise _

theorem observes_broker :
    Observes (tryAsk (x.observed.broker t.leaseRequest t.candidate))
      (tryAsk (x.broker t.leaseRequest t.candidate)) := by
  refine Shows.attempt (observes_askRaw (fun _ _ => rfl) fun answer s => ?_)
  exact ⟨fun _ h => h, List.subset_append_left _ _, rfl⟩

theorem observes_leaseTask (admission : Option ProviderAdmissionRecord) :
    Observes (leaseTask x.observed c t admission) (leaseTask x c t admission) := by
  unfold leaseTask
  refine (observes_broker.recast _).bind fun answer => ?_
  match answer with
  | .error e => exact shows_raise _
  | .ok .other => exact shows_raise _
  | .ok (.outcome o) => exact (observes_judgeLease admission o).bind fun lease => shows_pure _

theorem observes_admitTask (profile : ProviderConfiguration) :
    Observes (admitTask x.observed c t profile) (admitTask x c t profile) := by
  unfold admitTask
  refine (observes_fenceTask profile).bind fun admission => ?_
  exact (observes_preLease admission).bind fun _ => observes_leaseTask admission

theorem observes_placeTask (counts : Dict String Nat) :
    Observes (placeTask x.observed c counts t) (placeTask x c counts t) := by
  unfold placeTask
  exact (observes_screenTask counts).bind fun profile => observes_admitTask profile

theorem observes_placeStep (counts : Dict String Nat) :
    Observes (placeStep x.observed c counts t) (placeStep x c counts t) := by
  intro s
  obtain ⟨hsame, hasked⟩ := @observes_placeTask W x c t counts s
  unfold placeStep
  rw [hsame]
  rcases hrun : placeTask x.observed c counts t s with ⟨(o | e) | r, s'⟩
  all_goals
    rw [hrun] at hasked
    exact ⟨rfl, hasked⟩

theorem observes_placeAll (ts : List ParallelReadyTask) (counts : Dict String Nat) :
    Observes (placeAll x.observed c ts counts) (placeAll x c ts counts) := by
  induction ts generalizing counts with
  | nil => exact shows_pure _
  | cons t ts ih =>
    unfold placeAll
    refine (observes_placeStep counts).bind fun step => ?_
    exact (ih step.2).bind fun rest => shows_pure _

theorem observes_releaseRun (r : Runnable) (result : RunnerAnswer)
    (outcome : ParallelReadyOutcome) :
    Observes (releaseRun x.observed c r result outcome) (releaseRun x c r result outcome) := by
  unfold releaseRun
  refine observes_clock.bind fun current => ?_
  refine (observes_releaseProviderAdmission r.admission current).bind fun released => ?_
  cases released with
  | some reason => exact shows_pure _
  | none => exact shows_pure _

theorem observes_settleRun (r : Runnable) (answer : Except Raised RunnerAnswer) :
    Observes (settleRun x.observed c r answer) (settleRun x c r answer) := by
  cases answer with
  | error e => exact shows_pure _
  | ok result =>
    unfold settleRun
    dsimp only
    split
    · exact shows_pure _
    · have hpolicy : typedDispatchPolicy x.observed.hash x.observed.isalnum result r.task r.lease =
          typedDispatchPolicy x.hash x.isalnum result r.task r.lease := rfl
      rw [hpolicy]
      split
      · exact observes_releaseRun r result _
      · split
        · exact observes_releaseRun r result _
        · exact shows_pure _

theorem observes_settleAll (answers : String → Except Raised RunnerAnswer) (ps : List Placement) :
    Observes (settleAll x.observed c answers ps) (settleAll x c answers ps) := by
  induction ps with
  | nil => exact shows_pure _
  | cons p ps ih =>
    cases p with
    | ended o => exact ih.bind fun rest => shows_pure _
    | runnable r =>
      refine (observes_settleRun r _).bind fun o => ?_
      exact ih.bind fun rest => shows_pure _

theorem observes_prepare (call : ExecuteCall) :
    Observes (prepare x.observed call) (prepare x call) := by
  unfold prepare
  refine (shows_ofExcept _).bind fun tasks => ?_
  refine (shows_require _ _).bind fun _ => ?_
  have hbatch : usedBatchId x.observed call.batchId = usedBatchId x call.batchId := by
    unfold usedBatchId
    rw [observed_store, Option.isSome_map]
  rw [hbatch]
  refine (shows_ofExcept _).bind fun batchId => ?_
  exact observes_clock.bind fun now => shows_pure _

/-- The pool records the items that are submitted. -/
theorem observed_runPool (ps : List Placement) (s : BatchRun (Observed W)) :
    runPool x ps s.unobserved =
        ((runPool x.observed ps s).1, (runPool x.observed ps s).2.unobserved) ∧
      (runPool x.observed ps s).2.world.runs =
        s.world.runs ++ (runnables ps).map fun r => (r.task, r.lease) := by
  unfold runPool
  cases hitems : (runnables ps).map fun r => (r.task, r.lease) with
  | nil =>
    refine ⟨rfl, ?_⟩
    exact (List.append_nil _).symm
  | cons item items => exact ⟨rfl, rfl⟩

/-- Observing a call changes nothing of what it answers and leaves. -/
theorem observed_execute (call : ExecuteCall) (s : BatchRun (Observed W)) :
    execute x call s.unobserved =
      ((execute x.observed call s).1, (execute x.observed call s).2.unobserved) := by
  have hforget : ∀ {ε α : Type} {f : Txn (BatchRun (Observed W)) ε α} {k : Txn (BatchRun W) ε α},
      Observes f k → f.Shows BatchRun.unobserved (fun _ _ => True) k :=
    fun h => h.mono fun _ _ _ => trivial
  have htrans : IsTrans (BatchRun (Observed W)) fun _ _ => True := ⟨fun _ _ _ _ _ => trivial⟩
  have hexecute : (execute x.observed call).Shows BatchRun.unobserved (fun _ _ => True)
      (execute x call) := by
    unfold execute
    refine (hforget (observes_prepare call)).bind fun prepared => ?_
    refine (hforget (observes_placeAll _ _)).bind fun ps => ?_
    refine Shows.bind (fun s => ⟨(observed_runPool ps s).1, trivial⟩) fun answers => ?_
    exact hforget (observes_settleAll answers ps)
  exact (hexecute s).1

end Parts

end AConductor.Parallel

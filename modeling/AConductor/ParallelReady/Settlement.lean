import AConductor.ParallelReady.Admissions
import AConductor.Provider.AdmissionCapacity
import AConductor.WorkerLease.Safety

namespace AConductor.Parallel

open Provider AConductor.Graph Lease Txn List

variable {W : Type} {x : ParallelReadyExecutor W} {c : BatchContext} {s : BatchRun W}
  {l : List AdmissionEvent}

theorem wp_releaseRun {r : Runnable} {result : RunnerAnswer} {outcome : ParallelReadyOutcome}
    (h : Goes x c r.task.nodeId l r.admission s) (hnode : outcome.nodeId = r.task.nodeId) :
    wp (releaseRun x c r result outcome)
      (fun o s' => Leaves c r.task.nodeId l (.outcome o) s') (fun _ _ => True) s := by
  unfold releaseRun
  rw [wp_bind]
  refine wp_ask ?_ fun _ _ => trivial
  intro current w
  rw [wp_bind]
  refine wp_mono (wp_releaseProviderAdmission (s := { s with world := w }) current h) ?_
    fun _ _ _ => trivial
  rintro answer s' ⟨hgoes, hreleased⟩
  cases answer with
  | some reason => exact leaves_named hgoes rfl rfl rfl
  | none =>
    have hhold : Holding x c outcome.nodeId r.admission s'.log := by
      rw [hnode]
      exact hgoes.2
    refine ⟨hnode, hgoes.1, hhold.settled_released ?_⟩
    rw [hnode]
    exact hreleased rfl

/-- Without an admission any outcome settles the task. -/
theorem leaves_empty {t : ParallelReadyTask} {o : ParallelReadyOutcome}
    (h : Goes x c t.nodeId l none s) (hnode : o.nodeId = t.nodeId) :
    Leaves c t.nodeId l (.outcome o) s := by
  refine ⟨hnode, h.1, settled_unowned ?_⟩
  intro a howned
  rw [hnode] at howned
  cases h.2.only a howned

/-- However a run ends, its admission is settled. -/
theorem wp_settleRun {r : Runnable} (answer : Except Raised RunnerAnswer)
    (h : Goes x c r.task.nodeId l r.admission s) :
    wp (settleRun x c r answer)
      (fun o s' => Leaves c r.task.nodeId l (.outcome o) s') (fun _ _ => True) s := by
  unfold settleRun
  match answer with
  | .error e => exact leaves_named h rfl rfl rfl
  | .ok result =>
    dsimp only
    by_cases hbare : r.admission = none ∧ result = .other
    · rw [if_pos hbare]
      rw [hbare.1] at h
      exact leaves_empty h rfl
    · rw [if_neg hbare]
      by_cases haccepted : (typedDispatchPolicy x.hash x.isalnum result r.task r.lease).accepted
      · rw [if_pos haccepted]
        exact wp_releaseRun h rfl
      · rw [if_neg haccepted]
        by_cases hrelease :
            (typedDispatchPolicy x.hash x.isalnum result r.task r.lease).releaseAdmission
        · rw [if_pos hrelease]
          exact wp_releaseRun h rfl
        · rw [if_neg hrelease]
          exact leaves_named h rfl rfl rfl

variable {ps : List Placement} {answers : String → Except Raised RunnerAnswer} {s' : BatchRun W}
  {outcomes : List ParallelReadyOutcome}

variable {ts : List ParallelReadyTask}

/-- What is said of the placements depends on the events of their nodes. -/
theorem fits_forall_congr {l' : List AdmissionEvent}
    (h : List.Forall₂ (Fits x c l) ts ps)
    (hsame : ∀ t ∈ ts, ∀ e, e.nodeId = t.nodeId → (e ∈ l' ↔ e ∈ l)) :
    List.Forall₂ (Fits x c l') ts ps ∧ ((∀ p ∈ ps, Kept c l' p) ↔ ∀ p ∈ ps, Kept c l p) := by
  induction h with
  | nil =>
    refine ⟨.nil, ?_⟩
    constructor
    all_goals
      intro _ p hp
      cases hp
  | cons hfits _ ih =>
    have hhead := hsame _ mem_cons_self
    obtain ⟨hforall, hkept⟩ := ih fun t ht => hsame t (mem_cons_of_mem _ ht)
    refine ⟨.cons (hfits.congr hhead) hforall, ?_⟩
    rw [forall_mem_cons, forall_mem_cons, kept_congr hfits hhead, hkept]

variable {os : List ParallelReadyOutcome}

/-- The first placement becomes the first outcome, which settles its node just when the
    placement was kept; the others are left alone. -/
theorem settleAll_cons {t : ParallelReadyTask} {p : Placement}
    (hfits : Fits x c s.log t p) (h : settleAll x c answers (p :: ps) s = (.ok os, s')) :
    ∃ o rest s₁, os = o :: rest ∧ settleAll x c answers ps s₁ = (.ok rest, s') ∧
      o.nodeId = t.nodeId ∧ SameOthers t.nodeId s.log s₁.log ∧
      (Settled c s₁.log o ↔ Kept c s.log p) := by
  cases p with
  | ended o =>
    unfold settleAll at h
    obtain ⟨rest, s₂, hrun, h⟩ := bind_eq_ok h
    cases h
    exact ⟨o, rest, s, rfl, hrun, hfits, SameOthers.refl _ _, Iff.rfl⟩
  | runnable r =>
    obtain ⟨rfl, hhold⟩ := hfits
    unfold settleAll at h
    obtain ⟨o, s₁, hone, h⟩ := bind_eq_ok h
    obtain ⟨rest, s₂, hrun, h⟩ := bind_eq_ok h
    cases h
    have hgoes : Goes x c r.task.nodeId s.log r.admission s := ⟨SameOthers.refl _ _, hhold⟩
    obtain ⟨hnode, hothers, hdone⟩ := wp_ok (wp_settleRun _ hgoes) hone
    exact ⟨o, rest, s₁, rfl, hrun, hnode, hothers, fun _ => trivial, fun _ => hdone⟩

/-- After the runs: every outcome settles its node just when every placement was kept. -/
theorem settleAll_spec
    (hfits : List.Forall₂ (Fits x c s.log) ts ps) (hnodup : (ts.map ParallelReadyTask.nodeId).Nodup)
    (h : settleAll x c answers ps s = (.ok os, s')) :
    (∀ e, (∀ t ∈ ts, e.nodeId ≠ t.nodeId) → (e ∈ s'.log ↔ e ∈ s.log)) ∧
      os.map ParallelReadyOutcome.nodeId = ts.map ParallelReadyTask.nodeId ∧
      ((∀ o ∈ os, Settled c s'.log o) ↔ ∀ p ∈ ps, Kept c s.log p) := by
  induction ts generalizing ps s os with
  | nil =>
    cases hfits
    cases h
    refine ⟨fun _ _ => Iff.rfl, rfl, ?_⟩
    constructor
    all_goals
      intro _ p hp
      cases hp
  | cons t ts ih =>
    obtain ⟨hnot, htail⟩ := nodup_cons.mp hnodup
    have hne : ∀ u ∈ ts, t.nodeId ≠ u.nodeId := by
      intro u hu heq
      exact hnot (heq ▸ mem_map_of_mem hu)
    cases hfits with
    | cons hhead hrest =>
      obtain ⟨o, rest, s₁, rfl, hrun, hnode, hothers, hone⟩ := settleAll_cons hhead h
      have hsame : ∀ u ∈ ts, ∀ e, e.nodeId = u.nodeId → (e ∈ s₁.log ↔ e ∈ s.log) :=
        fun u hu e he => hothers e fun heq => hne u hu (heq.symm.trans he)
      obtain ⟨hrest₁, hkept⟩ := fits_forall_congr hrest hsame
      obtain ⟨hframe, hnodes, hsettled⟩ := ih hrest₁ htail hrun
      have hlast : Settled c s'.log o ↔ Settled c s₁.log o := by
        refine settled_congr ?_
        intro e he
        exact hframe e fun u hu heq => hne u hu (hnode.symm.trans (he.symm.trans heq))
      refine ⟨?_, by rw [map_cons, map_cons, hnode, hnodes], ?_⟩
      · intro e he
        rw [hframe e fun u hu => he u (mem_cons_of_mem _ hu)]
        exact hothers e (he t mem_cons_self)
      · rw [forall_mem_cons, forall_mem_cons, hlast, hone, hsettled, hkept]

variable {tasksByNode : Dict String ParallelReadyTask} {call : ExecuteCall}
variable {tasks : List ParallelReadyTask} {inflight : Dict String Int}

theorem validateTasks_assignments
    {profiles : Dict String ProviderConfiguration} {assignments : List SelectedAssignment}
    (h : validateTasks tasksByNode inflight profiles assignments = .ok tasks) :
    tasks.map ParallelReadyTask.assignment = assignments := by
  induction assignments generalizing profiles tasks with
  | nil =>
    cases h
    rfl
  | cons assignment rest ih =>
    unfold validateTasks at h
    cases hget : tasksByNode.get? assignment.nodeId with
    | none =>
      rw [hget] at h
      cases h
    | some t =>
      rw [hget] at h
      dsimp only at h
      by_cases hdrift : t.assignment ≠ assignment
      · rw [if_pos hdrift] at h
        cases h
      · rw [if_neg hdrift] at h
        by_cases hprofile : (profiles.get? t.providerId).any (· ≠ t.providerProfile) = true
        · rw [if_pos hprofile] at h
          cases h
        · rw [if_neg hprofile] at h
          cases hinflight : inflight.get? t.providerId with
          | none =>
            rw [hinflight] at h
            cases h
          | some n =>
            rw [hinflight] at h
            dsimp only at h
            by_cases hnegative : n < 0
            · rw [if_pos hnegative] at h
              cases h
            · rw [if_neg hnegative] at h
              cases htasks : validateTasks tasksByNode inflight
                  (profiles.set t.providerId t.providerProfile) rest with
              | error e =>
                rw [htasks] at h
                cases h
              | ok ts =>
                rw [htasks] at h
                cases h
                rw [map_cons, not_not.mp hdrift, ih htasks]

/-- The tasks of a valid batch have nodes of their own. -/
theorem validateBatch_nodup {plan : SchedulePlan}
    (h : validateBatch plan tasksByNode inflight = .ok tasks) :
    (tasks.map ParallelReadyTask.nodeId).Nodup := by
  unfold validateBatch at h
  dsimp only at h
  by_cases hnodup : (plan.selected.map SelectedAssignment.nodeId).Nodup
  · rw [if_neg (not_not.mpr hnodup)] at h
    split at h
    · cases h
    · rw [← validateTasks_assignments h, map_map] at hnodup
      exact hnodup
  · rw [if_pos hnodup] at h
    cases h

theorem wp_prepare (x : ParallelReadyExecutor W) (call : ExecuteCall) (s : BatchRun W) :
    wp (prepare x call) (fun r s' => s'.log = s.log ∧ r.2.preAcquired = call.preAcquired ∧
        (r.1.map ParallelReadyTask.nodeId).Nodup ∧
        ∀ e ∈ call.preAcquired.entries, ∃ t ∈ r.1, t.nodeId = e.1)
      (fun _ _ => True) s := by
  unfold prepare
  rw [wp_bind]
  refine wp_ofExcept_of_ok ?_
  intro tasks htasks
  rw [wp_bind, wp_require]
  refine ⟨fun hknown => ?_, fun _ => trivial⟩
  rw [wp_bind]
  refine wp_ofExcept_of_ok ?_
  intro batchId _
  rw [wp_bind]
  refine wp_ask ?_ fun _ _ => trivial
  intro now w
  refine ⟨rfl, rfl, validateBatch_nodup htasks, ?_⟩
  intro e he
  obtain ⟨t, ht, hnode⟩ := any_eq_true.mp (all_eq_true.mp hknown e he)
  exact ⟨t, ht, of_decide_eq_true hnode⟩

theorem runPool_log (h : runPool x ps s = (.ok answers, s')) : s'.log = s.log := by
  unfold runPool at h
  dsimp only at h
  split at h
  all_goals
    cases h
    rfl

/-- Every admission that was handed in for a node or acquired for it is released, or named by
    an outcome of a recovery kind of that node. -/
def NoneLeaked (call : ExecuteCall) (outcomes : List ParallelReadyOutcome)
    (log : List AdmissionEvent) : Prop :=
  ∀ node a, (call.preAcquired.get? node = some a ∨ .acquired node a ∈ log) →
    .released node a ∈ log ∨ ∃ o ∈ outcomes, o.nodeId = node ∧ o.kind.recoveryRequired = true ∧
      o.providerAdmission = some a

/-- The outcomes that settle their nodes are those of a call that leaks nothing. -/
theorem noneLeaked_iff_settled {log : List AdmissionEvent} (hpre : c.preAcquired = call.preAcquired)
    (hnodup : (outcomes.map ParallelReadyOutcome.nodeId).Nodup)
    (hcovered : ∀ node a, Owned c log node a → ∃ o ∈ outcomes, o.nodeId = node) :
    NoneLeaked call outcomes log ↔ ∀ o ∈ outcomes, Settled c log o := by
  constructor
  · intro hnone o ho a howned
    unfold Owned at howned
    rw [hpre] at howned
    rcases hnone o.nodeId a howned with hreleased | ⟨o', ho', hnode, hkind, hnamed⟩
    · exact .inl hreleased
    · rw [inj_on_of_nodup_map hnodup ho' ho hnode] at hkind hnamed
      exact .inr ⟨hkind, hnamed⟩
  · intro hall node a howned
    have howned' : Owned c log node a := by
      unfold Owned
      rw [hpre]
      exact howned
    obtain ⟨o, ho, rfl⟩ := hcovered node a howned'
    rcases hall o ho a howned' with hreleased | ⟨hkind, hnamed⟩
    · exact .inl hreleased
    · exact .inr ⟨o, ho, rfl, hkind, hnamed⟩

/-- What a returning call leaks, told by the loop it ran. -/
theorem execute_settles {w : W}
    (hstore : call.preAcquired.entries ≠ [] → x.providerAdmissionStore.isSome = true)
    (h : execute x call ⟨w, []⟩ = (.ok outcomes, s')) :
    ∃ tasks c s, prepare x call ⟨w, []⟩ = (.ok (tasks, c), s) ∧
      c.preAcquired = call.preAcquired ∧
      (NoneLeaked call outcomes s'.log ↔ HandedInPass x c tasks .empty s) := by
  unfold execute at h
  obtain ⟨⟨tasks, c⟩, s₀, hprepare, h⟩ := bind_eq_ok h
  obtain ⟨ps, s₁, hplace, h⟩ := bind_eq_ok h
  obtain ⟨answers, s₂, hpool, hsettle⟩ := bind_eq_ok h
  obtain ⟨hlog, hpre, hnodup, hknown⟩ := wp_ok (wp_prepare x call ⟨w, []⟩) hprepare
  dsimp only at hlog hpre hnodup hknown
  have hstore' : ∀ t ∈ tasks, (c.preAcquired.get? t.nodeId).isSome = true →
      x.providerAdmissionStore.isSome = true := by
    intro t _ hsome
    obtain ⟨a, ha⟩ := Option.isSome_iff_exists.mp hsome
    rw [hpre] at ha
    exact hstore (ne_nil_of_mem (Dict.mem_of_get? ha))
  have hfresh : ∀ t ∈ tasks, Untouched t.nodeId s₀.log := by
    intro t _ e he
    rw [hlog] at he
    cases he
  obtain ⟨hframe₁, hfits, hkept⟩ := placeAll_spec hstore' hnodup hfresh hplace
  rw [← runPool_log hpool] at hframe₁ hfits hkept
  obtain ⟨hframe₂, hnodes, hsettled⟩ := settleAll_spec hfits hnodup hsettle
  have hcovered : ∀ node a, Owned c s'.log node a → ∃ o ∈ outcomes, o.nodeId = node := by
    intro node a howned
    have htask : ∃ t ∈ tasks, t.nodeId = node := by
      rcases howned with hin | hacquired
      · rw [hpre] at hin
        exact hknown _ (Dict.mem_of_get? hin)
      · by_contra hnone
        have hother : ∀ t ∈ tasks, (AdmissionEvent.acquired node a).nodeId ≠ t.nodeId :=
          fun t ht heq => hnone ⟨t, ht, heq.symm⟩
        have hold := (hframe₁ _ hother).mp ((hframe₂ _ hother).mp hacquired)
        rw [hlog] at hold
        cases hold
    obtain ⟨t, ht, rfl⟩ := htask
    have hmem : t.nodeId ∈ outcomes.map ParallelReadyOutcome.nodeId := by
      rw [hnodes]
      exact mem_map_of_mem ht
    exact mem_map.mp hmem
  refine ⟨tasks, c, s₀, hprepare, hpre, ?_⟩
  rw [noneLeaked_iff_settled hpre (by rw [hnodes]; exact hnodup) hcovered, hsettled, hkept]

/-- A call that returns leaks no admission if and only if no task with an admission that was
    handed in is turned away when its turn comes. -/
theorem execute_leaks_none_iff (x : ParallelReadyExecutor W) (call : ExecuteCall) (w : W)
    (hstore : call.preAcquired.entries ≠ [] → x.providerAdmissionStore.isSome = true)
    {outcomes : List ParallelReadyOutcome} {s' : BatchRun W}
    (h : execute x call ⟨w, []⟩ = (.ok outcomes, s')) :
    NoneLeaked call outcomes s'.log ↔
      ∀ tasks c s, prepare x call ⟨w, []⟩ = (.ok (tasks, c), s) →
        HandedInPass x c tasks .empty s := by
  obtain ⟨tasks, c, s, hprepare, -, hiff⟩ := execute_settles hstore h
  rw [hiff]
  constructor
  · intro hpass tasks' c' s' hprepare'
    rw [hprepare] at hprepare'
    cases hprepare'
    exact hpass
  · intro hall
    exact hall tasks c s hprepare

/-- Without admissions that were handed in no task can lose one. -/
theorem handedInPass_of_none (h : ∀ node, c.preAcquired.get? node = none)
    (ts : List ParallelReadyTask) (counts : Dict String Nat) (s : BatchRun W) :
    HandedInPass x c ts counts s := by
  induction ts generalizing counts s with
  | nil => trivial
  | cons t ts ih =>
    refine ⟨?_, fun _ counts' s' _ => ih counts' s'⟩
    intro hsome
    rw [h t.nodeId] at hsome
    cases hsome

def reservedAdmission : ProviderAdmissionRecord where
  admissionId := "admission-1"
  providerId := "provider-1"
  executionId := "graph-dispatch-k"
  batchId := "batch-1"
  acquiredAt := 0
  expiresAt := 60000000
  status := .active
  configurationGeneration := some 1

def reservedSecurity : ProviderPolicyTaskSecurity := ⟨"INTERNAL", "ALLOWLIST", [], false⟩

def reservedAssignment : SelectedAssignment := { nodeId := "node-1", workerId := "worker-1" }

def reservedTask : ParallelReadyTask where
  assignment := reservedAssignment
  dispatchRequest :=
    { key := ⟨"graph-1", "run-1", "node-1"⟩
      workerId := "worker-1"
      projectId := "p"
      workOrderRef := "work-order-1"
      operationRef := "operation-1"
      dispatchMode := .programmaticPush }
  dispatchGate := ⟨true, "ALLOWED", none⟩
  leaseRequest := { toWorkerLeaseRequest := sampleRequest "t1" "worker-1" "a" }
  candidate :=
    { workerId := "worker-1"
      runtimeId := none
      state := "READY"
      reserved := false
      activeTask := false
      capabilities := []
      projectId := some "p"
      worktree := some "w"
      branch := some "main"
      head := some "abcdef0"
      healthFresh := true
      ownershipKnown := true
      dirtyState := .clean
      mutationAuthorized := true }
  providerProfile := sampleProfile
  providerObservation := none
  executionId := "graph-dispatch-k"
  authority := some ⟨⟨"endpoint-1", "https://provider.example", by decide +kernel⟩, reservedSecurity, 1⟩
  requireQuota := false
  providerRequirement := some ⟨"provider-1", "authority-1", 1, reservedSecurity⟩

/-- The authority check allows the provider or finds it not ready any more; a release is
    confirmed; the broker raises. -/
def reservedExecutor (ready : Bool) : ParallelReadyExecutor Unit where
  broker _ _ := raise ⟨none⟩
  runs _ w := (fun _ => .ok .other, w)
  clock := pure (some 1000000)
  providerAdmissionStore := some
    { authority := fun t authority => pure
        { allowed := ready
          gateRefused := false
          providerUnavailable := !ready
          rateLimited := false
          reasonCode := if ready then "PROVIDER_READY" else "PROVIDER_NOT_READY"
          profile := t.providerProfile
          endpoint := some authority.providerEndpoint
          observation := none }
      acquireAdmission := fun _ => pure .other
      releaseAdmission := fun _ => pure (.record
        { reservedAdmission with status := .released, releasedAt := some 1000000 }) }
  requireProviderAuthority := true
  required := fun _ => rfl
  hash := ⟨fun _ => "k", fun _ => "m"⟩
  isalnum := Char.isAlphanum

def reservedCall : ExecuteCall where
  plan := ⟨[reservedAssignment], [], "capacity-1"⟩
  tasksByNode := Dict.empty.set "node-1" reservedTask
  providerInflight := Dict.empty.set "provider-1" 0
  batchId := some "batch-1"
  preAcquired := Dict.empty.set "node-1" reservedAdmission

/-- What a call acquires itself is released or named, whatever its ports do. -/
theorem execute_leaks_no_acquired {w : W} (hempty : call.preAcquired.entries = [])
    (h : execute x call ⟨w, []⟩ = (.ok outcomes, s')) : NoneLeaked call outcomes s'.log := by
  obtain ⟨tasks, c, s, -, hpre, hiff⟩ := execute_settles (fun hne => absurd hempty hne) h
  refine hiff.mpr (handedInPass_of_none ?_ tasks .empty s)
  intro node
  rw [hpre]
  unfold Dict.get?
  rw [hempty]
  rfl

theorem execute_leaks_no_acquired_ready :
    let call := { reservedCall with preAcquired := .empty }
    ∃ outcomes s', execute (reservedExecutor true) call ⟨(), []⟩ = (.ok outcomes, s') ∧
      NoneLeaked call outcomes s'.log :=
  ⟨_, _, rfl, execute_leaks_no_acquired (x := reservedExecutor true) rfl rfl⟩

/-- While the provider is ready the reserved admission is named when the broker raises. -/
theorem execute_leaks_none_iff_ready :
    ∃ outcomes s', execute (reservedExecutor true) reservedCall ⟨(), []⟩ = (.ok outcomes, s') ∧
      NoneLeaked reservedCall outcomes s'.log := by
  refine ⟨_, _, rfl, (execute_leaks_none_iff (reservedExecutor true) reservedCall ()
    (fun _ => rfl) rfl).mpr ?_⟩
  intro tasks c s h
  cases h
  refine ⟨fun _ => ⟨fun _ => rfl, rfl, sampleProfile, ⟨_, _, rfl, rfl, rfl⟩, by decide⟩, ?_⟩
  intro _ _ _ _
  trivial

/-- A provider that is not ready any more when the batch starts: the task waits, and the
    active admission that was reserved for it is neither released nor named. -/
theorem execute_leaks_reserved :
    ∃ outcomes s', execute (reservedExecutor false) reservedCall ⟨(), []⟩ = (.ok outcomes, s') ∧
      reservedCall.preAcquired.get? "node-1" = some reservedAdmission ∧
      reservedAdmission.status = .active ∧
      outcomes.map ParallelReadyOutcome.kind = [.providerWait] ∧
      (∀ node, .released node reservedAdmission ∉ s'.log) ∧
      (∀ o ∈ outcomes, o.providerAdmission ≠ some reservedAdmission) ∧
      ¬ NoneLeaked reservedCall outcomes s'.log := by
  refine ⟨_, _, rfl, rfl, rfl, rfl, ?_, ?_, ?_⟩
  · intro _ h
    cases h
  · intro o ho h
    cases mem_singleton.mp ho
    cases h
  · intro hnone
    rcases hnone "node-1" reservedAdmission (.inl rfl) with hreleased | ⟨o, ho, -, hkind, -⟩
    · cases hreleased
    · cases mem_singleton.mp ho
      cases hkind

end AConductor.Parallel

import AConductor.Execution.Coordinator
import AConductor.Lib.RelyGuarantee
import AConductor.Lib.Trace

/-!
# Executions: a single launch per fingerprint

`run_with_outcome` calls over one store, interleaved at their transactions. The lookup
and the creation are separate transactions and nothing in the store makes a fingerprint
unique, so two calls may both find nothing and both launch. As long as no record of the
fingerprint is created by somebody else between a call's lookup and its own creation
(`Undisturbed`), a fingerprint is launched once and beside no earlier execution of it,
in whatever state that is: the guard launches again from no state.
-/

namespace AConductor.Execution

open Interleave Proc

/-- An update of a record by somebody else: a supervisor that reports, a recovery. -/
structure RecordUpdate where
  args : UpdateArgs
  change : ExecutionChange
  draw : String
  deriving DecidableEq, Repr

/-- The calls of the coordinators, beside updates of the records. -/
def runSystem (host : FingerprintHost) :
    System RunCall RecordUpdate ExecutionStore RunNote (Except RunFault SupervisedRunOutcome) where
  prog := runWithOutcome host
  env u s := (updateExecution u.args u.change u.draw s).2

/-- No other record of the fingerprint is created between the lookup of a call that
    found nothing and the creation by that call. -/
def Undisturbed : List (Nat × RunNote) → Prop :=
  Justified fun before x =>
    match x with
    | (i, .created fingerprint _) => ∀ earlier between,
      before = earlier ++ (i, .assessed fingerprint) :: between →
      ∀ k id, (k, .created fingerprint id) ∉ between
    | _ => True

/-- The fingerprint of a launch. -/
def launchedFingerprint : Nat × RunNote → Option String
  | (_, .launched fingerprint _ _) => some fingerprint
  | _ => none

/-- No fingerprint is launched twice, and none beside another record of it. -/
def SingleLaunch (trace : List (Nat × RunNote)) : Prop :=
  (trace.filterMap launchedFingerprint).Nodup ∧
  ∀ i fingerprint id others, (i, .launched fingerprint id others) ∈ trace → others = []

theorem Undisturbed.of_append {trace rest : List (Nat × RunNote)}
    (h : Undisturbed (trace ++ rest)) : Undisturbed trace := by
  intro before x after heq
  apply h before x (after ++ rest)
  rw [heq]
  simp

/-- What stands before each note: a created id is new, and a launch follows the creation
    by the same call, once. -/
def LaunchOrder (before : List (Nat × RunNote)) : Nat × RunNote → Prop
  | (_, .assessed _) => True
  | (_, .created _ id) => ∀ k fingerprint, (k, .created fingerprint id) ∉ before
  | (i, .launched fingerprint id others) =>
    (i, .created fingerprint id) ∈ before ∧ (∀ f d o, (i, .launched f d o) ∉ before) ∧ others = []

/-- What the store shows of the notes: a created record is there and is the only one of
    its fingerprint, and a fingerprint that was looked up in vain has no record until one
    is created. -/
structure LaunchesSingle (s : ExecutionStore) (trace : List (Nat × RunNote)) : Prop where
  ordered : Justified LaunchOrder trace
  present : ∀ i fingerprint id, (i, .created fingerprint id) ∈ trace →
    (id, fingerprint) ∈ s.identities
  sole : ∀ i fingerprint id, (i, .created fingerprint id) ∈ trace →
    ∀ x ∈ s.identities, x.2 = fingerprint → x.1 = id
  absent : ∀ before i fingerprint after, trace = before ++ (i, .assessed fingerprint) :: after →
    (∀ k id, (k, .created fingerprint id) ∉ after) → ∀ x ∈ s.identities, x.2 ≠ fingerprint

/-- The protocol of runs that are not disturbed. -/
def runProtocol : Protocol ExecutionStore RunNote where
  Inv s trace := Undisturbed trace → LaunchesSingle s trace
  Grows _ _ := True

variable {trace : List (Nat × RunNote)}

theorem LaunchesSingle.silent {s s' : ExecutionStore} (h : LaunchesSingle s trace)
    (hsame : s'.identities = s.identities) :
    LaunchesSingle s' trace where
  ordered := h.ordered
  present i fingerprint id hmem := by
    rw [hsame]
    exact h.present i fingerprint id hmem
  sole i fingerprint id hmem := by
    rw [hsame]
    exact h.sole i fingerprint id hmem
  absent before i fingerprint after heq hnone := by
    rw [hsame]
    exact h.absent before i fingerprint after heq hnone

theorem LaunchesSingle.assessed {s : ExecutionStore} {i : Nat} {fingerprint : String}
    (h : LaunchesSingle s trace) (hnone : ∀ x ∈ s.identities, x.2 ≠ fingerprint) :
    LaunchesSingle s (trace ++ [(i, .assessed fingerprint)]) where
  ordered := h.ordered.snoc trivial
  present k f id hmem := by
    rcases List.mem_append.mp hmem with hmem | hmem
    · exact h.present k f id hmem
    · simp at hmem
  sole k f id hmem := by
    rcases List.mem_append.mp hmem with hmem | hmem
    · exact h.sole k f id hmem
    · simp at hmem
  absent before k f after heq hafter := by
    rcases Interleave.split_snoc heq with ⟨-, -, hnote⟩ | ⟨rest, rfl, heq'⟩
    · cases hnote
      exact hnone
    · apply h.absent before k f rest heq'
      intro j id hmem
      exact hafter j id (List.mem_append_left _ hmem)

/-- The creation by a call whose lookup was in vain and not disturbed. -/
theorem LaunchesSingle.created {s s' : ExecutionStore} {i : Nat} {fingerprint id : String}
    (h : LaunchesSingle s trace) (hnone : ∀ x ∈ s.identities, x.2 ≠ fingerprint)
    (hnew : ∀ x ∈ s.identities, x.1 ≠ id)
    (hids : s'.identities = s.identities ++ [(id, fingerprint)]) :
    LaunchesSingle s' (trace ++ [(i, .created fingerprint id)]) where
  ordered := by
    refine h.ordered.snoc ?_
    intro k f hmem
    exact hnew _ (h.present k f id hmem) rfl
  present k f d hmem := by
    rw [hids]
    rcases List.mem_append.mp hmem with hmem | hmem
    · exact List.mem_append_left _ (h.present k f d hmem)
    · rw [List.mem_singleton] at hmem
      cases hmem
      exact List.mem_append_right _ (List.mem_singleton_self _)
  sole k f d hmem x hx hxf := by
    rw [hids] at hx
    rcases List.mem_append.mp hmem with hmem | hmem
    · rcases List.mem_append.mp hx with hx | hx
      · exact h.sole k f d hmem x hx hxf
      · rw [List.mem_singleton] at hx
        subst hx
        exact absurd hxf.symm (hnone _ (h.present k f d hmem))
    · rw [List.mem_singleton] at hmem
      cases hmem
      rcases List.mem_append.mp hx with hx | hx
      · exact absurd hxf (hnone x hx)
      · rw [List.mem_singleton] at hx
        rw [hx]
  absent before k f after heq hafter := by
    rcases Interleave.split_snoc heq with ⟨-, -, hnote⟩ | ⟨rest, rfl, heq'⟩
    · cases hnote
    · have hne : f ≠ fingerprint := by
        rintro rfl
        exact hafter i id (List.mem_append_right _ (List.mem_singleton_self _))
      intro x hx
      rw [hids] at hx
      rcases List.mem_append.mp hx with hx | hx
      · apply h.absent before k f rest heq' _ x hx
        intro j d hmem
        exact hafter j d (List.mem_append_left _ hmem)
      · rw [List.mem_singleton] at hx
        rw [hx]
        exact hne.symm

/-- The start of the process behind the creation. -/
theorem LaunchesSingle.launched {s : ExecutionStore} {i : Nat} {fingerprint id : String}
    (h : LaunchesSingle s trace)
    (hown : own i trace = [.assessed fingerprint, .created fingerprint id]) :
    LaunchesSingle s (trace ++ [(i, .launched fingerprint id (s.othersOf fingerprint id))]) where
  ordered := by
    have hcreated : (i, RunNote.created fingerprint id) ∈ trace := by
      rw [← mem_own, hown]
      simp
    refine h.ordered.snoc ⟨hcreated, ?_, ?_⟩
    · intro f d o hmem
      rw [← mem_own, hown] at hmem
      simp at hmem
    · unfold ExecutionStore.othersOf
      rw [List.filter_eq_nil_iff]
      intro x hx hother
      simp only [Bool.and_eq_true, decide_eq_true_eq, ne_eq] at hother
      exact hother.2 (h.sole i fingerprint id hcreated x hx hother.1)
  present k f d hmem := by
    rcases List.mem_append.mp hmem with hmem | hmem
    · exact h.present k f d hmem
    · simp at hmem
  sole k f d hmem := by
    rcases List.mem_append.mp hmem with hmem | hmem
    · exact h.sole k f d hmem
    · simp at hmem
  absent before k f after heq hafter := by
    rcases Interleave.split_snoc heq with ⟨-, -, hnote⟩ | ⟨rest, rfl, heq'⟩
    · cases hnote
    · apply h.absent before k f rest heq'
      intro j d hmem
      exact hafter j d (List.mem_append_left _ hmem)

/-! ### The quiet parts of a call -/

theorem quiet_records {β : Type} {tx : ExecutionStore → β × ExecutionStore}
    (h : ∀ s, (tx s).2.identities = s.identities) :
    Quiet runProtocol (transact tx : Proc ExecutionStore RunNote β) := by
  apply quiet_transact
  intro s trace hinv
  exact ⟨fun hquiet => (hinv hquiet).silent (h s), trivial⟩

theorem quiet_setState {a : UpdateArgs} {change : ExecutionChange} {draw : String} :
    Quiet runProtocol (runStore (updateExecution a change draw)).run :=
  quiet_records fun _ => identities_updateExecution rfl

theorem quiet_get {executionId : String} :
    Quiet runProtocol (runStore (get executionId)).run :=
  quiet_records fun s => congrArg ExecutionStore.identities (get_state (s := s) rfl)

theorem quiet_durableExecutionId (executionId : String) :
    Quiet runProtocol (durableExecutionId executionId).run := by
  apply quiet_records
  intro s
  rcases hget : get executionId s with ⟨r, s'⟩
  have hsame := get_state hget
  subst hsame
  cases r with
  | ok record => rfl
  | error e => rfl

theorem quiet_markRecovery (record : DurableExecutionRecord) (code : String)
    (evidenceRef : Option String) (draw : String) :
    Quiet runProtocol (markRecovery record code evidenceRef draw).run := quiet_setState

theorem quiet_afterStart (call : RunCall) (starting : DurableExecutionRecord) :
    Quiet runProtocol (afterStart call starting).run := by
  have recovered : ∀ code, Quiet runProtocol (do
      let _ ← markRecovery starting code none call.draws.recovery
      pure (some code) : RunProc LaunchOutcome).run :=
    fun code => (quiet_markRecovery _ _ _ _).tryBind fun _ => trivial
  unfold afterStart
  split
  · exact recovered _
  · exact recovered _
  · exact recovered _
  · trivial
  · refine quiet_setState.tryBind fun _ => ?_
    exact quiet_setState.tryBind fun _ => trivial

theorem quiet_collectChild (call : RunCall) (executionId : String) (expectedVersion : Int) :
    Quiet runProtocol (collectChild call executionId expectedVersion).run := by
  refine quiet_get.tryBind fun record => ?_
  split
  · trivial
  · split
    · trivial
    · trivial
    · exact (quiet_markRecovery _ _ _ _).tryBind fun _ => trivial
    · split
      · exact (quiet_markRecovery _ _ _ _).tryBind fun _ => trivial
      · refine quiet_setState.tryBind fun _ => ?_
        refine quiet_setState.tryBind fun _ => ?_
        exact quiet_setState.tryBind fun _ => trivial

theorem quiet_recoveryOutcome (executionId code : String) :
    Quiet runProtocol (recoveryOutcome executionId code).run :=
  (quiet_durableExecutionId executionId).tryBind fun _ => trivial

theorem quiet_collectFault (fault : RunFault) : Quiet runProtocol (collectFault fault).run := by
  unfold collectFault
  split
  · trivial
  · trivial
  · trivial

theorem quiet_awaitOutcome (call : RunCall) (executionId : String)
    (kind : SupervisedRunOutcomeKind) :
    Quiet runProtocol (awaitOutcome call executionId kind).run := by
  unfold awaitOutcome
  split
  · exact quiet_recoveryOutcome _ _
  · exact quiet_get.tryBind fun _ => trivial
  · exact quiet_recoveryOutcome _ _
  · refine Quiet.tryBind (Quiet.tryCatch ?_ ?_) ?_
    · refine quiet_get.tryBind fun current => ?_
      exact (quiet_collectChild call executionId current.version).tryBind fun _ => trivial
    · exact fun fault => (quiet_collectFault fault).tryBind fun _ => trivial
    · intro collected
      cases collected with
      | error code => exact quiet_recoveryOutcome _ _
      | ok exitCode => trivial

/-! ### The outline of a call -/

section Outlines

variable {i : Nat}

theorem stable_notes (p : List RunNote → Prop) : Stable runProtocol fun _ own => p own :=
  fun _ _ _ _ h => h

/-- From a lookup in vain on, a launch creates its record and starts its process. -/
theorem outline_launch (call : RunCall) (record : DurableExecutionRecord) :
    Outline runProtocol i (launch call record).run
      (fun _ own => own = [.assessed record.commandFingerprint]) fun _ _ _ => True := by
  unfold launch
  split
  · exact outline_ret fun _ _ _ => trivial
  · exact outline_ret fun _ _ _ => trivial
  · show Outline runProtocol i (transactNoting _ _ >>= ExceptT.bindCont _) _ _
    apply outline_transactNoting
    intro s trace r s' hstep hinv hown
    rcases hout : create record call.createdAt call.draws.created s with ⟨out, s₁⟩
    simp only [hout, Prod.mk.injEq] at hstep
    obtain ⟨rfl, rfl⟩ := hstep
    cases out with
    | error e =>
      have hsame : s₁ = s := create_error hout
      subst hsame
      refine ⟨?_, trivial, fun _ _ => True, stable_notes fun _ => True, trivial,
        outline_ret fun _ _ _ => trivial⟩
      simpa [Except.mapError, creationNote, tagged, runProtocol] using hinv
    | ok created =>
      obtain ⟨rfl, hids, hnew⟩ := identities_create hout
      have hassessed : (i, RunNote.assessed created.commandFingerprint) ∈ trace := by
        rw [← mem_own, hown]
        exact List.mem_singleton_self _
      refine ⟨?_, trivial, fun _ own => own = [.assessed created.commandFingerprint,
        .created created.commandFingerprint created.executionId], stable_notes _, ?_, ?_⟩
      · intro hquiet
        have h := hinv hquiet.of_append
        -- nobody created a record of the fingerprint since the lookup
        obtain ⟨before, after, heq⟩ := List.append_of_mem hassessed
        have hnone := h.absent before i _ after heq (hquiet trace _ [] rfl before after heq)
        exact h.created hnone hnew hids
      · rw [hown]
        rfl
      · refine outline_tryBind (outline_of_quiet (stable_notes _) quiet_setState)
          (fun _ _ _ _ => trivial) ?_
        intro starting
        show Outline runProtocol i (transactNoting _ _ >>= fun _ =>
          (afterStart call starting).run) _ _
        apply outline_transactNoting
        intro s₂ trace₂ others s₃ hstart hinv₂ hown₂
        cases hstart
        refine ⟨fun hquiet => (hinv₂ hquiet.of_append).launched hown₂, trivial, fun _ _ => True,
          stable_notes fun _ => True, trivial, outline_quiet (quiet_afterStart call starting)⟩

theorem outline_launchFresh (call : RunCall) (fingerprint : String) :
    Outline runProtocol i (launchFresh call fingerprint).run
      (fun _ own => own = [.assessed fingerprint]) fun _ _ _ => True := by
  have report : ∀ launched, Quiet runProtocol (reportLaunch call launched).run := by
    intro launched
    match launched with
    | .error code => exact (quiet_durableExecutionId _).tryBind fun _ => trivial
    | .ok (some code) => exact quiet_recoveryOutcome _ _
    | .ok none => exact quiet_awaitOutcome _ _ _
  unfold launchFresh
  split
  · exact outline_ret fun _ _ _ => trivial
  · split
    · exact outline_ret fun _ _ _ => trivial
    · rename_i record hrecord
      have hfingerprint : record.commandFingerprint = fingerprint := by
        rw [DurableExecutionRecord.make_ok hrecord]
        rfl
      split
      · exact outline_ret fun _ _ _ => trivial
      · exact outline_ret fun _ _ _ => trivial
      · have launched := outline_launch (i := i) call record
        rw [hfingerprint] at launched
        refine outline_thenQuiet (outline_catchQuiet ?_ ?_) report
        · exact outline_thenQuiet launched fun _ => trivial
        · intro fault
          cases fault with
          | store fault => trivial
          | supervised code => trivial
          | recursionError => trivial

/-- Only a lookup that found nothing leads to a launch. -/
theorem outline_actOn (host : FingerprintHost) (spec : ExecutionFingerprintSpec) (call : RunCall)
    (found : List DurableExecutionRecord) :
    Outline runProtocol i
      ((ExceptT.mk (pure ((assess host spec found).mapError RunFault.store)) :
        RunProc DuplicateExecutionAssessment) >>= actOn call).run
      (fun _ own => own = (lookupNote (host.digest spec) (.ok found)).toList)
      fun _ _ _ => True := by
  cases hassess : assess host spec found with
  | error fault => exact outline_ret fun _ _ _ => trivial
  | ok assessment =>
    show Outline runProtocol i (actOn call assessment).run _ _
    unfold actOn
    split
    · exact outline_ret fun _ _ _ => trivial
    · exact outline_quiet (quiet_awaitOutcome _ _ _)
    · exact outline_quiet (quiet_awaitOutcome _ _ _)
    · exact outline_ret fun _ _ _ => trivial
    · exact outline_ret fun _ _ _ => trivial
    · rename_i hdecision
      have hnil := assess_safeToLaunch hassess hdecision
      subst hnil
      cases hassess
      exact outline_launchFresh call (host.digest spec)

theorem outline_runWithOutcome (host : FingerprintHost) (call : RunCall) (i : Nat) :
    Outline runProtocol i (runWithOutcome host call) (fun _ own => own = [])
      fun _ _ _ => True := by
  unfold runWithOutcome
  split
  · exact outline_ret fun _ _ _ => trivial
  · rename_i spec hspec
    show Outline runProtocol i (transactNoting _ _ >>= fun found =>
      ((ExceptT.mk (pure ((found >>= assess host spec).mapError RunFault.store)) :
        RunProc DuplicateExecutionAssessment) >>= actOn call).run) _ _
    apply outline_transactNoting
    intro s trace r s' hstep hinv hown
    have hsame := findByFingerprint_state hstep
    subst hsame
    match r, hstep with
    | .error e, hstep =>
      refine ⟨by simpa [lookupNote, tagged] using hinv, trivial, fun _ _ => True,
        stable_notes fun _ => True, trivial, outline_ret fun _ _ _ => trivial⟩
    | .ok [], hstep =>
      refine ⟨fun hquiet => (hinv hquiet.of_append).assessed (findByFingerprint_nil hstep).2,
        trivial, fun _ own => own = [.assessed (host.digest spec)], stable_notes _, ?_,
        outline_actOn host spec call []⟩
      rw [hown]
      rfl
    | .ok (record :: rest), hstep =>
      refine ⟨by simpa [lookupNote, tagged] using hinv, trivial, fun _ own => own = [],
        stable_notes _, by rw [hown]; rfl, outline_actOn host spec call (record :: rest)⟩

end Outlines

/-- Along every run that is not disturbed the invariant holds. -/
theorem launches_single (host : FingerprintHost) (store : ExecutionStore)
    (decisions : List (Schedule RunCall RecordUpdate))
    (hquiet : Undisturbed (run (runSystem host) store decisions).trace) :
    LaunchesSingle (run (runSystem host) store decisions).shared
      (run (runSystem host) store decisions).trace := by
  refine run_invariant (P := runProtocol) (fun _ => trivial) (outline_runWithOutcome host) ?_ ?_
    decisions hquiet
  · intro u s trace hinv
    exact ⟨fun hquiet => (hinv hquiet).silent (identities_updateExecution rfl), trivial⟩
  · intro _
    refine ⟨justified_nil _, ?_, ?_, ?_⟩
    · intro i fingerprint id hmem
      cases hmem
    · intro i fingerprint id hmem
      cases hmem
    · intro before i fingerprint after heq
      simp at heq

theorem launchedFingerprint_eq_some {x : Nat × RunNote} {fingerprint : String}
    (h : launchedFingerprint x = some fingerprint) :
    ∃ i id others, x = (i, .launched fingerprint id others) := by
  unfold launchedFingerprint at h
  split at h
  · rename_i i f id others
    cases h
    exact ⟨i, id, others, rfl⟩
  · cases h

/-- On any store and in any interleaving, crashes included, of `run_with_outcome` calls
    and updates in which no record of a fingerprint is created between a lookup in vain
    and the creation behind it: no fingerprint is launched twice, and none while another
    record of it, in whatever state, is in the store. -/
theorem single_launch_undisturbed (host : FingerprintHost) (store : ExecutionStore)
    (decisions : List (Schedule RunCall RecordUpdate))
    (hquiet : Undisturbed (run (runSystem host) store decisions).trace) :
    SingleLaunch (run (runSystem host) store decisions).trace := by
  have inv := launches_single host store decisions hquiet
  refine ⟨?_, ?_⟩
  · apply pairwise_filterMap
    intro before y after heq x hx a b hxa hyb hab
    obtain ⟨i, id, others, rfl⟩ := launchedFingerprint_eq_some hxa
    obtain ⟨k, id', others', rfl⟩ := launchedFingerprint_eq_some hyb
    obtain ⟨mid, rest, hmid⟩ := List.append_of_mem hx
    obtain ⟨hcreated, -, -⟩ := inv.ordered mid (i, .launched a id others)
      (rest ++ (k, .launched b id' others') :: after) (by rw [heq, hmid]; simp)
    obtain ⟨hcreated', honce, -⟩ := inv.ordered before _ after heq
    subst hab
    -- both records are the only one of the fingerprint, so they are the same creation
    have hi : (i, RunNote.created a id) ∈ (run (runSystem host) store decisions).trace := by
      rw [heq, hmid]
      simp [hcreated]
    have hk : (k, RunNote.created a id') ∈ (run (runSystem host) store decisions).trace := by
      rw [heq]
      simp [hcreated']
    have hid : id = id' := inv.sole k a id' hk _ (inv.present i a id hi) rfl
    subst hid
    have hsame : i = k := by
      rcases inv.ordered.ordered hi hk with h | ⟨pre, hJ, hpre⟩ | ⟨pre, hJ, hpre⟩
      · exact congrArg Prod.fst h
      · exact absurd hpre (hJ i a)
      · exact absurd hpre (hJ k a)
    subst hsame
    exact honce a id others hx
  · intro i fingerprint id others hmem
    obtain ⟨before, after, heq⟩ := List.append_of_mem hmem
    exact (inv.ordered before _ after heq).2.2

/-! ### Two callers -/

/-- A lowercase SHA-256 digest. -/
def oneDigest : String := String.ofList (List.replicate 64 'a')

def oneDigestHost : FingerprintHost := { digest := fun _ => oneDigest, resolve := some }

def repairCall (executionId : String) : RunCall where
  identity :=
    { jobId := "job-1", workOrderRef := "work-order-1", projectId := "project-1"
      workerId := "worker-1", backendId := "backend-1", branch := "main", headBefore := "head"
      runtimeProfileRef := "profile-1", repoRoot := "/repo" }
  policy := { deriveOperationRef := fun _ => "operation-1", commandSummary := fun _ => "repair" }
  argv := ["repair"]
  guardError := none
  worktreeError := none
  worktreeRecheck := none
  executionId := executionId
  authorAttemptId := "author-attempt-v1:0"
  planValueError := none
  plan := .accepted
  createdAt := 0
  start := .started
  poll := .timedOut
  child := .missing
  draws :=
    { created := executionId ++ "/1", starting := executionId ++ "/2"
      recovery := executionId ++ "/3", process := executionId ++ "/4"
      running := executionId ++ "/5", collectProcess := executionId ++ "/6"
      collectResult := executionId ++ "/7", collectState := executionId ++ "/8" }

/-- Two calls, one behind the other. -/
def inTurn : List (Schedule RunCall RecordUpdate) :=
  [.start (repairCall "exec-1"), .start (repairCall "exec-2")] ++
    List.replicate 5 (.advance 0) ++ List.replicate 2 (.advance 1)

/-- The same two calls, both past their lookup before either creates its record. -/
def bothPastLookup : List (Schedule RunCall RecordUpdate) :=
  [.start (repairCall "exec-1"), .start (repairCall "exec-2"), .advance 0, .advance 1] ++
    List.replicate 3 (.advance 0) ++ List.replicate 3 (.advance 1)

theorem inTurn_trace : (run (runSystem oneDigestHost) .empty inTurn).trace =
    [(0, .assessed oneDigest), (0, .created oneDigest "exec-1"),
      (0, .launched oneDigest "exec-1" [])] := by
  decide +kernel

theorem undisturbed_inTurn :
    Undisturbed (run (runSystem oneDigestHost) .empty inTurn).trace := by
  rw [inTurn_trace]
  refine (((justified_nil _).snoc trivial).snoc ?_).snoc trivial
  intro earlier between heq k id hmem
  have hlen := congrArg List.length heq
  simp only [List.length_append, List.length_cons, List.length_nil] at hlen
  have hnil : between = [] := List.eq_nil_of_length_eq_zero (by omega)
  rw [hnil] at hmem
  cases hmem

theorem single_launch_undisturbed_in_turn :
    SingleLaunch (run (runSystem oneDigestHost) .empty inTurn).trace :=
  single_launch_undisturbed oneDigestHost .empty inTurn undisturbed_inTurn

/-- Two calls that are both past their lookup before either creates its record both
    start a process, the second while the execution of the first is starting. -/
theorem both_past_lookup_launch_twice :
    let c := run (runSystem oneDigestHost) .empty bothPastLookup
    ¬ SingleLaunch c.trace ∧
    c.trace.filterMap launchedFingerprint = [oneDigest, oneDigest] ∧
    c.shared.records.map (fun r => (r.executionId, r.commandFingerprint, r.executionState)) =
      [("exec-1", oneDigest, .starting), ("exec-2", oneDigest, .starting)] := by
  have ran : ((run (runSystem oneDigestHost) .empty bothPastLookup).trace.filterMap
        launchedFingerprint,
      (run (runSystem oneDigestHost) .empty bothPastLookup).shared.records.map
        fun r => (r.executionId, r.commandFingerprint, r.executionState)) =
      ([oneDigest, oneDigest],
        [("exec-1", oneDigest, .starting), ("exec-2", oneDigest, .starting)]) := by
    decide +kernel
  obtain ⟨twice, records⟩ := Prod.mk.inj ran
  refine ⟨?_, twice, records⟩
  rintro ⟨honce, -⟩
  rw [twice] at honce
  simp at honce

end AConductor.Execution

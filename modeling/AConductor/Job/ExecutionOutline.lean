import AConductor.Job.Execution
import AConductor.Lib.RelyGuarantee

/-!
# Jobs: the outline of an execution call

`execute` is used on its own and inside the graph dispatcher, under invariants that
say different things. `HostsExecution` lists what an invariant has to grant; the
outline of `execute` is then the same for both.
-/

namespace AConductor.Job

open Interleave Proc

variable {ε : Type}

/-- The writes that `execute` makes behind the invocation. -/
inductive OperationWrite : JobCall → Prop where
  | transition (args : TransitionArgs) (draw : EventIdDraw) :
      OperationWrite (.transition args draw)
  | checkpoint (args : CheckpointArgs) (draw : EventIdDraw) (operationRef : String)
      (h : args.checkpointRef = "operation:" ++ operationRef ++ ":complete") :
      OperationWrite (.checkpoint args draw)

/-- An invariant under which call `i` may run `execute`, its notes embedded by `f`:
    from `A` it may be refused or commit into `EXECUTING`, which gives `B`, and from
    `B` it may invoke the backend; its other writes are silent. -/
structure HostsExecution (P : Protocol JobStore ε) (f : ExecutionNote → ε) (i : Nat)
    (call : ExecuteCall) (A : Assertion JobStore ε) (B : JobRuntimeState → Assertion JobStore ε) :
    Prop where
  refl : ∀ s, P.Grows s s
  logged : ∀ s trace, P.Inv s trace → JobsLogged s
  stable : Stable P A
  stableEntered : ∀ job, Stable P (B job)
  silent : ∀ w, OperationWrite w → ∀ s trace, P.Inv s trace →
    P.Inv (jobStep s w).2 trace ∧ P.Grows s (jobStep s w).2
  refused : ∀ s trace fault, P.Inv s trace → A s (own i trace) →
    P.Inv s (trace ++ [(i, f (.refused fault))])
  entered : ∀ s trace s' a job, P.Inv s trace → A s (own i trace) → a.targetState = .executing →
    a.jobId = call.jobId → a.expectedVersion = call.expectedVersion →
    a.workerId = some call.workerId → Transitioned a s job s' →
    P.Inv s' (trace ++ [(i, f (.entered job))]) ∧ P.Grows s s' ∧
      B job s' (own i trace ++ [f (.entered job)])
  invoked : ∀ s trace job, P.Inv s trace → B job s (own i trace) →
    P.Inv s (trace ++ [(i, f (.invoked call.operationRef (executionContext job call.workerId)))])

/-- The first of the preconditions is the version. -/
theorem version_of_preconditions {job : JobRow} {expectedVersion : Int} {workerId : String}
    {u : Unit} (h : checkPreconditions job expectedVersion workerId = .ok u) :
    job.version = expectedVersion := by
  unfold checkPreconditions at h
  split at h
  · cases h
  · rename_i hversion
    exact not_not.mp hversion

section Outlines

variable {P : Protocol JobStore ε} {f : ExecutionNote → ε} {i : Nat} {call : ExecuteCall}
  {A : Assertion JobStore ε} {B : JobRuntimeState → Assertion JobStore ε}

theorem stable_true : Stable P fun _ _ => True := fun _ _ _ _ h => h

variable {C : Assertion JobStore ε}

theorem outline_operationWrite (h : HostsExecution P f i call A B) {α : Type} {w : JobCall}
    (hw : OperationWrite w) {k : Except JobFault JobRuntimeState → Proc JobStore ε α}
    (hk : ∀ r, Outline P i (k r) (fun _ _ => True) fun _ _ _ => True) :
    Outline P i (transact (fun s => jobStep s w) >>= k) C fun _ _ _ => True := by
  apply outline_transact
  intro s trace r s' hstep hinv _
  obtain ⟨hinv', hg⟩ := h.silent w hw s trace hinv
  rw [hstep] at hinv' hg
  exact ⟨hinv', hg, fun _ _ => True, stable_true, trivial, hk r⟩

theorem outline_recoverAfterBackend (h : HostsExecution P f i call A B)
    (executing : JobRuntimeState) (classification : RecoveryClassification)
    (evidenceRef : Option String) (errorCode : String) (draw : EventIdDraw) :
    Outline P i
      ((recoverAfterBackend executing classification evidenceRef errorCode draw).mapNotes f) C
      fun _ _ _ => True := by
  rw [recoverAfterBackend, mapNotes_bind, mapNotes_transact]
  refine outline_operationWrite h (.transition _ draw) ?_
  intro r
  cases r with
  | error e => exact outline_ret fun _ _ _ => trivial
  | ok job => exact outline_ret fun _ _ _ => trivial

theorem outline_completeAfterBackend (h : HostsExecution P f i call A B)
    (executing : JobRuntimeState) (evidenceRef : String) :
    Outline P i ((completeAfterBackend call executing evidenceRef).mapNotes f) C
      fun _ _ _ => True := by
  rw [completeAfterBackend, mapNotes_bind, mapNotes_transact]
  refine outline_operationWrite h (.checkpoint _ call.checkpointDraw call.operationRef rfl) ?_
  intro r
  cases r with
  | error e => exact outline_ret fun _ _ _ => trivial
  | ok checkpointed =>
    simp only [mapNotes_bind, mapNotes_transact]
    refine outline_operationWrite h (.transition _ call.verifyingDraw) ?_
    intro r
    cases r with
    | error e => exact outline_ret fun _ _ _ => trivial
    | ok verifying => exact outline_ret fun _ _ _ => trivial

theorem outline_afterBackend (h : HostsExecution P f i call A B) (executing : JobRuntimeState)
    (answer : BackendAnswer) :
    Outline P i ((afterBackend call executing answer).mapNotes f) C fun _ _ _ => True := by
  cases answer with
  | raised => exact outline_recoverAfterBackend h _ _ _ _ _
  | invalid => exact outline_recoverAfterBackend h _ _ _ _ _
  | result r =>
    cases r with
    | success evidenceRef => exact outline_completeAfterBackend h _ _
    | failure evidenceRef classification errorCode => exact outline_recoverAfterBackend h _ _ _ _ _

theorem outline_invokeBackend (h : HostsExecution P f i call A B) (executing : JobRuntimeState) :
    Outline P i ((invokeBackend call executing).mapNotes f) (B executing) fun _ _ _ => True := by
  unfold invokeBackend
  split
  · exact outline_afterBackend h _ _
  · rw [mapNotes_bind, mapNotes_emit]
    refine outline_emit h.refl stable_true ?_ (outline_afterBackend h executing call.answer)
    intro s trace hinv hB
    exact ⟨h.invoked s trace executing hinv hB, trivial⟩

theorem outline_enterExecuting (h : HostsExecution P f i call A B) {current : JobRuntimeState}
    (hversion : current.version = call.expectedVersion) :
    Outline P i ((enterExecuting call current).mapNotes f) A fun _ _ _ => True := by
  rw [enterExecuting, mapNotes_bind, mapNotes_transactNoting]
  apply outline_transactNoting
  intro s trace r s' hstep hinv hA
  cases r with
  | error e =>
    have hsame : s' = s := transition_error hstep
    subst hsame
    refine ⟨by simpa [entry, tagged] using hinv, h.refl _, fun _ _ => True, stable_true, trivial,
      outline_ret fun _ _ _ => trivial⟩
  | ok executing =>
    have ht := transition_ok (h.logged s trace hinv).keyed hstep
    obtain ⟨hinv', hg, hB⟩ := h.entered s trace s' _ executing hinv hA rfl rfl hversion rfl ht
    exact ⟨hinv', hg, B executing, h.stableEntered executing, hB, outline_invokeBackend h executing⟩

/-- The read notes nothing but a refusal, which ends the call. -/
theorem outline_execute (h : HostsExecution P f i call A B) :
    Outline P i ((execute call).mapNotes f) A fun _ _ _ => True := by
  unfold execute
  split
  · exact outline_ret fun _ _ _ => trivial
  · rw [mapNotes_bind, mapNotes_transactNoting]
    apply outline_transactNoting
    intro s trace r s' hstep hinv hA
    cases r with
    | error e =>
      have hsame : s' = s := getJob_error hstep
      subst hsame
      refine ⟨by simpa [refusal, tagged] using hinv, h.refl _, fun _ _ => True, stable_true,
        trivial, outline_ret fun _ _ _ => trivial⟩
    | ok current =>
      obtain ⟨rfl, -, -⟩ := getJob_ok hstep
      cases hpre : checkPreconditions current.toJobRow call.expectedVersion call.workerId with
      | error fault =>
        simp only [refusal, hpre]
        exact ⟨h.refused _ _ _ hinv hA, h.refl _, fun _ _ => True, stable_true, trivial,
          outline_ret fun _ _ _ => trivial⟩
      | ok u =>
        simp only [refusal, hpre]
        exact ⟨by simpa [tagged] using hinv, h.refl _, A, h.stable, by simpa using hA,
          outline_enterExecuting h (version_of_preconditions hpre)⟩

end Outlines

end AConductor.Job

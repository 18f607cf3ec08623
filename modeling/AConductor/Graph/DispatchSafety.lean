import AConductor.Graph.DispatchBinding

namespace AConductor.Graph

open Interleave Proc Job List

variable {hash : DispatchHash} {i : Nat}

/-- The notes of a call that has read its job, and of one that is bound. -/
def calledNotes (call : DispatchCall) : List DispatchNote := [.called call.request call.gate]

def boundNotes (call : DispatchCall) : List DispatchNote :=
  [.called call.request call.gate, .bound call.request]

/-- A part that returns a job of the given id leaves the notes as they were; a part
    that raises does not raise the ambiguous outcome. -/
def JobPost (jobId : String) (notes : List DispatchNote) :
    Except DispatchFault JobRuntimeState → Assertion JobStore DispatchNote
  | .ok job => fun _ own => job.jobId = jobId ∧ own = notes
  | .error fault => fun _ _ => fault ≠ ambiguous

/-- A part that ends the call does so without the ambiguous outcome. -/
def Unambiguous {α : Type} : Except DispatchFault α → Assertion JobStore DispatchNote :=
  fun result _ _ => result ≠ .error ambiguous

theorem stable_own (p : List DispatchNote → Prop) :
    Stable (dispatchProtocol hash) fun _ own => p own := fun _ _ _ _ h => h

theorem dispatchResult_ne_ambiguous (action : GraphDispatchAction) (job : JobRuntimeState)
    (reasonCode : String) (execution : Option JobExecutionOutcome) :
    dispatchResult action job reasonCode execution ≠ .error ambiguous := by
  unfold dispatchResult dispatchText ambiguous
  split
  · intro h
    cases h
  · intro h
    cases h

variable {A : Assertion JobStore DispatchNote} {fault : DispatchFault} {job : JobRuntimeState}
  {α : Type} {Q : Except DispatchFault α → Assertion JobStore DispatchNote}

theorem outline_result {result : Except DispatchFault α} (h : result ≠ .error ambiguous) :
    Outline (dispatchProtocol hash) i (ExceptT.mk (pure result) : DispatchProc α).run A
      Unambiguous :=
  outline_ret fun _ _ _ => h

theorem outline_throw (h : ∀ s own, Q (.error fault) s own) :
    Outline (dispatchProtocol hash) i (throw fault : DispatchProc α).run A Q :=
  outline_ret fun s own _ => h s own

variable {tx : JobStore → Except JobFault α × JobStore}

theorem outline_serve
    (h : ∀ s trace r s', tx s = (r, s') → DispatchBound hash s trace → A s (own i trace) →
      DispatchBound hash s' trace ∧ s.Grows s' ∧
      ∃ A', Stable (dispatchProtocol hash) A' ∧ A' s' (own i trace) ∧
        ∀ s own, A' s own → Q (r.mapError .job) s own) :
    Outline (dispatchProtocol hash) i (serve tx).run A Q := by
  show Outline _ i (transact _ >>= ret) A Q
  apply outline_transact
  intro s trace r s' htx hinv hA
  cases htx
  obtain ⟨hinv', hg, A', hstable, hA', hQ⟩ := h s trace _ _ rfl hinv hA
  exact ⟨hinv', hg, A', hstable, hA', outline_ret hQ⟩

variable {request : GraphDispatchRequest}

/-- A store operation that binds the request when it succeeds. -/
theorem outline_serveBinding
    (herror : ∀ s trace e s', tx s = (.error e, s') → DispatchBound hash s trace →
      A s (own i trace) → DispatchBound hash s' trace ∧ s.Grows s' ∧
        ∀ s own, Q (.error (.job e)) s own)
    (hok : ∀ s trace a s', tx s = (.ok a, s') → DispatchBound hash s trace →
      A s (own i trace) → DispatchBound hash s' (trace ++ [(i, .bound request)]) ∧ s.Grows s' ∧
      ∃ A', Stable (dispatchProtocol hash) A' ∧ A' s' (own i trace ++ [.bound request]) ∧
        ∀ s own, A' s own → Q (.ok a) s own) :
    Outline (dispatchProtocol hash) i (serveBinding request tx).run A Q := by
  show Outline _ i (transactNoting _ _ >>= ret) A Q
  apply outline_transactNoting
  intro s trace r s' htx hinv hA
  rcases hout : tx s with ⟨r', s₁⟩
  simp only [hout, Prod.mk.injEq] at htx
  obtain ⟨rfl, rfl⟩ := htx
  cases r' with
  | error e =>
    obtain ⟨hinv', hg, hQ⟩ := herror s trace e s₁ hout hinv hA
    exact ⟨by simpa [Except.mapError, tagged, dispatchProtocol] using hinv', hg, fun _ _ => True,
      stable_own fun _ => True, trivial, outline_ret fun s own _ => hQ s own⟩
  | ok a =>
    obtain ⟨hinv', hg, A', hstable, hA', hQ⟩ := hok s trace a s₁ hout hinv hA
    exact ⟨hinv', hg, A', hstable, hA', outline_ret hQ⟩

theorem job_ne_ambiguous (fault : JobFault) : DispatchFault.job fault ≠ ambiguous := by
  intro h
  cases h

theorem outline_serve_transition (a : TransitionArgs) (draw : EventIdDraw)
    (notes : List DispatchNote) :
    Outline (dispatchProtocol hash) i (serve (transition a draw)).run (fun _ own => own = notes)
      (JobPost a.jobId notes) := by
  apply outline_serve
  intro s trace r s' htx hinv hown
  obtain ⟨hinv', hg⟩ := hinv.write (w := .transition a draw) rfl
  simp only [jobStep, htx] at hinv' hg
  refine ⟨hinv', hg, fun _ own => own = notes, stable_own _, hown, ?_⟩
  intro s₁ own hown'
  cases r with
  | error e => exact job_ne_ambiguous e
  | ok job =>
    obtain ⟨old, -, plan, eventId, hid, -, -, hjob, -⟩ := transition_ok hinv.logged.keyed htx
    exact ⟨by rw [hjob]; exact hid, hown'⟩

/-! ### The binding -/

/-- What a call knows of the job it has read: at least as many events as its version
    are in the log. -/
def Snapshot (hash : DispatchHash) (call : DispatchCall) :
    Except DispatchFault JobRuntimeState → Assertion JobStore DispatchNote
  | .ok job => fun s own => job.jobId = hash.jobId call.request ∧
      (own = calledNotes call ∧ job.version ≤ (s.eventsOf job.jobId).length)
  | .error fault => fun _ _ => fault ≠ ambiguous

theorem stable_snapshot (call : DispatchCall) (job : JobRuntimeState) :
    Stable (dispatchProtocol hash) (Snapshot hash call (.ok job)) := by
  rintro s s' own hg ⟨hid, hown, hversion⟩
  have hlen := (eventsOf_grows hg job.jobId).length_le
  exact ⟨hid, hown, by omega⟩

theorem snapshot_of_mem {s : JobStore} (h : JobsLogged s) (hmem : job.toJobRow ∈ s.records) :
    job.version ≤ (s.eventsOf job.jobId).length :=
  le_of_eq (h.logged _ hmem).version

theorem outline_serve_snapshot (call : DispatchCall) :
    Outline (dispatchProtocol hash) i (serve (getJob (hash.jobId call.request))).run
      (fun _ own => own = calledNotes call) (Snapshot hash call) := by
  apply outline_serve
  intro s trace r s' htx hinv hown
  cases r with
  | error e =>
    have hsame : s' = s := getJob_error htx
    subst hsame
    exact ⟨hinv, JobStore.Grows.refl _, fun _ _ => True, stable_own fun _ => True, trivial,
      fun _ _ _ => job_ne_ambiguous e⟩
  | ok job =>
    obtain ⟨rfl, hmem, hid⟩ := getJob_ok htx
    exact ⟨hinv, JobStore.Grows.refl _, Snapshot hash call (.ok job), stable_snapshot call job,
      ⟨hid, hown, snapshot_of_mem hinv.logged hmem⟩, fun _ _ h => h⟩

/-- A job that was read, or created when there was none, or read after another call
    created it. -/
theorem outline_createOrRead (call : DispatchCall) (read : Except JobFault JobRuntimeState) :
    Outline (dispatchProtocol hash) i (createOrRead hash call read).run
      (fun s own => own = calledNotes call ∧ ∀ job, read = .ok job →
        Snapshot hash call (.ok job) s own) (Snapshot hash call) := by
  unfold createOrRead
  split
  · rename_i job
    exact outline_ret fun s own h => h.2 job rfl
  · show Outline _ i (transact _ >>= _) _ _
    apply outline_transact
    intro s trace r s' htx hinv hown
    set w : JobCall := .createJob (hash.jobId call.request) call.request.workOrderRef
      call.request.projectId call.request.maxAttempts call.createDraw
    have hstep : jobStep s w = (r, s') := htx
    obtain ⟨hinv', hg⟩ := hinv.write (w := w) rfl
    rw [hstep] at hinv' hg
    cases r with
    | ok job =>
      obtain ⟨hnew, -, eventId, hs'⟩ := createJob_ok htx
      have hid : job.jobId = hash.jobId call.request := by rw [make_ok hnew]
      have hmem : job.toJobRow ∈ s'.records := by
        rw [hs']
        exact mem_append_right _ (mem_singleton_self _)
      exact ⟨hinv', hg, Snapshot hash call (.ok job), stable_snapshot call job,
        ⟨hid, hown.1, snapshot_of_mem hinv'.logged hmem⟩, outline_ret fun _ _ h => h⟩
    | error e =>
      refine ⟨hinv', hg, fun _ own => own = calledNotes call, stable_own _, hown.1, ?_⟩
      split
      · rename_i heq
        cases heq
      · exact outline_serve_snapshot call
      · exact outline_ret fun _ _ _ => job_ne_ambiguous _
  · exact outline_throw fun _ _ => job_ne_ambiguous _

/-- What a call knows after a listing without metadata. -/
def Unbound (call : DispatchCall) (job : JobRuntimeState) : Assertion JobStore DispatchNote :=
  fun s own => own = calledNotes call ∧
    ∃ listed, listed <+: s.eventsOf job.jobId ∧ job.version ≤ listed.length ∧
      metadataRefs listed = []

theorem stable_unbound (call : DispatchCall) (job : JobRuntimeState) :
    Stable (dispatchProtocol hash) (Unbound call job) := by
  rintro s s' own hg ⟨hown, listed, hshown, hlen, hnone⟩
  exact ⟨hown, listed, hshown.trans (eventsOf_grows hg job.jobId), hlen, hnone⟩

/-- What a call knows after a listing with its own metadata. -/
def AlreadyBound (hash : DispatchHash) (call : DispatchCall) (jobId : String) :
    Assertion JobStore DispatchNote :=
  fun s own => own = calledNotes call ∧
    [hash.metadataRef call.request] <+: metadataRefs (s.eventsOf jobId)

theorem stable_alreadyBound (call : DispatchCall) (jobId : String) :
    Stable (dispatchProtocol hash) (AlreadyBound hash call jobId) := by
  rintro s s' own hg ⟨hown, hshown⟩
  exact ⟨hown, hshown.trans (metadataRefs_grows hg jobId)⟩

theorem metadataRef_startsWith (hash : DispatchHash) (request : GraphDispatchRequest) :
    Text.startsWith (hash.metadataRef request) dispatchMetaPrefix = true :=
  Text.startsWith_append _ _

theorem called_mem {call : DispatchCall} {trace : List (Nat × DispatchNote)}
    (h : own i trace = calledNotes call) : (i, .called call.request call.gate) ∈ trace := by
  rw [← mem_own, h]
  exact mem_singleton_self _

theorem outline_bindMetadata (call : DispatchCall) (hid : job.jobId = hash.jobId call.request) :
    Outline (dispatchProtocol hash) i (serveBinding call.request (checkpoint {
        jobId := job.jobId, checkpointRef := hash.metadataRef call.request
        expectedVersion := job.version } call.metadataDraw)).run
      (Unbound call job) (JobPost (hash.jobId call.request) (boundNotes call)) := by
  apply outline_serveBinding
  · intro s trace e s' htx hinv _
    have hsame : s' = s := checkpoint_error htx
    subst hsame
    exact ⟨hinv, JobStore.Grows.refl _, fun _ _ => job_ne_ambiguous e⟩
  · rintro s trace new s' htx hinv ⟨hown, listed, hshown, hlen, hnone⟩
    obtain ⟨hinv', hg, hnewId, hmeta⟩ := hinv.checkpointed
      (checkpoint_ok hinv.logged.keyed htx) hshown hlen hnone (metadataRef_startsWith hash _)
    refine ⟨hinv'.noteBound (called_mem hown) (by rw [← hid]; exact hmeta), hg,
      fun _ own => own = boundNotes call, stable_own _, by rw [hown]; rfl, ?_⟩
    intro _ _ hown'
    exact ⟨hnewId.trans hid, hown'⟩

theorem outline_confirmMetadata (call : DispatchCall) (hid : job.jobId = hash.jobId call.request) :
    Outline (dispatchProtocol hash) i (serveBinding call.request (getJob job.jobId)).run
      (AlreadyBound hash call job.jobId)
      (JobPost (hash.jobId call.request) (boundNotes call)) := by
  apply outline_serveBinding
  · intro s trace e s' htx hinv _
    have hsame : s' = s := getJob_error htx
    subst hsame
    exact ⟨hinv, JobStore.Grows.refl _, fun _ _ => job_ne_ambiguous e⟩
  · rintro s trace new s' htx hinv ⟨hown, hshown⟩
    obtain ⟨rfl, -, hnewId⟩ := getJob_ok htx
    have hmeta : metadataRefs (s'.eventsOf (hash.jobId call.request)) =
        [hash.metadataRef call.request] := by
      rw [← hid]
      exact (hshown.eq_of_length_le (hinv.single job.jobId)).symm
    refine ⟨hinv.noteBound (called_mem hown) hmeta, JobStore.Grows.refl _,
      fun _ own => own = boundNotes call, stable_own _, by rw [hown]; rfl, ?_⟩
    intro _ _ hown'
    exact ⟨hnewId.trans hid, hown'⟩

/-- The listing decides between the two ways to a binding; the third, two bindings in
    one log, does not arise. -/
theorem outline_ensureMetadata (call : DispatchCall) (hid : job.jobId = hash.jobId call.request) :
    Outline (dispatchProtocol hash) i (ensureMetadata hash call job).run
      (fun s own => own = calledNotes call ∧ job.version ≤ (s.eventsOf job.jobId).length)
      (JobPost (hash.jobId call.request) (boundNotes call)) := by
  show Outline _ i (transact _ >>= _) _ _
  apply outline_transact
  rintro s trace r s' htx hinv ⟨hown, hversion⟩
  rcases hout : listEvents job.jobId s with ⟨r', s₁⟩
  simp only [hout, Prod.mk.injEq] at htx
  obtain ⟨rfl, rfl⟩ := htx
  cases r' with
  | error e =>
    have hsame : s₁ = s := listEvents_error hout
    subst hsame
    exact ⟨hinv, JobStore.Grows.refl _, fun _ _ => True, stable_own fun _ => True, trivial,
      outline_ret fun _ _ _ => job_ne_ambiguous e⟩
  | ok events =>
    obtain ⟨rfl, rfl⟩ := listEvents_ok hout
    have hperm := metadataRefs_bySequence (s₁.eventsOf job.jobId)
    cases hrefs : metadataRefs (bySequence (s₁.eventsOf job.jobId)) with
    | nil =>
      rw [hrefs] at hperm
      have hnone : metadataRefs (s₁.eventsOf job.jobId) = [] := hperm.symm.eq_nil
      refine ⟨hinv, JobStore.Grows.refl _, Unbound call job, stable_unbound call job,
        ⟨hown, s₁.eventsOf job.jobId, prefix_refl _, hversion, hnone⟩, ?_⟩
      simp only [Except.mapError, ExceptT.bindCont, hrefs]
      by_cases hnew : job.state = .new
      · rw [if_neg (by simpa using hnew)]
        exact outline_bindMetadata call hid
      · rw [if_pos hnew]
        exact outline_throw fun _ _ => by simp [JobPost, ambiguous]
    | cons ref rest =>
      have hlen := hinv.single job.jobId
      rw [← hperm.length_eq, hrefs] at hlen
      have hrest : rest = [] := by
        cases rest with
        | nil => rfl
        | cons x xs => simp at hlen
      subst hrest
      rw [hrefs] at hperm
      have hone : metadataRefs (s₁.eventsOf job.jobId) = [ref] := perm_singleton.mp hperm.symm
      by_cases href : ref = hash.metadataRef call.request
      · refine ⟨hinv, JobStore.Grows.refl _, AlreadyBound hash call job.jobId,
          stable_alreadyBound call job.jobId, ⟨hown, by rw [hone, href]⟩, ?_⟩
        simp only [Except.mapError, ExceptT.bindCont, hrefs]
        rw [if_neg (by simpa using href)]
        exact outline_confirmMetadata call hid
      · refine ⟨hinv, JobStore.Grows.refl _, fun _ _ => True, stable_own fun _ => True, trivial, ?_⟩
        simp only [Except.mapError, ExceptT.bindCont, hrefs]
        rw [if_pos href]
        exact outline_throw fun _ _ => by simp [JobPost, ambiguous]

theorem checkIdentity_error
    (h : checkIdentity request job = .error fault) :
    fault = .dispatchError "DISPATCH_JOB_IDENTITY_MISMATCH" := by
  unfold checkIdentity at h
  split at h
  · cases h
    rfl
  · cases h

theorem outline_loadOrCreate (call : DispatchCall) :
    Outline (dispatchProtocol hash) i (loadOrCreate hash call).run (fun _ own => own = [])
      (JobPost (hash.jobId call.request) (boundNotes call)) := by
  show Outline _ i (transactNoting _ _ >>= _) _ _
  apply outline_transactNoting
  intro s trace r s' htx hinv hown
  have hs : s' = s := by
    cases r with
    | error e => exact getJob_error htx
    | ok job => exact (getJob_ok htx).1
  subst hs
  have horder : DispatchOrder hash trace (i, .called call.request call.gate) := by
    intro note hmem
    rw [← mem_own, hown] at hmem
    cases hmem
  have hnoted := hinv.note horder (by intro request h; cases h) (by intro job h; cases h)
  refine ⟨hnoted, JobStore.Grows.refl _, fun s own => own = calledNotes call ∧
    ∀ job, r = .ok job → Snapshot hash call (.ok job) s own, ?_, ?_, ?_⟩
  · rintro s₁ s₂ own hg ⟨hown', hsnap⟩
    exact ⟨hown', fun job hr => stable_snapshot call job s₁ s₂ own hg (hsnap job hr)⟩
  · refine ⟨by rw [hown]; rfl, ?_⟩
    intro job hr
    subst hr
    obtain ⟨-, hmem, hid⟩ := getJob_ok htx
    exact ⟨hid, by rw [hown]; rfl, snapshot_of_mem hinv.logged hmem⟩
  · refine outline_tryBind (outline_createOrRead call r) (fun _ _ _ h => h) ?_
    intro job
    apply outline_of_fact
    intro hid
    refine outline_tryBind (Q := fun r s own => match r with
      | .ok _ => own = calledNotes call ∧ job.version ≤ (s.eventsOf job.jobId).length
      | .error fault => fault ≠ ambiguous) ?_ (fun _ _ _ h => h) ?_
    · refine outline_ret fun s own h => ?_
      cases hcheck : checkIdentity call.request job with
      | error fault =>
        rw [checkIdentity_error hcheck]
        simp [ambiguous]
      | ok _ => exact h
    · intro _
      exact outline_ensureMetadata call hid

/-! ### From the binding to the backend -/

/-- A bound call that is allowed and in push mode may run `execute`. -/
theorem dispatchProtocol_hosts (call : DispatchCall) (hid : job.jobId = hash.jobId call.request)
    (hallowed : call.gate.allowed = true) (hpush : call.request.dispatchMode = .programmaticPush) :
    HostsExecution (dispatchProtocol hash) DispatchNote.execution i (executeCall call job)
      (fun _ own => own = boundNotes call)
      (fun executing _ own => own = boundNotes call ++ [.execution (.entered executing)] ∧
        executing.jobId = job.jobId ∧ executing.workerId = some call.request.workerId) where
  refl := JobStore.Grows.refl
  logged _ _ hinv := hinv.logged
  stable _ _ _ _ h := h
  stableEntered _ _ _ _ _ h := h
  silent w hw s trace hinv := hinv.write (operationWrite_bindsMetadata hw)
  refused s trace fault hinv _ :=
    hinv.note (show DispatchOrder hash trace (i, .execution (.refused fault)) from trivial)
      (by intro request h; cases h) (by intro job h; cases h)
  entered s trace s' a executing hinv hown htarget hjob _ hworker ht := by
    obtain ⟨hinv', hg⟩ := hinv.entered i ht htarget hworker
    obtain ⟨-, heid, heworker⟩ := passedGating_of_transitioned hinv.logged ht htarget hworker
    refine ⟨hinv', hg, ?_, ?_, heworker⟩
    · rw [hown]
    · exact heid.trans hjob
  invoked s trace executing hinv hB := by
    obtain ⟨hown, heid, heworker⟩ := hB
    have mem : ∀ note ∈ boundNotes call ++ [.execution (.entered executing)],
        (i, note) ∈ trace := by
      intro note hnote
      rw [← mem_own, hown]
      exact hnote
    refine hinv.note ?_ (by intro request h; cases h)
      (by intro job h; cases h)
    exact ⟨call.request, call.gate, executing, mem _ (by simp [boundNotes]),
      mem _ (by simp [boundNotes]), mem _ (by simp), hallowed, hpush, rfl, rfl,
      heid.trans hid, rfl, heworker⟩

theorem executionResult_ne_ambiguous (outcome : JobExecutionOutcome) :
    executionResult outcome ≠ .error ambiguous := by
  unfold executionResult
  split
  · exact dispatchResult_ne_ambiguous _ _ _ _
  · exact dispatchResult_ne_ambiguous _ _ _ _

theorem outline_pushed (call : DispatchCall) (hid : job.jobId = hash.jobId call.request)
    (hallowed : call.gate.allowed = true) (hpush : call.request.dispatchMode = .programmaticPush) :
    Outline (dispatchProtocol hash) i (pushed call job).run (fun _ own => own = boundNotes call)
      Unambiguous := by
  refine outline_bind (outline_execute (dispatchProtocol_hosts call hid hallowed hpush)) ?_
  intro r
  cases r with
  | error fault =>
    refine outline_ret fun _ _ _ => ?_
    intro h
    cases fault with
    | job f => cases h
    | coordinatorError code recoveryRequired => cases h
  | ok outcome => exact outline_ret fun _ _ _ => executionResult_ne_ambiguous outcome

theorem outline_gated (call : DispatchCall) (job : JobRuntimeState) :
    Outline (dispatchProtocol hash) i (gated call job).run (fun _ own => own = boundNotes call)
      (JobPost job.jobId (boundNotes call)) := by
  unfold gated
  split
  · exact outline_serve_transition _ _ _
  · exact outline_ret fun _ _ h => ⟨rfl, h⟩

theorem outline_readied (call : DispatchCall) (job : JobRuntimeState) :
    Outline (dispatchProtocol hash) i (readied call job).run (fun _ own => own = boundNotes call)
      (JobPost job.jobId (boundNotes call)) := by
  unfold readied
  split
  · exact outline_serve_transition _ _ _
  · exact outline_ret fun _ _ h => ⟨rfl, h⟩

theorem outline_claimed (call : DispatchCall) (job : JobRuntimeState) :
    Outline (dispatchProtocol hash) i (claimed call job).run (fun _ own => own = boundNotes call)
      (JobPost job.jobId (boundNotes call)) := by
  unfold claimed
  split
  · exact outline_serve_transition _ _ _
  · exact outline_ret fun _ _ h => ⟨rfl, h⟩

/-- A part that raises anything but the ambiguous outcome ends the call with it. -/
theorem unambiguous_of_jobPost {jobId : String} {notes : List DispatchNote} (s : JobStore)
    (own : List DispatchNote) (h : JobPost jobId notes (.error fault) s own) :
    (Unambiguous (.error fault : Except DispatchFault GraphDispatchResult)) s own := by
  intro heq
  exact h (Except.error.inj heq)

theorem outline_offer (call : DispatchCall) (hid : job.jobId = hash.jobId call.request) :
    Outline (dispatchProtocol hash) i (offer call job).run (fun _ own => own = boundNotes call)
      Unambiguous := by
  unfold offer
  split
  · exact outline_throw fun _ _ => by simp [Unambiguous, ambiguous]
  split
  · exact outline_result (dispatchResult_ne_ambiguous _ _ _ _)
  split
  · refine outline_tryBind (outline_serve_transition _ _ (boundNotes call))
      (fun _ => unambiguous_of_jobPost) ?_
    intro blocked
    exact outline_result (dispatchResult_ne_ambiguous _ _ _ _)
  · rename_i hallowed
    split
    · exact outline_result (dispatchResult_ne_ambiguous _ _ _ _)
    · rename_i hpush
      refine outline_tryBind (outline_gated call job) (fun _ => unambiguous_of_jobPost) ?_
      intro gatedJob
      apply outline_of_fact
      intro hgated
      exact outline_pushed call (hgated.trans hid) (by simpa using hallowed) hpush

theorem outline_dispatchBody (call : DispatchCall) :
    Outline (dispatchProtocol hash) i (dispatchBody hash call).run (fun _ own => own = [])
      Unambiguous := by
  refine outline_tryBind (outline_loadOrCreate call) (fun _ => unambiguous_of_jobPost) ?_
  intro job
  apply outline_of_fact
  intro hid
  split
  · exact outline_result (dispatchResult_ne_ambiguous _ _ _ _)
  split
  · exact outline_result (dispatchResult_ne_ambiguous _ _ _ _)
  split
  · exact outline_result (dispatchResult_ne_ambiguous _ _ _ _)
  · refine outline_tryBind (outline_readied call job) (fun _ => unambiguous_of_jobPost) ?_
    intro readyJob
    apply outline_of_fact
    intro hready
    refine outline_tryBind (outline_claimed call readyJob) (fun _ => unambiguous_of_jobPost) ?_
    intro claimedJob
    apply outline_of_fact
    intro hclaimed
    exact outline_offer call (hclaimed.trans (hready.trans hid))

/-- The clauses of the `try` statement only read. -/
theorem outline_reconcile (call : DispatchCall) (reasonCode : String) :
    Outline (dispatchProtocol hash) i (reconcile hash call reasonCode).run A Unambiguous := by
  refine outline_tryBind (Q := fun r _ _ => r ≠ .error ambiguous) ?_ ?_ ?_
  · apply outline_serve
    intro s trace r s' htx hinv _
    have hs : s' = s := by
      cases r with
      | error e => exact getJob_error htx
      | ok job => exact (getJob_ok htx).1
    subst hs
    refine ⟨hinv, JobStore.Grows.refl _, fun _ _ => True, stable_own fun _ => True, trivial, ?_⟩
    intro _ _ _
    cases r with
    | error e => exact fun h => job_ne_ambiguous e (Except.error.inj h)
    | ok job => exact fun h => by cases h
  · intro e _ _ h heq
    exact h (by rw [Except.error.inj heq])
  · intro latest
    exact outline_result (dispatchResult_ne_ambiguous _ _ _ _)

theorem outline_recoverDispatch (call : DispatchCall) (hfault : fault ≠ ambiguous) :
    Outline (dispatchProtocol hash) i (recoverDispatch hash call fault).run A Unambiguous := by
  have rethrow : Outline (dispatchProtocol hash) i
      (throw fault : DispatchProc GraphDispatchResult).run A Unambiguous :=
    outline_throw fun _ _ h => hfault (Except.error.inj h)
  unfold recoverDispatch
  split
  · split
    · exact outline_reconcile call _
    · exact rethrow
  · exact outline_reconcile call _
  · split
    · exact outline_reconcile call _
    · exact rethrow
  · exact rethrow

theorem checkMode_ne_ambiguous (call : DispatchCall) : checkMode call ≠ .error ambiguous := by
  unfold checkMode ambiguous
  split
  · intro h; cases h
  · intro h; simp at h
  · intro h; simp at h
  · split
    · intro h; simp at h
    · intro h; cases h

theorem outline_tryDispatch (call : DispatchCall) :
    Outline (dispatchProtocol hash) i (tryDispatch hash call) (fun _ own => own = [])
      Unambiguous := by
  unfold tryDispatch
  cases hmode : checkMode call with
  | error fault =>
    refine outline_ret fun _ _ _ h => ?_
    exact checkMode_ne_ambiguous call (by rw [hmode, Except.error.inj h])
  | ok u =>
    refine outline_bind (outline_dispatchBody call) ?_
    intro r
    cases r with
    | ok result => exact outline_ret fun _ _ h => h
    | error fault =>
      refine (outline_of_fact (φ := fault ≠ ambiguous) (A := fun _ _ => True) fun hfault =>
        outline_recoverDispatch call hfault).strengthen ?_
      intro s own h
      exact ⟨fun heq => h (by rw [heq]), trivial⟩

theorem outline_dispatch (call : DispatchCall) (i : Nat) :
    Outline (dispatchProtocol hash) i (dispatch hash call) (fun _ own => own = [])
      fun _ _ _ => True := by
  refine outline_bind (outline_tryDispatch call) ?_
  intro result
  refine (outline_of_fact (φ := result ≠ .error ambiguous) (A := fun _ _ => True)
    fun hresult => ?_).strengthen fun _ _ h => ⟨h, trivial⟩
  refine outline_emit JobStore.Grows.refl (stable_own fun _ => True) ?_
    (outline_ret fun _ _ _ => trivial)
  intro s trace hinv _
  exact ⟨hinv.note hresult (by intro request h; cases h) (by intro job h; cases h), trivial⟩

/-- The invariant holds after every list of scheduling decisions. -/
theorem dispatch_bound (hash : DispatchHash) (decisions : List (Schedule DispatchCall JobCall)) :
    DispatchBound hash (run (dispatchSystem hash) JobStore.empty decisions).shared
      (run (dispatchSystem hash) JobStore.empty decisions).trace := by
  refine run_invariant (P := dispatchProtocol hash) JobStore.Grows.refl outline_dispatch ?_ ?_
    decisions
  · intro w s trace hinv
    by_cases hw : bindsMetadata w = true
    · simp only [dispatchSystem, hw, if_true]
      exact ⟨hinv, JobStore.Grows.refl s⟩
    · simp only [dispatchSystem, hw]
      exact hinv.write (by simpa using hw)
  · refine ⟨jobsLogged_empty, fun _ => Nat.zero_le _, ?_, justified_nil _, ?_⟩
    · intro i request hmem
      cases hmem
    · intro i job hmem
      cases hmem

/-- Over every interleaving of dispatches with each other and with writers that make
    no dispatch metadata: no log holds two metadata checkpoints and no call returns the
    ambiguous outcome; all calls that got past the binding of a job found the binding
    that its log still shows, so their worker and operation are the same (the digest
    telling the two payloads apart); and the backend is invoked only in a call that was allowed
    and in push mode, for its own worker and operation, after the job had passed
    `GATING` under that worker. -/
theorem dispatch_binding_permanent (hash : DispatchHash)
    (decisions : List (Schedule DispatchCall JobCall)) :
    let c := run (dispatchSystem hash) JobStore.empty decisions
    (∀ jobId, (metadataRefs (c.shared.eventsOf jobId)).length ≤ 1) ∧
    (∀ i, (i, .returned (.error ambiguous)) ∉ c.trace) ∧
    (∀ i request, (i, .bound request) ∈ c.trace →
      metadataRefs (c.shared.eventsOf (hash.jobId request)) = [hash.metadataRef request]) ∧
    (∀ i k first later, (i, .bound first) ∈ c.trace → (k, .bound later) ∈ c.trace →
      hash.jobId first = hash.jobId later →
      (hash.metadata first = hash.metadata later → first = later) →
      first.workerId = later.workerId ∧ first.operationRef = later.operationRef) ∧
    (∀ before i op ctx after, c.trace = before ++ (i, .execution (.invoked op ctx)) :: after →
      ∃ request gate, (i, .called request gate) ∈ before ∧
        (∀ other gate', (i, .called other gate') ∈ c.trace → other = request ∧ gate' = gate) ∧
        (i, .bound request) ∈ before ∧
        gate.allowed = true ∧ request.dispatchMode = .programmaticPush ∧
        op = request.operationRef ∧ ctx.workerId = request.workerId ∧
        ctx.jobId = hash.jobId request ∧
        ∃ g ∈ c.shared.eventsOf ctx.jobId, g.toState = some .gating ∧
          g.workerId = some ctx.workerId ∧
          ∃ e ∈ c.shared.eventsOf ctx.jobId, e.fromState = some .gating ∧
            e.toState = some .executing ∧ e.workerId = some ctx.workerId ∧
            g.sequenceNo < e.sequenceNo) := by
  intro c
  have inv : DispatchBound hash c.shared c.trace := dispatch_bound hash decisions
  refine ⟨inv.single, ?_, inv.bound, ?_, ?_⟩
  · intro i hmem
    obtain ⟨before, after, heq⟩ := append_of_mem hmem
    exact inv.ordered before _ after heq rfl
  · intro i k first later hfirst hlater hid htold
    have hf := inv.bound i first hfirst
    have hl := inv.bound k later hlater
    rw [hid, hl] at hf
    have href : hash.metadataRef later = hash.metadataRef first := (List.cons.inj hf).1
    have hpayload : hash.metadata later = hash.metadata first := by
      simpa [DispatchHash.metadataRef, String.append_right_inj] using href
    have hsame := htold hpayload.symm
    subst hsame
    exact ⟨rfl, rfl⟩
  · intro before i op ctx after heq
    obtain ⟨request, gate, job, hcalled, hbound, hentered, hallowed, hpush, hop, hworker, hid,
      hjob, hjobWorker⟩ := inv.ordered before _ after heq
    refine ⟨request, gate, hcalled, ?_, hbound, hallowed, hpush, hop, hworker, hid, ?_⟩
    · intro other gate' hother
      have hmem : (i, DispatchNote.called request gate) ∈ c.trace := by
        rw [heq]
        exact mem_append_left _ hcalled
      rcases inv.ordered.ordered hmem hother with hsame | ⟨pre, hJ, hpre⟩ | ⟨pre, hJ, hpre⟩
      · cases hsame
        exact ⟨rfl, rfl⟩
      · exact absurd hpre (hJ _)
      · exact absurd hpre (hJ _)
    · obtain ⟨g, hg, hgid, hgto, hgworker, e, he, heid, hefrom, heto, heworker, -, hlt⟩ :=
        inv.passed i job (by rw [heq]; exact mem_append_left _ hentered)
      refine ⟨g, ?_, hgto, by rw [hgworker, hjobWorker], e, ?_, hefrom, heto,
        by rw [heworker, hjobWorker], hlt⟩
      · simp [JobStore.eventsOf, hg, hgid, hjob]
      · simp [JobStore.eventsOf, he, heid, hjob]

end AConductor.Graph

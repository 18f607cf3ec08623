import AConductor.Job.ExecutionOutline
import AConductor.Lib.Trace

namespace AConductor.Job

open Interleave Proc

/-- `execute` calls, with all other writers as their surroundings. -/
def executionSystem :
    System ExecuteCall JobCall JobStore ExecutionNote (Except ExecutionFault JobExecutionOutcome) where
  prog := execute
  env call s := (jobStep s call).2

/-- The commit of a call: the record that it moved to had the version and the worker that the
    call names. -/
structure EnteredFor (call : ExecuteCall) (job : JobRuntimeState) : Prop where
  jobId : job.jobId = call.jobId
  version : job.version = call.expectedVersion + 1
  worker : job.workerId = some call.workerId

/-- What stands before each note of one of the calls. The attempts of a job only rise; an
    invocation follows the commit of the same call, once; a refused call has not invoked. -/
def AttemptOrder (calls : List ExecuteCall) (before : List (Nat × ExecutionNote)) :
    Nat × ExecutionNote → Prop
  | (i, .entered job) =>
    job.state = .executing ∧ 1 ≤ job.attemptCount ∧ job.attemptCount ≤ job.maxAttempts ∧
    (∀ k earlier, (k, .entered earlier) ∈ before → earlier.jobId = job.jobId →
      earlier.attemptCount < job.attemptCount) ∧
    ∃ call, calls[i]? = some call ∧ EnteredFor call job
  | (i, .invoked operationRef context) =>
    (∃ job, (i, .entered job) ∈ before ∧ job.jobId = context.jobId ∧
      job.attemptCount = context.attemptNo ∧ job.maxAttempts = context.maxAttempts) ∧
    (∀ op ctx, (i, .invoked op ctx) ∉ before) ∧ (∀ fault, (i, .refused fault) ∉ before) ∧
    ∃ call, calls[i]? = some call ∧ operationRef = call.operationRef ∧
      context.workerId = call.workerId
  | (i, .refused _) => ∀ op ctx, (i, .invoked op ctx) ∉ before

/-- The store has the record of a commit into `EXECUTING`, and its event, which takes the job
    from `GATING` on. -/
def Recorded (s : JobStore) (job : JobRuntimeState) : Prop :=
  (∃ r ∈ s.records, r.jobId = job.jobId ∧ r.maxAttempts = job.maxAttempts ∧
    job.attemptCount ≤ r.attemptCount) ∧
  ∃ e ∈ s.events, e.jobId = job.jobId ∧ e.sequenceNo = job.version ∧ e.intoExecuting = true ∧
    e.fromState = some .gating ∧ e.workerId = job.workerId

structure AttemptsFenced (calls : List ExecuteCall) (s : JobStore)
    (trace : List (Nat × ExecutionNote)) : Prop where
  logged : JobsLogged s
  ordered : Justified (AttemptOrder calls) trace
  recorded : ∀ i job, (i, .entered job) ∈ trace → Recorded s job

def executionProtocol (calls : List ExecuteCall) : Protocol JobStore ExecutionNote where
  Inv := AttemptsFenced calls
  Grows := JobStore.Grows

variable {calls : List ExecuteCall} {s s' : JobStore} {trace : List (Nat × ExecutionNote)}

theorem Recorded.grows {job : JobRuntimeState} (h : Recorded s job) (hg : s.Grows s') :
    Recorded s' job := by
  obtain ⟨⟨r, hr, hid, hmax, hle⟩, e, he, hevent⟩ := h
  obtain ⟨r', hr', hid', hmax', -, hle'⟩ := hg.records r hr
  refine ⟨⟨r', hr', hid'.trans hid, hmax'.trans hmax, le_trans hle hle'⟩, e, ?_, hevent⟩
  exact hg.events.subset he

/-- A write that leaves no note keeps the invariant. -/
theorem AttemptsFenced.silent (h : AttemptsFenced calls s trace) (hlogged : JobsLogged s')
    (hg : s.Grows s') : AttemptsFenced calls s' trace :=
  ⟨hlogged, h.ordered, fun i job hmem => (h.recorded i job hmem).grows hg⟩

variable {call : ExecuteCall} {i : Nat}

/-- The commit into `EXECUTING` takes the next attempt number. -/
theorem AttemptsFenced.entered (h : AttemptsFenced calls s trace)
    (hcall : calls[i]? = some call) {a : TransitionArgs} {job : JobRuntimeState}
    (ht : Transitioned a s job s') (htarget : a.targetState = .executing)
    (hjobId : a.jobId = call.jobId) (hversion : a.expectedVersion = call.expectedVersion)
    (hworker : a.workerId = some call.workerId) :
    AttemptsFenced calls s' (trace ++ [(i, .entered job)]) := by
  have hw : JobWrite s job s' := .transitioned ht
  have hlogged := hw.jobsLogged h.logged
  have hg := hw.grows h.logged.keyed
  obtain ⟨old, hold, plan, eventId, hid, hexpected, hplan, hjob, rfl⟩ := ht
  obtain ⟨hstate, hattempts, hbudget⟩ := planJobTransition_ok hplan
  rw [htarget] at hstate hattempts hbudget
  rw [htarget, hworker] at hplan
  obtain ⟨hgating, -, hclaimed⟩ := planJobTransition_executing hplan
  have hlog := h.logged.logged old hold
  have hnew : old.transitioned plan ∈ (s.replaced (old.transitioned plan)
      ((transitionEntry old plan a.evidenceRef).event eventId (s.nextSequence a.jobId))).records := by
    rw [mem_records_replaced hold (show (old.transitioned plan).jobId = old.jobId from rfl)]
    exact .inl rfl
  have hcount : job.attemptCount = old.attemptCount + 1 := by
    rw [hjob]
    simpa [JobRow.transitioned] using hattempts
  refine ⟨hlogged, h.ordered.snoc ?_, ?_⟩
  · refine ⟨by rw [hjob]; exact hstate, ?_, ?_, ?_, call, hcall, ?_⟩
    · have hnonneg := hlog.attempts
      omega
    · have hlt := hbudget rfl
      have hmax : job.maxAttempts = old.maxAttempts := by rw [hjob]; rfl
      omega
    · intro k earlier hmem hearlier
      obtain ⟨⟨r, hr, hrid, -, hle⟩, -⟩ := h.recorded k earlier hmem
      have hsame : job.jobId = old.jobId := by rw [hjob]; rfl
      have : r = old := h.logged.keyed.eq_of_jobId hr hold (by rw [hrid, hearlier, hsame])
      subst this
      omega
    · constructor
      · rw [hjob]
        exact hid.trans hjobId
      · rw [hjob, ← hversion, ← hexpected]
        rfl
      · rw [hjob]
        exact hclaimed
  · intro k job' hmem
    rcases List.mem_append.mp hmem with hmem | hmem
    · exact (h.recorded k job' hmem).grows hg
    · rw [List.mem_singleton] at hmem
      cases hmem
      refine ⟨⟨_, hnew, by rw [hjob], by rw [hjob], by rw [hjob]⟩, ?_⟩
      refine ⟨_, List.mem_append_right _ (List.mem_singleton_self _), ?_, ?_, ?_, ?_, ?_⟩
      · rw [hjob]
        rfl
      · rw [hjob, ← hid]
        exact hlog.nextSequence
      · simp [JobEvent.intoExecuting, JobEntry.event, transitionEntry, hstate]
      · simp [JobEntry.event, transitionEntry, hgating]
      · rw [hjob]
        rfl

/-- Behind its commit, and with nothing else noted, a call may invoke the backend. -/
theorem AttemptsFenced.invoked (h : AttemptsFenced calls s trace)
    (hcall : calls[i]? = some call) {executing : JobRuntimeState}
    (hown : own i trace = [.entered executing]) :
    AttemptsFenced calls s
      (trace ++ [(i, .invoked call.operationRef (executionContext executing call.workerId))]) := by
  have absent : ∀ e, e ≠ .entered executing → (i, e) ∉ trace := by
    intro e hne hmem
    rw [← mem_own, hown, List.mem_singleton] at hmem
    exact hne hmem
  have present : (i, ExecutionNote.entered executing) ∈ trace := by
    rw [← mem_own, hown]
    exact List.mem_singleton_self _
  refine ⟨h.logged, h.ordered.snoc
    ⟨⟨executing, present, rfl, rfl, rfl⟩, ?_, ?_, call, hcall, rfl, rfl⟩, ?_⟩
  · intro op ctx
    exact absent _ (by simp)
  · intro fault
    exact absent _ (by simp)
  · intro k job hmem
    rcases List.mem_append.mp hmem with hmem | hmem
    · exact h.recorded k job hmem
    · simp at hmem

theorem AttemptsFenced.refused (h : AttemptsFenced calls s trace)
    (hown : own i trace = []) (fault : ExecutionFault) :
    AttemptsFenced calls s (trace ++ [(i, .refused fault)]) := by
  refine ⟨h.logged, h.ordered.snoc ?_, ?_⟩
  · intro op ctx hmem
    rw [← mem_own, hown] at hmem
    cases hmem
  · intro k job hmem
    rcases List.mem_append.mp hmem with hmem | hmem
    · exact h.recorded k job hmem
    · simp at hmem

/-- One of the calls that has noted nothing may run `execute`. -/
theorem executionProtocol_hosts (hcall : calls[i]? = some call) :
    HostsExecution (executionProtocol calls) id i call (fun _ own => own = [])
      (fun job _ own => own = [.entered job]) where
  refl := JobStore.Grows.refl
  logged _ _ hinv := hinv.logged
  stable _ _ _ _ h := h
  stableEntered _ _ _ _ _ h := h
  silent w _ s trace hinv := by
    obtain ⟨hlogged, hg⟩ := jobStep_grows hinv.logged w
    exact ⟨hinv.silent hlogged hg, hg⟩
  refused s trace fault hinv hown := hinv.refused hown fault
  entered s trace s' a job hinv hown htarget hjob hversion hworker ht := by
    refine ⟨hinv.entered hcall ht htarget hjob hversion hworker, JobWrite.grows (.transitioned ht) hinv.logged.keyed, ?_⟩
    rw [hown]
    rfl
  invoked s trace job hinv hown := hinv.invoked hcall hown

/-- The invariant holds after every list of scheduling decisions. -/
theorem execution_fenced (decisions : List (Schedule ExecuteCall JobCall)) :
    AttemptsFenced (startedCalls decisions) (run executionSystem JobStore.empty decisions).shared
      (run executionSystem JobStore.empty decisions).trace := by
  refine (run_owed (P := executionProtocol (startedCalls decisions)) (Q := fun _ _ _ _ => True)
    JobStore.Grows.refl ?_ ?_ ?_ decisions (List.prefix_refl _)).1
  · intro call i hcall
    have outline := outline_execute (executionProtocol_hosts hcall)
    rwa [mapNotes_id] at outline
  · intro call s trace hinv
    obtain ⟨hlogged, hg⟩ := jobStep_grows hinv.logged call
    exact ⟨hinv.silent hlogged hg, hg⟩
  · refine ⟨jobsLogged_empty, justified_nil _, ?_⟩
    intro i job hmem
    cases hmem

/-- Two commits into `EXECUTING` of one job with one attempt number are the same. -/
theorem AttemptsFenced.entered_unique (h : AttemptsFenced calls s trace) {i k : Nat}
    {a b : JobRuntimeState} (ha : (i, .entered a) ∈ trace) (hb : (k, .entered b) ∈ trace)
    (hid : a.jobId = b.jobId) (hattempt : a.attemptCount = b.attemptCount) : i = k := by
  rcases h.ordered.ordered ha hb with heq | ⟨before, hJ, hmem⟩ | ⟨before, hJ, hmem⟩
  · exact congrArg Prod.fst heq
  · have hlt := hJ.2.2.2.1 i a hmem hid
    omega
  · have hlt := hJ.2.2.2.1 k b hmem hid.symm
    omega

/-- The attempt number of an invocation for a job. -/
def invokedAttempt (jobId : String) : Nat × ExecutionNote → Option Int
  | (_, .invoked _ context) => if context.jobId = jobId then some context.attemptNo else none
  | _ => none

theorem invokedAttempt_eq_some {jobId : String} {x : Nat × ExecutionNote} {a : Int}
    (h : invokedAttempt jobId x = some a) :
    ∃ i op ctx, x = (i, .invoked op ctx) ∧ ctx.jobId = jobId ∧ ctx.attemptNo = a := by
  unfold invokedAttempt at h
  split at h
  · rename_i i op ctx
    split at h
    · rename_i hid
      exact ⟨i, op, ctx, rfl, hid, Option.some.inj h⟩
    · cases h
  · cases h

/-- Over every interleaving of `execute` calls with each other and with any other
    writes: the invocations of the backend for a job carry pairwise different attempt
    numbers, each between one and the job's budget; each one is its call's own, and comes after
    the commit of that call into `EXECUTING` with that number, whose event in the job's log
    took the job from `GATING`, at the version and under the worker that the call names; and
    a call that found a precondition failed invokes nothing. -/
theorem execution_attempts_fenced (decisions : List (Schedule ExecuteCall JobCall))
    (jobId : String) :
    let c := run executionSystem JobStore.empty decisions
    (c.trace.filterMap (invokedAttempt jobId)).Nodup ∧
    (∀ i op ctx, (i, .invoked op ctx) ∈ c.trace → 1 ≤ ctx.attemptNo ∧
      ∃ r ∈ c.shared.records, r.jobId = ctx.jobId ∧ ctx.attemptNo ≤ r.maxAttempts) ∧
    (∀ before i op ctx after, c.trace = before ++ (i, .invoked op ctx) :: after →
      ∃ call, (startedCalls decisions)[i]? = some call ∧ op = call.operationRef ∧
        ctx.jobId = call.jobId ∧ ctx.workerId = call.workerId ∧
      ∃ job, (i, .entered job) ∈ before ∧ job.jobId = ctx.jobId ∧ job.state = .executing ∧
        job.attemptCount = ctx.attemptNo ∧
        ∃ e ∈ c.shared.eventsOf job.jobId, e.sequenceNo = job.version ∧
          e.intoExecuting = true ∧ e.sequenceNo = call.expectedVersion + 1 ∧
          e.fromState = some .gating ∧ e.workerId = some call.workerId) ∧
    (∀ i fault op ctx, (i, .refused fault) ∈ c.trace → (i, .invoked op ctx) ∉ c.trace) := by
  intro c
  have inv : AttemptsFenced (startedCalls decisions) c.shared c.trace :=
    execution_fenced decisions
  have entered : ∀ before i op ctx after, c.trace = before ++ (i, .invoked op ctx) :: after →
      ∃ job, (i, .entered job) ∈ before ∧ (i, .entered job) ∈ c.trace ∧ job.jobId = ctx.jobId ∧
        job.attemptCount = ctx.attemptNo ∧ job.maxAttempts = ctx.maxAttempts := by
    intro before i op ctx after heq
    obtain ⟨⟨job, hmem, hid, hattempt, hmax⟩, -⟩ := inv.ordered before _ after heq
    exact ⟨job, hmem, by rw [heq]; exact List.mem_append_left _ hmem, hid, hattempt, hmax⟩
  have bounds : ∀ i job, (i, .entered job) ∈ c.trace →
      job.state = .executing ∧ 1 ≤ job.attemptCount ∧ job.attemptCount ≤ job.maxAttempts ∧
      ∃ call, (startedCalls decisions)[i]? = some call ∧ EnteredFor call job := by
    intro i job hmem
    obtain ⟨before, after, heq⟩ := List.append_of_mem hmem
    obtain ⟨hstate, hone, hmax, -, hfor⟩ := inv.ordered before _ after heq
    exact ⟨hstate, hone, hmax, hfor⟩
  refine ⟨?_, ?_, ?_, ?_⟩
  · apply pairwise_filterMap
    intro before y after heq x hx a b hxa hyb hab
    obtain ⟨i, op, ctx, rfl, hid, rfl⟩ := invokedAttempt_eq_some hxa
    obtain ⟨k, op', ctx', rfl, hid', rfl⟩ := invokedAttempt_eq_some hyb
    obtain ⟨mid, rest, hmid⟩ := List.append_of_mem hx
    obtain ⟨job, -, hjob, hjid, hattempt, -⟩ :=
      entered mid i op ctx (rest ++ (k, .invoked op' ctx') :: after) (by rw [heq, hmid]; simp)
    obtain ⟨job', -, hjob', hjid', hattempt', -⟩ := entered before k op' ctx' after heq
    have hik : i = k := inv.entered_unique hjob hjob' (by rw [hjid, hjid', hid, hid'])
      (by rw [hattempt, hattempt', hab])
    subst hik
    exact (inv.ordered before _ after heq).2.1 op ctx hx
  · intro i op ctx hmem
    obtain ⟨before, after, heq⟩ := List.append_of_mem hmem
    obtain ⟨job, -, hjob, hid, hattempt, hmax⟩ := entered before i op ctx after heq
    obtain ⟨-, hone, hle, -⟩ := bounds i job hjob
    obtain ⟨⟨r, hr, hrid, hrmax, -⟩, -⟩ := inv.recorded i job hjob
    exact ⟨by omega, r, hr, hrid.trans hid, by omega⟩
  · intro before i op ctx after heq
    obtain ⟨job, hbefore, hjob, hid, hattempt, -⟩ := entered before i op ctx after heq
    obtain ⟨hstate, -, -, call, hcall, hfor⟩ := bounds i job hjob
    obtain ⟨-, -, -, call', hcall', hop, hworker⟩ := inv.ordered before _ after heq
    cases hcall.symm.trans hcall'
    obtain ⟨-, e, he, heid, hseq, hexec, hgating, heworker⟩ := inv.recorded i job hjob
    refine ⟨call, hcall, hop, hid.symm.trans hfor.jobId, hworker, job, hbefore, hid, hstate,
      hattempt, e, ?_, hseq, hexec, hseq.trans hfor.version, hgating, heworker.trans hfor.worker⟩
    simp [JobStore.eventsOf, he, heid]
  · intro i fault op ctx hrefused hinvoked
    rcases inv.ordered.ordered hrefused hinvoked with heq | ⟨before, hJ, hmem⟩ | ⟨before, hJ, hmem⟩
    · cases heq
    · exact hJ.2.2.1 fault hmem
    · exact hJ op ctx hmem

end AConductor.Job

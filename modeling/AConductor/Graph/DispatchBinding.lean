import AConductor.Graph.Dispatch
import AConductor.Job.ExecutionOutline
import AConductor.Lib.Trace

namespace AConductor.Graph

open Interleave Proc Job List

/-- The write makes dispatch metadata. -/
def bindsMetadata : JobCall → Bool
  | .checkpoint args _ => Text.startsWith args.checkpointRef dispatchMetaPrefix
  | _ => false

/-- Dispatches, with all writers that make no metadata as their surroundings. -/
def dispatchSystem (hash : DispatchHash) : System DispatchCall JobCall JobStore DispatchNote
    (Except DispatchFault GraphDispatchResult) where
  prog := dispatch hash
  env w s := if bindsMetadata w then s else (jobStep s w).2

/-- The outcome of a job whose log has two bindings (`dispatch.py:314`). -/
def ambiguous : DispatchFault := .dispatchError "DISPATCH_METADATA_AMBIGUOUS"

theorem metadataRefs_append (es fs : List JobEvent) :
    metadataRefs (es ++ fs) = metadataRefs es ++ metadataRefs fs := filterMap_append

/-- What a write puts into the checkpoint column of its event. -/
def writtenRef : JobCall → Option String
  | .checkpoint args _ => some args.checkpointRef
  | _ => none

variable {s s' : JobStore} {job : JobRuntimeState} {w : JobCall}

theorem jobStep_event (hk : s.Keyed) (h : jobStep s w = (.ok job, s')) :
    ∃ e : JobEvent, s'.events = s.events ++ [e] ∧ e.checkpointRef = writtenRef w := by
  cases w with
  | createJob jobId workOrderRef projectId maxAttempts draw =>
    obtain ⟨-, -, eventId, rfl⟩ := createJob_ok h
    exact ⟨_, rfl, rfl⟩
  | transition args draw =>
    obtain ⟨old, -, plan, eventId, -, -, -, -, rfl⟩ := transition_ok hk h
    exact ⟨_, rfl, rfl⟩
  | checkpoint args draw =>
    obtain ⟨old, -, eventId, -, -, -, -, rfl⟩ := checkpoint_ok hk h
    exact ⟨_, rfl, rfl⟩

theorem metadataRefs_appended {e : JobEvent} (h : s'.events = s.events ++ [e])
    (hnone : metadataRefs [e] = []) (jobId : String) :
    metadataRefs (s'.eventsOf jobId) = metadataRefs (s.eventsOf jobId) := by
  rw [eventsOf_append h]
  split
  · rw [metadataRefs_append, hnone, append_nil]
  · rfl

/-- A write that makes no metadata leaves the bindings of every job alone. -/
theorem metadataRefs_jobStep (h : JobsLogged s) (hw : bindsMetadata w = false) (jobId : String) :
    metadataRefs ((jobStep s w).2.eventsOf jobId) = metadataRefs (s.eventsOf jobId) := by
  rcases hout : jobStep s w with ⟨r, s'⟩
  cases r with
  | error e =>
    have hsame : s' = s := jobStep_error hout
    rw [hsame]
  | ok job =>
    obtain ⟨e, hevents, href⟩ := jobStep_event h.keyed hout
    have hnone : metadataRefs [e] = [] := by
      cases w with
      | createJob jobId workOrderRef projectId maxAttempts draw =>
        simp [metadataRefs, href, writtenRef]
      | transition args draw => simp [metadataRefs, href, writtenRef]
      | checkpoint args draw =>
        have hnot : Text.startsWith args.checkpointRef dispatchMetaPrefix = false := hw
        simp [metadataRefs, href, writtenRef, hnot]
    exact metadataRefs_appended hevents hnone jobId

/-- The checkpoint of a finished operation is not dispatch metadata. -/
theorem operationWrite_bindsMetadata (hw : OperationWrite w) : bindsMetadata w = false := by
  cases hw with
  | transition args draw => rfl
  | checkpoint args draw operationRef href =>
    simp only [bindsMetadata, href, Text.startsWith, dispatchMetaPrefix, String.toList_append]
    rfl

theorem metadataRefs_bySequence (es : List JobEvent) :
    (metadataRefs (bySequence es)).Perm (metadataRefs es) :=
  (perm_insertionSort _ es).filterMap _

theorem eventsOf_grows (h : s.Grows s') (jobId : String) :
    s.eventsOf jobId <+: s'.eventsOf jobId := h.events.filter _

theorem metadataRefs_grows (h : s.Grows s') (jobId : String) :
    metadataRefs (s.eventsOf jobId) <+: metadataRefs (s'.eventsOf jobId) :=
  (eventsOf_grows h jobId).filterMap _

section Protocol

variable (hash : DispatchHash)

/-- What stands before each note. A call is noted first; an invocation follows the
    binding and the commit into `EXECUTING` of its own call, which was allowed and in
    push mode, for its own job, worker and operation; no call returns the ambiguous
    outcome. -/
def DispatchOrder (before : List (Nat × DispatchNote)) : Nat × DispatchNote → Prop
  | (i, .called _ _) => ∀ note, (i, note) ∉ before
  | (i, .bound request) => ∃ gate, (i, .called request gate) ∈ before
  | (i, .execution (.invoked op ctx)) => ∃ request gate job,
      (i, .called request gate) ∈ before ∧ (i, .bound request) ∈ before ∧
      (i, .execution (.entered job)) ∈ before ∧
      gate.allowed = true ∧ request.dispatchMode = .programmaticPush ∧
      op = request.operationRef ∧ ctx.workerId = request.workerId ∧
      ctx.jobId = hash.jobId request ∧ job.jobId = ctx.jobId ∧ job.workerId = some ctx.workerId
  | (_, .execution _) => True
  | (_, .returned result) => result ≠ .error ambiguous

/-- The job was in `GATING` under the worker of this commit into `EXECUTING`: an event
    of its log says so, and the event of the commit itself left that state. -/
def PassedGating (s : JobStore) (job : JobRuntimeState) : Prop :=
  ∃ g ∈ s.events, g.jobId = job.jobId ∧ g.toState = some .gating ∧ g.workerId = job.workerId ∧
    ∃ e ∈ s.events, e.jobId = job.jobId ∧ e.fromState = some .gating ∧
      e.toState = some .executing ∧ e.workerId = job.workerId ∧ e.sequenceNo = job.version ∧
      g.sequenceNo < e.sequenceNo

structure DispatchBound (s : JobStore) (trace : List (Nat × DispatchNote)) : Prop where
  logged : JobsLogged s
  single : ∀ jobId, (metadataRefs (s.eventsOf jobId)).length ≤ 1
  bound : ∀ i request, (i, .bound request) ∈ trace →
    metadataRefs (s.eventsOf (hash.jobId request)) = [hash.metadataRef request]
  ordered : Justified (DispatchOrder hash) trace
  passed : ∀ i job, (i, .execution (.entered job)) ∈ trace → PassedGating s job

def dispatchProtocol : Protocol JobStore DispatchNote where
  Inv := DispatchBound hash
  Grows := JobStore.Grows

variable {hash}

theorem PassedGating.grows (h : PassedGating s job) (hg : s.Grows s') : PassedGating s' job := by
  obtain ⟨g, hg', hgid, hgto, hgworker, e, he, hrest⟩ := h
  exact ⟨g, hg.events.subset hg', hgid, hgto, hgworker, e, hg.events.subset he, hrest⟩

variable {trace : List (Nat × DispatchNote)}

/-- A step that notes nothing and makes no metadata keeps the invariant. -/
theorem DispatchBound.silent (h : DispatchBound hash s trace) (hlogged : JobsLogged s')
    (hg : s.Grows s')
    (hmeta : ∀ jobId, metadataRefs (s'.eventsOf jobId) = metadataRefs (s.eventsOf jobId)) :
    DispatchBound hash s' trace where
  logged := hlogged
  single jobId := by rw [hmeta]; exact h.single jobId
  bound i request hmem := by rw [hmeta]; exact h.bound i request hmem
  ordered := h.ordered
  passed i job hmem := (h.passed i job hmem).grows hg

theorem DispatchBound.write (h : DispatchBound hash s trace) (hw : bindsMetadata w = false) :
    DispatchBound hash (jobStep s w).2 trace ∧ s.Grows (jobStep s w).2 := by
  obtain ⟨hlogged, hg⟩ := jobStep_grows h.logged w
  exact ⟨h.silent hlogged hg (metadataRefs_jobStep h.logged hw), hg⟩

/-- A note about neither a binding nor a commit keeps the invariant when it is in
    order. -/
theorem DispatchBound.note (h : DispatchBound hash s trace) {i : Nat} {note : DispatchNote}
    (horder : DispatchOrder hash trace (i, note)) (hbound : ∀ request, note ≠ .bound request)
    (hentered : ∀ job, note ≠ .execution (.entered job)) :
    DispatchBound hash s (trace ++ [(i, note)]) where
  logged := h.logged
  single := h.single
  bound k request hmem := by
    rcases mem_append.mp hmem with hmem | hmem
    · exact h.bound k request hmem
    · rw [mem_singleton] at hmem
      cases hmem
      exact absurd rfl (hbound request)
  ordered := h.ordered.snoc horder
  passed k job hmem := by
    rcases mem_append.mp hmem with hmem | hmem
    · exact h.passed k job hmem
    · rw [mem_singleton] at hmem
      cases hmem
      exact absurd rfl (hentered job)

/-- Noting a binding that the log shows keeps the invariant. -/
theorem DispatchBound.noteBound (h : DispatchBound hash s trace) {i : Nat}
    {request : GraphDispatchRequest} {gate : DispatchGateDecision}
    (hcalled : (i, .called request gate) ∈ trace)
    (hmeta : metadataRefs (s.eventsOf (hash.jobId request)) = [hash.metadataRef request]) :
    DispatchBound hash s (trace ++ [(i, .bound request)]) where
  logged := h.logged
  single := h.single
  bound k request' hmem := by
    rcases mem_append.mp hmem with hmem | hmem
    · exact h.bound k request' hmem
    · rw [mem_singleton] at hmem
      cases hmem
      exact hmeta
  ordered := h.ordered.snoc ⟨gate, hcalled⟩
  passed k job hmem := by
    rcases mem_append.mp hmem with hmem | hmem
    · exact h.passed k job hmem
    · simp at hmem

/-- The metadata checkpoint: no binding was listed, and under the version that was read
    before the listing nothing has been written since. -/
theorem DispatchBound.checkpointed {s s' : JobStore} {trace : List (Nat × DispatchNote)}
    (h : DispatchBound hash s trace) {a : CheckpointArgs} {job : JobRuntimeState}
    (hc : Checkpointed a s job s') {listed : List JobEvent}
    (hlisted : listed <+: s.eventsOf a.jobId) (hcount : a.expectedVersion ≤ listed.length)
    (hnone : metadataRefs listed = [])
    (hmetaRef : Text.startsWith a.checkpointRef dispatchMetaPrefix = true) :
    DispatchBound hash s' trace ∧ s.Grows s' ∧ job.jobId = a.jobId ∧
      metadataRefs (s'.eventsOf a.jobId) = [a.checkpointRef] := by
  have hw : JobWrite s job s' := .checkpointed hc
  have hlogged := hw.jobsLogged h.logged
  have hg := hw.grows h.logged.keyed
  obtain ⟨old, hold, eventId, hid, hversion, -, hjob, hs'⟩ := hc
  have hlog := h.logged.logged old hold
  have hempty : metadataRefs (s.eventsOf a.jobId) = [] := by
    have hlen : (s.eventsOf a.jobId).length ≤ listed.length := by
      have hv := hlog.version
      rw [hid, hversion] at hv
      omega
    rw [← hlisted.eq_of_length_le hlen]
    exact hnone
  obtain ⟨event, hevents, heid, href⟩ : ∃ event : JobEvent, s'.events = s.events ++ [event] ∧
      event.jobId = a.jobId ∧ event.checkpointRef = some a.checkpointRef :=
    ⟨_, by rw [hs']; rfl, hid, rfl⟩
  have hnew : metadataRefs (s'.eventsOf a.jobId) = [a.checkpointRef] := by
    rw [eventsOf_append hevents, if_pos heid, metadataRefs_append, hempty]
    simp [metadataRefs, href, hmetaRef]
  have hother : ∀ jobId, jobId ≠ a.jobId →
      metadataRefs (s'.eventsOf jobId) = metadataRefs (s.eventsOf jobId) := by
    intro jobId hne
    rw [eventsOf_append hevents, if_neg (fun heq => hne (heq.symm.trans heid))]
  refine ⟨⟨hlogged, ?_, ?_, h.ordered, fun i job' hmem => (h.passed i job' hmem).grows hg⟩, hg,
    by rw [hjob]; exact hid, hnew⟩
  · intro jobId
    by_cases hj : jobId = a.jobId
    · rw [hj, hnew]
      exact le_refl _
    · rw [hother jobId hj]
      exact h.single jobId
  · intro i request hmem
    have hb := h.bound i request hmem
    by_cases hj : hash.jobId request = a.jobId
    · rw [hj, hempty] at hb
      cases hb
    · rw [hother _ hj]
      exact hb

/-- The commit into `EXECUTING` follows an event that put the job into `GATING`. -/
theorem passedGating_of_transitioned (h : JobsLogged s) {a : TransitionArgs} {workerId : String}
    (ht : Transitioned a s job s') (htarget : a.targetState = .executing)
    (hworker : a.workerId = some workerId) :
    PassedGating s' job ∧ job.jobId = a.jobId ∧ job.workerId = some workerId := by
  obtain ⟨old, hold, plan, eventId, hid, -, hplan, hjob, rfl⟩ := ht
  rw [htarget, hworker] at hplan
  obtain ⟨hstate, hold_worker, hplan_worker⟩ := planJobTransition_executing hplan
  obtain ⟨hplan_target, -, -⟩ := planJobTransition_ok hplan
  have hlog := h.logged old hold
  obtain ⟨g, hg, -, hgto, hgworker⟩ := replay_source hlog.replayed
  obtain ⟨hg_mem, hgid⟩ := mem_filter.mp hg
  have hgseq : g.sequenceNo ≤ old.version := by
    have hmem : g.sequenceNo ∈ (s.eventsOf old.jobId).map JobEvent.sequenceNo :=
      mem_map_of_mem hg
    rw [hlog.sequence, Numbering.upTo, mem_map] at hmem
    obtain ⟨n, hn, heq⟩ := hmem
    have hlt := mem_range.mp hn
    have hv := hlog.version
    omega
  have hjobId : job.jobId = old.jobId := by rw [hjob]; rfl
  have hjobWorker : job.workerId = some workerId := by rw [hjob]; exact hplan_worker
  refine ⟨⟨g, mem_append_left _ hg_mem, ?_, ?_, ?_, _,
    mem_append_right _ (mem_singleton_self _), ?_, ?_, ?_, ?_, ?_, ?_⟩,
    hjobId.trans hid, hjobWorker⟩
  · rw [hjobId]
    simpa using hgid
  · rw [hgto]
    simp [JobRow.projection, hstate]
  · rw [hgworker, hjobWorker]
    exact hold_worker
  · exact hjobId.symm
  · simp [JobEntry.event, transitionEntry, hstate]
  · simp [JobEntry.event, transitionEntry, hplan_target]
  · rw [hjobWorker]
    exact hplan_worker
  · show s.nextSequence a.jobId = job.version
    rw [hjob, ← hid]
    exact hlog.nextSequence
  · show g.sequenceNo < s.nextSequence a.jobId
    have hnext := hlog.nextSequence
    rw [hid] at hnext
    omega

theorem DispatchBound.entered (h : DispatchBound hash s trace) (i : Nat) {a : TransitionArgs}
    {workerId : String} (ht : Transitioned a s job s') (htarget : a.targetState = .executing)
    (hworker : a.workerId = some workerId) :
    DispatchBound hash s' (trace ++ [(i, .execution (.entered job))]) ∧ s.Grows s' := by
  have hw : JobWrite s job s' := .transitioned ht
  have hg := hw.grows h.logged.keyed
  obtain ⟨hpassed, -, -⟩ := passedGating_of_transitioned h.logged ht htarget hworker
  have hmeta : ∀ jobId, metadataRefs (s'.eventsOf jobId) = metadataRefs (s.eventsOf jobId) := by
    obtain ⟨old, -, plan, eventId, -, -, -, -, rfl⟩ := ht
    exact metadataRefs_appended rfl rfl
  have hkept := h.silent (hw.jobsLogged h.logged) hg hmeta
  refine ⟨⟨hkept.logged, hkept.single, ?_, hkept.ordered.snoc trivial, ?_⟩, hg⟩
  · intro k request hmem
    rcases mem_append.mp hmem with hmem | hmem
    · exact hkept.bound k request hmem
    · simp at hmem
  · intro k job' hmem
    rcases mem_append.mp hmem with hmem | hmem
    · exact hkept.passed k job' hmem
    · rw [mem_singleton] at hmem
      cases hmem
      exact hpassed

end Protocol

end AConductor.Graph

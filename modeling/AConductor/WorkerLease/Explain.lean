import AConductor.WorkerLease.Request
import AConductor.WorkerLease.ExistingHealth
import Mathlib.Data.List.DropRight

/-!
# Worker leases: the broker explains its choice

What a call of `WorkerLeaseBroker.acquire` (`src/a_conductor/worker_lease.py:1551-1683`) reports
when nothing comes in between: the workers it passes over, each with the reason, and the worker
it leases.
-/

namespace AConductor.Lease

open Proc AConductor.Graph List Except Text

/-- The conditions of `_preflight` (`worker_lease.py:1551-1594`). -/
structure Fit (env : BrokerEnv) (request : BrokerRequest) (candidate : BrokerCandidate) : Prop where
  idle : candidate.activeTask = false
  ready : candidate.state = "READY"
  unreserved : candidate.reserved = false
  capable : ∀ capability ∈ request.requiredCapabilities, capability ∈ candidate.capabilities
  runtime : ∀ id, request.requiredRuntimeId = some id → candidate.runtimeId = some id
  project : candidate.projectId = some request.projectId
  worktree : ∃ w, candidate.worktree = some w ∧ sameWorktree env.toLeaseEnv w request.worktree = true
  branch : candidate.branch = some request.branch
  head : candidate.head.map env.casefold = some (env.casefold request.expectedHead)
  healthy : candidate.healthFresh = true
  owned : candidate.ownershipKnown = true
  inspected : candidate.dirtyState ≠ .unknown
  clean : request.mutationIntent = .mutation → candidate.dirtyState = .clean
  authorized : request.mutationIntent = .mutation → candidate.mutationAuthorized = true
  disjoint : request.mutationIntent = .mutation →
    ∀ occupied ∈ candidate.occupiedMutableScopes,
      writeSetsOverlap request.mutableScope occupied = false

/-- A ladder of checks finds nothing exactly when none of them does. -/
theorem ite_some_eq_none {α : Type} {condition : Prop} [Decidable condition] {a : α} {x : Option α} :
    (if condition then some a else x) = none ↔ ¬ condition ∧ x = none := by
  by_cases h : condition
  · simp [h]
  · simp [h]

variable {candidate : BrokerCandidate}

theorem mutationPreflight_eq_none {request : BrokerRequest} :
    mutationPreflight request candidate = none ↔
      (request.mutationIntent = .mutation → candidate.dirtyState = .clean ∧
        candidate.mutationAuthorized = true ∧ ∀ occupied ∈ candidate.occupiedMutableScopes,
          writeSetsOverlap request.mutableScope occupied = false) := by
  unfold mutationPreflight
  by_cases hintent : request.mutationIntent = .mutation
  · rw [if_neg (not_not.mpr hintent)]
    simp only [ite_some_eq_none, hintent, true_imp_iff, and_true, not_not, any_eq_true,
      not_exists, not_and, Bool.not_eq_true, Bool.not_eq_false]
  · rw [if_pos hintent]
    simp [hintent]

theorem preflight_eq_none {env : BrokerEnv} {request : BrokerRequest}
    : preflight env request candidate = none ↔ Fit env request candidate := by
  unfold preflight
  simp only [ite_some_eq_none, mutationPreflight_eq_none, not_not, Bool.not_eq_true,
    Bool.not_eq_false, ne_eq]
  constructor
  · rintro ⟨hidle, hready, hfree, hcapable, hruntime, hproject, hworktree, hbranch, hhead, hhealth,
      howned, hdirty, hmutation⟩
    refine
      { idle := hidle, ready := hready, unreserved := hfree, capable := ?_, runtime := ?_
        project := hproject, worktree := by simpa [Option.any_eq_true] using hworktree
        branch := hbranch, head := hhead, healthy := hhealth, owned := howned, inspected := hdirty
        clean := fun h => (hmutation h).1, authorized := fun h => (hmutation h).2.1
        disjoint := fun h => (hmutation h).2.2 }
    · simpa using hcapable
    · intro id hid
      rw [hid] at hruntime
      by_contra hne
      exact hruntime ⟨rfl, hne⟩
  · intro h
    refine ⟨h.idle, h.ready, h.unreserved, by simpa using h.capable, ?_, h.project, ?_, h.branch,
      h.head, h.healthy, h.owned, h.inspected,
      fun hintent => ⟨h.clean hintent, h.authorized hintent, h.disjoint hintent⟩⟩
    · rintro ⟨hsome, hne⟩
      obtain ⟨id, hid⟩ := Option.isSome_iff_exists.mp hsome
      rw [hid] at hne
      exact hne (h.runtime id hid)
    · simpa [Option.any_eq_true] using h.worktree

/-- The worker of the request as the caller describes it. -/
def BrokerCall.candidate? (c : BrokerCall) (workerId : String) : Option BrokerCandidate :=
  c.candidates.find? fun item => item.workerId = workerId

/-- What the store answers to an attempt at the worker. -/
def BrokerCall.answer (c : BrokerCall) (item : BrokerCandidate) (leaseId : String)
    (s : LeaseStore) : Except LeaseFault AcquireResult × LeaseStore :=
  tryAcquireResult c.env.toLeaseEnv c.request.toWorkerLeaseRequest item.toWorkerLeaseCandidate
    leaseId c.now none s

/-- Why a worker is passed over: nobody describes it, the preflight says so, or the store, which
    is asked only when the preflight passes. -/
inductive Explained (c : BrokerCall) (s : LeaseStore) : CandidateRejection → Prop
  | missing {workerId : String} (unknown : c.candidate? workerId = none) :
      Explained c s ⟨workerId, .candidateMissing⟩
  | unfit {workerId : String} {item : BrokerCandidate} {kind : CandidateRejectionKind}
      (found : c.candidate? workerId = some item)
      (reason : preflight c.env c.request item = some kind) : Explained c s ⟨workerId, kind⟩
  | refused {workerId leaseId : String} {item : BrokerCandidate} {kind : CandidateRejectionKind}
      (found : c.candidate? workerId = some item) (fit : Fit c.env c.request item)
      (verdict : judgeAttempt [] (c.answer item leaseId s).1 = .ok (.inr kind)) :
      Explained c s ⟨workerId, kind⟩

variable {notes : List BrokerNote} {s s' : LeaseStore} {c : BrokerCall}
  {outcome : WorkerLeaseOutcome}

/-- A computation leaves the store alone. -/
theorem exec_raiseOr_eq_ok {α : Type} {x : Except LeaseFault α} {a : α}
    (h : (raiseOr x).run.exec s = (.ok a, s', notes)) : x = .ok a ∧ s = s' := by
  have hx : (x, s, ([] : List BrokerNote)) = (.ok a, s', notes) := h
  exact ⟨congrArg Prod.fst hx, congrArg (fun r => r.2.1) hx⟩

/-- A read hands on what the store says. -/
theorem exec_readStore_eq_ok {α : Type} {tx : LeaseStore → Except LeaseFault α × LeaseStore} {a : α}
    (h : (readStore tx).run.exec s = (.ok a, s', notes)) : (tx s).1 = .ok a ∧ (tx s).2 = s' := by
  have hx : ((tx s).1, (tx s).2, ([] : List BrokerNote)) = (.ok a, s', notes) := h
  exact ⟨congrArg Prod.fst hx, congrArg (fun r => r.2.1) hx⟩

theorem proposedLease_worker {env : LeaseEnv} {request : WorkerLeaseRequest}
    {candidate : WorkerLeaseCandidate} {leaseId : String} {now : TimeArg} {lease : WorkerLease}
    (h : proposedLease env request candidate leaseId now none = .ok lease) :
    lease.workerId = candidate.workerId := by
  unfold proposedLease at h
  iterate 3 obtain ⟨_, -, h⟩ := bind_eq_ok.mp h
  dsimp only at h
  split at h
  · iterate 2 obtain ⟨_, -, h⟩ := bind_eq_ok.mp h
    cases h
    rfl
  · iterate 2 obtain ⟨_, -, h⟩ := bind_eq_ok.mp h
    cases h
    rfl

/-- What the loop makes of an attempt: the worker is passed over and the store is as it was, the
    worker is leased, or the lease of the owner task is found. -/
inductive Verdict (c : BrokerCall) (item : BrokerCandidate) (s : LeaseStore)
    (rejections : List CandidateRejection) :
    WorkerLeaseOutcome ⊕ CandidateRejectionKind → LeaseStore → Prop
  | passed (kind : CandidateRejectionKind) : Verdict c item s rejections (.inr kind) s
  | leased {lease : WorkerLease} {s' : LeaseStore} (worker : lease.workerId = item.workerId) :
      Verdict c item s rejections (.inl ⟨.leased, some lease, rejections⟩) s'
  | existing {lease : WorkerLease} {s' : LeaseStore}
      (owned : s.activeOwner c.request.sessionId c.request.taskId = some lease) :
      Verdict c item s rejections (.inl ⟨.existing, some lease, rejections⟩) s'

variable {rejections : List CandidateRejection}

theorem judgeAttempt_verdict {item : BrokerCandidate} {leaseId : String}
    {verdict : WorkerLeaseOutcome ⊕ CandidateRejectionKind}
    (h : judgeAttempt rejections (c.answer item leaseId s).1 = .ok verdict) :
    Verdict c item s rejections verdict (c.answer item leaseId s).2 := by
  rcases tryAcquireResult_cases c.env.toLeaseEnv c.request.toWorkerLeaseRequest
    item.toWorkerLeaseCandidate leaseId c.now none s with
    ⟨r, s', lease, heq, hproposed, houtcome⟩ | ⟨e, heq⟩
  · have hanswer : c.answer item leaseId s = (.ok r, s') := heq
    rw [hanswer] at h ⊢
    cases houtcome with
    | existing owned matching =>
      cases h
      have hfor := proposedLease_for hproposed
      rw [hfor.sessionId, hfor.taskId] at owned
      exact .existing owned
    | busy =>
      cases h
      exact .passed _
    | leased unfenced scanned freshId freshWorker freshOwner =>
      cases h
      exact .leased (proposedLease_worker hproposed)
  · have hanswer : c.answer item leaseId s = (.error e, s) := heq
    rw [hanswer] at h ⊢
    dsimp only [judgeAttempt] at h ⊢
    split at h
    · cases h
      exact .passed _
    · cases h
    · rename_i heq
      cases heq
    · rename_i heq
      cases heq

/-- Whether a worker is passed over does not depend on the workers before it. -/
theorem judgeAttempt_passed {answer : Except LeaseFault AcquireResult}
    {kind : CandidateRejectionKind} (h : judgeAttempt rejections answer = .ok (.inr kind)) :
    judgeAttempt [] answer = .ok (.inr kind) := by
  unfold judgeAttempt at h ⊢
  split at h
  · exact h
  · cases h
  · cases h
  · exact h

/-- How the loop over the workers ends, and the rejections it adds: no worker is leased and every
    one is passed over, or the loop stops at a worker that passes the preflight, having passed over
    those before it. -/
inductive LoopEnd (c : BrokerCall) (s : LeaseStore) (workers : List String)
    (added : List CandidateRejection) (outcome : WorkerLeaseOutcome) : Prop
  | none (nothing : outcome.lease = none) (kind : outcome.kind ≠ .leased)
      (all : added.map CandidateRejection.workerId = workers)
  | leased {k : Nat} {item : BrokerCandidate} {lease : WorkerLease}
      (kind : outcome.kind = .leased) (given : outcome.lease = some lease)
      (before : added.map CandidateRejection.workerId = workers.take k)
      (at_ : workers[k]? = some lease.workerId)
      (found : c.candidate? lease.workerId = some item) (fit : Fit c.env c.request item)
  | existing {lease : WorkerLease} (kind : outcome.kind = .existing)
      (owned : s.activeOwner c.request.sessionId c.request.taskId = some lease)

/-- One more worker is passed over before the loop goes on. -/
theorem LoopEnd.pass {workers : List String} {added : List CandidateRejection}
    {r : CandidateRejection} (h : LoopEnd c s workers added outcome) :
    LoopEnd c s (r.workerId :: workers) (r :: added) outcome := by
  cases h with
  | none nothing kind all => exact .none nothing kind (by rw [map_cons, all])
  | @leased k item lease kind given before at_ found fit =>
    exact .leased (k := k + 1) kind given (by rw [map_cons, before, take_succ_cons])
      (by simpa using at_) found fit
  | existing kind owned => exact .existing kind owned

theorem candidate?_worker {workerId : String} {item : BrokerCandidate}
    (h : c.candidate? workerId = some item) : item ∈ c.candidates ∧ item.workerId = workerId :=
  ⟨mem_of_find?_eq_some h, by simpa using List.find?_some h⟩

theorem exec_tryWorkers (n : Nat) (workers : List String) (rejections : List CandidateRejection)
    (h : (tryWorkers c n workers rejections).run.exec s = (.ok outcome, s', notes)) :
    ∃ added, outcome.rejections = rejections ++ added ∧ (∀ r ∈ added, Explained c s r) ∧
      LoopEnd c s workers added outcome := by
  induction workers generalizing n rejections notes with
  | nil =>
    have houtcome : unleased c rejections = outcome := by
      cases h
      rfl
    have hunleased : (unleased c rejections).rejections = rejections ∧
        (unleased c rejections).lease = none ∧ (unleased c rejections).kind ≠ .leased := by
      unfold unleased
      split
      · exact ⟨rfl, rfl, nofun⟩
      · exact ⟨rfl, rfl, nofun⟩
    rw [houtcome] at hunleased
    obtain ⟨hrejections, hlease, hkind⟩ := hunleased
    refine ⟨[], ?_, fun r hr => absurd hr not_mem_nil, .none hlease hkind rfl⟩
    rw [hrejections, append_nil]
  | cons workerId rest ih =>
    -- The worker is passed over with this reason, and the loop goes on from the same store.
    have pass {kind : CandidateRejectionKind} {notes : List BrokerNote}
        (hr : Explained c s ⟨workerId, kind⟩)
        (h : (tryWorkers c (n + 1) rest (rejections ++ [⟨workerId, kind⟩])).run.exec s =
          (.ok outcome, s', notes)) :
        ∃ added, outcome.rejections = rejections ++ added ∧ (∀ r ∈ added, Explained c s r) ∧
          LoopEnd c s (workerId :: rest) added outcome := by
      obtain ⟨added, heq, hexplained, hend⟩ := ih (n + 1) _ h
      refine ⟨⟨workerId, kind⟩ :: added, ?_, ?_, hend.pass (r := ⟨workerId, kind⟩)⟩
      · rw [heq, append_assoc, singleton_append]
      · intro r hmem
        rcases mem_cons.mp hmem with rfl | hmem
        · exact hr
        · exact hexplained r hmem
    unfold tryWorkers at h
    cases hfound : c.candidates.find? fun item => item.workerId = workerId with
    | none =>
      rw [hfound] at h
      exact pass (.missing hfound) h
    | some item =>
      rw [hfound] at h
      dsimp only at h
      cases hreason : preflight c.env c.request item with
      | some kind =>
        rw [hreason] at h
        exact pass (.unfit hfound hreason) h
      | none =>
        rw [hreason] at h
        have hfit : Fit c.env c.request item := preflight_eq_none.mp hreason
        obtain ⟨drawn, s₁, _, _, hdrawn, hrest⟩ := exec_bind_eq_ok h
        obtain ⟨leaseId, s₂, _, _, hid, hrest⟩ := exec_bind_eq_ok hrest
        obtain ⟨answer, s₃, _, _, hanswer, hrest⟩ := exec_bind_eq_ok hrest
        obtain ⟨verdict, s₄, _, _, hverdict, hlast⟩ := exec_bind_eq_ok hrest
        obtain ⟨-, rfl⟩ := exec_raiseOr_eq_ok hdrawn
        obtain ⟨-, rfl⟩ := exec_raiseOr_eq_ok hid
        obtain ⟨hjudged, rfl⟩ := exec_raiseOr_eq_ok hverdict
        have hx : (Except.ok (c.answer item leaseId s).1, (c.answer item leaseId s).2, _) =
            ((.ok answer, s₃, _) : Except LeaseFault _ × LeaseStore × List BrokerNote) := hanswer
        obtain ⟨heq, rfl, -⟩ : _ ∧ _ ∧ _ := by simpa only [Prod.mk.injEq] using hx
        cases heq
        have hcases := judgeAttempt_verdict hjudged
        generalize (c.answer item leaseId s).2 = after at hlast hcases
        cases hcases with
        | passed kind => exact pass (.refused hfound hfit (judgeAttempt_passed hjudged)) hlast
        | @leased lease _ worker =>
          cases hlast
          have hworker : lease.workerId = workerId := worker.trans (candidate?_worker hfound).2
          refine ⟨[], (append_nil _).symm, fun r hr => absurd hr not_mem_nil, ?_⟩
          have hhead : (workerId :: rest)[0]? = some lease.workerId := by rw [hworker]; rfl
          have hcandidate : c.candidate? lease.workerId = some item := by
            rw [hworker]
            exact hfound
          exact .leased rfl rfl rfl hhead hcandidate hfit
        | existing owned =>
          cases hlast
          exact ⟨[], (append_nil _).symm, fun r hr => absurd hr not_mem_nil,
            .existing rfl owned⟩

theorem strip_strip (v : String) : strip (strip v) = strip v := by
  have hstrip : (strip v).toList =
      ((v.toList.dropWhile isSpace).rdropWhile isSpace) := String.toList_ofList
  have hhead : ∀ l : List Char,
      ((l.dropWhile isSpace).rdropWhile isSpace).dropWhile isSpace =
        (l.dropWhile isSpace).rdropWhile isSpace := by
    intro l
    rw [dropWhile_eq_self_iff]
    intro hlength hspace
    have hpre := rdropWhile_prefix (l := l.dropWhile isSpace) isSpace
    have hsame := hpre.getElem hlength
    have hfull : (l.dropWhile isSpace).dropWhile isSpace = l.dropWhile isSpace :=
      dropWhile_idempotent _ _
    exact dropWhile_eq_self_iff.mp hfull (hlength.trans_le hpre.length_le) (hsame ▸ hspace)
  have htail : ∀ l : List Char, (l.rdropWhile isSpace).rdropWhile isSpace =
      l.rdropWhile isSpace := fun l => rdropWhile_idempotent _ l
  show String.ofList (((strip v).toList.dropWhile isSpace).rdropWhile isSpace) = _
  rw [hstrip, hhead, htail]
  rfl

theorem isBlank_strip {v : String} (h : isBlank v = false) :
    isBlank (strip v) = false := by
  rw [← Bool.not_eq_true] at h ⊢
  intro hblank
  have hall : ∀ c ∈ (strip v).toList, isSpace c = true := all_eq_true.mp hblank
  have hnil : (strip v).toList = [] := by
    have hdrop : (strip v).toList.dropWhile isSpace = [] :=
      dropWhile_eq_nil_iff.mpr hall
    have hagain : strip (strip v) = String.ofList [] := by
      show String.ofList (((strip v).toList.dropWhile isSpace).reverse.dropWhile
        isSpace).reverse = _
      rw [hdrop]
      rfl
    rw [strip_strip] at hagain
    rw [hagain, String.toList_ofList]
  have hfirst : ((v.toList.dropWhile isSpace).reverse.dropWhile isSpace) = [] := by
    have hv : ((v.toList.dropWhile isSpace).reverse.dropWhile isSpace).reverse = [] := by
      rw [← hnil]
      exact String.toList_ofList.symm
    exact reverse_eq_nil_iff.mp hv
  have hspaces : ∀ c ∈ v.toList.dropWhile isSpace, isSpace c = true := by
    intro c hc
    exact dropWhile_eq_nil_iff.mp hfirst c (mem_reverse.mpr hc)
  have hempty : v.toList.dropWhile isSpace = [] := by
    rw [← dropWhile_idempotent]
    exact dropWhile_eq_nil_iff.mpr hspaces
  exact h (all_eq_true.mpr (dropWhile_eq_nil_iff.mp hempty))

theorem text_again {v cleaned fieldName : String} {maxLength : Nat}
    (h : text v fieldName maxLength = .ok cleaned) :
    text cleaned fieldName maxLength = .ok cleaned := by
  unfold text at h
  split at h
  · cases h
  · rename_i hblank
    dsimp only at h
    split at h
    · cases h
    · rename_i hshape
      cases h
      unfold text
      rw [if_neg (by rw [isBlank_strip (by simpa using hblank)]; exact Bool.false_ne_true)]
      dsimp only
      rw [strip_strip, if_neg hshape]

/-- What the constructor of a request leaves of its owner and workers. -/
theorem postInit_read {given request : WorkerLeaseRequest} {leaseTtlSeconds : Int}
    (h : given.postInit leaseTtlSeconds = .ok request) :
    text request.sessionId "session_id" 128 = .ok request.sessionId ∧
      text request.taskId "task_id" 256 = .ok request.taskId ∧
      request.orderedWorkerIds.Nodup := by
  unfold WorkerLeaseRequest.postInit at h
  obtain ⟨sessionId, hsession, h⟩ := bind_eq_ok.mp h
  obtain ⟨taskId, htask, h⟩ := bind_eq_ok.mp h
  obtain ⟨_, -, h⟩ := bind_eq_ok.mp h
  obtain ⟨workers, hworkers, h⟩ := bind_eq_ok.mp h
  iterate 15 obtain ⟨_, -, h⟩ := bind_eq_ok.mp h
  cases h
  refine ⟨text_again hsession, text_again htask, ?_⟩
  unfold scope at hworkers
  obtain ⟨read, -, hworkers⟩ := bind_eq_ok.mp hworkers
  split at hworkers
  · rename_i hnodup
    cases hworkers
    exact hnodup
  · cases hworkers

/-- What a call reports: a reason for every worker it passes over; with a new lease, the workers
    before the leased one, which passes the preflight; without a lease, every worker of the
    request; and with the lease the owner task already has, nothing. -/
structure Reported (c : BrokerCall) (s : LeaseStore) (outcome : WorkerLeaseOutcome) : Prop where
  explained : ∀ r ∈ outcome.rejections, Explained c s r
  leased : outcome.kind = .leased → ∃ k lease item, outcome.lease = some lease ∧
    c.request.orderedWorkerIds[k]? = some lease.workerId ∧
    outcome.rejections.map CandidateRejection.workerId = c.request.orderedWorkerIds.take k ∧
    item ∈ c.candidates ∧ item.workerId = lease.workerId ∧ Fit c.env c.request item
  unleased : outcome.lease = none →
    outcome.rejections.map CandidateRejection.workerId = c.request.orderedWorkerIds
  owned : outcome.kind ≠ .leased → outcome.lease ≠ none → outcome.rejections = [] ∧
    (s.activeOwner c.request.sessionId c.request.taskId).isSome

theorem exec_acquireOutcome
    (hsession : text c.request.sessionId "session_id" 128 = .ok c.request.sessionId)
    (htask : text c.request.taskId "task_id" 256 = .ok c.request.taskId)
    (h : (acquireOutcome c).run.exec s = (.ok outcome, s', notes)) : Reported c s outcome := by
  obtain ⟨hotspotKey, s₁, _, _, hhotspot, h⟩ := exec_bind_eq_ok h
  obtain ⟨-, rfl⟩ := exec_raiseOr_eq_ok hhotspot
  obtain ⟨found, s₂, _, _, hfound, h⟩ := exec_bind_eq_ok h
  obtain ⟨hread, hsame⟩ := exec_readStore_eq_ok hfound
  have hstore : s = s₂ := hsame
  subst hstore
  have howner : s.activeOwner c.request.sessionId c.request.taskId = found := by
    unfold findActiveOwnerTask at hread
    rw [hsession, htask] at hread
    cases hread
    rfl
  cases found with
  | some existing =>
    have hanswer : outcome.rejections = [] ∧ outcome.kind ≠ .leased ∧ outcome.lease ≠ none := by
      obtain ⟨matching, s₃, _, _, -, h⟩ := exec_bind_eq_ok h
      obtain ⟨health, s₄, _, _, -, h⟩ := exec_bind_eq_ok h
      obtain ⟨latest, s₅, _, _, -, h⟩ := exec_bind_eq_ok h
      cases h
      refine ⟨rfl, ?_, nofun⟩
      dsimp only
      split <;> nofun
    obtain ⟨hnone, hkind, hlease⟩ := hanswer
    refine ⟨?_, fun hleased => absurd hleased hkind, fun hnil => absurd hnil hlease,
      fun _ _ => ⟨hnone, by rw [howner]; rfl⟩⟩
    rw [hnone]
    exact fun r hr => absurd hr not_mem_nil
  | none =>
    dsimp only at h
    by_cases hnodup : (c.candidates.map fun item => item.workerId).Nodup
    · rw [if_pos hnodup] at h
      obtain ⟨added, heq, hexplained, hend⟩ := exec_tryWorkers _ _ _ h
      rw [nil_append] at heq
      subst heq
      cases hend with
      | none nothing kind all =>
        exact ⟨hexplained, fun hleased => absurd hleased kind, fun _ => all,
          fun _ hlease => absurd nothing hlease⟩
      | @leased k item lease kind leaseGiven before at_ found fit =>
        obtain ⟨hmem, hworker⟩ := candidate?_worker found
        refine ⟨hexplained, fun _ => ⟨k, lease, item, leaseGiven, at_, before, hmem, hworker, fit⟩,
          ?_, fun hkind => absurd kind hkind⟩
        rw [leaseGiven]
        exact nofun
      | existing kind owned =>
        rw [howner] at owned
        cases owned
    · rw [if_neg hnodup] at h
      cases h

/-- Without interleaving, a call with a request that passed its constructor reports exactly the
    workers it passes over, each once and with its reason, in the order of the request: those
    before the worker it leases, which passes every condition of the preflight, or all of them
    when it leases none. -/
theorem broker_explains_choice (c : BrokerCall) (given : WorkerLeaseRequest)
    (leaseTtlSeconds : Int) (s s' : LeaseStore) (outcome : WorkerLeaseOutcome)
    (notes : List BrokerNote)
    (hbuilt : given.postInit leaseTtlSeconds = .ok c.request.toWorkerLeaseRequest)
    (h : (acquire c).exec s = (.ok outcome, s', notes)) :
    c.request.orderedWorkerIds.Nodup ∧ Reported c s outcome := by
  obtain ⟨hsession, htask, hnodup⟩ := postInit_read hbuilt
  obtain ⟨answered, s₁, _, _, hanswered, h⟩ := exec_bind_eq_ok h
  have hsame : answered = outcome := by
    cases h
    rfl
  subst hsame
  exact ⟨hnodup, exec_acquireOutcome hsession htask hanswered⟩

/-- A call for two workers, the first of which nobody describes. -/
def secondWorkerCall : BrokerCall :=
  { raceCall with
    request := { raceCall.request with orderedWorkerIds := ["w0", "w1"] } }

theorem broker_explains_choice_second :
    secondWorkerCall.request.orderedWorkerIds.Nodup ∧
      Reported secondWorkerCall .empty
        ⟨.leased, some { raceLease with leaseId := "l2" }, [⟨"w0", .candidateMissing⟩]⟩ :=
  broker_explains_choice secondWorkerCall secondWorkerCall.request.toWorkerLeaseRequest 300 .empty
    ⟨[{ raceLease with leaseId := "l2" }], []⟩ _
    [.tried (.ok (.instant 0)) none,
      .returned (.ok (.instant 0))
        ⟨.leased, some { raceLease with leaseId := "l2" }, [⟨"w0", .candidateMissing⟩]⟩]
    (by decide +kernel) (by decide +kernel)

/-- A call whose owner task has a lease already leases no worker and passes none over. -/
theorem existing_answer_passes_none :
    ¬ ∀ (c : BrokerCall) (given : WorkerLeaseRequest) (leaseTtlSeconds : Int) (s s' : LeaseStore)
      (outcome : WorkerLeaseOutcome) (notes : List BrokerNote),
      given.postInit leaseTtlSeconds = .ok c.request.toWorkerLeaseRequest →
      (acquire c).exec s = (.ok outcome, s', notes) → outcome.kind ≠ .leased →
      outcome.rejections.map CandidateRejection.workerId = c.request.orderedWorkerIds := by
  intro h
  have hall := h raceCall raceCall.request.toWorkerLeaseRequest 300 ⟨[raceLease], []⟩
    ⟨[raceLease], []⟩ ⟨.existing, some raceLease, []⟩
    [.returned (.ok (.instant 0)) ⟨.existing, some raceLease, []⟩] (by decide +kernel)
    (by decide +kernel) (by decide)
  cases hall

end AConductor.Lease

import AConductor.WorkerLease.Request
import AConductor.WorkerLease.Broker
import AConductor.Graph.GlobLanguage

/-!
# ZCode: the write scope of a launch

The scope gates of the mutation-capable assembly
(`src/a_conductor/zcode_production_assembly.py:344-369`) and the launch-time guard
`WorkerLeasePreDispatchGuard.check` (`src/a_conductor/pre_dispatch_guard.py:280-342`), against
the paths that the expressions stand for under `fnmatch.fnmatchcase`. That a mutable pattern has no
path in common with a forbidden one rests on the comparison that the request's constructor makes,
before the scopes go through JSON.
-/

namespace AConductor.ZCode

open Lease AConductor.Graph Fnmatch List Except

/-- Some expression is a forbidden one or matches one, as text. -/
def namesForbidden (forbidden requested : List PyStr) : Bool :=
  requested.any fun expression => decide (expression ∈ forbidden) ||
    forbidden.any fun pattern => fnmatchcase expression pattern

/-- The scope gates of the mutation-capable assembly
    (`zcode_production_assembly.py:344-369`). -/
def mutationScopeGates (lease : WorkerLease) (requested : List PyStr) : Except String Unit := do
  rejectIf (lease.mutationIntent ≠ .mutation) "ZCODE_LEASE_MUTATION_INTENT_INSUFFICIENT"
  rejectIf (requested = []) "ZCODE_MUTABLE_SCOPE_REQUIRED"
  rejectIf (mutableScopeIsAuthorized lease.allowedScope requested = false)
    "ZCODE_SCOPE_NOT_AUTHORIZED"
  rejectIf (mutableScopeIsAuthorized lease.mutableScope requested = false)
    "ZCODE_SCOPE_OUTSIDE_MUTABLE"
  rejectIf (namesForbidden lease.forbiddenScope requested = true) "ZCODE_SCOPE_FORBIDDEN"

/-- What the health reader answers: it raises, it answers something that is no `LeaseHealth`, or
    a `LeaseHealth`, whose lease is a `WorkerLease` or not. -/
inductive HealthReading where
  | raised
  | malformed
  | health (kind : LeaseHealthKind) (lease : Option WorkerLease)
  deriving DecidableEq, Repr

/-- `PreDispatchGuardDecision` (`pre_dispatch_guard.py:205-223`). -/
inductive PreDispatchGuardDecision where
  | allow (reasonCode : String)
  | deny (reasonCode : String)
  deriving DecidableEq, Repr

/-- `_NON_ACTIVE_REASONS` (`pre_dispatch_guard.py:47-52`). -/
def nonActiveReason : LeaseHealthKind → Option String
  | .active => none
  | .stale => some "LEASE_STALE"
  | .quarantined => some "LEASE_QUARANTINED"
  | .released => some "LEASE_RELEASED"
  | .expiryUnknown => some "LEASE_EXPIRY_UNKNOWN"

/-- `WorkerLeasePreDispatchGuard` (`pre_dispatch_guard.py:241-277`), less its reader and clock. -/
structure WorkerLeasePreDispatchGuard where
  baseline : WorkerLease
  requested : List PyStr
  deriving DecidableEq, Repr

/-- The observed lease agrees with the baseline (`pre_dispatch_guard.py:294-326`). -/
def agreesWith (casefold : String → String) (baseline observed : WorkerLease) :
    Except String Unit := do
  rejectIf (observed.leaseId ≠ baseline.leaseId) "LEASE_ID_MISMATCH"
  rejectIf (observed.workerId ≠ baseline.workerId) "LEASE_WORKER_MISMATCH"
  rejectIf (observed.sessionId ≠ baseline.sessionId) "LEASE_SESSION_MISMATCH"
  rejectIf (observed.taskId ≠ baseline.taskId) "LEASE_TASK_MISMATCH"
  rejectIf (observed.projectId ≠ baseline.projectId) "LEASE_PROJECT_MISMATCH"
  rejectIf (observed.worktreeKey ≠ baseline.worktreeKey) "LEASE_WORKTREE_MISMATCH"
  rejectIf (observed.branch ≠ baseline.branch) "LEASE_BRANCH_MISMATCH"
  rejectIf (casefold observed.expectedHead ≠ casefold baseline.expectedHead)
    "LEASE_HEAD_MISMATCH"
  rejectIf (observed.hotspotKey ≠ baseline.hotspotKey) "LEASE_HOTSPOT_MISMATCH"
  rejectIf (sameSet observed.requiredCapabilities baseline.requiredCapabilities = false)
    "LEASE_CAPABILITIES_MISMATCH"
  rejectIf (observed.runtimeId ≠ baseline.runtimeId) "LEASE_RUNTIME_MISMATCH"
  rejectIf (observed.leaseTtlSeconds ≠ baseline.leaseTtlSeconds) "LEASE_TTL_MISMATCH"
  rejectIf (observed.mutationIntent ≠ baseline.mutationIntent) "LEASE_INTENT_MISMATCH"
  rejectIf (sameSet observed.allowedScope baseline.allowedScope = false)
    "LEASE_ALLOWED_SCOPE_MISMATCH"
  rejectIf (sameSet observed.forbiddenScope baseline.forbiddenScope = false)
    "LEASE_FORBIDDEN_SCOPE_MISMATCH"
  rejectIf (sameSet observed.mutableScope baseline.mutableScope = false)
    "LEASE_MUTABLE_SCOPE_MISMATCH"

/-- The requested scope against the observed lease (`pre_dispatch_guard.py:327-338`). An empty
    scope passes all three checks, which the source skips for it. -/
def requestedWithin (observed : WorkerLease) (requested : List PyStr) : Except String Unit := do
  rejectIf (mutableScopeIsAuthorized observed.allowedScope requested = false)
    "REQUESTED_SCOPE_NOT_AUTHORIZED"
  rejectIf (mutableScopeIsAuthorized observed.mutableScope requested = false)
    "REQUESTED_SCOPE_OUTSIDE_MUTABLE"
  rejectIf (namesForbidden observed.forbiddenScope requested = true)
    "REQUESTED_SCOPE_FORBIDDEN"

/-- The reason to deny, if there is one. -/
def WorkerLeasePreDispatchGuard.verdict (guard : WorkerLeasePreDispatchGuard)
    (casefold : String → String) : HealthReading → Except String Unit
  | .raised => .error "LEASE_HEALTH_UNAVAILABLE"
  | .malformed => .error "LEASE_HEALTH_INVALID"
  | .health kind lease =>
    if kind ≠ .active then .error ((nonActiveReason kind).getD "LEASE_NOT_ACTIVE")
    else match lease with
      | none => .error "LEASE_HEALTH_INVALID"
      | some observed => do
        agreesWith casefold guard.baseline observed
        requestedWithin observed guard.requested

/-- `WorkerLeasePreDispatchGuard.check` (`pre_dispatch_guard.py:280-342`). -/
def WorkerLeasePreDispatchGuard.check (guard : WorkerLeasePreDispatchGuard)
    (casefold : String → String) (reading : HealthReading) : PreDispatchGuardDecision :=
  match guard.verdict casefold reading with
  | .ok () => .allow "PRE_DISPATCH_ALLOWED"
  | .error reasonCode => .deny reasonCode

/-- Some pattern stands for the path. -/
def Covers (patterns : List PyStr) (path : PyStr) : Prop :=
  ∃ pattern ∈ patterns, fnmatchcase path pattern = true

variable {allowed mutable : List PyStr}

/-- An authorized expression is among the patterns, or a name that one of them matches. -/
theorem mem_of_authorized {expression : PyStr}
    (h : mutableScopeIsAuthorized allowed mutable = true) (hmem : expression ∈ mutable) :
    expression ∈ allowed ∨ (literal expression = true ∧ Covers allowed expression) := by
  unfold mutableScopeIsAuthorized at h
  have hexpression := all_eq_true.mp h expression hmem
  simpa [Covers] using hexpression

variable {path : PyStr}

/-- The paths of an authorized scope are paths of the patterns. -/
theorem covers_of_authorized
    (h : mutableScopeIsAuthorized allowed mutable = true) (hpath : Covers mutable path) :
    Covers allowed path := by
  obtain ⟨expression, hmem, hmatch⟩ := hpath
  rcases mem_of_authorized h hmem with hallowed | ⟨hliteral, hcovers⟩
  · exact ⟨expression, hallowed, hmatch⟩
  · rw [(fnmatchcase_literal hliteral).mp hmatch]
    exact hcovers

/-- What both gates have checked of a requested scope. -/
structure Contained (allowed forbidden mutable requested : List PyStr) : Prop where
  allowed : mutableScopeIsAuthorized allowed requested = true
  mutable : mutableScopeIsAuthorized mutable requested = true
  unforbidden : namesForbidden forbidden requested = false

theorem mutationScopeGates_ok {lease : WorkerLease} {requested : List PyStr}
    (h : mutationScopeGates lease requested = .ok ()) :
    Contained lease.allowedScope lease.forbiddenScope lease.mutableScope requested := by
  unfold mutationScopeGates at h
  iterate 2 obtain ⟨_, -, h⟩ := bind_eq_ok.mp h
  obtain ⟨_, hallowed, h⟩ := bind_eq_ok.mp h
  obtain ⟨_, hmutable, hforbidden⟩ := bind_eq_ok.mp h
  rw [rejectIf_eq_ok] at hallowed hmutable hforbidden
  exact ⟨Bool.not_eq_false _ ▸ hallowed, Bool.not_eq_false _ ▸ hmutable,
    Bool.not_eq_true _ ▸ hforbidden⟩

theorem requestedWithin_ok {observed : WorkerLease} {requested : List PyStr}
    (h : requestedWithin observed requested = .ok ()) :
    Contained observed.allowedScope observed.forbiddenScope observed.mutableScope requested := by
  unfold requestedWithin at h
  obtain ⟨_, hallowed, h⟩ := bind_eq_ok.mp h
  obtain ⟨_, hmutable, hforbidden⟩ := bind_eq_ok.mp h
  rw [rejectIf_eq_ok] at hallowed hmutable hforbidden
  exact ⟨Bool.not_eq_false _ ▸ hallowed, Bool.not_eq_false _ ▸ hmutable,
    Bool.not_eq_true _ ▸ hforbidden⟩

theorem sameSet_mem {a b : List PyStr} (h : sameSet a b = true) (x : PyStr) : x ∈ a ↔ x ∈ b := by
  unfold sameSet at h
  simp only [Bool.and_eq_true, all_eq_true, decide_eq_true_eq] at h
  exact ⟨h.1 x, h.2 x⟩

theorem any_congr_mem {a b : List PyStr} {p : PyStr → Bool} (h : ∀ x, x ∈ a ↔ x ∈ b) :
    a.any p = b.any p := by
  rw [Bool.eq_iff_iff, any_eq_true, any_eq_true]
  simp only [h]

/-- The checks read a scope of the lease as a set. -/
theorem Contained.of_sameSet {allowed forbidden mutable allowed' forbidden' mutable' requested :
    List PyStr} (h : Contained allowed forbidden mutable requested)
    (hallowed : sameSet allowed allowed' = true) (hforbidden : sameSet forbidden forbidden' = true)
    (hmutable : sameSet mutable mutable' = true) :
    Contained allowed' forbidden' mutable' requested := by
  have hauthorized {a b : List PyStr} (hsame : sameSet a b = true)
      (ha : mutableScopeIsAuthorized a requested = true) :
      mutableScopeIsAuthorized b requested = true := by
    unfold mutableScopeIsAuthorized at ha ⊢
    simp only [sameSet_mem hsame, any_congr_mem (sameSet_mem hsame)] at ha
    exact ha
  refine ⟨hauthorized hallowed h.allowed, hauthorized hmutable h.mutable, ?_⟩
  have hnames := h.unforbidden
  unfold namesForbidden at hnames ⊢
  simp only [sameSet_mem hforbidden, any_congr_mem (sameSet_mem hforbidden)] at hnames
  exact hnames

/-- A launch that the guard allows has a scope contained in the lease's. -/
theorem check_allows {guard : WorkerLeasePreDispatchGuard} {casefold : String → String}
    {reading : HealthReading} {reasonCode : String}
    (h : guard.check casefold reading = .allow reasonCode) :
    Contained guard.baseline.allowedScope guard.baseline.forbiddenScope
      guard.baseline.mutableScope guard.requested := by
  unfold WorkerLeasePreDispatchGuard.check at h
  cases hverdict : guard.verdict casefold reading with
  | error code =>
    rw [hverdict] at h
    cases h
  | ok =>
    unfold WorkerLeasePreDispatchGuard.verdict at hverdict
    cases reading with
    | raised => cases hverdict
    | malformed => cases hverdict
    | health kind lease =>
      dsimp only at hverdict
      split at hverdict
      · cases hverdict
      · cases lease with
        | none => cases hverdict
        | some observed =>
          obtain ⟨_, hagrees, hwithin⟩ := bind_eq_ok.mp hverdict
          unfold agreesWith at hagrees
          iterate 13 obtain ⟨_, -, hagrees⟩ := bind_eq_ok.mp hagrees
          obtain ⟨_, hallowed, hagrees⟩ := bind_eq_ok.mp hagrees
          obtain ⟨_, hforbidden, hmutable⟩ := bind_eq_ok.mp hagrees
          rw [rejectIf_eq_ok, Bool.not_eq_false] at hallowed hforbidden hmutable
          exact (requestedWithin_ok hwithin).of_sameSet hallowed hforbidden hmutable

/-- What no gate takes for forbidden as a text is apart from the forbidden patterns. -/
def ApartUnlessNamed (forbidden mutable : List PyStr) : Prop :=
  ∀ pattern ∈ mutable, namesForbidden forbidden [pattern] = false →
    ∀ other ∈ forbidden, pathsOverlap pattern other = false

/-- A path of a contained scope lies in the allowed and in the mutable patterns, and in no
    forbidden one. -/
theorem Contained.covers {allowed forbidden mutable requested : List PyStr}
    (h : Contained allowed forbidden mutable requested) (hapart : ApartUnlessNamed forbidden mutable)
    (hplain : ∀ pattern ∈ mutable ++ forbidden, .char '[' ∉ pattern)
    (hpath : Covers requested path) :
    Covers allowed path ∧ Covers mutable path ∧ ¬ Covers forbidden path := by
  refine ⟨covers_of_authorized h.allowed hpath, covers_of_authorized h.mutable hpath, ?_⟩
  obtain ⟨expression, hmem, hmatch⟩ := hpath
  rintro ⟨pattern, hpattern, hforbidden⟩
  have hunnamed : namesForbidden forbidden [expression] = false := by
    have hall := any_eq_false.mp h.unforbidden expression hmem
    simpa [namesForbidden] using hall
  rcases mem_of_authorized h.mutable hmem with hmutable | ⟨hliteral, -⟩
  · have hoverlap := pathsOverlap_of_matches
      (bracketsRead_of_noClass (hplain _ (mem_append_left _ hmutable)))
      (bracketsRead_of_noClass (hplain _ (mem_append_right _ hpattern))) hmatch hforbidden
    rw [hapart _ hmutable hunnamed _ hpattern] at hoverlap
    cases hoverlap
  · -- a name is its only path, and the gate has compared it with every forbidden pattern
    rw [(fnmatchcase_literal hliteral).mp hmatch] at hforbidden
    have hnames : namesForbidden forbidden [expression] = true := by
      unfold namesForbidden
      rw [any_eq_true]
      refine ⟨expression, mem_singleton_self _, ?_⟩
      rw [Bool.or_eq_true, any_eq_true]
      exact .inr ⟨pattern, hpattern, hforbidden⟩
    rw [hunnamed] at hnames
    cases hnames

/-- The patterns of the lease have no bracket. -/
def NoBracket (l : WorkerLease) : Prop :=
  ∀ pattern ∈ l.allowedScope ++ l.forbiddenScope ++ l.mutableScope, .char '[' ∉ pattern

/-- Where the guards of an acquisition pass for a lease whose mutable and forbidden scopes are
    disjoint as they are given, they are apart as the row holds them. -/
def ForbiddenSettled (s : LeaseStore) (call : LeaseCall) : Prop :=
  ∀ lease, call.Admits s lease →
    writeSetsOverlap lease.mutableScope lease.forbiddenScope = false →
    NoBracket lease.stored →
      ApartUnlessNamed lease.stored.forbiddenScope lease.stored.mutableScope

/-- A settled call keeps the scopes of every lease apart. -/
theorem leaseStep_apart {s : LeaseStore} {call : LeaseCall} (hbuilt : call.Built)
    (hsettled : ForbiddenSettled s call)
    (h : ∀ l ∈ s.leases, NoBracket l → ApartUnlessNamed l.forbiddenScope l.mutableScope) :
    ∀ l ∈ (leaseStep s call).2.leases,
      NoBracket l → ApartUnlessNamed l.forbiddenScope l.mutableScope := by
  have hw := leaseStep_write s call
  generalize (leaseStep s call).2 = s' at hw ⊢
  cases hw with
  | nothing => exact h
  | leased proposed unfenced scanned freshId freshWorker freshOwner =>
    intro l hl
    rcases mem_append.mp hl with hl | hl
    · exact h l hl
    · obtain rfl := mem_singleton.mp hl
      obtain ⟨given, leaseTtlSeconds, hrequest⟩ := hbuilt
      have hfor := proposedLease_for proposed
      refine hsettled _ ⟨proposed, unfenced, scanned, freshId, freshWorker, freshOwner⟩ ?_
      rw [hfor.mutableScope, hfor.forbiddenScope]
      exact postInit_disjoint hrequest
  | rewrote mem unreleased rewrite =>
    intro l hl
    obtain ⟨row, hrow, rfl⟩ := mem_map.mp hl
    split
    · cases rewrite <;> exact h row hrow
    · exact h row hrow
  | reserved => exact h
  | moved => exact h

/-- The scope gates of the assembly, or the guard at launch, let a requested scope pass with a
    stored lease without brackets only if every path of it lies in the lease's allowed and mutable
    scope and outside its forbidden one; in a store whose acquisitions were settled. -/
theorem requested_scope_contained (calls : List LeaseCall) (hbuilt : ∀ call ∈ calls, call.Built)
    (hsettled : Machine.Along leaseStep ForbiddenSettled LeaseStore.empty calls)
    (lease : WorkerLease) (hlease : lease ∈ (leasesAfter calls).leases)
    (hplain : ∀ pattern ∈ lease.allowedScope ++ lease.forbiddenScope ++ lease.mutableScope,
      .char '[' ∉ pattern)
    (requested : List PyStr)
    (hgate : mutationScopeGates lease requested = .ok () ∨
      ∃ (casefold : String → String) (reading : HealthReading) (reasonCode : String),
        (WorkerLeasePreDispatchGuard.mk lease requested).check casefold reading =
          .allow reasonCode) :
    ∀ expression ∈ requested, ∀ path, fnmatchcase path expression = true →
      (∃ pattern ∈ lease.allowedScope, fnmatchcase path pattern = true) ∧
      (∃ pattern ∈ lease.mutableScope, fnmatchcase path pattern = true) ∧
      ∀ pattern ∈ lease.forbiddenScope, fnmatchcase path pattern = false := by
  intro expression hmem path hmatch
  have hcontained : Contained lease.allowedScope lease.forbiddenScope lease.mutableScope
      requested := by
    rcases hgate with hgates | ⟨casefold, reading, reasonCode, hallow⟩
    · exact mutationScopeGates_ok hgates
    · exact check_allows hallow
  have hapart : ∀ l ∈ (leasesAfter calls).leases,
      NoBracket l → ApartUnlessNamed l.forbiddenScope l.mutableScope :=
    hsettled.kept (P := fun s : LeaseStore =>
        ∀ l ∈ s.leases, NoBracket l → ApartUnlessNamed l.forbiddenScope l.mutableScope)
      (fun s call hcall hfit h => leaseStep_apart (hbuilt call hcall) hfit h)
      fun l hl => absurd hl not_mem_nil
  have hbrackets : ∀ pattern ∈ lease.mutableScope ++ lease.forbiddenScope,
      .char '[' ∉ pattern := by
    intro pattern hpattern
    apply hplain
    simp only [mem_append] at hpattern ⊢
    rcases hpattern with hpattern | hpattern
    · exact .inr hpattern
    · exact .inl (.inr hpattern)
  obtain ⟨hallowed, hmutable, hforbidden⟩ :=
    hcontained.covers (hapart lease hlease hplain) hbrackets ⟨expression, hmem, hmatch⟩
  refine ⟨hallowed, hmutable, ?_⟩
  intro pattern hpattern
  rw [Bool.eq_false_iff]
  exact fun hpath => hforbidden ⟨pattern, hpattern, hpath⟩

/-- A request for one scope without another one. -/
def scopeRequest (mutable forbidden : PyStr) : WorkerLeaseRequest :=
  { sampleRequest "t1" "w1" "" with
    allowedScope := [mutable], mutableScope := [mutable], forbiddenScope := [forbidden] }

def scopeCall (mutable forbidden : PyStr) : LeaseCall :=
  .tryAcquireResult ⟨id, fun _ => some "h"⟩ (scopeRequest mutable forbidden) ⟨"w1", none⟩ "l1"
    (.ok (.instant 0)) none

def srcCalls : List LeaseCall := [scopeCall (.lit "src/*") (.lit "docs/*")]

theorem srcCalls_built : ∀ call ∈ srcCalls, call.Built := by
  intro call hcall
  obtain rfl := mem_singleton.mp hcall
  exact ⟨scopeRequest (.lit "src/*") (.lit "docs/*"), 300, by decide +kernel⟩

theorem srcCalls_settled :
    Machine.Along leaseStep ForbiddenSettled LeaseStore.empty srcCalls := by
  refine ⟨?_, trivial⟩
  intro lease hlease _ _ pattern hpattern _ other hother
  have hfor := proposedLease_for hlease.1
  have hmutable : lease.stored.mutableScope = [.lit "src/*"] :=
    (congrArg readBack hfor.mutableScope).trans (by decide +kernel)
  have hforbidden : lease.stored.forbiddenScope = [.lit "docs/*"] :=
    (congrArg readBack hfor.forbiddenScope).trans (by decide +kernel)
  rw [hmutable, mem_singleton] at hpattern
  rw [hforbidden, mem_singleton] at hother
  rw [hpattern, hother]
  decide +kernel

/-- The scope `src/a.py` passes the gates, and its one path is where it should be. -/
theorem requested_scope_contained_name :
    ∃ lease ∈ (leasesAfter srcCalls).leases,
      (∃ pattern ∈ lease.allowedScope, fnmatchcase (.lit "src/a.py") pattern = true) ∧
      (∃ pattern ∈ lease.mutableScope, fnmatchcase (.lit "src/a.py") pattern = true) ∧
      ∀ pattern ∈ lease.forbiddenScope, fnmatchcase (.lit "src/a.py") pattern = false := by
  obtain ⟨lease, hlease, hplain, hgate⟩ : ∃ lease ∈ (leasesAfter srcCalls).leases,
      (∀ pattern ∈ lease.allowedScope ++ lease.forbiddenScope ++ lease.mutableScope,
        .char '[' ∉ pattern) ∧ mutationScopeGates lease [.lit "src/a.py"] = .ok () := by
    decide +kernel
  exact ⟨lease, hlease, requested_scope_contained _ srcCalls_built srcCalls_settled lease hlease
    hplain _ (.inl hgate) (.lit "src/a.py") mem_cons_self (.lit "src/a.py") (by decide)⟩

/-- The mutable scope begins with the two surrogates of the character that the forbidden one begins
    with. The constructor tells them apart; in the row they overlap, and no gate compares them
    again. -/
theorem joined_scope_escapes :
    ¬ ∀ calls : List LeaseCall, (∀ call ∈ calls, call.Built) →
      ∀ lease ∈ (leasesAfter calls).leases,
      (∀ pattern ∈ lease.allowedScope ++ lease.forbiddenScope ++ lease.mutableScope,
        .char '[' ∉ pattern) →
      ∀ requested, mutationScopeGates lease requested = .ok () →
        ∀ expression ∈ requested, ∀ path, fnmatchcase path expression = true →
          ∀ pattern ∈ lease.forbiddenScope, fnmatchcase path pattern = false := by
  let split : PyStr := [.surrogate 61, .surrogate 1536, .char '*']
  intro h
  have hbuilt : ∀ call ∈ [scopeCall split (.lit "😀a")], call.Built := by
    intro call hcall
    obtain rfl := mem_singleton.mp hcall
    exact ⟨scopeRequest split (.lit "😀a"), 300, by decide +kernel⟩
  obtain ⟨lease, hlease, hplain, hgate, hforbidden⟩ :
      ∃ lease ∈ (leasesAfter [scopeCall split (.lit "😀a")]).leases,
        (∀ pattern ∈ lease.allowedScope ++ lease.forbiddenScope ++ lease.mutableScope,
          .char '[' ∉ pattern) ∧ mutationScopeGates lease [.lit "😀*"] = .ok () ∧
        lease.forbiddenScope = [.lit "😀a"] := by
    decide +kernel
  have hfree := h _ hbuilt lease hlease hplain [.lit "😀*"] hgate (.lit "😀*")
    mem_cons_self (.lit "😀a") (by decide) (.lit "😀a") (by simp [hforbidden])
  revert hfree
  decide

end AConductor.ZCode

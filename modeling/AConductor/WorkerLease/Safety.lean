import AConductor.WorkerLease.Spec
import AConductor.Lib.Machine

/-!
# Worker leases: mutual exclusion

Two exclusion facts hold in every store that calls can reach: the unique indexes of
`worker_leases` keep them. A third, that mutation leases of one hotspot write disjoint
scopes, is left to the scan of `try_acquire_result`, which compares the scope of the
request as it is given, while the row holds the scope as JSON gives it back.
-/

namespace AConductor.Lease

open Txn AConductor.Graph

/-- The hotspot on which a lease may write now. -/
def WorkerLease.writingHotspot (l : WorkerLease) : Option String :=
  if l.unreleased && l.mutationIntent = .mutation then l.hotspotKey else none

/-- What two leases that write on one hotspot keep of each other. -/
def OnHotspot (apart : WorkerLease → WorkerLease → Prop) (a b : WorkerLease) : Prop :=
  ∀ k, a.writingHotspot = some k → b.writingHotspot = some k → apart a b

/-- Two leases write disjoint scopes. -/
def ScopesDisjoint (a b : WorkerLease) : Prop :=
  writeSetsOverlap a.mutableScope b.mutableScope = false

instance : Std.Symm (OnHotspot ScopesDisjoint) where
  symm a b h k hb ha := by
    unfold ScopesDisjoint
    rw [writeSetsOverlap_comm]
    exact h k ha hb

/-- The exclusion facts, as the tables carry them. -/
structure LeasesExclusive (s : LeaseStore) : Prop where
  workers : Table.Unique WorkerLease.activeWorkerKey s.leases
  owners : Table.Unique WorkerLease.activeOwnerKey s.leases

theorem leasesExclusive_empty : LeasesExclusive LeaseStore.empty :=
  ⟨Table.unique_nil _, Table.unique_nil _⟩

/-- The reservations play no part in the exclusion facts. -/
theorem LeasesExclusive.of_leases {s s' : LeaseStore} (h : LeasesExclusive s)
    (heq : s'.leases = s.leases) : LeasesExclusive s' := by
  obtain ⟨workers, owners⟩ := h
  constructor
  · rw [heq]; exact workers
  · rw [heq]; exact owners

variable {l lease : WorkerLease} {s : LeaseStore} {f : WorkerLease → WorkerLease}

theorem writingHotspot_eq_some {k : String} : l.writingHotspot = some k ↔
      (l.unreleased = true ∧ l.mutationIntent = .mutation) ∧ l.hotspotKey = some k := by
  simp [WorkerLease.writingHotspot]

/-- The scan reads every lease that writes on the hotspot. -/
theorem mem_hotspotRows {row : WorkerLease} (hrow : row ∈ s.leases) {k : String}
    (hk : row.writingHotspot = some k) : row ∈ s.hotspotRows (some k) := by
  obtain ⟨⟨hunreleased, hmutation⟩, hkey⟩ := writingHotspot_eq_some.mp hk
  simp [LeaseStore.hotspotRows, hrow, hunreleased, hmutation, hkey]

/-- An update of a row that can only end the lease: what the exclusion facts read is
    kept, and a released lease is not reopened. -/
structure KeepsClaims (f : WorkerLease → WorkerLease) : Prop where
  workerId : ∀ l, (f l).workerId = l.workerId
  sessionId : ∀ l, (f l).sessionId = l.sessionId
  taskId : ∀ l, (f l).taskId = l.taskId
  scopes : ∀ l, (f l).mutableScope = l.mutableScope ∧ (f l).forbiddenScope = l.forbiddenScope
  mutationIntent : ∀ l, (f l).mutationIntent = l.mutationIntent
  hotspotKey : ∀ l, (f l).hotspotKey = l.hotspotKey
  releasedAt : ∀ l, (f l).releasedAt = l.releasedAt ∨ (f l).unreleased = false

theorem KeepsClaims.unreleased (hf : KeepsClaims f) (h : (f l).unreleased = true) :
    l.unreleased = true := by
  rcases hf.releasedAt l with hsame | hout
  · unfold WorkerLease.unreleased at h ⊢
    rwa [hsame] at h
  · rw [hout] at h
    cases h

theorem KeepsClaims.writingHotspot (hf : KeepsClaims f) {k : String}
    (h : (f l).writingHotspot = some k) : l.writingHotspot = some k := by
  rw [writingHotspot_eq_some, hf.mutationIntent l, hf.hotspotKey l] at h
  exact writingHotspot_eq_some.mpr ⟨⟨hf.unreleased h.1.1, h.1.2⟩, h.2⟩

variable {apart : WorkerLease → WorkerLease → Prop}

/-- Leases whose scopes are apart on a hotspot, by whatever test, stay so. -/
theorem KeepsClaims.pairwise (hf : KeepsClaims f) (p : WorkerLease → Bool)
    {leases : List WorkerLease}
    (hapart : ∀ a b a' b' : WorkerLease, a'.mutableScope = a.mutableScope →
      a'.forbiddenScope = a.forbiddenScope → b'.mutableScope = b.mutableScope →
      b'.forbiddenScope = b.forbiddenScope → apart a b → apart a' b')
    (h : leases.Pairwise (OnHotspot apart)) :
    (Table.updateWhere p f leases).Pairwise (OnHotspot apart) := by
  have scopes : ∀ l, (if p l then f l else l).mutableScope = l.mutableScope ∧
      (if p l then f l else l).forbiddenScope = l.forbiddenScope := by
    intro l
    split
    · exact hf.scopes l
    · exact ⟨rfl, rfl⟩
  have hotspot : ∀ l k, (if p l then f l else l).writingHotspot = some k →
      l.writingHotspot = some k := by
    intro l k hk
    split at hk
    · exact hf.writingHotspot hk
    · exact hk
  apply Table.pairwise_updateWhere h
  intro a b hab k ha hb
  exact hapart a b _ _ (scopes a).1 (scopes a).2 (scopes b).1 (scopes b).2
    (hab k (hotspot a k ha) (hotspot b k hb))

theorem KeepsClaims.key {K : Type} (hf : KeepsClaims f) (key : WorkerLease → K)
    (hkey : ∀ l, key (f l) = key l) (l : WorkerLease) :
    (if (f l).unreleased then some (key (f l)) else none) =
        (if l.unreleased then some (key l) else none) ∨
      (if (f l).unreleased then some (key (f l)) else none) = none := by
  by_cases hu : (f l).unreleased = true
  · left
    rw [if_pos hu, if_pos (hf.unreleased hu), hkey]
  · right
    rw [if_neg hu]

theorem LeasesExclusive.updateLease (h : LeasesExclusive s) (hf : KeepsClaims f)
    (p : WorkerLease → Bool) :
    LeasesExclusive { s with leases := Table.updateWhere p f s.leases } := by
  constructor
  · exact h.workers.updateWhere fun r _ => hf.key WorkerLease.workerId hf.workerId r
  · refine h.owners.updateWhere fun r _ => hf.key (fun l => (l.sessionId, l.taskId)) ?_ r
    intro l
    rw [hf.sessionId, hf.taskId]

variable {call : LeaseCall}

theorem LeaseRewrite.keepsClaims (h : LeaseRewrite lease call f) : KeepsClaims f := by
  cases h with
  | heartbeat => constructor <;> intro l <;> first | rfl | exact ⟨rfl, rfl⟩ | exact .inl rfl
  | release => constructor <;> intro l <;> first | rfl | exact ⟨rfl, rfl⟩ | exact .inr rfl
  | reconcileRelease => constructor <;> intro l <;> first | rfl | exact ⟨rfl, rfl⟩ | exact .inr rfl
  | quarantine => constructor <;> intro l <;> first | rfl | exact ⟨rfl, rfl⟩ | exact .inl rfl

theorem LeaseWrite.exclusive {s s' : LeaseStore} (hw : LeaseWrite s call s')
    (h : LeasesExclusive s) : LeasesExclusive s' := by
  cases hw with
  | nothing => exact h
  | leased proposed unfenced scanned freshId freshWorker freshOwner =>
    exact ⟨h.workers.insert freshWorker, h.owners.insert freshOwner⟩
  | rewrote mem unreleased rewrite => exact h.updateLease rewrite.keepsClaims _
  | reserved => exact h.of_leases rfl
  | moved => exact h.of_leases rfl

/-- Any number of calls keeps the exclusion facts. -/
theorem reachable_exclusive (h : Machine.Reachable leaseStep LeaseStore.empty s) :
    LeasesExclusive s :=
  h.induction leasesExclusive_empty fun s call hs => (leaseStep_write s call).exclusive hs

/-- The guards of `try_acquire_result` pass for the lease that the acquisition proposes. -/
def LeaseCall.Admits (s : LeaseStore) (lease : WorkerLease) : LeaseCall → Prop
  | .tryAcquireResult env request candidate leaseId acquiredAt expiresAt =>
    proposedLease env request candidate leaseId acquiredAt expiresAt = .ok lease ∧
      fencedByReservation lease (s.boundReservation lease.workerId) = false ∧
      (lease.mutationIntent = .mutation → (s.hotspotRows lease.hotspotKey).any
        (fun row => writeSetsOverlap lease.mutableScope row.mutableScope) = false) ∧
      Table.conflicts WorkerLease.idKey lease s.leases = false ∧
      Table.conflicts WorkerLease.activeWorkerKey lease s.leases = false ∧
      Table.conflicts WorkerLease.activeOwnerKey lease s.leases = false
  | _ => False

/-- The row of an acquisition whose guards pass is apart from the rows of its hotspot. -/
def Settled (apart : WorkerLease → WorkerLease → Prop) (s : LeaseStore) (call : LeaseCall) : Prop :=
  ∀ lease, call.Admits s lease → lease.mutationIntent = .mutation →
    ∀ row ∈ s.hotspotRows lease.hotspotKey, apart row lease.stored

/-- A settled call keeps the leases of a hotspot apart. -/
theorem pairwise_onHotspot
    (hapart : ∀ a b a' b' : WorkerLease, a'.mutableScope = a.mutableScope →
      a'.forbiddenScope = a.forbiddenScope → b'.mutableScope = b.mutableScope →
      b'.forbiddenScope = b.forbiddenScope → apart a b → apart a' b')
    (hsettled : Settled apart s call) (h : s.leases.Pairwise (OnHotspot apart)) :
    (leaseStep s call).2.leases.Pairwise (OnHotspot apart) := by
  have hw := leaseStep_write s call
  generalize (leaseStep s call).2 = s' at hw ⊢
  cases hw with
  | nothing => exact h
  | leased proposed unfenced scanned freshId freshWorker freshOwner =>
    refine List.pairwise_append.mpr ⟨h, List.pairwise_singleton _ _, ?_⟩
    intro row hrow lease hlease k hr hl
    obtain rfl := List.mem_singleton.mp hlease
    obtain ⟨⟨-, hmutation⟩, hkey⟩ := writingHotspot_eq_some.mp hl
    have hmem := mem_hotspotRows hrow hr
    rw [← hkey] at hmem
    exact hsettled _ ⟨proposed, unfenced, scanned, freshId, freshWorker, freshOwner⟩ hmutation row
      hmem
  | rewrote mem unreleased rewrite => exact rewrite.keepsClaims.pairwise _ hapart h
  | reserved => exact h
  | moved => exact h

/-- The scan has compared the scopes as they are given. -/
theorem scan_disjoint {row : WorkerLease} (hmutation : lease.mutationIntent = .mutation)
    (hscan : lease.mutationIntent = .mutation → (s.hotspotRows lease.hotspotKey).any
      (fun row => writeSetsOverlap lease.mutableScope row.mutableScope) = false)
    (hrow : row ∈ s.hotspotRows lease.hotspotKey) :
    writeSetsOverlap lease.mutableScope row.mutableScope = false :=
  Bool.eq_false_iff.mpr (List.any_eq_false.mp (hscan hmutation) row hrow)

/-- Lists without paired surrogates are read back as they are. -/
theorem readBack_of_unpaired {values : List PyStr} (h : ∀ v ∈ values, Json.Unpaired v) :
    readBack values = values :=
  (List.map_congr_left fun v hv => Json.joinPairs_of_unpaired (h v hv)).trans (List.map_id _)

/-- Without paired surrogates in the scope of its request an acquisition is settled. -/
theorem settled_of_unpaired {env : LeaseEnv} {request : WorkerLeaseRequest}
    {candidate : WorkerLeaseCandidate} {leaseId : String} {acquiredAt : TimeArg}
    {expiresAt : Option TimeArg} (h : ∀ v ∈ request.mutableScope, Json.Unpaired v) :
    Settled ScopesDisjoint s
      (.tryAcquireResult env request candidate leaseId acquiredAt expiresAt) := by
  intro lease hlease hmutation row hrow
  obtain ⟨hproposed, -, hscan, -⟩ := hlease
  have hscope : lease.stored.mutableScope = lease.mutableScope := by
    refine readBack_of_unpaired ?_
    rw [(proposedLease_for hproposed).mutableScope]
    exact h
  unfold ScopesDisjoint
  rw [hscope, writeSetsOverlap_comm]
  exact scan_disjoint hmutation hscan hrow

/-- In every store that calls can reach from the empty one, a worker has at most one unreleased
    lease and an owner task has at most one. Two different unreleased mutation leases on one hotspot
    have mutable scopes that do not overlap, if no acquisition passed the guards whose scope overlaps
    only once it is read back. -/
theorem leases_mutually_exclusive (calls : List LeaseCall)
    (hsettled : Machine.Along leaseStep (Settled ScopesDisjoint) LeaseStore.empty calls) :
    let s := (Machine.run leaseStep LeaseStore.empty calls).2
    (∀ workerId, (s.leases.filter fun l => l.unreleased && l.workerId = workerId).length ≤ 1) ∧
    (∀ sessionId taskId, (s.leases.filter fun l =>
      l.unreleased && l.sessionId = sessionId && l.taskId = taskId).length ≤ 1) ∧
    (∀ a ∈ s.leases, ∀ b ∈ s.leases, a ≠ b → a.unreleased = true → b.unreleased = true →
      a.mutationIntent = .mutation → b.mutationIntent = .mutation →
      ∀ k, a.hotspotKey = some k → b.hotspotKey = some k →
        writeSetsOverlap a.mutableScope b.mutableScope = false) := by
  intro s
  have inv : LeasesExclusive s := reachable_exclusive ⟨calls, rfl⟩
  have hscopes : s.leases.Pairwise (OnHotspot ScopesDisjoint) := by
    refine hsettled.kept (fun s call _ hfit h => pairwise_onHotspot ?_ hfit h) List.Pairwise.nil
    intro a b a' b' ha _ hb _ hab
    unfold ScopesDisjoint
    rw [ha, hb]
    exact hab
  refine ⟨?_, ?_, ?_⟩
  · intro workerId
    apply inv.workers.length_filter_le_one (k := workerId)
    intro r _ hr
    simp only [Bool.and_eq_true, decide_eq_true_eq] at hr
    simp [WorkerLease.activeWorkerKey, hr.1, hr.2]
  · intro sessionId taskId
    apply inv.owners.length_filter_le_one (k := (sessionId, taskId))
    intro r _ hr
    simp only [Bool.and_eq_true, decide_eq_true_eq] at hr
    simp [WorkerLease.activeOwnerKey, hr.1.1, hr.1.2, hr.2]
  · intro a ha b hb hne hua hub hma hmb k hka hkb
    exact hscopes.forall ha hb hne k (writingHotspot_eq_some.mpr ⟨⟨hua, hma⟩, hka⟩)
      (writingHotspot_eq_some.mpr ⟨⟨hub, hmb⟩, hkb⟩)

/-- A mutation request on `src/<dir>` of one shared hotspot. -/
def sampleRequest (task worker dir : String) : WorkerLeaseRequest where
  sessionId := "s"
  taskId := task
  projectId := "p"
  orderedWorkerIds := [worker]
  requiredCapabilities := []
  requiredRuntimeId := none
  worktree := "w"
  branch := "main"
  expectedHead := "abcdef0"
  mutationIntent := .mutation
  allowedScope := [.lit dir]
  forbiddenScope := []
  mutableScope := [.lit dir]
  leaseTtlSeconds := 300

def sampleCalls : List LeaseCall :=
  let env : LeaseEnv := ⟨id, fun _ => some "h"⟩
  [.tryAcquireResult env (sampleRequest "t1" "w1" "a") ⟨"w1", none⟩ "l1" (.ok (.instant 0)) none,
   .tryAcquireResult env (sampleRequest "t2" "w2" "b") ⟨"w2", none⟩ "l2" (.ok (.instant 0)) none]

/-- Two owners hold disjoint scopes of one hotspot at the same time. -/
theorem leases_mutually_exclusive_two_writers :
    let s := (Machine.run leaseStep LeaseStore.empty sampleCalls).2
    (s.leases.map fun l => (l.leaseId, l.hotspotKey)) = [("l1", some "h"), ("l2", some "h")] ∧
    ∀ a ∈ s.leases, ∀ b ∈ s.leases, a ≠ b → a.unreleased = true → b.unreleased = true →
      a.mutationIntent = .mutation → b.mutationIntent = .mutation →
      ∀ k, a.hotspotKey = some k → b.hotspotKey = some k →
        writeSetsOverlap a.mutableScope b.mutableScope = false := by
  have hunpaired (dir : String) : ∀ v ∈ [PyStr.lit dir], Json.Unpaired v :=
    fun v hv => List.mem_singleton.mp hv ▸ Json.unpaired_lit dir
  have hsettled : Machine.Along leaseStep (Settled ScopesDisjoint) LeaseStore.empty sampleCalls :=
    ⟨settled_of_unpaired (hunpaired "a"), settled_of_unpaired (hunpaired "b"), trivial⟩
  exact ⟨by decide +kernel, (leases_mutually_exclusive sampleCalls hsettled).2.2⟩

/-- Two requests whose scopes begin with the same two surrogates. -/
def pairCalls (high low : CodePoint) : List LeaseCall :=
  let env : LeaseEnv := ⟨id, fun _ => some "h"⟩
  let request (task worker : String) (dir : PyStr) : WorkerLeaseRequest :=
    { sampleRequest task worker "" with allowedScope := [dir], mutableScope := [dir] }
  [.tryAcquireResult env (request "t1" "w1" [high, low, .char '*']) ⟨"w1", none⟩ "l1"
      (.ok (.instant 0)) none,
   .tryAcquireResult env (request "t2" "w2" [high, low, .char 'a']) ⟨"w2", none⟩ "l2"
      (.ok (.instant 0)) none]

/-- The scan tells the surrogates of a request from the character of a row; both rows hold the
    character. -/
theorem leases_joined_overlap :
    ¬ ∀ s, Machine.Reachable leaseStep LeaseStore.empty s →
      ∀ a ∈ s.leases, ∀ b ∈ s.leases, a ≠ b → a.unreleased = true → b.unreleased = true →
      a.mutationIntent = .mutation → b.mutationIntent = .mutation →
      ∀ k, a.hotspotKey = some k → b.hotspotKey = some k →
        writeSetsOverlap a.mutableScope b.mutableScope = false := by
  intro h
  obtain ⟨a, b, hleases, hne, hua, hub, hma, hmb, hka, hkb, hoverlap⟩ :
      ∃ a b, (Machine.run leaseStep LeaseStore.empty
          (pairCalls (.surrogate 61) (.surrogate 1536))).2.leases = [a, b] ∧ a ≠ b ∧
        a.unreleased = true ∧ b.unreleased = true ∧ a.mutationIntent = .mutation ∧
        b.mutationIntent = .mutation ∧ a.hotspotKey = some "h" ∧ b.hotspotKey = some "h" ∧
        writeSetsOverlap a.mutableScope b.mutableScope = true := by
    refine ⟨_, _, rfl, ?_⟩
    decide +kernel
  have hdisjoint := h _ ⟨pairCalls (.surrogate 61) (.surrogate 1536), rfl⟩ a (by simp [hleases]) b
    (by simp [hleases]) hne hua hub hma hmb "h" hka hkb
  rw [hoverlap] at hdisjoint
  cases hdisjoint

end AConductor.Lease

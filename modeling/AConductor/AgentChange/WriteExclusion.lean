import AConductor.AgentChange.Scope
import AConductor.WorkerLease.Safety

/-!
# Leases and the applier

Whether two leases of one hotspot keep two writers apart. The lease store compares scope patterns
as a request writes them (`worker_lease.py:1276-1284`); the applier reads them as they come back from
the row and with forward slashes (`agent_change_packets.py:76-77`). A store in which no acquisition
was let through on account of its backslashes or of its surrogates keeps the writers apart.
-/

namespace AConductor.AgentChange

open Lease AConductor.Graph List

/-- Two leases whose patterns have no bracket write disjoint scopes, with forward slashes. -/
def SlashedDisjoint (a b : WorkerLease) : Prop :=
  (∀ p ∈ a.mutableScope ++ a.forbiddenScope, .char '[' ∉ p) →
  (∀ p ∈ b.mutableScope ++ b.forbiddenScope, .char '[' ∉ p) →
    writeSetsOverlap (a.mutableScope.map forwardSlashes) (b.mutableScope.map forwardSlashes) = false

instance : Std.Symm (OnHotspot SlashedDisjoint) where
  symm a b h k hb ha hclassb hclassa := by
    rw [writeSetsOverlap_comm]
    exact h k ha hb hclassa hclassb

theorem forwardSlashes_of_noBackslash {pattern : PyStr} (h : .char '\\' ∉ pattern) :
    forwardSlashes pattern = pattern := by
  refine (map_congr_left (g := id) ?_).trans (map_id _)
  intro c hc
  have hne : c ≠ .char '\\' := by
    rintro rfl
    exact h hc
  exact if_neg hne

/-- Without backslashes and paired surrogates there is nothing to settle. -/
theorem settled_of_noBackslash {s : LeaseStore} {env : LeaseEnv} {request : WorkerLeaseRequest}
    {candidate : WorkerLeaseCandidate} {leaseId : String} {acquiredAt : TimeArg}
    {expiresAt : Option TimeArg}
    (hrequest : ∀ p ∈ request.mutableScope, .char '\\' ∉ p ∧ Json.Unpaired p)
    (hrows : ∀ row ∈ s.leases, ∀ p ∈ row.mutableScope, .char '\\' ∉ p) :
    Settled SlashedDisjoint s
      (.tryAcquireResult env request candidate leaseId acquiredAt expiresAt) := by
  intro lease hlease hmutation row hrow _ _
  obtain ⟨hproposed, -, hscan, -⟩ := hlease
  have hsame {scope : List PyStr} (h : ∀ p ∈ scope, .char '\\' ∉ p) :
      scope.map forwardSlashes = scope :=
    (map_congr_left fun p hp => forwardSlashes_of_noBackslash (h p hp)).trans (map_id _)
  have hscope : lease.mutableScope = request.mutableScope :=
    (proposedLease_for hproposed).mutableScope
  have hstored : lease.stored.mutableScope = request.mutableScope := by
    rw [← hscope]
    refine readBack_of_unpaired ?_
    rw [hscope]
    exact fun p hp => (hrequest p hp).2
  rw [hsame (hrows row (mem_of_mem_filter hrow)), hstored, hsame fun p hp => (hrequest p hp).1,
    writeSetsOverlap_comm, ← hscope]
  exact scan_disjoint hmutation hscan hrow

/-- No change path is in the scope of two leases that write on one hotspot, in every store that
    settled calls reach. -/
theorem leases_exclude_writers (calls : List LeaseCall)
    (hsettled : Machine.Along leaseStep (Settled SlashedDisjoint) LeaseStore.empty calls) :
    ∀ a ∈ (Machine.run leaseStep LeaseStore.empty calls).2.leases,
    ∀ b ∈ (Machine.run leaseStep LeaseStore.empty calls).2.leases, a ≠ b →
      a.unreleased = true → b.unreleased = true →
      a.mutationIntent = .mutation → b.mutationIntent = .mutation →
      ∀ k, a.hotspotKey = some k → b.hotspotKey = some k →
      (∀ p ∈ a.mutableScope ++ a.forbiddenScope, .char '[' ∉ p) →
      (∀ p ∈ b.mutableScope ++ b.forbiddenScope, .char '[' ∉ p) →
      ∀ value changed, path value = .ok changed →
        ¬ (inScope changed a = true ∧ inScope changed b = true) := by
  intro a ha b hb hne hua hub hma hmb k hka hkb hclassa hclassb value changed _ hboth
  have hdisjoint : (Machine.run leaseStep LeaseStore.empty calls).2.leases.Pairwise
      (OnHotspot SlashedDisjoint) := by
    refine hsettled.kept (fun s call _ hfit h => pairwise_onHotspot ?_ hfit h) List.Pairwise.nil
    intro a b a' b' hma hfa hmb hfb hab
    unfold SlashedDisjoint
    rw [hma, hfa, hmb, hfb]
    exact hab
  have hab := hdisjoint.forall ha hb hne k (writingHotspot_eq_some.mpr ⟨⟨hua, hma⟩, hka⟩)
    (writingHotspot_eq_some.mpr ⟨⟨hub, hmb⟩, hkb⟩) hclassa hclassb
  obtain ⟨hina, hinb⟩ := hboth
  unfold inScope at hina hinb
  rw [Bool.and_eq_true] at hina hinb
  have hoverlap := overlap_of_matches (fun p hp => hclassa p (mem_append_left _ hp))
    (fun p hp => hclassb p (mem_append_left _ hp)) hina.2 hinb.2
  rw [hab] at hoverlap
  cases hoverlap

theorem leases_exclude_writers_two :
    ∃ a b, (Machine.run leaseStep LeaseStore.empty sampleCalls).2.leases = [a, b] ∧
      ¬ (inScope (.lit "src/a.py") a = true ∧ inScope (.lit "src/a.py") b = true) := by
  have hplain (dir : String) (hdir : .char '\\' ∉ PyStr.lit dir) :
      ∀ p ∈ [PyStr.lit dir], .char '\\' ∉ p ∧ Json.Unpaired p :=
    fun p hp => mem_singleton.mp hp ▸ ⟨hdir, Json.unpaired_lit dir⟩
  have hsettled :
      Machine.Along leaseStep (Settled SlashedDisjoint) LeaseStore.empty sampleCalls := by
    refine ⟨settled_of_noBackslash (hplain "a" (by decide)) ?_,
      settled_of_noBackslash (hplain "b" (by decide)) ?_, trivial⟩
    · exact fun row hrow => absurd hrow not_mem_nil
    · decide +kernel
  obtain ⟨a, b, hleases, hne, hua, hub, hma, hmb, hka, hkb, hclassa, hclassb⟩ :
      ∃ a b, (Machine.run leaseStep LeaseStore.empty sampleCalls).2.leases = [a, b] ∧ a ≠ b ∧
        a.unreleased = true ∧ b.unreleased = true ∧ a.mutationIntent = .mutation ∧
        b.mutationIntent = .mutation ∧ a.hotspotKey = some "h" ∧ b.hotspotKey = some "h" ∧
        (∀ p ∈ a.mutableScope ++ a.forbiddenScope, .char '[' ∉ p) ∧
        (∀ p ∈ b.mutableScope ++ b.forbiddenScope, .char '[' ∉ p) := by
    refine ⟨_, _, rfl, ?_⟩
    decide +kernel
  have hpath : path (.lit "src/a.py") = .ok (.lit "src/a.py") := by decide +kernel
  exact ⟨a, b, hleases, leases_exclude_writers sampleCalls hsettled a (by simp [hleases]) b
    (by simp [hleases]) hne hua hub hma hmb "h" hka hkb hclassa hclassb _ _ hpath⟩

/-- The same directory, once with a backslash and once with a slash. -/
def slashCalls : List LeaseCall :=
  let env : LeaseEnv := ⟨id, fun _ => some "h"⟩
  [.tryAcquireResult env (sampleRequest "t1" "w1" "src\\a.py") ⟨"w1", none⟩ "l1"
    (.ok (.instant 0)) none,
   .tryAcquireResult env (sampleRequest "t2" "w2" "src/a.py") ⟨"w2", none⟩ "l2"
    (.ok (.instant 0)) none]

/-- Two owners may write one file: the store tells their scopes apart, the applier does not. -/
theorem backslash_admits_two_writers :
    ¬ ∀ s, Machine.Reachable leaseStep LeaseStore.empty s →
      ∀ a ∈ s.leases, ∀ b ∈ s.leases, a ≠ b → a.unreleased = true → b.unreleased = true →
      a.mutationIntent = .mutation → b.mutationIntent = .mutation →
      ∀ k, a.hotspotKey = some k → b.hotspotKey = some k →
      (∀ p ∈ a.mutableScope ++ a.forbiddenScope, .char '[' ∉ p) →
      (∀ p ∈ b.mutableScope ++ b.forbiddenScope, .char '[' ∉ p) →
      ∀ value changed, path value = .ok changed →
        ¬ (inScope changed a = true ∧ inScope changed b = true) := by
  intro h
  obtain ⟨a, b, hleases, hne, hua, hub, hma, hmb, hka, hkb, hclassa, hclassb, hina, hinb⟩ :
      ∃ a b, (Machine.run leaseStep LeaseStore.empty slashCalls).2.leases = [a, b] ∧ a ≠ b ∧
        a.unreleased = true ∧ b.unreleased = true ∧ a.mutationIntent = .mutation ∧
        b.mutationIntent = .mutation ∧ a.hotspotKey = some "h" ∧ b.hotspotKey = some "h" ∧
        (∀ p ∈ a.mutableScope ++ a.forbiddenScope, .char '[' ∉ p) ∧
        (∀ p ∈ b.mutableScope ++ b.forbiddenScope, .char '[' ∉ p) ∧
        inScope (.lit "src/a.py") a = true ∧ inScope (.lit "src/a.py") b = true := by
    refine ⟨_, _, rfl, ?_⟩
    decide +kernel
  have hpath : path (.lit "src/a.py") = .ok (.lit "src/a.py") := by decide +kernel
  exact h _ ⟨slashCalls, rfl⟩ a (by simp [hleases]) b (by simp [hleases]) hne hua hub hma hmb "h"
    hka hkb hclassa hclassb _ _ hpath ⟨hina, hinb⟩

end AConductor.AgentChange

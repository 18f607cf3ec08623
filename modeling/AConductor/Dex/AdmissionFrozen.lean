import AConductor.Dex.AdmissionOutline

namespace AConductor.Dex

open Execution Interleave Proc

/-- A call of `decide` on one of the issuers. -/
structure DecideCall extends DecideArgs where
  issuer : Nat

/-- What happens around the calls: an issuer's process restarts, or somebody else
    writes to the store. -/
inductive DecideEvent where
  | restart (issuer : Nat)
  | store (call : StoreCall)

/-- A call has returned or raised. -/
inductive DecideNote where
  | returned (binding : DexBindingIdentity) (out : Except DecideFault AdmissionRecord)

def decideCall (hash : DexBindingIdentity → String) (call : DecideCall) :
    Proc DexState DecideNote Unit := do
  let out ← (decide (fun _ => true) hash call.issuer call.toDecideArgs).run
  emit (.returned call.binding out)

def DecideEvent.perform (s : DexState) : DecideEvent → DexState
  | .restart issuer => s.forget issuer
  | .store call => { s with store := call.perform s.store }

/-- Issuers that all have the journal. -/
def decideSystem (hash : DexBindingIdentity → String) :
    System DecideCall DecideEvent DexState DecideNote Unit where
  prog := decideCall hash
  env e s := e.perform s

structure DecisionsFrozen (hash : DexBindingIdentity → String) (s : DexState)
    (trace : List (Nat × DecideNote)) : Prop where
  remembers : Remembers (fun _ => true) s
  decided : ∀ i binding out, (i, .returned binding out) ∈ trace →
    Decided (fun _ => true) hash 0 binding s out

def decideProtocol (hash : DexBindingIdentity → String) : Protocol DexState DecideNote where
  Inv := DecisionsFrozen hash
  Grows s s' := s.store.Grows s'.store

variable {hash : DexBindingIdentity → String} {trace : List (Nat × DecideNote)}

theorem DecisionsFrozen.silent {s s' : DexState}
    (h : DecisionsFrozen hash s trace) (hg : s.store.Grows s'.store)
    (hremembers : Remembers (fun _ => true) s') : DecisionsFrozen hash s' trace :=
  ⟨hremembers, fun i binding out hmem => (h.decided i binding out hmem).grows hg⟩

theorem decideProtocol_hosts : HostsDecide (decideProtocol hash) fun _ => true where
  grows _ _ := Iff.rfl
  remembers _ _ hinv := hinv.remembers
  silent _ _ _ hinv hg hremembers := hinv.silent hg hremembers

theorem DecisionsFrozen.returned {s : DexState}
    (h : DecisionsFrozen hash s trace) {i issuer : Nat} {binding : DexBindingIdentity}
    {out : Except DecideFault AdmissionRecord}
    (hout : Decided (fun _ => true) hash issuer binding s out) :
    DecisionsFrozen hash s (trace ++ [(i, .returned binding out)]) := by
  refine ⟨h.remembers, ?_⟩
  intro k b o hmem
  rcases List.mem_append.mp hmem with hmem | hmem
  · exact h.decided k b o hmem
  · rw [List.mem_singleton] at hmem
    cases hmem
    exact hout

theorem outline_decideCall (call : DecideCall) (i : Nat) :
    Outline (decideProtocol hash) i (decideCall hash call) (fun _ own => own = [])
      fun _ _ _ => True := by
  unfold decideCall
  refine outline_bind (outline_decide decideProtocol_hosts) ?_
  intro out
  have stable : Stable (decideProtocol hash) fun _ _ => True := fun _ _ _ _ h => h
  refine outline_emit (fun s => .refl s.store) stable ?_ (outline_ret fun _ _ _ => trivial)
  intro s trace hinv hA
  exact ⟨hinv.returned hA.2, trivial⟩

section Runs

variable (hash) (store : ExecutionStore)

theorem DecideEvent.perform_frozen (e : DecideEvent) (s : DexState)
    (trace : List (Nat × DecideNote)) (h : DecisionsFrozen hash s trace) :
    DecisionsFrozen hash (e.perform s) trace ∧ s.store.Grows (e.perform s).store := by
  cases e with
  | restart issuer =>
    have hg : s.store.Grows (s.forget issuer).store := .refl _
    exact ⟨h.silent hg (h.remembers.forget issuer), hg⟩
  | store call =>
    have hg : s.store.Grows (call.perform s.store) := call.perform_grows
    exact ⟨h.silent hg (h.remembers.store hg), hg⟩

theorem decisionsFrozen_boot : DecisionsFrozen hash (DexState.boot store) [] := by
  refine ⟨remembers_boot store, ?_⟩
  intro i binding out hmem
  cases hmem

theorem decisions_frozen (decisions : List (Schedule DecideCall DecideEvent)) :
    DecisionsFrozen hash (run (decideSystem hash) (DexState.boot store) decisions).shared
      (run (decideSystem hash) (DexState.boot store) decisions).trace :=
  run_invariant (P := decideProtocol hash) (fun s => .refl s.store) outline_decideCall
    (DecideEvent.perform_frozen hash) (decisionsFrozen_boot hash store) decisions

theorem decisions_grow (decisions more : List (Schedule DecideCall DecideEvent)) :
    (run (decideSystem hash) (DexState.boot store) decisions).shared.store.Grows
      (run (decideSystem hash) (DexState.boot store) (decisions ++ more)).shared.store :=
  run_grows (P := decideProtocol hash) (fun s => .refl s.store) outline_decideCall
    (DecideEvent.perform_frozen hash) (fun _ _ _ h h' => h.trans h')
    (decisionsFrozen_boot hash store) decisions more

end Runs

/-- No two of the bindings presented so far share a digest. -/
def CollisionFree (hash : DexBindingIdentity → String) (trace : List (Nat × DecideNote)) : Prop :=
  ∀ i k b b' out out', (i, .returned b out) ∈ trace → (k, .returned b' out') ∈ trace →
    hash b = hash b' → b = b'

/-- Over any number of issuers on one journal, with any contents at the start, and any
    interleaving, crashes, restarts and other writers: a journaled decision is never
    changed later, and whatever an issuer remembers is the journaled decision; every
    admission returned for an identity is its journaled decision, so all of them are
    equal; an identity that is journaled as denied, or was once denied by a call other
    than as a replay conflict, is never admitted in the whole run; and all admissions of
    an identity are for the same binding (the digest telling the presented ones apart). -/
theorem admission_decision_frozen (hash : DexBindingIdentity → String) (store : ExecutionStore)
    (decisions more : List (Schedule DecideCall DecideEvent)) :
    let c := run (decideSystem hash) (DexState.boot store) decisions
    let later := run (decideSystem hash) (DexState.boot store) (decisions ++ more)
    (∀ key row, c.shared.store.admission? key = some row →
      later.shared.store.admission? key = some row) ∧
    (∀ issuer key record, c.shared.records issuer key = some record →
      c.shared.store.admission? key = some record) ∧
    (∀ i b r, (i, .returned b (.ok r)) ∈ c.trace → c.shared.store.admission? b.key = some r) ∧
    (∀ i k b b' r r', (i, .returned b (.ok r)) ∈ c.trace → (k, .returned b' (.ok r')) ∈ c.trace →
      b.key = b'.key → r = r') ∧
    (∀ key row, c.shared.store.admission? key = some row → row.admitted = false →
      ∀ k b r, b.key = key → (k, .returned b (.ok r)) ∉ later.trace) ∧
    (∀ i b code detail, (i, .returned b (.error (.denied code detail))) ∈ c.trace →
      detail ∉ replayConflicts →
      ∀ k b' r, b'.key = b.key → (k, .returned b' (.ok r)) ∉ later.trace) ∧
    (CollisionFree hash c.trace → ∀ i k b b' r r', (i, .returned b (.ok r)) ∈ c.trace →
      (k, .returned b' (.ok r')) ∈ c.trace → b.key = b'.key → b = b') := by
  intro c later
  have now : DecisionsFrozen hash c.shared c.trace := decisions_frozen hash store decisions
  have after : DecisionsFrozen hash later.shared later.trace :=
    decisions_frozen hash store (decisions ++ more)
  have grows : c.shared.store.Grows later.shared.store :=
    decisions_grow hash store decisions more
  have journaled : ∀ i b r, (i, .returned b (.ok r)) ∈ c.trace →
      c.shared.store.admission? b.key = some r := by
    intro i b r hmem
    obtain ⟨-, -, hrow⟩ := now.decided i b _ hmem
    exact hrow rfl
  have same : ∀ i k b b' r r', (i, .returned b (.ok r)) ∈ c.trace →
      (k, .returned b' (.ok r')) ∈ c.trace → b.key = b'.key → r = r' := by
    intro i k b b' r r' hr hr' hkey
    have hrow := journaled i b r hr
    rw [hkey, journaled k b' r' hr'] at hrow
    cases hrow
    rfl
  have denied : ∀ key row, later.shared.store.admission? key = some row → row.admitted = false →
      ∀ k b r, b.key = key → (k, .returned b (.ok r)) ∉ later.trace := by
    intro key row hrow hfalse k b r hkey hmem
    obtain ⟨hadmitted, -, hjournal⟩ := after.decided k b _ hmem
    have hsame := hjournal rfl
    rw [hkey, hrow] at hsame
    cases hsame
    rw [hfalse] at hadmitted
    cases hadmitted
  refine ⟨grows.admissions, ?_, journaled, same, ?_, ?_, ?_⟩
  · intro issuer key record hrecord
    exact now.remembers issuer key record rfl hrecord
  · intro key row hrow hfalse
    exact denied key row (grows.admissions key row hrow) hfalse
  · intro i b code detail hmem hdetail
    obtain ⟨row, hrow, hfalse⟩ := now.decided i b _ hmem hdetail rfl
    exact denied b.key row (grows.admissions _ _ hrow) hfalse
  · intro hfree i k b b' r r' hr hr' hkey
    obtain ⟨-, hdigest, -⟩ := now.decided i b _ hr
    obtain ⟨-, hdigest', -⟩ := now.decided k b' _ hr'
    apply hfree i k b b' _ _ hr hr'
    rw [← hdigest, ← hdigest', same i k b b' r r' hr hr' hkey]

end AConductor.Dex

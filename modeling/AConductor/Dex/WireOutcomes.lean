import AConductor.Dex.Evidence
import AConductor.Dex.WireSafety

/-!
# DEX: how an attempt ends

What `run_attempt` (`src/a_conductor/dex_wire.py:124-325`) leaves behind an attempt that was
dispatched: its outcome is typed and its fence is closed, except where the receipt cannot
be built, or the database does not take the transition that would close the fence, or an
exception cannot be shown. A reason that cannot be stored is a failure of its transition.
-/

namespace AConductor.Dex

open Execution Interleave Proc List Except Text

/-! ### What is asked of an end -/

/-- A call returned an outcome or raised a `WireError`. -/
def Typed : Except WireFault WireOutcome → Prop
  | .ok _ => True
  | .error (.wireError _ _) => True
  | .error (.raised _) => False
  | .error .unshown => False

def Completed : Except WireFault WireOutcome → Prop
  | .ok outcome => outcome.status = .completed
  | .error _ => False

/-- The fence of an identity is `FENCED` or `RETIRED`. -/
def FenceClosed (s : DexState) (key : AttemptKey) : Prop :=
  ∃ fence, s.store.fence? key = some fence ∧ (fence.state = .fenced ∨ fence.state = .retired)

/-- The end of an attempt that was dispatched. -/
structure Settled (key : AttemptKey) (result : Except WireFault WireOutcome) (s : DexState) :
    Prop where
  typed : Typed result
  closed : ¬ Completed result → FenceClosed s key

/-- The end of a call: typed in any case, and settled if it dispatched. -/
structure Accounted (key : AttemptKey) (out : Except WireFault WireOutcome × DexState × List WireNote) :
    Prop where
  typed : Typed out.1
  closed : (∃ wire binding journal, .dispatched wire binding journal ∈ out.2.2) →
    ¬ Completed out.1 → FenceClosed out.2.1 key

/-! ### The condition -/

/-- The evidence that the wire accepts, if it accepts any (`dex_wire.py:217-265`). -/
def acceptedEvidence (call : WireCall) (admission : AdmissionRecord) : Option DexCollectedEvidence :=
  match call.collectAnswer with
  | .payload evidence digestMatches =>
    match decodePayload call.binding admission evidence digestMatches with
    | .ok evidence =>
      if evidence.claimGeneration = admission.claimGeneration then some evidence else none
    | .error _ => none
  | _ => none

/-- The receipt of accepted evidence. -/
def receiptOf (dep : Deployment) (evidence : DexCollectedEvidence) : ReceiptRow :=
  let identity : ReceiptIdentity :=
    { executionId := evidence.executionId, attemptId := evidence.attemptId
      resultDigest := evidence.resultSha256, bindingDigest := evidence.bindingDigest }
  { identity with
    receiptId := dep.receiptDigest identity
    claimGeneration := evidence.claimGeneration
    authoritySha := evidence.authoritySha
    executionSha := evidence.executionSha
    disposition := if evidence.collectedUnderDrift then .quarantined else .accepted
    evidenceRef := some evidence.evidenceSha256 }

/-- The state behind the mark of an accepted dispatch. -/
def markedDispatched (call : WireCall) (s : DexState) : DexState :=
  (onStore (call.outage .markDispatched)
    (transitionDispatchFence call.binding.key .dispatched (some "substrate accepted dispatch")) s).2

/-- The store takes the receipt, or takes the transition that closes the fence: `RETIRED`
    behind an identical receipt of another writer, `FENCED` behind any other refusal. -/
def ReceiptServed (call : WireCall) (receipt : ReceiptRow) (s : DexState) : Prop :=
  match (onStore (call.outage .recordReceipt) (recordReceipt receipt call.receiptDraw) s).1 with
  | .ok _ => True
  | .error fault =>
    if isStoreError fault = true ∧
        (onStore (call.outage .getReceipt) (getReceipt receipt.receiptId) s).1 = .ok receipt then
      call.outage .retire = none
    else call.outage .markFenced = none

/-- The handler of an exception can show it. -/
def Thrown.shown : Thrown → Bool
  | .text _ => true
  | .unprintable _ => false

/-- The exception of a dispatch can be shown; the outer handler shows the one that the inner
    handler stumbles over. -/
def DispatchAnswer.shown : DispatchAnswer → Bool
  | .raised (.unprintable err) => err.shown
  | .unreadable err => err.shown
  | _ => true

/-- The exception of a collection can be shown. -/
def CollectAnswer.shown : CollectAnswer → Bool
  | .raised err => err.shown
  | _ => true

/-- What a dispatch in a state needs in order to end well: of the transitions of the fence
    those that its branch makes, an exception that can be shown where one was raised, and,
    where the evidence is accepted, a claim of a positive generation. -/
def Served (dep : Deployment) (call : WireCall) (admission : AdmissionRecord) (s : DexState) : Prop :=
  match call.dispatchAnswer with
  | .dispatched =>
    call.outage .markDispatched = none ∧
    match acceptedEvidence call admission with
    | none => call.collectAnswer.shown = true ∧ call.outage .markFenced = none
    | some evidence => 1 ≤ call.claimView.claimGeneration ∧
      ReceiptServed call (receiptOf dep evidence) (markedDispatched call s)
  | answer => answer.shown = true ∧ call.outage .markFenced = none

/-- The decision of a call (`dex_wire.py:136-137`). -/
def decision (dep : Deployment) (call : WireCall) : DecideProc WireNote AdmissionRecord :=
  decide dep.journaled dep.bindingDigest (dep.issuerOf call.wire)
    { binding := call.binding, claimView := call.claimView
      loadOutage := call.outage .loadAdmission
      recordOutage := call.outage .recordAdmission }

/-- The call gets to its dispatch: admitted (`admission`), not fenced by its process, with
    an execution record and no receipt, and with the reservation it made (`s₁`). -/
def Dispatches (dep : Deployment) (call : WireCall) (s : DexState) (admission : AdmissionRecord)
    (s₁ : DexState) : Prop :=
  ∃ s₀ notes events state,
    (decision dep call).run.exec s = (.ok admission, s₀, notes) ∧
    s₀.fenced call.wire call.binding.key = false ∧
    call.outage .probe = none ∧
    onStore (call.outage .findReceipt) (listEvents call.binding.executionId) s₀ = (.ok events, s₀) ∧
    receiptEvidence events = none ∧
    onStore (call.outage .reserve) (reserveDispatchFence call.binding.key admission.bindingDigest)
      s₀ = (.ok (state, true), s₁)

/-! ### Single steps -/

variable {dep : Deployment} {call : WireCall} {s : DexState}

/-- The fence of the identity stands open, its ids checked. -/
structure Open (key : AttemptKey) (s : DexState) : Prop where
  checked : checkKey key = .ok ()
  fence : ∃ fence, s.store.fence? key = some fence ∧
    (fence.state = .reserved ∨ fence.state = .dispatched)

variable {key : AttemptKey} {state : FenceState} {value fieldName : String}
  {evidence : DexCollectedEvidence} {admission : AdmissionRecord}

theorem Open.not_closed (h : Open key s) : ¬ FenceClosed s key := by
  obtain ⟨fence, hfence, hopen⟩ := h.fence
  rintro ⟨fence', hfence', hclosed⟩
  rw [hfence] at hfence'
  cases hfence'
  rcases hopen with hopen | hopen <;> rw [hopen] at hclosed <;> simp at hclosed

theorem Open.of_store (h : Open key s) {s' : DexState} (hs : s'.store = s.store) : Open key s' where
  checked := h.checked
  fence := by
    rw [hs]
    exact h.fence

theorem mem_fenceTransitions (h : state = .reserved ∨ state = .dispatched) :
    .fenced ∈ fenceTransitions state ∧ .retired ∈ fenceTransitions state := by
  rcases h with rfl | rfl <;> decide

theorem markFault_typed (state : FenceState) (fault : StoreFault) :
    ∃ code detail, markFault state fault = .wireError code detail := by
  unfold markFault
  split
  · exact ⟨_, _, rfl⟩
  · exact ⟨_, _, rfl⟩

theorem exec_serve {α : Type} (op : WireStep) (name : StoreFault → WireFault)
    (tx : ExecutionStore → Except StoreFault α × ExecutionStore) :
    (serve call op name tx).run.exec s =
      ((onStore (call.outage op) tx s).1.mapError name, (onStore (call.outage op) tx s).2, []) := rfl

variable {fault : StoreFault} {reason : String}

theorem exec_fenceMark_outage {op : WireStep} (h : call.outage op = some fault) :
    (fenceMark call op state reason).run.exec s = (.error (markFault state fault), s, []) := by
  unfold fenceMark
  rw [exec_serve, h]
  rfl

theorem exec_fenceMark_open {op : WireStep} (reason : String)
    (hopen : Open call.binding.key s) (h : call.outage op = none)
    (hallowed : ∀ fence, s.store.fence? call.binding.key = some fence →
      state ∈ fenceTransitions fence.state) :
    ∃ s' fence, (fenceMark call op state reason).run.exec s = (.ok (), s', []) ∧
      s'.store.fence? call.binding.key = some fence ∧ fence.state = state ∧
      s' = (onStore none (transitionDispatchFence call.binding.key state (some reason)) s).2 := by
  obtain ⟨fence, hfence, -⟩ := hopen.fence
  obtain ⟨store', htransition, hfence'⟩ :
      ∃ store', transitionDispatchFence call.binding.key state (some reason) s.store =
        (.ok (), store') ∧ store'.fence? call.binding.key =
          some { fence with state, reason := some reason } :=
    transitionDispatchFence_allowed hopen.checked hfence (hallowed fence hfence)
  have hstore : onStore none (transitionDispatchFence call.binding.key state (some reason)) s =
      (.ok (), { s with store := store' }) := by
    unfold onStore
    rw [htransition]
  refine ⟨{ s with store := store' }, { fence with state, reason := some reason }, ?_, hfence', rfl,
    by rw [hstore]⟩
  unfold fenceMark
  rw [exec_serve, h, hstore]
  rfl

theorem Open.allows (h : Open key s) :
    (∀ fence, s.store.fence? key = some fence → .fenced ∈ fenceTransitions fence.state) ∧
    ∀ fence, s.store.fence? key = some fence → .retired ∈ fenceTransitions fence.state := by
  obtain ⟨fence, hfence, hstate⟩ := h.fence
  constructor
  · intro fence' hfence'
    rw [hfence] at hfence'
    cases hfence'
    exact (mem_fenceTransitions hstate).1
  · intro fence' hfence'
    rw [hfence] at hfence'
    cases hfence'
    exact (mem_fenceTransitions hstate).2

theorem exec_fenceLocally : ∃ s', (fenceLocally call).run.exec s = (.ok (), s', []) ∧
    s'.store = s.store := ⟨_, rfl, rfl⟩

variable {result : Except WireFault WireOutcome} {last : WireProc WireOutcome}

/-- A branch that fences the identity and ends without completion ends well if and only if
    the database takes the transition. -/
theorem settled_fenceIdentity (hopen : Open call.binding.key s)
    (hlast : ∀ s', last.run.exec s' = (result, s', [])) (htyped : Typed result) :
    let out := (fenceIdentity call reason >>= fun _ => last).run.exec s
    Settled call.binding.key out.1 out.2.1 ↔ call.outage .markFenced = none := by
  intro out
  obtain ⟨s₁, hlocal, hstore⟩ : ∃ s', (fenceLocally call).run.exec s = (.ok (), s', []) ∧
      s'.store = s.store := exec_fenceLocally
  have hopen₁ := hopen.of_store hstore
  have hidentity : (fenceIdentity call reason).run.exec s =
      (fenceMark call .markFenced .fenced reason).run.exec s₁ := exec_bind_quiet hlocal
  cases houtage : call.outage .markFenced with
  | some fault =>
    have hmark : (fenceIdentity call reason).run.exec s = (.error (markFault .fenced fault), s₁, []) :=
      hidentity.trans (exec_fenceMark_outage houtage)
    have hout : out = (.error (markFault .fenced fault), s₁, []) := exec_bind_error hmark
    rw [hout]
    refine iff_of_false (fun h => hopen₁.not_closed (h.closed (fun h => h))) (by simp)
  | none =>
    obtain ⟨s₂, fence, hmark, hfence, hstate, -⟩ :=
      exec_fenceMark_open reason hopen₁ houtage hopen₁.allows.1
    have hout : out = (result, s₂, []) :=
      (exec_bind_quiet (hidentity.trans hmark)).trans (hlast s₂)
    rw [hout]
    exact iff_of_true ⟨htyped, fun _ => ⟨fence, hfence, .inl hstate⟩⟩ rfl

theorem settled_fenceShown {shown : Bool} (hshown : shown = true)
    (hopen : Open call.binding.key s) (hlast : ∀ s', last.run.exec s' = (result, s', []))
    (htyped : Typed result) :
    let out := (fenceIdentity call reason >>= fun _ => last).run.exec s
    Settled call.binding.key out.1 out.2.1 ↔ shown = true ∧ call.outage .markFenced = none :=
  (settled_fenceIdentity hopen hlast htyped).trans (and_iff_right hshown).symm

/-- An exception that cannot be shown leaves the call. -/
theorem not_settled_escape : ¬ Settled call.binding.key ((escape call).run.exec s).1
    ((escape call).run.exec s).2.1 := fun h => h.typed

/-- The outer handler ends well if and only if it can show the exception and the database takes
    the transition. -/
theorem settled_dispatchFailed (hopen : Open call.binding.key s) (err : Thrown) :
    let out := (dispatchFailed call err).run.exec s
    Settled call.binding.key out.1 out.2.1 ↔
      err.shown = true ∧ call.outage .markFenced = none := by
  cases err with
  | text text => exact settled_fenceShown rfl hopen (fun _ => rfl) trivial
  | unprintable err => exact iff_of_false not_settled_escape fun h => absurd h.1 (by simp [Thrown.shown])

/-- The retirement of the fence never raises; taken, it closes the fence. -/
theorem exec_fenceRetire (call : WireCall) (s : DexState) (reason : String) :
    ∃ s', (fenceRetireBestEffort call reason).run.exec s = (.ok (), s', []) ∧
      (Open call.binding.key s → (FenceClosed s' call.binding.key ↔ call.outage .retire = none)) := by
  have hcatch {s' : DexState} {r : Except WireFault Unit}
      (h : (fenceMark call .retire .retired reason).run.exec s = (r, s', [])) :
      (fenceRetireBestEffort call reason).run.exec s = (.ok (), s', []) := by
    unfold fenceRetireBestEffort
    cases r with
    | ok u => exact exec_tryCatch_ok h
    | error e => exact exec_tryCatch_error h
  cases houtage : call.outage .retire with
  | some fault =>
    refine ⟨s, hcatch (exec_fenceMark_outage houtage), fun hopen => ?_⟩
    exact iff_of_false hopen.not_closed (by simp)
  | none =>
    by_cases hopen : Open call.binding.key s
    · obtain ⟨s', fence, hmark, hfence, hstate, -⟩ :=
        exec_fenceMark_open reason hopen houtage hopen.allows.2
      exact ⟨s', hcatch hmark, fun _ => iff_of_true ⟨fence, hfence, .inr hstate⟩ rfl⟩
    · exact ⟨_, hcatch (exec_serve _ _ _), fun h => absurd h hopen⟩

/-! ### The receipt -/

theorem requireLine_of {maxChars : Nat}
    (hblank : isBlank value = false) (hlines : hasChar value '\x00' = false ∧
      hasChar value '\r' = false ∧ hasChar value '\n' = false)
    (hlength : value.length ≤ maxChars) : requireLine maxChars value fieldName = .ok () := by
  unfold requireLine
  rw [if_neg (by simp [hblank]), if_neg (by simp [hlines]), if_neg (by omega)]

theorem requireLine_isHex {n : Nat} (h : isHex n value = true) (hn : 0 < n)
    (hmax : n ≤ maxTextChars) : requireLine maxTextChars value fieldName = .ok () := by
  refine requireLine_of (isBlank_of_isHex h hn) ⟨?_, ?_, ?_⟩ ?_
  · exact hasChar_of_isHex h (by decide)
  · exact hasChar_of_isHex h (by decide)
  · exact hasChar_of_isHex h (by decide)
  · rw [(isHex_chars h).1]
    exact hmax

theorem isBlank_of_requireText (h : requireText value fieldName = .ok ()) :
    isBlank value = false := by
  unfold requireText at h
  split at h
  · cases h
  · rename_i hnot
    simp only [Bool.or_eq_true, not_or, Bool.not_eq_true] at hnot
    exact hnot.1

/-- A valid text of an identity that the store accepted is a line of text. -/
theorem requireLine_validText (hvalid : validText 1024 value = true)
    (hblank : isBlank value = false) : requireLine maxTextChars value fieldName = .ok () := by
  unfold validText at hvalid
  simp only [Bool.and_eq_true, decide_eq_true_eq, Bool.not_eq_true'] at hvalid
  obtain ⟨⟨⟨⟨-, hlength⟩, hnul⟩, hcr⟩, hlf⟩ := hvalid
  exact requireLine_of hblank ⟨hnul, hcr, hlf⟩ hlength

/-- The ids of a binding whose key the store accepted are lines of text. -/
theorem requireLine_binding {binding : DexBindingIdentity} (hkey : checkKey binding.key = .ok ())
    (fieldName : String) :
    requireLine maxTextChars binding.executionId fieldName = .ok () ∧
      requireLine maxTextChars binding.attemptId fieldName = .ok () := by
  have hvalid := binding.checked
  unfold DexBindingFields.valid at hvalid
  simp only [all_cons, Bool.and_eq_true] at hvalid
  unfold checkKey at hkey
  obtain ⟨_, hexecution, hattempt⟩ := bind_eq_ok.mp hkey
  have hfirst := hvalid.1.1.1.1.1.1.1
  exact ⟨requireLine_validText hfirst.1 (isBlank_of_requireText hexecution),
    requireLine_validText hfirst.2.1 (isBlank_of_requireText hattempt)⟩

/-- Well-formed evidence about an attempt has a receipt, unless its claim is of generation
    zero: the admission takes that one, and the receipt does not. -/
theorem newExecutionReceipt_evidence (h : evidence.WellFormed)
    (hid : isHex 64 (receiptOf dep evidence).receiptId = true)
    (hexecution : ∀ name, requireLine maxTextChars evidence.executionId name = .ok ())
    (hattempt : ∀ name, requireLine maxTextChars evidence.attemptId name = .ok ()) :
    newExecutionReceipt dep.receiptDigest
      { executionId := evidence.executionId, attemptId := evidence.attemptId
        resultDigest := evidence.resultSha256, bindingDigest := evidence.bindingDigest }
      evidence.claimGeneration evidence.authoritySha evidence.executionSha
      (if evidence.collectedUnderDrift then .quarantined else .accepted)
      (some evidence.evidenceSha256) =
    if evidence.claimGeneration < 1 then
      .error (.valueError ("claim_generation" ++ " must be >= 1"))
    else .ok (receiptOf dep evidence) := by
  have hsha (name : String) {value : String} (hhex : isHex 64 value = true) :
      requireSha256 value name = .ok () := if_pos hhex
  have hgit (name : String) {value : String} (hhex : isHex 40 value = true) :
      requireGitSha value name = .ok () := if_pos hhex
  have hcompute : computeReceiptId dep.receiptDigest
      { executionId := evidence.executionId, attemptId := evidence.attemptId
        resultDigest := evidence.resultSha256, bindingDigest := evidence.bindingDigest } =
      .ok (receiptOf dep evidence).receiptId := by
    unfold computeReceiptId
    simp only [hexecution, hattempt, hsha _ h.resultSha256, hsha _ h.bindingDigest]
    rfl
  have href : requireOptionalLine (some evidence.evidenceSha256) "evidence_ref" = .ok () :=
    requireLine_isHex h.evidenceSha256 (by decide) (by decide)
  unfold newExecutionReceipt
  rw [hcompute, ok_bind]
  unfold ReceiptRow.check
  simp only [hcompute, hexecution, hattempt, hsha _ h.resultSha256, hsha _ h.bindingDigest,
    hsha _ hid, hgit _ h.authoritySha, hgit _ h.executionSha, href, ok_bind,
    requirePositiveInt]
  by_cases hgen : evidence.claimGeneration < 1
  · simp only [if_pos hgen, error_bind]
  · rw [if_neg hgen, if_neg hgen, ok_bind, if_neg (not_not.mpr rfl)]
    rfl

/-- A read leaves the state as it is, whether the database answers it or not. -/
theorem onStore_read {α : Type} (outage : Option StoreFault)
    {tx : ExecutionStore → Except StoreFault α × ExecutionStore}
    (htx : ∀ r store', tx s.store = (r, store') → store' = s.store) : (onStore outage tx s).2 = s := by
  cases outage with
  | some fault => rfl
  | none =>
    have hsame := htx _ _ rfl
    unfold onStore
    dsimp only
    rw [hsame]

/-- The receipt that stands in the store, if it is the one presented. -/
theorem exec_findIdenticalReceipt (receipt : ReceiptRow) :
    (findIdenticalReceipt call receipt).run.exec s =
      (.ok (if (onStore (call.outage .getReceipt) (getReceipt receipt.receiptId) s).1 = .ok receipt
        then some receipt.receiptId else none), s, []) := by
  have hread : (onStore (call.outage .getReceipt) (getReceipt receipt.receiptId) s).2 = s :=
    onStore_read _ fun _ _ => getReceipt_state
  show (findIdenticalReceipt call receipt).exec s = _
  unfold findIdenticalReceipt transact
  simp only [ExceptT.mk, exec]
  rcases hget : onStore (call.outage .getReceipt) (getReceipt receipt.receiptId) s with ⟨r, s'⟩
  rw [hget] at hread
  obtain rfl : s' = s := hread
  cases r with
  | error fault => rfl
  | ok stored =>
    by_cases hsame : stored = receipt
    · simp [hsame]
    · simp [hsame]

/-- A refused receipt ends well if and only if the transition that its branch makes is
    taken. -/
theorem settled_refusedReceipt {receipt : ReceiptRow}
    (hopen : Open call.binding.key s)
    (hfault : (onStore (call.outage .recordReceipt) (recordReceipt receipt call.receiptDraw) s).1 =
      .error fault) :
    let out := (refusedReceipt call receipt fault).run.exec s
    Settled call.binding.key out.1 out.2.1 ↔ ReceiptServed call receipt s := by
  unfold ReceiptServed
  rw [hfault]
  dsimp only
  unfold refusedReceipt
  by_cases hstore : isStoreError fault = true
  · rw [if_pos hstore, exec_bind_quiet (exec_findIdenticalReceipt receipt)]
    by_cases hsame :
        (onStore (call.outage .getReceipt) (getReceipt receipt.receiptId) s).1 = .ok receipt
    · rw [if_pos hsame, if_pos ⟨hstore, hsame⟩]
      obtain ⟨s', hretire, hclosed⟩ :=
        exec_fenceRetire call s "receipt verifiably stored by a racing writer"
      dsimp only
      rw [exec_bind_quiet hretire, ← hclosed hopen]
      have hnot : WireStatus.duplicateAlreadyCompleted ≠ .completed := by decide
      exact ⟨fun h => h.closed hnot, fun h => ⟨trivial, fun _ => h⟩⟩
    · rw [if_neg hsame, if_neg (fun h => hsame h.2)]
      exact settled_fenceIdentity hopen (fun _ => rfl) trivial
  · rw [if_neg hstore, if_neg (fun h => hstore h.1)]
    exact settled_fenceIdentity hopen (fun _ => rfl) trivial

theorem exec_persistReceipt (receipt : ReceiptRow) :
    (persistReceipt call receipt).run.exec s =
      (.ok (onStore (call.outage .recordReceipt) (recordReceipt receipt call.receiptDraw) s).1,
        (onStore (call.outage .recordReceipt) (recordReceipt receipt call.receiptDraw) s).2, []) := rfl

/-- A receipt that the store did not take left the state as it was. -/
theorem onStore_recordReceipt_failed {receipt : ReceiptRow}
    (h : (onStore (call.outage .recordReceipt) (recordReceipt receipt call.receiptDraw) s).1 =
      .error fault) :
    (onStore (call.outage .recordReceipt) (recordReceipt receipt call.receiptDraw) s).2 = s := by
  cases houtage : call.outage .recordReceipt with
  | some fault' => rfl
  | none =>
    rw [houtage] at h
    have hsame : (recordReceipt receipt call.receiptDraw s.store).2 = s.store :=
      atomically_failed (Prod.ext h rfl)
    unfold onStore
    dsimp only
    rw [hsame]

/-- Step 10 ends well if and only if the claim's generation is positive and the receipt, or
    the transition behind its refusal, is taken. -/
theorem settled_settleReceipt (hopen : Open call.binding.key s) (hwell : evidence.WellFormed)
    (hid : isHex 64 (receiptOf dep evidence).receiptId = true)
    (hexecution : evidence.executionId = call.binding.executionId)
    (hattempt : evidence.attemptId = call.binding.attemptId) :
    let out := (settleReceipt dep call evidence).run.exec s
    Settled call.binding.key out.1 out.2.1 ↔
      1 ≤ evidence.claimGeneration ∧ ReceiptServed call (receiptOf dep evidence) s := by
  intro out
  have hreceipt := newExecutionReceipt_evidence hwell hid
    (fun name => by rw [hexecution]; exact (requireLine_binding hopen.checked name).1)
    (fun name => by rw [hattempt]; exact (requireLine_binding hopen.checked name).2)
  by_cases hgen : evidence.claimGeneration < 1
  · rw [if_pos hgen] at hreceipt
    have hout : out.1 = .error (.raised (.valueError ("claim_generation" ++ " must be >= 1"))) := by
      show ((settleReceipt dep call evidence).run.exec s).1 = _
      unfold settleReceipt
      rw [hreceipt]
      rfl
    refine iff_of_false (fun h => ?_) (fun h => by omega)
    have htyped := h.typed
    rw [hout] at htyped
    exact htyped
  · rw [if_neg hgen] at hreceipt
    have hout : out = (settleReceipt dep call evidence).run.exec s := rfl
    unfold settleReceipt at hout
    rw [hreceipt, exec_bind_quiet (a := receiptOf dep evidence) rfl,
      exec_bind_quiet (exec_persistReceipt _)] at hout
    have hpositive : 1 ≤ evidence.claimGeneration := by omega
    cases hstored : (onStore (call.outage .recordReceipt)
        (recordReceipt (receiptOf dep evidence) call.receiptDraw) s).1 with
    | ok stored =>
      rw [hstored] at hout
      obtain ⟨s', hretire, -⟩ := exec_fenceRetire call (onStore (call.outage .recordReceipt)
        (recordReceipt (receiptOf dep evidence) call.receiptDraw) s).2 "receipt recorded"
      have hdone := hout.trans (exec_bind_quiet hretire)
      rw [hdone]
      refine iff_of_true ⟨trivial, fun h => absurd rfl h⟩ ⟨hpositive, ?_⟩
      unfold ReceiptServed
      rw [hstored]
      trivial
    | error fault =>
      rw [hstored, onStore_recordReceipt_failed hstored] at hout
      rw [hout]
      have hrefused := settled_refusedReceipt hopen hstored
      dsimp only at hrefused ⊢
      rw [hrefused]
      exact ⟨fun h => ⟨hpositive, h⟩, fun h => h.2⟩

/-! ### What follows the dispatch -/

/-- Steps 8 to 10 end well if and only if what they need is there. -/
theorem settled_collected (hopen : Open call.binding.key s)
    (hhash : ∀ identity, isHex 64 (dep.receiptDigest identity) = true)
    (hwell : ∀ evidence m, call.collectAnswer = .payload evidence m → evidence.WellFormed) :
    let out := (collected dep call admission).run.exec s
    Settled call.binding.key out.1 out.2.1 ↔
      match acceptedEvidence call admission with
      | none => call.collectAnswer.shown = true ∧ call.outage .markFenced = none
      | some evidence => 1 ≤ evidence.claimGeneration ∧
        ReceiptServed call (receiptOf dep evidence) s := by
  unfold collected acceptedEvidence
  cases hanswer : call.collectAnswer with
  | raised err =>
    cases err with
    | text text => exact settled_fenceShown rfl hopen (fun _ => rfl) trivial
    | unprintable err => exact iff_of_false not_settled_escape fun h => by cases h.1
  | malformed code => exact settled_fenceShown rfl hopen (fun _ => rfl) trivial
  | payload evidence digestMatches =>
    dsimp only
    unfold examine
    cases hdecode : decodePayload call.binding admission evidence digestMatches with
    | error code => exact settled_fenceShown rfl hopen (fun _ => rfl) trivial
    | ok accepted =>
      dsimp only
      by_cases hgen : accepted.claimGeneration = admission.claimGeneration
      · rw [if_neg (not_not.mpr hgen), if_pos hgen]
        obtain ⟨rfl, hexecution, hattempt⟩ : accepted = evidence ∧
            evidence.executionId = call.binding.executionId ∧
            evidence.attemptId = call.binding.attemptId := by
          unfold decodePayload at hdecode
          split at hdecode
          · cases hdecode
          · rename_i hids
            rw [not_or, not_not, not_not] at hids
            split at hdecode
            · cases hdecode
            · split at hdecode
              · cases hdecode
              · split at hdecode
                · cases hdecode
                · cases hdecode
                  exact ⟨rfl, hids⟩
        exact settled_settleReceipt hopen (hwell _ _ hanswer) (hhash _) hexecution hattempt
      · rw [if_pos hgen, if_neg hgen]
        exact settled_fenceShown rfl hopen (fun _ => rfl) trivial

theorem acceptedEvidence_generation (h : acceptedEvidence call admission = some evidence) :
    evidence.claimGeneration = admission.claimGeneration := by
  unfold acceptedEvidence at h
  split at h
  · split at h
    · split at h
      · cases h
        assumption
      · cases h
    · cases h
  · cases h

/-- What follows a dispatch ends well if and only if what it needs is there. -/
theorem settled_afterDispatch {fence : DispatchFenceRow} (hkey : checkKey call.binding.key = .ok ())
    (hfence : s.store.fence? call.binding.key = some fence) (hreserved : fence.state = .reserved)
    (hadmission : admission.claimGeneration = call.claimView.claimGeneration)
    (hhash : ∀ identity, isHex 64 (dep.receiptDigest identity) = true)
    (hwell : ∀ evidence m, call.collectAnswer = .payload evidence m → evidence.WellFormed) :
    let out := (afterDispatch dep call admission).run.exec s
    Settled call.binding.key out.1 out.2.1 ↔ Served dep call admission s := by
  have hopen : Open call.binding.key s := ⟨hkey, fence, hfence, .inl hreserved⟩
  unfold afterDispatch Served
  cases call.dispatchAnswer with
  | raised err =>
    cases err with
    | text text => exact settled_fenceShown rfl hopen (fun _ => rfl) trivial
    | unprintable err =>
      dsimp only
      obtain ⟨s₁, hlocal, hstore⟩ : ∃ s', (fenceLocally call).run.exec s = (.ok (), s', []) ∧
        s'.store = s.store := exec_fenceLocally
      rw [exec_bind_quiet hlocal]
      exact settled_dispatchFailed (hopen.of_store hstore) err
  | unreadable err => exact settled_dispatchFailed hopen err
  | other shown => exact settled_fenceShown rfl hopen (fun _ => rfl) trivial
  | dispatched =>
    dsimp only
    cases houtage : call.outage .markDispatched with
    | some fault =>
      obtain ⟨code, detail, htyped⟩ := markFault_typed .dispatched fault
      have hmark : (markDispatched call).run.exec s = _ :=
        exec_tryCatch_error (exec_fenceMark_outage houtage)
      rw [exec_bind_error hmark]
      refine iff_of_false (fun h => ?_) (fun h => by cases h.1)
      have hstore : ((fenceLocally call).run.exec s).2.1.store = s.store := rfl
      exact (hopen.of_store hstore).not_closed (h.closed (fun h => h))
    | none =>
      have hallowed : ∀ fence, s.store.fence? call.binding.key = some fence →
          .dispatched ∈ fenceTransitions fence.state := by
        intro fence' hfence'
        rw [hfence] at hfence'
        cases hfence'
        rw [hreserved]
        decide
      obtain ⟨s₁, fence', hmark, hfence', hstate, hs₁⟩ :=
        exec_fenceMark_open "substrate accepted dispatch" hopen houtage hallowed
      have hmarked : (markDispatched call).run.exec s = (.ok (), s₁, []) := exec_tryCatch_ok hmark
      have hs : markedDispatched call s = s₁ := by
        unfold markedDispatched
        rw [houtage]
        exact hs₁.symm
      rw [exec_bind_quiet hmarked, hs]
      have hopen₁ : Open call.binding.key s₁ := ⟨hkey, fence', hfence', .inr hstate⟩
      refine (settled_collected hopen₁ hhash hwell).trans ?_
      cases haccepted : acceptedEvidence call admission with
      | none => simp
      | some evidence =>
        have hgen := acceptedEvidence_generation haccepted
        simp only [hgen, hadmission, true_and]

/-! ### A whole call -/

/-- An admission carries the generation of the claim view. -/
theorem decision_generation {s₀ : DexState} {notes : List WireNote}
    (h : (decision dep call).run.exec s = (.ok admission, s₀, notes)) :
    admission.claimGeneration = call.claimView.claimGeneration := by
  unfold decision decide at h
  obtain ⟨known, s₁, _, _, -, h⟩ := exec_bind_eq_ok h
  obtain ⟨existing, s₂, _, _, -, h⟩ := exec_bind_eq_ok h
  cases existing with
  | some existing =>
    obtain ⟨hreplay, -⟩ := Prod.mk.inj h
    unfold replay at hreplay
    split at hreplay
    · cases hreplay
    · split at hreplay
      · cases hreplay
      · rename_i hgen
        split at hreplay
        · cases hreplay
        · cases hreplay
          exact not_not.mp hgen
  | none =>
    dsimp only at h
    unfold settle at h
    obtain ⟨record, s₃, _, _, hfresh, h⟩ := exec_bind_eq_ok h
    obtain ⟨_, s₄, _, _, -, h⟩ := exec_bind_eq_ok h
    obtain ⟨_, s₅, _, _, -, h⟩ := exec_bind_eq_ok h
    obtain ⟨hconclude, -⟩ := Prod.mk.inj h
    have hrecord : record = freshDecision call.binding call.claimView (dep.bindingDigest call.binding) := by
      obtain ⟨hfresh, -⟩ := Prod.mk.inj hfresh
      unfold decideFresh at hfresh
      exact make_ok (mapError_eq_ok.mp hfresh)
    unfold conclude at hconclude
    split at hconclude
    · cases hconclude
    · cases hconclude
      rw [hrecord]
      unfold freshDecision
      split
      · rfl
      · split
        · rfl
        · split
          · rfl
          · rfl

theorem silent_lookup (issuer : Nat) (key : AttemptKey) :
    (lookup issuer key : DecideProc WireNote _).run.Silent := ⟨fun _ => rfl, fun _ => trivial⟩

theorem silent_remember (issuer : Nat) (key : AttemptKey) (record : AdmissionRecord) :
    (remember issuer key record : DecideProc WireNote _).run.Silent :=
  ⟨fun _ => rfl, fun _ => trivial⟩

theorem silent_journaledCall {α : Type} (outage : Option StoreFault)
    (tx : ExecutionStore → Except StoreFault α × ExecutionStore) :
    (journaledCall outage tx : DecideProc WireNote α).run.Silent := silent_transact _

theorem silent_consult (issuer : Nat) (args : DecideArgs) (known : Option AdmissionRecord) :
    (consult dep.journaled issuer args known : DecideProc WireNote _).run.Silent := by
  unfold consult
  cases known with
  | some existing => trivial
  | none =>
    dsimp only
    split
    · refine (silent_journaledCall _ _).tryBind fun existing => ?_
      cases existing with
      | none => trivial
      | some existing => exact (silent_remember _ _ _).tryBind fun _ => trivial
    · trivial

theorem silent_settle (issuer : Nat) (args : DecideArgs) :
    (settle dep.journaled dep.bindingDigest issuer args : DecideProc WireNote _).run.Silent := by
  unfold settle
  have hpure (x : Except DecideFault AdmissionRecord) :
      (ExceptT.mk (pure x) : DecideProc WireNote AdmissionRecord).run.Silent := trivial
  have hjournal (record : AdmissionRecord) :
      (journalRecord dep.journaled issuer args record : DecideProc WireNote _).run.Silent := by
    unfold journalRecord
    split
    · exact silent_journaledCall _ _
    · trivial
  exact (hpure _).tryBind fun record => (hjournal record).tryBind fun _ =>
    (silent_remember _ _ _).tryBind fun _ => hpure _

theorem silent_decision : (decision dep call).run.Silent := by
  unfold decision decide
  refine (silent_lookup _ _).tryBind fun known => (silent_consult _ _ _).tryBind fun existing => ?_
  cases existing with
  | some existing => trivial
  | none => exact silent_settle _ _

theorem accounted_undispatched {notes : List WireNote} (htyped : Typed result)
    (hnotes : ∀ wire binding journal, .dispatched wire binding journal ∉ notes) :
    Accounted key (result, s, notes) where
  typed := htyped
  closed := by
    rintro ⟨wire, binding, journal, hmem⟩
    exact absurd hmem (hnotes wire binding journal)

theorem exec_fencedLocally :
    (fencedLocally call).run.exec s = (.ok (s.fenced call.wire call.binding.key), s, []) := rfl

theorem probeFault_typed (binding : DexBindingIdentity) (fault : StoreFault) :
    ∃ code detail, probeFault binding fault = .wireError code detail := by
  unfold probeFault
  split
  · exact ⟨_, _, rfl⟩
  · exact ⟨_, _, rfl⟩

theorem reserveFault_typed (fault : StoreFault) :
    ∃ code detail, reserveFault fault = .wireError code detail := by
  unfold reserveFault
  split
  · exact ⟨_, _, rfl⟩
  · exact ⟨_, _, rfl⟩

/-- A reservation that was made: it is the fence of the identity, and its ids were checked. -/
theorem reserve_open {outage : Option StoreFault} {digest : String} {s₁ : DexState}
    (h : onStore outage (reserveDispatchFence key digest) s = (.ok (state, true), s₁)) :
    checkKey key = .ok () ∧
      ∃ fence, s₁.store.fence? key = some fence ∧ fence.state = .reserved := by
  have hstore := onStore_ok h
  constructor
  · unfold reserveDispatchFence checkedTxn at hstore
    cases hkey : checkKey key with
    | ok u => rfl
    | error e =>
      rw [hkey] at hstore
      cases hstore
  · rcases reserveDispatchFence_ok hstore with ⟨fence, -, hsame, -⟩ | ⟨hnone, -, hs⟩
    · cases hsame
    · refine ⟨{ executionId := key.1, attemptId := key.2, bindingDigest := digest
                state := .reserved }, ?_, rfl⟩
      unfold ExecutionStore.fence? at hnone ⊢
      rw [hs, List.find?_append, hnone]
      simp [DispatchFenceRow.key]

/-- Steps 6 to 10 end well if and only if the call makes no reservation, or what follows the
    dispatch ends well. -/
theorem accounted_reserveAndDispatch :
    Accounted call.binding.key ((reserveAndDispatch dep call admission).run.exec s) ↔
      ∀ state s₁, onStore (call.outage .reserve)
        (reserveDispatchFence call.binding.key admission.bindingDigest) s = (.ok (state, true), s₁) →
      Settled call.binding.key ((afterDispatch dep call admission).run.exec s₁).1
        ((afterDispatch dep call admission).run.exec s₁).2.1 := by
  have hreserve : (reserveDurableFence call admission).run.exec s =
      ((onStore (call.outage .reserve)
          (reserveDispatchFence call.binding.key admission.bindingDigest) s).1.mapError reserveFault,
        (onStore (call.outage .reserve)
          (reserveDispatchFence call.binding.key admission.bindingDigest) s).2,
        (reservation call.binding.key ((onStore (call.outage .reserve)
          (reserveDispatchFence call.binding.key admission.bindingDigest) s).1.mapError
            reserveFault)).toList ++ []) := rfl
  unfold reserveAndDispatch
  rcases hr : onStore (call.outage .reserve)
    (reserveDispatchFence call.binding.key admission.bindingDigest) s with ⟨fault | ⟨state, created⟩, s₁⟩
  · rw [hr] at hreserve
    obtain ⟨code, detail, htyped⟩ := reserveFault_typed fault
    rw [exec_bind_error hreserve]
    refine iff_of_true (accounted_undispatched ?_ ?_) ?_
    · show Typed (.error (reserveFault fault))
      rw [htyped]
      trivial
    · simp [Except.mapError, reservation]
    · intro state' s' hok
      cases hok
  · rw [hr] at hreserve
    cases created with
    | false =>
      rw [exec_bind_ok hreserve]
      refine iff_of_true (accounted_undispatched trivial ?_) ?_
      · intro wire binding journal hmem
        simp only [Except.mapError, reservation, Option.toList_none, append_nil,
          nil_append] at hmem
        cases hmem
      · intro state' s' hok
        cases hok
    | true =>
      have hdispatch : (dispatch call).run.exec s₁ =
          (.ok (), s₁, [.dispatched call.wire call.binding (s₁.store.admission? call.binding.key)]) :=
        rfl
      rw [exec_bind_ok hreserve, exec_bind_ok hdispatch]
      constructor
      · intro h state' s' hok
        cases hok
        refine ⟨h.typed, h.closed ⟨call.wire, call.binding,
          s₁.store.admission? call.binding.key, ?_⟩⟩
        exact mem_append_right _ (mem_append_left _ mem_cons_self)
      · intro h
        have hsettled := h state s₁ rfl
        exact ⟨hsettled.typed, fun _ => hsettled.closed⟩

/-- What follows an admission ends well if and only if it does not dispatch, or what follows
    the dispatch ends well. -/
theorem accounted_attemptLocked :
    Accounted call.binding.key ((attemptLocked dep call admission).run.exec s) ↔
      ∀ events state s₁, s.fenced call.wire call.binding.key = false → call.outage .probe = none →
        onStore (call.outage .findReceipt) (listEvents call.binding.executionId) s = (.ok events, s) →
        receiptEvidence events = none →
        onStore (call.outage .reserve)
          (reserveDispatchFence call.binding.key admission.bindingDigest) s = (.ok (state, true), s₁) →
      Settled call.binding.key ((afterDispatch dep call admission).run.exec s₁).1
        ((afterDispatch dep call admission).run.exec s₁).2.1 := by
  unfold attemptLocked
  rw [exec_bind_quiet exec_fencedLocally]
  cases hfenced : s.fenced call.wire call.binding.key with
  | true =>
    refine iff_of_true (accounted_undispatched trivial ?_) ?_
    · intro wire binding journal hmem
      cases hmem
    · intro events state s₁ h
      cases h
  | false =>
    rw [if_neg (by simp)]
    unfold attemptUnfenced
    have hread (outage : Option StoreFault) :
        (onStore outage (listEvents call.binding.executionId) s).2 = s :=
      onStore_read outage fun _ _ => listEvents_state
    have hprobe : (serve call .probe (probeFault call.binding)
        (listEvents call.binding.executionId)).run.exec s = ((onStore (call.outage .probe)
          (listEvents call.binding.executionId) s).1.mapError (probeFault call.binding), s, []) := by
      rw [exec_serve, hread]
    have hfind : (serve call .findReceipt (fun fault => .wireError "WIRE_STATE_UNAVAILABLE"
        ("receipt state unreadable: " ++ faultText fault))
        (listEvents call.binding.executionId)).run.exec s = ((onStore (call.outage .findReceipt)
          (listEvents call.binding.executionId) s).1.mapError (fun fault =>
            .wireError "WIRE_STATE_UNAVAILABLE" ("receipt state unreadable: " ++ faultText fault)),
          s, []) := by
      rw [exec_serve, hread]
    cases hp : (onStore (call.outage .probe) (listEvents call.binding.executionId) s).1 with
    | error fault =>
      rw [hp] at hprobe
      obtain ⟨code, detail, htyped⟩ := probeFault_typed call.binding fault
      rw [exec_bind_error hprobe]
      refine iff_of_true (accounted_undispatched ?_ ?_) ?_
      · rw [htyped]
        trivial
      · intro wire binding journal hmem
        cases hmem
      · intro events state s₁ _ hnone hok
        have hevents := onStore_ok hok
        rw [hnone] at hp
        unfold onStore at hp
        dsimp only at hp
        rw [hevents] at hp
        cases hp
    | ok found =>
      rw [hp] at hprobe
      rw [exec_bind_quiet hprobe]
      have hnone : call.outage .probe = none := by
        cases houtage : call.outage .probe with
        | none => rfl
        | some fault =>
          rw [houtage] at hp
          cases hp
      cases hf : (onStore (call.outage .findReceipt) (listEvents call.binding.executionId) s).1 with
      | error fault =>
        rw [hf] at hfind
        have hcontained : (findReceiptContained call).run.exec s = _ := exec_bind_error hfind
        rw [exec_bind_error hcontained]
        refine iff_of_true (accounted_undispatched trivial ?_) ?_
        · intro wire binding journal hmem
          cases hmem
        · intro events state s₁ _ _ hok
          rw [hok] at hf
          cases hf
      | ok events =>
        rw [hf] at hfind
        have hcontained : (findReceiptContained call).run.exec s =
            (.ok (receiptEvidence events), s, []) := exec_bind_quiet hfind
        rw [exec_bind_quiet hcontained]
        have hpair : onStore (call.outage .findReceipt) (listEvents call.binding.executionId) s =
            (.ok events, s) := Prod.ext hf (hread _)
        cases hreceipt : receiptEvidence events with
        | some receiptId =>
          refine iff_of_true (accounted_undispatched trivial ?_) ?_
          · intro wire binding journal hmem
            cases hmem
          · intro events' state s₁ _ _ hok hfresh
            rw [hpair] at hok
            cases hok
            rw [hreceipt] at hfresh
            cases hfresh
        | none =>
          refine accounted_reserveAndDispatch.trans ?_
          constructor
          · intro h events' state s₁ _ _ _ _ hreserve
            exact h state s₁ hreserve
          · intro h state s₁ hreserve
            exact h events state s₁ rfl hnone hpair hreceipt hreserve

/-- A call whose `collect` does this. -/
def WireCall.collecting (env : EvidenceEnv) (call : WireCall) (answer : Collected) : WireCall :=
  { call with collectAnswer := answer.read env }

/-- Every call of `run_attempt` ends with an outcome or a `WireError`, and behind a dispatch
    that did not complete with a closed fence, if and only if its dispatch, when it gets to
    one, finds what it needs. -/
theorem wire_attempt_accounted (dep : Deployment)
    (hhash : ∀ identity, isHex 64 (dep.receiptDigest identity) = true) (env : EvidenceEnv)
    (given : WireCall) (answer : Collected) (s : DexState) :
    let call := given.collecting env answer
    Accounted call.binding.key ((runAttempt dep call).exec s) ↔
      ∀ admission s₁, Dispatches dep call s admission s₁ → Served dep call admission s₁ := by
  intro call
  have hwell : ∀ evidence m, call.collectAnswer = .payload evidence m → evidence.WellFormed :=
    fun evidence m h => Collected.read_wellFormed h
  have hnotes : ((decision dep call).run.exec s).2.2 = [] := silent_decision.notes s
  have hrun : (runAttempt dep call).exec s =
      (afterDecision dep call ((decision dep call).run.exec s).1).run.exec
        ((decision dep call).run.exec s).2.1 := by
    have hdecision := exec_bind (decision dep call).run
      (fun decided => (afterDecision dep call decided).run) s
    rw [hnotes] at hdecision
    exact hdecision
  rw [hrun]
  rcases hd : (decision dep call).run.exec s with ⟨decided, s₀, notes⟩
  cases decided with
  | error fault =>
    refine iff_of_true ?_ ?_
    · cases fault with
      | denied code detail =>
        refine accounted_undispatched trivial ?_
        intro wire binding journal hmem
        cases hmem
      | raised fault =>
        refine accounted_undispatched trivial ?_
        intro wire binding journal hmem
        cases hmem
    · rintro admission s₁ ⟨s₀', notes', events, state, hadmitted, -⟩
      rw [hd] at hadmitted
      cases hadmitted
  | ok admission =>
    refine accounted_attemptLocked.trans ?_
    have hgeneration := decision_generation hd
    have hserved {s₁ : DexState} {state : FenceState}
        (hreserve : onStore (call.outage .reserve)
          (reserveDispatchFence call.binding.key admission.bindingDigest) s₀ =
            (.ok (state, true), s₁)) :
        Settled call.binding.key ((afterDispatch dep call admission).run.exec s₁).1
          ((afterDispatch dep call admission).run.exec s₁).2.1 ↔ Served dep call admission s₁ := by
      obtain ⟨hkey, fence, hfence, hreserved⟩ := reserve_open hreserve
      exact settled_afterDispatch hkey hfence hreserved hgeneration hhash hwell
    constructor
    · rintro h admission' s₁ ⟨s₀', notes', events, state, hadmitted, hfenced, hprobe, hevents, hfresh,
        hreserve⟩
      rw [hd] at hadmitted
      cases hadmitted
      exact (hserved hreserve).mp (h events state s₁ hfenced hprobe hevents hfresh hreserve)
    · intro h events state s₁ hfenced hprobe hevents hfresh hreserve
      exact (hserved hreserve).mpr (h admission s₁
        ⟨s₀, notes, events, state, hd, hfenced, hprobe, hevents, hfresh, hreserve⟩)

/-! ### A claim of generation zero -/

/-- Surroundings in which every digest is the same. -/
def sampleEnv : EvidenceEnv where
  maxDigits := none
  tooDeep _ := false
  sha256 _ := sampleHex 64

/-- The store with one execution record. -/
def sampleState : DexState :=
  DexState.boot (StoreCall.perform .empty (.create sampleRecord 0 "event-1"))

theorem wire_attempt_accounted_lost :
    let call := sampleCall.collecting sampleEnv (.raised (.text "connection lost"))
    Accounted call.binding.key ((runAttempt journallessDeployment call).exec sampleState) := by
  intro call
  have hhex : isHex 64 (sampleHex 64) = true := by decide +kernel
  refine (wire_attempt_accounted journallessDeployment (fun _ => hhex) sampleEnv
    sampleCall (.raised (.text "connection lost")) sampleState).mpr ?_
  intro admission s₁ _
  exact ⟨rfl, rfl, rfl⟩

/-- A binding to a claim of generation zero. -/
def zeroBinding : DexBindingIdentity :=
  { sampleBinding with
    claimGeneration := 0
    checked := by decide +kernel }

/-- Evidence about the attempt of `zeroBinding`. -/
def zeroEvidence : List Char :=
  let digits (n : Nat) : List Char := '"' :: (List.replicate n 'a' ++ ['"'])
  "\x7b\"schema\":\"dex.srm.collection.v1\",\"execution_id\":\"exec-1\",".toList ++
  "\"attempt_id\":\"attempt-1\",\"claim_generation\":0,\"collected_under_drift\":false,".toList ++
  "\"binding_digest\":".toList ++ digits 64 ++ ",\"evidence_sha256\":".toList ++ digits 64 ++
  ",\"sha_set\":\x7b\"authority\":".toList ++ digits 40 ++ ",\"execution\":".toList ++ digits 40 ++
  "\x7d,\"process\":\x7b\"host_id\":\"host-1\",\"boot_id\":\"boot-1\",\"pid\":7,".toList ++
  "\"creation_id\":\"1\",\"exit_code\":0\x7d,\"result\":\x7b\"ref\":\"result\",\"sha256\":".toList ++
  digits 64 ++ "\x7d,\"artifacts\":[\x7b\"ref\":\"result\",\"sha256\":".toList ++ digits 64 ++
  ",\"size_bytes\":3\x7d]\x7d".toList

def zeroCall : WireCall :=
  { sampleCall with
    binding := zeroBinding
    claimView := ⟨"claim-1", 0, true, sampleCall.claimView.named, by decide⟩ }

/-- What the evidence is decoded to. -/
def zeroCollected : DexCollectedEvidence where
  executionId := "exec-1"
  attemptId := "attempt-1"
  bindingDigest := sampleHex 64
  claimGeneration := 0
  authoritySha := sampleHex 40
  executionSha := sampleHex 40
  resultSha256 := sampleHex 64
  collectedUnderDrift := false
  evidenceSha256 := sampleHex 64

/-- The payload of a loaded text, read by `f`. -/
def withPayload {α : Type} (f : Payload → Except String α) :
    Except (Json.Fault HookFault) Value → Except String α
  | .ok (.obj payload) => f payload
  | _ => .error ""

theorem decodeCollectedEvidence_encodeChars {env : EvidenceEnv} {cs : List Char}
    {out : DexCollectedEvidence × Bool} (hascii : ∀ c ∈ cs, c.toNat < 0x80)
    (hsize : ¬ (cs.length = 0 ∨ 262144 < cs.length)) (hdeep : env.tooDeep (PyStr.ofChars cs) = false)
    (hfields : withPayload (evidenceFields env)
      (Json.loads (evidenceHooks env) (PyStr.ofChars cs)) = .ok out) :
    decodeCollectedEvidence env (PyStr.encodeChars cs) = .ok out := by
  have hraw : ¬ (PyStr.encodeChars cs = [] ∨ 262144 < (PyStr.encodeChars cs).length) := by
    rw [← length_eq_zero_iff, PyStr.length_encodeChars hascii]
    exact hsize
  unfold decodeCollectedEvidence evidencePayload
  rw [rejectIf_neg hraw, ok_bind, PyStr.decode_encodeChars]
  dsimp only
  rw [if_neg (by simp [hdeep])]
  unfold withPayload at hfields
  split at hfields
  · rename_i payload hload
    rw [hload]
    exact hfields
  · cases hfields

theorem zeroEvidence_ascii : zeroEvidence.all (fun c => c.toNat < 0x80) = true := by
  unfold zeroEvidence
  repeat rw [String.toList_ofList]
  decide +kernel

theorem length_zeroEvidence :
    ¬ (zeroEvidence.length = 0 ∨ 262144 < zeroEvidence.length) := by
  unfold zeroEvidence
  repeat rw [String.toList_ofList]
  decide +kernel

theorem zeroEvidence_read : (Collected.bytes (PyStr.encodeChars zeroEvidence)).read sampleEnv =
    .payload zeroCollected true := by
  have hdecode : decodeCollectedEvidence sampleEnv (PyStr.encodeChars zeroEvidence) =
      .ok (zeroCollected, true) := by
    apply decodeCollectedEvidence_encodeChars
    · exact fun c hc => of_decide_eq_true (all_eq_true.mp zeroEvidence_ascii c hc)
    · exact length_zeroEvidence
    · rfl
    · unfold zeroEvidence
      repeat rw [String.toList_ofList]
      decide +kernel
  exact Collected.read_bytes hdecode

/-- The claim of generation zero is admitted and dispatched, its evidence is accepted, and
    the receipt is refused by its own constructor: the error passes through, and the fence
    stays where it was. -/
theorem generation_zero_escapes :
    let out := (runAttempt journallessDeployment (zeroCall.collecting sampleEnv
      (.bytes (PyStr.encodeChars zeroEvidence)))).exec sampleState
    out.1 = .error (.raised (.valueError "claim_generation must be >= 1")) ∧
      (out.2.1.store.fence? zeroBinding.key).map DispatchFenceRow.state = some .dispatched := by
  have hcall : zeroCall.collecting sampleEnv (.bytes (PyStr.encodeChars zeroEvidence)) =
      { zeroCall with collectAnswer := .payload zeroCollected true } := by
    unfold WireCall.collecting
    rw [zeroEvidence_read]
  have hout (call : WireCall) (h : call = { zeroCall with
        collectAnswer := .payload zeroCollected true }) :
      let out := (runAttempt journallessDeployment call).exec sampleState
      out.1 = .error (.raised (.valueError "claim_generation must be >= 1")) ∧
        (out.2.1.store.fence? zeroBinding.key).map DispatchFenceRow.state = some .dispatched := by
    subst h
    constructor
    · decide +kernel
    · decide +kernel
  exact hout _ hcall

end AConductor.Dex

import AConductor.Dex.Producer
import AConductor.Dex.WireOutcomes
import AConductor.Execution.Log

/-!
# DEX: what completed

The durable receipt behind a `COMPLETED` of `run_attempt`
(`src/a_conductor/dex_wire.py:124-325`), for calls that interleave with one another and with
every other writer of the store: it names the fields in which the admission, the evidence and
the receipt are compared, and no evidence that differs in one of them completes. The host and
the boot of the process are reported by the evidence and compared with nothing.
-/

namespace AConductor.Dex

open Execution Interleave Proc List

/-! ### The fields that are compared -/

/-- The fields in which the evidence and the receipt of an attempt are bound
    (`dex_wire.py:229-284`, `dex_evidence.py:156-161`). -/
structure BoundFields where
  executionId : String
  attemptId : String
  bindingDigest : String
  claimGeneration : Int
  authoritySha : String
  executionSha : String
  deriving DecidableEq, Repr

def DexCollectedEvidence.bound (e : DexCollectedEvidence) : BoundFields where
  executionId := e.executionId
  attemptId := e.attemptId
  bindingDigest := e.bindingDigest
  claimGeneration := e.claimGeneration
  authoritySha := e.authoritySha
  executionSha := e.executionSha

def ReceiptRow.bound (r : ReceiptRow) : BoundFields where
  executionId := r.executionId
  attemptId := r.attemptId
  bindingDigest := r.bindingDigest
  claimGeneration := r.claimGeneration
  authoritySha := r.authoritySha
  executionSha := r.executionSha

def ProducerFields.bound (p : ProducerFields) : BoundFields where
  executionId := p.executionId
  attemptId := p.attemptId
  bindingDigest := p.bindingDigest
  claimGeneration := p.claimGeneration
  authoritySha := p.authoritySha
  executionSha := p.executionSha

/-- The fields of a binding under its digest, for a claim of this generation. -/
def DexBindingIdentity.bound (digest : DexBindingIdentity → String) (binding : DexBindingIdentity)
    (generation : Int) : BoundFields where
  executionId := binding.executionId
  attemptId := binding.attemptId
  bindingDigest := digest binding
  claimGeneration := generation
  authoritySha := binding.authoritySha
  executionSha := binding.executionSha

/-- Bytes are read as a payload when they decode to it. -/
theorem Collected.read_bytes_eq {env : EvidenceEnv} {raw : List UInt8} {e : DexCollectedEvidence}
    {m : Bool} (h : (Collected.bytes raw).read env = .payload e m) :
    decodeCollectedEvidence env raw = .ok (e, m) := by
  dsimp only [Collected.read] at h
  cases hdecode : decodeCollectedEvidence env raw with
  | error code =>
    rw [hdecode] at h
    cases h
  | ok out =>
    rw [hdecode] at h
    cases h
    rfl

/-- What the receipt of this evidence is identified by (`dex_wire.py:268-276`). -/
def DexCollectedEvidence.receiptIdentity (e : DexCollectedEvidence) : ReceiptIdentity where
  executionId := e.executionId
  attemptId := e.attemptId
  resultDigest := e.resultSha256
  bindingDigest := e.bindingDigest

/-- An admission of a binding at the generation of a claim view. -/
structure Admits (digest : DexBindingIdentity → String) (binding : DexBindingIdentity)
    (claimView : ClaimView) (admission : AdmissionRecord) : Prop where
  admitted : admission.admitted = true
  bindingDigest : admission.bindingDigest = digest binding
  claimGeneration : admission.claimGeneration = claimView.claimGeneration

/-- The admission of a call. -/
abbrev AdmitsCall (dep : Deployment) (call : WireCall) : AdmissionRecord → Prop :=
  Admits dep.bindingDigest call.binding call.claimView

variable {dep : Deployment} {call : WireCall} {admission : AdmissionRecord}
  {evidence : DexCollectedEvidence}

/-- Evidence that the wire accepts has the fields of the admission. -/
theorem bound_of_decodePayload {evidence accepted : DexCollectedEvidence} {m : Bool}
    (hadmits : AdmitsCall dep call admission)
    (h : decodePayload call.binding admission evidence m = .ok accepted)
    (hgeneration : accepted.claimGeneration = admission.claimGeneration) :
    accepted = evidence ∧ m = true ∧
      evidence.bound = call.binding.bound dep.bindingDigest call.claimView.claimGeneration := by
  unfold decodePayload at h
  split at h
  · cases h
  · rename_i hids
    split at h
    · cases h
    · rename_i hdigest
      split at h
      · cases h
      · rename_i hshas
        split at h
        · cases h
        · rename_i hmatches
          cases h
          rw [not_or, not_not, not_not] at hids hshas
          rw [not_not] at hdigest
          refine ⟨rfl, by simpa using hmatches, ?_⟩
          unfold DexCollectedEvidence.bound DexBindingIdentity.bound
          rw [hids.1, hids.2, hdigest, hshas.1, hshas.2, hgeneration, hadmits.bindingDigest,
            hadmits.claimGeneration]

/-- Evidence with the fields of the admission is accepted. -/
theorem decodePayload_of_bound {admission : AdmissionRecord} {evidence : DexCollectedEvidence}
    (hdigest : admission.bindingDigest = dep.bindingDigest call.binding) {generation : Int}
    (h : evidence.bound = call.binding.bound dep.bindingDigest generation) :
    decodePayload call.binding admission evidence true = .ok evidence := by
  unfold DexCollectedEvidence.bound DexBindingIdentity.bound at h
  rw [BoundFields.mk.injEq] at h
  obtain ⟨hexecution, hattempt, hbinding, -, hauthority, hsha⟩ := h
  unfold decodePayload
  rw [if_neg (by simp [hexecution, hattempt]), if_neg (by simp [hbinding, hdigest]),
    if_neg (by simp [hauthority, hsha])]
  rfl

/-! ### The decision -/

theorem admits_replay {args : DecideArgs} {digest : String} {existing admission : AdmissionRecord}
    (h : replay args digest existing = .ok admission) :
    admission.admitted = true ∧ admission.bindingDigest = digest ∧
      admission.claimGeneration = args.claimView.claimGeneration := by
  unfold replay at h
  split at h
  · cases h
  · rename_i hsame
    split at h
    · cases h
    · rename_i hgeneration
      split at h
      · cases h
      · rename_i hadmitted
        cases h
        rw [not_or, not_not] at hsame
        exact ⟨by simpa using hadmitted, hsame.1, not_not.mp hgeneration⟩

theorem admits_conclude {binding : DexBindingIdentity} {claimView : ClaimView} {digest : String}
    {record admission : AdmissionRecord}
    (hrecord : decideFresh binding claimView digest = .ok record)
    (h : conclude record = .ok admission) :
    admission.admitted = true ∧ admission.bindingDigest = digest ∧
      admission.claimGeneration = claimView.claimGeneration := by
  have hdigest := (decideFresh_ok hrecord).2
  have hgeneration : record.claimGeneration = claimView.claimGeneration := by
    unfold decideFresh at hrecord
    rw [make_ok (Except.mapError_eq_ok.mp hrecord)]
    unfold freshDecision
    split
    · rfl
    · split
      · rfl
      · split
        · rfl
        · rfl
  unfold conclude at h
  split at h
  · cases h
  · rename_i hadmitted
    cases h
    exact ⟨by simpa using hadmitted, hdigest, hgeneration⟩

/-- A decision that admits does so for this binding, at this generation. -/
theorem returns_decision :
    Returns (fun r => ∀ admission, r = .ok admission → AdmitsCall dep call admission)
      (decision dep call).run := by
  unfold decision decide
  refine Returns.tryThen nofun fun known => Returns.tryThen nofun fun existing => ?_
  cases existing with
  | some existing =>
    intro admission h
    obtain ⟨hadmitted, hdigest, hgeneration⟩ := admits_replay h
    exact ⟨hadmitted, hdigest, hgeneration⟩
  | none =>
    dsimp only
    unfold settle
    cases hrecord : decideFresh call.binding call.claimView (dep.bindingDigest call.binding) with
    | error e => exact nofun
    | ok record =>
      show Returns _ (journalRecord dep.journaled (dep.issuerOf call.wire) _ record >>= fun _ =>
        remember (dep.issuerOf call.wire) call.binding.key record >>= fun _ =>
        ExceptT.mk (pure (conclude record)) : DecideProc WireNote _).run
      refine Returns.tryThen nofun fun _ => Returns.tryThen nofun fun _ => ?_
      intro admission h
      obtain ⟨hadmitted, hdigest, hgeneration⟩ := admits_conclude hrecord h
      exact ⟨hadmitted, hdigest, hgeneration⟩

/-! ### The receipts of the store -/

/-- Every receipt in the store passed its own constructor, and none is taken out. -/
def receiptProtocol (dep : Deployment) : Protocol DexState WireNote where
  Inv s _ := ∀ r ∈ s.store.receipts, r.check dep.receiptDigest = .ok ()
  Grows s s' := s.store.receipts ⊆ s'.store.receipts

def SameReceipts (s s' : DexState) : Prop := s'.store.receipts = s.store.receipts

theorem quiet_of_sameReceipts {α : Type} {p : Proc DexState WireNote α}
    (hp : p.Through SameReceipts) : Quiet (receiptProtocol dep) p := by
  refine quiet_of_through hp ?_
  intro s s' trace hinv h
  refine ⟨?_, ?_⟩
  · intro r hr
    rw [h] at hr
    exact hinv r hr
  · intro r hr
    rw [h]
    exact hr

theorem quiet_of_serving {α : Type} {p : Proc DexState WireNote α} (hp : p.Through Serves) :
    Quiet (receiptProtocol dep) p :=
  quiet_of_sameReceipts (hp.mono fun _ _ h => h.receipts)

theorem through_onStore {α β : Type} {outage : Option StoreFault}
    {tx : ExecutionStore → Except StoreFault α × ExecutionStore} {f : Except StoreFault α → β}
    (h : ∀ store out store', tx store = (out, store') → store'.receipts = store.receipts) :
    (transact fun s => (f (onStore outage tx s).1, (onStore outage tx s).2) :
      Proc DexState WireNote β).Through SameReceipts := by
  apply through_transact
  intro s
  unfold onStore
  cases outage with
  | some fault => rfl
  | none => exact h s.store _ _ rfl

theorem through_remember (issuer : Nat) (key : AttemptKey) (record : AdmissionRecord) :
    (remember issuer key record : DecideProc WireNote Unit).run.Through SameReceipts :=
  Through.bind (R := SameReceipts) (through_transact fun _ => rfl) fun _ => trivial

theorem through_consult (issuer : Nat) (args : DecideArgs) (known : Option AdmissionRecord) :
    (consult dep.journaled issuer args known : DecideProc WireNote _).run.Through SameReceipts := by
  cases known with
  | some existing => trivial
  | none =>
    unfold consult
    dsimp only
    split
    · refine Through.tryBind (through_onStore ?_) fun existing => ?_
      · intro store out store' hload
        rw [journalLoad_state hload]
      · cases existing with
        | none => trivial
        | some existing => exact (through_remember _ _ _).tryBind fun _ => trivial
    · trivial

theorem through_settle (issuer : Nat) (args : DecideArgs) :
    (settle dep.journaled dep.bindingDigest issuer args : DecideProc WireNote _).run.Through
      SameReceipts := by
  have hpure (x : Except DecideFault AdmissionRecord) :
      (ExceptT.mk (pure x) : DecideProc WireNote AdmissionRecord).run.Through SameReceipts := trivial
  have hjournal (record : AdmissionRecord) :
      (journalRecord dep.journaled issuer args record : DecideProc WireNote _).run.Through
        SameReceipts := by
    unfold journalRecord
    split
    · exact through_onStore fun _ _ _ => receipts_recordAdmission
    · trivial
  exact (hpure _).tryBind fun record => (hjournal record).tryBind fun _ =>
    (through_remember _ _ _).tryBind fun _ => hpure _

theorem through_decision : (decision dep call).run.Through SameReceipts := by
  unfold decision decide
  have hlookup : (lookup (dep.issuerOf call.wire) call.binding.key :
      DecideProc WireNote _).run.Through SameReceipts :=
    Through.bind (R := SameReceipts) (through_transact fun _ => rfl) fun _ => trivial
  refine hlookup.tryBind fun known => (through_consult _ _ known).tryBind fun existing => ?_
  cases existing with
  | some existing => trivial
  | none => exact through_settle _ _

/-! ### The receipt behind a completion -/

/-- The durable receipt that a completed call names: the one made of the evidence, or an
    earlier one of its id that agrees with it. -/
structure Receipted (dep : Deployment) (evidence : DexCollectedEvidence) (outcome : WireOutcome)
    (receipt : ReceiptRow) : Prop where
  named : outcome.receiptId = some receipt.receiptId
  checked : receipt.check dep.receiptDigest = .ok ()
  receiptId : receipt.receiptId = dep.receiptDigest evidence.receiptIdentity
  agrees : (receiptOf dep evidence).agrees receipt = true

/-- What a call returned, as far as it completed. -/
def Completes (dep : Deployment) (call : WireCall) :
    Except WireFault WireOutcome → Assertion DexState WireNote
  | .error _, _, _ => True
  | .ok outcome, s, _ => outcome.status = .completed → ∃ evidence,
    call.collectAnswer = .payload evidence true ∧
      evidence.bound = call.binding.bound dep.bindingDigest call.claimView.claimGeneration ∧
      ∃ receipt ∈ s.store.receipts, Receipted dep evidence outcome receipt

/-- The result is not that of a completed call. -/
def NotCompleted (r : Except WireFault WireOutcome) : Prop := ¬ Completed r

variable {i : Nat} {A : Assertion DexState WireNote}

/-- A call that keeps the receipts and does not complete. -/
theorem outline_notCompleted {p : Proc DexState WireNote (Except WireFault WireOutcome)}
    (hp : Quiet (receiptProtocol dep) p) (hret : Returns NotCompleted p) :
    Outline (receiptProtocol dep) i p A (Completes dep call) := by
  refine ((outline_quiet hp).returns hret).weaken ?_
  rintro r s own ⟨hnot, -⟩
  cases r with
  | error fault => trivial
  | ok outcome => exact fun hcompleted => absurd hcompleted hnot

theorem returns_fenceThen {reason : String} {last : WireProc WireOutcome}
    (h : Returns NotCompleted last.run) :
    Returns NotCompleted (fenceIdentity call reason >>= fun _ => last).run :=
  Returns.tryThen (fun _ => not_false) fun _ => h

theorem returns_refusedReceipt (receipt : ReceiptRow) (fault : StoreFault) :
    Returns NotCompleted (refusedReceipt call receipt fault).run := by
  unfold refusedReceipt
  split
  · refine Returns.tryThen (fun _ => not_false) fun found => ?_
    cases found with
    | some receiptId => exact Returns.tryThen (fun _ => not_false) fun _ => nofun
    | none => exact returns_fenceThen not_false
  · exact returns_fenceThen not_false

/-- A receipt that was made is the one of the evidence, checked. -/
theorem newExecutionReceipt_ok {receipt : ReceiptRow}
    (h : newExecutionReceipt dep.receiptDigest evidence.receiptIdentity evidence.claimGeneration
      evidence.authoritySha evidence.executionSha
      (if evidence.collectedUnderDrift then .quarantined else .accepted)
      (some evidence.evidenceSha256) = .ok receipt) :
    receipt = receiptOf dep evidence ∧ receipt.check dep.receiptDigest = .ok () := by
  unfold newExecutionReceipt at h
  obtain ⟨receiptId, hid, h⟩ := Except.bind_eq_ok.mp h
  obtain ⟨u, hcheck, h⟩ := Except.bind_eq_ok.mp h
  cases h
  unfold computeReceiptId at hid
  iterate 4 obtain ⟨_, -, hid⟩ := Except.bind_eq_ok.mp hid
  cases hid
  exact ⟨rfl, hcheck⟩

/-- What the store holds of a receipt that it took. -/
theorem recordReceipt_receipted {s s' : ExecutionStore} {stored : ReceiptRow} {draw : String}
    (hvalid : ∀ r ∈ s.receipts, r.check dep.receiptDigest = .ok ())
    (hcheck : (receiptOf dep evidence).check dep.receiptDigest = .ok ())
    (h : recordReceipt (receiptOf dep evidence) draw s = (.ok stored, s')) :
    (∀ r ∈ s'.receipts, r.check dep.receiptDigest = .ok ()) ∧ s.receipts ⊆ s'.receipts ∧
      stored ∈ s'.receipts ∧ ∀ outcome : WireOutcome, outcome.receiptId = some stored.receiptId →
        Receipted dep evidence outcome stored := by
  rcases recordReceipt_ok h with ⟨rfl, hfound, hagrees⟩ | ⟨rfl, -, -, -, row, -, rfl⟩
  · have hmem : stored ∈ s'.receipts := mem_of_find?_eq_some hfound
    have hid : stored.receiptId = (receiptOf dep evidence).receiptId := by
      simpa using List.find?_some hfound
    exact ⟨hvalid, fun _ hr => hr, hmem, fun outcome hnamed =>
      ⟨hnamed, hvalid stored hmem, hid, hagrees⟩⟩
  · refine ⟨?_, fun _ hr => mem_append_left _ hr, by simp, fun outcome hnamed =>
      ⟨hnamed, hcheck, rfl, by simp [ReceiptRow.agrees]⟩⟩
    intro r hr
    rcases mem_append.mp hr with hr | hr
    · exact hvalid r hr
    · rw [mem_singleton] at hr
      rw [hr]
      exact hcheck

theorem outline_settleReceipt
    (hanswer : call.collectAnswer = .payload evidence true)
    (hbound : evidence.bound = call.binding.bound dep.bindingDigest call.claimView.claimGeneration) :
    Outline (receiptProtocol dep) i (settleReceipt dep call evidence).run A (Completes dep call) := by
  unfold settleReceipt
  cases hreceipt : newExecutionReceipt dep.receiptDigest evidence.receiptIdentity
    evidence.claimGeneration evidence.authoritySha evidence.executionSha
    (if evidence.collectedUnderDrift then .quarantined else .accepted)
    (some evidence.evidenceSha256) with
  | error fault =>
    unfold DexCollectedEvidence.receiptIdentity at hreceipt
    rw [hreceipt]
    exact outline_ret fun _ _ _ => trivial
  | ok receipt =>
    obtain ⟨rfl, hcheck⟩ := newExecutionReceipt_ok hreceipt
    unfold DexCollectedEvidence.receiptIdentity at hreceipt
    rw [hreceipt]
    show Outline (receiptProtocol dep) i (transact _ >>= fun r => _) A _
    apply outline_transact
    intro s trace r s' hstep hinv hA
    have hout : onStore (call.outage .recordReceipt)
      (recordReceipt (receiptOf dep evidence) call.receiptDraw) s = (r, s') := hstep
    cases r with
    | error fault =>
      have hsame : s'.store = s.store := by
        unfold onStore at hout
        split at hout
        · cases hout
          rfl
        · obtain ⟨hr, rfl⟩ := Prod.mk.inj hout
          exact atomically_failed (Prod.ext hr rfl)
      refine ⟨?_, ?_, fun _ _ => True, fun _ _ _ _ h => h, trivial, outline_notCompleted
        (quiet_of_serving (through_refusedReceipt call _ fault)) (returns_refusedReceipt _ fault)⟩
      · intro r hr
        rw [hsame] at hr
        exact hinv r hr
      · intro r hr
        rw [hsame]
        exact hr
    | ok stored =>
      obtain ⟨hvalid, hgrows, hstored, hreceipted⟩ :=
        recordReceipt_receipted hinv hcheck (onStore_ok hout)
      refine ⟨hvalid, hgrows, fun s _ => stored ∈ s.store.receipts, fun _ _ _ hg h => hg h,
        hstored, ?_⟩
      refine outline_tryBind (outline_of_quiet (fun _ _ _ hg h => hg h)
        (quiet_of_serving (through_fenceRetireBestEffort call _))) (fun _ _ _ _ => trivial) ?_
      intro _
      refine outline_ret fun s own hmem _ => ?_
      exact ⟨evidence, hanswer, hbound, stored, hmem, hreceipted _ rfl⟩

theorem through_fenceThen {reason : String} {r : Except WireFault WireOutcome} :
    (do
      fenceIdentity call reason
      ExceptT.mk (pure r) : WireProc WireOutcome).run.Through Serves :=
  (through_fenceIdentity call reason).tryBind fun _ => trivial

theorem outline_examine (hadmits : AdmitsCall dep call admission) {m : Bool}
    (hanswer : call.collectAnswer = .payload evidence m) :
    Outline (receiptProtocol dep) i
      (examine dep call admission (decodePayload call.binding admission evidence m)).run A
      (Completes dep call) := by
  cases hdecode : decodePayload call.binding admission evidence m with
  | error code =>
    exact outline_notCompleted (quiet_of_serving through_fenceThen) (returns_fenceThen nofun)
  | ok accepted =>
    unfold examine
    dsimp only
    split
    · exact outline_notCompleted (quiet_of_serving through_fenceThen) (returns_fenceThen nofun)
    · rename_i hgeneration
      obtain ⟨rfl, rfl, hbound⟩ := bound_of_decodePayload hadmits hdecode (not_not.mp hgeneration)
      exact outline_settleReceipt hanswer hbound

theorem returns_escape : Returns NotCompleted (escape call).run :=
  Returns.tryThen (fun _ => not_false) fun _ => not_false

theorem returns_dispatchFailed (err : Thrown) :
    Returns NotCompleted (dispatchFailed call err).run := by
  cases err with
  | text text => exact returns_fenceThen nofun
  | unprintable err => exact returns_escape

theorem outline_collected (hadmits : AdmitsCall dep call admission) :
    Outline (receiptProtocol dep) i (collected dep call admission).run A (Completes dep call) := by
  unfold collected
  split
  · exact outline_notCompleted (quiet_of_serving through_fenceThen) (returns_fenceThen not_false)
  · exact outline_notCompleted (quiet_of_serving (through_escape call)) returns_escape
  · exact outline_notCompleted (quiet_of_serving through_fenceThen) (returns_fenceThen nofun)
  · rename_i evidence m hanswer
    exact outline_examine hadmits hanswer

/-- A quiet part, and then one that says what completed. -/
theorem outline_afterQuiet {α : Type} {x : WireProc α} {f : α → WireProc WireOutcome}
    (hx : Quiet (receiptProtocol dep) x.run)
    (hf : ∀ a, Outline (receiptProtocol dep) i (f a).run (fun _ _ => True) (Completes dep call)) :
    Outline (receiptProtocol dep) i (x >>= f).run A (Completes dep call) :=
  outline_tryBind (outline_quiet hx) (fun _ _ _ _ => trivial) hf

theorem outline_ended {outcome : WireOutcome} (h : outcome.status ≠ .completed) :
    Outline (receiptProtocol dep) i (pure outcome : WireProc WireOutcome).run A
      (Completes dep call) :=
  outline_ret fun _ _ _ hcompleted => absurd hcompleted h

theorem outline_reserved (hadmits : AdmitsCall dep call admission) :
    Outline (receiptProtocol dep) i (reserveAndDispatch dep call admission).run A
      (Completes dep call) := by
  show Outline (receiptProtocol dep) i (transactNoting _ _ >>= ExceptT.bindCont _) A _
  apply outline_transactNoting
  intro s trace r s' hstep hinv hA
  have hsame : s'.store.receipts = s.store.receipts := by
    have hs' := congrArg Prod.snd hstep
    subst hs'
    unfold onStore
    cases call.outage .reserve with
    | some fault => rfl
    | none => exact receipts_reserve rfl
  refine ⟨?_, ?_, fun _ _ => True, fun _ _ _ _ h => h, trivial, ?_⟩
  · intro r hr
    rw [hsame] at hr
    exact hinv r hr
  · intro r hr
    rw [hsame]
    exact hr
  · match r with
    | .error fault => exact outline_ret fun _ _ _ => trivial
    | .ok (_, false) =>
      exact outline_afterQuiet (quiet_of_serving (through_fenceLocally call)) fun _ =>
        outline_ended nofun
    | .ok (_, true) =>
      show Outline (receiptProtocol dep) i (transactNoting _ _ >>= fun _ =>
        (afterDispatch dep call admission).run) _ _
      apply outline_transactNoting
      intro s trace r s' hdispatch hinv _
      cases hdispatch
      refine ⟨hinv, fun _ h => h, fun _ _ => True, fun _ _ _ _ h => h, trivial, ?_⟩
      unfold afterDispatch
      split
      · exact outline_notCompleted (quiet_of_serving through_fenceThen) (returns_fenceThen nofun)
      · exact outline_notCompleted (quiet_of_serving ((through_fenceLocally call).tryBind fun _ =>
          through_dispatchFailed call _))
          (Returns.tryThen (fun _ => not_false) fun _ => returns_dispatchFailed _)
      · exact outline_notCompleted (quiet_of_serving (through_dispatchFailed call _))
          (returns_dispatchFailed _)
      · exact outline_notCompleted (quiet_of_serving through_fenceThen) (returns_fenceThen nofun)
      · exact outline_afterQuiet (quiet_of_serving (through_markDispatched call)) fun _ =>
          outline_collected hadmits

theorem outline_completes (call : WireCall) (i : Nat) :
    Outline (receiptProtocol dep) i (runAttempt dep call) (fun _ own => own = [])
      (Completes dep call) := by
  have hquiet : Quiet (receiptProtocol dep) (decision dep call).run :=
    quiet_of_sameReceipts through_decision
  refine outline_bind ((outline_quiet hquiet).returns returns_decision) ?_
  intro decided
  match decided with
  | .error (.denied code detail) => exact outline_ret fun _ _ _ => nofun
  | .error (.raised fault) => exact outline_ret fun _ _ _ => trivial
  | .ok admission =>
    refine (outline_of_fact (A := fun _ _ => True) fun hadmits => ?_).strengthen
      fun _ _ h => ⟨h.1 admission rfl, trivial⟩
    refine outline_afterQuiet (quiet_of_serving (through_fencedLocally call)) fun fenced => ?_
    cases fenced with
    | true => exact outline_ended nofun
    | false =>
      refine outline_afterQuiet (quiet_of_serving through_listEvents) fun _ => ?_
      refine outline_afterQuiet (quiet_of_serving (through_findReceiptContained call)) ?_
      intro found
      cases found with
      | some receiptId => exact outline_ended nofun
      | none => exact outline_reserved hadmits

/-! ### The admission behind a completion -/

/-- The call was admitted, and with a journal the journal says so. -/
def Journaled (dep : Deployment) (call : WireCall) (s : DexState) : Prop :=
  ∃ admission, AdmitsCall dep call admission ∧
    (dep.journaled (dep.issuerOf call.wire) = true →
      s.store.admission? call.binding.key = some admission)

/-- What a call returned, as far as it was admitted. -/
def Admitting (dep : Deployment) (call : WireCall) (r : Except WireFault WireOutcome) :
    Assertion DexState WireNote := fun s _ => Completed r → Journaled dep call s

theorem Journaled.grows {s s' : DexState} (h : Journaled dep call s)
    (hg : s.store.Grows s'.store) : Journaled dep call s' := by
  obtain ⟨admission, hadmits, hrow⟩ := h
  exact ⟨admission, hadmits, fun hj => hg.admissions _ _ (hrow hj)⟩

theorem outline_admitting (call : WireCall) (i : Nat) :
    Outline (wireProtocol dep) i (runAttempt dep call) (fun _ own => own = [])
      (Admitting dep call) := by
  refine outline_bind ((outline_decide wireProtocol_hosts).returns returns_decision) ?_
  intro decided
  match decided with
  | .error (.denied code detail) => exact outline_ret fun _ _ _ => nofun
  | .error (.raised fault) => exact outline_ret fun _ _ _ hcompleted => absurd hcompleted not_false
  | .ok admission =>
    have hattempt : Outline (wireProtocol dep) i (attemptLocked dep call admission).run
        (Admitted dep call admission []) fun _ _ _ => True := outline_attemptLocked call admission
    have hlocked := hattempt.frame (B := Journaled dep call) fun _ _ hg h => h.grows hg
    refine (hlocked.strengthen ?_).weaken fun r s own h _ => h.2
    rintro s own ⟨hadmits, hown, hdecided⟩
    exact ⟨⟨hown, hdecided⟩, admission, hadmits admission rfl, hdecided.2.2⟩

/-! ### Any interleaving -/

/-- A writer of the store presents receipts that passed their constructor. -/
def WireEvent.Checked (dep : Deployment) : WireEvent → Prop
  | .store (.recordReceipt receipt _) => receipt.check dep.receiptDigest = .ok ()
  | _ => True

abbrev CheckedEvent (dep : Deployment) := { e : WireEvent // e.Checked dep }

/-- The wires, each call with what its transport collects. -/
def evidenceSystem (env : EvidenceEnv) (dep : Deployment) :
    System (WireCall × Collected) (CheckedEvent dep) DexState WireNote
      (Except WireFault WireOutcome) where
  prog call := runAttempt dep (call.1.collecting env call.2)
  env e s := e.1.perform s

theorem WireEvent.perform_receipts {e : WireEvent} (he : e.Checked dep) (s : DexState)
    (trace : List (Nat × WireNote)) (hinv : (receiptProtocol dep).Inv s trace) :
    (receiptProtocol dep).Inv (e.perform s) trace ∧ (receiptProtocol dep).Grows s (e.perform s) := by
  have hsame {s' : DexState} (h : s'.store.receipts = s.store.receipts) :
      (receiptProtocol dep).Inv s' trace ∧ (receiptProtocol dep).Grows s s' := by
    refine ⟨?_, ?_⟩
    · intro r hr
      rw [h] at hr
      exact hinv r hr
    · intro r hr
      rw [h]
      exact hr
  match e, he with
  | .restartIssuer issuer, _ => exact hsame rfl
  | .restartWire wire, _ => exact hsame rfl
  | .store (.create record createdAt draw), _ => exact hsame (receipts_create rfl)
  | .store (.update args change draw), _ => exact hsame (receipts_update rfl)
  | .store (.recordAdmission admission), _ => exact hsame (receipts_recordAdmission rfl)
  | .store (.reserve key digest), _ => exact hsame (receipts_reserve rfl)
  | .store (.transitionFence key state reason), _ => exact hsame (receipts_transitionFence rfl)
  | .store (.recordReceipt receipt draw), he =>
    have hreceipts : (recordReceipt receipt draw s.store).2.receipts = s.store.receipts ∨
        (recordReceipt receipt draw s.store).2.receipts = s.store.receipts ++ [receipt] :=
      receipts_recordReceipt rfl
    rcases hreceipts with h | h
    · exact hsame h
    · refine ⟨?_, ?_⟩
      · intro r hr
        have hmem : r ∈ s.store.receipts ++ [receipt] := by
          rw [← h]
          exact hr
        rcases mem_append.mp hmem with hr | hr
        · exact hinv r hr
        · rw [mem_singleton] at hr
          rw [hr]
          exact he
      · intro r hr
        show r ∈ (recordReceipt receipt draw s.store).2.receipts
        rw [h]
        exact mem_append_left _ hr

section Runs

variable {env : EvidenceEnv} {store : ExecutionStore}
  {decisions : List (Schedule (WireCall × Collected) (CheckedEvent dep))} {j : Nat}
  {given : WireCall} {answer : Collected} {r : Except WireFault WireOutcome}

/-- What a call that returned has left of its receipt, in any interleaving. -/
theorem run_completes (hstore : ∀ r ∈ store.receipts, r.check dep.receiptDigest = .ok ())
    (hcall : (startedCalls decisions)[j]? = some (given, answer))
    (hret : (run (evidenceSystem env dep) (DexState.boot store) decisions).threads[j]? =
      some (some (.ret r))) :
    Completes dep (given.collecting env answer) r
      (run (evidenceSystem env dep) (DexState.boot store) decisions).shared [] := by
  have hstart : (receiptProtocol dep).Inv (DexState.boot store) [] := hstore
  have h := run_returned (P := receiptProtocol dep)
    (Q := fun call => Completes dep (call.1.collecting env call.2)) (fun _ _ hr => hr)
    (fun call i => outline_completes _ i) (fun e s trace => e.1.perform_receipts e.2 s trace) hstart
    hcall hret
  cases r with
  | error fault => trivial
  | ok outcome => exact h

theorem run_admitting (hcall : (startedCalls decisions)[j]? = some (given, answer))
    (hret : (run (evidenceSystem env dep) (DexState.boot store) decisions).threads[j]? =
      some (some (.ret r))) (hcompleted : Completed r) :
    Journaled dep given (run (evidenceSystem env dep) (DexState.boot store) decisions).shared := by
  have hstart : AtMostOnce dep (DexState.boot store) [] := by
    refine ⟨remembers_boot store, justified_nil _, ?_, ?_⟩
    · intro i key hmem
      cases hmem
    · intro i wire binding row hmem
      cases hmem
  exact run_returned (P := wireProtocol dep)
    (Q := fun call => Admitting dep (call.1.collecting env call.2)) (fun s => .refl s.store)
    (fun call i => outline_admitting _ i) (fun e s trace => e.1.perform_atMostOnce s trace) hstart
    hcall hret hcompleted

end Runs

/-- The identities that receipts were made of: those in the store, and those of the evidence
    that was collected. -/
def receiptTexts (env : EvidenceEnv) (calls : List (WireCall × Collected)) (s : DexState) :
    Set PyStr :=
  { text | (∃ r ∈ s.store.receipts, text = receiptText r.toReceiptIdentity) ∨
    ∃ call ∈ calls, ∃ evidence m, call.2.read env = .payload evidence m ∧
      text = receiptText evidence.receiptIdentity }

/-- The receipt of evidence has the fields of the evidence, unless two different identities
    of receipts have one digest. -/
theorem Receipted.bound {env : EvidenceEnv} {issuerOf : Nat → Nat} {journaled : Nat → Bool}
    {outcome : WireOutcome} {receipt : ReceiptRow}
    (h : Receipted (env.deployment issuerOf journaled) evidence outcome receipt) {texts : Set PyStr}
    (hinj : Set.InjOn env.sha256 texts) (hstored : receiptText receipt.toReceiptIdentity ∈ texts)
    (hmade : receiptText evidence.receiptIdentity ∈ texts) :
    ReceiptRow.bound receipt = evidence.bound := by
  have hid : env.sha256 (receiptText receipt.toReceiptIdentity) =
      env.sha256 (receiptText evidence.receiptIdentity) :=
    (ReceiptRow.check_receiptId h.checked).symm.trans h.receiptId
  have hidentity := receiptText_injective (hinj hstored hmade hid)
  have hagrees := h.agrees
  unfold ReceiptRow.agrees at hagrees
  simp only [Bool.and_eq_true, decide_eq_true_eq] at hagrees
  obtain ⟨⟨⟨⟨hgeneration, hauthority⟩, hexecution⟩, -⟩, -⟩ := hagrees
  unfold ReceiptRow.bound DexCollectedEvidence.bound
  rw [hgeneration, hauthority, hexecution, hidentity]
  rfl

/-- Whatever calls, writers, crashes and restarts are interleaved: the receipt behind a
    completion is durable, and has the digest of the binding, its repository heads and the
    generation of the admission; evidence that differs in a field that is compared, or that was
    made for another binding, does not complete; and what the reference producer emits for a
    binding is accepted, with every field as it was given. SHA-256 is taken to be injective on
    the texts at hand. -/
theorem completed_evidence_matches (env : ProducerEnv) (issuerOf : Nat → Nat)
    (journaled : Nat → Bool) (hhash : ∀ text, Text.isHex 64 (env.sha256 text) = true)
    (hdata : ∀ data, Text.isHex 64 (env.dataSha256 data) = true) (hlimit : env.Limited)
    (hshallow : env.Shallow) (store : ExecutionStore)
    (hstore : ∀ r ∈ store.receipts,
      r.check (env.deployment issuerOf journaled).receiptDigest = .ok ())
    (decisions : List (Schedule (WireCall × Collected)
      (CheckedEvent (env.deployment issuerOf journaled)))) :
    let dep := env.deployment issuerOf journaled
    let c := run (evidenceSystem env.toEvidenceEnv dep) (DexState.boot store) decisions
    (∀ (j : Nat) (given : WireCall) (answer : Collected) (outcome : WireOutcome),
      (startedCalls decisions)[j]? = some (given, answer) →
      c.threads[j]? = some (some (Proc.ret (.ok outcome))) →
      (outcome.status = .completed →
        Set.InjOn env.sha256 (receiptTexts env.toEvidenceEnv (startedCalls decisions) c.shared) →
        ∃ admission, AdmitsCall dep given admission ∧
          (dep.journaled (dep.issuerOf given.wire) = true →
            c.shared.store.admission? given.binding.key = some admission) ∧
          ∃ receipt ∈ c.shared.store.receipts, outcome.receiptId = some receipt.receiptId ∧
            ReceiptRow.bound receipt =
              given.binding.bound dep.bindingDigest admission.claimGeneration) ∧
      (∀ raw, answer = .bytes raw →
        (∀ evidence, decodeCollectedEvidence env.toEvidenceEnv raw = .ok (evidence, true) →
          evidence.bound ≠ given.binding.bound dep.bindingDigest given.claimView.claimGeneration) →
        outcome.status ≠ .completed) ∧
      (∀ raw evidence m other, answer = .bytes raw →
        decodeCollectedEvidence env.toEvidenceEnv raw = .ok (evidence, m) →
        evidence.bindingDigest = dep.bindingDigest other → other ≠ given.binding →
        Set.InjOn env.sha256 {bindingText other, bindingText given.binding} →
        outcome.status ≠ .completed)) ∧
    (∀ (binding : DexBindingIdentity) (p : FakeSrmCollectionProducer) (generation : Int)
      (admission : AdmissionRecord) (raw : List UInt8), ProducerFields.bound p.toProducerFields =
        binding.bound dep.bindingDigest generation →
      admission.bindingDigest = dep.bindingDigest binding → Emitted env p raw →
      ∃ o evidence, evidence = producedEvidence env.toEvidenceEnv p.toProducerFields o ∧
        decodeEvidence env.toEvidenceEnv raw = .ok (evidence, true) ∧
        decodePayload binding admission evidence.toDexCollectedEvidence true =
          .ok evidence.toDexCollectedEvidence ∧
        evidence.toDexCollectedEvidence.bound = binding.bound dep.bindingDigest generation) := by
  intro dep c
  refine ⟨?_, ?_⟩
  · intro j given answer outcome hcall hret
    have hcompletes := run_completes hstore hcall hret
    refine ⟨?_, ?_, ?_⟩
    · intro hcompleted hinj
      obtain ⟨admission, hadmits, hrow⟩ := run_admitting hcall hret hcompleted
      obtain ⟨evidence, hanswer, hbound, receipt, hreceipt, hreceipted⟩ := hcompletes hcompleted
      refine ⟨admission, hadmits, hrow, receipt, hreceipt, hreceipted.named, ?_⟩
      rw [hadmits.claimGeneration]
      refine (hreceipted.bound hinj (.inl ⟨receipt, hreceipt, rfl⟩) (.inr ?_)).trans hbound
      exact ⟨(given, answer), mem_of_getElem? hcall, evidence, true, hanswer, rfl⟩
    · rintro raw rfl hdiffers hcompleted
      obtain ⟨evidence, hanswer, hbound, -⟩ := hcompletes hcompleted
      exact hdiffers evidence (Collected.read_bytes_eq hanswer) hbound
    · rintro raw evidence m other rfl hdecode hdigest hother hinj hcompleted
      obtain ⟨read, hanswer, hbound, -⟩ := hcompletes hcompleted
      have hread := Collected.read_bytes_eq hanswer
      rw [hdecode] at hread
      cases hread
      have hsame : env.sha256 (bindingText other) = env.sha256 (bindingText given.binding) :=
        hdigest.symm.trans (congrArg BoundFields.bindingDigest hbound)
      exact hother (bindingText_injective (hinj (by simp) (by simp) hsame))
  · intro binding p generation admission raw hp hadmission hemitted
    obtain ⟨o, -, hdecode⟩ := emitted_decodes hhash hdata hlimit hshallow hemitted
    refine ⟨o, _, rfl, hdecode, ?_, hp⟩
    exact @decodePayload_of_bound dep { sampleCall with binding } admission _ hadmission generation hp

/-! ### Evidence of another host -/

/-- Sixty-four hexadecimal digits of a number. -/
def hexDigits (n : Nat) : String :=
  String.ofList ((List.range 64).map fun i => Nat.digitChar (n / 16 ^ i % 16))

theorem isHex_hexDigits (n : Nat) : Text.isHex 64 (hexDigits n) = true := by
  have hdigit : ∀ m < 16, ((Nat.digitChar m).isDigit ||
      ('a' ≤ Nat.digitChar m && Nat.digitChar m ≤ 'f')) = true := by decide
  unfold Text.isHex hexDigits
  rw [String.toList_ofList, length_map, length_range, Bool.and_eq_true, all_eq_true]
  refine ⟨rfl, ?_⟩
  intro c hc
  obtain ⟨i, -, rfl⟩ := mem_map.mp hc
  exact hdigit _ (Nat.mod_lt _ (by decide))

/-- A digest of the first characters, in which the texts that are hashed for one attempt
    differ. -/
def sampleProducerEnv : ProducerEnv where
  maxDigits := some 4300
  tooDeep _ := false
  sha256 text := hexDigits ((text.take 5).foldl (fun h c => h * 256 + c.code) 0)
  dataSha256 data := hexDigits data.length

/-- A producer for `sampleBinding`, on another host than the binding names. -/
def driftedProducer : FakeSrmCollectionProducer where
  executionId := "exec-1"
  attemptId := "attempt-1"
  bindingDigest := sampleProducerEnv.sha256 (bindingText sampleBinding)
  claimGeneration := 5
  authoritySha := sampleHex 40
  executionSha := sampleHex 40
  hostId := "host-9"
  bootId := "boot-9"
  pid := 7
  creationId := "1"
  checked := by decide +kernel

def driftedOutputs : Outputs where
  result := ⟨.lit "result", sampleProducerEnv.dataSha256 [1], 1⟩
  stdout := ⟨.lit "stdout", sampleProducerEnv.dataSha256 [2], 1⟩
  stderr := ⟨.lit "stderr", sampleProducerEnv.dataSha256 [3], 1⟩
  exitCode := 0

theorem described_driftedOutputs : driftedOutputs.Described where
  refs := rfl
  digests := by
    intro a ha
    simp only [Outputs.artifacts, driftedOutputs, mem_cons, not_mem_nil, or_false] at ha
    rcases ha with rfl | rfl | rfl
    · exact isHex_hexDigits _
    · exact isHex_hexDigits _
    · exact isHex_hexDigits _
  sizes := by
    intro a ha
    simp only [Outputs.artifacts, driftedOutputs, mem_cons, not_mem_nil, or_false] at ha
    rcases ha with rfl | rfl | rfl
    · exact Int.one_nonneg
    · exact Int.one_nonneg
    · exact Int.one_nonneg

theorem printed_driftedOutputs :
    Printed sampleProducerEnv.toEvidenceEnv driftedProducer.toProducerFields driftedOutputs where
  claimGeneration := by
    show sampleProducerEnv.toEvidenceEnv.Converts 5
    unfold EvidenceEnv.Converts
    decide +kernel
  pid := by
    show sampleProducerEnv.toEvidenceEnv.Converts 7
    unfold EvidenceEnv.Converts
    decide +kernel
  exitCode := by
    show sampleProducerEnv.toEvidenceEnv.Converts 0
    unfold EvidenceEnv.Converts
    decide +kernel
  sizes := by
    intro a ha
    have hsize : a.sizeBytes = 1 := by
      simp only [Outputs.artifacts, driftedOutputs, mem_cons, not_mem_nil,
        or_false] at ha
      rcases ha with rfl | rfl | rfl
      · rfl
      · rfl
      · rfl
    rw [hsize]
    unfold EvidenceEnv.Converts
    decide +kernel

/-- The bytes of its collection. -/
def driftedBytes : Except ProducerFault (List UInt8) :=
  canonicalBytes sampleProducerEnv.toEvidenceEnv
    (collectionPayload sampleProducerEnv.toEvidenceEnv driftedProducer.toProducerFields
      driftedOutputs)

/-- What was returned, if anything was. -/
def returned (r : Except ProducerFault (List UInt8)) : List UInt8 := r.toOption.getD []

theorem eq_returned {r : Except ProducerFault (List UInt8)} (h : ∃ raw, r = .ok raw) :
    r = .ok (returned r) := by
  obtain ⟨raw, rfl⟩ := h
  rfl

def driftedRaw : List UInt8 := returned driftedBytes

theorem driftedBytes_eq : driftedBytes = .ok driftedRaw := by
  unfold driftedRaw
  exact eq_returned (canonicalBytes_produced described_driftedOutputs printed_driftedOutputs)

def driftedEvidence : DexEvidence :=
  producedEvidence sampleProducerEnv.toEvidenceEnv driftedProducer.toProducerFields driftedOutputs

theorem decodeEvidence_drifted :
    decodeEvidence sampleProducerEnv.toEvidenceEnv driftedRaw = .ok (driftedEvidence, true) := by
  have hbytes := driftedBytes_eq
  unfold driftedBytes at hbytes
  have hhash (text : PyStr) : Text.isHex 64 (sampleProducerEnv.sha256 text) = true :=
    isHex_hexDigits _
  have hlimit : sampleProducerEnv.toEvidenceEnv.Limited := ⟨4300, le_rfl, rfl⟩
  have hshallow : sampleProducerEnv.toEvidenceEnv.Shallow := fun _ _ => rfl
  unfold driftedEvidence
  exact decodeEvidence_produced (ProducerFields.checked_of_valid driftedProducer.checked)
    described_driftedOutputs hhash hlimit hshallow hbytes

def sampleDeployment : Deployment := sampleProducerEnv.deployment id fun _ => true

theorem collecting_drifted :
    sampleCall.collecting sampleProducerEnv.toEvidenceEnv (.bytes driftedRaw) =
      { sampleCall with
        collectAnswer := .payload driftedEvidence.toDexCollectedEvidence true } := by
  have hdecode : decodeCollectedEvidence sampleProducerEnv.toEvidenceEnv driftedRaw =
      .ok (driftedEvidence.toDexCollectedEvidence, true) := by
    rw [decodeCollectedEvidence_eq, decodeEvidence_drifted]
    rfl
  unfold WireCall.collecting
  rw [Collected.read_bytes hdecode]

/-- The call completes, and its receipt is the only one. -/
theorem exec_drifted : ∃ outcome s' notes,
    ((evidenceSystem sampleProducerEnv.toEvidenceEnv sampleDeployment).prog
      (sampleCall, .bytes driftedRaw)).exec sampleState = (.ok outcome, s', notes) ∧
      outcome.status = .completed ∧ s'.store.receipts =
        [receiptOf sampleDeployment driftedEvidence.toDexCollectedEvidence] := by
  have hprog : (evidenceSystem sampleProducerEnv.toEvidenceEnv sampleDeployment).prog
      (sampleCall, .bytes driftedRaw) = runAttempt sampleDeployment { sampleCall with
        collectAnswer := .payload driftedEvidence.toDexCollectedEvidence true } :=
    congrArg (runAttempt sampleDeployment) collecting_drifted
  rw [hprog]
  generalize hout : (runAttempt sampleDeployment { sampleCall with
    collectAnswer := .payload driftedEvidence.toDexCollectedEvidence true }).exec sampleState = out
  have hends : (out.1.toOption.map WireOutcome.status, out.2.1.store.receipts) =
      (some .completed,
        [receiptOf sampleDeployment driftedEvidence.toDexCollectedEvidence]) := by
    rw [← hout]
    decide +kernel
  obtain ⟨hstatus, hreceipts⟩ := Prod.mk.inj hends
  obtain ⟨result, s', notes⟩ := out
  cases result with
  | error fault => cases hstatus
  | ok outcome => exact ⟨outcome, s', notes, rfl, Option.some.inj hstatus, hreceipts⟩

/-- The call starts and performs so many steps. -/
def driftedDecisions (n : Nat) :
    List (Schedule (WireCall × Collected) (CheckedEvent sampleDeployment)) :=
  .start (sampleCall, .bytes driftedRaw) :: List.replicate n (.advance 0)

theorem startedCalls_drifted (n : Nat) :
    startedCalls (driftedDecisions n) = [(sampleCall, .bytes driftedRaw)] := by
  have hrest : startedCalls (List.replicate n (.advance 0) :
      List (Schedule (WireCall × Collected) (CheckedEvent sampleDeployment))) = [] := by
    unfold startedCalls
    exact filterMap_replicate_of_none rfl
  show (sampleCall, Collected.bytes driftedRaw) :: startedCalls (List.replicate n _) = _
  rw [hrest]

/-- The interleaving in which the call is alone. -/
theorem run_drifted : ∃ n outcome,
    (run (evidenceSystem sampleProducerEnv.toEvidenceEnv sampleDeployment) sampleState
        (driftedDecisions n)).threads[0]? = some (some (Proc.ret (.ok outcome))) ∧
      outcome.status = .completed ∧
      (run (evidenceSystem sampleProducerEnv.toEvidenceEnv sampleDeployment) sampleState
        (driftedDecisions n)).shared.store.receipts =
        [receiptOf sampleDeployment driftedEvidence.toDexCollectedEvidence] := by
  obtain ⟨outcome, s', notes, hexec, hstatus, hreceipts⟩ := exec_drifted
  obtain ⟨n, hret, hshared⟩ := run_alone_ends _ _ _ hexec
  exact ⟨n, outcome, hret, hstatus, (congrArg (fun s => s.store.receipts) hshared).trans hreceipts⟩

theorem injOn_triple {α β : Type} {f : α → β} {a b c : α} (hab : f a ≠ f b) (hac : f a ≠ f c)
    (hbc : f b ≠ f c) : Set.InjOn f {a, b, c} := by
  rintro x (rfl | rfl | rfl) y (rfl | rfl | rfl) h
  · rfl
  · exact absurd h hab
  · exact absurd h hac
  · exact absurd h.symm hab
  · rfl
  · exact absurd h hbc
  · exact absurd h.symm hac
  · exact absurd h.symm hbc
  · rfl

/-- The evidence names another host and another boot than the binding, and the call completes. -/
theorem drifted_host_completes :
    decodeEvidence sampleProducerEnv.toEvidenceEnv driftedRaw = .ok (driftedEvidence, true) ∧
      driftedEvidence.process.hostId ≠ .lit sampleBinding.hostId ∧
      driftedEvidence.process.bootId ≠ .lit sampleBinding.bootId ∧
      Set.InjOn sampleProducerEnv.sha256 {bindingText sampleBinding,
        canonicalText (bodyPayload driftedProducer.toProducerFields driftedOutputs),
        receiptText driftedEvidence.toDexCollectedEvidence.receiptIdentity} ∧
      ∃ n outcome, (run (evidenceSystem sampleProducerEnv.toEvidenceEnv sampleDeployment) sampleState
        (driftedDecisions n)).threads[0]? = some (some (Proc.ret (.ok outcome))) ∧
        outcome.status = .completed := by
  refine ⟨decodeEvidence_drifted, ?_, ?_, injOn_triple ?_ ?_ ?_, ?_⟩
  · exact fun h => absurd (PyStr.lit_injective h) (by decide)
  · exact fun h => absurd (PyStr.lit_injective h) (by decide)
  · decide +kernel
  · decide +kernel
  · decide +kernel
  · obtain ⟨n, outcome, hret, hstatus, -⟩ := run_drifted
    exact ⟨n, outcome, hret, hstatus⟩

theorem completed_evidence_matches_sample :
    ∃ n, ∃ receipt ∈ (run (evidenceSystem sampleProducerEnv.toEvidenceEnv sampleDeployment)
        sampleState (driftedDecisions n)).shared.store.receipts,
      ReceiptRow.bound receipt = sampleBinding.bound sampleDeployment.bindingDigest 5 := by
  obtain ⟨n, outcome, hret, hstatus, hreceipts⟩ := run_drifted
  have hdata (data : List UInt8) : Text.isHex 64 (sampleProducerEnv.dataSha256 data) = true :=
    isHex_hexDigits _
  have hhash (text : PyStr) : Text.isHex 64 (sampleProducerEnv.sha256 text) = true :=
    isHex_hexDigits _
  have hstore : ∀ r ∈ sampleState.store.receipts,
      r.check (sampleProducerEnv.deployment id fun _ => true).receiptDigest = .ok () := by
    have hnone : sampleState.store.receipts = [] := by decide +kernel
    rw [hnone]
    exact nofun
  have hstarted := startedCalls_drifted n
  have hcall : (startedCalls (driftedDecisions n))[0]? = some (sampleCall, .bytes driftedRaw) := by
    rw [hstarted]
    rfl
  obtain ⟨hcompleted, -, -⟩ := (completed_evidence_matches sampleProducerEnv id (fun _ => true) hhash
    hdata ⟨4300, le_rfl, rfl⟩ (fun _ _ => rfl) sampleState.store hstore
    (driftedDecisions n)).1 0 sampleCall (.bytes driftedRaw) outcome hcall hret
  -- the store and the evidence know one identity of a receipt
  have hone : ∀ text ∈ receiptTexts sampleProducerEnv.toEvidenceEnv
      (startedCalls (driftedDecisions n))
      (run (evidenceSystem sampleProducerEnv.toEvidenceEnv sampleDeployment) sampleState
        (driftedDecisions n)).shared,
      text = receiptText driftedEvidence.toDexCollectedEvidence.receiptIdentity := by
    rintro text (⟨r, hr, rfl⟩ | ⟨call, hmem, evidence, m, hread, rfl⟩)
    · rw [hreceipts, mem_singleton] at hr
      rw [hr]
      rfl
    · rw [hstarted, mem_singleton] at hmem
      rw [hmem] at hread
      have hdecode := Collected.read_bytes_eq hread
      rw [decodeCollectedEvidence_eq, decodeEvidence_drifted] at hdecode
      cases hdecode
      rfl
  obtain ⟨admission, hadmits, -, receipt, hreceipt, -, hbound⟩ := hcompleted hstatus (by
    intro x hx y hy _
    rw [hone x hx, hone y hy])
  rw [hadmits.claimGeneration] at hbound
  exact ⟨n, receipt, hreceipt, hbound⟩

end AConductor.Dex

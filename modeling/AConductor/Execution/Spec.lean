import AConductor.Execution.Store

/-!
# Executions: what each store operation does

A failing call leaves the store as it was; a successful one did exactly what its lemma
says. From these follows what every writer keeps (`ExecutionStore.Grows`): a journaled
decision stays, a fence stays and keeps its binding, a record stays and keeps its
fingerprint.
-/

namespace AConductor.Execution

open Txn Table

variable {e : StoreFault} {a : UpdateArgs} {digest : String} {state : FenceState}

section Transactions

variable {α : Type} {args : Except StoreFault Unit} {body : StoreTxn α} {s s' : ExecutionStore}

theorem atomically_failed (h : atomically body s = (.error e, s')) : s' = s := by
  have hs := atomically_error (x := body) (s := s) (e := e) (by rw [h])
  rw [h] at hs
  exact hs

theorem checkedTxn_error (h : checkedTxn args body s = (.error e, s')) : s' = s := by
  unfold checkedTxn at h
  split at h
  · cases h
    rfl
  · exact atomically_failed h

theorem checkedTxn_ok {a : α} {Q : α → ExecutionStore → Prop}
    (h : checkedTxn args body s = (.ok a, s')) (hQ : wp body Q (fun _ _ => True) s) : Q a s' := by
  unfold checkedTxn at h
  split at h
  · cases h
  · exact atomically_ok hQ h

end Transactions

variable {s s' : ExecutionStore}

theorem wp_loadRecord {executionId : String} {Q : DurableExecutionRecord → ExecutionStore → Prop}
    (hQ : ∀ row record, s.record? executionId = some row →
      record.toExecutionRow = row.toExecutionRow → Q record s) :
    wp (loadRecord executionId) Q (fun _ _ => True) s := by
  unfold loadRecord
  rw [wp_bind, wp_query]
  cases hrow : s.record? executionId with
  | none => trivial
  | some row =>
    apply wp_ofExcept_of_ok
    intro record hmake
    cases hm : DurableExecutionRecord.make row.toExecutionRow with
    | error e =>
      rw [hm] at hmake
      cases hmake
    | ok made =>
      rw [hm] at hmake
      cases hmake
      exact hQ row record hrow (DurableExecutionRecord.make_ok hm)

variable {draw : String} {createdAt : Int} {record : DurableExecutionRecord}
  {change : ExecutionChange} {key : AttemptKey} {decision : AdmissionDecisionRow}
  {reason : Option String} {r : Except StoreFault DurableExecutionRecord}

/-- Nothing but the events changes when one is inserted. -/
theorem wp_insertEvent {record : ExecutionRow} {eventType : ExecutionEventType}
    {evidenceRef : Option String} {Q : Unit → ExecutionStore → Prop}
    (hQ : Q () { s with events := s.events ++
      [record.event draw (s.nextSequence record.executionId) eventType evidenceRef] }) :
    wp (insertEvent draw record eventType evidenceRef) Q (fun _ _ => True) s := by
  unfold insertEvent
  rw [wp_bind]
  apply wp_ofExcept_of_ok
  intro _ _
  simp only [wp_bind, wp_query, wp_require, implies_true, and_true, wp_update]
  intro _ _
  exact hQ

theorem create_ok {record created : DurableExecutionRecord}
    (h : create record createdAt draw s = (.ok created, s')) :
    created = record ∧ record.version = 1 ∧ s.record? record.executionId = none ∧
      s' = { s with
        records := s.records ++ [{ record.toExecutionRow with createdAt }]
        events := s.events ++
          [record.event draw (s.nextSequence record.executionId) .created none] } := by
  unfold create at h
  split at h
  · cases h
  · rename_i hversion
    refine atomically_ok (Q := fun a s' => a = record ∧ record.version = 1 ∧
      s.record? record.executionId = none ∧ s' = { s with
        records := s.records ++ [{ record.toExecutionRow with createdAt }]
        events := s.events ++
          [record.event draw (s.nextSequence record.executionId) .created none] }) ?_ h
    unfold createBody
    simp only [wp_bind, wp_query, wp_require, implies_true, and_true, wp_update]
    intro hnew _
    apply wp_insertEvent
    rw [wp_pure]
    refine ⟨rfl, not_not.mp hversion, ?_, rfl⟩
    simpa using hnew

theorem create_error (h : create record createdAt draw s = (.error e, s')) : s' = s := by
  unfold create at h
  split at h
  · cases h
    rfl
  · exact atomically_failed h

/-- What a committed update did: it overwrote the state columns of the row it read and
    appended an event with the new ones. -/
theorem updateExecution_ok {next : DurableExecutionRecord}
    (h : updateExecution a change draw s = (.ok next, s')) :
    ∃ row, s.record? a.executionId = some row ∧ row.version = a.expectedVersion ∧
      next.toExecutionRow = change.apply row.toExecutionRow ∧
      s' = { s with
        records := updateWhere
          (fun r => r.executionId = a.executionId && r.version = a.expectedVersion)
          (StoredRecord.overwrite next.toExecutionRow) s.records
        events := s.events ++
          [next.event draw (s.nextSequence next.executionId) change.eventType a.evidenceRef] } := by
  refine checkedTxn_ok (Q := fun next s' => ∃ row, s.record? a.executionId = some row ∧
      row.version = a.expectedVersion ∧ next.toExecutionRow = change.apply row.toExecutionRow ∧
      s' = { s with
        records := updateWhere
          (fun r => r.executionId = a.executionId && r.version = a.expectedVersion)
          (StoredRecord.overwrite next.toExecutionRow) s.records
        events := s.events ++ [next.event draw (s.nextSequence next.executionId)
          change.eventType a.evidenceRef] }) h ?_
  unfold updateBody
  rw [wp_bind]
  apply wp_loadRecord
  intro row current hrow hcurrent
  simp only [wp_bind, wp_require, implies_true, and_true, decide_eq_true_eq]
  intro hversion
  apply wp_ofExcept_of_ok
  intro made hmade
  simp only [wp_update]
  intro _ _
  apply wp_insertEvent
  rw [wp_pure]
  refine ⟨row, hrow, ?_, ?_, rfl⟩
  · rw [← hversion, hcurrent]
  · rw [DurableExecutionRecord.make_ok hmade, hcurrent]

/-- What a committed receipt did: an agreeing one of its id was there, or it is new and so
    is one event. -/
theorem recordReceipt_ok {receipt stored : ReceiptRow}
    (h : recordReceipt receipt draw s = (.ok stored, s')) :
    (s' = s ∧ s.receipt? receipt.receiptId = some stored ∧ receipt.agrees stored = true) ∨
      (stored = receipt ∧ s.receipt? receipt.receiptId = none ∧
        conflicts ReceiptRow.identityKey receipt s.receipts = false ∧
        fitsColumn receipt.claimGeneration = true ∧
        ∃ row, s.record? receipt.executionId = some row ∧ s' = { s with
          receipts := s.receipts ++ [receipt]
          events := s.events ++ [row.event draw (s.nextSequence row.executionId)
            .receiptRecorded (some receipt.receiptId)] }) := by
  refine atomically_ok (Q := fun stored s' =>
    (s' = s ∧ s.receipt? receipt.receiptId = some stored ∧ receipt.agrees stored = true) ∨
      (stored = receipt ∧ s.receipt? receipt.receiptId = none ∧
        conflicts ReceiptRow.identityKey receipt s.receipts = false ∧
        fitsColumn receipt.claimGeneration = true ∧
        ∃ row, s.record? receipt.executionId = some row ∧ s' = { s with
          receipts := s.receipts ++ [receipt]
          events := s.events ++ [row.event draw (s.nextSequence row.executionId)
            .receiptRecorded (some receipt.receiptId)] })) ?_ h
  unfold recordReceiptBody
  rw [wp_bind]
  apply wp_loadRecord
  intro row record hrow hrecord
  simp only [wp_bind, wp_require, wp_query, implies_true, and_true]
  intro hfits
  cases hfound : s.receipt? receipt.receiptId with
  | some existing =>
    simp only [wp_bind, wp_require, wp_pure, implies_true, and_true, true_and]
    intro hagrees
    exact .inl hagrees
  | none =>
    simp only [wp_bind, wp_query, wp_require, implies_true, and_true, wp_update, Bool.not_eq_true']
    intro hidentity
    apply wp_insertEvent
    rw [wp_pure]
    refine .inr ⟨rfl, trivial, hidentity, hfits, row, hrow, ?_⟩
    rw [hrecord]
    rfl

theorem listEvents_state {executionId : String} {r : Except StoreFault (List ExecutionEvent)}
    (h : listEvents executionId s = (r, s')) : s' = s := by
  cases r with
  | error e => exact checkedTxn_error h
  | ok events =>
    refine checkedTxn_ok (Q := fun _ s' => s' = s) h ?_
    unfold listEventsBody
    simp only [wp_bind, wp_query, wp_require, wp_pure, implies_true, and_true]

theorem getReceipt_state {receiptId : String} {r : Except StoreFault ReceiptRow}
    (h : getReceipt receiptId s = (r, s')) : s' = s := by
  cases r with
  | error e => exact checkedTxn_error h
  | ok row =>
    refine checkedTxn_ok (Q := fun _ s' => s' = s) h ?_
    unfold getReceiptBody
    rw [wp_bind, wp_query]
    cases s.receipt? receiptId with
    | none => trivial
    | some row => rfl

/-- A journal row is returned as it is stored. -/
theorem loadAdmissionDecision_ok {r : Option AdmissionDecisionRow}
    (h : loadAdmissionDecision key s = (.ok r, s')) : s' = s ∧ r = s.admission? key := by
  refine checkedTxn_ok (Q := fun r s' => s' = s ∧ r = s.admission? key) h ?_
  unfold loadAdmissionBody
  rw [wp_bind, wp_query]
  cases hrow : s.admission? key with
  | none => exact ⟨rfl, rfl⟩
  | some row =>
    rw [wp_bind]
    apply wp_ofExcept_of_ok
    intro decision hdecision
    unfold rowToAdmissionDecision at hdecision
    split at hdecision
    · cases hdecision
    · cases hdecision
      exact ⟨rfl, rfl⟩

theorem loadAdmissionDecision_error
    (h : loadAdmissionDecision key s = (.error e, s')) : s' = s := checkedTxn_error h

/-- What a journaled decision did: it stood there already, or it is the first one. -/
theorem recordAdmissionDecision_ok {u : Unit}
    (h : recordAdmissionDecision decision s = (.ok u, s')) :
    (s.admission? decision.key = some decision ∧ s' = s) ∨
    (s.admission? decision.key = none ∧
      s' = { s with admissions := s.admissions ++ [decision] }) := by
  refine checkedTxn_ok (Q := fun _ s' => (s.admission? decision.key = some decision ∧ s' = s) ∨
    (s.admission? decision.key = none ∧
      s' = { s with admissions := s.admissions ++ [decision] })) h ?_
  unfold recordAdmissionBody
  rw [wp_bind, wp_query]
  cases hrow : s.admission? decision.key with
  | none =>
    simp only [wp_bind, wp_require, wp_update, implies_true, and_true, true_and, or_true]
  | some row =>
    rw [wp_bind]
    apply wp_ofExcept_of_ok
    intro current hcurrent
    simp only [wp_require, implies_true, and_true, decide_eq_true_eq]
    intro hsame
    unfold rowToAdmissionDecision at hcurrent
    split at hcurrent
    · cases hcurrent
    · cases hcurrent
      left
      rw [hsame]

/-- What a reservation did: a fence with this binding stood there, or this call created
    the first fence of the identity. -/
theorem reserveDispatchFence_ok {r : FenceState × Bool}
    (h : reserveDispatchFence key digest s = (.ok r, s')) :
    (∃ fence, s.fence? key = some fence ∧ r = (fence.state, false) ∧ s' = s) ∨
    (s.fence? key = none ∧ r = (.reserved, true) ∧
      s' = { s with fences := s.fences ++ [{ executionId := key.1, attemptId := key.2
                                             bindingDigest := digest, state := .reserved }] }) := by
  refine checkedTxn_ok (Q := fun r s' =>
    (∃ fence, s.fence? key = some fence ∧ r = (fence.state, false) ∧ s' = s) ∨
    (s.fence? key = none ∧ r = (.reserved, true) ∧
      s' = { s with fences := s.fences ++ [{ executionId := key.1, attemptId := key.2
                                             bindingDigest := digest
                                             state := .reserved }] })) h ?_
  unfold reserveBody
  rw [wp_bind, wp_query]
  cases hfence : s.fence? key with
  | none => exact .inr ⟨rfl, rfl, rfl⟩
  | some fence =>
    simp only [wp_bind, wp_require, wp_pure, implies_true, and_true]
    intro _
    left
    exact ⟨fence, rfl, rfl⟩

theorem transitionDispatchFence_ok {newState : FenceState} {u : Unit}
    (h : transitionDispatchFence key newState reason s = (.ok u, s')) :
    s' = { s with
      fences := updateWhere (fun r => r.key = key)
        (fun r => { r with state := newState, reason }) s.fences } := by
  refine checkedTxn_ok (Q := fun _ s' => s' = { s with
    fences := updateWhere (fun r => r.key = key)
      (fun r => { r with state := newState, reason }) s.fences }) h ?_
  unfold transitionFenceBody
  rw [wp_bind, wp_query]
  cases s.fence? key with
  | none => trivial
  | some fence =>
    simp only [wp_bind, wp_require, wp_update, implies_true, and_true]

theorem transitionDispatchFence_allowed {fence : DispatchFenceRow} (hkey : checkKey key = .ok ())
    (hfence : s.fence? key = some fence) (hallowed : state ∈ fenceTransitions fence.state) :
    ∃ s', transitionDispatchFence key state reason s = (.ok (), s') ∧
      s'.fence? key = some { fence with state, reason } := by
  refine ⟨{ s with
    fences := updateWhere (fun r => r.key = key) (fun r => { r with state, reason })
      s.fences }, ?_, ?_⟩
  · unfold transitionDispatchFence checkedTxn
    rw [hkey]
    simp only [atomically, transitionFenceBody, Txn.bind_run, Txn.query, hfence, Txn.require,
      hallowed, decide_true, if_true, Txn.pure, Txn.update]
  · have hmatch : fence.key = key := by
      unfold ExecutionStore.fence? at hfence
      simpa using List.find?_some hfence
    unfold ExecutionStore.fence? at hfence ⊢
    rw [find?_updateWhere (by intro r _; rfl), hfence]
    simp [hmatch]

/-- What all writers of the store keep. -/
structure ExecutionStore.Grows (s s' : ExecutionStore) : Prop where
  admissions : ∀ key row, s.admission? key = some row → s'.admission? key = some row
  fences : ∀ key fence, s.fence? key = some fence →
    ∃ fence', s'.fence? key = some fence' ∧ fence'.bindingDigest = fence.bindingDigest
  records : ∀ r ∈ s.records, ∃ r' ∈ s'.records,
    r'.executionId = r.executionId ∧ r'.commandFingerprint = r.commandFingerprint

theorem ExecutionStore.Grows.refl (s : ExecutionStore) : s.Grows s where
  admissions _ _ h := h
  fences _ fence h := ⟨fence, h, rfl⟩
  records r hr := ⟨r, hr, rfl, rfl⟩

theorem ExecutionStore.Grows.trans {s₁ s₂ s₃ : ExecutionStore} (h : s₁.Grows s₂)
    (h' : s₂.Grows s₃) : s₁.Grows s₃ where
  admissions key row hrow := h'.admissions key row (h.admissions key row hrow)
  fences key fence hfence := by
    obtain ⟨mid, hmid, hdigest⟩ := h.fences key fence hfence
    obtain ⟨last, hlast, hdigest'⟩ := h'.fences key mid hmid
    exact ⟨last, hlast, hdigest'.trans hdigest⟩
  records r hr := by
    obtain ⟨mid, hmid, hid, hfp⟩ := h.records r hr
    obtain ⟨last, hlast, hid', hfp'⟩ := h'.records mid hmid
    exact ⟨last, hlast, hid'.trans hid, hfp'.trans hfp⟩

theorem find?_append_some {α : Type} {p : α → Bool} {xs ys : List α} {a : α}
    (h : xs.find? p = some a) : (xs ++ ys).find? p = some a := by
  rw [List.find?_append, h]
  rfl

/-- The writers of the store. -/
inductive StoreCall where
  | create (record : DurableExecutionRecord) (createdAt : Int) (draw : String)
  | update (args : UpdateArgs) (change : ExecutionChange) (draw : String)
  | recordReceipt (receipt : ReceiptRow) (draw : String)
  | recordAdmission (decision : AdmissionDecisionRow)
  | reserve (key : AttemptKey) (bindingDigest : String)
  | transitionFence (key : AttemptKey) (state : FenceState) (reason : Option String)
  deriving DecidableEq, Repr

/-- The store after a call of a writer. -/
def StoreCall.perform (s : ExecutionStore) : StoreCall → ExecutionStore
  | .create record createdAt draw => (Execution.create record createdAt draw s).2
  | .update args change draw => (updateExecution args change draw s).2
  | .recordReceipt receipt draw => (Execution.recordReceipt receipt draw s).2
  | .recordAdmission decision => (recordAdmissionDecision decision s).2
  | .reserve key digest => (reserveDispatchFence key digest s).2
  | .transitionFence key state reason => (transitionDispatchFence key state reason s).2

theorem grows_create (h : create record createdAt draw s = (r, s')) : s.Grows s' := by
  cases r with
  | error e =>
    rw [create_error h]
    exact .refl s
  | ok created =>
    obtain ⟨-, -, -, rfl⟩ := create_ok h
    exact {
      admissions := fun _ _ h => h
      fences := fun _ fence h => ⟨fence, h, rfl⟩
      records := fun r hr => ⟨r, List.mem_append_left _ hr, rfl, rfl⟩ }

theorem grows_update (h : updateExecution a change draw s = (r, s')) : s.Grows s' := by
  cases r with
  | error e =>
    rw [checkedTxn_error h]
    exact .refl s
  | ok next =>
    obtain ⟨row, -, -, -, rfl⟩ := updateExecution_ok h
    refine { admissions := fun _ _ h => h, fences := fun _ fence h => ⟨fence, h, rfl⟩, records := ?_ }
    intro r hr
    refine ⟨_, mem_updateWhere.mpr ⟨r, hr, rfl⟩, ?_⟩
    split
    · exact ⟨rfl, rfl⟩
    · exact ⟨rfl, rfl⟩

theorem grows_recordReceipt {receipt : ReceiptRow} {r : Except StoreFault ReceiptRow}
    (h : recordReceipt receipt draw s = (r, s')) : s.Grows s' := by
  cases r with
  | error e =>
    rw [atomically_failed h]
    exact .refl s
  | ok stored =>
    rcases recordReceipt_ok h with ⟨rfl, -, -⟩ | ⟨-, -, -, -, row, -, rfl⟩
    · exact .refl s'
    · exact {
        admissions := fun _ _ h => h
        fences := fun _ fence h => ⟨fence, h, rfl⟩
        records := fun r hr => ⟨r, hr, rfl, rfl⟩ }

theorem grows_recordAdmission {r : Except StoreFault Unit}
    (h : recordAdmissionDecision decision s = (r, s')) : s.Grows s' := by
  cases r with
  | error e =>
    rw [checkedTxn_error h]
    exact .refl s
  | ok u =>
    rcases recordAdmissionDecision_ok h with ⟨-, rfl⟩ | ⟨-, rfl⟩
    · exact .refl s'
    · exact {
        admissions := fun _ _ h => find?_append_some h
        fences := fun _ fence h => ⟨fence, h, rfl⟩
        records := fun r hr => ⟨r, hr, rfl, rfl⟩ }

theorem grows_reserve {r : Except StoreFault (FenceState × Bool)}
    (h : reserveDispatchFence key digest s = (r, s')) : s.Grows s' := by
  cases r with
  | error e =>
    rw [checkedTxn_error h]
    exact .refl s
  | ok r =>
    rcases reserveDispatchFence_ok h with ⟨_, -, -, rfl⟩ | ⟨-, -, rfl⟩
    · exact .refl s'
    · exact {
        admissions := fun _ _ h => h
        fences := fun _ fence h => ⟨fence, find?_append_some h, rfl⟩
        records := fun r hr => ⟨r, hr, rfl, rfl⟩ }

theorem grows_transitionFence {r : Except StoreFault Unit}
    (h : transitionDispatchFence key state reason s = (r, s')) : s.Grows s' := by
  cases r with
  | error e =>
    rw [checkedTxn_error h]
    exact .refl s
  | ok u =>
    rw [transitionDispatchFence_ok h]
    refine { admissions := fun _ _ h => h, fences := ?_, records := fun r hr => ⟨r, hr, rfl, rfl⟩ }
    intro key' fence hfence
    refine ⟨if fence.key = key then { fence with state := state, reason := reason } else fence,
      ?_, ?_⟩
    · show (updateWhere _ _ _).find? _ = _
      unfold ExecutionStore.fence? at hfence
      rw [find?_updateWhere (by intro r _; rfl), hfence]
      simp
    · split
      · rfl
      · rfl

theorem receipts_create (h : create record createdAt draw s = (r, s')) :
    s'.receipts = s.receipts := by
  cases r with
  | error e => rw [create_error h]
  | ok created =>
    obtain ⟨-, -, -, rfl⟩ := create_ok h
    rfl

theorem receipts_update (h : updateExecution a change draw s = (r, s')) :
    s'.receipts = s.receipts := by
  cases r with
  | error e => rw [checkedTxn_error h]
  | ok next =>
    obtain ⟨row, -, -, -, rfl⟩ := updateExecution_ok h
    rfl

theorem receipts_recordAdmission {r : Except StoreFault Unit}
    (h : recordAdmissionDecision decision s = (r, s')) : s'.receipts = s.receipts := by
  cases r with
  | error e => rw [checkedTxn_error h]
  | ok u =>
    rcases recordAdmissionDecision_ok h with ⟨-, rfl⟩ | ⟨-, rfl⟩
    · rfl
    · rfl

theorem receipts_reserve {r : Except StoreFault (FenceState × Bool)}
    (h : reserveDispatchFence key digest s = (r, s')) : s'.receipts = s.receipts := by
  cases r with
  | error e => rw [checkedTxn_error h]
  | ok r =>
    rcases reserveDispatchFence_ok h with ⟨_, -, -, rfl⟩ | ⟨-, -, rfl⟩
    · rfl
    · rfl

theorem receipts_transitionFence {r : Except StoreFault Unit}
    (h : transitionDispatchFence key state reason s = (r, s')) : s'.receipts = s.receipts := by
  cases r with
  | error e => rw [checkedTxn_error h]
  | ok u => rw [transitionDispatchFence_ok h]

/-- A receipt that was presented is the only one that may be new. -/
theorem receipts_recordReceipt {receipt : ReceiptRow} {r : Except StoreFault ReceiptRow}
    (h : recordReceipt receipt draw s = (r, s')) :
    s'.receipts = s.receipts ∨ s'.receipts = s.receipts ++ [receipt] := by
  cases r with
  | error e => exact .inl (by rw [atomically_failed h])
  | ok stored =>
    rcases recordReceipt_ok h with ⟨rfl, -, -⟩ | ⟨-, -, -, -, row, -, rfl⟩
    · exact .inl rfl
    · exact .inr rfl

/-- Every writer keeps what the store holds. -/
theorem StoreCall.perform_grows (call : StoreCall) : s.Grows (call.perform s) := by
  cases call with
  | create record createdAt draw => exact grows_create rfl
  | update args change draw => exact grows_update rfl
  | recordReceipt receipt draw => exact grows_recordReceipt rfl
  | recordAdmission decision => exact grows_recordAdmission rfl
  | reserve key digest => exact grows_reserve rfl
  | transitionFence key state reason => exact grows_transitionFence rfl

end AConductor.Execution

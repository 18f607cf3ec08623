import AConductor.Execution.Spec
import AConductor.Lib.Machine
import AConductor.Lib.Numbering

/-!
# Executions: the log and the receipts

Records, receipts and events are written by separate statements. Over any run of
creations, updates and receipts, by any number of writers, the events of an execution are
numbered without a gap, those that are not receipts count the versions of its record and
end with what the record says, and the others are the stored receipts, one each.
-/

namespace AConductor.Execution

open Txn Numbering List Table

/-- `DurableExecutionReceipt` (`execution_record.py:287-321`): a receipt that passed its own
    checks. -/
structure DurableExecutionReceipt (hash : ReceiptIdentity → String) extends ReceiptRow where
  checked : toReceiptRow.check hash = .ok ()

variable {hash : ReceiptIdentity → String}

/-- A write of a record or a receipt; the four setters are the four changes. -/
inductive LogCall (hash : ReceiptIdentity → String) where
  | create (record : DurableExecutionRecord) (createdAt : Int) (draw : String)
  | update (args : UpdateArgs) (change : ExecutionChange) (draw : String)
  | recordReceipt (receipt : DurableExecutionReceipt hash) (draw : String)

inductive LogAnswer where
  | record (record : DurableExecutionRecord)
  | receipt (receipt : ReceiptRow)
  deriving DecidableEq, Repr

/-- Tag the answer of one operation. -/
def logAnswer {α : Type} (tag : α → LogAnswer) (out : Except StoreFault α × ExecutionStore) :
    Except StoreFault LogAnswer × ExecutionStore := (out.1.map tag, out.2)

/-- Perform one write. -/
def logStep (s : ExecutionStore) : LogCall hash → Except StoreFault LogAnswer × ExecutionStore
  | .create record createdAt draw => logAnswer .record (create record createdAt draw s)
  | .update args change draw => logAnswer .record (updateExecution args change draw s)
  | .recordReceipt receipt draw => logAnswer .receipt (recordReceipt receipt.toReceiptRow draw s)

/-- The event records a receipt. -/
def ExecutionEvent.recordsReceipt (e : ExecutionEvent) : Bool := e.eventType = .receiptRecorded

/-- The event carries what the record says. -/
structure ExecutionEvent.Carries (e : ExecutionEvent) (r : ExecutionRow) : Prop where
  transportState : e.transportState = r.transportState
  executionState : e.executionState = r.executionState
  pid : e.pid = r.pid
  exitCode : e.exitCode = r.exitCode
  startedAt : e.startedAt = r.startedAt
  finishedAt : e.finishedAt = r.finishedAt

theorem ExecutionRow.event_carries (r : ExecutionRow) (eventId : String) (sequenceNo : Int)
    (eventType : ExecutionEventType) (evidenceRef : Option String) :
    (r.event eventId sequenceNo eventType evidenceRef).Carries r := ⟨rfl, rfl, rfl, rfl, rfl, rfl⟩

/-- The events of an execution that are not receipts. -/
def recordEvents (events : List ExecutionEvent) : List ExecutionEvent :=
  events.filter fun e => !e.recordsReceipt

/-! ### One record and its log -/

/-- The log of a record. -/
structure RecordLog (r : ExecutionRow) (events : List ExecutionEvent) : Prop where
  sequence : events.map ExecutionEvent.sequenceNo = upTo events.length
  version : r.version = (recordEvents events).length
  last : ∃ e, (recordEvents events).getLast? = some e ∧ e.Carries r

variable {s : ExecutionStore} {e : ExecutionEvent} {events : List ExecutionEvent} {id : String}
  {row : StoredRecord}

theorem nextSequence_of_numbered
    (h : (s.eventsOf id).map ExecutionEvent.sequenceNo = upTo (s.eventsOf id).length) :
    s.nextSequence id = (s.eventsOf id).length + 1 := by
  unfold ExecutionStore.nextSequence
  rw [h, ← max?_next]
  cases (upTo (s.eventsOf id).length).max? with
  | none => rfl
  | some m => rfl

theorem numbered_snoc (h : events.map ExecutionEvent.sequenceNo = upTo events.length)
    (he : e.sequenceNo = events.length + 1) :
    (events ++ [e]).map ExecutionEvent.sequenceNo = upTo (events ++ [e]).length := by
  rw [map_append, h, length_append, length_singleton, upTo_succ]
  simp [he]

/-- An event that is not a receipt carries the next version of the record. -/
theorem RecordLog.changed {r r' : ExecutionRow} (h : RecordLog r events)
    (hseq : e.sequenceNo = events.length + 1) (htype : e.recordsReceipt = false)
    (hversion : r'.version = r.version + 1) (hcarries : e.Carries r') :
    RecordLog r' (events ++ [e]) := by
  have hevents : recordEvents (events ++ [e]) = recordEvents events ++ [e] := by
    simp [recordEvents, htype]
  refine ⟨numbered_snoc h.sequence hseq, ?_, e, ?_, hcarries⟩
  · rw [hevents, hversion, h.version, length_append, length_singleton]
    push_cast
    rfl
  · rw [hevents, List.getLast?_append]
    rfl

/-- A receipt leaves the record where it is. -/
theorem RecordLog.receipt {r : ExecutionRow} (h : RecordLog r events)
    (hseq : e.sequenceNo = events.length + 1) (htype : e.recordsReceipt = true) :
    RecordLog r (events ++ [e]) := by
  have hevents : recordEvents (events ++ [e]) = recordEvents events := by
    simp [recordEvents, htype]
  refine ⟨numbered_snoc h.sequence hseq, ?_, ?_⟩
  · rw [hevents]
    exact h.version
  · rw [hevents]
    exact h.last

/-! ### The store -/

/-- `execution_id TEXT PRIMARY KEY`. -/
def StoredRecord.idKey (r : StoredRecord) : Option String := some r.executionId

/-- `receipt_id TEXT PRIMARY KEY`. -/
def ReceiptRow.idKey (r : ReceiptRow) : Option String := some r.receiptId

/-- What an event says of a receipt, and what the receipt says. -/
def ExecutionEvent.receiptRef (e : ExecutionEvent) : String × Option String :=
  (e.executionId, e.evidenceRef)

def ReceiptRow.ref (r : ReceiptRow) : String × Option String := (r.executionId, some r.receiptId)

/-- Every record has its log, every event its record, and the receipts are those of the
    receipt events, in their order. -/
structure StoreLogged (hash : ReceiptIdentity → String) (s : ExecutionStore) : Prop where
  records : Unique StoredRecord.idKey s.records
  logged : ∀ r ∈ s.records, RecordLog r.toExecutionRow (s.eventsOf r.executionId)
  owned : ∀ e ∈ s.events, ∃ r ∈ s.records, r.executionId = e.executionId
  valid : ∀ r ∈ s.records, r.toExecutionRow.check = .ok ()
  receipts : Unique ReceiptRow.idKey s.receipts
  receiptEvents : (s.events.filter ExecutionEvent.recordsReceipt).map ExecutionEvent.receiptRef =
    s.receipts.map ReceiptRow.ref
  receiptsValid : ∀ r ∈ s.receipts, r.check hash = .ok () ∧ fitsColumn r.claimGeneration = true ∧
    ∃ row ∈ s.records, row.executionId = r.executionId

theorem storeLogged_empty : StoreLogged hash .empty := by
  refine ⟨unique_nil _, ?_, ?_, ?_, unique_nil _, rfl, ?_⟩
  · intro r hr
    cases hr
  · intro e he
    cases he
  · intro r hr
    cases hr
  · intro r hr
    cases hr

theorem ExecutionStore.record?_some (h : s.record? id = some row) :
    row ∈ s.records ∧ row.executionId = id :=
  ⟨mem_of_find?_eq_some h, by simpa using List.find?_some h⟩

theorem ExecutionStore.record?_none (h : s.record? id = none) :
    ∀ r ∈ s.records, r.executionId ≠ id := by
  intro r hr hid
  have hfind := List.find?_eq_none.mp h r hr
  simp [hid] at hfind

theorem eventsOf_snoc {s s' : ExecutionStore} (h : s'.events = s.events ++ [e]) (id : String) :
    s'.eventsOf id = if e.executionId = id then s.eventsOf id ++ [e] else s.eventsOf id := by
  unfold ExecutionStore.eventsOf
  rw [h, filter_append]
  by_cases hid : e.executionId = id
  · simp [hid]
  · simp [hid]

theorem StoreLogged.eventsOf_eq_nil (h : StoreLogged hash s)
    (hfresh : ∀ r ∈ s.records, r.executionId ≠ id) : s.eventsOf id = [] := by
  unfold ExecutionStore.eventsOf
  rw [filter_eq_nil_iff]
  intro e he hid
  obtain ⟨r, hr, hre⟩ := h.owned e he
  exact hfresh r hr (hre.trans (by simpa using hid))

/-- An event that is not a receipt leaves the receipt events as they are. -/
theorem StoreLogged.receiptEvents_snoc (h : StoreLogged hash s) (he : e.recordsReceipt = false) :
    ((s.events ++ [e]).filter ExecutionEvent.recordsReceipt).map ExecutionEvent.receiptRef =
      s.receipts.map ReceiptRow.ref := by
  rw [filter_append, ← h.receiptEvents]
  simp [he]

theorem StoreLogged.created (h : StoreLogged hash s) {record : DurableExecutionRecord}
    (createdAt : Int) (draw : String) (hversion : record.version = 1)
    (hnew : s.record? record.executionId = none) :
    StoreLogged hash { s with
      records := s.records ++ [{ record.toExecutionRow with createdAt }]
      events := s.events ++
        [record.event draw (s.nextSequence record.executionId) .created none] } := by
  have hfresh := ExecutionStore.record?_none hnew
  have hnone := h.eventsOf_eq_nil hfresh
  have hseq : s.nextSequence record.executionId = 1 := by
    rw [nextSequence_of_numbered (by rw [hnone]; rfl), hnone]
    rfl
  rw [hseq]
  set event := record.event draw 1 .created none with hevent
  set row : StoredRecord := { record.toExecutionRow with createdAt } with hrow
  have hid : event.executionId = row.executionId := rfl
  refine ⟨?_, ?_, ?_, ?_, h.receipts, h.receiptEvents_snoc rfl, ?_⟩
  · apply h.records.insert
    rw [conflicts_eq_false]
    intro r hr k hk hrk
    exact hfresh r hr (Option.some.inj (hrk.trans hk.symm))
  · intro r hr
    rw [eventsOf_snoc (show _ = s.events ++ [event] from rfl), hid]
    rcases mem_append.mp hr with hr | hr
    · rw [if_neg fun heq => hfresh r hr heq.symm]
      exact h.logged r hr
    · rw [mem_singleton] at hr
      subst hr
      rw [if_pos rfl, show s.eventsOf row.executionId = [] from hnone]
      exact ⟨rfl, hversion, event, rfl, record.event_carries draw 1 .created none⟩
  · intro e he
    rcases mem_append.mp he with he | he
    · obtain ⟨r, hr, hre⟩ := h.owned e he
      exact ⟨r, mem_append_left _ hr, hre⟩
    · rw [mem_singleton] at he
      subst he
      exact ⟨row, mem_append_right _ (mem_singleton_self _), hid.symm⟩
  · intro r hr
    rcases mem_append.mp hr with hr | hr
    · exact h.valid r hr
    · rw [mem_singleton] at hr
      subst hr
      exact record.checked
  · intro r hr
    obtain ⟨hcheck, hfits, owner, howner, hown⟩ := h.receiptsValid r hr
    exact ⟨hcheck, hfits, owner, mem_append_left _ howner, hown⟩

/-- A change touches the columns that an update overwrites, and the version. -/
theorem overwrite_apply (change : ExecutionChange) (row : StoredRecord) :
    (StoredRecord.overwrite (change.apply row.toExecutionRow) row).toExecutionRow =
      change.apply row.toExecutionRow := by
  cases change <;> rfl

theorem apply_version (change : ExecutionChange) (r : ExecutionRow) :
    (change.apply r).version = r.version + 1 := by
  cases change <;> rfl

theorem apply_executionId (change : ExecutionChange) (r : ExecutionRow) :
    (change.apply r).executionId = r.executionId := by
  cases change <;> rfl

theorem eventType_ne_receipt (change : ExecutionChange) :
    change.eventType ≠ .receiptRecorded := by
  cases change <;> simp [ExecutionChange.eventType]

theorem StoreLogged.updated (h : StoreLogged hash s) (hrow : row ∈ s.records)
    {next : DurableExecutionRecord} {change : ExecutionChange}
    (hnext : next.toExecutionRow = change.apply row.toExecutionRow) (draw : String)
    (evidenceRef : Option String) :
    StoreLogged hash { s with
      records := updateWhere
        (fun r => r.executionId = row.executionId && r.version = row.version)
        (StoredRecord.overwrite next.toExecutionRow) s.records
      events := s.events ++ [next.event draw (s.nextSequence next.executionId)
        change.eventType evidenceRef] } := by
  have hid : next.executionId = row.executionId := by rw [hnext, apply_executionId]
  have hlog := h.logged row hrow
  have htype : ∀ sequenceNo,
      (next.event draw sequenceNo change.eventType evidenceRef).recordsReceipt = false := by
    intro sequenceNo
    exact decide_eq_false (eventType_ne_receipt change)
  have hnew : (StoredRecord.overwrite next.toExecutionRow row).toExecutionRow =
      next.toExecutionRow := by rw [hnext, overwrite_apply]
  -- only the row that was read has its key
  have cases_row : ∀ r' ∈ updateWhere
        (fun r => r.executionId = row.executionId && r.version = row.version)
        (StoredRecord.overwrite next.toExecutionRow) s.records,
      (r'.executionId = row.executionId ∧ r'.toExecutionRow = next.toExecutionRow) ∨
        (r'.executionId ≠ row.executionId ∧ r' ∈ s.records) := by
    intro r' hr'
    rcases h.records.mem_updateWhere hrow rfl (by simp)
        (by simp +contextual [StoredRecord.idKey]) hr' with
      rfl | ⟨hr', hother⟩
    · exact .inl ⟨rfl, hnew⟩
    · exact .inr ⟨fun hsame => hother (congrArg some hsame), hr'⟩
  have kept : ∀ r ∈ s.records, ∃ r' ∈ updateWhere
        (fun r => r.executionId = row.executionId && r.version = row.version)
        (StoredRecord.overwrite next.toExecutionRow) s.records,
      r'.executionId = r.executionId := by
    intro r hr
    refine ⟨_, mem_updateWhere.mpr ⟨r, hr, rfl⟩, ?_⟩
    split <;> rfl
  refine ⟨?_, ?_, ?_, ?_, h.receipts, h.receiptEvents_snoc (htype _), ?_⟩
  · apply h.records.updateWhere
    intro r _
    exact .inl rfl
  · intro r' hr'
    rw [eventsOf_snoc rfl]
    show RecordLog _ (if next.executionId = r'.executionId then _ else _)
    rw [hid]
    rcases cases_row r' hr' with ⟨hid', hr'⟩ | ⟨hid', hr'⟩
    · rw [if_pos hid'.symm, hid', hr']
      refine hlog.changed ?_ (htype _) ?_ (next.event_carries _ _ _ _)
      · show s.nextSequence row.executionId = _
        exact nextSequence_of_numbered hlog.sequence
      · rw [hnext, apply_version]
    · rw [if_neg fun heq => hid' heq.symm]
      exact h.logged r' hr'
  · intro e he
    rcases mem_append.mp he with he | he
    · obtain ⟨r, hr, hre⟩ := h.owned e he
      obtain ⟨r', hr', hre'⟩ := kept r hr
      exact ⟨r', hr', hre'.trans hre⟩
    · rw [mem_singleton] at he
      subst he
      obtain ⟨r', hr', hre'⟩ := kept row hrow
      exact ⟨r', hr', hre'.trans hid.symm⟩
  · intro r' hr'
    rcases cases_row r' hr' with ⟨-, hr'⟩ | ⟨-, hr'⟩
    · rw [hr']
      exact next.checked
    · exact h.valid r' hr'
  · intro r hr
    obtain ⟨hcheck, hfits, owner, howner, hown⟩ := h.receiptsValid r hr
    obtain ⟨owner', howner', hown'⟩ := kept owner howner
    exact ⟨hcheck, hfits, owner', howner', hown'.trans hown⟩

theorem StoreLogged.received (h : StoreLogged hash s) (hrow : row ∈ s.records)
    {receipt : ReceiptRow} (hcheck : receipt.check hash = .ok ())
    (hfits : fitsColumn receipt.claimGeneration = true)
    (hid : row.executionId = receipt.executionId) (hnew : s.receipt? receipt.receiptId = none)
    (draw : String) :
    StoreLogged hash { s with
      receipts := s.receipts ++ [receipt]
      events := s.events ++ [row.event draw (s.nextSequence row.executionId) .receiptRecorded
        (some receipt.receiptId)] } := by
  set event := row.event draw (s.nextSequence row.executionId) .receiptRecorded
    (some receipt.receiptId) with hevent
  have heid : event.executionId = row.executionId := rfl
  refine ⟨h.records, ?_, ?_, h.valid, ?_, ?_, ?_⟩
  · intro r hr
    rw [eventsOf_snoc (show _ = s.events ++ [event] from rfl), heid]
    have hlog := h.logged r hr
    by_cases hsame : row.executionId = r.executionId
    · rw [if_pos hsame]
      refine hlog.receipt ?_ rfl
      show s.nextSequence row.executionId = _
      rw [hsame]
      exact nextSequence_of_numbered hlog.sequence
    · rw [if_neg hsame]
      exact hlog
  · intro e he
    rcases mem_append.mp he with he | he
    · exact h.owned e he
    · rw [mem_singleton] at he
      subst he
      exact ⟨row, hrow, heid.symm⟩
  · apply h.receipts.insert
    rw [conflicts_eq_false]
    intro r hr k hk hrk
    have hfind := List.find?_eq_none.mp hnew r hr
    have hids : r.receiptId = receipt.receiptId := Option.some.inj (hrk.trans hk.symm)
    simp [hids] at hfind
  · rw [filter_append, map_append, h.receiptEvents, map_append]
    have href : event.receiptRef = receipt.ref := by
      show (row.executionId, _) = _
      rw [hid]
      rfl
    simp [show event.recordsReceipt = true from rfl, href]
  · intro r hr
    rcases mem_append.mp hr with hr | hr
    · exact h.receiptsValid r hr
    · rw [mem_singleton] at hr
      subst hr
      exact ⟨hcheck, hfits, row, hrow, hid⟩

/-! ### Runs -/

/-- Nothing that was logged or received is changed or removed. -/
structure AppendOnly (s s' : ExecutionStore) : Prop where
  events : s.events <+: s'.events
  receipts : s.receipts <+: s'.receipts

theorem AppendOnly.refl (s : ExecutionStore) : AppendOnly s s :=
  ⟨prefix_refl _, prefix_refl _⟩

theorem AppendOnly.trans {a b c : ExecutionStore} (h : AppendOnly a b) (h' : AppendOnly b c) :
    AppendOnly a c := ⟨h.events.trans h'.events, h.receipts.trans h'.receipts⟩

theorem logStep_error {s s' : ExecutionStore} {call : LogCall hash} {e : StoreFault}
    (h : logStep s call = (.error e, s')) : s' = s := by
  have raised : ∀ {α : Type} {tag : α → LogAnswer} {out : Except StoreFault α × ExecutionStore},
      logAnswer tag out = (.error e, s') → ∃ e', out = (.error e', s') := by
    intro α tag out hout
    rcases out with ⟨r | a, t⟩
    · cases hout
      exact ⟨_, rfl⟩
    · cases hout
  cases call with
  | create record createdAt draw =>
    obtain ⟨e', hout⟩ := raised h
    exact create_error hout
  | update args change draw =>
    obtain ⟨e', hout⟩ := raised h
    exact checkedTxn_error hout
  | recordReceipt receipt draw =>
    obtain ⟨e', hout⟩ := raised h
    exact atomically_failed hout

/-- One write keeps the logs and only appends. -/
theorem logStep_logged (s : ExecutionStore) (call : LogCall hash) (h : StoreLogged hash s) :
    StoreLogged hash (logStep s call).2 ∧ AppendOnly s (logStep s call).2 := by
  rcases hout : logStep s call with ⟨r, s'⟩
  cases r with
  | error e =>
    have hsame : s' = s := logStep_error hout
    subst hsame
    exact ⟨h, .refl _⟩
  | ok answer =>
    have returned : ∀ {α : Type} {tag : α → LogAnswer}
        {out : Except StoreFault α × ExecutionStore},
        logAnswer tag out = (.ok answer, s') → ∃ a, out = (.ok a, s') := by
      intro α tag out hout
      rcases out with ⟨r | a, t⟩
      · cases hout
      · cases hout
        exact ⟨a, rfl⟩
    cases call with
    | create record createdAt draw =>
      obtain ⟨made, hmade⟩ := returned hout
      obtain ⟨-, hversion, hnew, rfl⟩ := create_ok hmade
      exact ⟨h.created createdAt draw hversion hnew, ⟨_, rfl⟩, prefix_refl _⟩
    | update args change draw =>
      obtain ⟨next, hnext⟩ := returned hout
      obtain ⟨row, hrow, hversion, hchange, rfl⟩ := updateExecution_ok hnext
      obtain ⟨hmem, hid⟩ := ExecutionStore.record?_some hrow
      rw [← hid, ← hversion]
      exact ⟨h.updated hmem hchange draw args.evidenceRef, ⟨_, rfl⟩, prefix_refl _⟩
    | recordReceipt receipt draw =>
      obtain ⟨stored, hstored⟩ := returned hout
      rcases recordReceipt_ok hstored with ⟨rfl, -, -⟩ | ⟨-, hnew, -, hfits, row, hrow, rfl⟩
      · exact ⟨h, .refl _⟩
      · obtain ⟨hmem, hid⟩ := ExecutionStore.record?_some hrow
        exact ⟨h.received hmem receipt.checked hfits hid hnew draw, ⟨_, rfl⟩, ⟨_, rfl⟩⟩

/-- A stored receipt is found under the id of its identity. -/
theorem StoreLogged.receipt? (h : StoreLogged hash s) {r : ReceiptRow} (hr : r ∈ s.receipts) :
    s.receipt? r.receiptId = some r := by
  cases hfound : s.receipt? r.receiptId with
  | none =>
    have hfind := List.find?_eq_none.mp hfound r hr
    simp at hfind
  | some other =>
    have hid : other.receiptId = r.receiptId := by simpa using List.find?_some hfound
    rw [h.receipts.eq_of_key (mem_of_find?_eq_some hfound) hr (congrArg some hid) rfl]

theorem ReceiptRow.check_receiptId {r : ReceiptRow} (h : r.check hash = .ok ()) :
    r.receiptId = hash r.toReceiptIdentity := by
  unfold ReceiptRow.check at h
  iterate 9 obtain ⟨_, -, h⟩ := Except.bind_eq_ok.mp h
  obtain ⟨expected, hexpected, h⟩ := Except.bind_eq_ok.mp h
  unfold computeReceiptId at hexpected
  iterate 4 obtain ⟨_, -, hexpected⟩ := Except.bind_eq_ok.mp hexpected
  cases hexpected
  by_contra hne
  rw [if_pos hne] at h
  cases h

/-- Rows of one identity and one id that agree are the same. -/
theorem ReceiptRow.eq_of_agrees {a b : ReceiptRow} (hidentity : a.toReceiptIdentity = b.toReceiptIdentity)
    (hid : a.receiptId = b.receiptId) (h : a.agrees b = true) : b = a := by
  unfold ReceiptRow.agrees at h
  simp only [Bool.and_eq_true, decide_eq_true_eq] at h
  obtain ⟨⟨⟨⟨hgeneration, hauthority⟩, hexecution⟩, hdisposition⟩, hevidence⟩ := h
  cases a
  cases b
  simp_all

/-- A receipt that conflicts with the stored one of its identity is refused. -/
theorem StoreLogged.receipt_conflict (h : StoreLogged hash s) {stored : ReceiptRow}
    (hstored : stored ∈ s.receipts) (receipt : DurableExecutionReceipt hash)
    (hidentity : stored.toReceiptIdentity = receipt.toReceiptIdentity)
    (hne : stored ≠ receipt.toReceiptRow) (draw : String) :
    ∃ e, (logStep s (.recordReceipt receipt draw)).1 = .error e := by
  have hid : stored.receiptId = receipt.receiptId := by
    rw [ReceiptRow.check_receiptId (h.receiptsValid stored hstored).1,
      ReceiptRow.check_receiptId receipt.checked, hidentity]
  have hfound : s.receipt? receipt.receiptId = some stored := by
    rw [← hid]
    exact h.receipt? hstored
  rcases hout : recordReceipt receipt.toReceiptRow draw s with ⟨r | a, s'⟩
  · refine ⟨r, ?_⟩
    simp only [logStep, logAnswer, hout, Except.map]
  · exfalso
    rcases recordReceipt_ok hout with ⟨-, hsame, hagrees⟩ | ⟨-, hnone, -⟩
    · rw [hfound] at hsame
      cases hsame
      exact hne (ReceiptRow.eq_of_agrees hidentity.symm hid.symm hagrees)
    · rw [hfound] at hnone
      cases hnone

/-- A stored receipt is answered again, and nothing is written. -/
theorem StoreLogged.receipt_again (h : StoreLogged hash s) (receipt : DurableExecutionReceipt hash)
    (hstored : receipt.toReceiptRow ∈ s.receipts) (draw : String) :
    logStep s (.recordReceipt receipt draw) = (.ok (.receipt receipt.toReceiptRow), s) := by
  obtain ⟨-, hfits, row, hrow, hid⟩ := h.receiptsValid _ hstored
  have hfound : s.record? receipt.executionId = some row := by
    cases hother : s.record? receipt.executionId with
    | none => exact absurd hid (ExecutionStore.record?_none hother row hrow)
    | some other =>
      obtain ⟨hmem, hid'⟩ := ExecutionStore.record?_some hother
      rw [h.records.eq_of_key hmem hrow (congrArg some (hid'.trans hid.symm)) rfl]
  have hmake : DurableExecutionRecord.make row.toExecutionRow =
      .ok ⟨row.toExecutionRow, h.valid row hrow⟩ := by
    unfold DurableExecutionRecord.make
    split
    · rfl
    · rename_i e he
      rw [h.valid row hrow] at he
      cases he
  have hwp : wp (recordReceiptBody receipt.toReceiptRow draw)
      (fun r s' => r = receipt.toReceiptRow ∧ s' = s) (fun _ _ => False) s := by
    unfold recordReceiptBody loadRecord
    simp only [wp_bind, wp_query, hfound, hmake, Except.mapError, wp_ofExcept_ok, wp_require, hfits,
      h.receipt? hstored, wp_pure, ReceiptRow.agrees, decide_true, Bool.and_true, reduceCtorEq,
      false_implies, and_true, implies_true]
  have hout : recordReceipt receipt.toReceiptRow draw s = (.ok receipt.toReceiptRow, s) := by
    rcases atomically_spec (E := fun _ => False) hwp with ⟨r, s', hx, rfl, rfl⟩ | ⟨e, -, hfalse⟩
    · exact hx
    · exact hfalse.elim
  simp only [logStep, logAnswer, hout, Except.map]

/-- The store after some writes. -/
def logAfter (calls : List (LogCall hash)) : ExecutionStore :=
  (Machine.run logStep ExecutionStore.empty calls).2

theorem logAfter_logged (calls : List (LogCall hash)) : StoreLogged hash (logAfter calls) :=
  Machine.Reachable.induction (P := StoreLogged hash) ⟨calls, rfl⟩ storeLogged_empty
    fun s call h => (logStep_logged s call h).1

/-- Over every run of the store, by any interleaving of writers:

    * the events of an execution are numbered `1, …, n`; the version of its record is the
      number of those that are not receipts, and the last of these carries what the record
      says;
    * the receipt events are the stored receipts, one each, whose ids are different;
    * no event and no receipt is changed or removed later;
    * recording a stored receipt again answers it and writes nothing, and recording another
      receipt of its identity raises;
    * a write that raises leaves the store as it was. -/
theorem execution_log_append_only (hash : ReceiptIdentity → String) (calls : List (LogCall hash)) :
    let s := logAfter calls
    (∀ r ∈ s.records,
      (s.eventsOf r.executionId).map ExecutionEvent.sequenceNo =
        upTo (s.eventsOf r.executionId).length ∧
      r.version = (recordEvents (s.eventsOf r.executionId)).length ∧
      ∃ e, (recordEvents (s.eventsOf r.executionId)).getLast? = some e ∧
        e.Carries r.toExecutionRow) ∧
    (∀ e ∈ s.events, ∃ r ∈ s.records, r.executionId = e.executionId) ∧
    ((s.events.filter ExecutionEvent.recordsReceipt).map ExecutionEvent.receiptRef =
        s.receipts.map ReceiptRow.ref ∧
      (s.receipts.map ReceiptRow.receiptId).Nodup) ∧
    (∀ more, AppendOnly s (logAfter (calls ++ more))) ∧
    (∀ receipt : DurableExecutionReceipt hash, ∀ draw, receipt.toReceiptRow ∈ s.receipts →
      logStep s (.recordReceipt receipt draw) = (.ok (.receipt receipt.toReceiptRow), s)) ∧
    (∀ receipt : DurableExecutionReceipt hash, ∀ draw, ∀ stored ∈ s.receipts,
      stored.toReceiptIdentity = receipt.toReceiptIdentity → stored ≠ receipt.toReceiptRow →
      ∃ e, (logStep s (.recordReceipt receipt draw)).1 = .error e) ∧
    ∀ call : LogCall hash, ∀ e, (logStep s call).1 = .error e → (logStep s call).2 = s := by
  intro s
  have inv : StoreLogged hash s := logAfter_logged calls
  refine ⟨?_, inv.owned, ⟨inv.receiptEvents, ?_⟩, ?_, ?_, ?_, ?_⟩
  · intro r hr
    have hlog := inv.logged r hr
    exact ⟨hlog.sequence, hlog.version, hlog.last⟩
  · apply List.Pairwise.map _ _ inv.receipts
    intro a b hab hsame
    exact hab a.receiptId rfl (congrArg some hsame.symm)
  · exact Machine.run_later (R := AppendOnly) storeLogged_empty logStep_logged AppendOnly.refl
      (fun _ _ _ => AppendOnly.trans) calls
  · exact fun receipt draw hstored => inv.receipt_again receipt hstored draw
  · intro receipt draw stored hstored hidentity hne
    exact inv.receipt_conflict hstored receipt hidentity hne draw
  · intro call e he
    exact logStep_error (Prod.ext he rfl)

end AConductor.Execution

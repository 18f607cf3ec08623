import AConductor.Dex.Admission

/-!
# DEX: the wire

`AdmissionReceiptWire` (`src/a_conductor/dex_wire.py`): admission, the probe of the
execution record, the duplicate check, the durable fence, one dispatch, collection,
decoding, the receipt and the retirement of the fence, with every error path. A call is
a `Proc` over the store and the memory of the processes; it notes the reservation it
won and the dispatch it made. The lock that serialises the calls of one wire for one
identity only removes interleavings and is left out.

What the transport answers is part of the call. Of `decode_collected_evidence`
(`dex_evidence.py`) the comparison with what is expected is kept; the parsing of the
bytes is part of the answer.
-/

namespace AConductor.Dex

open Execution Proc

/-- What `str` makes of an exception: a text, or another exception that it raises. -/
inductive Thrown where
  | text (shown : String)
  | unprintable (err : Thrown)
  deriving DecidableEq, Repr

/-- What `transport.dispatch` answers: an exception, the status `DISPATCHED`, another status,
    with the text it is shown as, or one that raises when it is read or shown. -/
inductive DispatchAnswer where
  | raised (err : Thrown)
  | dispatched
  | other (shown : String)
  | unreadable (err : Thrown)
  deriving DecidableEq, Repr

/-- The fields of `DexCollectedEvidence` that are used (`dex_evidence.py:73-89`). -/
structure DexCollectedEvidence where
  executionId : String
  attemptId : String
  bindingDigest : String
  claimGeneration : Int
  authoritySha : String
  executionSha : String
  resultSha256 : String
  collectedUnderDrift : Bool
  evidenceSha256 : String
  deriving DecidableEq, Repr

/-- What `transport.collect` answers: an exception, bytes that the strict parser refuses
    with a code, or a payload, whose own digest matches or not. -/
inductive CollectAnswer where
  | raised (err : Thrown)
  | malformed (code : String)
  | payload (evidence : DexCollectedEvidence) (digestMatches : Bool)
  deriving DecidableEq, Repr

/-- The end of `decode_collected_evidence` (`dex_evidence.py:156-166`). -/
def decodePayload (binding : DexBindingIdentity) (admission : AdmissionRecord)
    (evidence : DexCollectedEvidence) (digestMatches : Bool) :
    Except String DexCollectedEvidence :=
  if evidence.executionId ≠ binding.executionId ∨ evidence.attemptId ≠ binding.attemptId then
    .error "DEX_EVIDENCE_IDENTITY_MISMATCH"
  else if evidence.bindingDigest ≠ admission.bindingDigest then
    .error "DEX_EVIDENCE_BINDING_MISMATCH"
  else if evidence.authoritySha ≠ binding.authoritySha ∨
      evidence.executionSha ≠ binding.executionSha then
    .error "DEX_EVIDENCE_SHA_SET_MISMATCH"
  else if !digestMatches then .error "DEX_EVIDENCE_DIGEST_MISMATCH"
  else .ok evidence

inductive WireStatus where
  | completed
  | duplicateAlreadyCompleted
  | ambiguous
  | denied
  | evidenceRejected
  deriving DecidableEq, Repr

/-- `WireOutcome` (`dex_wire.py:84-90`). -/
structure WireOutcome where
  executionId : String
  attemptId : String
  receiptId : Option String
  status : WireStatus
  detail : String
  deriving DecidableEq, Repr

/-- What `run_attempt` can raise: a `WireError`, the `ValueError` of a receipt that cannot be
    built, or what `str` of an exception raised. -/
inductive WireFault where
  | wireError (code detail : String)
  | raised (fault : StoreFault)
  | unshown
  deriving DecidableEq, Repr

/-- The store operations of a call, each of which the database may fail. -/
inductive WireStep where
  | loadAdmission
  | recordAdmission
  | probe
  | findReceipt
  | reserve
  | markDispatched
  | markFenced
  | recordReceipt
  | getReceipt
  | retire
  deriving DecidableEq, Repr

/-- A call of `run_attempt` on a wire, with what its surroundings will answer. -/
structure WireCall where
  wire : Nat
  binding : DexBindingIdentity
  claimView : ClaimView
  dispatchAnswer : DispatchAnswer
  collectAnswer : CollectAnswer
  receiptDraw : String
  outage : WireStep → Option StoreFault

/-- The notes of a call: the reservation it created, and its dispatch, with what the
    journal held for the identity at that moment. -/
inductive WireNote where
  | reserved (key : AttemptKey)
  | dispatched (wire : Nat) (binding : DexBindingIdentity) (journal : Option AdmissionDecisionRow)
  deriving DecidableEq, Repr

/-- The digests that are taken, and which issuer a wire has. -/
structure Deployment where
  bindingDigest : DexBindingIdentity → String
  receiptDigest : ReceiptIdentity → String
  issuerOf : Nat → Nat
  journaled : Nat → Bool

abbrev WireProc := ExceptT WireFault (Proc DexState WireNote)

/-- `str(err)`. -/
def faultText : StoreFault → String
  | .valueError text => text
  | .storeError code => code
  | .overflowError => "Python int too large to convert to SQLite INTEGER"

def isStoreError : StoreFault → Bool
  | .storeError _ => true
  | _ => false

/-- `_denied` (`dex_wire.py:405-412`). -/
def deniedOutcome (binding : DexBindingIdentity) (code detail : String) : WireOutcome where
  executionId := binding.executionId
  attemptId := binding.attemptId
  receiptId := none
  status := .denied
  detail := code ++ ": " ++ detail

/-- `_ambiguous` (`dex_wire.py:414-421`). -/
def ambiguousOutcome (binding : DexBindingIdentity) (detail : String) : WireOutcome where
  executionId := binding.executionId
  attemptId := binding.attemptId
  receiptId := none
  status := .ambiguous
  detail := "WIRE_LAUNCH_AMBIGUOUS: " ++ detail ++
    " (no auto-retry; explicit reconciliation required)"

def rejectedOutcome (binding : DexBindingIdentity) (detail : String) : WireOutcome where
  executionId := binding.executionId
  attemptId := binding.attemptId
  receiptId := none
  status := .evidenceRejected
  detail := detail

/-- A store operation of a call, its fault named by `name`. -/
def serve {α : Type} (call : WireCall) (op : WireStep) (name : StoreFault → WireFault)
    (tx : ExecutionStore → Except StoreFault α × ExecutionStore) : WireProc α :=
  ExceptT.mk (transact fun s =>
    ((onStore (call.outage op) tx s).1.mapError name, (onStore (call.outage op) tx s).2))

/-- `self._fenced.add(identity)`. -/
def fenceLocally (call : WireCall) : WireProc Unit :=
  ExceptT.lift (transact fun s => ((), { s with
    fenced := fun wire key => (wire = call.wire && key = call.binding.key) || s.fenced wire key }))

/-- `identity in self._fenced`. -/
def fencedLocally (call : WireCall) : WireProc Bool :=
  ExceptT.lift (transact fun s => (s.fenced call.wire call.binding.key, s))

/-- The fault of `_probe_execution_record` (`dex_wire.py:327-338`). -/
def probeFault (binding : DexBindingIdentity) (fault : StoreFault) : WireFault :=
  if isStoreError fault && Text.hasInfix (faultText fault) "EXECUTION_NOT_FOUND" then
    .wireError "WIRE_EXECUTION_RECORD_MISSING" ("execution record missing for " ++
      binding.executionId ++ "; create it via the authority path first")
  else .wireError "WIRE_STATE_UNAVAILABLE" ("execution state unreadable: " ++ faultText fault)

/-- The fault of `_reserve_durable_fence` (`dex_wire.py:340-360`). -/
def reserveFault (fault : StoreFault) : WireFault :=
  if isStoreError fault && (Text.hasInfix (faultText fault) "FENCE_BINDING_CONFLICT" ||
      Text.hasInfix (faultText fault) "FENCE_STATE_CONFLICT") then
    .wireError "WIRE_FENCE_CONFLICT" ("durable fence rejected the identity: " ++ faultText fault)
  else .wireError "WIRE_STATE_UNAVAILABLE" ("durable fence state unreadable: " ++ faultText fault)

/-- The fault of `_fence_mark` (`dex_wire.py:362-393`). -/
def markFault (state : FenceState) (fault : StoreFault) : WireFault :=
  if isStoreError fault && ["FENCE_STATE_CONFLICT", "FENCE_BINDING_CONFLICT",
      "DISPATCH_FENCE_NOT_FOUND", "DISPATCH_FENCE_CORRUPT"].any
        (Text.hasInfix (faultText fault)) then
    .wireError "WIRE_FENCE_CONFLICT"
      ("durable fence rejected the transition to " ++ state.value ++ ": " ++
        faultText fault)
  else .wireError "WIRE_STATE_UNAVAILABLE"
    ("durable fence transition to " ++ state.value ++ " failed: " ++ faultText fault)

/-- `_fence_mark`. -/
def fenceMark (call : WireCall) (op : WireStep) (state : FenceState) (reason : String) :
    WireProc Unit :=
  serve call op (markFault state)
    (transitionDispatchFence call.binding.key state (some reason))

/-- The two fences that follow an ambiguity, in the process and in the store. -/
def fenceIdentity (call : WireCall) (reason : String) : WireProc Unit := do
  fenceLocally call
  fenceMark call .markFenced .fenced reason

/-- `_fence_retire_best_effort` (`dex_wire.py:395-403`). -/
def fenceRetireBestEffort (call : WireCall) (reason : String) : WireProc Unit :=
  tryCatch (fenceMark call .retire .retired reason) fun _ => pure ()

/-- `_find_receipt_contained` (`dex_wire.py:423-442`): the first receipt event that
    names its receipt. -/
def receiptEvidence (events : List ExecutionEvent) : Option String :=
  events.findSome? fun e =>
    if e.eventType = .receiptRecorded then e.evidenceRef.filter (· ≠ "") else none

def findReceiptContained (call : WireCall) : WireProc (Option String) := do
  let events ← serve call .findReceipt
    (fun fault => .wireError "WIRE_STATE_UNAVAILABLE"
      ("receipt state unreadable: " ++ faultText fault))
    (listEvents call.binding.executionId)
  pure (receiptEvidence events)

/-- `_find_identical_receipt` (`dex_wire.py:444-476`). -/
def findIdenticalReceipt (call : WireCall) (receipt : ReceiptRow) : WireProc (Option String) :=
  ExceptT.mk (transact fun s =>
    match onStore (call.outage .getReceipt) (getReceipt receipt.receiptId) s with
    | (.ok stored, s') => (.ok (if stored = receipt then some stored.receiptId else none), s')
    | (.error _, s') => (.ok none, s'))

/-- The outcome of a receipt that the store refused (`dex_wire.py:287-317`). -/
def refusedReceipt (call : WireCall) (receipt : ReceiptRow) (fault : StoreFault) :
    WireProc WireOutcome :=
  if isStoreError fault then do
    match ← findIdenticalReceipt call receipt with
    | some receiptId =>
      fenceRetireBestEffort call "receipt verifiably stored by a racing writer"
      pure ⟨call.binding.executionId, call.binding.attemptId, some receiptId,
        .duplicateAlreadyCompleted, "receipt raced an identical stored receipt: " ++ faultText fault⟩
    | none =>
      fenceIdentity call ("receipt rejected: " ++ faultText fault)
      throw (.wireError "WIRE_RECEIPT_CONFLICT"
        ("receipt store rejected the receipt; identity fenced pending reconciliation: " ++
          faultText fault))
  else do
    fenceIdentity call ("receipt persistence failed: " ++ faultText fault)
    throw (.wireError "WIRE_STATE_UNAVAILABLE"
      ("receipt persistence failed; identity fenced pending reconciliation: " ++ faultText fault))

/-- `self._store.record_receipt(receipt)` under its `try`. -/
def persistReceipt (call : WireCall) (receipt : ReceiptRow) :
    WireProc (Except StoreFault ReceiptRow) :=
  ExceptT.lift (transact fun s =>
    onStore (call.outage .recordReceipt) (recordReceipt receipt call.receiptDraw) s)

/-- Step 10, the durable receipt (`dex_wire.py:267-325`). -/
def settleReceipt (dep : Deployment) (call : WireCall) (evidence : DexCollectedEvidence) :
    WireProc WireOutcome := do
  let receipt ← ExceptT.mk (pure ((newExecutionReceipt dep.receiptDigest
    { executionId := evidence.executionId, attemptId := evidence.attemptId
      resultDigest := evidence.resultSha256, bindingDigest := evidence.bindingDigest }
    evidence.claimGeneration evidence.authoritySha evidence.executionSha
    (if evidence.collectedUnderDrift then .quarantined else .accepted)
    (some evidence.evidenceSha256)).mapError .raised))
  match ← persistReceipt call receipt with
  | .error fault => refusedReceipt call receipt fault
  | .ok stored =>
    fenceRetireBestEffort call "receipt recorded"
    pure ⟨stored.executionId, stored.attemptId, some stored.receiptId, .completed,
      "receipt recorded"⟩

/-- Step 9, the decoded evidence (`dex_wire.py:229-265`). -/
def examine (dep : Deployment) (call : WireCall) (admission : AdmissionRecord)
    (decoded : Except String DexCollectedEvidence) : WireProc WireOutcome :=
  match decoded with
  | .error code => do
    fenceIdentity call ("evidence rejected: " ++ code)
    pure (rejectedOutcome call.binding
      ("WIRE_EVIDENCE_REJECTED: " ++ code ++ " (identity fenced)"))
  | .ok evidence =>
    if evidence.claimGeneration ≠ admission.claimGeneration then do
      fenceIdentity call ("generation mismatch: " ++ toString evidence.claimGeneration)
      pure (rejectedOutcome call.binding
        ("WIRE_GENERATION_MISMATCH: evidence generation " ++ toString evidence.claimGeneration ++
          " != admitted generation " ++ toString admission.claimGeneration ++
          " (identity fenced)"))
    else settleReceipt dep call evidence

/-- A handler that fences the process and cannot show the exception to fence the identity. -/
def escape (call : WireCall) : WireProc WireOutcome := do
  fenceLocally call
  throw .unshown

/-- Steps 8 and 9: what was collected (`dex_wire.py:217-239`). -/
def collected (dep : Deployment) (call : WireCall) (admission : AdmissionRecord) :
    WireProc WireOutcome :=
  match call.collectAnswer with
  | .raised (.text text) => do
    fenceIdentity call ("collect failed after dispatch: " ++ text)
    throw (.wireError "WIRE_COLLECT_UNAVAILABLE"
      ("collect failed after dispatch; identity fenced pending reconciliation: " ++ text))
  | .raised (.unprintable _) => escape call
  | .malformed code => examine dep call admission (.error code)
  | .payload evidence digestMatches =>
    examine dep call admission (decodePayload call.binding admission evidence digestMatches)

/-- The mark behind an accepted dispatch; when it fails the process fences too. -/
def markDispatched (call : WireCall) : WireProc Unit :=
  tryCatch (fenceMark call .markDispatched .dispatched "substrate accepted dispatch") fun fault => do
    fenceLocally call
    throw fault

/-- The outer handler of the dispatch (`dex_wire.py:212-215`). -/
def dispatchFailed (call : WireCall) : Thrown → WireProc WireOutcome
  | .text text => do
    fenceIdentity call ("dispatch failed unexpectedly: " ++ text)
    pure (ambiguousOutcome call.binding ("dispatch failed unexpectedly: " ++ text))
  | .unprintable _ => escape call

/-- What follows the dispatch (`dex_wire.py:186-215`). -/
def afterDispatch (dep : Deployment) (call : WireCall) (admission : AdmissionRecord) :
    WireProc WireOutcome :=
  match call.dispatchAnswer with
  | .raised (.text text) => do
    fenceIdentity call ("dispatch threw: " ++ text)
    pure (ambiguousOutcome call.binding ("dispatch threw: " ++ text))
  | .raised (.unprintable err) => do
    fenceLocally call
    dispatchFailed call err
  | .unreadable err => dispatchFailed call err
  | .other shown => do
    fenceIdentity call ("dispatch status was not DISPATCHED: " ++ shown)
    pure (ambiguousOutcome call.binding ("dispatch status was not DISPATCHED: " ++ shown))
  | .dispatched => do
    markDispatched call
    collected dep call admission

/-- The note of a reservation: the call created the fence. -/
def reservation (key : AttemptKey) : Except WireFault (FenceState × Bool) → Option WireNote
  | .ok (_, true) => some (.reserved key)
  | _ => none

/-- `_reserve_durable_fence` (`dex_wire.py:340-360`). -/
def reserveDurableFence (call : WireCall) (admission : AdmissionRecord) :
    WireProc (FenceState × Bool) :=
  ExceptT.mk (transactNoting (fun s =>
    ((onStore (call.outage .reserve)
        (reserveDispatchFence call.binding.key admission.bindingDigest) s).1.mapError reserveFault,
      (onStore (call.outage .reserve)
        (reserveDispatchFence call.binding.key admission.bindingDigest) s).2))
    (reservation call.binding.key))

/-- `self._transport.dispatch(binding)`. -/
def dispatch (call : WireCall) : WireProc Unit :=
  ExceptT.lift (do
    let _ ← transactNoting (fun s : DexState => (s.store.admission? call.binding.key, s))
      fun journal => some (.dispatched call.wire call.binding journal)
    pure ())

/-- Steps 6 and 7: the reservation and the dispatch (`dex_wire.py:175-215`). -/
def reserveAndDispatch (dep : Deployment) (call : WireCall) (admission : AdmissionRecord) :
    WireProc WireOutcome := do
  match ← reserveDurableFence call admission with
  | (_, false) =>
    fenceLocally call
    pure (ambiguousOutcome call.binding
      "durable dispatch fence already holds this identity (observed on reserve)")
  | (_, true) =>
    dispatch call
    afterDispatch dep call admission

/-- Steps 4 to 7, behind the fence of the process (`dex_wire.py:160-215`). -/
def attemptUnfenced (dep : Deployment) (call : WireCall) (admission : AdmissionRecord) :
    WireProc WireOutcome := do
  let _ ← serve call .probe (probeFault call.binding) (listEvents call.binding.executionId)
  match ← findReceiptContained call with
  | some receiptId =>
    pure ⟨call.binding.executionId, call.binding.attemptId, some receiptId,
      .duplicateAlreadyCompleted, "receipt already recorded for this identity"⟩
  | none => reserveAndDispatch dep call admission

/-- `_attempt_locked` (`dex_wire.py:149-325`). -/
def attemptLocked (dep : Deployment) (call : WireCall) (admission : AdmissionRecord) :
    WireProc WireOutcome := do
  if ← fencedLocally call then
    pure (ambiguousOutcome call.binding "identity is fenced as ambiguous pending reconciliation")
  else attemptUnfenced dep call admission

/-- What follows the decision (`dex_wire.py:136-147`). -/
def afterDecision (dep : Deployment) (call : WireCall) :
    Except DecideFault AdmissionRecord → WireProc WireOutcome
  | .error (.denied code detail) => pure (deniedOutcome call.binding code detail)
  | .error (.raised fault) =>
    throw (.wireError "WIRE_STATE_UNAVAILABLE"
      ((if isStoreError fault then "admission journal unreadable: "
        else "admission decision failed: ") ++ faultText fault))
  | .ok admission => attemptLocked dep call admission

/-- `AdmissionReceiptWire.run_attempt` (`dex_wire.py:124-147`). -/
def runAttempt (dep : Deployment) (call : WireCall) :
    Proc DexState WireNote (Except WireFault WireOutcome) := do
  let decision ← (decide dep.journaled dep.bindingDigest (dep.issuerOf call.wire)
    { binding := call.binding, claimView := call.claimView
      loadOutage := call.outage .loadAdmission
      recordOutage := call.outage .recordAdmission }).run
  (afterDecision dep call decision).run

end AConductor.Dex

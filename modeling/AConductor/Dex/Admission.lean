import AConductor.Execution.Spec
import AConductor.Lib.Proc

/-!
# DEX: admission decisions

`AdmissionIssuer` and `DurableAdmissionJournal` (`src/a_conductor/dex_admission.py`)
with the binding identity of `dex_identity.py`. An issuer decides an attempt once and
replays that decision; one with a journal looks into the durable store before it
decides and journals what it decided before it returns. The memory of an issuer is a
part of the state, and each access to it is a step of its own, so that calls which
share an issuer interleave there as well.
-/

namespace AConductor.Dex

open Execution Proc

/-- The fields of `DexBindingIdentity` (`dex_identity.py:176-192`). -/
structure DexBindingFields where
  executionId : String
  attemptId : String
  taskRef : String
  laneRef : String
  claimRef : String
  claimGeneration : Int
  authorityRepoIdentity : String
  executionRepoIdentity : String
  authoritySha : String
  executionSha : String
  hostId : String
  bootId : String
  executablePath : String
  executableSha256 : String
  argvShape : List String
  deriving DecidableEq, Repr

/-- `_text` (`dex_identity.py:34-42`). -/
def validText (maxChars : Nat) (value : String) : Bool :=
  value ≠ "" && value.length ≤ maxChars && !Text.hasChar value '\x00' &&
    !Text.hasChar value '\r' && !Text.hasChar value '\n'

/-- `DexBindingIdentity.__post_init__` (`dex_identity.py:194-230`). -/
def DexBindingFields.valid (b : DexBindingFields) : Bool :=
  [b.executionId, b.attemptId, b.taskRef, b.laneRef, b.claimRef, b.authorityRepoIdentity,
    b.executionRepoIdentity, b.hostId, b.bootId, b.executablePath].all (validText 1024) &&
  0 ≤ b.claimGeneration && Text.isHex 40 b.authoritySha && Text.isHex 40 b.executionSha &&
  Text.isHex 64 b.executableSha256 && b.argvShape ≠ [] && b.argvShape.length ≤ 64 &&
  b.argvShape.all (validText 2048)

/-- `DexBindingIdentity`: the fields with what its constructor checked. -/
structure DexBindingIdentity extends DexBindingFields where
  checked : toDexBindingFields.valid = true
  deriving DecidableEq, Repr

def DexBindingIdentity.key (b : DexBindingIdentity) : AttemptKey := (b.executionId, b.attemptId)

/-- `ClaimView` (`dex_admission.py:43-66`). -/
structure ClaimView where
  claimRef : String
  claimGeneration : Int
  live : Bool
  named : Text.isBlank claimRef = false
  counted : 0 ≤ claimGeneration
  deriving DecidableEq, Repr

/-- `AdmissionRecord` (`dex_admission.py:69-98`) has the fields of a journal row, and the
    journal maps one onto the other field by field. -/
abbrev AdmissionRecord := AdmissionDecisionRow

def requireNonEmpty (value field : String) : Except StoreFault Unit :=
  if Text.isBlank value then .error (.valueError (field ++ " must be a non-empty string"))
  else .ok ()

/-- `AdmissionRecord.__post_init__` (`dex_admission.py:81-97`). -/
def AdmissionRecord.check (r : AdmissionRecord) : Except StoreFault Unit := do
  requireNonEmpty r.executionId "execution_id"
  requireNonEmpty r.attemptId "attempt_id"
  requireNonEmpty r.bindingDigest "binding_digest"
  requireNonEmpty r.claimRef "claim_ref"
  if r.claimGeneration < 0 then
    .error (.valueError "claim_generation must be a non-negative int")
  if r.code.any fun c => Text.isBlank c then
    .error (.valueError "code must be a non-empty string or None")

/-- The constructor call `AdmissionRecord(…)`. -/
def AdmissionRecord.make (r : AdmissionRecord) : Except StoreFault AdmissionRecord :=
  match AdmissionRecord.check r with
  | .error e => .error e
  | .ok () => .ok r

/-- What `decide` can raise: `AdmissionDenied`, or what the journal and the constructors
    raise. -/
inductive DecideFault where
  | denied (code detail : String)
  | raised (fault : StoreFault)
  deriving DecidableEq, Repr

def deniedStaleClaim : String := "ADMISSION_CLAIM_GENERATION_STALE"

def deniedIdentityMismatch : String := "ADMISSION_IDENTITY_MISMATCH"

def deniedNotLive : String := "ADMISSION_CLAIM_NOT_LIVE"

/-- The durable store, the `_records` of every issuer and the `_fenced` set of every
    wire. -/
structure DexState where
  store : ExecutionStore
  records : Nat → AttemptKey → Option AdmissionRecord
  fenced : Nat → AttemptKey → Bool

/-- No process has anything in memory. -/
def DexState.boot (store : ExecutionStore) : DexState := ⟨store, fun _ _ => none, fun _ _ => false⟩

/-- `self._records[key] = record`. -/
def DexState.remember (s : DexState) (issuer : Nat) (key : AttemptKey) (record : AdmissionRecord) :
    DexState :=
  { s with records := fun n k => if n = issuer ∧ k = key then some record else s.records n k }

/-- A new process has taken the place of an issuer's. -/
def DexState.forget (s : DexState) (issuer : Nat) : DexState :=
  { s with records := fun n k => if n = issuer then none else s.records n k }

/-- A store operation of a call. The database may also be out of reach, which raises
    without effect. -/
def onStore {α : Type} (outage : Option StoreFault)
    (tx : ExecutionStore → Except StoreFault α × ExecutionStore) (s : DexState) :
    Except StoreFault α × DexState :=
  match outage with
  | some fault => (.error fault, s)
  | none => ((tx s.store).1, { s with store := (tx s.store).2 })

variable {ε : Type}

abbrev DecideProc (ε : Type) := ExceptT DecideFault (Proc DexState ε)

/-- What a call to `decide` is given, and where the database fails it. -/
structure DecideArgs where
  binding : DexBindingIdentity
  claimView : ClaimView
  loadOutage : Option StoreFault := none
  recordOutage : Option StoreFault := none

/-- `_denial` (`dex_admission.py:270-288`). -/
def denial (binding : DexBindingIdentity) (claimView : ClaimView) (digest code detail : String) :
    AdmissionRecord where
  executionId := binding.executionId
  attemptId := binding.attemptId
  bindingDigest := digest
  claimRef := binding.claimRef
  claimGeneration := claimView.claimGeneration
  admitted := false
  code := some code
  detail := some detail

/-- What `_decide_fresh` decides (`dex_admission.py:241-268`). -/
def freshDecision (binding : DexBindingIdentity) (claimView : ClaimView) (digest : String) :
    AdmissionRecord :=
  if !claimView.live then
    denial binding claimView digest deniedNotLive ("claim " ++ claimView.claimRef ++ " is not live")
  else if claimView.claimRef ≠ binding.claimRef then
    denial binding claimView digest deniedIdentityMismatch
      "claim view does not match the binding claim_ref"
  else if claimView.claimGeneration ≠ binding.claimGeneration then
    denial binding claimView digest deniedStaleClaim
      ("binding generation " ++ toString binding.claimGeneration ++ " != live generation " ++
        toString claimView.claimGeneration)
  else
    { executionId := binding.executionId, attemptId := binding.attemptId, bindingDigest := digest
      claimRef := binding.claimRef, claimGeneration := claimView.claimGeneration
      admitted := true }

/-- `_decide_fresh` (`dex_admission.py:234-268`). -/
def decideFresh (binding : DexBindingIdentity) (claimView : ClaimView) (digest : String) :
    Except DecideFault AdmissionRecord :=
  (AdmissionRecord.make (freshDecision binding claimView digest)).mapError .raised

/-- `value or default` of an optional text. -/
def orText (value : Option String) (default : String) : String :=
  match value with
  | some text => if text = "" then default else text
  | none => default

def replayBindingConflict : String := "admission replay binding does not match the frozen decision"

def replayGenerationConflict : String :=
  "admission replay claim generation differs from the frozen decision"

/-- The replay of a decided identity (`dex_admission.py:199-217`). -/
def replay (args : DecideArgs) (digest : String) (existing : AdmissionRecord) :
    Except DecideFault AdmissionRecord :=
  if existing.bindingDigest ≠ digest ∨ existing.claimRef ≠ args.binding.claimRef then
    .error (.denied deniedIdentityMismatch replayBindingConflict)
  else if existing.claimGeneration ≠ args.claimView.claimGeneration then
    .error (.denied deniedIdentityMismatch replayGenerationConflict)
  else if !existing.admitted then
    .error (.denied (orText existing.code deniedIdentityMismatch)
      (orText existing.detail "identity was previously denied"))
  else .ok existing

/-- The outcome of a fresh decision (`dex_admission.py:227-229`). -/
def conclude (record : AdmissionRecord) : Except DecideFault AdmissionRecord :=
  if !record.admitted then
    .error (.denied (orText record.code deniedIdentityMismatch) (orText record.detail ""))
  else .ok record

/-- `AdmissionIssuer.lookup` (`dex_admission.py:231-232`). -/
def lookup (issuer : Nat) (key : AttemptKey) : DecideProc ε (Option AdmissionRecord) :=
  ExceptT.lift (transact fun s => (s.records issuer key, s))

def remember (issuer : Nat) (key : AttemptKey) (record : AdmissionRecord) : DecideProc ε Unit :=
  ExceptT.lift (transact fun s => ((), s.remember issuer key record))

/-- `DurableAdmissionJournal.load` (`dex_admission.py:126-139`). -/
def journalLoad (key : AttemptKey) (s : ExecutionStore) :
    Except StoreFault (Option AdmissionRecord) × ExecutionStore :=
  match loadAdmissionDecision key s with
  | (.ok (some row), s') => ((AdmissionRecord.make row).map some, s')
  | out => out

def journaledCall {α : Type} (outage : Option StoreFault)
    (tx : ExecutionStore → Except StoreFault α × ExecutionStore) : DecideProc ε α :=
  ExceptT.mk (transact fun s => ((onStore outage tx s).1.mapError .raised, (onStore outage tx s).2))

variable (journaled : Nat → Bool)

/-- The look into the journal (`dex_admission.py:192-198`). -/
def consult (issuer : Nat) (args : DecideArgs) :
    Option AdmissionRecord → DecideProc ε (Option AdmissionRecord)
  | some existing => pure (some existing)
  | none =>
    if journaled issuer then do
      match ← journaledCall args.loadOutage (journalLoad args.binding.key) with
      | none => pure none
      | some existing =>
        remember issuer args.binding.key existing
        pure (some existing)
    else pure none

/-- `self._journal.record(record)`, when there is a journal. -/
def journalRecord (issuer : Nat) (args : DecideArgs) (record : AdmissionRecord) :
    DecideProc ε Unit :=
  if journaled issuer then journaledCall args.recordOutage (recordAdmissionDecision record)
  else pure ()

/-- A first decision (`dex_admission.py:219-229`). -/
def settle (hash : DexBindingIdentity → String) (issuer : Nat) (args : DecideArgs) :
    DecideProc ε AdmissionRecord := do
  let record ← ExceptT.mk (pure (decideFresh args.binding args.claimView (hash args.binding)))
  journalRecord journaled issuer args record
  remember issuer args.binding.key record
  ExceptT.mk (pure (conclude record))

/-- `AdmissionIssuer.decide` (`dex_admission.py:176-229`). `journaled` says which issuers
    have a journal, and `hash` is `binding_digest`. -/
def decide (hash : DexBindingIdentity → String) (issuer : Nat) (args : DecideArgs) :
    DecideProc ε AdmissionRecord := do
  let known ← lookup issuer args.binding.key
  match ← consult journaled issuer args known with
  | some existing => ExceptT.mk (pure (replay args (hash args.binding) existing))
  | none => settle journaled hash issuer args

end AConductor.Dex

import AConductor.Lib.Dict
import AConductor.Lib.Machine
import AConductor.Lib.JsonCanonical
import AConductor.Lib.JsonInt

/-!
# Hook short-term memory: data and operations

`src/a_conductor/hook_stm.py:34-547`: partitions with their records, the exact accounting of
what they retain, admission with eviction, and the calls `update`, `rebuild`, `reconcile` and
`read`. Records are JSON data: the keys of an object are texts, and a leaf the codec refuses
is `foreign`. A list stands for a tuple as well in a record; in an observation a tuple is
`foreign`. The clock is read by the callers' side: a call carries its readings, of a type
`τ` with an order, and `expired` is the comparison of an age with the clamped TTL, which the
source does on floats. `copyDepth` and `jsonDepth` are how deep `copy.deepcopy` and the JSON
codec follow nested containers before they raise `RecursionError`.
-/

namespace AConductor.Stm

open Txn

/-- The codes of `StmError`. -/
inductive StmCode where
  | partitionIdOversized
  | rebuildInputLimit
  | capacityExceeded
  deriving DecidableEq, Repr

/-- `StmError` (`hook_stm.py:69-75`). -/
structure StmError where
  code : StmCode
  detail : String := ""
  deriving DecidableEq, Repr

/-- What a call can raise: its own error, or one of the runtime that nothing catches. -/
inductive Failure where
  | stm (e : StmError)
  | unicodeError
  | unserializable
  | recursionError
  | noMapping
  deriving DecidableEq, Repr

/-- A leaf of a value that is no text, truth value or `None`. -/
inductive Leaf (φ : Type) where
  | int (n : Int)
  | float (f : φ)
  | foreign
  deriving DecidableEq, Repr

abbrev Value (φ : Type) := Json (Leaf φ)

abbrev Entries (φ : Type) := List (PyStr × Value φ)

def leafText {φ : Type} (floatText : φ → PyStr) : Leaf φ → PyStr
  | .int n => Json.intText n
  | .float f => floatText f
  | .foreign => []

/-- The interpreter refuses an integer of so many digits. -/
def tooLong (maxDigits : Option Nat) (text : PyStr) : Bool :=
  maxDigits.any fun m => decide (m < (text.filter Json.isDigit).length)

/-- The defaults of `json.loads`. -/
def leafHooks {φ : Type} (maxDigits : Option Nat) (toFloat : PyStr → φ) :
    Json.Hooks Unit (Leaf φ) where
  parseInt text :=
    if tooLong maxDigits text then .error () else .ok (.num (.int (Json.intOf text)))
  parseFloat text := .ok (.num (.float (toFloat text)))
  parseConstant text := .ok (.num (.float (toFloat text)))
  objectPairs pairs := .ok (Json.ofPairs pairs)

/-- The interpreter a memory runs in. `floatReads` is the round trip of `repr` of a finite
    float through the codec. -/
structure Runtime (φ : Type) where
  finite : φ → Bool
  floatText : φ → PyStr
  toFloat : PyStr → φ
  maxDigits : Option Nat
  jsonDepth : Nat
  copyDepth : Nat
  floatReads : ∀ f, finite f = true →
    Json.ReadsNumber (leafHooks maxDigits toFloat) (leafText floatText) (.float f)

/-- A mapping: at every level a key stands once. -/
structure Mapping (φ : Type) where
  entries : Entries φ
  distinct : (Json.obj entries : Value φ).Distinct

section Codec

variable {φ : Type} (rt : Runtime φ)

/-- The leaves `json.dumps` prints with `allow_nan=False`. -/
def Runtime.leafOk : Leaf φ → Bool
  | .int n => !tooLong rt.maxDigits (Json.intText n)
  | .float f => rt.finite f
  | .foreign => false

/-- `sort_keys=True, separators=(",", ":"), ensure_ascii=False`. -/
def canonicalStyle : Json.Style := ⟨false, false⟩

/-- `_canonical_json` (`hook_stm.py:166-168`). -/
def canonicalJson (value : Value φ) : Except Failure PyStr :=
  if rt.jsonDepth < value.depth then .error .recursionError
  else if value.allNums rt.leafOk then
    .ok (Json.dumps canonicalStyle (leafText rt.floatText) value.sortKeys)
  else .error .unserializable

def unitAllowanceBytes : Nat := 128

def capacityExceeded : Failure := .stm { code := .capacityExceeded }

def inputLimit : Failure := .stm { code := .rebuildInputLimit }

/-- The serialized size of a unit with its allowance, where it has one. -/
def unitBytes (unit : Value φ) : Option Nat :=
  match canonicalJson rt unit with
  | .error _ => none
  | .ok serialized => (PyStr.encode serialized).map fun data => data.length + unitAllowanceBytes

/-- `_owned_unit` (`hook_stm.py:171-178`). -/
def ownedUnit (unit : Value φ) : Except Failure (Value φ × Nat) :=
  match canonicalJson rt unit with
  | .error _ => .error capacityExceeded
  | .ok serialized =>
    match PyStr.encode serialized with
    | none => .error capacityExceeded
    | some data =>
      match Json.loads (leafHooks rt.maxDigits rt.toFloat) serialized with
      | .error _ => .error capacityExceeded
      | .ok owned => .ok (owned, data.length + unitAllowanceBytes)

/-- A retained Hook pair: the projection and its measured wire length. -/
abbrev Record (φ : Type) := Entries φ × Int

/-- `[projection, wire_bytes]`. -/
def Record.unit (r : Record φ) : Value φ := .arr [.obj r.1, .num (.int r.2)]

/-- `(pair[0], pair[1])`; a pair that was printed from an object and an integer is read back
    as one, so the last case is never taken. -/
def recordOf : Value φ → Record φ
  | .arr [.obj entries, .num (.int n)] => (entries, n)
  | _ => ([], 0)

/-- A wire length as it came in: anything that is not exactly an `int` is `none`. -/
def wireLeaf : Option Int → Value φ
  | some n => .num (.int n)
  | none => .num .foreign

/-- `_owned_unit([dict(record), wire_bytes])` and the pair made of it. -/
def ownedPair (record : Option (Mapping φ)) (wireBytes : Option Int) :
    Except Failure (Record φ × Nat) :=
  match record with
  | none => .error .noMapping
  | some record => do
    let (pair, bytes) ← ownedUnit rt (.arr [.obj record.entries, wireLeaf wireBytes])
    return (recordOf pair, bytes)

/-- `deepcopy` of a projection, and of a list of `(projection, wire)` tuples. -/
def copyProjection (projection : Entries φ) : Except Failure (Entries φ) :=
  if rt.copyDepth < (Json.obj projection : Value φ).depth then .error .recursionError
  else .ok projection

def copyable (records : List (Record φ)) : Bool :=
  records.all fun r => decide ((Json.obj r.1 : Value φ).depth + 2 ≤ rt.copyDepth)

def copyRecords (records : List (Record φ)) : Except Failure (List (Record φ)) :=
  if copyable rt records then .ok records else .error .recursionError

end Codec

/-- `StmPartition` (`hook_stm.py:78-100`). -/
structure StmPartition where
  projectRef : PyStr
  deviceId : PyStr
  taskId : Option PyStr := none
  workOrder : Option PyStr := none
  laneId : Option PyStr := none
  deriving DecidableEq, Repr

def StmPartition.taskRef (p : StmPartition) : PyStr :=
  match p.taskId with
  | some taskId => taskId
  | none => p.workOrder.getD (.lit "UNBOUND_TASK")

def StmPartition.laneRef (p : StmPartition) : PyStr := p.laneId.getD (.lit "UNBOUND_LANE")

/-- `PartitionKey` (`hook_stm.py:119`). -/
structure PartitionKey where
  projectRef : PyStr
  taskRef : PyStr
  deviceId : PyStr
  laneRef : PyStr
  deriving DecidableEq, Repr

/-- The components in the order of the tuple. -/
def PartitionKey.components (key : PartitionKey) : List PyStr :=
  [key.projectRef, key.taskRef, key.deviceId, key.laneRef]

/-- `_KEY_SEPARATOR.join(key)`. -/
def PartitionKey.encoded (key : PartitionKey) : PyStr :=
  key.projectRef ++ .char '\x1f' :: key.taskRef ++ .char '\x1f' :: key.deviceId ++
    .char '\x1f' :: key.laneRef

/-- `_key_bytes` (`hook_stm.py:162-163`). The keys of a memory have an encoding. -/
def keyBytes (key : PartitionKey) : Nat := ((PyStr.encode key.encoded).map List.length).getD 0

/-- `len(value.encode("utf-8"))`. -/
def byteLength (value : PyStr) : Except Failure Nat :=
  match PyStr.encode value with
  | none => .error .unicodeError
  | some data => .ok data.length

def oversized (detail : String) : Failure := .stm { code := .partitionIdOversized, detail := detail }

/-- The check of one component. -/
def checkComponent (name : String) (value : PyStr) (cap : Nat) : Except Failure Unit := do
  let bytes ← byteLength value
  Except.rejectIf (cap < bytes) (oversized (name ++ " exceeds " ++ toString cap ++ " UTF-8 bytes"))

/-- `_partition_key` (`hook_stm.py:122-147`). -/
def partitionKey (partition : StmPartition) : Except Failure PartitionKey := do
  checkComponent "project_ref" partition.projectRef 256
  checkComponent "task_ref" partition.taskRef 256
  checkComponent "device_id" partition.deviceId 128
  checkComponent "lane_ref" partition.laneRef 256
  let key : PartitionKey :=
    ⟨partition.projectRef, partition.taskRef, partition.deviceId, partition.laneRef⟩
  let bytes ← byteLength key.encoded
  Except.rejectIf (1024 < bytes) (oversized "combined partition key exceeds 1024 UTF-8 bytes")
  return key

/-- `_PartitionState` (`hook_stm.py:150-163`). -/
structure PartitionState (φ τ : Type) where
  refreshedAt : τ
  records : List (Record φ)
  authorityRefs : List PyStr
  rebuildRequired : Bool := false
  accountedBytes : Nat
  derivedDegraded : Bool := false
  reconciliationRef : Option PyStr := none

namespace PartitionState

variable {φ τ : Type}

def unitCount (st : PartitionState φ τ) : Nat :=
  st.records.length + st.authorityRefs.length +
    if st.reconciliationRef.isSome then 1 else 0

/-- `state.rebuild_required = True`. -/
def flagged (st : PartitionState φ τ) : PartitionState φ τ := { st with rebuildRequired := true }

end PartitionState

inductive ReadState where
  | fresh
  | stale
  | unknown
  deriving DecidableEq, Repr

/-- `StmReadResult` (`hook_stm.py:103-116`). -/
structure StmReadResult (φ : Type) where
  state : ReadState
  rebuildRequired : Bool
  records : List (Record φ) := []
  derivedDegraded : Bool := false
  authorityRef : Option PyStr := none

/-- The caps given to the constructor, with its defaults. -/
structure Options where
  rebuildItemLimit : Int := 2048
  rebuildByteLimit : Int := 4 * 1024 * 1024
  maxPartitions : Int := 128
  recordsPerPartition : Int := 128
  recordsTotal : Int := 2048
  bytesPerPartition : Int := 512 * 1024
  bytesTotal : Int := 4 * 1024 * 1024

/-- `max(0, min(hard, n))`. -/
def clamp (hard : Nat) (n : Int) : Nat := (max 0 (min (hard : Int) n)).toNat

structure Limits where
  rebuildItemLimit : Nat
  rebuildByteLimit : Nat
  maxPartitions : Nat
  recordsPerPartition : Nat
  recordsTotal : Nat
  bytesPerPartition : Nat
  bytesTotal : Nat
  deriving DecidableEq, Repr

def rebuildItemMax : Nat := 4096

def rebuildByteMax : Nat := 8 * 1024 * 1024

/-- The constructor's clamps (`hook_stm.py:261-267`). -/
def Limits.of (o : Options) : Limits where
  rebuildItemLimit := clamp rebuildItemMax o.rebuildItemLimit
  rebuildByteLimit := clamp rebuildByteMax o.rebuildByteLimit
  maxPartitions := clamp 256 o.maxPartitions
  recordsPerPartition := clamp 256 o.recordsPerPartition
  recordsTotal := clamp 4096 o.recordsTotal
  bytesPerPartition := clamp (1024 * 1024) o.bytesPerPartition
  bytesTotal := clamp (8 * 1024 * 1024) o.bytesTotal

/-- What a memory is built with. `expired refreshedAt now` is `now - refreshedAt >= ttl`. -/
structure Env (φ τ : Type) where
  runtime : Runtime φ
  limits : Limits
  expired : τ → τ → Bool

section Observation

variable {φ : Type} (rt : Runtime φ)

def authorityMaxDepth : Nat := 12

/-- One more item; `none` is the raise, as in what follows. -/
def charge (depth : Nat) (budget : Nat × Nat) : Option (Nat × Nat) :=
  if rebuildItemMax < budget.1 + 1 ∨ authorityMaxDepth < depth then none
  else some (budget.1 + 1, budget.2)

def visitText (s : PyStr) (budget : Nat × Nat) : Option (Nat × Nat) :=
  if rebuildByteMax < s.length then none
  else
    match PyStr.encode s with
    | none => none
    | some data =>
      if rebuildByteMax < budget.2 + data.length then none
      else some (budget.1, budget.2 + data.length)

def visitLeaf (leaf : Leaf φ) (budget : Nat × Nat) : Option (Nat × Nat) :=
  match leaf with
  | .int n => if n.natAbs < 2 ^ 64 then some budget else none
  | .float f => if rt.finite f then some budget else none
  | .foreign => none

mutual

/-- `visit` of `_validate_observation` (`hook_stm.py:190-222`). -/
def visit : Value φ → Nat → Nat × Nat → Option (Nat × Nat)
  | .null, depth, budget => charge depth budget
  | .bool _, depth, budget => charge depth budget
  | .num leaf, depth, budget => (charge depth budget).bind (visitLeaf rt leaf)
  | .str s, depth, budget => (charge depth budget).bind (visitText s)
  | .arr items, depth, budget => (charge depth budget).bind fun budget =>
      if rebuildItemMax < items.length then none else visitItems items (depth + 1) budget
  | .obj entries, depth, budget => (charge depth budget).bind fun budget =>
      if rebuildItemMax < entries.length then none else visitEntries entries (depth + 1) budget

def visitItems : List (Value φ) → Nat → Nat × Nat → Option (Nat × Nat)
  | [], _, budget => some budget
  | item :: items, depth, budget => (visit item depth budget).bind (visitItems items depth)

def visitEntries : Entries φ → Nat → Nat × Nat → Option (Nat × Nat)
  | [], _, budget => some budget
  | (key, item) :: entries, depth, budget =>
    ((charge depth budget).bind (visitText key)).bind fun budget =>
      (visit item depth budget).bind (visitEntries entries depth)

end

/-- `_validate_observation` (`hook_stm.py:181-226`). -/
def validObservation (observation : Option (Mapping φ)) : Bool :=
  match observation with
  | none => false
  | some observation => (visit rt (.obj observation.entries) 0 (0, 0)).isSome

/-- The test of an authority reference in `reconcile`; `none` is no `str`. -/
def authorityRefMaxBytes : Nat := 1024

def validReference (reference : Option PyStr) : Bool :=
  match reference with
  | none => false
  | some reference =>
    match PyStr.encode reference with
    | none => false
    | some data => !reference.isEmpty && decide (data.length ≤ authorityRefMaxBytes)

/-- One observed field against a projection (`hook_stm.py:491-494`). -/
def supersede (corrected : Entries φ × Bool) (field : PyStr × Value φ) :
    Except Failure (Entries φ × Bool) :=
  match Json.find? field.1 corrected.1 with
  | none => .ok corrected
  | some projected => do
    let projectedText ← canonicalJson rt projected
    let observedText ← canonicalJson rt field.2
    if projectedText ≠ observedText then
      return (Json.insertEntry field.1 field.2 corrected.1, true)
    else return corrected

end Observation

/-- `self._partitions`. -/
abbrev Partitions (φ τ : Type) := Dict PartitionKey (PartitionState φ τ)

section Memory

variable {φ τ : Type} (env : Env φ τ)

def recordCount (ps : Partitions φ τ) : Nat := ps.sum PartitionState.unitCount

def accountedBytes (ps : Partitions φ τ) : Nat := ps.sum PartitionState.accountedBytes

/-- `_capacity_failure` (`hook_stm.py:284-288`). -/
def capacityFailure {α : Type} (key : PartitionKey) : Txn (Partitions φ τ) Failure α := do
  Txn.update fun ps => ps.modify key PartitionState.flagged
  raise capacityExceeded

/-- A candidate that no eviction makes admissible. -/
def Limits.exceeds (limits : Limits) (count size : Nat) : Bool :=
  decide (limits.recordsPerPartition < count ∨ limits.recordsTotal < count ∨
    limits.bytesPerPartition < size ∨ limits.bytesTotal < size)

/-- `_check_candidate` (`hook_stm.py:290-294`). -/
def checkCandidate (key : PartitionKey) (count size : Nat) : Txn (Partitions φ τ) Failure Unit :=
  if env.limits.exceeds count size then capacityFailure key else pure ()

/-- The totals an admission would leave. -/
structure Load where
  partitions : Nat
  count : Nat
  size : Nat
  deriving DecidableEq, Repr

/-- `fits()`. -/
def Load.fits (limits : Limits) (load : Load) : Bool :=
  decide (load.partitions ≤ limits.maxPartitions ∧ load.count ≤ limits.recordsTotal ∧
    load.size ≤ limits.bytesTotal)

def Load.without (load : Load) (st : PartitionState φ τ) : Load :=
  ⟨load.partitions - 1, load.count - st.unitCount, load.size - st.accountedBytes⟩

section Admission

variable [LinearOrder τ]

/-- The key of the eviction order: what is not stale last, then the refresh time, then the
    identity, whose components compare by code points. -/
def evictionRank (now : τ) (e : PartitionKey × PartitionState φ τ) :
    Bool ×ₗ τ ×ₗ List (List Nat) :=
  toLex (!(e.2.rebuildRequired || env.expired e.2.refreshedAt now),
    toLex (e.2.refreshedAt, e.1.components.map fun s => s.map CodePoint.code))

/-- `sorted(self._partitions, key=...)`. -/
def evictionOrder (now : τ) (ps : Partitions φ τ) : List (PartitionKey × PartitionState φ τ) :=
  ps.entries.insertionSort fun a b => evictionRank env now a ≤ evictionRank env now b

/-- The loop over `ordered`: victims until the load fits. -/
def chooseVictims (limits : Limits) :
    Load → List (PartitionKey × PartitionState φ τ) → List PartitionKey × Load
  | load, [] => ([], load)
  | load, (key, st) :: rest =>
    if (load.without st).fits limits then ([key], load.without st)
    else
      let (victims, left) := chooseVictims limits (load.without st) rest
      (key :: victims, left)

/-- The totals with the candidate in the place of what it replaces. -/
def loadWith (ps : Partitions φ τ) (prior : Option (PartitionState φ τ))
    (candidate : PartitionState φ τ) : Load :=
  let load : Load := ⟨ps.size + 1, recordCount ps + candidate.unitCount,
    accountedBytes ps + candidate.accountedBytes⟩
  match prior with
  | none => load
  | some prior => load.without prior

/-- The swap at the end of `_admit`. -/
def replacement (ps : Partitions φ τ) (victims : List PartitionKey) (key : PartitionKey)
    (candidate : PartitionState φ τ) : Partitions φ τ :=
  (victims.foldl Dict.erase ps).set key candidate

/-- `_admit` (`hook_stm.py:296-344`). -/
def admitCandidate (key : PartitionKey) (candidate : PartitionState φ τ) :
    Txn (Partitions φ τ) Failure Unit := do
  checkCandidate env key candidate.unitCount candidate.accountedBytes
  let ps ← query id
  let prior := ps.get? key
  let load := loadWith ps prior candidate
  if load.fits env.limits then Txn.update fun ps => replacement ps [] key candidate
  else if prior.isSome then capacityFailure key
  else
    let chosen := chooseVictims env.limits load (evictionOrder env candidate.refreshedAt ps)
    if chosen.2.fits env.limits then
      Txn.update fun ps => replacement ps chosen.1 key candidate
    else capacityFailure key

end Admission

/-- `try: … except StmError: self._capacity_failure(key)`. -/
def orCapacityFailure {α : Type} (key : PartitionKey) (x : Txn (Partitions φ τ) Failure α) :
    Txn (Partitions φ τ) Failure α := do
  match ← attempt x with
  | .ok a => pure a
  | .error (.stm _) => capacityFailure key
  | .error e => raise e

/-- `update` (`hook_stm.py:346-378`). -/
def update [LinearOrder τ] (partition : StmPartition) (record : Option (Mapping φ)) (wireBytes : Option Int)
    (now : τ) : Txn (Partitions φ τ) Failure Unit := do
  let key ← ofExcept (partitionKey partition)
  let ps ← query id
  let prior := ps.get? key
  let count := (prior.map PartitionState.unitCount).getD 0 + 1
  let size := (prior.map PartitionState.accountedBytes).getD (keyBytes key)
  checkCandidate env key count size
  if wireBytes.any fun n => decide (0 ≤ n) then
    let (pair, bytes) ← orCapacityFailure key
      (ofExcept (ownedPair env.runtime record wireBytes))
    checkCandidate env key count (size + bytes)
    admitCandidate env key
      { refreshedAt := now
        records := (prior.map PartitionState.records).getD [] ++ [pair]
        authorityRefs := (prior.map PartitionState.authorityRefs).getD []
        rebuildRequired := (prior.map PartitionState.rebuildRequired).getD false
        accountedBytes := size + bytes
        derivedDegraded := (prior.map PartitionState.derivedDegraded).getD false
        reconciliationRef := prior.bind PartitionState.reconciliationRef }
  else capacityFailure key

/-- The wire lengths of a rebuild input, summed up to the limit (`hook_stm.py:405-413`). -/
def wireTotal (limit : Nat) : List (Option Int) → Nat → Option Nat
  | [], total => some total
  | none :: _, _ => none
  | some n :: rest, total =>
    if n < 0 then none
    else if limit < total + n.toNat then none
    else wireTotal limit rest (total + n.toNat)

/-- The references of a rebuild input (`hook_stm.py:414-423`). -/
def referenceTotal (limit : Nat) : List PyStr → Nat → Except Failure (Option Nat)
  | [], total => .ok (some total)
  | reference :: rest, total => do
    let bytes ← byteLength reference
    if authorityRefMaxBytes < bytes ∨ limit < total + bytes then return none
    else referenceTotal limit rest (total + bytes)

/-- The input gate of `rebuild` (`hook_stm.py:402-423`). -/
def inputWithin (limits : Limits) (wires : List (Option Int)) (authorityRefs : List PyStr) :
    Except Failure Bool :=
  if limits.rebuildItemLimit < wires.length + authorityRefs.length then .ok false
  else
    match wireTotal limits.rebuildByteLimit wires 0 with
    | none => .ok false
    | some total =>
      (referenceTotal limits.rebuildByteLimit authorityRefs total).map Option.isSome

/-- The first loop of `rebuild` (`hook_stm.py:434-438`). -/
def ownRecords (key : PartitionKey) (count : Nat) :
    List (Option (Mapping φ) × Option Int) → Nat →
      Txn (Partitions φ τ) Failure (List (Record φ) × Nat)
  | [], size => pure ([], size)
  | (record, wireBytes) :: rest, size => do
    let (pair, bytes) ← ofExcept (ownedPair env.runtime record wireBytes)
    checkCandidate env key count (size + bytes)
    let (records, total) ← ownRecords key count rest (size + bytes)
    return (pair :: records, total)

/-- The reference a unit is read back as. -/
def textOf : Value φ → PyStr
  | .str s => s
  | _ => []

/-- The second loop of `rebuild` and of `reconcile` (`hook_stm.py:439-443`, 499-502). -/
def ownReferences (key : PartitionKey) (count : Nat) :
    List PyStr → Nat → Txn (Partitions φ τ) Failure (List PyStr × Nat)
  | [], size => pure ([], size)
  | reference :: rest, size => do
    let (owned, bytes) ← ofExcept (ownedUnit env.runtime (.str reference))
    checkCandidate env key count (size + bytes)
    let (references, total) ← ownReferences key count rest (size + bytes)
    return (textOf owned :: references, total)

/-- `rebuild` (`hook_stm.py:380-453`). -/
def rebuild [LinearOrder τ] (partition : StmPartition)
    (hookRecords : List (Option (Mapping φ) × Option Int)) (authorityRefs : List PyStr)
    (now : τ) : Txn (Partitions φ τ) Failure (StmReadResult φ) := do
  let key ← ofExcept (partitionKey partition)
  let within ← ofExcept (inputWithin env.limits (hookRecords.map Prod.snd) authorityRefs)
  if within then
    let count := hookRecords.length + authorityRefs.length
    checkCandidate env key count (keyBytes key)
    let (records, references, size) ← orCapacityFailure key do
      let (records, size) ← ownRecords env key count hookRecords (keyBytes key)
      let (references, size) ← ownReferences env key count authorityRefs size
      return (records, references, size)
    admitCandidate env key
      { refreshedAt := now, records := records, authorityRefs := references
        accountedBytes := size }
    let copied ← ofExcept (copyRecords env.runtime records)
    return { state := .fresh, rebuildRequired := false, records := copied }
  else do
    Txn.update fun ps => ps.modify key PartitionState.flagged
    raise inputLimit

/-- `read` (`hook_stm.py:518-547`). -/
def read (partition : StmPartition) (now : τ) :
    Txn (Partitions φ τ) Failure (StmReadResult φ) := do
  let key ← ofExcept (partitionKey partition)
  let ps ← query id
  match ps.get? key with
  | none => return { state := .unknown, rebuildRequired := true }
  | some st =>
    let stale := st.rebuildRequired || env.expired st.refreshedAt now
    let copied ← ofExcept (copyRecords env.runtime st.records)
    return { state := if stale then .stale else .fresh, rebuildRequired := stale
             records := copied, derivedDegraded := st.derivedDegraded
             authorityRef := st.reconciliationRef }

/-- The first loop of `reconcile` (`hook_stm.py:488-498`). -/
def correctRecords (key : PartitionKey) (count : Nat) (observed : Entries φ) :
    List (Record φ) → Nat → Bool →
      Txn (Partitions φ τ) Failure (List (Record φ) × Nat × Bool)
  | [], size, degraded => pure ([], size, degraded)
  | (projection, wireBytes) :: rest, size, degraded => do
    let projection ← ofExcept (copyProjection env.runtime projection)
    let (corrected, degraded) ← ofExcept
      (observed.foldlM (supersede env.runtime) (projection, degraded))
    let (pair, measured) ← ofExcept
      (ownedUnit env.runtime (.arr [.obj corrected, .num (.int wireBytes)]))
    checkCandidate env key count (size + measured)
    let (records, total, degraded) ← correctRecords key count observed rest (size + measured) degraded
    return (recordOf pair :: records, total, degraded)

/-- `reconcile` (`hook_stm.py:455-516`). Its clock is read twice. -/
def reconcile [LinearOrder τ] (partition : StmPartition) (authorityState : Option (Mapping φ))
    (authorityRef : Option PyStr) (now later : τ) :
    Txn (Partitions φ τ) Failure (StmReadResult φ) := do
  let key ← ofExcept (partitionKey partition)
  let ps ← query id
  match authorityState, authorityRef,
      validReference authorityRef && validObservation env.runtime authorityState with
  | some observed, some reference, true =>
    match ps.get? key with
    | none => return { state := .unknown, rebuildRequired := true }
    | some prior =>
      let count := prior.unitCount + if prior.reconciliationRef.isNone then 1 else 0
      checkCandidate env key count (keyBytes key)
      let (records, size, degraded) ← orCapacityFailure key do
        let (records, size, degraded) ← correctRecords env key count observed.entries
          prior.records (keyBytes key) prior.derivedDegraded
        let (_, size) ← ownReferences env key count (prior.authorityRefs ++ [reference]) size
        return (records, size, degraded)
      admitCandidate env key
        { refreshedAt := now, records := records, authorityRefs := prior.authorityRefs
          rebuildRequired := prior.rebuildRequired || env.expired prior.refreshedAt now
          accountedBytes := size, derivedDegraded := degraded
          reconciliationRef := some reference }
      read env partition later
  | _, _, _ => do
    Txn.update fun ps => ps.modify key PartitionState.flagged
    raise inputLimit

/-- The calls of a memory, with their arguments and clock readings. -/
inductive Call (φ τ : Type) where
  | update (partition : StmPartition) (record : Option (Mapping φ)) (wireBytes : Option Int)
      (now : τ)
  | rebuild (partition : StmPartition) (hookRecords : List (Option (Mapping φ) × Option Int))
      (authorityRefs : List PyStr) (now : τ)
  | reconcile (partition : StmPartition) (authorityState : Option (Mapping φ))
      (authorityRef : Option PyStr) (now later : τ)
  | read (partition : StmPartition) (now : τ)

def Call.partition : Call φ τ → StmPartition
  | .update partition .. => partition
  | .rebuild partition .. => partition
  | .reconcile partition .. => partition
  | .read partition _ => partition

/-- What a call returns; `update` returns `None`. -/
abbrev Answer (φ : Type) := Except Failure (Option (StmReadResult φ))

/-- One call, answer and partitions after it. -/
def call [LinearOrder τ] (c : Call φ τ) : Txn (Partitions φ τ) Failure (Option (StmReadResult φ)) :=
  match c with
  | .update partition record wireBytes now => do
    update env partition record wireBytes now
    return none
  | .rebuild partition hookRecords authorityRefs now => do
    let out ← rebuild env partition hookRecords authorityRefs now
    return some out
  | .reconcile partition authorityState authorityRef now later => do
    let out ← reconcile env partition authorityState authorityRef now later
    return some out
  | .read partition now => do
    let out ← read env partition now
    return some out

def step [LinearOrder τ] (ps : Partitions φ τ) (c : Call φ τ) : Answer φ × Partitions φ τ := call env c ps

end Memory

end AConductor.Stm

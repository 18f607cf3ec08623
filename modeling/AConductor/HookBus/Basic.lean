import AConductor.Lib.Dict

/-!
# Hook bus: records, streams and health

The data of `src/a_conductor/hook_bus.py:22-490`: envelopes, records, the streams with
their queues, the health counters and the limits of a bus. An envelope keeps the fields
the bus reads; its other fields travel with it untouched and are left out. Parsing, the
security scan and the schema (`_ingest`, 309-344) are the parameter `decode` of a bus:
every way in which it may refuse or read a wire is covered. A clock reading is a value of
`Time`, and `fresh` is the comparison of an age with the replay window, which the source
does on Python numbers.
-/

namespace AConductor.Hook

open List

/-- The codes of `HookBusError` (`hook_bus.py:22-34`). -/
inductive HookCode where
  | eventInvalid
  | eventOversized
  | versionUnsupported
  | contextOversized
  | backpressure
  deriving DecidableEq, Repr

/-- `HookBusError` (`hook_bus.py:28-33`). -/
structure HookBusError where
  code : HookCode
  securityInvalid : Bool
  deriving DecidableEq, Repr

/-- `_invalid()` (`hook_bus.py:232-233`). -/
def invalid : HookBusError := ⟨.eventInvalid, false⟩

/-- `_CLASSES` (`hook_bus.py:208`). -/
inductive HookClass where
  | observe
  | advisory
  | guard
  | command
  deriving DecidableEq, Repr

def HookClass.all : List HookClass := [.observe, .advisory, .guard, .command]

/-- A record of the class may give way to others: the test of `accept` at its line 553. -/
def HookClass.sheddable : HookClass → Bool
  | .observe | .advisory => true
  | .guard | .command => false

/-- `_CAUSES` (`hook_bus.py:209-210`). -/
inductive Cause where
  | incomingRejection
  | queuedShed
  | dedupeCapExhaustion
  | streamCapExhaustion
  | oversizedContext
  | consumerException
  deriving DecidableEq, Repr

/-- What the bus reads of an envelope. `source` is one of the five names of the schema. -/
structure Envelope where
  hookClass : HookClass
  eventId : String
  source : String
  sequence : Option Nat
  dedupeKey : Option String
  deriving DecidableEq, Repr

/-- `envelope.get("dedupe_key", envelope["event_id"])`. -/
def Envelope.identity (e : Envelope) : String := e.dedupeKey.getD e.eventId

/-- The only marker of a record. -/
inductive Marker where
  | sequenceInversion
  deriving DecidableEq, Repr

/-- `HookRecord` (`hook_bus.py:365-368`). -/
structure HookRecord where
  envelope : Envelope
  markers : List Marker
  interleaving : String := "OBSERVED_INTERLEAVING"
  deriving DecidableEq, Repr

/-- `HookIngressContext` (`hook_bus.py:350-353`): a field is `none` when it is no string or
    has no UTF-8 encoding. -/
structure HookIngressContext where
  source : Option String
  deviceId : Option String
  sessionId : Option String
  deriving DecidableEq, Repr

inductive AdmissionStatus where
  | accepted
  | duplicate
  deriving DecidableEq, Repr

/-- `HookAdmission` (`hook_bus.py:356-361`). -/
structure HookAdmission where
  status : AdmissionStatus
  degraded : Bool
  shedCount : Nat
  markers : List Marker
  deriving DecidableEq, Repr

/-- The conditions of a health report. -/
inductive Condition where
  | streamDegraded
  | backpressure
  deriving DecidableEq, Repr

/-- `HookHealth` (`hook_bus.py:371-376`). -/
structure HookHealth where
  degraded : Bool
  counters : Cause → Nat
  byClass : HookClass → Cause → Nat
  conditions : Finset Condition

/-- The health of a new bus (`hook_bus.py:453-454`). -/
def HookHealth.initial : HookHealth := ⟨false, fun _ => 0, fun _ _ => 0, ∅⟩

/-- `_health` (`hook_bus.py:403-411`). -/
def health (previous : HookHealth) (cls : HookClass) (cause : Cause) (count : Nat)
    (pressure : Bool) : HookHealth where
  degraded := true
  counters := Function.update previous.counters cause (previous.counters cause + count)
  byClass := Function.update previous.byClass cls
    (Function.update (previous.byClass cls) cause (previous.byClass cls cause + count))
  conditions :=
    let conditions := insert .streamDegraded previous.conditions
    if pressure then insert .backpressure conditions else conditions

/-- `_Entry` (`hook_bus.py:379-384`). The ordinal tells entries apart: it stands for the
    identity of the object. The instant is in nanoseconds. -/
structure Entry where
  record : HookRecord
  wireBytes : Nat
  ordinal : Nat
  instant : Nat
  deriving DecidableEq, Repr

/-- `(context.source, context.device_id, context.session_id)`. -/
abbrev StreamKey := String × String × String

/-- `_Stream` (`hook_bus.py:387-392`). -/
structure Stream where
  encodedKey : String
  queue : List Entry := []
  highWater : Option Nat := none
  ended : Bool := false
  deriving DecidableEq, Repr

abbrev Streams := Dict StreamKey Stream

/-- `_State` (`hook_bus.py:395-400`). An entry of `dedupe` is the time of the record and the
    bytes charged for it. -/
structure State (Time : Type) where
  streams : Streams
  dedupe : Dict String (Time × Nat)
  ordinal : Nat
  health : HookHealth

variable {Time : Type}

def State.initial : State Time := ⟨.empty, .empty, 0, .initial⟩

/-- The bytes of a queue. -/
def queueBytes (queue : List Entry) : Nat := (queue.map Entry.wireBytes).sum

/-- The entries of all queues. -/
def queued (streams : Streams) : List Entry := streams.values.flatMap Stream.queue

/-- `queued_count` (`hook_bus.py:469-471`). -/
def queuedCount (streams : Streams) : Nat := streams.sum fun s => s.queue.length

/-- `queued_bytes` (`hook_bus.py:473-475`). -/
def queuedBytes (streams : Streams) : Nat := streams.sum fun s => queueBytes s.queue

/-- `stream_key_bytes` (`hook_bus.py:485-487`). -/
def streamKeyBytes (streams : Streams) : Nat := streams.sum fun s => s.encodedKey.utf8ByteSize

/-- `dedupe_bytes` (`hook_bus.py:481-483`). -/
def dedupeBytes (dedupe : Dict String (Time × Nat)) : Nat := dedupe.sum Prod.snd

/-- `HookBus._limits` (`hook_bus.py:446-452`). -/
structure Limits where
  maxStreams : Nat
  maxStreamKeyBytes : Nat
  maxStreamEvents : Nat
  maxStreamBytes : Nat
  maxEvents : Nat
  maxBytes : Nat
  maxDedupeEntries : Nat
  maxDedupeBytes : Nat
  deriving DecidableEq, Repr

/-- The hard caps (`hook_bus.py:449`). -/
def Limits.hard : Limits where
  maxStreams := 128
  maxStreamKeyBytes := 65536
  maxStreamEvents := 128
  maxStreamBytes := 2 * 1024 * 1024
  maxEvents := 4096
  maxBytes := 16 * 1024 * 1024
  maxDedupeEntries := 8192
  maxDedupeBytes := 1024 * 1024

/-- `tuple(min(v, h) for v, h in zip(limits, hard))`. -/
def Limits.cap (l h : Limits) : Limits where
  maxStreams := min l.maxStreams h.maxStreams
  maxStreamKeyBytes := min l.maxStreamKeyBytes h.maxStreamKeyBytes
  maxStreamEvents := min l.maxStreamEvents h.maxStreamEvents
  maxStreamBytes := min l.maxStreamBytes h.maxStreamBytes
  maxEvents := min l.maxEvents h.maxEvents
  maxBytes := min l.maxBytes h.maxBytes
  maxDedupeEntries := min l.maxDedupeEntries h.maxDedupeEntries
  maxDedupeBytes := min l.maxDedupeBytes h.maxDedupeBytes

/-- `HookBus` (`hook_bus.py:419-454`). The constructor refuses a negative limit and caps the
    others; `fresh now then` is `now - then < replay_window_seconds`. -/
structure HookBus (Time : Type) where
  limits : Limits
  capped : limits.cap .hard = limits
  fresh : Time → Time → Bool
  decode : List UInt8 → Except HookBusError (Envelope × Nat)

theorem Limits.cap_cap (l h : Limits) : (l.cap h).cap h = l.cap h := by
  simp [Limits.cap]

/-- `HookBus.__init__`. -/
def HookBus.new (requested : Limits) (fresh : Time → Time → Bool)
    (decode : List UInt8 → Except HookBusError (Envelope × Nat)) : HookBus Time where
  limits := requested.cap .hard
  capped := requested.cap_cap .hard
  fresh := fresh
  decode := decode

/-- The argument `event`: bytes, or a value of another type. -/
inductive HookEvent where
  | wire (bytes : List UInt8)
  | other

/-- `_ingest` (`hook_bus.py:309-344`): the envelope, its instant and the size of the wire. -/
def ingest (bus : HookBus Time) : HookEvent → Except HookBusError (Envelope × Nat × Nat)
  | .other => .error invalid
  | .wire bytes =>
    if 65536 < bytes.length then .error ⟨.eventOversized, false⟩
    else (bus.decode bytes).map fun r => (r.1, r.2, bytes.length)

/-- What `_context` finds in a context. -/
inductive ContextCheck where
  | invalid
  | oversized
  | valid (key : StreamKey) (encoded : String)
  deriving DecidableEq, Repr

/-- `not v or "\0" in v`, of an encodable string. -/
def badPart (v : String) : Bool := v.isEmpty || v.toList.contains (Char.ofNat 0)

/-- The checks of `_context` (`hook_bus.py:501-514`); `none` is an object of another class. -/
def checkContext : Option HookIngressContext → ContextCheck
  | some ⟨some source, some device, some session⟩ =>
    if badPart source || badPart device || badPart session then .invalid
    else
      let encoded := (String.singleton (Char.ofNat 0)).intercalate [source, device, session]
      if 64 < source.utf8ByteSize || 128 < device.utf8ByteSize || 256 < session.utf8ByteSize
          || 512 < encoded.utf8ByteSize then .oversized
      else .valid (source, device, session) encoded
  | _ => .invalid

/-- `"sequence" in e.record.envelope`. -/
def Entry.sequenced (e : Entry) : Bool := e.record.envelope.sequence.isSome

/-- The sort key of `_ordered`. -/
def Entry.sequenceKey (e : Entry) : Nat × Nat := (e.record.envelope.sequence.getD 0, e.ordinal)

/-- `sequenceKey` is at most that of the other, as tuples compare. -/
def Entry.sequenceLe (a b : Entry) : Prop :=
  a.sequenceKey.1 < b.sequenceKey.1 ∨
    (a.sequenceKey.1 = b.sequenceKey.1 ∧ a.sequenceKey.2 ≤ b.sequenceKey.2)

instance : DecidableRel Entry.sequenceLe := fun a b => by
  unfold Entry.sequenceLe
  exact inferInstance

/-- Put the sorted entries in the places of the sequenced ones, of which there are as many. -/
def refill : List Entry → List Entry → List Entry
  | [], _ => []
  | e :: queue, sorted =>
    if e.sequenced then
      match sorted with
      | [] => e :: refill queue []
      | x :: rest => x :: refill queue rest
    else e :: refill queue sorted

/-- `_ordered` (`hook_bus.py:414-416`). -/
def ordered (queue : List Entry) : List Entry :=
  refill queue ((queue.filter Entry.sequenced).insertionSort Entry.sequenceLe)

/-- As many sorted entries as places: the refilled queue holds them and the unsequenced. -/
theorem refill_perm (queue sorted : List Entry)
    (h : sorted.length = (queue.filter Entry.sequenced).length) :
    (refill queue sorted).Perm (sorted ++ queue.filter fun e => !e.sequenced) := by
  induction queue generalizing sorted with
  | nil =>
    have hnil : sorted = [] := length_eq_zero_iff.mp (by simpa using h)
    simp [refill, hnil]
  | cons e queue ih =>
    by_cases he : e.sequenced = true
    · rw [filter_cons_of_pos he, length_cons] at h
      obtain ⟨x, rest, rfl⟩ := exists_cons_of_length_eq_add_one h
      rw [length_cons] at h
      have hrest := ih rest (by omega)
      simpa [refill, he] using hrest
    · rw [filter_cons_of_neg he] at h
      have hrest := ih sorted h
      have hrefill : refill (e :: queue) sorted = e :: refill queue sorted := by simp [refill, he]
      have hfilter : (e :: queue).filter (fun e => !e.sequenced) =
          e :: queue.filter fun e => !e.sequenced := by simp [he]
      rw [hrefill, hfilter]
      exact (hrest.cons e).trans perm_middle.symm

theorem ordered_perm (queue : List Entry) : (ordered queue).Perm queue := by
  have hsort := perm_insertionSort Entry.sequenceLe (queue.filter Entry.sequenced)
  have hfill := refill_perm queue _ hsort.length_eq
  exact (hfill.trans (hsort.append_right _)).trans (filter_append_perm _ queue)

end AConductor.Hook

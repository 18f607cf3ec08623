import AConductor.HookBus.Basic
import Mathlib.Data.String.Basic

/-!
# Hook bus: accept, end_session and drain

`HookBus.accept`, `end_session` and `drain` (`src/a_conductor/hook_bus.py:516-607`) on the
state of a bus. An operation gives its answer and the state it commits; the health that
`_context` and `_pressure` commit before they raise is part of that state. `admitEvent` and
`deliver` keep hold of the entries that come in, give way and go out; `accept` and `drain`
are what the caller sees of them.
-/

namespace AConductor.Hook

variable {Time : Type}

/-- `streams[key].queue`. -/
def queueOf (streams : Streams) (key : StreamKey) : List Entry :=
  (streams.get? key).elim [] Stream.queue

/-- The stream has no room for the entry (`hook_bus.py:547`). -/
def localBad (l : Limits) (streams : Streams) (key : StreamKey) (entry : Entry) : Bool :=
  l.maxStreamEvents < (queueOf streams key).length + 1 ||
    l.maxStreamBytes < queueBytes (queueOf streams key) + entry.wireBytes

/-- The bus has no room for the entry (`hook_bus.py:548`). -/
def globalBad (l : Limits) (streams : Streams) (entry : Entry) : Bool :=
  l.maxEvents < queuedCount streams + 1 || l.maxBytes < queuedBytes streams + entry.wireBytes

/-- A queued entry with its stream. -/
structure Candidate where
  key : StreamKey
  stream : Stream
  entry : Entry
  deriving DecidableEq

/-- `eligible` (`hook_bus.py:553`). -/
def eligible (streams : Streams) (key : StreamKey) (localBad : Bool) : List Candidate :=
  streams.entries.flatMap fun e =>
    if !localBad || e.1 = key then
      (e.2.queue.filter fun q => q.record.envelope.hookClass.sheddable).map fun q => ⟨e.1, e.2, q⟩
    else []

/-- The order in which entries give way: `(ordinal, encoded_key)`. -/
def Candidate.age (c : Candidate) : ℕ ×ₗ String := toLex (c.entry.ordinal, c.stream.encodedKey)

/-- Take the entry out of its queue (`hook_bus.py:557`). -/
def dropEntry (streams : Streams) (c : Candidate) : Streams :=
  streams.set c.key
    { c.stream with queue := c.stream.queue.filter fun e => e.ordinal ≠ c.entry.ordinal }

theorem mem_eligible {streams : Streams} {key : StreamKey} {bad : Bool} {c : Candidate}
    (h : c ∈ eligible streams key bad) :
    (c.key, c.stream) ∈ streams.entries ∧ c.entry ∈ c.stream.queue ∧
      c.entry.record.envelope.hookClass.sheddable = true ∧ (bad = true → c.key = key) := by
  obtain ⟨e, he, hc⟩ := List.mem_flatMap.mp h
  by_cases hkey : (!bad || decide (e.1 = key)) = true
  · rw [if_pos hkey] at hc
    obtain ⟨q, hq, rfl⟩ := List.mem_map.mp hc
    obtain ⟨hmem, hshed⟩ := List.mem_filter.mp hq
    refine ⟨he, hmem, hshed, ?_⟩
    intro hbad
    simpa [hbad] using hkey
  · rw [if_neg hkey] at hc
    cases hc

theorem queuedCount_dropEntry_lt {streams : Streams} {c : Candidate}
    (hs : (c.key, c.stream) ∈ streams.entries) (he : c.entry ∈ c.stream.queue) :
    queuedCount (dropEntry streams c) < queuedCount streams := by
  unfold queuedCount dropEntry
  rw [Dict.sum_set, Dict.sum_of_mem _ hs]
  have hlt : (c.stream.queue.filter fun e => e.ordinal ≠ c.entry.ordinal).length <
      c.stream.queue.length := by
    rw [List.length_filter_lt_length_iff_exists]
    exact ⟨c.entry, he, by simp⟩
  exact Nat.add_lt_add_right hlt _

/-- The loop of `accept` (`hook_bus.py:545-558`): the entries that give way, oldest first, and
    the streams without them; `none` is back-pressure. -/
def makeRoom (l : Limits) (key : StreamKey) (entry : Entry) (streams : Streams) :
    Option (List Entry × Streams) :=
  if !localBad l streams key entry && !globalBad l streams entry then some ([], streams)
  else if entry.record.envelope.hookClass.sheddable then none
  else
    match _hmin : (eligible streams key (localBad l streams key entry)).argmin Candidate.age with
    | none => none
    | some victim =>
      (makeRoom l key entry (dropEntry streams victim)).map fun r => (victim.entry :: r.1, r.2)
termination_by queuedCount streams
decreasing_by
  have hmem := mem_eligible (List.argmin_mem (Option.mem_def.mpr ‹_›))
  exact queuedCount_dropEntry_lt hmem.1 hmem.2.1

/-- The health that `_pressure` commits (`hook_bus.py:516-521`). -/
def pressureHealth (h : HookHealth) (cls : HookClass) (cause : Cause) : HookHealth :=
  let h := health h cls cause 1 true
  if cause = .incomingRejection then h else health h cls .incomingRejection 1 true

/-- What `accept` makes of an event that it does not refuse. -/
inductive Acceptance where
  | duplicate
  | accepted (entry : Entry) (victims : List Entry)

/-- `_pressure`: commit the health and raise. -/
def pressure (s : State Time) (cls : HookClass) (cause : Cause) :
    Except HookBusError Acceptance × State Time :=
  (.error ⟨.backpressure, false⟩, { s with health := pressureHealth s.health cls cause })

/-- The stream of the key, opened when there is none and the caps allow one
    (`hook_bus.py:533-538`). -/
def openStream (l : Limits) (streams : Streams) (key : StreamKey) (encoded : String) :
    Option (Stream × Streams) :=
  match streams.get? key with
  | some stream => some (stream, streams)
  | none =>
    if l.maxStreams < streams.size + 1 ||
        l.maxStreamKeyBytes < streamKeyBytes streams + encoded.utf8ByteSize then none
    else
      let stream : Stream := { encodedKey := encoded }
      some (stream, streams.set key stream)

/-- The sequence of the envelope is not above the high water mark (`hook_bus.py:541-543`). -/
def inverted (envelope : Envelope) (stream : Stream) : Bool :=
  match envelope.sequence, stream.highWater with
  | some sequence, some high => sequence ≤ high
  | _, _ => false

/-- The health after the entries gave way, degraded when the new one is marked
    (`hook_bus.py:559-563`). -/
def shedHealth (h : HookHealth) (victims : List Entry) (markers : List Marker) : HookHealth :=
  let shed := victims.foldl (fun h v => health h v.record.envelope.hookClass .queuedShed 1 true) h
  if markers.isEmpty then shed
  else { shed with degraded := true, conditions := insert .streamDegraded shed.conditions }

/-- `accept` once the event, its context and the clock are read (`hook_bus.py:524-571`). -/
def admitAt (bus : HookBus Time) (s : State Time) (envelope : Envelope) (instant : Nat)
    (wireSize : Nat) (key : StreamKey) (encoded : String) (now : Time) :
    Except HookBusError Acceptance × State Time :=
  let l := bus.limits
  let dedupe := s.dedupe.filter fun _ v => bus.fresh now v.1
  if (dedupe.get? envelope.identity).isSome then (.ok .duplicate, { s with dedupe })
  else
    let size := envelope.identity.utf8ByteSize + 64
    if l.maxDedupeEntries < dedupe.size + 1 || l.maxDedupeBytes < dedupeBytes dedupe + size then
      pressure s envelope.hookClass .dedupeCapExhaustion
    else
      match openStream l s.streams key encoded with
      | none => pressure s envelope.hookClass .streamCapExhaustion
      | some (stream, streams) =>
        if stream.ended then (.error invalid, s)
        else
          let markers := if inverted envelope stream then [.sequenceInversion] else []
          let entry : Entry :=
            { record := { envelope, markers }, wireBytes := wireSize,
              ordinal := s.ordinal + 1, instant }
          match makeRoom l key entry streams with
          | none => pressure s envelope.hookClass .incomingRejection
          | some (victims, room) =>
            let streams := room.modify key fun stream =>
              { stream with queue := ordered (stream.queue ++ [entry]) }
            (.ok (.accepted entry victims),
              { streams := streams.filter fun _ stream => !(stream.ended && stream.queue.isEmpty)
                dedupe := dedupe.set envelope.identity (now, size)
                ordinal := entry.ordinal
                health := shedHealth s.health victims markers })

/-- `accept` (`hook_bus.py:507-571`); `clock` is `none` when the clock raises or does not give
    a finite number. -/
def admitEvent (bus : HookBus Time) (s : State Time) (event : HookEvent)
    (context : Option HookIngressContext) (clock : Option Time) :
    Except HookBusError Acceptance × State Time :=
  match ingest bus event with
  | .error e => (.error e, s)
  | .ok (envelope, instant, wireSize) =>
    match checkContext context with
    | .invalid => (.error invalid, s)
    | .oversized =>
      (.error ⟨.contextOversized, false⟩,
        { s with health := health s.health envelope.hookClass .oversizedContext 1 false })
    | .valid key encoded =>
      match clock with
      | none => (.error invalid, s)
      | some now => admitAt bus s envelope instant wireSize key encoded now

/-- The answer of `accept`. -/
def Acceptance.admission (degraded : Bool) : Acceptance → HookAdmission
  | .duplicate => ⟨.duplicate, degraded, 0, []⟩
  | .accepted entry victims => ⟨.accepted, degraded, victims.length, entry.record.markers⟩

def accept (bus : HookBus Time) (s : State Time) (event : HookEvent)
    (context : Option HookIngressContext) (clock : Option Time) :
    Except HookBusError HookAdmission × State Time :=
  let r := admitEvent bus s event context clock
  (r.1.map (Acceptance.admission r.2.health.degraded), r.2)

/-- `end_session` (`hook_bus.py:573-581`). -/
def endSession (s : State Time) (context : Option HookIngressContext) :
    Except HookBusError Unit × State Time :=
  match checkContext context with
  | .invalid => (.error invalid, s)
  | .oversized =>
    (.error ⟨.contextOversized, false⟩,
      { s with health := health s.health .observe .oversizedContext 1 false })
  | .valid key _ =>
    match s.streams.get? key with
    | none => (.ok (), s)
    | some stream =>
      if stream.queue.isEmpty then (.ok (), { s with streams := s.streams.erase key })
      else (.ok (), { s with streams := s.streams.set key { stream with ended := true } })

/-- `heads` (`hook_bus.py:590`). -/
def heads (streams : Streams) : List Candidate :=
  streams.entries.filterMap fun e => e.2.queue.head?.map fun q => ⟨e.1, e.2, q⟩

/-- The order of delivery: `(instant, source, event_id)`. -/
def Candidate.turn (c : Candidate) : ℕ ×ₗ String ×ₗ String :=
  toLex (c.entry.instant,
    toLex (c.entry.record.envelope.source, c.entry.record.envelope.eventId))

/-- The high water mark after the entry (`hook_bus.py:595-598`). -/
def raiseHighWater (high : Option Nat) (entry : Entry) : Option Nat :=
  match entry.record.envelope.sequence with
  | none => high
  | some sequence => some (high.elim sequence fun h => max h sequence)

/-- Take the head of a stream; an ended stream goes with its last entry
    (`hook_bus.py:594-603`). -/
def takeHead (streams : Streams) (c : Candidate) : Streams :=
  let rest := c.stream.queue.tail
  if c.stream.ended && rest.isEmpty then streams.erase c.key
  else
    streams.set c.key
      { c.stream with queue := rest, highWater := raiseHighWater c.stream.highWater c.entry }

/-- The loop of `drain` (`hook_bus.py:589-604`), at most `bound` times. -/
def drainLoop : Nat → Streams → List Entry × Streams
  | 0, streams => ([], streams)
  | bound + 1, streams =>
    match (heads streams).argmin Candidate.turn with
    | none => ([], streams)
    | some c =>
      let rest := drainLoop bound (takeHead streams c)
      (c.entry :: rest.1, rest.2)

/-- The argument `limit`: `None`, an integer, or a value of another type. -/
inductive DrainLimit where
  | unlimited
  | count (n : Int)
  | other
  deriving DecidableEq, Repr

/-- `bound` (`hook_bus.py:584-588`); `none` is a limit that is refused. -/
def drainBound (l : Limits) : DrainLimit → Option Nat
  | .unlimited => some l.maxEvents
  | .count n => if n < 0 then none else some (min n.toNat l.maxEvents)
  | .other => none

/-- `drain` (`hook_bus.py:583-607`), with the entries it delivers. -/
def deliver (bus : HookBus Time) (s : State Time) (limit : DrainLimit) :
    Except HookBusError (List Entry) × State Time :=
  match drainBound bus.limits limit with
  | none => (.error invalid, s)
  | some bound =>
    let r := drainLoop bound s.streams
    (.ok r.1, { s with streams := r.2 })

def drain (bus : HookBus Time) (s : State Time) (limit : DrainLimit) :
    Except HookBusError (List HookRecord) × State Time :=
  let r := deliver bus s limit
  (r.1.map fun entries => entries.map Entry.record, r.2)

/-- A call of the bus, with what the clock says when it is read. -/
inductive Call (Time : Type) where
  | accept (event : HookEvent) (context : Option HookIngressContext) (clock : Option Time)
  | endSession (context : Option HookIngressContext)
  | drain (limit : DrainLimit)

inductive Answer where
  | admission (r : Except HookBusError HookAdmission)
  | ended (r : Except HookBusError Unit)
  | records (r : Except HookBusError (List HookRecord))

/-- The entries that come in, give way and go out in a call. -/
structure Movement where
  accepted : List Entry := []
  shed : List Entry := []
  drained : List Entry := []

def Acceptance.movement : Acceptance → Movement
  | .duplicate => {}
  | .accepted entry victims => { accepted := [entry], shed := victims }

/-- The movement of a call of `accept`. -/
def movementOf (r : Except HookBusError Acceptance) : Movement :=
  (r.toOption.map Acceptance.movement).getD {}

/-- Perform one call; the answer is what the caller sees, the movement is not. -/
def step (bus : HookBus Time) (s : State Time) : Call Time → (Answer × Movement) × State Time
  | .accept event context clock =>
    let r := admitEvent bus s event context clock
    ((.admission (accept bus s event context clock).1, movementOf r.1), r.2)
  | .endSession context =>
    let r := endSession s context
    ((.ended r.1, {}), r.2)
  | .drain limit =>
    let r := deliver bus s limit
    ((.records (drain bus s limit).1, { drained := r.1.toOption.getD [] }), r.2)

end AConductor.Hook

import AConductor.HookBus.Bus
import AConductor.Lib.Machine

/-!
# Hook bus: what a call does

`Shed` is what the loop of `accept` may take from the streams, `Admits` the three ways in
which `accept` ends, and `step` a call with its answer and the entries it moved. The proofs
about runs use these and do not look into the loop again.
-/

namespace AConductor.Hook

open List

variable {Time : Type}

variable {streams room : Streams} {key : StreamKey} {victims : List Entry} {h : HookHealth}
  {cause : Cause}

theorem queued_perm {es : List (StreamKey × Stream)} (h : streams.entries.Perm es) :
    (queued streams).Perm (es.flatMap fun e => e.2.queue) := by
  unfold queued Dict.values
  rw [flatMap_map]
  exact h.flatMap_right _

theorem queued_of_mem {stream : Stream} (h : (key, stream) ∈ streams.entries) :
    (queued streams).Perm (stream.queue ++ queued (streams.erase key)) :=
  (queued_perm (Dict.perm_of_mem h)).trans
    ((queued_perm (List.Perm.refl _)).symm.append_left _)

theorem queued_set (streams : Streams) (key : StreamKey) (stream : Stream) :
    (queued (streams.set key stream)).Perm (stream.queue ++ queued (streams.erase key)) :=
  (queued_perm (Dict.set_perm streams key stream)).trans
    ((queued_perm (List.Perm.refl _)).symm.append_left _)

theorem queuedCount_eq (streams : Streams) : queuedCount streams = (queued streams).length := by
  unfold queuedCount Dict.sum queued
  rw [length_flatMap]

theorem queuedBytes_eq (streams : Streams) : queuedBytes streams = queueBytes (queued streams) := by
  unfold queuedBytes Dict.sum queued queueBytes
  rw [map_flatMap, flatMap_def, sum_flatten, map_map]
  rfl

theorem queueBytes_perm {q r : List Entry} (h : q.Perm r) : queueBytes q = queueBytes r :=
  (h.map _).sum_eq

theorem queueBytes_sublist {q r : List Entry} (h : q.Sublist r) : queueBytes q ≤ queueBytes r :=
  (h.map _).sum_le_sum fun _ _ => Nat.zero_le _

theorem queueBytes_append (q r : List Entry) :
    queueBytes (q ++ r) = queueBytes q + queueBytes r := by
  simp [queueBytes]

/-- Entries that may give way leave the streams, one after the other. -/
inductive Shed : Streams → List Entry → Streams → Prop
  | done (streams : Streams) : Shed streams [] streams
  | drop {streams room : Streams} {victims : List Entry} (c : Candidate)
      (stream : (c.key, c.stream) ∈ streams.entries) (queued : c.entry ∈ c.stream.queue)
      (sheddable : c.entry.record.envelope.hookClass.sheddable = true)
      (rest : Shed (dropEntry streams c) victims room) : Shed streams (c.entry :: victims) room

/-- A loop that ends has shed its victims and left room for the entry. -/
theorem makeRoom_some {l : Limits} {entry : Entry}
    (h : makeRoom l key entry streams = some (victims, room)) :
    Shed streams victims room ∧ localBad l room key entry = false ∧
      globalBad l room entry = false := by
  induction streams using makeRoom.induct l key entry generalizing victims room with
  | case1 streams hroom =>
    rw [makeRoom, if_pos hroom] at h
    cases h
    simp only [Bool.and_eq_true, Bool.not_eq_true'] at hroom
    exact ⟨.done _, hroom.1, hroom.2⟩
  | case2 streams hfull hcls =>
    rw [makeRoom, if_neg hfull, if_pos hcls] at h
    cases h
  | case3 streams hfull hcls hmin =>
    rw [makeRoom, if_neg hfull, if_neg hcls] at h
    split at h
    · cases h
    · rename_i victim hsome
      rw [hmin] at hsome
      cases hsome
  | case4 streams hfull hcls victim hmin ih =>
    rw [makeRoom, if_neg hfull, if_neg hcls] at h
    split at h
    · cases h
    · rename_i c hsome
      rw [hmin] at hsome
      cases hsome
      obtain ⟨⟨vs, room'⟩, hrest, heq⟩ := Option.map_eq_some_iff.mp h
      cases heq
      obtain ⟨hshed, hlocal, hglobal⟩ := ih hrest
      obtain ⟨hstream, hqueued, hsheddable, _⟩ := mem_eligible (argmin_mem hmin)
      exact ⟨.drop victim hstream hqueued hsheddable hshed, hlocal, hglobal⟩

/-- The stream of a key stays, ended or not as it was. -/
theorem Shed.stream (h : Shed streams victims room) {stream : Stream}
    (hmem : (key, stream) ∈ streams.entries) :
    ∃ stream', (key, stream') ∈ room.entries ∧ stream'.ended = stream.ended := by
  induction h generalizing stream with
  | done => exact ⟨stream, hmem, rfl⟩
  | @drop streams _ _ c hstream _ _ _ ih =>
    by_cases hkey : key = c.key
    · subst hkey
      have hsame : stream = c.stream := by
        have h1 := Dict.mem_iff_get?.mp hmem
        rw [Dict.mem_iff_get?.mp hstream] at h1
        exact (Option.some.inj h1).symm
      subst hsame
      have hleft := Dict.get?_set_self streams c.key
        { c.stream with queue := c.stream.queue.filter fun e => e.ordinal ≠ c.entry.ordinal }
      obtain ⟨stream', hroom, hended⟩ := ih (Dict.mem_of_get? hleft)
      exact ⟨stream', hroom, hended⟩
    · exact ih (Dict.mem_set.mpr (.inr ⟨hmem, hkey⟩))

theorem Shed.sheddable (h : Shed streams victims room) :
    ∀ v ∈ victims, v.record.envelope.hookClass.sheddable = true := by
  induction h with
  | done =>
    intro v hv
    cases hv
  | drop c _ _ hsheddable _ ih =>
    intro v hv
    rcases mem_cons.mp hv with rfl | hv
    · exact hsheddable
    · exact ih v hv

/-- Every counter of a cause is the sum of its counters by class. -/
def HookHealth.Balanced (h : HookHealth) : Prop :=
  ∀ cause, h.counters cause = (HookClass.all.map fun cls => h.byClass cls cause).sum

theorem health_balanced (hb : h.Balanced) (cls : HookClass) (cause : Cause) (count : Nat)
    (pressure : Bool) : (health h cls cause count pressure).Balanced := by
  intro c
  have hc := hb c
  by_cases hcause : c = cause
  · subst hcause
    cases cls
    all_goals
      simp [health, HookClass.all, Function.update] at hc ⊢
      omega
  · cases cls
    all_goals
      simp [health, HookClass.all, Function.update, hcause] at hc ⊢
      omega

theorem health_queuedShed {cls : HookClass} (hcause : cause ≠ .queuedShed) (count : Nat)
    (pressure : Bool) :
    (health h cls cause count pressure).counters .queuedShed = h.counters .queuedShed := by
  simp [health, Function.update, hcause.symm]

theorem shedHealth_queuedShed (h : HookHealth) (victims : List Entry) (markers : List Marker) :
    (shedHealth h victims markers).counters .queuedShed =
      h.counters .queuedShed + victims.length := by
  have hfold : ∀ (victims : List Entry) (h : HookHealth),
      (victims.foldl (fun h v => health h v.record.envelope.hookClass .queuedShed 1 true)
        h).counters .queuedShed = h.counters .queuedShed + victims.length := by
    intro victims
    induction victims with
    | nil =>
      intro h
      rfl
    | cons v vs ih =>
      intro h
      rw [foldl_cons, ih, length_cons]
      simp [health]
      omega
  unfold shedHealth
  by_cases hm : markers.isEmpty = true
  · simpa [hm] using hfold victims h
  · simpa [hm] using hfold victims h

theorem shedHealth_balanced (hb : h.Balanced) (victims : List Entry) (markers : List Marker) :
    (shedHealth h victims markers).Balanced := by
  have hfold : (victims.foldl
      (fun h v => health h v.record.envelope.hookClass .queuedShed 1 true) h).Balanced := by
    induction victims generalizing h with
    | nil => exact hb
    | cons v vs ih => exact ih (health_balanced hb _ _ _ _)
  unfold shedHealth
  by_cases hm : markers.isEmpty = true
  · simpa [hm] using hfold
  · rw [if_neg hm]
    exact hfold

/-- The health of a refused call: other causes are counted, shedding is not. -/
structure Refusal (h h' : HookHealth) : Prop where
  shed : h'.counters .queuedShed = h.counters .queuedShed
  balanced : h.Balanced → h'.Balanced

theorem Refusal.refl (h : HookHealth) : Refusal h h := ⟨rfl, id⟩

theorem refusal_health (h : HookHealth) (cls : HookClass) (hcause : cause ≠ .queuedShed)
    (pressure : Bool) : Refusal h (health h cls cause 1 pressure) :=
  ⟨health_queuedShed hcause _ _, fun hb => health_balanced hb _ _ _ _⟩

theorem Refusal.trans {h h' h'' : HookHealth} (h1 : Refusal h h') (h2 : Refusal h' h'') :
    Refusal h h'' := ⟨h2.shed.trans h1.shed, fun hb => h2.balanced (h1.balanced hb)⟩

theorem refusal_pressure (h : HookHealth) (cls : HookClass) (hcause : cause ≠ .queuedShed) :
    Refusal h (pressureHealth h cls cause) := by
  unfold pressureHealth
  dsimp only
  by_cases hin : cause = .incomingRejection
  · rw [if_pos hin]
    exact refusal_health h cls hcause true
  · rw [if_neg hin]
    exact (refusal_health h cls hcause true).trans (refusal_health _ cls (by decide) true)

/-- The state after an accepted event, from what was found on the way. -/
def admitted (s : State Time) (key : StreamKey) (identity : String) (charge : Time × Nat)
    (entry : Entry) (victims : List Entry) (room : Streams)
    (dedupe : Dict String (Time × Nat)) : State Time where
  streams :=
    (room.modify key fun stream => { stream with queue := ordered (stream.queue ++ [entry]) }).filter
      fun _ stream => !(stream.ended && stream.queue.isEmpty)
  dedupe := dedupe.set identity charge
  ordinal := entry.ordinal
  health := shedHealth s.health victims entry.record.markers

/-- The ways in which `accept` ends. -/
inductive Admits (bus : HookBus Time) (s : State Time) :
    Except HookBusError Acceptance × State Time → Prop
  | refused (e : HookBusError) (h : HookHealth) (health : Refusal s.health h) :
      Admits bus s (.error e, { s with health := h })
  | duplicate (now : Time) :
      Admits bus s (.ok .duplicate,
        { s with dedupe := s.dedupe.filter fun _ v => bus.fresh now v.1 })
  | accepted (now : Time) (key : StreamKey) (encoded identity : String) (stream : Stream)
      (streams room : Streams) (charge : Time × Nat) (entry : Entry) (victims : List Entry)
      (unseen : (s.dedupe.filter fun _ v => bus.fresh now v.1).get? identity = none)
      (entries : (s.dedupe.filter fun _ v => bus.fresh now v.1).size + 1 ≤
        bus.limits.maxDedupeEntries)
      (bytes : dedupeBytes (s.dedupe.filter fun _ v => bus.fresh now v.1) + charge.2 ≤
        bus.limits.maxDedupeBytes)
      (opened : openStream bus.limits s.streams key encoded = some (stream, streams))
      (live : stream.ended = false)
      (ordinal : entry.ordinal = s.ordinal + 1)
      (fits : makeRoom bus.limits key entry streams = some (victims, room)) :
      Admits bus s (.ok (.accepted entry victims),
        admitted s key identity charge entry victims room
          (s.dedupe.filter fun _ v => bus.fresh now v.1))

theorem Admits.unchanged (bus : HookBus Time) (s : State Time) (e : HookBusError) :
    Admits bus s (.error e, s) := .refused e s.health (.refl _)

theorem admitAt_admits (bus : HookBus Time) (s : State Time) (envelope : Envelope)
    (instant wireSize : Nat) (key : StreamKey) (encoded : String) (now : Time) :
    Admits bus s (admitAt bus s envelope instant wireSize key encoded now) := by
  unfold admitAt
  dsimp only
  by_cases hseen :
      ((s.dedupe.filter fun _ v => bus.fresh now v.1).get? envelope.identity).isSome = true
  · rw [if_pos hseen]
    exact .duplicate now
  · rw [if_neg hseen]
    by_cases hfull : (decide (bus.limits.maxDedupeEntries <
        (s.dedupe.filter fun _ v => bus.fresh now v.1).size + 1) ||
        decide (bus.limits.maxDedupeBytes <
          dedupeBytes (s.dedupe.filter fun _ v => bus.fresh now v.1) +
            (envelope.identity.utf8ByteSize + 64))) = true
    · rw [if_pos hfull]
      exact .refused _ _ (refusal_pressure _ _ (by decide))
    · rw [if_neg hfull]
      simp only [Bool.or_eq_true, decide_eq_true_eq, not_or, Nat.not_lt] at hfull
      cases hopen : openStream bus.limits s.streams key encoded with
      | none => exact .refused _ _ (refusal_pressure _ _ (by decide))
      | some found =>
        obtain ⟨stream, streams⟩ := found
        dsimp only
        by_cases hended : stream.ended = true
        · rw [if_pos hended]
          exact .unchanged bus s _
        · rw [if_neg hended]
          split
          · exact .refused _ _ (refusal_pressure _ _ (by decide))
          · rename_i victims room hroom
            exact .accepted now key encoded envelope.identity stream streams room
              (now, envelope.identity.utf8ByteSize + 64) _ victims
              (by simpa using hseen) hfull.1 hfull.2 hopen (by simpa using hended) rfl hroom

/-- Every call of `accept` ends in one of the three ways. -/
theorem admit_admits (bus : HookBus Time) (s : State Time) (event : HookEvent)
    (context : Option HookIngressContext) (clock : Option Time) :
    Admits bus s (admitEvent bus s event context clock) := by
  unfold admitEvent
  split
  · exact .unchanged bus s _
  · split
    · exact .unchanged bus s _
    · exact .refused _ _ (refusal_health _ _ (by decide) false)
    · split
      · exact .unchanged bus s _
      · exact admitAt_admits _ _ _ _ _ _ _ _

/-- The ways in which `end_session` ends. -/
inductive Ends (s : State Time) : State Time → Prop
  | refused (h : HookHealth) (health : Refusal s.health h) : Ends s { s with health := h }
  | removed (key : StreamKey) (stream : Stream) (found : s.streams.get? key = some stream)
      (empty : stream.queue = []) : Ends s { s with streams := s.streams.erase key }
  | marked (key : StreamKey) (stream : Stream) (found : s.streams.get? key = some stream)
      (queued : stream.queue ≠ []) :
      Ends s { s with streams := s.streams.set key { stream with ended := true } }

theorem Ends.unchanged (s : State Time) : Ends s s := .refused s.health (.refl _)

theorem endSession_ends (s : State Time) (context : Option HookIngressContext) :
    Ends s (endSession s context).2 := by
  unfold endSession
  cases checkContext context with
  | invalid => exact .unchanged s
  | oversized => exact .refused _ (refusal_health _ _ (by decide) false)
  | valid key encoded =>
    cases hget : s.streams.get? key with
    | none =>
      simp only [hget]
      exact .unchanged s
    | some stream =>
      simp only [hget]
      by_cases hempty : stream.queue.isEmpty = true
      · rw [if_pos hempty]
        exact .removed key stream hget (by simpa using hempty)
      · rw [if_neg hempty]
        exact .marked key stream hget (by simpa using hempty)

/-- A head of the streams is the first entry of its queue. -/
theorem mem_heads {c : Candidate} (h : c ∈ heads streams) :
    (c.key, c.stream) ∈ streams.entries ∧ c.stream.queue = c.entry :: c.stream.queue.tail := by
  obtain ⟨e, he, hc⟩ := mem_filterMap.mp h
  obtain ⟨q, hq, rfl⟩ := Option.map_eq_some_iff.mp hc
  exact ⟨he, (cons_head?_tail hq).symm⟩

end AConductor.Hook

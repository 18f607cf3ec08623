import AConductor.HookBus.Spec

namespace AConductor.Hook

open Machine Dict

variable {Time : Type}

/-- The streams keep within the limits. -/
structure Capped (l : Limits) (streams : Streams) : Prop where
  count : streams.size ≤ l.maxStreams
  keyBytes : streamKeyBytes streams ≤ l.maxStreamKeyBytes
  streamEvents : ∀ e ∈ streams.entries, e.2.queue.length ≤ l.maxStreamEvents
  streamBytes : ∀ e ∈ streams.entries, queueBytes e.2.queue ≤ l.maxStreamBytes
  events : queuedCount streams ≤ l.maxEvents
  bytes : queuedBytes streams ≤ l.maxBytes

/-- No stream is both ended and empty. -/
def Live (streams : Streams) : Prop :=
  ∀ e ∈ streams.entries, ¬ (e.2.ended = true ∧ e.2.queue = [])

variable {l : Limits} {key : StreamKey} {streams : Streams} {stream : Stream} {s : State Time}
  {bus : HookBus Time}

theorem Capped.open {streams streams' : Streams} {encoded : String} (h : Capped l streams)
    (hopen : openStream l streams key encoded = some (stream, streams')) :
    Capped l streams' ∧ (key, stream) ∈ streams'.entries := by
  unfold openStream at hopen
  split at hopen
  · rename_i found hget
    cases hopen
    exact ⟨h, mem_of_get? hget⟩
  · rename_i hget
    by_cases hfull : (decide (l.maxStreams < streams.size + 1) || decide (l.maxStreamKeyBytes <
        streamKeyBytes streams + encoded.utf8ByteSize)) = true
    · rw [if_pos hfull] at hopen
      cases hopen
    · rw [if_neg hfull] at hopen
      cases hopen
      simp only [Bool.or_eq_true, decide_eq_true_eq, not_or, Nat.not_lt] at hfull
      refine ⟨⟨?_, ?_, ?_, ?_, ?_, ?_⟩, mem_set.mpr (.inl rfl)⟩
      · rw [size_set_of_none hget]
        exact hfull.1
      · unfold streamKeyBytes
        rw [sum_set_of_none _ _ hget]
        exact hfull.2
      · intro e he
        rcases mem_set.mp he with rfl | ⟨he, _⟩
        · exact Nat.zero_le _
        · exact h.streamEvents e he
      · intro e he
        rcases mem_set.mp he with rfl | ⟨he, _⟩
        · exact Nat.zero_le _
        · exact h.streamBytes e he
      · unfold queuedCount
        rw [sum_set_of_none _ _ hget]
        exact h.events
      · unfold queuedBytes
        rw [sum_set_of_none _ _ hget]
        exact h.bytes

/-- A stream whose queue only loses entries. -/
theorem Capped.shrink {stream stream' : Stream} (h : Capped l streams)
    (hmem : (key, stream) ∈ streams.entries) (hkey : stream'.encodedKey = stream.encodedKey)
    (hqueue : stream'.queue.Sublist stream.queue) : Capped l (streams.set key stream') := by
  have hlength := hqueue.length_le
  have hbytes := queueBytes_sublist hqueue
  refine ⟨?_, ?_, ?_, ?_, ?_, ?_⟩
  · rw [size_set_of_some (mem_iff_get?.mp hmem)]
    exact h.count
  · have hle := h.keyBytes
    unfold streamKeyBytes at hle ⊢
    rw [sum_of_mem _ hmem] at hle
    rw [sum_set, hkey]
    exact hle
  · intro e he
    rcases mem_set.mp he with rfl | ⟨he, _⟩
    · exact hlength.trans (h.streamEvents _ hmem)
    · exact h.streamEvents e he
  · intro e he
    rcases mem_set.mp he with rfl | ⟨he, _⟩
    · exact hbytes.trans (h.streamBytes _ hmem)
    · exact h.streamBytes e he
  · have hle := h.events
    unfold queuedCount at hle ⊢
    rw [sum_of_mem _ hmem] at hle
    rw [sum_set]
    omega
  · have hle := h.bytes
    unfold queuedBytes at hle ⊢
    rw [sum_of_mem _ hmem] at hle
    rw [sum_set]
    omega

theorem Capped.filter (h : Capped l streams)
    (p : StreamKey → Stream → Bool) : Capped l (streams.filter p) where
  count := (size_filter_le p streams).trans h.count
  keyBytes := (sum_filter_le _ p streams).trans h.keyBytes
  streamEvents e he := h.streamEvents e (Dict.mem_filter.mp he).1
  streamBytes e he := h.streamBytes e (Dict.mem_filter.mp he).1
  events := (sum_filter_le _ p streams).trans h.events
  bytes := (sum_filter_le _ p streams).trans h.bytes

theorem Capped.erase (h : Capped l streams) (key : StreamKey) :
    Capped l (streams.erase key) := h.filter _

theorem Capped.shed {streams room : Streams} {victims : List Entry} (h : Capped l streams)
    (hshed : Shed streams victims room) : Capped l room := by
  induction hshed with
  | done => exact h
  | drop c hstream _ _ _ ih => exact ih (h.shrink hstream rfl List.filter_sublist)

/-- The new entry goes into a stream with room for it. -/
theorem Capped.append {room : Streams} {entry : Entry} (h : Capped l room)
    (hmem : (key, stream) ∈ room.entries) (hlocal : localBad l room key entry = false)
    (hglobal : globalBad l room entry = false) :
    Capped l (room.set key { stream with queue := ordered (stream.queue ++ [entry]) }) := by
  have hqueue : queueOf room key = stream.queue := by
    unfold queueOf
    rw [mem_iff_get?.mp hmem]
    rfl
  have hperm := ordered_perm (stream.queue ++ [entry])
  have hlength : (ordered (stream.queue ++ [entry])).length = stream.queue.length + 1 := by
    rw [hperm.length_eq, List.length_append, List.length_singleton]
  have hbytes : queueBytes (ordered (stream.queue ++ [entry])) =
      queueBytes stream.queue + entry.wireBytes := by
    rw [queueBytes_perm hperm, queueBytes_append]
    rfl
  simp only [localBad, hqueue, Bool.or_eq_false_iff, decide_eq_false_iff_not, Nat.not_lt]
    at hlocal
  simp only [globalBad, Bool.or_eq_false_iff, decide_eq_false_iff_not, Nat.not_lt] at hglobal
  refine ⟨?_, ?_, ?_, ?_, ?_, ?_⟩
  · rw [size_set_of_some (mem_iff_get?.mp hmem)]
    exact h.count
  · have hle := h.keyBytes
    unfold streamKeyBytes at hle ⊢
    rw [sum_of_mem _ hmem] at hle
    rw [sum_set]
    exact hle
  · intro e he
    rcases mem_set.mp he with rfl | ⟨he, _⟩
    · dsimp only
      rw [hlength]
      exact hlocal.1
    · exact h.streamEvents e he
  · intro e he
    rcases mem_set.mp he with rfl | ⟨he, _⟩
    · dsimp only
      rw [hbytes]
      exact hlocal.2
    · exact h.streamBytes e he
  · have hle := hglobal.1
    unfold queuedCount at hle ⊢
    rw [sum_of_mem _ hmem] at hle
    rw [sum_set]
    dsimp only
    omega
  · have hle := hglobal.2
    unfold queuedBytes at hle ⊢
    rw [sum_of_mem _ hmem] at hle
    rw [sum_set]
    dsimp only
    omega

/-- The invariant of a bus: the caps of the streams and of the dedupe table. -/
structure Bounded (l : Limits) (s : State Time) : Prop where
  capped : Capped l s.streams
  live : Live s.streams
  dedupeEntries : s.dedupe.size ≤ l.maxDedupeEntries
  dedupeBytes : dedupeBytes s.dedupe ≤ l.maxDedupeBytes
  balanced : s.health.Balanced

theorem live_filter (streams : Streams) :
    Live (streams.filter fun _ stream => !(stream.ended && stream.queue.isEmpty)) := by
  intro e he hdead
  have hp := (Dict.mem_filter.mp he).2
  simp [hdead.1, hdead.2] at hp

theorem Live.erase (h : Live streams) (key : StreamKey) : Live (streams.erase key) := by
  intro e he
  exact h e (mem_erase.mp he).1

theorem Live.set (h : Live streams) (hstream : ¬ (stream.ended = true ∧ stream.queue = [])) :
    Live (streams.set key stream) := by
  intro e he
  rcases mem_set.mp he with rfl | ⟨he, _⟩
  · exact hstream
  · exact h e he

theorem Bounded.health (h : Bounded l s) {health : HookHealth} (hr : Refusal s.health health) :
    Bounded l { s with health := health } :=
  ⟨h.capped, h.live, h.dedupeEntries, h.dedupeBytes, hr.balanced h.balanced⟩

theorem Bounded.admitEvent (h : Bounded bus.limits s)
    {r : Except HookBusError Acceptance × State Time} (hr : Admits bus s r) :
    Bounded bus.limits r.2 := by
  cases hr with
  | refused e health hhealth => exact h.health hhealth
  | duplicate now =>
    exact ⟨h.capped, h.live, (size_filter_le _ _).trans h.dedupeEntries,
      (sum_filter_le _ _ _).trans h.dedupeBytes, h.balanced⟩
  | accepted now key encoded identity stream streams room charge entry victims unseen entries
      bytes opened live ordinal fits =>
    obtain ⟨hshed, hlocal, hglobal⟩ := makeRoom_some fits
    obtain ⟨hopen, hmem⟩ := h.capped.open opened
    obtain ⟨stream', hroom, _⟩ := hshed.stream hmem
    have hcapped := ((hopen.shed hshed).append hroom hlocal hglobal).filter
      fun _ stream => !(stream.ended && stream.queue.isEmpty)
    refine ⟨?_, live_filter _, ?_, ?_, shedHealth_balanced h.balanced _ _⟩
    · unfold admitted Dict.modify
      rw [mem_iff_get?.mp hroom]
      exact hcapped
    · unfold admitted
      rw [size_set_of_none unseen]
      exact entries
    · unfold admitted Hook.dedupeBytes
      rw [sum_set_of_none _ _ unseen]
      exact bytes

theorem Bounded.ends {s s' : State Time} (h : Bounded l s) (he : Ends s s') : Bounded l s' := by
  cases he with
  | refused health hhealth => exact h.health hhealth
  | removed key stream found empty =>
    exact { h with capped := h.capped.erase key, live := h.live.erase key }
  | marked key stream found queued =>
    have hcapped : Capped l (s.streams.set key { stream with ended := true }) :=
      h.capped.shrink (mem_of_get? found) rfl (List.Sublist.refl _)
    exact { h with capped := hcapped, live := h.live.set fun hdead => queued hdead.2 }

theorem takeHead_capped {c : Candidate} (hmem : (c.key, c.stream) ∈ streams.entries)
    (h : Capped l streams) (hlive : Live streams) :
    Capped l (takeHead streams c) ∧ Live (takeHead streams c) := by
  unfold takeHead
  dsimp only
  by_cases hlast : (c.stream.ended && c.stream.queue.tail.isEmpty) = true
  · rw [if_pos hlast]
    exact ⟨h.erase _, hlive.erase _⟩
  · rw [if_neg hlast]
    refine ⟨h.shrink hmem rfl (List.tail_sublist _), hlive.set ?_⟩
    simpa using hlast

theorem drainLoop_capped (bound : Nat) (h : Capped l streams) (hlive : Live streams) :
    Capped l (drainLoop bound streams).2 ∧ Live (drainLoop bound streams).2 := by
  induction bound generalizing streams with
  | zero => exact ⟨h, hlive⟩
  | succ bound ih =>
    unfold drainLoop
    split
    · exact ⟨h, hlive⟩
    · rename_i c hmin
      obtain ⟨hmem, _⟩ := mem_heads (List.argmin_mem hmin)
      obtain ⟨hcapped, hlive'⟩ := takeHead_capped hmem h hlive
      exact ih hcapped hlive'

theorem Bounded.deliver (h : Bounded l s) (limit : DrainLimit) :
    Bounded l (deliver bus s limit).2 := by
  unfold Hook.deliver
  split
  · exact h
  · rename_i bound _
    obtain ⟨hcapped, hlive⟩ := drainLoop_capped bound h.capped h.live
    exact { h with capped := hcapped, live := hlive }

theorem Bounded.step (h : Bounded bus.limits s) (c : Call Time) :
    Bounded bus.limits (step bus s c).2 := by
  cases c with
  | accept event context clock => exact h.admitEvent (admit_admits bus s event context clock)
  | endSession context => exact h.ends (endSession_ends s context)
  | drain limit => exact h.deliver limit

theorem bounded_initial (l : Limits) : Bounded l (State.initial : State Time) := by
  refine ⟨⟨Nat.zero_le _, Nat.zero_le _, ?_, ?_, Nat.zero_le _, Nat.zero_le _⟩, ?_, Nat.zero_le _,
    Nat.zero_le _, fun _ => rfl⟩
  all_goals
    intro e he
    cases he

/-- After any calls all caps hold, the counters are those of the queues, and no stream is
    both ended and empty. -/
theorem hook_bus_bounded (bus : HookBus Time) (calls : List (Call Time)) :
    let s := (run (step bus) .initial calls).2
    (∀ e ∈ s.streams.entries, e.2.queue.length ≤ bus.limits.maxStreamEvents ∧
      queueBytes e.2.queue ≤ bus.limits.maxStreamBytes) ∧
    queuedCount s.streams ≤ bus.limits.maxEvents ∧
    queuedBytes s.streams ≤ bus.limits.maxBytes ∧
    s.dedupe.size ≤ bus.limits.maxDedupeEntries ∧
    dedupeBytes s.dedupe ≤ bus.limits.maxDedupeBytes ∧
    s.streams.size ≤ bus.limits.maxStreams ∧
    streamKeyBytes s.streams ≤ bus.limits.maxStreamKeyBytes ∧
    queuedCount s.streams = (queued s.streams).length ∧
    queuedBytes s.streams = queueBytes (queued s.streams) ∧
    (∀ cause, s.health.counters cause =
      (HookClass.all.map fun cls => s.health.byClass cls cause).sum) ∧
    (∀ e ∈ s.streams.entries, ¬ (e.2.ended = true ∧ e.2.queue = [])) := by
  have hb : Bounded bus.limits (run (step bus) .initial calls).2 :=
    Reachable.induction ⟨calls, rfl⟩ (bounded_initial bus.limits) fun s c hs => hs.step c
  exact ⟨fun e he => ⟨hb.capped.streamEvents e he, hb.capped.streamBytes e he⟩, hb.capped.events,
    hb.capped.bytes, hb.dedupeEntries, hb.dedupeBytes, hb.capped.count, hb.capped.keyBytes,
    queuedCount_eq _, queuedBytes_eq _, hb.balanced, hb.live⟩

end AConductor.Hook

import AConductor.HookBus.Spec

namespace AConductor.Hook

open Machine List

variable {Time : Type}

variable {streams : Streams}

theorem queued_dropEntry {c : Candidate} (hstream : (c.key, c.stream) ∈ streams.entries)
    (hentry : c.entry ∈ c.stream.queue) (hnodup : ((queued streams).map Entry.ordinal).Nodup) :
    (queued streams).Perm (c.entry :: queued (dropEntry streams c)) := by
  have hsplit := queued_of_mem hstream
  have hqueue : (c.stream.queue.map Entry.ordinal).Nodup := by
    have hall := (hsplit.map Entry.ordinal).nodup_iff.mp hnodup
    rw [map_append] at hall
    exact (nodup_append.mp hall).1
  have hone := perm_cons_filter_ne hqueue hentry
  have hdrop := queued_set streams c.key
    { c.stream with queue := c.stream.queue.filter fun e => e.ordinal ≠ c.entry.ordinal }
  exact (hsplit.trans (hone.append_right _)).trans (hdrop.symm.cons c.entry)

theorem queued_shed {streams room : Streams} {victims : List Entry}
    (h : Shed streams victims room) (hnodup : ((queued streams).map Entry.ordinal).Nodup) :
    (queued streams).Perm (victims ++ queued room) := by
  induction h with
  | done => exact List.Perm.refl _
  | drop c hstream hentry _ _ ih =>
    have hdrop := queued_dropEntry hstream hentry hnodup
    have hrest := (hdrop.map Entry.ordinal).nodup_iff.mp hnodup
    exact hdrop.trans ((ih (nodup_cons.mp hrest).2).cons c.entry)

theorem queued_open {l : Limits} {streams streams' : Streams} {key : StreamKey} {encoded : String}
    {stream : Stream} (hopen : openStream l streams key encoded = some (stream, streams')) :
    (queued streams').Perm (queued streams) ∧ (key, stream) ∈ streams'.entries := by
  unfold openStream at hopen
  split at hopen
  · rename_i found hget
    cases hopen
    exact ⟨List.Perm.refl _, Dict.mem_of_get? hget⟩
  · rename_i hget
    split at hopen
    · cases hopen
    · cases hopen
      refine ⟨(queued_set _ _ _).trans ?_, Dict.mem_set.mpr (.inl rfl)⟩
      have hsame := Dict.erase_of_get?_none hget
      unfold queued Dict.values
      rw [hsame]
      exact List.Perm.refl _

theorem queued_filter {p : StreamKey → Stream → Bool}
    (hp : ∀ e ∈ streams.entries, p e.1 e.2 = false → e.2.queue = []) :
    queued (streams.filter p) = queued streams := by
  obtain ⟨es, hnodup⟩ := streams
  unfold queued Dict.values Dict.filter
  dsimp only at hp ⊢
  clear hnodup
  induction es with
  | nil => rfl
  | cons e es ih =>
    have hrest := ih fun e he => hp e (mem_cons_of_mem _ he)
    by_cases hpe : p e.1 e.2 = true
    · simp only [filter_cons, hpe, if_true, map_cons, flatMap_cons, hrest]
    · have hempty := hp e mem_cons_self (by simpa using hpe)
      simp only [filter_cons, hpe, Bool.false_eq_true, if_false, map_cons,
        flatMap_cons, hrest, hempty, nil_append]

theorem queued_takeHead {c : Candidate} (h : c ∈ heads streams) :
    (queued streams).Perm (c.entry :: queued (takeHead streams c)) := by
  obtain ⟨hmem, hqueue⟩ := mem_heads h
  have hsplit := queued_of_mem hmem
  rw [hqueue] at hsplit
  unfold takeHead
  dsimp only
  by_cases hlast : (c.stream.ended && c.stream.queue.tail.isEmpty) = true
  · rw [if_pos hlast]
    have hnil : c.stream.queue.tail = [] := by simpa using (Bool.and_eq_true_iff.mp hlast).2
    rw [hnil] at hsplit
    exact hsplit
  · rw [if_neg hlast]
    have hset := queued_set streams c.key
      { c.stream with
        queue := c.stream.queue.tail
        highWater := raiseHighWater c.stream.highWater c.entry }
    exact hsplit.trans (hset.symm.cons c.entry)

theorem queued_drainLoop (bound : Nat) (streams : Streams) :
    (queued streams).Perm
      ((drainLoop bound streams).1 ++ queued (drainLoop bound streams).2) := by
  induction bound generalizing streams with
  | zero => exact List.Perm.refl _
  | succ bound ih =>
    unfold drainLoop
    split
    · exact List.Perm.refl _
    · rename_i c hmin
      exact (queued_takeHead (argmin_mem hmin)).trans ((ih _).cons c.entry)

/-- A call moves entries and loses none; new entries get the next ordinals. -/
structure Conserves (s s' : State Time) (m : Movement) : Prop where
  entries : (m.accepted ++ queued s.streams).Perm (m.drained ++ (queued s'.streams ++ m.shed))
  ordinals : m.accepted.map Entry.ordinal = List.range' (s.ordinal + 1) m.accepted.length
  ordinal : s'.ordinal = s.ordinal + m.accepted.length
  shed : s'.health.counters .queuedShed = s.health.counters .queuedShed + m.shed.length
  sheddable : ∀ e ∈ m.shed, e.record.envelope.hookClass.sheddable = true

theorem Conserves.still {s s' : State Time} (hqueued : (queued s'.streams).Perm (queued s.streams))
    (hordinal : s'.ordinal = s.ordinal)
    (hshed : s'.health.counters .queuedShed = s.health.counters .queuedShed) :
    Conserves s s' {} := by
  refine ⟨?_, rfl, hordinal, hshed, ?_⟩
  · simpa using hqueued.symm
  · intro e he
    cases he

variable {s : State Time}

theorem Admits.conserves {bus : HookBus Time} {r : Except HookBusError Acceptance × State Time}
    (h : Admits bus s r) (hnodup : ((queued s.streams).map Entry.ordinal).Nodup) :
    Conserves s r.2 (movementOf r.1) := by
  cases h with
  | refused e health hhealth => exact .still (List.Perm.refl _) rfl hhealth.shed
  | duplicate now => exact .still (List.Perm.refl _) rfl rfl
  | accepted now key encoded identity stream streams room charge entry victims unseen entries
      bytes opened live ordinal fits =>
    obtain ⟨hshed, _, _⟩ := makeRoom_some fits
    obtain ⟨hopen, hmem⟩ := queued_open opened
    obtain ⟨stream', hroom, _⟩ := hshed.stream hmem
    have hvictims := queued_shed hshed ((hopen.map Entry.ordinal).nodup_iff.mpr hnodup)
    have hnew : (queued (admitted s key identity charge entry victims room
        (s.dedupe.filter fun _ v => bus.fresh now v.1)).streams).Perm
          (entry :: queued room) := by
      unfold admitted Dict.modify
      rw [Dict.mem_iff_get?.mp hroom]
      dsimp only
      rw [queued_filter]
      · have hset := queued_set room key
          { stream' with queue := ordered (stream'.queue ++ [entry]) }
        have hqueue := (ordered_perm (stream'.queue ++ [entry])).trans perm_append_comm
        exact (hset.trans (hqueue.append_right _)).trans ((queued_of_mem hroom).symm.cons entry)
      · intro e _ hdead
        simp only [Bool.not_eq_false', Bool.and_eq_true, List.isEmpty_iff] at hdead
        exact hdead.2
    refine ⟨?_, ?_, ordinal, shedHealth_queuedShed _ _ _, hshed.sheddable⟩
    · have hall := (hopen.symm.trans hvictims).trans perm_append_comm
      exact (hall.cons entry).trans (hnew.symm.append_right victims)
    · simp [movementOf, Acceptance.movement, Except.toOption, ordinal]

theorem Ends.conserves {s s' : State Time} (h : Ends s s') : Conserves s s' {} := by
  cases h with
  | refused health hhealth => exact .still (List.Perm.refl _) rfl hhealth.shed
  | removed key stream found empty =>
    have hsplit := queued_of_mem (Dict.mem_of_get? found)
    rw [empty] at hsplit
    exact .still hsplit.symm rfl rfl
  | marked key stream found queued =>
    have hsplit := queued_of_mem (Dict.mem_of_get? found)
    exact .still ((queued_set _ _ _).trans hsplit.symm) rfl rfl

theorem step_conserves (bus : HookBus Time) (hnodup : ((queued s.streams).map Entry.ordinal).Nodup)
    (c : Call Time) : Conserves s (step bus s c).2 (step bus s c).1.2 := by
  cases c with
  | accept event context clock => exact (admit_admits bus s event context clock).conserves hnodup
  | endSession context => exact (endSession_ends s context).conserves
  | drain limit =>
    unfold step deliver
    dsimp only
    split
    · exact .still (List.Perm.refl _) rfl rfl
    · rename_i bound _
      refine ⟨?_, rfl, rfl, rfl, ?_⟩
      · simpa [Except.toOption] using queued_drainLoop bound s.streams
      · intro e he
        cases he

/-- A call with its answer and its movement. -/
abbrev Entries (Time : Type) := List (Call Time × (Answer × Movement))

def acceptedIn (h : Entries Time) : List Entry := h.flatMap fun r => r.2.2.accepted

def shedIn (h : Entries Time) : List Entry := h.flatMap fun r => r.2.2.shed

def drainedIn (h : Entries Time) : List Entry := h.flatMap fun r => r.2.2.drained

/-- The answer reports an accepted event. -/
def Answer.accepts : Answer → Bool
  | .admission (.ok a) => a.status = .accepted
  | _ => false

/-- The records of the answer. -/
def Answer.delivered : Answer → List HookRecord
  | .records (.ok rs) => rs
  | _ => []

/-- How many calls answered that they accepted an event. -/
def numAccepted (h : Entries Time) : Nat := (h.filter fun r => r.2.1.accepts).length

/-- How many records the answers delivered. -/
def numDrained (h : Entries Time) : Nat := (h.map fun r => r.2.1.delivered.length).sum

/-- The answer says how many entries came in and which records went out. -/
theorem step_answer (bus : HookBus Time) (s : State Time) (c : Call Time) :
    (step bus s c).1.1.accepts.toNat = (step bus s c).1.2.accepted.length ∧
      (step bus s c).1.1.delivered = (step bus s c).1.2.drained.map Entry.record := by
  cases c with
  | accept event context clock =>
    dsimp only [step, accept]
    generalize admitEvent bus s event context clock = r
    obtain ⟨_ | _ | ⟨entry, victims⟩, s'⟩ := r
    · exact ⟨rfl, rfl⟩
    · exact ⟨rfl, rfl⟩
    · exact ⟨rfl, rfl⟩
  | endSession context => exact ⟨rfl, rfl⟩
  | drain limit =>
    dsimp only [step, drain]
    generalize deliver bus s limit = r
    obtain ⟨_ | entries, s'⟩ := r
    · exact ⟨rfl, rfl⟩
    · exact ⟨rfl, rfl⟩

/-- The ledger of a run. -/
structure Accounted (h : Entries Time) (s : State Time) : Prop where
  entries : (acceptedIn h).Perm (drainedIn h ++ (queued s.streams ++ shedIn h))
  ordinals : (acceptedIn h).map Entry.ordinal = List.range' 1 s.ordinal
  shed : s.health.counters .queuedShed = (shedIn h).length
  sheddable : ∀ e ∈ shedIn h, e.record.envelope.hookClass.sheddable = true
  accepted : numAccepted h = (acceptedIn h).length
  records : h.flatMap (fun r => r.2.1.delivered) = (drainedIn h).map Entry.record

variable {h : Entries Time}

theorem Accounted.drained (ha : Accounted h s) : numDrained h = (drainedIn h).length := by
  rw [← length_map (f := Entry.record), ← ha.records, length_flatMap]
  rfl

theorem Accounted.accepted_nodup (ha : Accounted h s) :
    ((acceptedIn h).map Entry.ordinal).Nodup := by
  rw [ha.ordinals]
  exact nodup_range'

/-- What was drained, what is queued and what was shed share no entry. -/
theorem Accounted.fates_nodup (ha : Accounted h s) :
    ((drainedIn h ++ (queued s.streams ++ shedIn h)).map Entry.ordinal).Nodup :=
  (ha.entries.map Entry.ordinal).nodup_iff.mp ha.accepted_nodup

theorem Accounted.next {bus : HookBus Time} (ha : Accounted h s) (c : Call Time) :
    Accounted (h ++ [(c, (step bus s c).1)]) (step bus s c).2 := by
  have hqueued : ((queued s.streams).map Entry.ordinal).Nodup := by
    have hall := ha.fates_nodup
    rw [map_append, map_append] at hall
    exact (nodup_append.mp (nodup_append.mp hall).2.1).1
  obtain ⟨hentries, hordinals, hordinal, hshed, hsheddable⟩ := step_conserves bus hqueued c
  obtain ⟨haccepts, hdelivered⟩ := step_answer bus s c
  generalize step bus s c = r at hentries hordinals hordinal hshed hsheddable haccepts hdelivered ⊢
  obtain ⟨⟨answer, m⟩, s'⟩ := r
  dsimp only at hentries hordinals hordinal hshed hsheddable haccepts hdelivered ⊢
  have hacc : acceptedIn (h ++ [(c, (answer, m))]) = acceptedIn h ++ m.accepted := by
    simp [acceptedIn]
  have hdrain : drainedIn (h ++ [(c, (answer, m))]) = drainedIn h ++ m.drained := by
    simp [drainedIn]
  have hvict : shedIn (h ++ [(c, (answer, m))]) = shedIn h ++ m.shed := by simp [shedIn]
  refine ⟨?_, ?_, ?_, ?_, ?_, ?_⟩
  · rw [hacc, hdrain, hvict]
    have hcount := fun e => hentries.count_eq e
    have hold := fun e => ha.entries.count_eq e
    rw [perm_iff_count]
    intro e
    have hc := hcount e
    have ho := hold e
    simp only [count_append] at hc ho ⊢
    omega
  · rw [hacc, map_append, ha.ordinals, hordinals, hordinal, Nat.add_comm s.ordinal 1]
    exact List.range'_append_1
  · rw [hvict, hshed, ha.shed, length_append]
  · intro e he
    rw [hvict, mem_append] at he
    rcases he with he | he
    · exact ha.sheddable e he
    · exact hsheddable e he
  · rw [hacc, length_append, ← ha.accepted, ← haccepts]
    by_cases hanswer : answer.accepts = true
    · simp [numAccepted, hanswer]
    · simp [numAccepted, hanswer]
  · rw [hdrain, map_append, ← ha.records, ← hdelivered]
    simp

theorem accounted_initial : Accounted [] (State.initial : State Time) := by
  refine ⟨List.Perm.refl _, rfl, rfl, ?_, rfl, rfl⟩
  intro e he
  cases he

theorem accounted_run (bus : HookBus Time) (calls : List (Call Time)) :
    Accounted (run (step bus) .initial calls).1 (run (step bus) .initial calls).2 :=
  run_induction accounted_initial (fun _ _ c ha => ha.next c) calls

/-- A call of `accept` that does not report an accepted event. -/
theorem accept_refused_streams (bus : HookBus Time) (s : State Time) (event : HookEvent)
    (context : Option HookIngressContext) (clock : Option Time)
    (h : (Answer.admission (accept bus s event context clock).1).accepts = false) :
    (accept bus s event context clock).2.streams = s.streams := by
  have hadmits := admit_admits bus s event context clock
  unfold accept at h ⊢
  dsimp only at h ⊢
  generalize admitEvent bus s event context clock = r at hadmits h ⊢
  cases hadmits with
  | refused e health hhealth => rfl
  | duplicate now => rfl
  | accepted => simp [Answer.accepts, Acceptance.admission, Except.map] at h

/-- Over any calls: the events reported as accepted are those delivered, those queued and
    those the shed counter counts; entry by entry, the accepted ones (told apart by their
    ordinals) are delivered at most once, queued or shed; no guard or command is shed; and a
    call of `accept` that reports anything else than an accepted event leaves the streams with
    their queues as they were. -/
theorem hook_bus_conserves (bus : HookBus Time) (calls : List (Call Time)) :
    let h := (run (step bus) .initial calls).1
    let s := (run (step bus) .initial calls).2
    numAccepted h =
      numDrained h + queuedCount s.streams + s.health.counters .queuedShed ∧
    numAccepted h = (acceptedIn h).length ∧
    h.flatMap (fun r => r.2.1.delivered) = (drainedIn h).map Entry.record ∧
    (acceptedIn h).Perm (drainedIn h ++ (queued s.streams ++ shedIn h)) ∧
    ((acceptedIn h).map Entry.ordinal).Nodup ∧
    ((drainedIn h).map Entry.ordinal).Nodup ∧
    (∀ e ∈ shedIn h, e.record.envelope.hookClass ≠ .guard ∧
      e.record.envelope.hookClass ≠ .command) ∧
    ∀ event context clock,
      (Answer.admission (accept bus s event context clock).1).accepts = false →
        (accept bus s event context clock).2.streams = s.streams := by
  have ha := accounted_run bus calls
  refine ⟨?_, ha.accepted, ?_, ha.entries, ha.accepted_nodup, ?_, ?_, ?_⟩
  · rw [ha.accepted, ha.drained, ha.shed, queuedCount_eq, ha.entries.length_eq,
      length_append, length_append, Nat.add_assoc]
  · exact ha.records
  · have hall := ha.fates_nodup
    rw [map_append] at hall
    exact (nodup_append.mp hall).1
  · intro e he
    have hshed := ha.sheddable e he
    constructor
    · intro hclass
      rw [hclass] at hshed
      cases hshed
    · intro hclass
      rw [hclass] at hshed
      cases hshed
  · exact accept_refused_streams bus _

end AConductor.Hook

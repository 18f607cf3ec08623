import AConductor.HookBus.Conservation

/-!
# Hook bus: the order of delivery on a stream

`_ordered` sorts the sequenced entries of a queue among themselves, and `accept` marks an
entry whose sequence is not above the high water mark of its stream
(`src/a_conductor/hook_bus.py:414-416,541-543`). The sequenced entries of a queue are
therefore always sorted, and an entry in the queue that is not marked is never below the
high water mark; so the order of what is delivered follows however drains cut the arrivals.
-/

namespace AConductor.Hook

open Machine List

variable {Time : Type}

/-- The sequence of the record of the entry. -/
def HookRecord.sequence (r : HookRecord) : Option Nat := r.envelope.sequence

instance : Std.Total Entry.sequenceLe := ⟨by
  intro a b
  unfold Entry.sequenceLe
  omega⟩

instance : IsTrans Entry Entry.sequenceLe := ⟨by
  intro a b c
  unfold Entry.sequenceLe
  omega⟩

/-- The sequenced entries of a refilled queue are those it was refilled with. -/
theorem filter_refill (queue sorted : List Entry)
    (h : sorted.length = (queue.filter Entry.sequenced).length)
    (hsequenced : ∀ e ∈ sorted, e.sequenced = true) :
    (refill queue sorted).filter Entry.sequenced = sorted := by
  induction queue generalizing sorted with
  | nil =>
    have hnil : sorted = [] := length_eq_zero_iff.mp (by simpa using h)
    simp [refill, hnil]
  | cons e queue ih =>
    by_cases he : e.sequenced = true
    · rw [filter_cons_of_pos he, length_cons] at h
      obtain ⟨x, rest, rfl⟩ := exists_cons_of_length_eq_add_one h
      rw [length_cons] at h
      have hrest := ih rest (by omega) fun e he => hsequenced e (mem_cons_of_mem _ he)
      have hx := hsequenced x mem_cons_self
      have hrefill : refill (e :: queue) (x :: rest) = x :: refill queue rest := by
        simp [refill, he]
      rw [hrefill, filter_cons_of_pos hx, hrest]
    · rw [filter_cons_of_neg he] at h
      have hrefill : refill (e :: queue) sorted = e :: refill queue sorted := by simp [refill, he]
      rw [hrefill, filter_cons_of_neg he]
      exact ih sorted h hsequenced

/-- The sequenced entries of the queue stand in the order of their sequences. -/
def InSequence (queue : List Entry) : Prop :=
  (queue.filter Entry.sequenced).Pairwise Entry.sequenceLe

theorem inSequence_ordered (queue : List Entry) : InSequence (ordered queue) := by
  unfold InSequence ordered
  have hperm := perm_insertionSort Entry.sequenceLe (queue.filter Entry.sequenced)
  rw [filter_refill _ _ hperm.length_eq]
  · exact pairwise_insertionSort _ _
  · intro e he
    exact (mem_filter.mp (hperm.mem_iff.mp he)).2

theorem InSequence.sublist {queue queue' : List Entry} (h : InSequence queue)
    (hsub : queue'.Sublist queue) : InSequence queue' :=
  List.Pairwise.sublist (hsub.filter _) h

theorem InSequence.head_le {e : Entry} {queue : List Entry} (h : InSequence (e :: queue))
    {a : Entry} (ha : a ∈ queue) {p q : Nat} (hp : e.record.sequence = some p)
    (hq : a.record.sequence = some q) : p ≤ q := by
  have hp' : e.record.envelope.sequence = some p := hp
  have hq' : a.record.envelope.sequence = some q := hq
  have hsequenced : e.sequenced = true := by simp [Entry.sequenced, hp']
  unfold InSequence at h
  rw [filter_cons_of_pos hsequenced] at h
  have hmem : a ∈ queue.filter Entry.sequenced :=
    mem_filter.mpr ⟨ha, by simp [Entry.sequenced, hq']⟩
  have hle := (pairwise_cons.mp h).1 a hmem
  unfold Entry.sequenceLe Entry.sequenceKey at hle
  rw [hp', hq'] at hle
  simp only [Option.getD_some] at hle
  omega

/-- What `accept` does to one stream, as looked up before and after: nothing; some of its
    entries give way, with the stream when it has ended; or, when the event is for this
    stream, the entry joins its queue. -/
inductive Arrives (entered : Prop) : Option Stream → Option Stream → Prop where
  | kept (found : Option Stream) : Arrives entered found found
  | shrunk {stream : Stream} {queue : List Entry} (sub : queue.Sublist stream.queue) :
      Arrives entered (some stream) (some { stream with queue := queue })
  | gone {stream : Stream} (ended : stream.ended = true) : Arrives entered (some stream) none
  | queued {found : Option Stream} {stream : Stream} {queue : List Entry} {entry : Entry}
      (enters : entered)
      (opened : found = some stream ∨ found = none ∧ stream.queue = [] ∧ stream.highWater = none)
      (live : stream.ended = false) (sub : queue.Sublist stream.queue)
      (marked : entry.record.markers = [] → inverted entry.record.envelope stream = false) :
      Arrives entered found (some { stream with queue := ordered (queue ++ [entry]) })

/-- Entries that give way leave the queue of a stream; the rest of it stays. -/
theorem Shed.get? {streams room : Streams} {victims : List Entry} (h : Shed streams victims room)
    (key : StreamKey) :
    (streams.get? key = none ∧ room.get? key = none) ∨
    ∃ stream queue, streams.get? key = some stream ∧ queue.Sublist stream.queue ∧
      room.get? key = some { stream with queue := queue } := by
  induction h with
  | done streams =>
    cases hfound : streams.get? key with
    | none => exact .inl ⟨rfl, rfl⟩
    | some stream => exact .inr ⟨stream, stream.queue, rfl, List.Sublist.refl _, rfl⟩
  | @drop streams room victims c hstream hqueued hsheddable hrest ih =>
    have hset : (dropEntry streams c).get? key = if key = c.key then
        some { c.stream with queue := c.stream.queue.filter fun e => e.ordinal ≠ c.entry.ordinal }
        else streams.get? key := Dict.get?_set _ _ _ _
    by_cases hkey : key = c.key
    · rw [if_pos hkey] at hset
      rw [hset] at ih
      rcases ih with ⟨hnone, -⟩ | ⟨stream, queue, hsome, hsub, hroom⟩
      · cases hnone
      · cases hsome
        have hfound : streams.get? key = some c.stream := by
          rw [hkey]
          exact Dict.mem_iff_get?.mp hstream
        exact .inr ⟨c.stream, queue, hfound, hsub.trans filter_sublist, hroom⟩
    · rw [if_neg hkey] at hset
      rwa [hset] at ih

/-- The call is an `accept` for the stream. -/
def Enters (key : StreamKey) (c : Call Time) : Prop :=
  ∃ event context clock encoded, c = .accept event context clock ∧
    checkContext context = .valid key encoded

/-- The call ends the session of the stream. -/
def Retires (key : StreamKey) (c : Call Time) : Prop :=
  ∃ context encoded, c = .endSession context ∧ checkContext context = .valid key encoded

variable {stream : Stream} {delivered : List HookRecord} {key : StreamKey}
  {context : Option HookIngressContext} {found found' : Option Stream}

theorem inverted_false {envelope : Envelope} (h : inverted envelope stream = false) {q high : Nat}
    (hq : envelope.sequence = some q) (hhigh : stream.highWater = some high) : high < q := by
  unfold inverted at h
  rw [hq, hhigh] at h
  simpa using h

/-- The streams after an accepted event, under another key than its own or under its own. -/
theorem admitted_arrives {entered : Prop} {streams opened room : Streams} {key k : StreamKey}
    {l : Limits} {encoded : String} {victims : List Entry} {entry : Entry}
    (hentered : k = key → entered)
    (hopen : openStream l streams key encoded = some (stream, opened))
    (hlive : stream.ended = false) (hshed : Shed opened victims room)
    (hmarked : entry.record.markers = [] → inverted entry.record.envelope stream = false) :
    Arrives entered (streams.get? k)
      (((room.modify key fun stream => { stream with queue := ordered (stream.queue ++ [entry]) }).filter
        fun _ stream => !(stream.ended && stream.queue.isEmpty)).get? k) := by
  rw [Dict.get?_filter, Dict.get?_modify]
  -- what the opening of the stream leaves under the key
  have hopened : opened.get? k = if k = key then some stream else streams.get? k := by
    unfold openStream at hopen
    split at hopen
    · rename_i found hget
      cases hopen
      by_cases hk : k = key
      · rw [if_pos hk, hk, hget]
      · rw [if_neg hk]
    · split at hopen
      · cases hopen
      · cases hopen
        exact Dict.get?_set _ _ _ _
  by_cases hk : k = key
  · subst hk
    rw [if_pos rfl] at hopened ⊢
    have hfound : streams.get? k = some stream ∨
        streams.get? k = none ∧ stream.queue = [] ∧ stream.highWater = none := by
      unfold openStream at hopen
      split at hopen
      · rename_i found hget
        cases hopen
        exact .inl hget
      · rename_i hget
        split at hopen
        · cases hopen
        · cases hopen
          exact .inr ⟨hget, rfl, rfl⟩
    rcases hshed.get? k with ⟨hnone, -⟩ | ⟨before, queue, hsome, hsub, hroom⟩
    · rw [hnone] at hopened
      cases hopened
    · rw [hsome] at hopened
      cases hopened
      rw [hroom, Option.map_some, Option.filter_some, if_pos (by simp [hlive])]
      have harrives : Arrives entered (streams.get? k)
          (some { stream with queue := ordered (queue ++ [entry]) }) :=
        .queued (hentered rfl) hfound hlive hsub hmarked
      exact harrives
  · rw [if_neg hk] at hopened ⊢
    rcases hshed.get? k with ⟨hnone, hgone⟩ | ⟨before, queue, hsome, hsub, hroom⟩
    · rw [hgone, ← hopened, hnone]
      exact .kept none
    · rw [hroom, ← hopened, hsome, Option.filter_some]
      by_cases hdead : (before.ended && queue.isEmpty) = true
      · rw [if_neg (by simpa using hdead)]
        exact .gone (Bool.and_eq_true_iff.mp hdead).1
      · rw [if_pos (by rw [Bool.not_eq_true] at hdead; rw [hdead]; rfl)]
        exact .shrunk hsub

theorem admitAt_arrives (bus : HookBus Time) (s : State Time) (envelope : Envelope)
    (instant wireSize : Nat) (key : StreamKey) (encoded : String) (now : Time) {k : StreamKey}
    {entered : Prop} (hentered : k = key → entered) :
    Arrives entered (s.streams.get? k)
      ((admitAt bus s envelope instant wireSize key encoded now).2.streams.get? k) := by
  unfold admitAt
  dsimp only
  split
  · exact .kept _
  · split
    · exact .kept _
    · split
      · exact .kept _
      · rename_i stream opened hopen
        split
        · exact .kept _
        · rename_i hlive
          split
          · exact .kept _
          · rename_i victims room hroom
            refine admitted_arrives hentered hopen (by simpa using hlive) (makeRoom_some hroom).1 ?_
            intro hmarkers
            cases hinverted : inverted envelope stream with
            | false => rfl
            | true =>
              simp only [hinverted, if_true] at hmarkers
              cases hmarkers

/-- What `accept` does to the stream `k`. -/
theorem admitEvent_arrives (bus : HookBus Time) (s : State Time) (event : HookEvent)
    (context : Option HookIngressContext) (clock : Option Time) (k : StreamKey) :
    Arrives (Enters k (.accept event context clock)) (s.streams.get? k)
      ((admitEvent bus s event context clock).2.streams.get? k) := by
  have henters : ∀ key encoded, checkContext context = .valid key encoded → k = key →
      Enters k (.accept event context clock) := by
    rintro key encoded hcontext rfl
    exact ⟨event, context, clock, encoded, rfl, hcontext⟩
  unfold admitEvent
  split
  · exact .kept _
  · split
    · exact .kept _
    · exact .kept _
    · rename_i key encoded hcontext
      split
      · exact .kept _
      · exact admitAt_arrives _ _ _ _ _ _ _ _ (henters key encoded hcontext)

/-- The end of its session takes a stream away or marks it. -/
theorem endSession_own (s : State Time) {encoded : String}
    (hcontext : checkContext context = .valid key encoded)
    (hstream : (endSession s context).2.streams.get? key = some stream) :
    ∃ before, s.streams.get? key = some before ∧ stream = { before with ended := true } := by
  unfold endSession at hstream
  rw [hcontext] at hstream
  cases hget : s.streams.get? key with
  | none =>
    simp only [hget] at hstream
    cases hstream
  | some before =>
    simp only [hget] at hstream
    split at hstream
    · rw [Dict.get?_erase, if_pos rfl] at hstream
      cases hstream
    · rw [Dict.get?_set_self] at hstream
      exact ⟨before, rfl, (Option.some.inj hstream).symm⟩

/-- The end of another session leaves a stream alone. -/
theorem endSession_other (s : State Time) {k : StreamKey}
    (hother : ∀ encoded, checkContext context ≠ .valid k encoded) :
    (endSession s context).2.streams.get? k = s.streams.get? k := by
  unfold endSession
  cases hcontext : checkContext context with
  | invalid => rfl
  | oversized => rfl
  | valid key encoded =>
    have hk : k ≠ key := by
      rintro rfl
      exact hother encoded hcontext
    cases hget : s.streams.get? key with
    | none => simp only [hget]
    | some before =>
      simp only [hget]
      split
      · rw [Dict.get?_erase, if_neg hk]
      · rw [Dict.get?_set, if_neg hk]

/-- The loop of `drain`, with the streams its entries come from. -/
def deliveries : Nat → Streams → List (StreamKey × Entry)
  | 0, _ => []
  | bound + 1, streams =>
    match (heads streams).argmin Candidate.turn with
    | none => []
    | some c => (c.key, c.entry) :: deliveries bound (takeHead streams c)

/-- The entries a call delivers, with their streams. -/
def deliveredBy (bus : HookBus Time) (s : State Time) : Call Time → List (StreamKey × Entry)
  | .drain limit =>
    ((drainBound bus.limits limit).map fun bound => deliveries bound s.streams).getD []
  | _ => []

/-- Everything the calls deliver, in order, with the streams. -/
def deliveredOver (bus : HookBus Time) (calls : List (Call Time)) : List (StreamKey × Entry) :=
  (run (fun s c => (deliveredBy bus s c, (step bus s c).2)) .initial calls).1.flatMap Prod.snd

/-- The records the calls deliver on one stream, in order. -/
def recordsOn (key : StreamKey) (delivered : List (StreamKey × Entry)) : List HookRecord :=
  (delivered.filter fun d => d.1 = key).map fun d => d.2.record

@[simp] theorem recordsOn_append (key : StreamKey) (d d' : List (StreamKey × Entry)) :
    recordsOn key (d ++ d') = recordsOn key d ++ recordsOn key d' := by
  simp [recordsOn]

/-- A record that follows another with a greater sequence is marked. -/
def Follows (a b : HookRecord) : Prop :=
  ∀ p q, a.sequence = some p → b.sequence = some q → q < p → .sequenceInversion ∈ b.markers

/-- A record that is not marked is not below the mark. -/
def AboveMark (high : Option Nat) (r : HookRecord) : Prop :=
  r.markers = [] → ∀ q h, r.sequence = some q → high = some h → h ≤ q

/-- What holds of a stream that is looked up, after `delivered` went out on it. -/
structure InOrder (retired : Prop) (delivered : List HookRecord) (found : Option Stream) :
    Prop where
  follows : delivered.Pairwise Follows
  absent : found = none → retired ∨ delivered = []
  ended : ∀ stream, found = some stream → stream.ended = true → retired
  sequence : ∀ stream, found = some stream → InSequence stream.queue
  high : ∀ stream, found = some stream → ∀ r ∈ delivered, ∀ p, r.sequence = some p →
    ∃ h, stream.highWater = some h ∧ p ≤ h
  above : ∀ stream, found = some stream → ∀ e ∈ stream.queue, AboveMark stream.highWater e.record

theorem inOrder_initial (retired : Prop) : InOrder retired [] none := by
  refine ⟨List.Pairwise.nil, fun _ => .inr rfl, ?_, ?_, ?_, ?_⟩
  all_goals
    intro stream hstream
    cases hstream

/-- The same once the session has ended. -/
theorem InOrder.retire {retired : Prop}
    (h : InOrder retired delivered found)
    (hfound : ∀ stream, found' = some stream →
      ∃ before, found = some before ∧ stream = { before with ended := true }) :
    InOrder True delivered found' := by
  refine ⟨h.follows, fun _ => .inl trivial, fun _ _ _ => trivial, ?_, ?_, ?_⟩
  · intro stream hstream
    obtain ⟨before, hbefore, rfl⟩ := hfound stream hstream
    exact h.sequence before hbefore
  · intro stream hstream
    obtain ⟨before, hbefore, rfl⟩ := hfound stream hstream
    exact h.high before hbefore
  · intro stream hstream
    obtain ⟨before, hbefore, rfl⟩ := hfound stream hstream
    exact h.above before hbefore

/-- An arrival keeps the order, as long as nothing arrives for a session that has ended. -/
theorem InOrder.arrives {retired entered : Prop} (h : InOrder retired delivered found)
    (harrives : Arrives entered found found') (hlive : entered → ¬ retired) :
    InOrder retired delivered found' := by
  cases harrives with
  | kept => exact h
  | gone ended =>
    refine ⟨h.follows, fun _ => .inl (h.ended _ rfl ended), ?_, ?_, ?_, ?_⟩
    all_goals
      intro stream hstream
      cases hstream
  | @shrunk stream queue sub =>
    refine ⟨h.follows, nofun, ?_, ?_, ?_, ?_⟩
    · rintro _ ⟨⟩
      exact h.ended stream rfl
    · rintro _ ⟨⟩
      exact (h.sequence stream rfl).sublist sub
    · rintro _ ⟨⟩
      exact h.high stream rfl
    · rintro _ ⟨⟩ e he
      exact h.above stream rfl e (sub.subset he)
  | @queued _ stream queue entry enters opened live sub marked =>
    refine ⟨h.follows, nofun, ?_, ?_, ?_, ?_⟩
    · rintro _ ⟨⟩ hended
      exact absurd (live.symm.trans hended) nofun
    · rintro _ ⟨⟩
      exact inSequence_ordered _
    · rintro _ ⟨⟩ r hr p hp
      rcases opened with hfound | ⟨hfound, -, -⟩
      · exact h.high stream hfound r hr p hp
      · rcases h.absent hfound with hretired | hnil
        · exact absurd hretired (hlive enters)
        · rw [hnil] at hr
          cases hr
    · rintro _ ⟨⟩ e he
      rcases mem_append.mp ((ordered_perm _).mem_iff.mp he) with hold | hnew
      · rcases opened with hfound | ⟨-, hempty, -⟩
        · exact h.above stream hfound e (sub.subset hold)
        · rw [hempty] at sub
          rw [sublist_nil.mp sub] at hold
          cases hold
      · rw [mem_singleton] at hnew
        subst hnew
        intro hunmarked q high hq hhigh
        exact (inverted_false (marked hunmarked) hq hhigh).le

/-- The mark after the head went out: at least the old one and the sequence of the head. -/
theorem raiseHighWater_ge (high : Option Nat) (entry : Entry) {p : Nat}
    (h : entry.record.sequence = some p ∨ ∃ h, high = some h ∧ p ≤ h) :
    ∃ h, raiseHighWater high entry = some h ∧ p ≤ h := by
  unfold raiseHighWater
  cases hsequence : entry.record.envelope.sequence with
  | none =>
    rcases h with h | h
    · exact absurd (hsequence.symm.trans h) nofun
    · exact h
  | some q =>
    refine ⟨_, rfl, ?_⟩
    rcases h with h | ⟨old, rfl, hle⟩
    · have hqp : q = p := Option.some.inj (hsequence.symm.trans h)
      subst hqp
      cases high with
      | none => exact Nat.le_refl _
      | some old => exact Nat.le_max_right _ _
    · exact hle.trans (Nat.le_max_left _ _)

/-- The mark after the head went out: the old one or the sequence of the head. -/
theorem raiseHighWater_eq {high : Option Nat} {entry : Entry} {m : Nat}
    (h : raiseHighWater high entry = some m) : high = some m ∨ entry.record.sequence = some m := by
  unfold raiseHighWater at h
  cases hsequence : entry.record.envelope.sequence with
  | none =>
    rw [hsequence] at h
    exact .inl h
  | some q =>
    rw [hsequence] at h
    cases high with
    | none => exact .inr (hsequence.trans h)
    | some old =>
      have hmax : max old q = m := Option.some.inj h
      rcases Nat.le_total old q with hle | hle
      · rw [Nat.max_eq_right hle] at hmax
        exact .inr (hsequence.trans (congrArg some hmax))
      · rw [Nat.max_eq_left hle] at hmax
        exact .inl (congrArg some hmax)

theorem InOrder.take {retired : Prop} {e : Entry} {queue : List Entry}
    (h : InOrder retired delivered (some stream)) (hqueue : stream.queue = e :: queue) :
    InOrder retired (delivered ++ [e.record])
      (if stream.ended && queue.isEmpty then none
        else some { stream with queue, highWater := raiseHighWater stream.highWater e }) := by
  have hsequence : InSequence (e :: queue) := hqueue ▸ h.sequence stream rfl
  have habove : ∀ a ∈ e :: queue, AboveMark stream.highWater a.record := hqueue ▸ h.above stream rfl
  refine ⟨?_, ?_, ?_, ?_, ?_, ?_⟩
  · refine pairwise_append.mpr ⟨h.follows, pairwise_singleton _ _, ?_⟩
    intro r hr b hb p q hp hq hlt
    rw [mem_singleton] at hb
    subst hb
    obtain ⟨high, hhigh, hle⟩ := h.high stream rfl r hr p hp
    cases hmarkers : e.record.markers with
    | cons marker _ =>
      cases marker
      exact mem_cons_self
    | nil =>
      have hge := habove e mem_cons_self hmarkers q high hq hhigh
      omega
  · intro hnone
    left
    by_cases hlast : (stream.ended && queue.isEmpty) = true
    · exact h.ended stream rfl (Bool.and_eq_true_iff.mp hlast).1
    · rw [if_neg hlast] at hnone
      cases hnone
  all_goals
    intro after hafter
    by_cases hlast : (stream.ended && queue.isEmpty) = true
    · rw [if_pos hlast] at hafter
      cases hafter
    rw [if_neg hlast] at hafter
    cases hafter
  · exact h.ended stream rfl
  · exact hsequence.sublist (sublist_cons_self _ _)
  · intro r hr p hp
    apply raiseHighWater_ge
    rcases mem_append.mp hr with hr | hr
    · exact .inr (h.high stream rfl r hr p hp)
    · rw [mem_singleton] at hr
      subst hr
      exact .inl hp
  · intro a ha hunmarked q m hq hm
    rcases raiseHighWater_eq hm with hold | hnew
    · exact habove a (mem_cons_of_mem _ ha) hunmarked q m hq hold
    · exact hsequence.head_le ha hnew hq

/-- A drain keeps the order on every stream. -/
theorem InOrder.deliveries {retired : Prop} (bound : Nat) {streams : Streams}
    (h : InOrder retired delivered (streams.get? key)) :
    InOrder retired (delivered ++ recordsOn key (deliveries bound streams))
      ((drainLoop bound streams).2.get? key) := by
  induction bound generalizing streams delivered with
  | zero => simpa [Hook.deliveries, drainLoop, recordsOn] using h
  | succ bound ih =>
    unfold Hook.deliveries drainLoop
    cases hmin : (heads streams).argmin Candidate.turn with
    | none => simpa [recordsOn] using h
    | some c =>
      obtain ⟨hmem, hqueue⟩ := mem_heads (argmin_mem hmin)
      have hget := Dict.mem_iff_get?.mp hmem
      -- the stream that is looked up after its head, or another's, went out
      have htake : (takeHead streams c).get? key =
          if key = c.key then
            if c.stream.ended && c.stream.queue.tail.isEmpty then none
            else some { c.stream with
              queue := c.stream.queue.tail
              highWater := raiseHighWater c.stream.highWater c.entry }
          else streams.get? key := by
        unfold takeHead
        dsimp only
        split
        · rw [Dict.get?_erase]
        · rw [Dict.get?_set]
      by_cases hkey : key = c.key
      · subst hkey
        rw [hget] at h
        rw [if_pos rfl] at htake
        have hnext := ih (htake ▸ h.take hqueue)
        simpa [recordsOn] using hnext
      · rw [if_neg hkey] at htake
        have hnext := ih (htake ▸ h)
        have hother : ¬ c.key = key := fun heq => hkey heq.symm
        simpa [recordsOn, hother] using hnext

/-- No event comes in for a session that has ended. -/
def NotReintroduced (key : StreamKey) (calls : List (Call Time)) : Prop :=
  calls.Pairwise fun c d => Retires key c → ¬ Enters key d

theorem step_inOrder (bus : HookBus Time) {s : State Time} {retired : Prop}
    (h : InOrder retired delivered (s.streams.get? key)) (c : Call Time)
    (hlive : Enters key c → ¬ retired) :
    InOrder (retired ∨ Retires key c) (delivered ++ recordsOn key (deliveredBy bus s c))
      ((step bus s c).2.streams.get? key) := by
  have same : ∀ {found : Option Stream} {delivered : List HookRecord},
      InOrder retired delivered found → ¬ Retires key c →
      InOrder (retired ∨ Retires key c) delivered found := by
    intro found delivered h hnot
    rwa [propext (or_iff_left hnot)]
  cases c with
  | accept event context clock =>
    rw [show recordsOn key (deliveredBy bus s (.accept event context clock)) = [] from rfl,
      append_nil]
    apply same
    · exact h.arrives (admitEvent_arrives bus s event context clock key) hlive
    · rintro ⟨_, _, heq, _⟩
      cases heq
  | endSession context =>
    rw [show recordsOn key (deliveredBy bus s (.endSession context)) = [] from rfl,
      append_nil]
    have hstep : (step bus s (.endSession context)).2 = (endSession s context).2 := rfl
    rw [hstep]
    by_cases hretires : Retires key (Call.endSession context : Call Time)
    · rw [propext (iff_true_intro (.inr hretires : retired ∨ _))]
      obtain ⟨_, encoded, heq, hcontext⟩ := hretires
      cases heq
      exact h.retire fun stream hstream => endSession_own s hcontext hstream
    · rw [endSession_other s fun encoded hcontext => hretires ⟨context, encoded, rfl, hcontext⟩]
      exact same h hretires
  | drain limit =>
    apply same
    · dsimp only [step, deliveredBy]
      unfold deliver
      cases drainBound bus.limits limit with
      | none => simpa [recordsOn] using h
      | some bound => exact h.deliveries bound
    · rintro ⟨_, _, heq, _⟩
      cases heq

theorem deliveredOver_snoc (bus : HookBus Time) (calls : List (Call Time)) (c : Call Time) :
    deliveredOver bus (calls ++ [c]) = deliveredOver bus calls ++
      deliveredBy bus (run (step bus) .initial calls).2 c := by
  have hstate : ∀ calls : List (Call Time),
      (run (fun s c => (deliveredBy bus s c, (step bus s c).2)) .initial calls).2 =
        (run (step bus) .initial calls).2 := by
    intro calls
    generalize (State.initial : State Time) = s
    induction calls generalizing s with
    | nil => rfl
    | cons c cs ih => exact ih _
  unfold deliveredOver
  rw [run_snoc, hstate, flatMap_append, flatMap_singleton]

/-- Over any calls that bring no session back, every stream is in order. -/
theorem deliveredOver_inOrder (bus : HookBus Time) (key : StreamKey) (calls : List (Call Time))
    (hretired : NotReintroduced key calls) :
    InOrder (∃ c ∈ calls, Retires key c) (recordsOn key (deliveredOver bus calls))
      ((run (step bus) .initial calls).2.streams.get? key) := by
  induction calls using List.reverseRecOn with
  | nil => exact inOrder_initial _
  | append_singleton calls c ih =>
    obtain ⟨hcalls, -, hlast⟩ := pairwise_append.mp hretired
    have hlive : Enters key c → ¬ ∃ d ∈ calls, Retires key d := by
      rintro henters ⟨d, hd, hretires⟩
      exact hlast d hd c mem_cons_self hretires henters
    have hnext := step_inOrder bus (ih hcalls) c hlive
    rw [deliveredOver_snoc, recordsOn_append, run_snoc]
    have hsome : (∃ d ∈ calls ++ [c], Retires key d) ↔
        (∃ d ∈ calls, Retires key d) ∨ Retires key c := by
      simp only [mem_append, mem_singleton, or_and_right, exists_or, exists_eq_left]
    rw [propext hsome]
    exact hnext

/-- A bus that reads the sequence, the number of the event and its instant from three bytes. -/
def threeByteBus : HookBus Nat :=
  .new .hard (fun now seen => now - seen < 1800) fun
    | [sequence, event, instant] =>
      .ok (⟨.command, toString event, "s", some sequence.toNat, none⟩, instant.toNat)
    | _ => .error invalid

def threeByteAccept (bytes : List UInt8) : Call Nat :=
  .accept (.wire bytes) (some ⟨some "s", some "d", some "i"⟩) (some 0)

/-- Two arrivals, one delivered, and a late one with the sequence that went out. -/
def splitCalls : List (Call Nat) :=
  [threeByteAccept [2, 1, 0], threeByteAccept [1, 2, 0], .drain (.count 1),
    threeByteAccept [1, 3, 0], .drain .unlimited]

/-- Delivering some entries and then some more is delivering all of them at once. -/
theorem drainLoop_add (a b : Nat) (streams : Streams) :
    drainLoop (a + b) streams =
      ((drainLoop a streams).1 ++ (drainLoop b (drainLoop a streams).2).1,
        (drainLoop b (drainLoop a streams).2).2) := by
  induction a generalizing streams with
  | zero => rw [Nat.zero_add]; rfl
  | succ a ih =>
    rw [Nat.succ_add]
    cases hmin : (heads streams).argmin Candidate.turn with
    | none =>
      -- No stream has an entry left, and the second part finds the same streams.
      have hnone : ∀ n, drainLoop n streams = ([], streams) := by
        intro n
        cases n with
        | zero => rfl
        | succ n => simp only [drainLoop, hmin]
      simp only [hnone, append_nil]
    | some c =>
      simp only [drainLoop, hmin, ih (takeHead streams c), cons_append]

theorem drain_count {bus : HookBus Time} {s : State Time} {n : Nat}
    (h : n ≤ bus.limits.maxEvents) :
    drain bus s (.count n) =
      (.ok ((drainLoop n s.streams).1.map Entry.record),
        { s with streams := (drainLoop n s.streams).2 }) := by
  have hbound : drainBound bus.limits (.count n) = some n := by
    have hnonneg : ¬ (n : Int) < 0 := by omega
    simp only [drainBound, if_neg hnonneg, Int.toNat_natCast, min_eq_left h]
  simp only [drain, deliver, hbound, Except.map]

/-- In the state after any calls, draining `a` and then `b` records delivers what draining
    `a + b` delivers, in the same order, and leaves the same state, when the cap of a drain
    allows the sum. -/
theorem hook_bus_drain_splits (bus : HookBus Time) (calls : List (Call Time)) (a b : Nat)
    (hcap : a + b ≤ bus.limits.maxEvents) :
    let s := (run (step bus) .initial calls).2
    let first := drain bus s (.count a)
    let second := drain bus first.2 (.count b)
    let whole := drain bus s (.count (a + b : Nat))
    whole.2 = second.2 ∧
    ∃ early late, first.1 = .ok early ∧ second.1 = .ok late ∧ whole.1 = .ok (early ++ late) := by
  intro s first second whole
  have hfirst : first = _ := drain_count (by omega)
  have hsecond : second = _ := drain_count (by omega)
  have hwhole : whole = _ := drain_count hcap
  rw [drainLoop_add, map_append] at hwhole
  rw [hfirst] at hsecond
  refine ⟨?_, _, _, congrArg Prod.fst hfirst, congrArg Prod.fst hsecond, congrArg Prod.fst hwhole⟩
  rw [hwhole, hsecond]

theorem hook_bus_drain_splits_two :
    let s := (run (step threeByteBus) .initial (splitCalls.take 2)).2
    let first := drain threeByteBus s (.count (1 : Nat))
    let second := drain threeByteBus first.2 (.count (1 : Nat))
    let whole := drain threeByteBus s (.count (1 + 1 : Nat))
    whole.2 = second.2 ∧
    ∃ early late, first.1 = .ok early ∧ second.1 = .ok late ∧ whole.1 = .ok (early ++ late) :=
  hook_bus_drain_splits threeByteBus (splitCalls.take 2) 1 1 (by decide)

end AConductor.Hook

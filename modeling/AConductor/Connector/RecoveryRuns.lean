import AConductor.Connector.Recovery

namespace AConductor.Connector

/-- The stored state; an instance without a snapshot is stopped. -/
def RecoveryStore.state (s : RecoveryStore) : ConnectorRecoveryState :=
  (s.record.map ConnectorRecoveryRecord.state).getD .stopped

def RecoveryStore.suppressed (s : RecoveryStore) : Bool :=
  (s.record.map ConnectorRecoveryRecord.recoverySuppressed).getD false

def RecoveryStore.nextRetryAt (s : RecoveryStore) : Option ℚ :=
  s.record.bind ConnectorRecoveryRecord.nextRetryAt

/-- The start of the failure window and the failures in it. -/
def RecoveryStore.failures (s : RecoveryStore) : Option ℚ × Nat :=
  (s.record.bind ConnectorRecoveryRecord.failureWindowStartedAt,
    (s.record.map ConnectorRecoveryRecord.failureCount).getD 0)

/-- The events lead from one state to the other, each from where the one before it ended. -/
def PathFrom : ConnectorRecoveryState → List ConnectorRecoveryHistoryEvent →
    ConnectorRecoveryState → Prop
  | source, [], target => source = target
  | source, event :: events, target => event.fromState = source ∧ PathFrom event.toState events target

variable {event : ConnectorRecoveryHistoryEvent} {o : Observation} {s' : RecoveryStore}
  {c : RecoveryCall} {before middle : List RecoveryCall}

theorem PathFrom.snoc {source middle : ConnectorRecoveryState}
    {events : List ConnectorRecoveryHistoryEvent} (h : PathFrom source events middle)
    (hevent : event.fromState = middle) : PathFrom source (events ++ [event]) event.toState := by
  induction events generalizing source with
  | nil => exact ⟨hevent.trans h.symm, rfl⟩
  | cons first events ih => exact ⟨h.1, ih h.2⟩

section Current

variable (s : RecoveryStore) (now : ℚ)

@[simp] theorem current_state : (s.current now).state = s.state := by
  unfold RecoveryStore.current RecoveryStore.state
  cases s.record <;> rfl

@[simp] theorem current_suppressed : (s.current now).recoverySuppressed = s.suppressed := by
  unfold RecoveryStore.current RecoveryStore.suppressed
  cases s.record <;> rfl

@[simp] theorem current_nextRetryAt : (s.current now).nextRetryAt = s.nextRetryAt := by
  unfold RecoveryStore.current RecoveryStore.nextRetryAt
  cases s.record <;> rfl

@[simp] theorem current_failures :
    ((s.current now).failureWindowStartedAt, (s.current now).failureCount) = s.failures := by
  unfold RecoveryStore.current RecoveryStore.failures
  cases s.record <;> rfl

end Current

section Save

variable (s : RecoveryStore) (record : ConnectorRecoveryRecord)
  (event : ConnectorRecoveryHistoryEvent)

@[simp] theorem save_state : (s.save record event).state = record.state := rfl

@[simp] theorem save_suppressed : (s.save record event).suppressed = record.recoverySuppressed := rfl

@[simp] theorem save_nextRetryAt : (s.save record event).nextRetryAt = record.nextRetryAt := rfl

@[simp] theorem save_failures :
    (s.save record event).failures = (record.failureWindowStartedAt, record.failureCount) := rfl

end Save

/-- What a start needs: it is not suppressed, autostart is on, the connector is known to be stopped
    and not degraded, and no retry is due later. -/
structure Permits (s : RecoveryStore) (o : Observation) : Prop where
  clock : 0 ≤ o.now
  notSuppressed : s.suppressed = false
  autostart : o.autostart = true
  health : o.health = .stopped
  notDegraded : s.state ≠ .degraded
  due : ∀ t ∈ s.nextRetryAt, t ≤ o.now

theorem Permits.not_stopped {s : RecoveryStore} (h : Permits s o) (hs : s.suppressed = true) :
    False := by
  rw [h.notSuppressed] at hs
  cases hs

/-- A manual start, or an observation of a ready connector that is not cancelled. -/
def RecoveryCall.Resets : RecoveryCall → Prop
  | .suppress _ => False
  | .manualStart now => 0 ≤ now
  | .observe o => 0 ≤ o.now ∧ o.cancelled = false ∧ o.health = .ready

instance : DecidablePred RecoveryCall.Resets := fun c => match c with
  | .suppress _ => inferInstanceAs (Decidable False)
  | .manualStart now => inferInstanceAs (Decidable (0 ≤ now))
  | .observe o => inferInstanceAs (Decidable (0 ≤ o.now ∧ o.cancelled = false ∧ o.health = .ready))

/-- An event from the stored state to the state of a record. -/
def Joins (s : RecoveryStore) (record : ConnectorRecoveryRecord)
    (event : ConnectorRecoveryHistoryEvent) : Prop :=
  event.fromState = s.state ∧ event.toState = record.state

/-- The record that an attempt ends with. -/
inductive Ends (p : RecoveryPolicy) (o : Observation) (recovering : ConnectorRecoveryRecord) :
    Attempt → ConnectorRecoveryRecord → Prop where
  | failed (text : String) : Ends p o recovering .failed (p.failedRecord recovering o.now text)
  | cancelled : Ends p o recovering .cancelled
      { recovering with state := .stopped, nextRetryAt := none, updatedAt := o.now }
  | ready : Ends p o recovering .ready
      { recovering.nowReady o.finished with restartCount := recovering.restartCount + 1 }

/-- What a call does: nothing, or one save, or a start between two saves. -/
inductive Change (p : RecoveryPolicy) (s : RecoveryStore) :
    RecoveryCall → Option Attempt → RecoveryStore → Prop where
  | kept {c : RecoveryCall} (hfresh : c.Resets → s.failures = (none, 0))
      (hstop : ∀ now, c = .suppress now → now < 0) : Change p s c none s
  | suppressed {now : ℚ} {event : ConnectorRecoveryHistoryEvent}
      (hevent : Joins s ((s.current now).suppressed now) event) :
      Change p s (.suppress now) none (s.save ((s.current now).suppressed now) event)
  | restarted {now : ℚ} {event : ConnectorRecoveryHistoryEvent} (hclock : 0 ≤ now)
      (hevent : Joins s ((s.current now).started now) event) :
      Change p s (.manualStart now) none (s.save ((s.current now).started now) event)
  | ready {o : Observation} {event : ConnectorRecoveryHistoryEvent}
      (hresets : (RecoveryCall.observe o).Resets)
      (hevent : Joins s ((s.current o.now).nowReady o.now) event) :
      Change p s (.observe o) none (s.save ((s.current o.now).nowReady o.now) event)
  | unknown {o : Observation} {event : ConnectorRecoveryHistoryEvent} (hhealth : o.health = .unknown)
      (hevent : Joins s (s.current o.now) event) :
      Change p s (.observe o) none (s.save (s.current o.now) event)
  | outage {o : Observation} {event : ConnectorRecoveryHistoryEvent}
      {lastReason : Option String} {lastExit : Option ℚ} (hhealth : o.health = .stopped)
      (hwhy : s.suppressed = true ∨ o.autostart = false)
      (hevent : event.fromState = s.state ∧ event.toState = .stopped) :
      Change p s (.observe o) none
        (s.save
          { s.current o.now with
            state := .stopped
            nextRetryAt := none
            lastExitReason := lastReason
            lastExitAt := lastExit
            updatedAt := o.now } event)
  | attempted {o : Observation} {text : String} {attempt : Attempt}
      {record : ConnectorRecoveryRecord} {opened closed : ConnectorRecoveryHistoryEvent}
      (hpermits : Permits s o)
      (hopened : Joins s ((s.current o.now).recovering o.now text) opened)
      (hends : Ends p o ((s.current o.now).recovering o.now text) attempt record)
      (hclosed : closed.fromState = .recovering ∧ closed.toState = record.state) :
      Change p s (.observe o) (some attempt)
        ((s.save ((s.current o.now).recovering o.now text) opened).save record closed)
  | clockFault {o : Observation} {text : String} {opened : ConnectorRecoveryHistoryEvent}
      (hpermits : Permits s o)
      (hopened : Joins s ((s.current o.now).recovering o.now text) opened) :
      Change p s (.observe o) (some .clockFault)
        (s.save ((s.current o.now).recovering o.now text) opened)

variable {p : RecoveryPolicy} {s : RecoveryStore}

theorem joins_current (now : ℚ) (record : ConnectorRecoveryRecord)
    (kind : RecoveryHistoryEventKind) (observedAt : ℚ) (text : Option String) :
    Joins s record (historyEvent (s.current now) record kind observedAt text) :=
  ⟨current_state s now, rfl⟩

theorem finishAttempt_change {text : String} {opened : ConnectorRecoveryHistoryEvent}
    (hpermits : Permits s o) (hopened : Joins s ((s.current o.now).recovering o.now text) opened) :
    let recovering := (s.current o.now).recovering o.now text
    let done := finishAttempt p recovering o (s.save recovering opened)
    Change p s (.observe o) done.1.attempt done.2 := by
  intro recovering done
  have hfailed (code : String) : Change p s (.observe o)
      (failedAttempt p recovering o.now code (s.save recovering opened)).1.attempt
      (failedAttempt p recovering o.now code (s.save recovering opened)).2 :=
    .attempted hpermits hopened (.failed code) ⟨rfl, rfl⟩
  show Change p s _ (finishAttempt p recovering o (s.save recovering opened)).1.attempt
    (finishAttempt p recovering o (s.save recovering opened)).2
  unfold finishAttempt
  split
  · exact hfailed _
  · exact hfailed _
  · exact .attempted hpermits hopened .cancelled ⟨rfl, rfl⟩
  · split
    · split
      · exact .clockFault hpermits hopened
      · exact .attempted hpermits hopened .ready ⟨rfl, rfl⟩
    · exact hfailed _

theorem observeStopped_change (hclock : 0 ≤ o.now) (hhealth : o.health = .stopped) :
    Change p s (.observe o) (observeStopped p (s.current o.now) o s).1.attempt
      (observeStopped p (s.current o.now) o s).2 := by
  have hkept : Change p s (.observe o) none s := by
    refine .kept (fun hresets => ?_) (fun _ h => nomatch h)
    rw [hresets.2.2] at hhealth
    cases hhealth
  unfold observeStopped
  split
  · rename_i hsuppressed
    unfold observeSuppressed
    split
    · exact hkept
    · split
      · exact hkept
      · exact .outage hhealth (.inl (by simpa using hsuppressed)) ⟨current_state _ _, rfl⟩
  · rename_i hsuppressed
    split
    · rename_i hautostart
      unfold observeManual
      split
      · exact hkept
      · split
        · exact hkept
        · exact .outage hhealth (.inr hautostart) ⟨current_state _ _, rfl⟩
    · rename_i hautostart
      split
      · exact hkept
      · rename_i hdegraded
        split
        · exact hkept
        · rename_i hdue
          split
          · exact hkept
          · unfold recover
            split
            · exact hkept
            · refine finishAttempt_change ⟨hclock, ?_, ?_, hhealth, ?_, ?_⟩
                (joins_current _ _ _ _ _)
              · simpa using hsuppressed
              · simpa using hautostart
              · simpa using hdegraded
              · intro t ht
                rw [current_nextRetryAt, ht] at hdue
                simpa using hdue

theorem recoveryStep_change (p : RecoveryPolicy) (s : RecoveryStore) (c : RecoveryCall) :
    Change p s c (recoveryStep p s c).1.attempt (recoveryStep p s c).2 := by
  cases c with
  | suppress now =>
    show Change p s _ (suppress now s).1.attempt (suppress now s).2
    unfold suppress
    split
    · rename_i hnow
      refine .kept (fun h => h.elim) fun t ht => ?_
      cases ht
      exact hnow
    · exact .suppressed (joins_current _ _ _ _ _)
  | manualStart now =>
    show Change p s _ (manualStart now s).1.attempt (manualStart now s).2
    unfold manualStart
    split
    · rename_i hnow
      exact .kept (fun h => absurd h (not_le.mpr hnow)) fun _ h => nomatch h
    · rename_i hnow
      exact .restarted (not_lt.mp hnow) (joins_current _ _ _ _ _)
  | observe o =>
    show Change p s _ (observe p o s).1.attempt (observe p o s).2
    unfold observe
    split
    · rename_i hnow
      exact .kept (fun h => absurd h.1 (not_le.mpr hnow)) fun _ h => nomatch h
    · rename_i hnow
      split
      · rename_i hcancelled
        exact .kept (fun h => absurd h.2.1 (by simp [hcancelled])) fun _ h => nomatch h
      · rename_i hcancelled
        cases hhealth : o.health with
        | ready =>
          dsimp only
          unfold observeReady
          split
          · rename_i hready
            refine .kept (fun _ => ?_) fun _ h => nomatch h
            rw [← current_failures s o.now, hready.2.1, hready.2.2.1]
          · exact .ready ⟨not_lt.mp hnow, by simpa using hcancelled, hhealth⟩
              (joins_current _ _ _ _ _)
        | unknown =>
          dsimp only
          unfold observeUnknown
          split
          · exact .unknown hhealth (joins_current _ _ _ _ _)
          · refine .kept (fun h => ?_) fun _ h => nomatch h
            rw [h.2.2] at hhealth
            cases hhealth
        | stopped => exact observeStopped_change (not_lt.mp hnow) hhealth

/-- The history leads from a stopped connector to the stored state. -/
def RecoveryStore.Traced (s : RecoveryStore) : Prop := PathFrom .stopped s.history s.state

theorem RecoveryStore.Traced.save {record : ConnectorRecoveryRecord} (h : s.Traced)
    (hevent : Joins s record event) : (s.save record event).Traced := by
  have hpath := PathFrom.snoc h hevent.1
  rw [hevent.2] at hpath
  exact hpath

theorem Change.traced {attempt : Option Attempt} (h : Change p s c attempt s') (hs : s.Traced) :
    s'.Traced := by
  cases h with
  | kept => exact hs
  | suppressed hevent => exact hs.save hevent
  | restarted _ hevent => exact hs.save hevent
  | ready _ hevent => exact hs.save hevent
  | unknown _ hevent => exact hs.save hevent
  | outage _ _ hevent => exact hs.save hevent
  | attempted _ hopened _ hclosed => exact (hs.save hopened).save hclosed
  | clockFault _ hopened => exact hs.save hopened

theorem Change.permits {attempt : Attempt} (h : Change p s c (some attempt) s') :
    ∃ o, c = .observe o ∧ Permits s o := by
  cases h with
  | attempted hpermits => exact ⟨_, rfl, hpermits⟩
  | clockFault hpermits => exact ⟨_, rfl, hpermits⟩

theorem Change.suppressed_kept {attempt : Option Attempt} (h : Change p s c attempt s')
    (hmanual : ∀ now, c ≠ .manualStart now) (hs : s.suppressed = true) : s'.suppressed = true := by
  cases h with
  | kept => exact hs
  | suppressed => rfl
  | restarted => exact absurd rfl (hmanual _)
  | ready => simpa [ConnectorRecoveryRecord.nowReady] using hs
  | unknown => simpa using hs
  | outage => simpa using hs
  | attempted hpermits => exact (hpermits.not_stopped hs).elim
  | clockFault hpermits => exact (hpermits.not_stopped hs).elim

/-- The failure window after one more call with its answer. -/
def RecoveryPolicy.windowAfter (p : RecoveryPolicy) (w : Option ℚ × Nat)
    (entry : RecoveryCall × RecoveryAnswer) : Option ℚ × Nat :=
  if entry.1.Resets then (none, 0)
  else match entry.1, entry.2.attempt with
    | .observe o, some .failed =>
      (some (p.window o.now w.1 w.2).1, (p.window o.now w.1 w.2).2)
    | _, some .ready => (none, 0)
    | _, _ => w

/-- The failure window at the end of a history of calls: a failed attempt opens one, or counts in
    the one that is open and was opened not longer than the policy says before. -/
def RecoveryPolicy.failureWindowOf (p : RecoveryPolicy)
    (history : List (RecoveryCall × RecoveryAnswer)) : Option ℚ × Nat :=
  history.foldl p.windowAfter (none, 0)

theorem Change.failures {a : RecoveryAnswer} (h : Change p s c a.attempt s') :
    s'.failures = p.windowAfter s.failures (c, a) := by
  obtain ⟨result, attempt⟩ := a
  have hcurrent (now : ℚ) : (s.current now).failureWindowStartedAt = s.failures.1 ∧
      (s.current now).failureCount = s.failures.2 := by
    rw [← current_failures s now]
    exact ⟨rfl, rfl⟩
  have hnot {o : Observation} (hhealth : o.health ≠ .ready) : ¬ (RecoveryCall.observe o).Resets :=
    fun hresets => hhealth hresets.2.2
  unfold RecoveryPolicy.windowAfter
  cases h with
  | kept hfresh =>
    by_cases hresets : c.Resets
    · rw [if_pos hresets, hfresh hresets]
    · rw [if_neg hresets]
      cases c <;> rfl
  | suppressed =>
    rw [if_neg (fun h => h.elim)]
    simp [ConnectorRecoveryRecord.suppressed, hcurrent]
  | restarted hclock =>
    rw [if_pos (show (RecoveryCall.manualStart _).Resets from hclock)]
    rfl
  | ready hresets =>
    rw [if_pos hresets]
    rfl
  | unknown hhealth =>
    rw [if_neg (hnot (by rw [hhealth]; decide))]
    simp [hcurrent]
  | outage hhealth =>
    rw [if_neg (hnot (by rw [hhealth]; decide))]
    simp [hcurrent]
  | attempted hpermits _ hends =>
    rw [if_neg (hnot (by rw [hpermits.health]; decide))]
    cases hends with
    | failed text =>
      simp [RecoveryPolicy.failedRecord, ConnectorRecoveryRecord.recovering, hcurrent]
    | cancelled => simp [ConnectorRecoveryRecord.recovering, hcurrent]
    | ready => rfl
  | clockFault hpermits =>
    rw [if_neg (hnot (by rw [hpermits.health]; decide))]
    simp [ConnectorRecoveryRecord.recovering, hcurrent]

/-- After a failed attempt the connector is degraded, or has a time for its retry. -/
theorem Change.failed (h : Change p s (.observe o) (some .failed) s') :
    (p.failureLimit ≤ s'.failures.2 → s'.state = .degraded) ∧
      (s'.state = .degraded ∨ s'.nextRetryAt = some (o.now + p.delay s'.failures.2)) := by
  cases h with
  | attempted _ _ hends =>
    cases hends with
    | failed text =>
      simp only [save_state, save_failures, save_nextRetryAt, RecoveryPolicy.failedRecord]
      split
      · simp
      · simp_all

/-- Neither a manual start nor an observation that finds the connector ready or autostart off. -/
def RecoveryCall.Quiet : RecoveryCall → Prop
  | .suppress _ => True
  | .manualStart _ => False
  | .observe o => o.health ≠ .ready ∧ o.autostart = true

/-- A quiet call that makes no start leaves a degraded connector degraded, and a time for a retry as
    it is, unless it is a stop. -/
theorem Change.quiet (h : Change p s c none s') (hquiet : c.Quiet) :
    s'.suppressed = true ∨ (s'.suppressed = s.suppressed ∧
      (s'.state = s.state ∧ s'.nextRetryAt = s.nextRetryAt)) := by
  cases h with
  | kept => exact .inr ⟨rfl, rfl, rfl⟩
  | suppressed => exact .inl rfl
  | restarted => exact hquiet.elim
  | ready hresets => exact absurd hresets.2.2 hquiet.1
  | unknown => simp
  | outage _ hwhy =>
    rcases hwhy with hsuppressed | hautostart
    · exact .inl (by simpa using hsuppressed)
    · exact absurd hquiet.2 (by simp [hautostart])

/-- The calls in order, from an instance that has no snapshot. -/
def recoveryRun (p : RecoveryPolicy) (calls : List RecoveryCall) :
    List (RecoveryCall × RecoveryAnswer) × RecoveryStore :=
  Machine.run (recoveryStep p) {} calls

/-- The start that a call makes after these calls. -/
def startAfter (p : RecoveryPolicy) (calls : List RecoveryCall) (c : RecoveryCall) :
    Option Attempt := (recoveryStep p (recoveryRun p calls).2 c).1.attempt

/-- None of the calls makes a start when they follow the first ones. -/
def NoStart (p : RecoveryPolicy) (before calls : List RecoveryCall) : Prop :=
  Machine.Along (recoveryStep p) (fun s c => (recoveryStep p s c).1.attempt = none)
    (recoveryRun p before).2 calls

theorem recoveryRun_snoc (p : RecoveryPolicy) (calls : List RecoveryCall) (c : RecoveryCall) :
    (recoveryRun p (calls ++ [c])).2 = (recoveryStep p (recoveryRun p calls).2 c).2 := by
  unfold recoveryRun
  rw [Machine.run_snoc]

theorem recoveryRun_traced (p : RecoveryPolicy) (calls : List RecoveryCall) :
    (recoveryRun p calls).2.Traced :=
  Machine.run_induction (P := fun _ s => s.Traced) rfl
    (fun _ s c hs => (recoveryStep_change p s c).traced hs) calls

/-- The snapshot counts the failures of the window that the history has open. -/
theorem recoveryRun_failures (p : RecoveryPolicy) (calls : List RecoveryCall) :
    (recoveryRun p calls).2.failures = p.failureWindowOf (recoveryRun p calls).1 := by
  refine Machine.run_induction (P := fun h (s : RecoveryStore) => s.failures = p.failureWindowOf h) rfl ?_ calls
  intro h s c hs
  rw [(recoveryStep_change p s c).failures, hs]
  unfold RecoveryPolicy.failureWindowOf
  rw [List.foldl_append]
  rfl

/-- A stop is kept by every call but a manual start. -/
theorem recoveryRun_stopped (p : RecoveryPolicy) (before : List RecoveryCall) {now : ℚ}
    (hclock : 0 ≤ now) (hmanual : ∀ d ∈ middle, ∀ t, d ≠ .manualStart t) :
    (recoveryRun p (before ++ .suppress now :: middle)).2.suppressed = true := by
  rw [List.append_cons]
  refine Machine.run_kept (P := fun s : RecoveryStore => s.suppressed = true)
    (A := fun c => ∀ t, c ≠ .manualStart t) ?_
    (fun s c _ hc hs => (recoveryStep_change p s c).suppressed_kept hc hs) hmanual
  have hstep := recoveryRun_snoc p before (.suppress now)
  unfold recoveryRun at hstep
  rw [hstep]
  show (suppress now _).2.suppressed = true
  unfold suppress
  rw [if_neg (not_lt.mpr hclock)]
  rfl

/-- A quiet call makes no start while recovery is suppressed or the connector degraded, and keeps
    it so. -/
theorem quiet_degraded {s : RecoveryStore} (hquiet : c.Quiet)
    (hs : s.suppressed = true ∨ s.state = .degraded) :
    (recoveryStep p s c).1.attempt = none ∧ ((recoveryStep p s c).2.suppressed = true ∨
      (recoveryStep p s c).2.state = .degraded) := by
  have hchange := recoveryStep_change p s c
  cases hattempt : (recoveryStep p s c).1.attempt with
  | some attempt =>
    rw [hattempt] at hchange
    obtain ⟨o, -, hpermits⟩ := hchange.permits
    rcases hs with hsuppressed | hdegraded
    · exact (hpermits.not_stopped hsuppressed).elim
    · exact absurd hdegraded hpermits.notDegraded
  | none =>
    rw [hattempt] at hchange
    rcases hchange.quiet hquiet with hstopped | ⟨hsuppressed, hstate, -⟩
    · exact ⟨rfl, .inl hstopped⟩
    · rw [hsuppressed, hstate]
      exact ⟨rfl, hs⟩

theorem startAfter_failed (h : startAfter p before (.observe o) = some .failed) :
    let s := (recoveryRun p (before ++ [.observe o])).2
    (p.failureLimit ≤ s.failures.2 → s.state = .degraded) ∧
      (s.state = .degraded ∨ s.nextRetryAt = some (o.now + p.delay s.failures.2)) := by
  intro s
  have hchange := recoveryStep_change p (recoveryRun p before).2 (.observe o)
  unfold startAfter at h
  rw [h, ← recoveryRun_snoc] at hchange
  exact hchange.failed

/-- The connector stays degraded, or stopped by the user. -/
theorem recoveryRun_degraded (h : (recoveryRun p before).2.state = .degraded)
    (hquiet : ∀ d ∈ middle, d.Quiet) :
    (recoveryRun p (before ++ middle)).2.suppressed = true ∨
      (recoveryRun p (before ++ middle)).2.state = .degraded :=
  Machine.run_kept (P := fun s : RecoveryStore => s.suppressed = true ∨ s.state = .degraded)
    (A := RecoveryCall.Quiet) (.inr h) (fun _ _ _ hc hs => (quiet_degraded hc hs).2) hquiet

/-- The time for the retry stays, unless the user stops the connector. -/
theorem recoveryRun_retry {t : ℚ} (h : (recoveryRun p before).2.nextRetryAt = some t)
    (hquiet : ∀ d ∈ middle, d.Quiet) (hnone : NoStart p before middle) :
    (recoveryRun p (before ++ middle)).2.suppressed = true ∨
      (recoveryRun p (before ++ middle)).2.nextRetryAt = some t := by
  unfold recoveryRun
  rw [Machine.run_append_state]
  refine Machine.Along.kept (P := fun s : RecoveryStore => s.suppressed = true ∨ s.nextRetryAt = some t) hnone ?_
    (.inr h)
  intro s c hc hattempt hs
  have hchange := recoveryStep_change p s c
  rw [hattempt] at hchange
  rcases hchange.quiet (hquiet c hc) with hstopped | ⟨hsuppressed, -, hretry⟩
  · exact .inl hstopped
  · rw [hsuppressed, hretry]
    exact hs

/-- Automatic recovery is bounded and obeys a stop. -/
theorem recovery_bounded (p : RecoveryPolicy) :
    (∀ calls, PathFrom .stopped (recoveryRun p calls).2.history (recoveryRun p calls).2.state) ∧
      (∀ before c attempt, startAfter p before c = some attempt →
        ∃ o, c = .observe o ∧ Permits (recoveryRun p before).2 o) ∧
      (∀ before now middle c, 0 ≤ now → (∀ d ∈ middle, ∀ t, d ≠ .manualStart t) →
        startAfter p (before ++ .suppress now :: middle) c = none) ∧
      (∀ before o middle c, startAfter p before (.observe o) = some .failed →
        p.failureLimit ≤ (p.failureWindowOf (recoveryRun p (before ++ [.observe o])).1).2 →
        (∀ d ∈ middle, d.Quiet) → startAfter p (before ++ [.observe o] ++ middle) c = none) ∧
      ∀ before o middle o' attempt, startAfter p before (.observe o) = some .failed →
        (∀ d ∈ middle, d.Quiet) → NoStart p (before ++ [.observe o]) middle →
        startAfter p (before ++ [.observe o] ++ middle) (.observe o') = some attempt →
        o.now + p.delay (p.failureWindowOf (recoveryRun p (before ++ [.observe o])).1).2 ≤ o'.now := by
  have hpermits : ∀ before c attempt, startAfter p before c = some attempt →
      ∃ o, c = .observe o ∧ Permits (recoveryRun p before).2 o := by
    intro before c attempt h
    have hchange := recoveryStep_change p (recoveryRun p before).2 c
    unfold startAfter at h
    rw [h] at hchange
    exact hchange.permits
  refine ⟨recoveryRun_traced p, hpermits, ?_, ?_, ?_⟩
  · intro before now middle c hclock hmanual
    by_contra hstart
    obtain ⟨attempt, hattempt⟩ := Option.ne_none_iff_exists'.mp hstart
    obtain ⟨o, -, hpermit⟩ := hpermits _ _ _ hattempt
    exact hpermit.not_stopped (recoveryRun_stopped p before hclock hmanual)
  · intro before o middle c hfailed hlimit hquiet
    rw [← recoveryRun_failures] at hlimit
    by_contra hstart
    obtain ⟨attempt, hattempt⟩ := Option.ne_none_iff_exists'.mp hstart
    obtain ⟨o', -, hpermit⟩ := hpermits _ _ _ hattempt
    rcases recoveryRun_degraded ((startAfter_failed hfailed).1 hlimit) hquiet with hstopped | hdegraded
    · exact hpermit.not_stopped hstopped
    · exact hpermit.notDegraded hdegraded
  · intro before o middle o' attempt hfailed hquiet hnone hattempt
    rw [← recoveryRun_failures]
    obtain ⟨o'', heq, hpermit⟩ := hpermits _ _ _ hattempt
    cases heq
    rcases (startAfter_failed hfailed).2 with hdegraded | hretry
    · rcases recoveryRun_degraded hdegraded hquiet with hstopped | hstill
      · exact (hpermit.not_stopped hstopped).elim
      · exact absurd hstill hpermit.notDegraded
    · rcases recoveryRun_retry hretry hquiet hnone with hstopped | hdue
      · exact (hpermit.not_stopped hstopped).elim
      · exact hpermit.due _ (by rw [hdue]; rfl)

/-- The defaults of the coordinator. -/
def defaultPolicy : RecoveryPolicy where
  backoff := [5, 15, 30]
  failureLimit := 3
  failureWindow := 300
  backoffGiven := by simp
  backoffPositive := by decide +kernel
  limitPositive := by decide
  windowPositive := by norm_num

/-- An observation of a stopped connector whose start does not get it ready. -/
def failing (now : ℚ) : RecoveryCall :=
  .observe { now, finished := now, health := .stopped, autostart := true
             start := .outcome .startedNotReady }

/-- An observation of a stopped connector without autostart. -/
def unattended (now : ℚ) : RecoveryCall :=
  .observe { now, finished := now, health := .stopped, autostart := false
             start := .outcome .startedNotReady }

/-- After a failure at 0 no start before 5, after a third one none, and none after a stop. -/
theorem recovery_bounded_default :
    (∀ o attempt, startAfter defaultPolicy [failing 0, failing 3] (.observe o) = some attempt →
        5 ≤ o.now) ∧
      startAfter defaultPolicy [failing 0, failing 5, failing 20, failing 60] (failing 400) = none ∧
      startAfter defaultPolicy [.suppress 0, failing 1] (failing 2) = none := by
  obtain ⟨-, -, hstop, hdegraded, hretry⟩ := recovery_bounded defaultPolicy
  refine ⟨?_, ?_, ?_⟩
  · intro o attempt hattempt
    have hdue := hretry [] _ [failing 3] o attempt
      (show startAfter defaultPolicy [] (failing 0) = some .failed by decide +kernel)
      (by simp [failing, RecoveryCall.Quiet])
      (show NoStart defaultPolicy [failing 0] [failing 3] from
        ⟨by decide +kernel, trivial⟩) hattempt
    refine le_trans ?_ hdue
    decide +kernel
  · exact hdegraded [failing 0, failing 5] _ [failing 60] (failing 400)
      (show startAfter defaultPolicy [failing 0, failing 5] (failing 20) = some .failed by
        decide +kernel) (by decide +kernel) (by simp [failing, RecoveryCall.Quiet])
  · exact hstop [] 0 [failing 1] (failing 2) le_rfl (by simp [failing])

/-- Three failures within twenty seconds, at 290, 305 and 310, are followed by a fourth start at
    325: the window of the failure at 0 ends between them. After a failure at 0 and an observation
    without autostart at 1 the next start is made at 2. -/
theorem recovery_restarts_early :
    ((recoveryRun defaultPolicy [failing 0, failing 290, failing 305, failing 310, failing 325]).1.map
        fun entry => entry.2.attempt) =
      [some .failed, some .failed, some .failed, some .failed, some .failed] ∧
    ((recoveryRun defaultPolicy [failing 0, unattended 1, failing 2]).1.map
        fun entry => entry.2.attempt) = [some .failed, none, some .failed] := by
  constructor
  · decide +kernel
  · decide +kernel

end AConductor.Connector

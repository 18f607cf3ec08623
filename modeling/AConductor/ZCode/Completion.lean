import AConductor.ZCode.PromptOnce

/-!
# What stands behind a completed turn

`run_turn` (`src/a_conductor/zcode_protocol.py:242-393`) returns on the notification
`turn.completed`, which it looks at in any state of the session. The turn behind it was
really run exactly when the notification does not come before the prompt was sent.
-/

namespace AConductor.ZCode

open List

variable {F : Type} {rt : Runtime F} {args : TurnArgs}

/-- The peer says that the session runs the model that was asked for, if one was. -/
def Attested (args : TurnArgs) (result : Message F) : Prop :=
  ∀ wanted, args.runtimeModel = some wanted → ∃ current, attestedModel result = some current ∧
    isText wanted.providerId (getKey current "providerId") = true ∧
    isText wanted.modelId (getKey current "modelId") = true

/-- A line answers the first request, for the first time, with this session. -/
def CreatedBy (rt : Runtime F) (args : TurnArgs) (before : List Event) (text sessionId : PyStr) :
    Prop :=
  ∃ s message result, runTurn rt args before = .running s ∧ s.sessionId = none ∧
    loadLine rt text = .ok (.obj message) ∧ eqInt rt 1 (getKey message "id") = true ∧
    hasKey message "error" = false ∧ createdSession message = some (result, sessionId) ∧
    Attested args result

/-- One of the lines created the session. -/
def SessionCreated (rt : Runtime F) (args : TurnArgs) (events : List Event) (sessionId : PyStr) :
    Prop :=
  ∃ before text after, events = before ++ .line text :: after ∧
    CreatedBy rt args before text sessionId

/-- The session of the turn was created and attested, and the prompt was sent on it. -/
def ReallyRun (rt : Runtime F) (args : TurnArgs) (events : List Event)
    (turn : ZCodeProtocolTurn) : Prop :=
  ∃ sessionId, turn.sessionId = some sessionId ∧ SessionCreated rt args events sessionId ∧
    promptRequest sessionId args.prompt ∈ (runTurn rt args events).state.sent

/-- A notification of `turn.completed` that is looked at as one before the prompt was
    sent. -/
structure CompletesEarlyOn (rt : Runtime F) (s : TurnState F) (message : Message F) : Prop where
  unawaited : Unawaited rt s message
  notRejected : ¬ (eqInt rt 3 (getKey message "id") = true ∧ hasKey message "error" = true)
  method : isText (.lit "session/event") (getKey message "method") = true
  completed : ∃ params, asDict (getKey message "params") = some params ∧
    isText (.lit "turn.completed") (getKey params "type") = true
  unsent : s.promptSent = false

/-- `CompletesEarlyOn`, for a pass of the loop. -/
def CompletesEarly (rt : Runtime F) (turn : Turn F) (event : Event) : Prop :=
  ∃ s text message, turn = .running s ∧ event = .line text ∧
    loadLine rt text = .ok (.obj message) ∧ CompletesEarlyOn rt s message

/-! ### The pieces of a step -/

theorem attested_of_attestation {result : Message F} (h : attestation args result = none) :
    Attested args result := by
  intro wanted hwanted
  unfold attestation at h
  rw [hwanted] at h
  dsimp only at h
  cases hmodel : attestedModel result with
  | none =>
    rw [hmodel] at h
    cases h
  | some current =>
    rw [hmodel] at h
    dsimp only at h
    split at h
    · rename_i hsame
      rw [Bool.and_eq_true] at hsame
      exact ⟨current, rfl, hsame.1, hsame.2⟩
    · cases h

/-- What the response to `session/create` leaves: an error, or the session it names. -/
theorem onCreated_cases (args : TurnArgs) (s : TurnState F) (message : Message F) :
    (∃ code, onCreated args s message = failed s code) ∨
      ∃ result sessionId, hasKey message "error" = false ∧
        createdSession message = some (result, sessionId) ∧ Attested args result ∧
        onCreated args s message =
          .running ({ s with sessionId := some sessionId }.send (subscribeRequest sessionId)) := by
  unfold onCreated
  by_cases herror : hasKey message "error" = true
  · rw [if_pos herror]
    exact .inl ⟨_, rfl⟩
  rw [if_neg herror]
  cases hcreated : createdSession message with
  | none => exact .inl ⟨_, rfl⟩
  | some created =>
    obtain ⟨result, sessionId⟩ := created
    dsimp only
    cases hattestation : attestation args result with
    | some code => exact .inl ⟨code, rfl⟩
    | none =>
      exact .inr ⟨result, sessionId, by simpa using herror, rfl,
        attested_of_attestation hattestation, rfl⟩

/-- The session and the prompt of a step that creates no session: what was sent stays, and
    the prompt counts as sent only when it is sent on the session. -/
structure Continues (args : TurnArgs) (s s' : TurnState F) : Prop where
  sessionId : s'.sessionId = s.sessionId
  sent : s.sent.Sublist s'.sent
  promptSent : s'.promptSent = s.promptSent ∨ ∃ sessionId, s.sessionId = some sessionId ∧
    s'.promptSent = true ∧ promptRequest sessionId args.prompt ∈ s'.sent

theorem Continues.refl (args : TurnArgs) (s : TurnState F) : Continues args s s :=
  ⟨rfl, List.Sublist.refl _, .inl rfl⟩

theorem Continues.send (args : TurnArgs) (s : TurnState F) (message : Message F) :
    Continues args s (s.send message) := ⟨rfl, sublist_append_left _ _, .inl rfl⟩

theorem continues_answer (args : TurnArgs) (s : TurnState F) (mid : Value F) (key : String) :
    Continues args s (answer rt s mid key).state ∧ ∀ s' r, answer rt s mid key ≠ .returned s' r := by
  unfold answer
  split
  · exact ⟨.refl args s, nofun⟩
  · exact ⟨.send args s _, nofun⟩

variable {sessionId : PyStr} {s : TurnState F} {message : Message F} {events : List Event}

theorem continues_prompt (args : TurnArgs) (s : TurnState F) (h : s.sessionId = some sessionId)
    (subscribed : Bool) :
    Continues args s { { s with subscribed }.send (promptRequest sessionId args.prompt) with
      promptSent := true } := by
  refine ⟨rfl, sublist_append_left _ _, .inr ⟨sessionId, h, rfl, ?_⟩⟩
  exact mem_append_right _ mem_cons_self

theorem continues_onSubscribed (h : s.sessionId = some sessionId) (message : Message F) :
    Continues args s (onSubscribed args s sessionId message).state := by
  unfold onSubscribed
  split
  · exact .refl args s
  · cases args.thoughtLevel with
    | some level => exact ⟨rfl, sublist_append_left _ _, .inl rfl⟩
    | none => exact continues_prompt args s h true

theorem continues_onDelta (args : TurnArgs) (s : TurnState F) (delta : PyStr) :
    Continues args s (onDelta args s delta).state ∧ ∀ s' r, onDelta args s delta ≠ .returned s' r := by
  unfold onDelta
  cases PyStr.encode delta with
  | none => exact ⟨.refl args s, nofun⟩
  | some bytes =>
    dsimp only
    split
    · exact ⟨⟨rfl, List.Sublist.refl _, .inl rfl⟩, nofun⟩
    · exact ⟨⟨rfl, List.Sublist.refl _, .inl rfl⟩, nofun⟩

/-- An event returns only as `turn.completed`, with the session of the state. -/
theorem continues_onEvent (args : TurnArgs) (s : TurnState F) (params : Message F) :
    Continues args s (onEvent args s params).state ∧ ∀ s' r, onEvent args s params = .returned s' r ↔
      isText (.lit "turn.completed") (getKey params "type") = true ∧ s' = s ∧
        r = ⟨s.deltas.flatten, s.sessionId, true, s.received⟩ := by
  have htexts : isText (.lit "model.streaming") (getKey params "type") = true →
      isText (.lit "turn.completed") (getKey params "type") = false := by
    intro hstreaming
    cases htype : getKey params "type" with
    | str t =>
      rw [htype] at hstreaming
      obtain rfl : t = .lit "model.streaming" := by simpa [isText] using hstreaming
      show decide (PyStr.lit "model.streaming" = PyStr.lit "turn.completed") = false
      decide +kernel
    | null | bool _ | num _ | arr _ | obj _ => rfl
  unfold onEvent
  dsimp only
  by_cases hstreaming : (isText (.lit "model.streaming") (getKey params "type") &&
      (asDict (getKey params "payload")).isSome) = true
  · rw [if_pos hstreaming]
    rw [Bool.and_eq_true] at hstreaming
    have hnot := htexts hstreaming.1
    cases textDelta (getKey params "payload") with
    | none => exact ⟨.refl args s, fun s' r => by simp [hnot]⟩
    | some delta =>
      obtain ⟨hcontinues, hreturned⟩ := continues_onDelta args s delta
      exact ⟨hcontinues, fun s' r => iff_of_false (hreturned s' r) (by simp [hnot])⟩
  rw [if_neg hstreaming]
  by_cases hcompleted : isText (.lit "turn.completed") (getKey params "type") = true
  · rw [if_pos hcompleted]
    exact ⟨.refl args s, fun s' r => by simp [hcompleted, eq_comm]⟩
  rw [if_neg hcompleted]
  by_cases hfailed : isText (.lit "turn.failed") (getKey params "type") = true
  · rw [if_pos hfailed]
    exact ⟨.refl args s, fun s' r => by simp [hcompleted, failed]⟩
  · rw [if_neg hfailed]
    exact ⟨.refl args s, fun s' r => by simp [hcompleted]⟩

/-! ### The run -/

/-- What the progress of a turn means: its session was created by a line, and its prompt,
    once it counts as sent, was sent on that session. -/
structure Progress (rt : Runtime F) (args : TurnArgs) (events : List Event) (s : TurnState F) :
    Prop where
  created : ∀ sessionId, s.sessionId = some sessionId → SessionCreated rt args events sessionId
  prompted : s.promptSent = true → ∃ sessionId, s.sessionId = some sessionId ∧
    promptRequest sessionId args.prompt ∈ s.sent

theorem SessionCreated.snoc (h : SessionCreated rt args events sessionId) (event : Event) :
    SessionCreated rt args (events ++ [event]) sessionId := by
  obtain ⟨before, text, after, rfl, hby⟩ := h
  exact ⟨before, text, after ++ [event], by simp, hby⟩

theorem Progress.continues {s s' : TurnState F} (h : Progress rt args events s)
    (hstep : Continues args s s') (event : Event) :
    Progress rt args (events ++ [event]) s' where
  created sessionId hsession := by
    rw [hstep.sessionId] at hsession
    exact (h.created sessionId hsession).snoc event
  prompted hsent := by
    rw [hstep.sessionId]
    rcases hstep.promptSent with hsame | ⟨sessionId, hsession, -, hmem⟩
    · rw [hsame] at hsent
      obtain ⟨sessionId, hsession, hmem⟩ := h.prompted hsent
      exact ⟨sessionId, hsession, hstep.sent.subset hmem⟩
    · exact ⟨sessionId, hsession, hmem⟩

/-- One message keeps the meaning of the progress. -/
theorem progress_onMessage {text : PyStr} (h : Progress rt args events s)
    (hrun : runTurn rt args events = .running s)
    (hload : loadLine rt text = .ok (.obj message)) :
    Progress rt args (events ++ [.line text]) (onMessage rt args s message).state := by
  have hhandled := onMessage_handled rt args s message
  generalize onMessage rt args s message = turn at hhandled
  cases hhandled with
  | replied key hrequest => exact h.continues (continues_answer args s _ key).1 _
  | created hrequest hid hnone =>
    rcases onCreated_cases args s message with ⟨code, hfailed⟩ |
      ⟨result, sessionId, herror, hcreated, hattested, hrunning⟩
    · rw [hfailed]
      exact h.continues (.refl args s) _
    · rw [hrunning]
      constructor
      · intro sessionId' hsession
        obtain rfl : sessionId = sessionId' := Option.some.inj hsession
        exact ⟨events, text, [], rfl, s, message, result, hrun, hnone, hload, hid, herror, hcreated,
          hattested⟩
      · intro hsent
        obtain ⟨sessionId', hsession, -⟩ := h.prompted hsent
        rw [hnone] at hsession
        cases hsession
  | subscribed sessionId hrequest hsession hid hfresh =>
    exact h.continues (continues_onSubscribed hsession message) _
  | thoughtLevel sessionId hrequest hsession hsubscribe hid hunsent =>
    exact h.continues (continues_prompt args s hsession s.subscribed) _
  | rejected hrest hid => exact h.continues (.refl args s) _
  | event params hrest hid hmethod hparams => exact h.continues (continues_onEvent args s params).1 _
  | ignored hrest hnot => exact h.continues (.refl args s) _

/-- A message returns only as a notification of `turn.completed`, with the session of the
    state. -/
theorem onMessage_returned {s s' : TurnState F} {r : ZCodeProtocolTurn}
    (h : onMessage rt args s message = .returned s' r) :
    s' = s ∧ r.sessionId = s.sessionId ∧
      (s.promptSent = false → CompletesEarlyOn rt s message) := by
  have hhandled := onMessage_handled rt args s message
  rw [h] at hhandled
  generalize hturn : Turn.returned s' r = turn at hhandled
  cases hhandled with
  | replied key hrequest => exact absurd hturn.symm ((continues_answer args s _ key).2 s' r)
  | created hrequest hid hnone =>
    rcases onCreated_cases args s message with ⟨code, hfailed⟩ | ⟨_, _, -, -, -, hrunning⟩
    · rw [hfailed] at hturn
      cases hturn
    · rw [hrunning] at hturn
      cases hturn
  | subscribed sessionId hrequest hsession hid hfresh =>
    unfold onSubscribed at hturn
    split at hturn
    · cases hturn
    · split at hturn
      · cases hturn
      · cases hturn
  | thoughtLevel sessionId hrequest hsession hsubscribe hid hunsent => cases hturn
  | rejected hrest hid => cases hturn
  | event params hrest hid hmethod hparams =>
    obtain ⟨htype, rfl, rfl⟩ := ((continues_onEvent args s params).2 s' r).mp hturn.symm
    exact ⟨rfl, rfl, fun hunsent => ⟨hrest, hid, hmethod, ⟨params, hparams, htype⟩, hunsent⟩⟩
  | ignored hrest hnot => cases hturn

theorem CompletesEarlyOn.returned (h : CompletesEarlyOn rt s message) :
    ∃ r, onMessage rt args s message = .returned s r := by
  obtain ⟨params, hdict, htype⟩ := h.completed
  have hhandled := onMessage_handled rt args s message
  generalize onMessage rt args s message = turn at hhandled ⊢
  cases hhandled with
  | replied key hrequest =>
    rw [h.unawaited.notRequest] at hrequest
    cases hrequest
  | created hrequest hid hnone => exact absurd hnone (h.unawaited.notCreated hid)
  | subscribed sessionId hrequest hsession hid hfresh =>
    rw [h.unawaited.notSubscribed hid (by simp [hsession])] at hfresh
    cases hfresh
  | thoughtLevel sessionId hrequest hsession hsubscribe hid hunsent =>
    rw [h.unawaited.notLevel hid (by simp [hsession])] at hunsent
    cases hunsent
  | rejected hrest hid => exact absurd hid h.notRejected
  | event params' hrest hid hmethod hparams =>
    rw [hdict] at hparams
    cases hparams
    exact ⟨_, ((continues_onEvent args s params).2 s _).mpr ⟨htype, rfl, rfl⟩⟩
  | ignored hrest hnot => exact absurd ⟨h.method, by simp [hdict]⟩ hnot

/-- A pass that reads no message ends the turn or changes nothing, and does not return. -/
theorem turnStep_unread {event : Event}
    (h : ∀ text message, event = .line text → loadLine rt text ≠ .ok (.obj message)) :
    (turnStep rt args s event).state = s ∧
      ∀ s' r, turnStep rt args s event ≠ .returned s' r := by
  unfold turnStep
  cases event with
  | deadline => exact ⟨rfl, nofun⟩
  | silent alive =>
    cases alive with
    | true => exact ⟨rfl, nofun⟩
    | false => exact ⟨rfl, nofun⟩
  | line text =>
    dsimp only
    split
    · exact ⟨rfl, nofun⟩
    · exact ⟨rfl, nofun⟩
    · exact ⟨rfl, nofun⟩
    · rename_i message hload
      exact absurd hload (h text message rfl)
    · exact ⟨rfl, nofun⟩

/-- An event either is a message, or is not read. -/
theorem event_cases (rt : Runtime F) (event : Event) :
    (∃ text message, event = .line text ∧ loadLine rt text = .ok (.obj message)) ∨
      ∀ text message, event = .line text → loadLine rt text ≠ .ok (.obj message) := by
  by_cases h : ∃ text message, event = .line text ∧ loadLine rt text = .ok (.obj message)
  · exact .inl h
  · exact .inr fun text message hevent hload => h ⟨text, message, hevent, hload⟩

theorem turnStep_line {text : PyStr} (hload : loadLine rt text = .ok (.obj message)) :
    turnStep rt args s (.line text) = onMessage rt args s message := by
  simp only [turnStep, hload]

theorem progress_runTurn (rt : Runtime F) (args : TurnArgs) (events : List Event) :
    Progress rt args events (runTurn rt args events).state := by
  induction events using List.reverseRecOn with
  | nil =>
    unfold runTurn startTurn
    rw [foldl_nil]
    split
    · exact ⟨nofun, nofun⟩
    · exact ⟨nofun, nofun⟩
  | append_singleton events event ih =>
    rw [runTurn_snoc]
    cases hrun : runTurn rt args events with
    | returned s r =>
      rw [hrun] at ih
      exact ih.continues (.refl args s) event
    | raised s fault =>
      rw [hrun] at ih
      exact ih.continues (.refl args s) event
    | running s =>
      rw [hrun] at ih
      show Progress rt args (events ++ [event]) (turnStep rt args s event).state
      rcases event_cases rt event with ⟨text, message, rfl, hload⟩ | hunread
      · rw [turnStep_line hload]
        exact progress_onMessage ih hrun hload
      · rw [(turnStep_unread hunread).1]
        exact ih.continues (.refl args s) event

theorem runTurn_returned_append {before : List Event} {r : ZCodeProtocolTurn}
    (h : runTurn rt args before = .returned s r) (after : List Event) :
    runTurn rt args (before ++ after) = .returned s r := by
  induction after using List.reverseRecOn with
  | nil =>
    rw [append_nil]
    exact h
  | append_singleton after event ih =>
    rw [← append_assoc, runTurn_snoc, ih]
    rfl

/-- A turn that is returned was really run, if and only if no notification of its completion
    is looked at before the prompt was sent. -/
theorem completed_turn_was_run (rt : Runtime F) (args : TurnArgs) (events : List Event) :
    (∀ s r, runTurn rt args events = .returned s r → ReallyRun rt args events r) ↔
      ∀ before event after, events = before ++ event :: after →
        ¬ CompletesEarly rt (runTurn rt args before) event := by
  constructor
  · rintro hreal before event after rfl ⟨s, text, message, hrun, rfl, hload, hearly⟩
    obtain ⟨r, hreturned⟩ : ∃ r, onMessage rt args s message = .returned s r := hearly.returned
    have hend : runTurn rt args (before ++ [.line text]) = .returned s r := by
      rw [runTurn_snoc, hrun, ← hreturned]
      exact turnStep_line hload
    have hwhole := runTurn_returned_append hend after
    rw [append_assoc] at hwhole
    obtain ⟨sessionId, -, -, hmem⟩ := hreal s r hwhole
    rw [singleton_append] at hwhole
    have hsent := promptSent_iff rt args (before ++ .line text :: after)
    rw [hwhole] at hsent hmem
    have hcount : 1 ≤ s.prompts :=
      countP_pos_iff.mpr ⟨_, hmem, isPrompt_promptRequest sessionId args.prompt⟩
    have hpromptSent : s.promptSent = true := hsent.mpr hcount
    rw [hearly.unsent] at hpromptSent
    cases hpromptSent
  · induction events using List.reverseRecOn with
    | nil =>
      intro _ s r hreturned
      unfold runTurn startTurn at hreturned
      rw [foldl_nil] at hreturned
      split at hreturned
      · cases hreturned
      · cases hreturned
    | append_singleton events event ih =>
      intro hnone s r hreturned
      have hprogress := progress_runTurn rt args (events ++ [event])
      have hstate := congrArg Turn.state hreturned
      rw [hreturned] at hprogress
      have hbefore : ∀ before e after, events = before ++ e :: after →
          ¬ CompletesEarly rt (runTurn rt args before) e := by
        intro before e after heq
        exact hnone before e (after ++ [event]) (by simp [heq])
      have hlast := hnone events event [] rfl
      rw [runTurn_snoc] at hreturned
      cases hrun : runTurn rt args events with
      | raised s' fault =>
        rw [hrun] at hreturned
        cases hreturned
      | returned s' r' =>
        rw [hrun] at hreturned
        cases hreturned
        obtain ⟨sessionId, hsession, hcreated, hmem⟩ := ih hbefore s r hrun
        rw [hrun] at hmem
        refine ⟨sessionId, hsession, hcreated.snoc event, ?_⟩
        rw [hstate]
        exact hmem
      | running s' =>
        rw [hrun] at hreturned hlast
        rcases event_cases rt event with ⟨text, message, rfl, hload⟩ | hunread
        · have hmessage : onMessage rt args s' message = .returned s r :=
            (turnStep_line hload).symm.trans hreturned
          obtain ⟨rfl, hsession, hearly⟩ := onMessage_returned hmessage
          have hsent : s.promptSent = true := by
            by_contra hunsent
            exact hlast ⟨s, text, message, rfl, rfl, hload, hearly (by simpa using hunsent)⟩
          obtain ⟨sessionId, hsome, hmem⟩ := hprogress.prompted hsent
          refine ⟨sessionId, hsession.trans hsome, hprogress.created sessionId hsome, ?_⟩
          rw [hstate]
          exact hmem
        · exact absurd hreturned ((turnStep_unread hunread).2 s r)

/-- What a turn returned. -/
def Turn.result : Turn F → Option ZCodeProtocolTurn
  | .returned _ r => some r
  | _ => none

def sampleArgs : TurnArgs :=
  { prompt := .lit "hello", workspace := .lit "/w"
    runtimeModel := some ⟨.lit "r", .lit "provider", .lit "model", .lit "https://host", .lit "KEY"⟩ }

/-- The notification of completion as the first and only line. -/
def onlyCompletion : List Event := [.line (.lit
  "\x7b\"method\":\"session/event\",\"params\":\x7b\"type\":\"turn.completed\"\x7d\x7d")]

/-- The turn comes back completed with no session, no attested model and no prompt. -/
theorem completion_without_session :
    (runTurn sampleRuntime sampleArgs onlyCompletion).result = some ⟨[], none, true, 0⟩ ∧
      (runTurn sampleRuntime sampleArgs onlyCompletion).state.prompts = 0 := by
  constructor
  · decide +kernel
  · decide +kernel

end AConductor.ZCode

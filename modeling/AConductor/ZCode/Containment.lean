import AConductor.ZCode.PromptOnce

/-!
# What a turn lets escape

`run_turn` (`src/a_conductor/zcode_protocol.py:242-393`) catches, of what `json.loads` raises on a
line, the `JSONDecodeError` only, and nothing of what `json.dumps` raises on an answer. The bytes of
a text delta are counted in its encoding, which a lone surrogate does not have.
-/

namespace AConductor.ZCode

open Json PyStr

variable {F : Type} {rt : Runtime F} {args : TurnArgs}

/-- The bytes received are those of the text, and within the budget. -/
def Counted (args : TurnArgs) (text : PyStr) (received : Nat) : Prop :=
  ∃ bytes, encode text = some bytes ∧ received = bytes.length ∧
    received ≤ args.maxResponseBytes

/-- A turn is in its loop, returned what it counted, or raised the error of the protocol. -/
def Turn.Contained (args : TurnArgs) : Turn F → Prop
  | .running s => Counted args s.deltas.flatten s.received
  | .returned _ r => Counted args r.responseText r.bytesReceived
  | .raised _ fault => ∃ code, fault = .protocolError code

/-- The message is handled as a text delta. -/
structure Streams (rt : Runtime F) (s : TurnState F) (message : Message F) (delta : PyStr) :
    Prop where
  unawaited : Unawaited rt s message
  notRejected : ¬ (eqInt rt 3 (getKey message "id") = true ∧ hasKey message "error" = true)
  event : isText (.lit "session/event") (getKey message "method") = true
  streaming : ∃ params, asDict (getKey message "params") = some params ∧
    isText (.lit "model.streaming") (getKey params "type") = true ∧
    textDelta (getKey params "payload") = some delta

/-- What a turn in its loop does not contain: a line on which the decoder comes to an integer
    literal of too many digits, one that is nested beyond its stack, a request whose id is nested
    too deep to be answered, and a text delta with a lone surrogate. -/
inductive Breaks (rt : Runtime F) (s : TurnState F) : Event → Prop where
  | integer {text target integer : PyStr} (hmark : text.head? ≠ some (.char '\ufeff'))
      (hreach : Reaches (lineHooks rt) rt.decodeRoom (skipWs text) target)
      (hinteger : IntegerAt target integer)
      (hlong : rt.maxDigits.any fun m => m < (integer.filter isDigit).length) :
      Breaks rt s (.line text)
  | nesting {text : PyStr} (hdeep : loadLine rt text = .error .recursionError) :
      Breaks rt s (.line text)
  | request {text : PyStr} {message : Message F} (hload : loadLine rt text = .ok (.obj message))
      (hrequest : peerRequest message = true)
      (hdeep : rt.encodeRoom < max (getKey message "id").depth 1 + 1) :
      Breaks rt s (.line text)
  | surrogate {text delta : PyStr} {message : Message F}
      (hload : loadLine rt text = .ok (.obj message))
      (hstreams : Streams rt s message delta) (hlone : encode delta = none) :
      Breaks rt s (.line text)

/-! ### One pass -/

theorem Counted.append {text delta : PyStr} {received : Nat} {bytes : List UInt8}
    (h : Counted args text received) (hdelta : encode delta = some bytes)
    (hle : received + bytes.length ≤ args.maxResponseBytes) :
    Counted args (text ++ delta) (received + bytes.length) := by
  obtain ⟨front, hfront, hlength, -⟩ := h
  obtain ⟨cs, hcs, rfl⟩ := Option.map_eq_some_iff.mp hfront
  obtain ⟨ds, hds, rfl⟩ := Option.map_eq_some_iff.mp hdelta
  rw [toChars?_eq_some] at hcs hds
  refine ⟨encodeChars cs ++ encodeChars ds, ?_, ?_, hle⟩
  · rw [hcs, hds, ← ofChars_append, encode, toChars?_ofChars, Option.map_some,
      encodeChars_append]
  · rw [List.length_append, hlength]

section Message

variable {s : TurnState F} {message : Message F}

theorem depth_reply (mid : Value F) (key : String) :
    (Json.obj (reply mid key)).depth = max mid.depth 1 + 1 := by
  simp [reply, field, depth, depthEntries]

theorem contained_answer (hcounted : Counted args s.deltas.flatten s.received) {mid : Value F}
    (hflat : ¬ rt.encodeRoom < max mid.depth 1 + 1) (key : String) :
    (answer rt s mid key).Contained args := by
  unfold answer
  rw [depth_reply, if_neg hflat]
  exact hcounted

theorem contained_onCreated (hcounted : Counted args s.deltas.flatten s.received) :
    (onCreated args s message).Contained args := by
  unfold onCreated
  split
  · exact ⟨_, rfl⟩
  · split
    · exact ⟨_, rfl⟩
    · split
      · exact ⟨_, rfl⟩
      · exact hcounted

theorem contained_onSubscribed (hcounted : Counted args s.deltas.flatten s.received)
    (sessionId : PyStr) :
    (onSubscribed args s sessionId message).Contained args := by
  unfold onSubscribed
  split
  · exact ⟨_, rfl⟩
  · split
    · exact hcounted
    · exact hcounted

theorem contained_onDelta (hcounted : Counted args s.deltas.flatten s.received) {delta : PyStr}
    (hdelta : encode delta ≠ none) :
    (onDelta args s delta).Contained args := by
  obtain ⟨bytes, hbytes⟩ := Option.ne_none_iff_exists'.mp hdelta
  unfold onDelta
  rw [hbytes]
  dsimp only
  split
  · exact ⟨_, rfl⟩
  · rename_i hle
    show Counted args (s.deltas ++ [delta]).flatten (s.received + bytes.length)
    rw [List.flatten_append, List.flatten_singleton]
    exact hcounted.append hbytes (not_lt.mp hle)

theorem contained_onEvent (hcounted : Counted args s.deltas.flatten s.received) {params : Message F}
    (h : ∀ delta, isText (.lit "model.streaming") (getKey params "type") = true →
      textDelta (getKey params "payload") = some delta → encode delta ≠ none) :
    (onEvent args s params).Contained args := by
  unfold onEvent
  dsimp only
  split
  · rename_i hstreaming
    split
    · exact hcounted
    · rename_i delta hdelta
      exact contained_onDelta hcounted (h delta (Bool.and_eq_true_iff.mp hstreaming).1 hdelta)
  · split
    · exact hcounted
    · split
      · exact ⟨_, rfl⟩
      · exact hcounted

/-- A message is contained unless it is a request that cannot be answered, or a text delta that
    cannot be encoded. -/
theorem contained_onMessage (hcounted : Counted args s.deltas.flatten s.received)
    (hflat : peerRequest message = true → ¬ rt.encodeRoom < max (getKey message "id").depth 1 + 1)
    (h : ∀ delta, Streams rt s message delta → encode delta ≠ none) :
    (onMessage rt args s message).Contained args := by
  have hhandled := onMessage_handled rt args s message
  generalize onMessage rt args s message = turn at hhandled
  cases hhandled with
  | replied key hrequest => exact contained_answer hcounted (hflat hrequest) key
  | created hrequest hid hnone => exact contained_onCreated hcounted
  | subscribed sessionId hrequest hsession hid hfresh => exact contained_onSubscribed hcounted _
  | thoughtLevel sessionId hrequest hsession hsubscribe hid hunsent => exact hcounted
  | rejected hrest hid => exact ⟨_, rfl⟩
  | event params hrest hid hmethod hparams =>
    exact contained_onEvent hcounted fun delta htype hdelta =>
      h delta ⟨hrest, hid, hmethod, params, hparams, htype, hdelta⟩
  | ignored hrest hnot => exact hcounted

/-- A text delta that cannot be encoded raises. -/
theorem Streams.onMessage_raises {delta : PyStr} (h : Streams rt s message delta)
    (hlone : encode delta = none) :
    onMessage rt args s message = .raised s .unicodeEncodeError := by
  obtain ⟨hrest, hid, hmethod, params, hparams, htype, hdelta⟩ := h
  have hpayload : (asDict (getKey params "payload")).isSome := by
    obtain ⟨payload, hpayload, -⟩ := Option.bind_eq_some_iff.mp hdelta
    rw [hpayload]
    rfl
  have hevent : onEvent args s params = .raised s .unicodeEncodeError := by
    simp [onEvent, htype, hpayload, hdelta, onDelta, hlone]
  have hhandled := onMessage_handled rt args s message
  generalize onMessage rt args s message = turn at hhandled
  cases hhandled with
  | replied key hrequest =>
    rw [hrest.notRequest] at hrequest
    cases hrequest
  | created hrequest hone hnone => exact absurd hnone (hrest.notCreated hone)
  | subscribed sessionId hrequest hsession htwo hfresh =>
    rw [hrest.notSubscribed htwo (by simp [hsession])] at hfresh
    cases hfresh
  | thoughtLevel sessionId hrequest hsession hsubscribe hfour hunsent =>
    rw [hrest.notLevel hfour (by simp [hsession])] at hunsent
    cases hunsent
  | rejected _ hthree => exact absurd hthree hid
  | event params' _ _ _ hparams' =>
    obtain rfl := Option.some.inj (hparams.symm.trans hparams')
    exact hevent
  | ignored _ hnot => exact absurd ⟨hmethod, by simp [hparams]⟩ hnot

/-- A request whose id is nested too deep raises. -/
theorem onMessage_deep (hrequest : peerRequest message = true)
    (hdeep : rt.encodeRoom < max (getKey message "id").depth 1 + 1) :
    onMessage rt args s message = .raised s .recursionError := by
  have hhandled := onMessage_handled rt args s message
  generalize onMessage rt args s message = turn at hhandled
  cases hhandled with
  | replied key =>
    unfold answer
    rw [depth_reply, if_pos hdeep]
  | created hnot =>
    rw [hrequest] at hnot
    cases hnot
  | subscribed sessionId hnot =>
    rw [hrequest] at hnot
    cases hnot
  | thoughtLevel sessionId hnot =>
    rw [hrequest] at hnot
    cases hnot
  | rejected hrest => exact absurd hrequest (by simp [hrest.notRequest])
  | event params hrest => exact absurd hrequest (by simp [hrest.notRequest])
  | ignored hrest => exact absurd hrequest (by simp [hrest.notRequest])

end Message

/-- What the hooks raise is what they raise at an integer literal that the decoder comes to. -/
theorem loadLine_raises {text : PyStr} {e : TurnFault} :
    loadLine rt text = .error (.hook e) ↔
      text.head? ≠ some (.char '\ufeff') ∧
        ∃ target, Reaches (lineHooks rt) rt.decodeRoom (skipWs text) target ∧
          ∃ integer, IntegerAt target integer ∧
            (lineHooks rt).parseInt integer = .error e := by
  have hfloat : ∀ text, (lineHooks rt).parseFloat text ≠ .error e := fun _ => nofun
  have hconstant : ∀ text, (lineHooks rt).parseConstant text ≠ .error e := fun _ => nofun
  have hobjects : ∀ pairs, (lineHooks rt).objectPairs pairs ≠ .error e := fun _ => nofun
  unfold loadLine
  rw [loadsWithin_raises_iff, readValue_raises_iff hfloat hconstant hobjects]

theorem parseInt_raises {integer : PyStr} {e : TurnFault} :
    (lineHooks rt).parseInt integer = .error e ↔
      e = .valueError ∧
        (rt.maxDigits.any fun m => m < (integer.filter isDigit).length) = true := by
  unfold lineHooks plainHooks
  dsimp only
  split
  · rename_i hlong
    simp [hlong, eq_comm]
  · rename_i hshort
    simp [hshort]

theorem Breaks.escapes {s : TurnState F} {event : Event} (h : Breaks rt s event) :
    (∀ s', turnStep rt args s event ≠ .running s') ∧
      ¬ (turnStep rt args s event).Contained args := by
  cases h with
  | integer hmark hreach hinteger hlong =>
    have hload := loadLine_raises.mpr
      ⟨hmark, _, hreach, _, hinteger, parseInt_raises.mpr ⟨rfl, hlong⟩⟩
    simp [turnStep, hload, Turn.Contained]
  | nesting hdeep => simp [turnStep, hdeep, Turn.Contained]
  | request hload hrequest hdeep =>
    simp [turnStep, hload, onMessage_deep hrequest hdeep, Turn.Contained]
  | surrogate hload hstreams hlone =>
    simp [turnStep, hload, hstreams.onMessage_raises hlone, Turn.Contained]

theorem contained_turnStep {s : TurnState F}
    (hcounted : Counted args s.deltas.flatten s.received) {event : Event}
    (h : ¬ Breaks rt s event) :
    (turnStep rt args s event).Contained args := by
  cases event with
  | deadline => exact ⟨_, rfl⟩
  | silent alive =>
    cases alive with
    | false => exact ⟨_, rfl⟩
    | true => exact hcounted
  | line text =>
    rw [turnStep]
    split
    · exact ⟨_, rfl⟩
    · rename_i hload
      exact absurd (.nesting hload) h
    · rename_i e hload
      obtain ⟨hmark, _, hreach, _, hinteger, hraises⟩ := loadLine_raises.mp hload
      exact absurd (.integer hmark hreach hinteger (parseInt_raises.mp hraises).2) h
    · rename_i message hload
      exact contained_onMessage hcounted (fun hrequest hdeep => h (.request hload hrequest hdeep))
        fun delta hstreams hlone => h (.surrogate hload hstreams hlone)
    · exact ⟨_, rfl⟩

/-! ### A run -/

/-- Nothing is read after the end of a turn. -/
theorem foldl_advance_ended {turn : Turn F} (h : ∀ s, turn ≠ .running s)
    (events : List Event) : events.foldl (advance rt args) turn = turn := by
  induction events with
  | nil => rfl
  | cons event events ih =>
    have hsame : advance rt args turn event = turn := by
      unfold advance
      split
      · exact absurd rfl (h _)
      · rfl
    rw [List.foldl_cons, hsame, ih]

theorem contained_foldl {turn : Turn F} (h : turn.Contained args) (events : List Event) :
    (events.foldl (advance rt args) turn).Contained args ↔
      ∀ front event back, events = front ++ event :: back → ∀ s,
        front.foldl (advance rt args) turn = .running s →
          ¬ Breaks rt s event := by
  induction events generalizing turn with
  | nil => exact iff_of_true h fun front event back heq => by simp at heq
  | cons event events ih =>
    by_cases hrunning : ∃ s, turn = .running s
    · obtain ⟨s, rfl⟩ := hrunning
      rw [List.foldl_cons, show advance rt args (.running s) event =
        turnStep rt args s event from rfl]
      by_cases hbreaks : Breaks rt s event
      · refine iff_of_false ?_ fun hall => hall [] event events rfl s rfl hbreaks
        obtain ⟨hended, hescapes⟩ := hbreaks.escapes
        rw [foldl_advance_ended hended]
        exact hescapes
      · rw [ih (contained_turnStep h hbreaks)]
        constructor
        · intro hall front event' back heq s' hfront
          cases front with
          | nil =>
            obtain ⟨rfl, rfl⟩ := List.cons.inj heq
            cases hfront
            exact hbreaks
          | cons first front =>
            obtain ⟨rfl, rfl⟩ := List.cons.inj heq
            exact hall front event' back rfl s' hfront
        · rintro hall front event' back rfl s' hfront
          exact hall (event :: front) event' back rfl s' hfront
    · rw [foldl_advance_ended (not_exists.mp hrunning)]
      refine iff_of_true h fun front event' back _ s hfront => ?_
      rw [foldl_advance_ended (not_exists.mp hrunning)] at hfront
      exact absurd ⟨s, hfront⟩ hrunning

/-- A turn with valid arguments ends with what it counted, or with the error of the protocol,
    exactly when no event that it reads breaks. -/
theorem turn_contained_iff (rt : Runtime F) (args : TurnArgs) (hvalid : args.valid = true)
    (events : List Event) :
    (runTurn rt args events).Contained args ↔
      ∀ front event back, events = front ++ event :: back → ∀ s,
        runTurn rt args front = .running s → ¬ Breaks rt s event := by
  have hstart : (startTurn (F := F) args).Contained args := by
    rw [startTurn, if_pos hvalid]
    exact ⟨[], rfl, rfl, Nat.zero_le _⟩
  exact contained_foldl hstart events

/-- The arguments of an ordinary turn. -/
def plainTurn : TurnArgs := { prompt := .lit "hello", workspace := .lit "/w" }

theorem turn_contained_silent : (runTurn sampleRuntime plainTurn
    [.silent true, .deadline]).Contained plainTurn := by
  refine (turn_contained_iff sampleRuntime plainTurn (by decide) _).mpr ?_
  intro front event back heq s _ hbreaks
  have hevent : event ∈ [Event.silent true, .deadline] := heq ▸ List.mem_append_cons_self
  cases hbreaks <;> simp at hevent

/-- A delta that is the escape of a lone surrogate. -/
def loneDelta : Event :=
  .line (.lit ("\x7b\"method\":\"session/event\",\"params\":\x7b\"type\":\"model.streaming\"," ++
    "\"payload\":\x7b\"kind\":\"text_delta\",\"delta\":\"\\ud800\"\x7d\x7d\x7d"))

theorem lone_delta_escapes :
    ¬ (runTurn sampleRuntime plainTurn [loneDelta]).Contained plainTurn := by
  have hraised : (match runTurn sampleRuntime plainTurn [loneDelta] with
      | .raised _ fault => some fault
      | _ => none) = some .unicodeEncodeError := by
    decide +kernel
  split at hraised
  · rename_i heq
    rw [heq]
    rintro ⟨code, rfl⟩
    cases hraised
  · cases hraised

end AConductor.ZCode

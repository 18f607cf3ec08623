import AConductor.Lib.Trace
import AConductor.ZCode.Protocol

/-!
# How often a turn sends its prompt

Two branches of the loop send `session/send`: the response to `session/setThoughtLevel`
(`src/a_conductor/zcode_protocol.py:360-368`), which looks at `prompt_sent`, and the one to
`session/subscribe` (`zcode_protocol.py:342-359`), which does not. The prompt goes out
twice exactly when the second runs after the first.
-/

namespace AConductor.ZCode

variable {F : Type} {rt : Runtime F} {args : TurnArgs}

/-- A request that carries the prompt. -/
def isPrompt (message : Message F) : Bool := isText (.lit "session/send") (getKey message "method")

/-- How many prompts were sent. -/
def TurnState.prompts (s : TurnState F) : Nat := s.sent.countP isPrompt

/-- A request of the peer, answered before anything else is looked at
    (`zcode_protocol.py:302-310`). -/
def peerRequest (message : Message F) : Bool :=
  (isText (.lit "session/requestRuntimePreferences") (getKey message "method") ||
    isText (.lit "interaction/requestPermission") (getKey message "method")) &&
    !isNull (getKey message "id")

/-- An accepted answer to `session/subscribe` that finds the prompt already sent, in a turn
    without a thought level. -/
structure ResendsOn (rt : Runtime F) (args : TurnArgs) (s : TurnState F)
    (message : Message F) : Prop where
  noLevel : args.thoughtLevel = none
  notRequest : peerRequest message = false
  session : s.sessionId.isSome
  unsubscribed : s.subscribed = false
  subscribe : eqInt rt 2 (getKey message "id") = true
  accepted : hasKey message "error" = false
  promptSent : s.promptSent = true

/-- `ResendsOn`, for a pass of the loop. -/
def Resends (rt : Runtime F) (args : TurnArgs) (turn : Turn F) (event : Event) : Prop :=
  ∃ s text message, turn = .running s ∧ event = .line text ∧
    loadLine rt text = .ok (.obj message) ∧ ResendsOn rt args s message

/-! ### One message -/

/-- The message is neither a request of the peer nor a response that is waited for. -/
structure Unawaited (rt : Runtime F) (s : TurnState F) (message : Message F) : Prop where
  notRequest : peerRequest message = false
  notCreated : eqInt rt 1 (getKey message "id") = true → s.sessionId ≠ none
  notSubscribed : eqInt rt 2 (getKey message "id") = true → s.sessionId.isSome →
    s.subscribed = true
  notLevel : eqInt rt 4 (getKey message "id") = true → s.sessionId.isSome →
    s.promptSent = true

/-- The branches of the loop for a message (`zcode_protocol.py:302-393`). -/
inductive Handled (rt : Runtime F) (args : TurnArgs) (s : TurnState F) (message : Message F) :
    Turn F → Prop where
  | replied (key : String) (hrequest : peerRequest message = true) :
      Handled rt args s message (answer rt s (getKey message "id") key)
  | created (hrequest : peerRequest message = false)
      (hid : eqInt rt 1 (getKey message "id") = true) (hnone : s.sessionId = none) :
      Handled rt args s message (onCreated args s message)
  | subscribed (sessionId : PyStr) (hrequest : peerRequest message = false)
      (hsession : s.sessionId = some sessionId)
      (hid : eqInt rt 2 (getKey message "id") = true) (hfresh : s.subscribed = false) :
      Handled rt args s message (onSubscribed args s sessionId message)
  | thoughtLevel (sessionId : PyStr) (hrequest : peerRequest message = false)
      (hsession : s.sessionId = some sessionId)
      (hsubscribe : eqInt rt 2 (getKey message "id") = true → s.subscribed = true)
      (hid : eqInt rt 4 (getKey message "id") = true) (hunsent : s.promptSent = false) :
      Handled rt args s message (onThoughtLevel args s sessionId)
  | rejected (hrest : Unawaited rt s message)
      (hid : eqInt rt 3 (getKey message "id") = true ∧ hasKey message "error" = true) :
      Handled rt args s message (failed s "PROMPT_SEND_REJECTED")
  | event (params : Message F) (hrest : Unawaited rt s message)
      (hid : ¬ (eqInt rt 3 (getKey message "id") = true ∧ hasKey message "error" = true))
      (hmethod : isText (.lit "session/event") (getKey message "method") = true)
      (hparams : asDict (getKey message "params") = some params) :
      Handled rt args s message (onEvent args s params)
  | ignored (hrest : Unawaited rt s message)
      (hnot : ¬ (isText (.lit "session/event") (getKey message "method") = true ∧
        (asDict (getKey message "params")).isSome)) :
      Handled rt args s message (.running s)

variable {s : TurnState F}

theorem Unawaited.not_resends {message : Message F} (h : Unawaited rt s message) :
    ¬ ResendsOn rt args s message := by
  intro hresends
  have hsubscribed := h.notSubscribed hresends.subscribe hresends.session
  rw [hresends.unsubscribed] at hsubscribed
  cases hsubscribed

/-- A message is handled by one of the branches. -/
theorem onMessage_handled (rt : Runtime F) (args : TurnArgs) (s : TurnState F)
    (message : Message F) : Handled rt args s message (onMessage rt args s message) := by
  unfold onMessage
  dsimp only
  by_cases hpreferences : (isText (.lit "session/requestRuntimePreferences")
      (getKey message "method") && !isNull (getKey message "id")) = true
  · rw [if_pos hpreferences]
    exact .replied _ (by unfold peerRequest; grind)
  rw [if_neg hpreferences]
  by_cases hpermission : (isText (.lit "interaction/requestPermission")
      (getKey message "method") && !isNull (getKey message "id")) = true
  · rw [if_pos hpermission]
    exact .replied _ (by unfold peerRequest; grind)
  rw [if_neg hpermission]
  have hrequest : peerRequest message = false := by
    unfold peerRequest
    grind
  by_cases hcreate : (eqInt rt 1 (getKey message "id") && s.sessionId.isNone) = true
  · rw [if_pos hcreate]
    rw [Bool.and_eq_true, Option.isNone_iff_eq_none] at hcreate
    exact .created hrequest hcreate.1 hcreate.2
  rw [if_neg hcreate]
  split
  · -- the response to `session/subscribe`
    rename_i sessionId hsession hsubscribe
    rw [Bool.and_eq_true, Bool.not_eq_true'] at hsubscribe
    exact .subscribed sessionId hrequest hsession hsubscribe.1 hsubscribe.2
  · -- the response to `session/setThoughtLevel`
    rename_i sessionId hsession hsubscribe hlevel
    rw [Bool.and_eq_true, Bool.not_eq_true'] at hlevel
    exact .thoughtLevel sessionId hrequest hsession (by grind) hlevel.1 hlevel.2
  · -- anything else
    rename_i hnone hno
    have hrest : Unawaited rt s message := by
      refine ⟨hrequest, by grind, ?_, ?_⟩
      · intro hid hsome
        obtain ⟨sessionId, hsession⟩ := Option.isSome_iff_exists.mp hsome
        by_contra hfresh
        exact hnone sessionId hsession (by simp [hid, hfresh])
      · intro hid hsome
        obtain ⟨sessionId, hsession⟩ := Option.isSome_iff_exists.mp hsome
        by_contra hunsent
        by_cases hsubscribe : (eqInt rt 2 (getKey message "id") && !s.subscribed) = true
        · exact hnone sessionId hsession hsubscribe
        · exact hno sessionId hsession (by simpa using hsubscribe) (by simp [hid, hunsent])
    by_cases hreject : (eqInt rt 3 (getKey message "id") && hasKey message "error") = true
    · rw [if_pos hreject]
      exact .rejected hrest (by simpa using hreject)
    rw [if_neg hreject]
    by_cases hmethod : isText (.lit "session/event") (getKey message "method") = true
    · rw [if_pos hmethod]
      cases hparams : asDict (getKey message "params") with
      | none => exact .ignored hrest (by simp [hparams])
      | some params => exact .event params hrest (by simpa using hreject) hmethod hparams
    · rw [if_neg hmethod]
      exact .ignored hrest (fun h => hmethod h.1)

/-- The turn goes on or ends with no prompt sent. -/
structure Quiet (s : TurnState F) (turn : Turn F) : Prop where
  prompts : turn.state.prompts = s.prompts
  promptSent : turn.state.promptSent = s.promptSent

/-- One prompt is sent. -/
structure Prompted (s : TurnState F) (turn : Turn F) : Prop where
  prompts : turn.state.prompts = s.prompts + 1
  promptSent : turn.state.promptSent = true

theorem prompts_send (s : TurnState F) (message : Message F) :
    (s.send message).prompts = s.prompts + if isPrompt message then 1 else 0 := by
  unfold TurnState.prompts TurnState.send
  rw [List.countP_append, List.countP_singleton]

theorem isPrompt_reply (mid : Value F) (key : String) : isPrompt (reply mid key) = false := rfl

theorem isPrompt_createRequest (args : TurnArgs) : isPrompt (F := F) (createRequest args) = false :=
  rfl

theorem isPrompt_subscribeRequest (sessionId : PyStr) :
    isPrompt (F := F) (subscribeRequest sessionId) = false := rfl

theorem isPrompt_thoughtLevelRequest (sessionId level : PyStr) :
    isPrompt (F := F) (thoughtLevelRequest sessionId level) = false := rfl

theorem isPrompt_promptRequest (sessionId prompt : PyStr) :
    isPrompt (F := F) (promptRequest sessionId prompt) = true := rfl

theorem quiet_failed (s : TurnState F) (code : String) : Quiet s (failed s code) := ⟨rfl, rfl⟩

theorem quiet_send {message : Message F} (h : isPrompt message = false) :
    Quiet s (.running (s.send message)) where
  prompts := by
    have hsend := prompts_send s message
    rw [h] at hsend
    exact hsend
  promptSent := rfl

theorem quiet_answer (s : TurnState F) (mid : Value F) (key : String) :
    Quiet s (answer rt s mid key) := by
  unfold answer
  split
  · exact ⟨rfl, rfl⟩
  · exact quiet_send (isPrompt_reply mid key)

theorem quiet_onCreated (s : TurnState F) (message : Message F) :
    Quiet s (onCreated args s message) := by
  unfold onCreated
  by_cases herror : hasKey message "error" = true
  · rw [if_pos herror]
    exact quiet_failed s _
  · rw [if_neg herror]
    cases createdSession message with
    | none => exact quiet_failed s _
    | some created =>
      obtain ⟨result, sessionId⟩ := created
      dsimp only
      cases attestation args result with
      | some code => exact quiet_failed s code
      | none =>
        have hsend := quiet_send (s := { s with sessionId := some sessionId })
          (isPrompt_subscribeRequest (F := F) sessionId)
        exact ⟨hsend.prompts, hsend.promptSent⟩

theorem quiet_onDelta (s : TurnState F) (delta : PyStr) : Quiet s (onDelta args s delta) := by
  unfold onDelta
  cases PyStr.encode delta with
  | none => exact ⟨rfl, rfl⟩
  | some bytes =>
    dsimp only
    split
    · exact ⟨rfl, rfl⟩
    · exact ⟨rfl, rfl⟩

theorem quiet_onEvent (s : TurnState F) (params : Message F) : Quiet s (onEvent args s params) := by
  unfold onEvent
  dsimp only
  split
  · cases textDelta (getKey params "payload") with
    | none => exact ⟨rfl, rfl⟩
    | some delta => exact quiet_onDelta s delta
  · split
    · exact ⟨rfl, rfl⟩
    · split
      · exact quiet_failed s _
      · exact ⟨rfl, rfl⟩

theorem prompted_onThoughtLevel (s : TurnState F) (sessionId : PyStr) :
    Prompted s (onThoughtLevel args s sessionId) where
  prompts := by
    have hsend := prompts_send s (promptRequest sessionId args.prompt)
    rw [isPrompt_promptRequest] at hsend
    exact hsend
  promptSent := rfl

/-- The answer to `session/subscribe` sends the prompt, unless it is refused or the thought
    level comes first. -/
theorem onSubscribed_sends (args : TurnArgs) (s : TurnState F) (sessionId : PyStr) (message : Message F) :
    if hasKey message "error" = false ∧ args.thoughtLevel = none then
      Prompted s (onSubscribed args s sessionId message)
    else Quiet s (onSubscribed args s sessionId message) := by
  unfold onSubscribed
  by_cases herror : hasKey message "error" = true
  · rw [if_neg (by simp [herror]), if_pos herror]
    exact quiet_failed s _
  · rw [if_neg herror]
    cases hlevel : args.thoughtLevel with
    | some level =>
      rw [if_neg (by simp)]
      have hsend := quiet_send (s := { s with subscribed := true })
        (isPrompt_thoughtLevelRequest (F := F) sessionId level)
      exact ⟨hsend.prompts, hsend.promptSent⟩
    | none =>
      rw [if_pos ⟨by simpa using herror, rfl⟩]
      have hsend := prompts_send { s with subscribed := true } (promptRequest sessionId args.prompt)
      rw [isPrompt_promptRequest] at hsend
      exact ⟨hsend, rfl⟩

/-- What one message does to the prompts sent: none is, or one is; of the two branches that
    send one, only the answer to `session/subscribe` does it again. -/
theorem onMessage_sends (rt : Runtime F) (args : TurnArgs) (s : TurnState F)
    (message : Message F) :
    (Quiet s (onMessage rt args s message) ∧ ¬ ResendsOn rt args s message) ∨
      (Prompted s (onMessage rt args s message) ∧
        (s.promptSent = true → ResendsOn rt args s message)) := by
  have hhandled := onMessage_handled rt args s message
  generalize onMessage rt args s message = turn at hhandled
  cases hhandled with
  | replied key hrequest =>
    refine .inl ⟨quiet_answer s _ key, fun h => ?_⟩
    rw [h.notRequest] at hrequest
    cases hrequest
  | created hrequest hid hnone =>
    refine .inl ⟨quiet_onCreated s message, fun h => ?_⟩
    have hsession := h.session
    rw [hnone] at hsession
    cases hsession
  | subscribed sessionId hrequest hsession hid hfresh =>
    have hsends := onSubscribed_sends args s sessionId message
    by_cases haccepted : hasKey message "error" = false ∧ args.thoughtLevel = none
    · rw [if_pos haccepted] at hsends
      refine .inr ⟨hsends, fun hsent => ?_⟩
      exact ⟨haccepted.2, hrequest, by simp [hsession], hfresh, hid, haccepted.1, hsent⟩
    · rw [if_neg haccepted] at hsends
      exact .inl ⟨hsends, fun h => haccepted ⟨h.accepted, h.noLevel⟩⟩
  | thoughtLevel sessionId hrequest hsession hsubscribe hid hunsent =>
    refine .inr ⟨prompted_onThoughtLevel s sessionId, fun hsent => ?_⟩
    rw [hunsent] at hsent
    cases hsent
  | rejected hrest hid => exact .inl ⟨quiet_failed s _, hrest.not_resends⟩
  | event params hrest hid hmethod hparams => exact .inl ⟨quiet_onEvent s params, hrest.not_resends⟩
  | ignored hrest => exact .inl ⟨⟨rfl, rfl⟩, hrest.not_resends⟩

/-! ### A pass of the loop, and a run -/

/-- A pass that reads no message sends nothing again. -/
theorem not_resends {event : Event}
    (h : ∀ text message, event = .line text → loadLine rt text ≠ .ok (.obj message)) :
    ¬ Resends rt args (.running s) event := by
  rintro ⟨s', text, message, -, hevent, hload, -⟩
  exact h text message hevent hload

theorem advance_sends (turn : Turn F) (event : Event) :
    (Quiet turn.state (advance rt args turn event) ∧ ¬ Resends rt args turn event) ∨
      (Prompted turn.state (advance rt args turn event) ∧
        (turn.state.promptSent = true → Resends rt args turn event)) := by
  cases turn with
  | returned s result =>
    refine .inl ⟨⟨rfl, rfl⟩, ?_⟩
    rintro ⟨s', text, message, hturn, -⟩
    cases hturn
  | raised s fault =>
    refine .inl ⟨⟨rfl, rfl⟩, ?_⟩
    rintro ⟨s', text, message, hturn, -⟩
    cases hturn
  | running s =>
    unfold advance turnStep
    dsimp only [Turn.state]
    cases event with
    | deadline => exact .inl ⟨quiet_failed s _, not_resends (by simp)⟩
    | silent alive =>
      cases alive with
      | true => exact .inl ⟨⟨rfl, rfl⟩, not_resends (by simp)⟩
      | false => exact .inl ⟨quiet_failed s _, not_resends (by simp)⟩
    | line text =>
      dsimp only
      split
      · rename_i hload
        exact .inl ⟨quiet_failed s _, not_resends (by grind)⟩
      · rename_i hload
        exact .inl ⟨⟨rfl, rfl⟩, not_resends (by grind)⟩
      · rename_i hload
        exact .inl ⟨⟨rfl, rfl⟩, not_resends (by grind)⟩
      · rename_i message hload
        rcases onMessage_sends rt args s message with
          ⟨hturn, hnot⟩ | ⟨hturn, hagain⟩
        · refine .inl ⟨hturn, ?_⟩
          rintro ⟨s', text', message', hs, htext, hload', hresends⟩
          cases hs
          cases htext
          rw [hload] at hload'
          cases hload'
          exact hnot hresends
        · exact .inr ⟨hturn, fun hsent => ⟨s, text, message, rfl, rfl, hload, hagain hsent⟩⟩
      · rename_i hload
        exact .inl ⟨quiet_failed s _, not_resends (by grind)⟩

theorem runTurn_snoc (events : List Event) (event : Event) :
    runTurn rt args (events ++ [event]) =
      advance rt args (runTurn rt args events) event := by
  unfold runTurn
  rw [List.foldl_append]
  rfl

/-- Before the prompt is sent there is none, and after it there is one. -/
theorem promptSent_iff (rt : Runtime F) (args : TurnArgs) (events : List Event) :
    (runTurn rt args events).state.promptSent = true ↔
      1 ≤ (runTurn rt args events).state.prompts := by
  induction events using List.reverseRecOn with
  | nil =>
    unfold runTurn startTurn
    rw [List.foldl_nil]
    split
    · constructor
      · intro h
        cases h
      · intro h
        have hnone : [createRequest (F := F) args].countP isPrompt = 0 := by
          rw [List.countP_singleton, isPrompt_createRequest]
          rfl
        unfold TurnState.prompts at h
        dsimp only [Turn.state] at h
        omega
    · constructor
      · intro h
        cases h
      · intro h
        cases h
  | append_singleton events event ih =>
    rw [runTurn_snoc]
    rcases advance_sends (runTurn rt args events) event with ⟨hquiet, -⟩ | ⟨hsent, -⟩
    · rw [hquiet.prompts, hquiet.promptSent]
      exact ih
    · rw [hsent.prompts]
      exact ⟨fun _ => by omega, fun _ => hsent.promptSent⟩

/-- A turn sends its prompt at most once if and only if no accepted answer to
    `session/subscribe` finds it already sent. -/
theorem prompt_sent_at_most_once (rt : Runtime F) (args : TurnArgs) (events : List Event) :
    (runTurn rt args events).state.prompts ≤ 1 ↔
      ∀ before event after, events = before ++ event :: after →
        ¬ Resends rt args (runTurn rt args before) event := by
  induction events using List.reverseRecOn with
  | nil =>
    constructor
    · intro _ before event after heq
      simp at heq
    · intro _
      unfold runTurn startTurn TurnState.prompts
      rw [List.foldl_nil]
      split
      · exact List.countP_le_length
      · exact Nat.zero_le 1
  | append_singleton events event ih =>
    have hsplit : Interleave.Justified
        (fun before e => ¬ Resends rt args (runTurn rt args before) e) (events ++ [event]) ↔
        _ := Interleave.justified_snoc
    unfold Interleave.Justified at hsplit
    have hsent := promptSent_iff rt args events
    rw [hsplit, ← ih, runTurn_snoc]
    rcases advance_sends (runTurn rt args events) event with
      ⟨hquiet, hnot⟩ | ⟨hprompted, hagain⟩
    · rw [hquiet.prompts]
      exact ⟨fun h => ⟨h, hnot⟩, fun h => h.1⟩
    · rw [hprompted.prompts]
      constructor
      · intro hle
        refine ⟨by omega, ?_⟩
        rintro ⟨s, text, message, hturn, -, -, hresends⟩
        have hone := hresends.promptSent
        rw [hturn] at hsent hle
        have := hsent.mp hone
        omega
      · rintro ⟨-, hnot⟩
        by_contra hmore
        exact hnot (hagain (hsent.mpr (by omega)))

/-- A runtime without floats. -/
def sampleRuntime : Runtime Unit where
  read _ := ()
  eqInt _ _ := false
  text _ := []
  maxDigits := none
  decodeRoom := 994
  encodeRoom := 990

/-- The session is created; then a response nobody asked for; then the subscription. -/
def earlyThoughtLevel : List Event :=
  [.line (.lit "\x7b\"id\":1,\"result\":\x7b\"session\":\x7b\"sessionId\":\"s\"\x7d\x7d\x7d"),
    .line (.lit "\x7b\"id\":4\x7d"), .line (.lit "\x7b\"id\":2\x7d")]

theorem early_thought_level_resends : (runTurn sampleRuntime ⟨.lit "hello", .lit "/w", .lit "plan", none,
    none, 65536⟩ earlyThoughtLevel).state.prompts = 2 := by
  decide +kernel

end AConductor.ZCode

import AConductor.Relay.AppendRead
import AConductor.Relay.SteerProgress

/-!
# The receipt of a steer request

`build_ack_receipt` (`src/a_conductor/sidecar_codex_bridge.py:768-823`) puts `relay-event:` in front of
the event id of the request. The colon stands in no needle and no credential form that the carrier
looks for, so the composed reference is as safe as the id, and the receipt of any request that the
carrier accepted is accepted as well.
-/

namespace AConductor.Relay

open List Except

theorem infix_split {α : Type} {l a b : List α} {c : α} (h : l <:+: a ++ c :: b) (hc : c ∉ l) :
    l <:+: a ∨ l <:+: b := by
  obtain ⟨s, t, hst⟩ := h
  rw [append_assoc] at hst
  rcases append_eq_append_iff.mp hst with ⟨u, hu, hrest⟩ | ⟨u, hu, hrest⟩
  · -- `l` starts within `a`
    rcases append_eq_append_iff.mp hrest with ⟨v, hv, -⟩ | ⟨v, hv, hcb⟩
    · exact .inl ⟨s, v, by rw [hu, hv, append_assoc]⟩
    · cases v with
      | nil =>
        rw [append_nil] at hv
        exact .inl ⟨s, [], by rw [hv, append_nil, hu]⟩
      | cons d v =>
        cases hcb
        exact absurd (by rw [hv]; simp) hc
  · cases u with
    | nil =>
      cases l with
      | nil => exact .inr (List.nil_infix)
      | cons d l =>
        cases hrest
        exact absurd mem_cons_self hc
    | cons d u =>
      cases hrest
      exact .inr ⟨u, t, append_assoc _ _ _⟩

variable {s : PyStr} {c : CodePoint}

theorem contains_iff {needle : String} : contains needle s = true ↔ PyStr.lit needle <:+: s := by
  unfold contains
  rw [any_eq_true]
  constructor
  · rintro ⟨t, ht, hneedle⟩
    exact (List.isPrefixOf_iff_prefix.mp hneedle).isInfix.trans ((mem_tails _ _).mp ht).isInfix
  · rintro ⟨before, after, rfl⟩
    refine ⟨PyStr.lit needle ++ after, (mem_tails _ _).mpr ⟨before, ?_⟩, ?_⟩
    · rw [append_assoc]
    · exact isPrefixOf_iff_prefix.mpr ⟨after, rfl⟩

/-- A credential form is found where its start is followed by a run of its class. -/
theorem found_iff {p : SecretPattern} : p.found s = true ↔
    ∃ run : PyStr, PyStr.lit p.start ++ run <:+: s ∧ run.length = p.count ∧
      ∀ c ∈ run, p.cls c = true := by
  have hlength : (PyStr.lit p.start).length = p.start.length := by
    unfold PyStr.lit
    rw [PyStr.length_ofChars, String.length_toList]
  unfold SecretPattern.found
  rw [any_eq_true]
  constructor
  · rintro ⟨t, ht, hfound⟩
    rw [Bool.and_eq_true, decide_eq_true_eq] at hfound
    obtain ⟨hstart, hcount⟩ := hfound
    obtain ⟨rest, rfl⟩ := isPrefixOf_iff_prefix.mp hstart
    rw [← hlength, drop_left] at hcount
    refine ⟨(rest.takeWhile p.cls).take p.count, ?_, length_take_of_le hcount, fun c hc => ?_⟩
    · obtain ⟨after, hafter⟩ :=
        (List.take_prefix p.count (rest.takeWhile p.cls)).trans (List.takeWhile_prefix p.cls)
      refine List.IsInfix.trans ⟨[], after, ?_⟩ ((mem_tails _ _).mp ht).isInfix
      rw [nil_append, append_assoc, hafter]
    · exact all_eq_true.mp all_takeWhile c (mem_of_mem_take hc)
  · rintro ⟨run, ⟨before, after, rfl⟩, hcount, hrun⟩
    refine ⟨PyStr.lit p.start ++ run ++ after, (mem_tails _ _).mpr ⟨before, ?_⟩, ?_⟩
    · rw [append_assoc, append_assoc, append_assoc]
    · rw [Bool.and_eq_true, decide_eq_true_eq, append_assoc]
      refine ⟨List.isPrefixOf_iff_prefix.mpr ⟨_, rfl⟩, ?_⟩
      rw [← hlength, drop_left, ← hcount, takeWhile_append_of_pos hrun]
      simp

def colon : CodePoint := .char ':'

theorem contains_colon {needle : String} {a b : PyStr} (hcolon : colon ∉ PyStr.lit needle)
    (ha : contains needle a = false) (hb : contains needle b = false) :
    contains needle (a ++ colon :: b) = false := by
  rw [← Bool.not_eq_true, contains_iff] at *
  intro h
  exact (infix_split h hcolon).elim ha hb

theorem found_colon {p : SecretPattern} {a b : PyStr} (hcolon : colon ∉ PyStr.lit p.start)
    (hcls : p.cls colon = false) (ha : p.found a = false) (hb : p.found b = false) :
    p.found (a ++ colon :: b) = false := by
  rw [← Bool.not_eq_true, found_iff] at *
  rintro ⟨run, hfound, hcount, hrun⟩
  have hnot : colon ∉ PyStr.lit p.start ++ run := by
    rw [mem_append, not_or]
    refine ⟨hcolon, fun hmem => ?_⟩
    exact hcls (hrun colon hmem)
  rcases infix_split hfound hnot with h | h
  · exact ha ⟨run, h, hcount, hrun⟩
  · exact hb ⟨run, h, hcount, hrun⟩

theorem tokenChar_code (h : tokenChar c = true) :
    45 ≤ c.code ∧ c.code ≤ 122 ∧ c.code ≠ 47 ∧ c.code ≠ 58 := by
  unfold tokenChar isAlnum isLower isUpper Json.isDigit oneOf at h
  simp only [Bool.or_eq_true, Bool.and_eq_true, decide_eq_true_eq] at h
  rcases h with ((h | h) | h) | h
  · omega
  · omega
  · omega
  · have hcode : ∀ d ∈ PyStr.lit "._-", 45 ≤ d.code ∧ d.code ≤ 122 ∧ d.code ≠ 47 ∧ d.code ≠ 58 := by
      decide
    exact hcode c h

theorem isSpace_of_tokenChar (h : tokenChar c = true) : isSpace c = false := by
  obtain ⟨hlow, hhigh, -⟩ := tokenChar_code h
  cases c with
  | surrogate n => rfl
  | char c =>
    simp only [CodePoint.code] at hlow hhigh
    unfold isSpace Text.isSpace
    simp only [Bool.or_eq_false_iff, Bool.and_eq_false_iff, decide_eq_false_iff_not]
    omega

theorem safeTokenRe_chars (h : safeTokenRe s = true) : ∀ c ∈ s, tokenChar c = true := by
  cases s with
  | nil => cases h
  | cons first rest =>
    unfold safeTokenRe matches₁ at h
    rw [Bool.and_eq_true, all_eq_true] at h
    intro c hc
    rcases mem_cons.mp hc with rfl | hc
    · unfold tokenChar
      rw [h.1]
      rfl
    · exact h.2 c hc

theorem eventTail_eq_ok {surface rest tail : PyStr} {surfaces : List PyStr}
    (h : eventTail surface rest surfaces = .ok tail) :
    ∃ s ∈ surfaces, rest = s ++ (PyStr.lit "-" ++ tail) := by
  induction surfaces with
  | nil => cases h
  | cons s surfaces ih =>
    unfold eventTail at h
    split at h
    · rename_i hstart
      split at h
      · cases h
      · cases h
        obtain ⟨tail, htail⟩ := isPrefixOf_iff_prefix.mp hstart
        refine ⟨s, mem_cons_self, ?_⟩
        have hdrop : (s ++ PyStr.lit "-" ++ tail).drop (s.length + 1) = tail := by
          have hlength : s.length + 1 = (s ++ PyStr.lit "-").length := by
            rw [length_append]
            rfl
          rw [hlength, drop_left]
        rw [← htail, hdrop, append_assoc]
    · obtain ⟨t, ht, hrest⟩ := ih h
      exact ⟨t, mem_cons_of_mem _ ht, hrest⟩

variable {env : RelayEnv}

/-- An event id is made of token characters. -/
theorem eventId_chars {surface id : PyStr} (h : validateEventId env surface (.str id) = .ok id) :
    id ≠ [] ∧ id.length ≤ 148 ∧ checkSafeText env id = .ok () ∧ ∀ c ∈ id, tokenChar c = true := by
  unfold validateEventId at h
  obtain ⟨text, htext, h⟩ := bind_eq_ok.mp h
  obtain ⟨_, hstart, h⟩ := bind_eq_ok.mp h
  obtain ⟨tail, htail, h⟩ := bind_eq_ok.mp h
  obtain ⟨_, htoken, h⟩ := bind_eq_ok.mp h
  cases h
  obtain ⟨hne, hlength, -, hsafe⟩ := requireText_shape htext
  refine ⟨hne, hlength, hsafe, fun c hc => ?_⟩
  rw [rejectIf_eq_ok] at hstart htoken
  rw [not_or, Bool.not_eq_false] at htoken
  rw [Bool.not_eq_false] at hstart
  obtain ⟨rest, rfl⟩ := isPrefixOf_iff_prefix.mp hstart
  have hdrop : (PyStr.lit "evt-" ++ rest).drop (PyStr.lit "evt-").length = rest := drop_left
  have hfour : (PyStr.lit "evt-").length = 4 := by decide
  rw [hfour] at hdrop
  rw [hdrop] at htail
  obtain ⟨s, hs, rfl⟩ := eventTail_eq_ok htail
  have hsurface : ∀ s ∈ surfacesByLength, ∀ c ∈ s, tokenChar c = true := by decide +kernel
  have hliteral : ∀ c ∈ PyStr.lit "evt-" ++ PyStr.lit "-", tokenChar c = true := by decide +kernel
  simp only [mem_append] at hc hliteral
  rcases hc with hc | hc | hc | hc
  · exact hliteral c (.inl hc)
  · exact hsurface s hs c hc
  · exact hliteral c (.inr hc)
  · exact safeTokenRe_chars htoken.1 c hc

/-- `str.lower` of an ASCII character. -/
def lowerAscii : CodePoint → CodePoint
  | .char c => .char c.toLower
  | c => c

/-- What the surroundings do with ASCII: no printable character is unsafe, and `str.lower` goes
    character by character. -/
structure AsciiText (env : RelayEnv) : Prop where
  safe : ∀ c : Char, 0x20 ≤ c.toNat → c.toNat < 0x7f → env.unsafeChar c = false
  lower : ∀ s : PyStr, (∀ c ∈ s, c.code < 0x80) → env.lower s = s.map lowerAscii

theorem AsciiText.safe_text (h : AsciiText env) (hs : ∀ c ∈ s, 0x20 ≤ c.code ∧ c.code < 0x7f) :
    s.any (unsafeCategory env) = false := by
  rw [any_eq_false]
  intro c hc
  obtain ⟨hlow, hhigh⟩ := hs c hc
  cases c with
  | char c =>
    rw [unsafeCategory, h.safe c hlow hhigh]
    exact Bool.false_ne_true
  | surrogate n =>
    simp only [CodePoint.code] at hhigh
    omega

theorem relayEventRef_eq (id : PyStr) :
    relayEventRefPrefix ++ id = PyStr.lit "relay-event" ++ colon :: id := rfl

theorem strip_of_no_space (h : ∀ c ∈ s, isSpace c = false) : strip s = s := by
  have hdrop {t : PyStr} (ht : ∀ c ∈ t, isSpace c = false) : t.dropWhile isSpace = t := by
    cases t with
    | nil => rfl
    | cons c t => rw [dropWhile_cons_of_neg (by rw [ht c mem_cons_self]; simp)]
  unfold strip
  rw [hdrop h, hdrop (fun c hc => h c (mem_reverse.mp hc)), reverse_reverse]

theorem requireText_of_shape {maxLen : Nat} (hne : s ≠ []) (hlength : s.length ≤ maxLen)
    (hstrip : s = strip s) (hsafe : checkSafeText env s = .ok ()) :
    requireText env maxLen (.str s) = .ok s := by
  dsimp only [requireText]
  rw [rejectIf_neg (by simp [hne, ← hstrip, hlength]), ok_bind, hsafe]
  rfl

theorem requireMatch_of_text {maxLen : Nat} {grammar : PyStr → Bool}
    (htext : requireText env maxLen (.str s) = .ok s) (hgrammar : grammar s = true) :
    requireMatch env maxLen grammar (.str s) = .ok s := by
  unfold requireMatch
  rw [htext, ok_bind, rejectIf_neg (by simp [hgrammar])]
  rfl

/-- The reference to an event whose id the carrier accepted is accepted. -/
theorem relayEventRef_accepted (henv : AsciiText env) {id : PyStr}
    (hlength : id.length ≤ 148) (hsafe : checkSafeText env id = .ok ())
    (hchars : ∀ c ∈ id, tokenChar c = true) :
    evidenceRef env (.str (relayEventRefPrefix ++ id)) = .ok (relayEventRefPrefix ++ id) := by
  obtain ⟨hsafeChars, hbegin, hsecret⟩ := checkSafeText_eq_ok.mp hsafe
  have hpre : ∀ c ∈ relayEventRefPrefix,
      (0x20 ≤ c.code ∧ c.code < 0x7f) ∧ isSpace c = false ∧ c.code ≠ 47 := by decide +kernel
  have hascii : ∀ c ∈ relayEventRefPrefix ++ id, 0x20 ≤ c.code ∧ c.code < 0x7f := by
    intro c hc
    rcases mem_append.mp hc with hc | hc
    · exact (hpre c hc).1
    · have hcode := tokenChar_code (hchars c hc)
      omega
  have hstrip : strip (relayEventRefPrefix ++ id) = relayEventRefPrefix ++ id := by
    refine strip_of_no_space fun c hc => ?_
    rcases mem_append.mp hc with hc | hc
    · exact (hpre c hc).2.1
    · exact isSpace_of_tokenChar (hchars c hc)
  have hurl : contains "://" (relayEventRefPrefix ++ id) = false := by
    rw [← Bool.not_eq_true, contains_iff]
    intro hfound
    have hslash : CodePoint.char '/' ∈ relayEventRefPrefix ++ id := hfound.subset (by decide)
    rcases mem_append.mp hslash with hc | hc
    · exact (hpre _ hc).2.2 rfl
    · exact (tokenChar_code (hchars _ hc)).2.2.1 rfl
  have hlower : contains "-----begin" (env.lower (relayEventRefPrefix ++ id)) = false := by
    rw [henv.lower id fun c hc => by have hcode := tokenChar_code (hchars c hc); omega] at hbegin
    rw [henv.lower _ fun c hc => by have hcode := hascii c hc; omega, relayEventRef_eq,
      map_append, map_cons]
    exact contains_colon (by decide) (by decide +kernel) hbegin
  have hforms : (secretTokens.any fun p => p.found (relayEventRefPrefix ++ id)) = false := by
    have hstarts : ∀ p ∈ secretTokens, colon ∉ PyStr.lit p.start ∧ p.cls colon = false ∧
        p.found (.lit "relay-event") = false := by decide +kernel
    rw [any_eq_false] at hsecret ⊢
    intro p hp
    obtain ⟨hcolon, hcls, hfront⟩ := hstarts p hp
    rw [relayEventRef_eq, found_colon hcolon hcls hfront (by simpa using hsecret p hp)]
    exact Bool.false_ne_true
  have hcheck : checkSafeText env (relayEventRefPrefix ++ id) = .ok () :=
    checkSafeText_eq_ok.mpr ⟨henv.safe_text hascii, hlower, hforms⟩
  refine requireMatch_of_text (requireText_of_shape ?_ ?_ hstrip.symm hcheck) ?_
  · rw [relayEventRef_eq]
    exact append_ne_nil_of_right_ne_nil _ (cons_ne_nil _ _)
  · have hpreLength : relayEventRefPrefix.length = 12 := by decide
    rw [length_append, hpreLength]
    omega
  · rw [hurl]
    rfl

/-- A digit of `uuid4().hex`. -/
def hexDigit (c : CodePoint) : Bool := Json.isDigit c || (97 ≤ c.code && c.code ≤ 102)

theorem hexDigit_code (h : hexDigit c = true) :
    48 ≤ c.code ∧ c.code ≤ 57 ∨ 97 ≤ c.code ∧ c.code ≤ 102 := by
  unfold hexDigit Json.isDigit at h
  simpa only [Bool.or_eq_true, Bool.and_eq_true, decide_eq_true_eq] using h

theorem isAlnum_of_hexDigit (h : hexDigit c = true) : isAlnum c = true := by
  have hcode := hexDigit_code h
  unfold isAlnum isLower isUpper Json.isDigit
  simp only [Bool.or_eq_true, Bool.and_eq_true, decide_eq_true_eq]
  omega

theorem lowerAscii_of_not_upper (h : c.code < 65 ∨ 90 < c.code) : lowerAscii c = c := by
  cases c with
  | surrogate n => rfl
  | char c =>
    have hc : c.toLower = c := by
      unfold Char.toLower
      split
      · rename_i hupper
        exfalso
        have hlow : 65 ≤ c.toNat := hupper.1
        have hhigh : c.toNat ≤ 90 := hupper.2
        simp only [CodePoint.code] at h
        omega
      · rfl
    rw [lowerAscii, hc]

theorem mintEventId_valid (henv : AsciiText env) {hex : PyStr} (hlength : hex.length = 32)
    (hhex : ∀ c ∈ hex, hexDigit c = true) :
    validateEventId env sidecarSurface (.str (mintEventId hex)) = .ok (mintEventId hex) := by
  have hmem {c : CodePoint} (hc : c ∈ mintEventId hex) :
      c ∈ PyStr.lit "evt-chatgpt-sidecar-" ∨ hexDigit c = true :=
    (mem_append.mp hc).imp_right (hhex c)
  have hpre : ∀ c ∈ PyStr.lit "evt-chatgpt-sidecar-", (0x20 ≤ c.code ∧ c.code < 0x7f) ∧
      isSpace c = false ∧ (c.code < 65 ∨ 90 < c.code) ∧ c ∉ PyStr.lit "n_kxA" := by decide +kernel
  have hnot : ∀ c ∈ PyStr.lit "n_kxA", c ∉ mintEventId hex := by
    intro c hc hmint
    rcases hmem hmint with h | h
    · exact (hpre c h).2.2.2 hc
    · have hcodes : ∀ c ∈ PyStr.lit "n_kxA", hexDigit c = false := by decide +kernel
      rw [hcodes c hc] at h
      cases h
  have hascii : ∀ c ∈ mintEventId hex, 0x20 ≤ c.code ∧ c.code < 0x7f := by
    intro c hc
    rcases hmem hc with h | h
    · exact (hpre c h).1
    · have hcode := hexDigit_code h
      omega
  have hlower : env.lower (mintEventId hex) = mintEventId hex := by
    rw [henv.lower _ fun c hc => by have hcode := hascii c hc; omega]
    rw [List.map_congr_left (g := id), List.map_id]
    intro c hc
    rcases hmem hc with h | h
    · exact lowerAscii_of_not_upper (hpre c h).2.2.1
    · have hcode := hexDigit_code h
      exact lowerAscii_of_not_upper (by omega)
  have hcheck : checkSafeText env (mintEventId hex) = .ok () := by
    refine checkSafeText_eq_ok.mpr ⟨henv.safe_text hascii, ?_, ?_⟩
    · rw [hlower, ← Bool.not_eq_true, contains_iff]
      exact fun hfound => hnot (.char 'n') (by decide) (hfound.subset (by decide))
    · rw [any_eq_false]
      intro p hp hp'
      obtain ⟨run, hfound, -⟩ := found_iff.mp hp'
      have hstarts : ∀ p ∈ secretTokens, ∃ c ∈ PyStr.lit "n_kxA", c ∈ PyStr.lit p.start := by
        decide +kernel
      obtain ⟨c, hc, hstart⟩ := hstarts p hp
      exact hnot c hc (hfound.subset (mem_append_left _ hstart))
  have hstrip : strip (mintEventId hex) = mintEventId hex := by
    refine strip_of_no_space fun c hc => ?_
    rcases hmem hc with h | h
    · exact (hpre c h).2.1
    · refine isSpace_of_tokenChar ?_
      unfold tokenChar
      rw [isAlnum_of_hexDigit h]
      rfl
  have hne : mintEventId hex ≠ [] := by
    intro hnil
    have hlen := congrArg List.length hnil
    unfold mintEventId at hlen
    rw [length_append, hlength] at hlen
    simp at hlen
  have htext : requireText env 148 (.str (mintEventId hex)) = .ok (mintEventId hex) := by
    refine requireText_of_shape hne ?_ hstrip.symm hcheck
    have hpreLength : (PyStr.lit "evt-chatgpt-sidecar-").length = 20 := by decide
    unfold mintEventId
    rw [length_append, hpreLength, hlength]
    omega
  have hsplit : mintEventId hex = PyStr.lit "evt-" ++ (PyStr.lit "chatgpt-sidecar-" ++ hex) := rfl
  have htail : eventTail sidecarSurface (PyStr.lit "chatgpt-sidecar-" ++ hex) surfacesByLength =
      .ok hex := by
    have hstart : (PyStr.lit "chatgpt-sidecar" ++ PyStr.lit "-").isPrefixOf
        (PyStr.lit "chatgpt-sidecar-" ++ hex) = true := isPrefixOf_iff_prefix.mpr ⟨hex, rfl⟩
    have hsurfaces : surfacesByLength = PyStr.lit "chatgpt-sidecar" ::
        texts ["codex", "human", "glm", "jev", "gpt"] := rfl
    have hdrop : (PyStr.lit "chatgpt-sidecar-" ++ hex).drop
        (PyStr.lit "chatgpt-sidecar-").length = hex := drop_left
    have hsixteen : (PyStr.lit "chatgpt-sidecar-").length =
        (PyStr.lit "chatgpt-sidecar").length + 1 := by decide
    rw [hsurfaces, eventTail, if_pos hstart, if_neg (by rw [sidecarSurface]; exact fun h => h rfl),
      ← hsixteen, hdrop]
  have htoken : safeTokenRe hex = true := by
    cases hex with
    | nil => cases hlength
    | cons c hex =>
      show (isAlnum c && hex.all tokenChar) = true
      rw [isAlnum_of_hexDigit (hhex c mem_cons_self), Bool.true_and, all_eq_true]
      intro d hd
      unfold tokenChar
      rw [isAlnum_of_hexDigit (hhex d (mem_cons_of_mem _ hd))]
      rfl
  have hfour : (PyStr.lit "evt-").length = 4 := by decide
  have hdrop : (mintEventId hex).drop 4 = PyStr.lit "chatgpt-sidecar-" ++ hex := by
    rw [hsplit, ← hfour, drop_left]
  have hstart : (PyStr.lit "evt-").isPrefixOf (mintEventId hex) = true :=
    isPrefixOf_iff_prefix.mpr ⟨_, hsplit.symm⟩
  unfold validateEventId
  rw [htext, ok_bind, rejectIf_neg (by rw [hstart]; exact nofun), ok_bind,
    hdrop, htail, ok_bind, rejectIf_neg (by rw [htoken, hlength]; simp)]
  rfl

/-- The source ids and the time of a receipt. -/
structure ReceiptSource (env : RelayEnv) (sourceThreadId sourceTurnId createdAt : PyStr) : Prop where
  thread : requireText env 256 (.str sourceThreadId) = .ok sourceThreadId
  turn : requireText env 256 (.str sourceTurnId) = .ok sourceTurnId
  createdAt : validateCreatedAt env (.str createdAt) = .ok createdAt

/-- The receipt of a steer request that the carrier accepted is built, and names the request. -/
theorem buildAckReceipt_checked (henv : AsciiText env) {e : RelayEnvelope} (h : e.Checked env)
    (htype : e.eventType = steerRequestFamily) {thread turn createdAt hex : PyStr}
    (hsource : ReceiptSource env thread turn createdAt) (hlength : hex.length = 32)
    (hhex : ∀ c ∈ hex, hexDigit c = true) :
    ∃ receipt, buildAckReceipt env e thread turn createdAt [] (mintEventId hex) = .ok receipt ∧
      receipt.Checked env ∧ receipt.eventId = mintEventId hex ∧
      receipt.eventType = resultReceiptFamily ∧
      receipt.evidenceRefs = [relayEventRefPrefix ++ e.eventId] := by
  obtain ⟨-, hidLength, hidSafe, hidChars⟩ := eventId_chars h.eventId
  have href := relayEventRef_accepted henv hidLength hidSafe hidChars
  obtain ⟨taskId, claimId, repo, worktree, headSha, htask, hclaim, hrepo, hworktree, hhead⟩ :=
    binding_of_checked h htype
  have hTask := h.taskId
  have hClaim := h.claimId
  have hRepo := h.repo
  have hWorktree := h.worktree
  have hHead := h.headSha
  rw [htask] at hTask
  rw [hclaim] at hClaim
  rw [hrepo] at hRepo
  rw [hworktree] at hWorktree
  rw [hhead] at hHead
  have hbindingOf : bindingOf e = some (taskId, claimId, repo, worktree, headSha) := by
    unfold bindingOf
    rw [htask, hclaim, hrepo, hworktree, hhead]
    rfl
  have hrefs : validateEvidenceRefs env (.arr [.str (relayEventRefPrefix ++ e.eventId)]) =
      .ok [relayEventRefPrefix ++ e.eventId] := by
    have hmap : [Json.str (relayEventRefPrefix ++ e.eventId)].mapM (evidenceRef env) =
        .ok [relayEventRefPrefix ++ e.eventId] := by
      rw [mapM_cons, href, mapM_nil]
      rfl
    simp only [validateEvidenceRefs, bind_eq_ok, rejectIf_eq_ok]
    exact ⟨(), by simp [maxEvidenceRefs], _, hmap, (), by simp, rfl⟩
  have hbuilt : envelopeFromMapping env
      [(.lit "EVENT_ID", .str (mintEventId hex)), (.lit "EVENT_TYPE", .str resultReceiptFamily),
        (.lit "SOURCE_SURFACE", .str sidecarSurface), (.lit "SOURCE_THREAD_ID", .str thread),
        (.lit "SOURCE_TURN_ID", .str turn), (.lit "CREATED_AT", .str createdAt),
        (.lit "EVIDENCE_REFS", .arr ([relayEventRefPrefix ++ e.eventId].map .str)),
        (.lit "TASK_ID", .str taskId), (.lit "CLAIM_ID", .str claimId), (.lit "REPO", .str repo),
        (.lit "WORKTREE", .str worktree), (.lit "HEAD_SHA", .str headSha)] = .ok
      { eventId := mintEventId hex, eventType := resultReceiptFamily
        sourceSurface := sidecarSurface, sourceThreadId := thread, sourceTurnId := turn
        priority := .lit "NORMAL", evidenceRefs := [relayEventRefPrefix ++ e.eventId]
        createdAt, taskId, claimId, repo, worktree, headSha } := by
    have hfamily : requireMember eventFamilies (.str resultReceiptFamily) =
        .ok resultReceiptFamily := by decide +kernel
    have hsurface : requireMember sourceSurfaces (.str sidecarSurface) = .ok sidecarSurface := by
      decide +kernel
    have hpriority : priorityOf resultReceiptFamily .null = .ok (.lit "NORMAL") := by
      decide +kernel
    have hkeys : ∀ key ∈ texts ["EVENT_ID", "EVENT_TYPE", "SOURCE_SURFACE", "SOURCE_THREAD_ID",
        "SOURCE_TURN_ID", "CREATED_AT", "EVIDENCE_REFS", "TASK_ID", "CLAIM_ID", "REPO", "WORKTREE",
        "HEAD_SHA"], key ∈ envelopeKeys := by decide +kernel
    unfold envelopeFromMapping
    simp only [getKey, Json.find?_lit_cons, String.reduceEq, if_true, if_false, bind_eq_ok,
      rejectIf_eq_ok, Option.getD_some]
    refine ⟨(), not_not.mpr hkeys, _, hfamily, _, hsurface, _, mintEventId_valid henv hlength hhex,
      _, hsource.thread, _, hsource.turn, _, hsource.createdAt, _, hpriority, (), ?_, _, hTask, _,
      hClaim, _, hRepo, _, hWorktree, _, hHead, none, rfl, none, rfl, _, hrefs, (), ?_, rfl⟩
    · rw [Bool.not_eq_false, bindingPresent_iff]
      simp [getKey, Json.find?_lit_cons]
    · simp
  have hgate : ¬ (maxEvidenceRefs < [relayEventRefPrefix ++ e.eventId].length ∨
      [relayEventRefPrefix ++ e.eventId].any (invalidEvidenceRef env) = true ∨
      ¬ [relayEventRefPrefix ++ e.eventId].Nodup) := by
    rw [any_cons, invalidEvidenceRef_accepted href]
    simp [maxEvidenceRefs]
  unfold buildAckReceipt
  rw [hbindingOf]
  simp only [require, ok_bind]
  rw [rejectIf_neg hgate, ok_bind]
  refine ⟨{ eventId := mintEventId hex, eventType := resultReceiptFamily
            sourceSurface := sidecarSurface, sourceThreadId := thread, sourceTurnId := turn
            priority := .lit "NORMAL", evidenceRefs := [relayEventRefPrefix ++ e.eventId]
            createdAt, taskId, claimId, repo, worktree, headSha },
    mapError_eq_ok.mpr hbuilt, checked_of_mapping hbuilt, rfl, rfl, rfl⟩

theorem originOf_ref (id : PyStr) : originOf (relayEventRefPrefix ++ id) = some id := by
  unfold originOf
  rw [if_pos (List.isPrefixOf_iff_prefix.mpr ⟨id, rfl⟩), drop_left]

/-- A receipt with a fresh event id acknowledges the event it names. -/
theorem mem_projectedEventIds_append {events : List RelayEnvelope} {receipt : RelayEnvelope}
    {id : PyStr} (hfresh : receipt.eventId ∉ events.map RelayEnvelope.eventId)
    (htype : receipt.eventType = resultReceiptFamily)
    (href : receipt.evidenceRefs = [relayEventRefPrefix ++ id]) (hid : id ≠ []) :
    id ∈ projectedEventIds (events ++ [receipt]) := by
  unfold projectedEventIds dedupeEvents
  rw [dedupeFrom_append not_mem_nil hfresh, filter_append, flatMap_append]
  refine mem_append_right _ ?_
  simp [htype, href, originOf_ref, hid]

/-- The first eligible steer request in the order of `order_events`. -/
def firstEligible (env : BridgeEnv) (events : List RelayEnvelope) (f : LiveBindingFacts) :
    Option RelayEnvelope :=
  (orderEvents env (steerRequests events)).find? fun e => Eligible events f e

/-- No acknowledged event is submitted, and the receipt of a submitted event is built and acknowledges
    it. The first eligible request is submitted exactly when it is the first steer request of all: a
    request that is acknowledged, bound otherwise or without evidence holds up those behind it. -/
theorem steer_progress_iff (env : BridgeEnv) (henv : AsciiText env.toRelayEnv)
    (events : List RelayEnvelope) (hevents : ∀ e ∈ events, e.Checked env.toRelayEnv)
    (call : SteerCall) (transport : Transport) (hpass : GatesPass env call transport)
    (f : LiveBindingFacts) (hfacts : call.facts = some f) (hf : f.Complete) :
    (∀ p, (projectSteerCandidate env events call).submitted = some p →
      p.originalEventId ∉ projectedEventIds events ∧
      ∃ e ∈ events, Carries p e ∧ ∀ thread turn createdAt hex,
        ReceiptSource env.toRelayEnv thread turn createdAt → hex.length = 32 →
        (∀ c ∈ hex, hexDigit c = true) → mintEventId hex ∉ events.map RelayEnvelope.eventId →
        ∃ receipt, buildAckReceipt env.toRelayEnv e thread turn createdAt [] (mintEventId hex) =
            .ok receipt ∧ e.eventId ∈ projectedEventIds (events ++ [receipt])) ∧
    ((∀ e, firstEligible env events f = some e →
        ∃ p, (projectSteerCandidate env events call).submitted = some p ∧ Carries p e) ↔
      ((∃ e ∈ steerRequests events, Eligible events f e) →
        ∃ e, (orderEvents env (steerRequests events)).head? = some e ∧ Eligible events f e)) := by
  have hturn := projectSteerCandidate_checked hpass hfacts hf hevents
  constructor
  · intro p hp
    rcases hturn with ⟨hnone, -⟩ | ⟨e, q, hhead, heligible, hq, hcarries⟩
    · rw [hnone] at hp
      cases hp
    · cases hq.symm.trans hp
      obtain ⟨hmem, htype⟩ := mem_steerRequests (mem_orderEvents.mp (mem_of_head? hhead))
      have hchecked := hevents e hmem
      refine ⟨by rw [hcarries.1]; exact heligible.1, e, hmem, hcarries, ?_⟩
      intro thread turn createdAt hex hsource hlength hhex hfresh
      obtain ⟨receipt, hbuilt, -, hid, hreceipt, href⟩ :=
        buildAckReceipt_checked henv hchecked htype hsource hlength hhex
      refine ⟨receipt, hbuilt, mem_projectedEventIds_append ?_ hreceipt href
        (eventId_chars hchecked.eventId).1⟩
      rwa [hid]
  · constructor
    · rintro hprogress ⟨e, he, heligible⟩
      obtain ⟨first, hfirst⟩ : ∃ first, firstEligible env events f = some first := by
        rw [← Option.isSome_iff_exists, firstEligible, List.find?_isSome]
        exact ⟨e, mem_orderEvents.mpr he, decide_eq_true heligible⟩
      obtain ⟨p, hp, -⟩ := hprogress first hfirst
      rcases hturn with ⟨hnone, -⟩ | ⟨e, -, hhead, heligible, -⟩
      · rw [hnone] at hp
        cases hp
      · exact ⟨e, hhead, heligible⟩
    · intro hhead first hfirst
      have hfound : (orderEvents env (steerRequests events)).find?
          (fun e => decide (Eligible events f e)) = some first := hfirst
      have hmem := mem_orderEvents.mp (mem_of_find?_eq_some hfound)
      have hsome : Eligible events f first := by simpa using List.find?_some hfound
      obtain ⟨e, he, heligible⟩ := hhead ⟨first, hmem, hsome⟩
      have hsame : first = e := by
        unfold firstEligible at hfirst
        cases hordered : orderEvents env (steerRequests events) with
        | nil =>
          rw [hordered] at he
          cases he
        | cons d ordered =>
          rw [hordered] at he hfirst
          cases he
          simp only [List.find?_cons, heligible, decide_true] at hfirst
          exact (Option.some_inj.mp hfirst).symm
      rcases hturn with ⟨-, hnone⟩ | ⟨d, p, hd, -, hp, hcarries⟩
      · exact absurd heligible (hnone e he)
      · cases hd.symm.trans he
        exact ⟨p, hp, by rw [hsame]; exact hcarries⟩

def steerEnv : BridgeEnv := { asciiEnv with instant := fun _ => 0 }

/-- Two requests of one lane. -/
def steerRequest (name : String) : RelayEnvelope where
  eventId := .lit "evt-codex-" ++ .lit name
  eventType := steerRequestFamily
  sourceSurface := .lit "codex"
  sourceThreadId := .lit "thread"
  sourceTurnId := .lit "turn"
  priority := .lit "NORMAL"
  evidenceRefs := [.lit "docs/plan.md"]
  createdAt := .lit "2026-01-01T00:00:00+00:00"
  taskId := some (.lit "task")
  claimId := some (.lit "claim")
  repo := some (.lit "owner/name")
  worktree := some (.lit "tree")
  headSha := some (List.replicate 40 (.char 'a'))

/-- The receipt of the first. -/
def firstReceipt : RelayEnvelope :=
  { steerRequest "" with
    eventId := mintEventId (List.replicate 32 (.char '0'))
    eventType := resultReceiptFamily
    sourceSurface := sidecarSurface
    evidenceRefs := [.lit "relay-event:evt-codex-a"] }

def liveFacts : LiveBindingFacts where
  repo := some (.lit "owner/name")
  worktree := some (.lit "tree")
  headSha := some (List.replicate 40 (.char 'a'))
  taskId := some (.lit "task")
  claimId := some (.lit "claim")

/-- A transport that observes a steerable thread and delivers. -/
def openTransport : Transport where
  observe _ _ := .table
    { reachable := .bool true, targetResolved := .bool true, steerable := .bool true }
  submit _ := .table { delivery := .text (.lit "DELIVERED") }

def steerCall : SteerCall where
  facts := some liveFacts
  surface := some { surfaceKind := .lit "codex-native-queue", version := some (.lit "1.0") }
  acceptedVersions := [some (.lit "1.0")]
  transport := some openTransport

theorem steerEnv_ascii : AsciiText steerEnv.toRelayEnv where
  safe c hlow hhigh := by
    simp only [steerEnv, asciiEnv, Bool.or_eq_false_iff, Bool.and_eq_false_iff,
      decide_eq_false_iff_not]
    omega
  lower s _ := by
    refine List.map_congr_left fun c _ => ?_
    cases c <;> rfl

theorem steerCall_passes : GatesPass steerEnv steerCall openTransport where
  surface := by rfl
  context := rfl
  quota := rfl
  hint := nofun
  observation _ _ := ⟨none, rfl⟩

theorem steerLog_checked :
    ∀ e ∈ [steerRequest "a", firstReceipt, steerRequest "b"], e.Checked steerEnv.toRelayEnv := by
  have hall : ∀ e ∈ [steerRequest "a", firstReceipt, steerRequest "b"],
      envelopeFromMapping steerEnv.toRelayEnv e.toMapping = .ok e := by decide +kernel
  exact fun e he => checked_iff.mpr (hall e he)

/-- With its receipt in the log the first request is not submitted, and neither is any other. -/
theorem acknowledged_request_blocks :
    (∀ e ∈ [steerRequest "a", firstReceipt, steerRequest "b"], e.Checked steerEnv.toRelayEnv) ∧
    GatesPass steerEnv steerCall openTransport ∧ steerCall.facts = some liveFacts ∧
    liveFacts.Complete ∧
    firstEligible steerEnv [steerRequest "a", firstReceipt, steerRequest "b"] liveFacts =
      some (steerRequest "b") ∧
    (projectSteerCandidate steerEnv [steerRequest "a", firstReceipt, steerRequest "b"]
      steerCall).submitted = none :=
  ⟨steerLog_checked, steerCall_passes, rfl, ⟨rfl, rfl, rfl, rfl, rfl⟩, by decide +kernel,
    by decide +kernel⟩

theorem steer_progress_iff_open :
    ∃ p, (projectSteerCandidate steerEnv [steerRequest "b"] steerCall).submitted = some p ∧
      p.originalEventId ∉ projectedEventIds [steerRequest "b"] := by
  obtain ⟨hsafe, hprogress⟩ := steer_progress_iff steerEnv steerEnv_ascii [steerRequest "b"]
    (fun e he => steerLog_checked e (mem_cons_of_mem _ (mem_cons_of_mem _ he))) steerCall
    openTransport steerCall_passes liveFacts rfl ⟨rfl, rfl, rfl, rfl, rfl⟩
  obtain ⟨p, hp, -⟩ := hprogress.mpr
    (fun _ => ⟨steerRequest "b", by decide +kernel, by decide +kernel⟩) (steerRequest "b")
    (by decide +kernel)
  exact ⟨p, hp, (hsafe p hp).1⟩

end AConductor.Relay

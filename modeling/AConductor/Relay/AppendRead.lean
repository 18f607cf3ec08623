import AConductor.Relay.Log

namespace AConductor.Relay

open List Except PyStr Lines

variable {env : RelayEnv}

/-- The bytes of the line of an envelope. -/
def lineBytes (e : RelayEnvelope) : Bytes := (encode e.toJson).getD []

variable {e : RelayEnvelope} {ds : List RelayEnvelope}

theorem toJson_chars (h : e.Checked env) :
    ∃ cs, e.toJson = PyStr.ofChars cs ∧ lineBytes e = encodeChars cs := by
  have hall : e.toJson.all CodePoint.isChar = true :=
    all_eq_true.mpr fun c hc => (plain_toJson h c hc).1
  obtain ⟨cs, hcs⟩ := Json.ofChars_of_all hall
  refine ⟨cs, hcs, ?_⟩
  unfold lineBytes encode
  rw [hcs, toChars?_ofChars]
  rfl

theorem encode_toJson (h : e.Checked env) : encode e.toJson = some (lineBytes e) := by
  obtain ⟨cs, hcs, hbytes⟩ := toJson_chars h
  unfold encode
  rw [hbytes, hcs, toChars?_ofChars]
  rfl

theorem decode_lineBytes (h : e.Checked env) :
    decode (lineBytes e) = some e.toJson := decode_encode (encode_toJson h)

theorem control_not_mem_toJson (h : e.Checked env) {c : Char} (hc : c.toNat < 0x20) :
    CodePoint.char c ∉ e.toJson := by
  intro hmem
  have hplain : 0x20 ≤ c.toNat := (plain_toJson h _ hmem).2
  omega

theorem control_not_mem_lineBytes (h : e.Checked env) {b : UInt8} (hb : b.toNat < 0x20) :
    b ∉ lineBytes e := by
  obtain ⟨cs, hcs, hbytes⟩ := toJson_chars h
  have hcode : (Char.ofNat b.toNat).toNat = b.toNat := toNat_ofNat (by omega)
  rw [hbytes, mem_encodeChars (by omega)]
  intro hmem
  apply control_not_mem_toJson h (c := Char.ofNat b.toNat) (by omega)
  rw [hcs]
  exact mem_map_of_mem hmem

/-- What holds of the envelopes whose lines a log is made of. -/
structure Stored (env : RelayEnv) (ds : List RelayEnvelope) : Prop where
  checked : ∀ d ∈ ds, d.Checked env
  fits : ∀ d ∈ ds, (lineBytes d).length + 1 ≤ maxEventBytes
  ids : (ds.map RelayEnvelope.eventId).Nodup

/-- The bytes of a log. -/
def logBytes (ds : List RelayEnvelope) : Bytes := joined lf (ds.map lineBytes)

theorem stored_nil : Stored env [] := ⟨nofun, nofun, nodup_nil⟩

theorem Stored.concat (h : Stored env ds) (he : e.Checked env)
    (hfits : (lineBytes e).length + 1 ≤ maxEventBytes)
    (hnew : e.eventId ∉ ds.map RelayEnvelope.eventId) : Stored env (ds ++ [e]) := by
  have both {P : RelayEnvelope → Prop} (hds : ∀ d ∈ ds, P d) (hlast : P e) :
      ∀ d ∈ ds ++ [e], P d := by
    intro d hd
    rcases mem_append.mp hd with hd | hd
    · exact hds d hd
    · rwa [mem_singleton.mp hd]
  refine ⟨both h.checked he, both h.fits hfits, ?_⟩
  rw [map_append, map_cons, map_nil]
  exact nodup_append.mpr ⟨h.ids, nodup_singleton _, by
    intro a ha b hb heq
    rw [mem_singleton.mp hb] at heq
    exact hnew (heq ▸ ha)⟩

theorem Stored.of_cons {d : RelayEnvelope} (h : Stored env (d :: ds)) : Stored env ds where
  checked := fun c hc => h.checked c (mem_cons_of_mem _ hc)
  fits := fun c hc => h.fits c (mem_cons_of_mem _ hc)
  ids := (nodup_cons.mp h.ids).2

theorem Stored.nodup (h : Stored env ds) : ds.Nodup :=
  List.Nodup.of_map _ h.ids

theorem Stored.noLf (h : Stored env ds) : ∀ l ∈ ds.map lineBytes, lf ∉ l := by
  intro l hl
  obtain ⟨d, hd, rfl⟩ := mem_map.mp hl
  exact control_not_mem_lineBytes (h.checked d hd) (by decide)

/-- What an append sees in a stored line. -/
theorem matchLine_lineBytes {d e : RelayEnvelope} (hd : d.Checked env) (he : e.Checked env) :
    matchLine env e.toJson e.eventId (lineBytes d) =
      if d = e then .ok true
      else if d.eventId = e.eventId then .error (.carrierError "RELAY_EVENT_DUPLICATE")
      else .ok false := by
  have hcr : cr ∉ lineBytes d := control_not_mem_lineBytes hd (by decide)
  have hid : getKey (sortedMapping d) "EVENT_ID" = .str d.eventId := by
    unfold getKey
    rw [find?_sortedMapping]
    exact (getKey_toMapping d).1
  have hsame : d.toJson = e.toJson ↔ d = e :=
    ⟨toJson_injective hd he, fun heq => by rw [heq]⟩
  unfold matchLine
  rw [rejectIf_neg hcr, ok_bind]
  simp only [decode_lineBytes hd, loadLine_toJson hd, hsame, hid, isText, decide_eq_true_eq]

/-- An append finds its line, an event id that is taken, or neither. -/
theorem findLine_stored (h : Stored env ds) (he : e.Checked env) :
    (e ∈ ds ∧ findLine env e.toJson e.eventId (ds.map lineBytes) = .ok true) ∨
    (e ∉ ds ∧ e.eventId ∈ ds.map RelayEnvelope.eventId ∧
      findLine env e.toJson e.eventId (ds.map lineBytes) =
        .error (.carrierError "RELAY_EVENT_DUPLICATE")) ∨
    (e.eventId ∉ ds.map RelayEnvelope.eventId ∧
      findLine env e.toJson e.eventId (ds.map lineBytes) = .ok false) := by
  induction ds with
  | nil => exact .inr (.inr ⟨not_mem_nil, rfl⟩)
  | cons d ds ih =>
    have hmatch := matchLine_lineBytes (h.checked d mem_cons_self) he
    rw [map_cons, findLine, hmatch]
    by_cases hsame : d = e
    · rw [if_pos hsame]
      exact .inl ⟨by rw [hsame]; exact mem_cons_self, rfl⟩
    · rw [if_neg hsame]
      by_cases hid : d.eventId = e.eventId
      · rw [if_pos hid]
        refine .inr (.inl ⟨?_, ?_, rfl⟩)
        · intro hmem
          rcases mem_cons.mp hmem with heq | hmem
          · exact hsame heq.symm
          · apply (nodup_cons.mp h.ids).1
            rw [hid]
            exact mem_map_of_mem hmem
        · rw [map_cons, hid]
          exact mem_cons_self
      · rw [if_neg hid]
        have hne : e ≠ d := fun heq => hsame heq.symm
        have hidne : e.eventId ≠ d.eventId := fun heq => hid heq.symm
        simp only [mem_cons, map_cons, hne, hidne, false_or]
        exact ih h.of_cons

theorem prepareAppend_rejected {existing : Bytes}
    (h : ¬ e.Checked env ∨ maxEventBytes < (lineBytes e).length + 1) :
    ∃ fault, prepareAppend env existing e = .error fault := by
  unfold prepareAppend
  cases hmapping : envelopeFromMapping env e.toMapping with
  | error fault => exact ⟨fault, error_bind _ _⟩
  | ok checked =>
    obtain rfl := envelopeFromMapping_toMapping hmapping
    have he := checked_of_mapping hmapping
    have hlarge := h.resolve_left (not_not.mpr he)
    rw [ok_bind]
    simp only [encode_toJson he]
    exact ⟨_, by rw [rejectIf_pos hlarge, error_bind]⟩

/-- What an append of a checked envelope establishes over a stored log. -/
theorem prepareAppend_checked (h : Stored env ds) (he : e.Checked env)
    (hfits : ¬ maxEventBytes < (lineBytes e).length + 1) :
    prepareAppend env (logBytes ds) e =
      (findLine env e.toJson e.eventId (ds.map lineBytes) >>= fun same =>
        .ok (if same then none else some (lineBytes e))) := by
  have hended : ¬ (logBytes ds ≠ [] ∧ (logBytes ds).getLast? ≠ some lf) := by
    rintro ⟨hne, hlast⟩
    apply hlast
    apply getLast?_joined
    intro hnil
    exact hne (joined_eq_nil.mpr hnil)
  have hlines : (if logBytes ds = [] then [] else ((logBytes ds).splitOn lf).dropLast) =
      ds.map lineBytes := by
    split
    · exact (joined_eq_nil.mp (by assumption)).symm
    · exact dropLast_splitOn_joined h.noLf
  unfold prepareAppend
  rw [checked_iff.mp he, ok_bind]
  simp only [encode_toJson he, hlines]
  rw [rejectIf_neg hfits, ok_bind, rejectIf_neg hended, ok_bind]
  rfl

theorem logBytes_concat (ds : List RelayEnvelope) (e : RelayEnvelope) :
    logBytes (ds ++ [e]) = logBytes ds ++ (lineBytes e ++ [lf]) := by
  unfold logBytes
  rw [map_append, joined_append, map_cons, map_nil, joined_cons]
  rfl

theorem appendEvent_stored (h : Stored env ds) (e : RelayEnvelope) :
    (e ∉ ds ∧ ∃ fault, appendEvent env (some (logBytes ds)) e =
      (.error fault, some (logBytes ds))) ∨
    (e ∈ ds ∧ appendEvent env (some (logBytes ds)) e = (.ok (), some (logBytes ds))) ∨
    (Stored env (ds ++ [e]) ∧
      appendEvent env (some (logBytes ds)) e = (.ok (), some (logBytes (ds ++ [e])))) := by
  unfold appendEvent
  rw [Option.getD_some]
  by_cases hrejected : ¬ e.Checked env ∨ maxEventBytes < (lineBytes e).length + 1
  · obtain ⟨fault, hprepare⟩ : ∃ fault, prepareAppend env (logBytes ds) e = .error fault :=
      prepareAppend_rejected hrejected
    rw [hprepare]
    refine .inl ⟨?_, fault, rfl⟩
    intro hmem
    rcases hrejected with hchecked | hlarge
    · exact hchecked (h.checked e hmem)
    · have := h.fits e hmem
      omega
  · rw [not_or, not_not] at hrejected
    obtain ⟨he, hfits⟩ := hrejected
    rw [prepareAppend_checked h he hfits]
    rcases findLine_stored h he with ⟨hmem, hfind⟩ | ⟨hmem, hid, hfind⟩ | ⟨hid, hfind⟩
    · rw [hfind, ok_bind]
      exact .inr (.inl ⟨hmem, rfl⟩)
    · rw [hfind, error_bind]
      exact .inl ⟨hmem, _, rfl⟩
    · rw [hfind, ok_bind, logBytes_concat]
      exact .inr (.inr ⟨h.concat he (by omega) hid, rfl⟩)

theorem logBytes_text (h : Stored env ds) : ∃ cs, logBytes ds = encodeChars cs ∧
      PyStr.ofChars cs = joined newline (ds.map RelayEnvelope.toJson) := by
  induction ds with
  | nil => exact ⟨[], rfl, rfl⟩
  | cons d ds ih =>
    obtain ⟨cs, hbytes, htext⟩ := ih h.of_cons
    obtain ⟨line, hline, hlineBytes⟩ := toJson_chars (h.checked d mem_cons_self)
    refine ⟨line ++ '\n' :: cs, ?_, ?_⟩
    · rw [encodeChars_append, encodeChars_cons, ← hbytes, ← hlineBytes]
      unfold logBytes
      rw [map_cons, joined_cons]
      rfl
    · rw [map_cons, joined_cons, ← htext, hline, ofChars_append]
      rfl

theorem readLine_toJson {d : RelayEnvelope} (hd : d.Checked env)
    (hnew : d.eventId ∉ ds.map RelayEnvelope.eventId) :
    readLine env ds d.toJson = .ok (ds ++ [d]) := by
  have hcr : CodePoint.char '\r' ∉ d.toJson := control_not_mem_toJson hd (by decide)
  unfold readLine
  rw [rejectIf_neg hcr, ok_bind, envelopeFromJsonLine_toJson hd, ok_bind,
    if_neg hnew]
  rfl

theorem foldlM_readLine {ds done : List RelayEnvelope} (h : Stored env (done ++ ds)) :
    (ds.map RelayEnvelope.toJson).foldlM (readLine env) done = .ok (done ++ ds) := by
  induction ds generalizing done with
  | nil => rw [append_nil]; rfl
  | cons d ds ih =>
    have hnew : d.eventId ∉ done.map RelayEnvelope.eventId := by
      have hids := h.ids
      rw [map_append, map_cons] at hids
      intro hmem
      exact (nodup_append.mp hids).2.2 _ hmem _ mem_cons_self rfl
    have hsplit : done ++ d :: ds = (done ++ [d]) ++ ds := by
      rw [append_assoc, singleton_append]
    rw [hsplit] at h ⊢
    rw [map_cons, foldlM_cons,
      readLine_toJson (h.checked d (by simp)) hnew, ok_bind]
    exact ih h

/-- A log, and the beginning of a line after it, is read as the log. -/
theorem readEvents_stored (h : Stored env ds) {rest : List Char}
    (hrest : lf ∉ encodeChars rest) :
    readEvents env (some (logBytes ds ++ encodeChars rest)) =
      .ok ⟨ds, decide (rest ≠ [])⟩ := by
  obtain ⟨cs, hbytes, htext⟩ := logBytes_text h
  have hnewline : newline ∉ PyStr.ofChars rest := by
    intro hmem
    obtain ⟨c, hc, heq⟩ := mem_map.mp hmem
    rw [mem_encodeChars (by decide)] at hrest
    apply hrest
    have hcode : Char.ofNat lf.toNat = '\n' := by decide
    rw [hcode, ← CodePoint.char.inj heq]
    exact hc
  have hdecode : decode (logBytes ds ++ encodeChars rest) =
      some (joined newline (ds.map RelayEnvelope.toJson) ++ PyStr.ofChars rest) := by
    rw [hbytes, ← encodeChars_append, ← htext, ← ofChars_append]
    exact decode_encodeChars _
  have hlines : ∀ l ∈ ds.map RelayEnvelope.toJson, newline ∉ l := by
    intro l hl
    obtain ⟨d, hd, rfl⟩ := mem_map.mp hl
    exact control_not_mem_toJson (h.checked d hd) (by decide)
  have htorn : tornTail (joined newline (ds.map RelayEnvelope.toJson) ++
      PyStr.ofChars rest) = decide (rest ≠ []) := by
    unfold tornTail
    congr 1
    cases rest with
    | nil =>
      rw [PyStr.ofChars, map_nil, append_nil, eq_iff_iff]
      refine iff_of_false ?_ (not_not.mpr rfl)
      rintro ⟨hne, hlast⟩
      exact hlast (getLast?_joined fun hnil => hne (joined_eq_nil.mpr hnil))
    | cons c rest =>
      rw [eq_iff_iff]
      refine iff_of_true ⟨?_, ?_⟩ (cons_ne_nil _ _)
      · exact append_ne_nil_of_right_ne_nil _ (cons_ne_nil _ _)
      · have hne : PyStr.ofChars (c :: rest) ≠ [] := cons_ne_nil _ _
        rw [List.getLast?_append_of_ne_nil _ hne]
        intro hlast
        exact hnewline (mem_of_getLast? hlast)
  have hkept : (if decide (rest ≠ []) = true then
        upToLast newline
          (joined newline (ds.map RelayEnvelope.toJson) ++ PyStr.ofChars rest)
      else joined newline (ds.map RelayEnvelope.toJson) ++ PyStr.ofChars rest) =
      joined newline (ds.map RelayEnvelope.toJson) := by
    split
    · exact upToLast_joined hnewline
    · rename_i hnil
      have hempty : rest = [] := by simpa using hnil
      rw [hempty, PyStr.ofChars, map_nil, append_nil]
  unfold readEvents
  simp only [hdecode, htorn, hkept]
  rw [dropLast_splitOn_joined hlines, foldlM_readLine h, ok_bind]
  rfl

theorem eraseDups_of_nodup (h : ds.Nodup) : ds.eraseDups = ds := by
  induction ds with
  | nil => rfl
  | cons d ds ih =>
    obtain ⟨hd, hds⟩ := nodup_cons.mp h
    have hkeep : ds.filter (fun c => !(c == d)) = ds := by
      rw [filter_eq_self]
      intro c hc
      have hne : c ≠ d := fun heq => hd (heq ▸ hc)
      simpa using hne
    rw [eraseDups_cons, hkeep, ih hds]

/-- A run of appends adds the envelopes it accepted, each once. -/
theorem appendAll_stored (h : Stored env ds) (calls : List RelayEnvelope) :
    ∃ ds', Stored env ds' ∧ appendAll env (some (logBytes ds)) calls = some (logBytes ds') ∧
      ds' = (ds ++ appended env (some (logBytes ds)) calls).eraseDups := by
  induction calls generalizing ds with
  | nil =>
    refine ⟨ds, h, rfl, ?_⟩
    rw [appended, append_nil, eraseDups_of_nodup h.nodup]
  | cons e calls ih =>
    unfold appended
    rw [appendAll, foldl_cons]
    rcases appendEvent_stored h e with ⟨-, fault, hcall⟩ | ⟨hmem, hcall⟩ | ⟨hstored, hcall⟩
    · rw [hcall, if_neg nofun]
      exact ih h
    · rw [hcall, if_pos rfl]
      obtain ⟨ds', hds', hall, heq⟩ := ih h
      refine ⟨ds', hds', hall, ?_⟩
      rw [heq, eraseDups_append, eraseDups_append, cons_removeAll]
      simp [hmem]
    · rw [hcall, if_pos rfl]
      obtain ⟨ds', hds', hall, heq⟩ := ih hstored
      refine ⟨ds', hds', hall, ?_⟩
      rw [heq, append_assoc, singleton_append]

/-- Over any run of appends on an empty log: the next call adds whole lines or nothing,
    reading gives the accepted envelopes once each in the order they were first accepted,
    an accepted envelope is a no-op when it comes again, another one under its event id is
    refused, and the line of an envelope that `envelope_from_mapping` built reads as it. -/
theorem relay_log_appends_and_reads (env : RelayEnv) (calls : List RelayEnvelope)
    (e : RelayEnvelope) :
    let file := appendAll env (some []) calls
    let accepted := appended env (some []) calls
    (∃ log lines, file = some log ∧
      (appendEvent env file e).2 = some (log ++ joined lf lines) ∧ ∀ l ∈ lines, lf ∉ l) ∧
    readEvents env file = .ok ⟨accepted.eraseDups, false⟩ ∧
    (e ∈ accepted → appendEvent env file e = (.ok (), file)) ∧
    (∀ d ∈ accepted, d.eventId = e.eventId → d ≠ e →
      ∃ fault, appendEvent env file e = (.error fault, file)) ∧
    (∀ payload, envelopeFromMapping env payload = .ok e →
      envelopeFromJsonLine env e.toJson = .ok e) := by
  obtain ⟨ds, hds, hfile, hevents⟩ := appendAll_stored stored_nil calls
  have hstart : logBytes [] = [] := rfl
  rw [hstart] at hfile hevents
  rw [nil_append] at hevents
  have hmem (d : RelayEnvelope) : d ∈ appended env (some []) calls ↔ d ∈ ds := by
    rw [hevents, mem_eraseDups]
  intro file accepted
  have hfile' : file = some (logBytes ds) := hfile
  have hcall := appendEvent_stored hds e
  rw [hfile']
  refine ⟨⟨logBytes ds, ?_⟩, ?_, ?_, ?_, ?_⟩
  · rcases hcall with ⟨-, fault, hcall⟩ | ⟨-, hcall⟩ | ⟨hstored, hcall⟩
    · exact ⟨[], rfl, by rw [hcall]; simp [joined], nofun⟩
    · exact ⟨[], rfl, by rw [hcall]; simp [joined], nofun⟩
    · refine ⟨[lineBytes e], rfl, ?_, ?_⟩
      · rw [hcall, logBytes_concat, joined_cons]
        rfl
      · intro l hl
        apply hstored.noLf
        rw [mem_singleton.mp hl, map_append]
        exact mem_append_right _ mem_cons_self
  · have hread : readEvents env (some (logBytes ds ++ encodeChars [])) = .ok ⟨ds, false⟩ :=
      readEvents_stored hds not_mem_nil
    have hnil : logBytes ds ++ encodeChars [] = logBytes ds := append_nil _
    have haccepted : accepted.eraseDups = ds := hevents.symm
    rw [hnil] at hread
    rw [haccepted, hread]
  · intro he
    rcases hcall with ⟨hnot, -⟩ | ⟨-, hcall⟩ | ⟨hstored, -⟩
    · exact absurd ((hmem e).mp he) hnot
    · exact hcall
    · have hnodup := hstored.nodup
      exact absurd rfl ((nodup_append.mp hnodup).2.2 e ((hmem e).mp he) e mem_cons_self)
  · intro d hd hid hne
    rcases hcall with ⟨-, hcall⟩ | ⟨he, -⟩ | ⟨hstored, -⟩
    · exact hcall
    · exact absurd (inj_on_of_nodup_map hds.ids ((hmem d).mp hd) he hid) hne
    · have hids := hstored.ids
      rw [map_append] at hids
      have hdisjoint := (nodup_append.mp hids).2.2
      exact absurd hid (hdisjoint _ (mem_map_of_mem ((hmem d).mp hd)) _ mem_cons_self)
  · intro payload hpayload
    exact envelopeFromJsonLine_toJson (checked_of_mapping hpayload)

/-- Surroundings as far as ASCII and one time go. -/
def asciiEnv : RelayEnv where
  unsafeChar c := c.toNat < 0x20 || (0x7f ≤ c.toNat && c.toNat < 0xa0)
  lower s := s.map fun
    | .char c => .char c.toLower
    | c => c
  fromIsoFormat t := if t = .lit "2026-01-01T00:00:00+00:00" then some true else none
  maxDigits := some 4300

/-- An envelope that was made by its constructor alone, with empty texts, is not read back. -/
theorem unchecked_envelope_not_read_back :
    envelopeFromJsonLine asciiEnv (RelayEnvelope.mk [] [] [] [] [] [] [] [] none none none none none
      none none).toJson ≠ .ok (RelayEnvelope.mk [] [] [] [] [] [] [] [] none none none none none
      none none) := by
  intro h
  have hfamily := (requireMember_ok (checked_of_jsonLine h).eventType).2
  exact absurd hfamily (by decide +kernel)

end AConductor.Relay

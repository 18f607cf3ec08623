import AConductor.Signal.RoundTrip

/-!
# Outcomes, and both codecs together

`src/a_conductor/orchestration.py:220-258, 344-354`. A decoded outcome holds its
references in a tuple, texts and a truth value, so it is equal to the encoded one field
by field; one that was made with a list is not.
-/

namespace AConductor.Signal

open List Except Entries

variable {ν : Type}

def outcomeNames : List String :=
  ["signal_id", "kind", "decision", "reason_code", "evidence_refs", "observability_degraded",
    "submission_ref", "execution_ref"]

/-- The fields of an outcome are the lookups of a dictionary. -/
structure OrchestrationOutcome.ReadFrom (o : OrchestrationOutcome ν) (refs : List (Json ν))
    (entries : Entries ν) : Prop where
  signalId : o.signalId = getKey entries "signal_id"
  kind : o.kind = getKey entries "kind"
  decision : o.decision = getKey entries "decision"
  reasonCode : o.reasonCode = getKey entries "reason_code"
  evidenceRefs : .arr refs = getKey entries "evidence_refs"
  observabilityDegraded : o.observabilityDegraded = getKey entries "observability_degraded"
  submissionRef : o.submissionRef = getKey entries "submission_ref"
  executionRef : o.executionRef = getKey entries "execution_ref"

section Value

variable (o : OrchestrationOutcome ν) (refs : List (Json ν))

theorem keys_outcomeValue :
    (keys (outcomeValue o refs)).Sublist (texts outcomeNames) := by
  have hlast : (keys ([(.lit "submission_ref", o.submissionRef),
      (.lit "execution_ref", o.executionRef)].filter present)).Sublist
        (texts ["submission_ref", "execution_ref"]) := filter_sublist.map _
  unfold outcomeValue Entries.keys
  rw [map_append]
  exact (List.Sublist.refl (texts ["signal_id", "kind", "decision", "reason_code",
    "evidence_refs", "observability_degraded"])).append hlast

theorem nodup_outcomeValue : (keys (outcomeValue o refs)).Nodup := by
  apply (keys_outcomeValue o refs).nodup
  decide +kernel

theorem readFrom_outcomeValue : o.ReadFrom refs (outcomeValue o refs) := by
  have hlast (key : String) :
      (Json.find? (.lit key) ([(.lit "submission_ref", o.submissionRef),
        (.lit "execution_ref", o.executionRef)].filter present)).getD .null =
      (Json.find? (.lit key) [(.lit "submission_ref", o.submissionRef),
        (.lit "execution_ref", o.executionRef)]).getD .null :=
    getKey_filter (by show (texts ["submission_ref", "execution_ref"]).Nodup; decide +kernel) key
  constructor
  case submissionRef =>
    simp only [getKey, outcomeValue, cons_append, nil_append, Json.find?_lit_cons,
      String.reduceEq, if_false, hlast, if_true, Option.getD_some]
  case executionRef =>
    simp only [getKey, outcomeValue, cons_append, nil_append, Json.find?_lit_cons,
      String.reduceEq, if_false, hlast, if_true, Option.getD_some]
  all_goals simp [getKey, outcomeValue, Json.find?_lit_cons]

end Value

variable {entries : Entries ν} {data : List UInt8} {o : OrchestrationOutcome ν}
  {refs : List (Json ν)}

theorem ValidOutcome.text_sortKeys (h : ValidOutcome entries) {key : String}
    (hkey : key ∈ outcomeTextKeys) : (getKey entries key).sortKeys = getKey entries key := by
  by_cases hin : .lit key ∈ keys entries
  · exact (h.text key hkey hin).sortKeys
  · have hnull : getKey entries key = .null := by
      unfold getKey
      rw [Json.find?_eq_none hin]
      rfl
    rw [hnull, Json.sortKeys]

theorem PrintableList.sortKeys {value : Json ν} (h : PrintableList value) :
    value.sortKeys = value := by
  obtain ⟨items, rfl, -, hitems⟩ := h
  rw [Json.sortKeys, Json.sortKeysItems_eq]
  congr 1
  conv_rhs => rw [← map_id items]
  exact map_congr_left fun item hitem => (hitems item hitem).sortKeys

/-- Sorting the dictionary of an outcome changes no lookup. -/
theorem ValidOutcome.getKey_sorted (h : ValidOutcome entries)
    (hnodup : (keys entries).Nodup) {name : String} (hname : name ∈ outcomeNames) :
    getKey (sorted entries) name = getKey entries name := by
  rw [Signal.getKey_sorted hnodup]
  have hcases : ∀ name ∈ outcomeNames, name ∈ outcomeTextKeys ∨ name = "evidence_refs" ∨
      name = "observability_degraded" := by decide
  rcases hcases name hname with htext | rfl | rfl
  · exact h.text_sortKeys htext
  · exact h.refs.sortKeys
  · obtain ⟨b, hb⟩ := h.degraded
    rw [hb, Json.sortKeys]

theorem OrchestrationOutcome.ReadFrom.congr {a b : Entries ν} (h : o.ReadFrom refs b)
    (hget : ∀ name ∈ outcomeNames, getKey a name = getKey b name) : o.ReadFrom refs a := by
  constructor
  case signalId => rw [hget _ (by decide), h.signalId]
  case kind => rw [hget _ (by decide), h.kind]
  case decision => rw [hget _ (by decide), h.decision]
  case reasonCode => rw [hget _ (by decide), h.reasonCode]
  case evidenceRefs => rw [hget _ (by decide), h.evidenceRefs]
  case observabilityDegraded => rw [hget _ (by decide), h.observabilityDegraded]
  case submissionRef => rw [hget _ (by decide), h.submissionRef]
  case executionRef => rw [hget _ (by decide), h.executionRef]

/-- A valid dictionary that an outcome's fields come from decodes to that outcome, with
    its references in a tuple. -/
theorem decodeOutcome_of_parse
    (hparse : (parse data : Except OrchestrationError (Json ν)) = .ok (.obj entries))
    (hvalid : validateOutcome entries = .ok ()) (hread : o.ReadFrom refs entries) :
    decodeOutcome data = .ok { o with evidenceRefs := .tuple refs } := by
  unfold decodeOutcome
  rw [hparse, ok_bind]
  dsimp only
  rw [hvalid, ok_bind, ← hread.signalId, ← hread.kind, ← hread.decision, ← hread.reasonCode,
    ← hread.evidenceRefs, ← hread.observabilityDegraded, ← hread.submissionRef,
    ← hread.executionRef]
  rfl

theorem decodeOutcome_ok (h : decodeOutcome data = .ok o) :
    ∃ entries refs, (keys entries).Nodup ∧ validateOutcome entries = .ok () ∧
      o.evidenceRefs = .tuple refs ∧ o.ReadFrom refs entries := by
  unfold decodeOutcome at h
  obtain ⟨value, hparse, h⟩ := bind_eq_ok.mp h
  cases value with
  | obj entries =>
    obtain ⟨_, hvalid, h⟩ := bind_eq_ok.mp h
    obtain ⟨items, hitems, -⟩ := (validateOutcome_ok hvalid).refs
    cases h
    refine ⟨entries, items, (parse_distinct hparse).1, hvalid, ?_, ?_⟩
    · show EvidenceRefs.tuple (itemsOf (getKey entries "evidence_refs")) = _
      rw [hitems]
      rfl
    · exact ⟨rfl, rfl, rfl, rfl, hitems.symm, rfl, rfl, rfl⟩
  | null | bool _ | num _ | str _ | arr _ => cases h

/-- An outcome whose dictionary is valid is encoded, and decodes to itself with its
    references in a tuple. -/
theorem outcome_reads_back (hrefs : refsList o.evidenceRefs = .ok refs)
    (hvalid : validateOutcome (outcomeValue o refs) = .ok ()) :
    ∃ data, encodeOutcome o = .ok data ∧
      decodeOutcome data = .ok { o with evidenceRefs := .tuple refs } := by
  have hnodup := nodup_outcomeValue o refs
  have houtcome := validateOutcome_ok hvalid
  have hwithin := houtcome.within hnodup
  have hsorted : validateOutcome (sorted (outcomeValue o refs)) = .ok () := by
    rw [(alike_sorted hnodup).validateOutcome]
    exact hvalid
  have hsortedNodup : (keys (sorted (outcomeValue o refs))).Nodup :=
    (keys_sorted _).nodup_iff.mpr hnodup
  obtain ⟨data, hencode, hparse⟩ := encodeValue_parse hwithin
    ((validateOutcome_ok hsorted).within hsortedNodup).2
  refine ⟨data, ?_, ?_⟩
  · unfold encodeOutcome
    rw [hrefs, ok_bind,
      boundedTree_ok hwithin.1 hwithin.2.1 hwithin.2.2.1 hwithin.2.2.2, ok_bind, hvalid,
      ok_bind, hencode]
  · apply decodeOutcome_of_parse hparse hsorted
    exact (readFrom_outcomeValue o refs).congr fun name hname => houtcome.getKey_sorted hnodup hname

theorem encodeOutcome_ok (h : encodeOutcome o = .ok data) :
    ∃ refs, refsList o.evidenceRefs = .ok refs ∧ validateOutcome (outcomeValue o refs) = .ok () := by
  unfold encodeOutcome at h
  simp only [bind_eq_ok] at h
  obtain ⟨refs, hrefs, _, -, _, hvalid, -⟩ := h
  exact ⟨refs, hrefs, hvalid⟩

theorem ValidOutcome.present (h : ValidOutcome entries) (hnodup : (keys entries).Nodup) :
    ∀ e ∈ entries, e.2 ≠ .null := by
  intro e he
  rcases h.entry hnodup he with ⟨-, htext | ⟨b, hb⟩⟩ | ⟨-, items, heq, -⟩
  · exact htext.ne_null
  · rw [hb]
    exact nofun
  · rw [heq]
    exact nofun

/-- What a decoded outcome's fields came from has the lookups of its own dictionary. -/
theorem alike_outcomeValue (hvalid : ValidOutcome entries) (hnodup : (keys entries).Nodup)
    (hread : o.ReadFrom refs entries) : Alike (outcomeValue o refs) entries := by
  have hown := readFrom_outcomeValue o refs
  have hget : ∀ name ∈ outcomeNames, getKey (outcomeValue o refs) name = getKey entries name := by
    intro name hname
    simp only [outcomeNames, mem_cons, not_mem_nil, or_false] at hname
    rcases hname with rfl | rfl | rfl | rfl | rfl | rfl | rfl | rfl
    · rw [← hown.signalId, hread.signalId]
    · rw [← hown.kind, hread.kind]
    · rw [← hown.decision, hread.decision]
    · rw [← hown.reasonCode, hread.reasonCode]
    · rw [← hown.evidenceRefs, hread.evidenceRefs]
    · rw [← hown.observabilityDegraded, hread.observabilityDegraded]
    · rw [← hown.submissionRef, hread.submissionRef]
    · rw [← hown.executionRef, hread.executionRef]
  have hfields : ∀ key ∈ outcomeFields ++ outcomeOptional, key ∈ texts outcomeNames := by
    decide +kernel
  have hpresent : ∀ e ∈ outcomeValue o refs, e.2 ≠ .null := by
    intro e he
    rcases mem_append.mp he with hfirst | hlast
    · have hkey : e.1 ∈ outcomeFields := by
        have hmap := mem_map_of_mem (f := Prod.fst) hfirst
        exact hmap
      obtain ⟨key, value⟩ := e
      obtain ⟨name, hname, rfl⟩ := mem_texts hkey
      have hmem : name ∈ outcomeNames := by
        have hsub : ∀ name ∈ ["signal_id", "kind", "decision", "reason_code", "evidence_refs",
          "observability_degraded"], name ∈ outcomeNames := by decide
        exact hsub name hname
      rw [← getKey_of_mem (nodup_outcomeValue o refs) he, hget name hmem]
      exact (mem_keys_iff hnodup (hvalid.present hnodup) name).mp
        (hvalid.required _ hkey)
    · exact present_eq_true.mp (mem_filter.mp hlast).2
  exact alike_of_getKey (nodup_outcomeValue o refs) hnodup hpresent (hvalid.present hnodup)
    (fun key hkey => (keys_outcomeValue o refs).subset hkey)
    (fun key hkey => hfields key (hvalid.known key hkey)) hget

/-- A decoded outcome is encoded again, and decodes to itself. -/
theorem outcome_encoded_again (h : decodeOutcome data = .ok o) :
    ∃ data', encodeOutcome o = .ok data' ∧ decodeOutcome data' = .ok o := by
  obtain ⟨entries, refs, hnodup, hvalid, htuple, hread⟩ := decodeOutcome_ok h
  have hown : validateOutcome (outcomeValue o refs) = .ok () := by
    rw [(alike_outcomeValue (validateOutcome_ok hvalid) hnodup hread).validateOutcome]
    exact hvalid
  have hrefs : refsList o.evidenceRefs = .ok refs := by
    rw [htuple]
    rfl
  obtain ⟨data', hencode, hdecode⟩ := outcome_reads_back hrefs hown
  rw [← htuple] at hdecode
  exact ⟨data', hencode, hdecode⟩

/-- Whatever an encoder accepts is decoded as what it was, and whatever a decoder accepts is
    encoded again and decoded as what it was; an outcome's references are a tuple. -/
theorem orchestration_codec_round_trip (ν : Type) (fromIsoFormat : PyStr → Bool) :
    (∀ (s : OrchestrationSignal ν) data, encodeSignal fromIsoFormat s = .ok data →
      ∃ s', decodeSignal fromIsoFormat data none = .ok s' ∧ s'.Same s) ∧
    (∀ data expectedSource (s : OrchestrationSignal ν),
      decodeSignal fromIsoFormat data expectedSource = .ok s →
      ∃ data' s', encodeSignal fromIsoFormat s = .ok data' ∧
        decodeSignal fromIsoFormat data' expectedSource = .ok s' ∧ s'.Same s) ∧
    (∀ (o : OrchestrationOutcome ν) refs data, o.evidenceRefs = .tuple refs →
      encodeOutcome o = .ok data → decodeOutcome data = .ok o) ∧
    (∀ data (o : OrchestrationOutcome ν), decodeOutcome data = .ok o →
      ∃ data', encodeOutcome o = .ok data' ∧ decodeOutcome data' = .ok o) := by
  refine ⟨?_, ?_, ?_, ?_⟩
  · intro s data h
    obtain ⟨hvalid, hencode⟩ := encodeSignal_ok h
    obtain ⟨-, found, hfound, s', hdecode, hsame⟩ := signal_reads_back hvalid
    rw [hencode] at hfound
    cases hfound
    exact ⟨s', hdecode, hsame⟩
  · intro data expectedSource s h
    exact signal_encoded_again h
  · intro o refs data htuple h
    obtain ⟨found, hrefs, hvalid⟩ := encodeOutcome_ok h
    obtain ⟨data', hencode, hdecode⟩ := outcome_reads_back hrefs hvalid
    rw [h] at hencode
    cases hencode
    rw [htuple] at hrefs
    cases hrefs
    rw [hdecode, ← htuple]
  · intro data o h
    exact outcome_encoded_again h

/-- A signal without any field set. -/
def blankSignal : OrchestrationSignal Unit where
  schemaVersion := .null
  signalId := .null
  kind := .null
  occurredAt := .null
  sourceRef := .null
  projectId := .null
  payload := .null
  distinct := trivial

/-- An outcome with its references in a list. -/
def listedOutcome : OrchestrationOutcome Unit where
  signalId := .str (.lit "s")
  kind := .str (.lit "ENQUEUE")
  decision := .str (.lit "NO_ACTION")
  reasonCode := .str (.lit "r")
  evidenceRefs := .list []

/-- The constructors accept a signal that is not encoded, and an outcome that decodes to
    another one. -/
theorem constructed_not_read_back :
    encodeSignal (fun _ => true) blankSignal = .error .missingKey ∧
      ∃ data, encodeOutcome listedOutcome = .ok data ∧ decodeOutcome data ≠ .ok listedOutcome := by
  refine ⟨by decide +kernel, ?_⟩
  obtain ⟨data, hencode, hdecode⟩ := outcome_reads_back (o := listedOutcome) rfl
    (by decide +kernel)
  refine ⟨data, hencode, ?_⟩
  rw [hdecode]
  intro h
  cases congrArg OrchestrationOutcome.evidenceRefs (Except.ok.inj h)

end AConductor.Signal

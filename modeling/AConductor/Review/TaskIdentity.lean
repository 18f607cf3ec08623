import AConductor.Review.Task

/-!
# The identity of a review task

The canonical bytes of a review tell everything that its texts are made of: two requests with the
same bytes ask for the same review (`src/a_conductor/zero_relay_review_task.py:163-196`).
-/

namespace AConductor.Review

open List Json

variable {data : List UInt8} {s : PyStr} {entries : List (String × Value)}

theorem encodeText_eq_ok : encodeText s = .ok data ↔ s.encode = some data := by
  unfold encodeText
  cases s.encode with
  | none => simp
  | some data' => simp

/-- Texts with the same bytes are the same. -/
theorem encodeText_injective {a b : PyStr} (ha : encodeText a = .ok data)
    (hb : encodeText b = .ok data) : a = b := by
  have hadecode := PyStr.decode_encode (encodeText_eq_ok.mp ha)
  have hbdecode := PyStr.decode_encode (encodeText_eq_ok.mp hb)
  exact Option.some.inj (hadecode.symm.trans hbdecode)

theorem isChar_of_encodeText (h : encodeText s = .ok data) : ∀ c ∈ s, c.isChar = true := by
  obtain ⟨cs, hcs, -⟩ := Option.map_eq_some_iff.mp (encodeText_eq_ok.mp h)
  rw [PyStr.toChars?_eq_some.mp hcs]
  intro c hc
  obtain ⟨d, -, rfl⟩ := mem_map.mp hc
  rfl

/-- The number is an integer. -/
def integral : Number PyStr → Bool
  | .int _ => true
  | .float _ => false

theorem keys_record (entries : List (String × Value)) :
    (entries.map fun e => (PyStr.lit e.1, e.2)).map Prod.fst = (entries.map Prod.fst).map .lit := by
  rw [map_map, map_map]
  rfl

theorem distinct_record (hnodup : (entries.map Prod.fst).Nodup) (h : ∀ e ∈ entries, e.2.Distinct) :
    (record entries).Distinct := by
  refine ⟨?_, distinctEntries_iff.mpr ?_⟩
  · rw [keys_record]
    exact hnodup.map PyStr.lit_injective
  · intro e he
    obtain ⟨e', he', rfl⟩ := mem_map.mp he
    exact h e' he'

theorem allNums_record (h : ∀ e ∈ entries, e.2.allNums integral = true) :
    (record entries).allNums integral = true := by
  refine allNumsEntries_iff.mpr ?_
  intro e he
  obtain ⟨e', he', rfl⟩ := mem_map.mp he
  exact h e' he'

theorem sortKeysEntries_record (entries : List (String × Value)) :
    sortKeysEntries (entries.map fun e => (PyStr.lit e.1, e.2)) =
      entries.map fun e => (PyStr.lit e.1, e.2.sortKeys) := by
  induction entries with
  | nil => rfl
  | cons e entries ih => rw [map_cons, sortKeysEntries, ih, map_cons]

/-- Records with the same keys are told apart by their sorted values. -/
theorem values_of_sortKeys {a b : List (String × Value)} (hkeys : a.map Prod.fst = b.map Prod.fst)
    (hnodup : (a.map Prod.fst).Nodup) (h : (record a).sortKeys = (record b).sortKeys) :
    (a.map fun e => e.2.sortKeys) = b.map fun e => e.2.sortKeys := by
  unfold record at h
  rw [sortKeys_obj, sortKeys_obj, Json.obj.injEq] at h
  have hentries := sortKeysEntries_eq_of_sorted (by rw [keys_record, keys_record, hkeys])
    (by rw [keys_record]; exact hnodup.map PyStr.lit_injective) h
  rw [sortKeysEntries_record, sortKeysEntries_record] at hentries
  have hvalues := congrArg (List.map Prod.snd) hentries
  rwa [map_map, map_map] at hvalues

/-- Values with distinct keys everywhere and integers only are told apart, but for the order of
    their keys, by their canonical bytes. -/
theorem sortKeys_of_canonicalText {a b : Value} (ha : a.Distinct) (hb : b.Distinct)
    (hanums : a.allNums integral = true) (hbnums : b.allNums integral = true)
    (hatext : encodeText (canonicalText a) = .ok data)
    (hbtext : encodeText (canonicalText b) = .ok data)
    (hbom : (canonicalText a).head? ≠ some (.char '\ufeff')) : a.sortKeys = b.sortKeys := by
  have hreadable {j : Value} (hdistinct : j.Distinct) (hnums : j.allNums integral = true)
      (htext : encodeText (canonicalText j) = .ok data) : Readable IsInt j.sortKeys := by
    refine (readable_of_dumps rfl hdistinct.sortKeys (allNums_sortKeys hnums)
      (isChar_of_encodeText htext)).mono ?_
    intro n hn
    cases n with
    | int i => exact ⟨i, rfl⟩
    | float literal => cases hn
  exact eq_of_dumps (fun n => rfl) (hreadable ha hanums hatext) (hreadable hb hbnums hbtext)
    hbom (encodeText_injective hatext hbtext)

theorem distinct_texts (l : List PyStr) : DistinctItems (l.map .str : List Value) := by
  rw [distinctItems_iff]
  intro item hitem
  obtain ⟨s, -, rfl⟩ := mem_map.mp hitem
  trivial

theorem allNums_texts (l : List PyStr) : allNumsItems integral (l.map .str) = true := by
  induction l with
  | nil => rfl
  | cons s l ih => exact ih

theorem texts_eq (l : List String) : texts l = .arr ((l.map PyStr.lit).map .str) := by
  unfold texts
  rw [map_map]
  rfl

theorem securityPayload_sound (security : ProviderPolicyTaskSecurity) :
    (v2SecurityPayload security).Distinct ∧ (v2SecurityPayload security).allNums integral = true := by
  unfold v2SecurityPayload
  constructor
  · refine distinct_record (by simp) ?_
    simp [text, Distinct, distinct_texts]
  · refine allNums_record ?_
    simp [text, allNums, allNums_texts]

theorem responseContract_sound :
    v2ResponseContractPayload.Distinct ∧ v2ResponseContractPayload.allNums integral = true := by
  unfold v2ResponseContractPayload
  constructor
  · refine distinct_record (by simp) ?_
    simp only [texts_eq, text, int, mem_cons, not_mem_nil, or_false]
    rintro e (rfl | rfl | rfl | rfl | rfl)
    all_goals trivial
  · refine allNums_record ?_
    simp only [texts_eq, text, int, mem_cons, not_mem_nil, or_false]
    rintro e (rfl | rfl | rfl | rfl | rfl)
    all_goals rfl

theorem reviewV2Payload_sound (r : ReviewRequest) (head project : PyStr) :
    (reviewV2Payload r head project).Distinct ∧
      (reviewV2Payload r head project).allNums integral = true := by
  unfold reviewV2Payload
  constructor
  · refine distinct_record (by simp) ?_
    simp [text, int, Distinct, securityPayload_sound, responseContract_sound]
  · refine allNums_record ?_
    simp [text, int, integral, allNums, securityPayload_sound, responseContract_sound]

theorem hexChar_mem {c : Char} (h : hexChar (.char c) = true) :
    c ∈ "0123456789abcdefABCDEF".toList := by
  have hcode : (48 ≤ c.toNat ∧ c.toNat ≤ 57) ∨ (97 ≤ c.toNat ∧ c.toNat ≤ 102) ∨
      (65 ≤ c.toNat ∧ c.toNat ≤ 70) := by
    have hval : c.toNat = c.val.toNat := rfl
    simp only [hexChar, Char.isDigit, Bool.or_eq_true, Bool.and_eq_true, decide_eq_true_eq,
      ge_iff_le, UInt32.le_iff_toNat_le, Char.le_def, Char.reduceVal, UInt32.reduceToNat] at h
    omega
  rw [(Char.ofNat_toNat c).symm]
  generalize c.toNat = n at hcode
  rcases hcode with ⟨hlow, hhigh⟩ | ⟨hlow, hhigh⟩ | ⟨hlow, hhigh⟩
  · interval_cases n <;> decide
  · interval_cases n <;> decide
  · interval_cases n <;> decide

theorem hexChar_toLower {c : Char} (h : hexChar (.char c) = true) :
    hexChar (.char c.toLower) = true := by
  have hall : "0123456789abcdefABCDEF".toList.all
      fun c => hexChar (.char c.toLower) := by
    rw [String.toList_ofList]
    decide
  exact all_eq_true.mp hall c (hexChar_mem h)

theorem foldHex_foldHex {least most : Nat} (h : isHex least most s = true) :
    foldHex (foldHex s) = foldHex s := by
  unfold isHex at h
  rw [Bool.and_eq_true] at h
  have hall : "0123456789abcdefABCDEF".toList.all fun c => c.toLower.toLower = c.toLower := by
    rw [String.toList_ofList]
    decide
  unfold foldHex
  rw [map_map]
  refine map_congr_left fun c hc => ?_
  have hhex := all_eq_true.mp h.2 c hc
  cases c with
  | char c =>
    have hlower := of_decide_eq_true (all_eq_true.mp hall c (hexChar_mem hhex))
    exact congrArg CodePoint.char hlower
  | surrogate n => rfl

theorem isHex_foldHex {least most : Nat} (h : isHex least most s = true) :
    isHex least most (foldHex s) = true := by
  unfold isHex foldHex at *
  rw [Bool.and_eq_true] at h
  rw [Bool.and_eq_true, length_map]
  refine ⟨h.1, all_eq_true.mpr ?_⟩
  intro d hd
  obtain ⟨c, hc, rfl⟩ := mem_map.mp hd
  have hhex := all_eq_true.mp h.2 c hc
  cases c with
  | char c => exact hexChar_toLower hhex
  | surrogate n => cases hhex

theorem reviewedHead_eq_ok {value head : PyStr} :
    reviewedHead value = .ok head ↔ isHex 7 64 value = true ∧ foldHex value = head := by
  unfold reviewedHead
  by_cases h : isHex 7 64 value = true
  · rw [if_pos h]
    simp [h]
  · rw [if_neg h]
    simp [h]

theorem reviewedHead_idem {value head : PyStr} (h : reviewedHead value = .ok head) :
    reviewedHead head = .ok head := by
  obtain ⟨hhex, rfl⟩ := reviewedHead_eq_ok.mp h
  exact reviewedHead_eq_ok.mpr ⟨isHex_foldHex hhex, foldHex_foldHex hhex⟩

theorem v2Text_eq_ok {value project : PyStr} {code : String} {maxChars : Nat}
    (h : v2Text value code maxChars = .ok project) : project = value := by
  unfold v2Text at h
  simp only [Except.bind_eq_ok] at h
  obtain ⟨_, -, _, -, h⟩ := h
  cases h
  rfl

/-- The request as `materialize_review_v2_task` passes it on. -/
def ReviewRequest.normalized (r : ReviewRequest) (head project : PyStr) : ReviewRequest :=
  { r with reviewedHead := head, projectId := project }

theorem canonicalReviewV2Bytes_eq_ok {r : ReviewRequest} (h : canonicalReviewV2Bytes r = .ok data) :
    ∃ head, reviewedHead r.reviewedHead = .ok head ∧
      v2Text r.projectId "REVIEW_PROJECT_INVALID" 128 = .ok r.projectId ∧
      encodeText (canonicalText (reviewV2Payload r head r.projectId)) = .ok data := by
  unfold canonicalReviewV2Bytes at h
  simp only [Except.bind_eq_ok] at h
  obtain ⟨head, hhead, project, hproject, hdata⟩ := h
  have hsame := v2Text_eq_ok hproject
  subst hsame
  exact ⟨head, hhead, hproject, hdata⟩

/-- A request names the same review before and after it was normalized. -/
theorem canonicalReviewV2Bytes_normalized {r : ReviewRequest} {head project : PyStr}
    (hhead : reviewedHead r.reviewedHead = .ok head)
    (hproject : v2Text r.projectId "REVIEW_PROJECT_INVALID" 128 = .ok project) :
    canonicalReviewV2Bytes (r.normalized head project) = canonicalReviewV2Bytes r := by
  have hsame := v2Text_eq_ok hproject
  subst hsame
  unfold canonicalReviewV2Bytes
  have hidem := reviewedHead_idem hhead
  simp only [ReviewRequest.normalized, hidem, hhead, hproject]
  rfl

theorem securityPayload_injective {a b : ProviderPolicyTaskSecurity}
    (h : (v2SecurityPayload a).sortKeys = (v2SecurityPayload b).sortKeys) : a = b := by
  unfold v2SecurityPayload at h
  have hvalues := values_of_sortKeys (by rfl) (by simp) h
  have hsorted (l : List PyStr) : sortKeysItems (l.map .str : List Value) = l.map .str := by
    induction l with
    | nil => rfl
    | cons s l ih => rw [map_cons, sortKeysItems, ih, sortKeys]
  simp only [map_cons, map_nil, text, sortKeys, hsorted, List.cons.injEq,
    Json.str.injEq, Json.arr.injEq, Json.bool.injEq, and_true, PyStr.lit_injective.eq_iff] at hvalues
  obtain ⟨hprivacy, hnetwork, hallow, hsecret⟩ := hvalues
  have hprivacy' : a.privacyClass = b.privacyClass := by
    revert hprivacy
    cases a.privacyClass <;> cases b.privacyClass <;> decide
  have hnetwork' : a.networkPolicy = b.networkPolicy := by
    revert hnetwork
    cases a.networkPolicy <;> cases b.networkPolicy <;> decide
  have hallow' : a.networkAllowlist = b.networkAllowlist :=
    map_injective_iff.mpr (fun _ _ heq => Json.str.inj heq) hallow
  cases a
  cases b
  simp_all

/-- Requests with the same canonical bytes are normalized to the same request. -/
theorem normalized_eq {a b : ReviewRequest} (ha : canonicalReviewV2Bytes a = .ok data)
    (hb : canonicalReviewV2Bytes b = .ok data) {heada headb : PyStr}
    (hheada : reviewedHead a.reviewedHead = .ok heada)
    (hheadb : reviewedHead b.reviewedHead = .ok headb) :
    a.normalized heada a.projectId = b.normalized headb b.projectId := by
  obtain ⟨head, hhead, -, hadata⟩ := canonicalReviewV2Bytes_eq_ok ha
  obtain rfl : head = heada := Except.ok.inj (hhead.symm.trans hheada)
  obtain ⟨head', hhead', -, hbdata⟩ := canonicalReviewV2Bytes_eq_ok hb
  obtain rfl : head' = headb := Except.ok.inj (hhead'.symm.trans hheadb)
  obtain ⟨hadistinct, hanums⟩ := reviewV2Payload_sound a head a.projectId
  obtain ⟨hbdistinct, hbnums⟩ := reviewV2Payload_sound b head' b.projectId
  have hbom : (canonicalText (reviewV2Payload a head a.projectId)).head? ≠ some (.char '\ufeff') := by
    unfold canonicalText reviewV2Payload record
    rw [sortKeys_obj, dumps]
    nofun
  have hsorted := sortKeys_of_canonicalText hadistinct hbdistinct hanums hbnums hadata hbdata hbom
  unfold reviewV2Payload at hsorted
  have hvalues := values_of_sortKeys (by rfl) (by simp) hsorted
  simp only [map_cons, map_nil, text, int, sortKeys, List.cons.injEq, Json.str.injEq,
    Json.num.injEq, Number.int.injEq, and_true, true_and] at hvalues
  obtain ⟨hproject, hcontract, htask, href, hresult, hattempt, hgeneration, hauthor, hheads,
    hsecurity⟩ := hvalues
  have hidentity : a.identity = b.identity := by
    obtain ⟨⟨fa, hfa⟩, _, _, _⟩ := a
    obtain ⟨⟨fb, hfb⟩, _, _, _⟩ := b
    cases fa
    cases fb
    simp_all
  unfold ReviewRequest.normalized
  rw [hidentity, hheads, hproject, securityPayload_injective hsecurity]

end AConductor.Review

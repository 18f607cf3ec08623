import AConductor.Signal.Validated

/-!
# The codec of signals and outcomes is a round trip

`src/a_conductor/orchestration.py:203-354`. What validation accepts is encoded, its text
passes every bound of the decoder, and the dictionary that is read back is the sorted
one, which validation cannot tell from the first. A decoded signal lists its keys in
another order, so its payload is the same dictionary, not the same list of entries.
-/

namespace AConductor.Signal

open List Except Json PyStr

variable {ν : Type}

/-- The entries as `sort_keys` prints them. -/
def sorted (entries : Entries ν) : Entries ν :=
  (sortKeysEntries entries).insertionSort fun a b => Le a.1 b.1

theorem sortKeys_obj (entries : Entries ν) :
    (Json.obj entries).sortKeys = .obj (sorted entries) := by
  rw [sortKeys]
  rfl

theorem sorted_perm (entries : Entries ν) :
    (sorted entries).Perm (entries.map fun e => (e.1, e.2.sortKeys)) := Json.sorted_perm entries

theorem keys_sorted (entries : Entries ν) :
    (Entries.keys (sorted entries)).Perm (Entries.keys entries) := by
  have hperm := (sorted_perm entries).map Prod.fst
  rwa [map_fst_sortKeys] at hperm

variable {entries : Entries ν} {s : OrchestrationSignal ν} {fromIsoFormat : PyStr → Bool}
  {expectedSource : Option PyStr} {data : List UInt8}

theorem getKey_sorted (hnodup : (Entries.keys entries).Nodup) (key : String) :
    getKey (sorted entries) key = (getKey entries key).sortKeys := by
  unfold getKey sorted
  rw [find?_sorted hnodup]
  cases Json.find? (PyStr.lit key) entries with
  | none =>
    show Json.null = Json.null.sortKeys
    rw [sortKeys]
  | some value => rfl

theorem member_sortKeys (allowed : List PyStr) (e : OrchestrationError) (value : Json ν) :
    member allowed e value.sortKeys = member allowed e value := by
  cases value with
  | null | bool _ | num _ | str _ | arr _ | obj _ => rw [sortKeys] <;> rfl

theorem isRef_sortKeys (limit : Nat) (value : Json ν) :
    isRef limit value.sortKeys = isRef limit value := by
  cases value with
  | null | bool _ | num _ | str _ | arr _ | obj _ => rw [sortKeys] <;> rfl

theorem checkRef_sortKeys (limit : Nat) (value : Json ν) :
    checkRef limit value.sortKeys = checkRef limit value := by
  unfold checkRef
  rw [isRef_sortKeys]

theorem checkTimestamp_sortKeys (fromIsoFormat : PyStr → Bool) (value : Json ν) :
    checkTimestamp fromIsoFormat value.sortKeys = checkTimestamp fromIsoFormat value := by
  cases value with
  | null | bool _ | num _ | str _ | arr _ | obj _ => rw [sortKeys] <;> rfl

theorem isBool_sortKeys (value : Json ν) : isBool value.sortKeys = isBool value := by
  cases value with
  | null | bool _ | num _ | str _ | arr _ | obj _ => rw [sortKeys] <;> rfl

theorem checkSource_sortKeys (expectedSource : Option PyStr) (value : Json ν) :
    checkSource expectedSource value.sortKeys = checkSource expectedSource value := by
  cases expectedSource with
  | none => rfl
  | some expected =>
    dsimp only [checkSource]
    rw [member_sortKeys]

theorem checkRefs_sortKeys (value : Json ν) : checkRefs value.sortKeys = checkRefs value := by
  cases value with
  | arr items =>
    have hall : (items.map sortKeys).all (isRef refLimit) = items.all (isRef refLimit) := by
      rw [all_map]
      congr 1
      funext item
      exact isRef_sortKeys refLimit item
    rw [sortKeys, sortKeysItems_eq]
    dsimp only [checkRefs]
    rw [length_map, hall]
  | null | bool _ | num _ | str _ | obj _ => rw [sortKeys] <;> rfl

theorem rejectIf_congr {p q : Prop} [Decidable p] [Decidable q] (h : p ↔ q)
    (e : OrchestrationError) : rejectIf p e = rejectIf q e := by
  by_cases hp : p
  · rw [rejectIf_pos hp, rejectIf_pos (h.mp hp)]
  · rw [rejectIf_neg hp, rejectIf_neg fun hq => hp (h.mpr hq)]

/-- Two dictionaries with the same keys, and values that validation reads alike. -/
structure Alike (a b : Entries ν) : Prop where
  keys : ∀ key, key ∈ Entries.keys a ↔ key ∈ Entries.keys b
  values : ∀ key, getKey a key = getKey b key ∨ getKey a key = (getKey b key).sortKeys

theorem alike_sorted (hnodup : (Entries.keys entries).Nodup) : Alike (sorted entries) entries where
  keys := fun _ => (keys_sorted entries).mem_iff
  values := fun key => .inr (getKey_sorted hnodup key)

section Alike

variable {a b : Entries ν} (h : Alike a b)
include h

theorem Alike.checkKeys (required optional : List PyStr) :
    checkKeys required optional a = checkKeys required optional b := by
  have hrequired : (¬ ∀ key ∈ required, key ∈ Entries.keys a) ↔
      ¬ ∀ key ∈ required, key ∈ Entries.keys b :=
    not_congr (forall₂_congr fun key _ => h.keys key)
  have hknown : (¬ ∀ key ∈ Entries.keys a, key ∈ required ++ optional) ↔
      ¬ ∀ key ∈ Entries.keys b, key ∈ required ++ optional :=
    not_congr (forall_congr' fun key => imp_congr_left (h.keys key))
  unfold Signal.checkKeys
  rw [rejectIf_congr hrequired, rejectIf_congr hknown]

theorem Alike.read {β : Type} {f : Json ν → β} (hf : ∀ v, f v.sortKeys = f v) (key : String) :
    f (getKey a key) = f (getKey b key) := by
  rcases h.values key with heq | heq
  · rw [heq]
  · rw [heq, hf]

theorem Alike.checkOptionalRef (limit : Nat) (key : String) :
    checkOptionalRef limit a key = checkOptionalRef limit b key := by
  have href := h.read (isRef_sortKeys limit) key
  unfold Signal.checkOptionalRef
  exact rejectIf_congr (by rw [h.keys, href]) _

theorem Alike.kindContract (kind : PyStr) : kindContract kind a = kindContract kind b := by
  have htarget (allowed : List PyStr) (e : OrchestrationError) :=
    h.read (member_sortKeys allowed e) "target"
  have htrigger (allowed : List PyStr) (e : OrchestrationError) :=
    h.read (member_sortKeys allowed e) "trigger"
  unfold Signal.kindContract effectContract
  simp only [h.checkKeys, htarget, htrigger]
  rw [rejectIf_congr (not_congr (h.keys (.lit "target")))]

end Alike

theorem forall_isRef_sorted (limit : Nat) (entries : Entries ν) :
    (∀ e ∈ sorted entries, isRef limit e.2 = true) ↔ ∀ e ∈ entries, isRef limit e.2 = true := by
  constructor
  · intro h e he
    have hmem : (e.1, e.2.sortKeys) ∈ sorted entries :=
      (sorted_perm entries).mem_iff.mpr (mem_map_of_mem he)
    rw [← isRef_sortKeys]
    exact h _ hmem
  · intro h e he
    obtain ⟨d, hd, rfl⟩ := mem_map.mp ((sorted_perm entries).mem_iff.mp he)
    rw [isRef_sortKeys]
    exact h d hd

/-- A payload with distinct keys is judged by its sorted form. -/
theorem payloadContract_sortKeys (kind : PyStr) {value : Json ν} (hdistinct : value.Distinct) :
    payloadContract kind value.sortKeys = payloadContract kind value := by
  cases value with
  | obj payload =>
    rw [sortKeys_obj]
    dsimp only [payloadContract]
    rw [(alike_sorted hdistinct.1).kindContract,
      rejectIf_congr (not_congr (forall_isRef_sorted refLimit payload))]
  | null | bool _ | num _ | str _ | arr _ => rw [sortKeys] <;> rfl

variable {a b : Entries ν}

theorem Alike.payloadContract (h : Alike a b) (hdistinct : DistinctEntries b) (kind : PyStr) :
    payloadContract kind (getKey a "payload") = payloadContract kind (getKey b "payload") := by
  rcases h.values "payload" with heq | heq
  · rw [heq]
  · have hpayload : (getKey b "payload").Distinct := distinct_find? hdistinct
    rw [heq, payloadContract_sortKeys kind hpayload]

theorem Alike.validate (h : Alike a b) (hdistinct : DistinctEntries b)
    (fromIsoFormat : PyStr → Bool) (expectedSource : Option PyStr) :
    validate fromIsoFormat a expectedSource = validate fromIsoFormat b expectedSource := by
  have hmember (allowed : List PyStr) (e : OrchestrationError) := h.read (member_sortKeys allowed e)
  have href (limit : Nat) := h.read (checkRef_sortKeys limit)
  have htime := h.read (checkTimestamp_sortKeys fromIsoFormat) "occurred_at"
  have hsource := h.read (checkSource_sortKeys expectedSource) "source_ref"
  unfold Signal.validate
  simp only [h.checkKeys, hmember, href, htime, hsource, h.checkOptionalRef,
    h.payloadContract hdistinct, h.keys]

theorem Alike.validateOutcome (h : Alike a b) : validateOutcome a = validateOutcome b := by
  have hmember (allowed : List PyStr) (e : OrchestrationError) := h.read (member_sortKeys allowed e)
  have href (limit : Nat) := h.read (checkRef_sortKeys limit)
  have hrefs := h.read checkRefs_sortKeys "evidence_refs"
  have hbool := h.read isBool_sortKeys "observability_degraded"
  unfold Signal.validateOutcome
  simp only [h.checkKeys, hmember, href, hrefs, hbool, h.checkOptionalRef, h.keys]

theorem keepsObjects_signalHooks :
    KeepsObjects (signalHooks : Hooks OrchestrationError ν) := by
  intro entries h
  exact if_pos h

/-- A value whose sorted form is also within the limits is encoded, and read back sorted. -/
theorem encodeValue_parse (hvalue : Sound (.obj entries) ∧ Within (.obj entries))
    (hsorted : Within (.obj (sorted entries))) :
    ∃ data, encodeValue (.obj entries) = .ok data ∧
      (parse data : Except OrchestrationError (Json ν)) = .ok (.obj (sorted entries)) := by
  obtain ⟨hsound, hdepth, hfields, hload⟩ := hvalue
  obtain ⟨sdepth, sfields, sload⟩ := hsorted
  have ssound : Sound (.obj (sorted entries)) := by
    rw [← sortKeys_obj]
    exact hsound.sortKeys
  let text : PyStr := dumps signalStyle (fun _ => []) (Json.obj (sorted entries))
  have hascii : ∀ c ∈ text, c.code < 0x80 :=
    ascii_dumps rfl (fun _ hn => hn.elim) _ ssound
  have hplain : ∀ c ∈ text, Plain c :=
    plain_dumps signalStyle (fun _ hn => hn.elim) _ ssound
  obtain ⟨cs, hcs⟩ : ∃ cs, text = PyStr.ofChars cs :=
    ofChars_of_all (all_eq_true.mpr fun c hc => (hplain c hc).1)
  have hlength : (encodeChars cs).length ≤ sizeLimit := by
    have hchars : ∀ c ∈ cs, c.toNat < 0x80 := by
      intro c hc
      apply hascii (.char c)
      rw [hcs]
      exact mem_map_of_mem hc
    have htext : text.length ≤ (extent (.obj (sorted entries))).load := length_dumps _ ssound
    rw [hcs, length_ofChars] at htext
    rw [length_encodeChars hchars]
    omega
  have hencode : encode text = some (encodeChars cs) := by
    unfold encode
    rw [hcs, toChars?_ofChars]
    rfl
  have hdecode : decode (encodeChars cs) = some text := by
    rw [decode_encodeChars, hcs]
  have hloads : loads signalHooks text = .ok (.obj (sorted entries)) := by
    apply loads_dumps signalStyle _ keepsObjects_signalHooks
      (ssound.mono fun _ hn => hn.elim)
    rw [dumps, List.head?_cons]
    exact (by decide : some (CodePoint.char '{') ≠ some (.char '\ufeff'))
  refine ⟨encodeChars cs, ?_, ?_⟩
  · unfold encodeValue
    rw [boundedTree_ok hsound hdepth hfields hload, ok_bind, sortKeys_obj]
    rw [show encode (dumps signalStyle (fun _ => []) (.obj (sorted entries))) = _ from hencode]
    dsimp only
    show (rejectIf _ _ >>= _) = _
    rw [rejectIf_neg (by omega)]
    rfl
  · unfold parse
    rw [rejectIf_neg (by omega), ok_bind, hdecode]
    show (boundedText text >>= fun _ => loadText text) = _
    rw [boundedText_ok ssound sdepth sfields, ok_bind]
    unfold loadText
    rw [hloads]

theorem present_eq_false {e : PyStr × Json ν} : present e = false ↔ e.2 = .null := by
  obtain ⟨key, value⟩ := e
  cases value <;> simp [present]

theorem present_eq_true {e : PyStr × Json ν} : present e = true ↔ e.2 ≠ .null := by
  rw [← Bool.not_eq_false, present_eq_false]

/-- Leaving out what is `None` changes no lookup. -/
theorem getKey_filter (hnodup : (Entries.keys entries).Nodup) (key : String) :
    getKey (entries.filter present) key = getKey entries key := by
  have hsub : (Entries.keys (entries.filter present)).Nodup :=
    hnodup.sublist (filter_sublist.map _)
  by_cases hkey : .lit key ∈ Entries.keys entries
  · obtain ⟨⟨k, value⟩, hmem, rfl⟩ := mem_map.mp hkey
    rw [getKey_of_mem hnodup hmem]
    by_cases hvalue : value = .null
    · have hnone : PyStr.lit key ∉ Entries.keys (entries.filter present) := by
        intro hin
        obtain ⟨⟨k', value'⟩, hmem', hk⟩ := mem_map.mp hin
        obtain ⟨hmem', hpresent⟩ := mem_filter.mp hmem'
        have heq := inj_on_of_nodup_map hnodup hmem' hmem hk
        cases heq
        exact present_eq_true.mp hpresent hvalue
      unfold getKey
      rw [Json.find?_eq_none hnone, hvalue]
      rfl
    · exact getKey_of_mem hsub (mem_filter.mpr ⟨hmem, present_eq_true.mpr hvalue⟩)
  · have hnone : PyStr.lit key ∉ Entries.keys (entries.filter present) := fun hin =>
      hkey ((filter_sublist.map _).subset hin)
    unfold getKey
    rw [Json.find?_eq_none hkey, Json.find?_eq_none hnone]

/-- Where no value is `None`, a key is there if its lookup is not `None`. -/
theorem mem_keys_iff (hnodup : (Entries.keys entries).Nodup) (hpresent : ∀ e ∈ entries, e.2 ≠ .null)
    (key : String) : .lit key ∈ Entries.keys entries ↔ getKey entries key ≠ .null := by
  constructor
  · intro hkey
    obtain ⟨⟨k, value⟩, hmem, rfl⟩ := mem_map.mp hkey
    rw [getKey_of_mem hnodup hmem]
    exact hpresent _ hmem
  · intro hne
    by_contra hkey
    apply hne
    unfold getKey
    rw [Json.find?_eq_none hkey]
    rfl

/-- Two dictionaries of given names without `None` are alike if their lookups agree. -/
theorem alike_of_getKey {names : List String} (ha : (Entries.keys a).Nodup)
    (hb : (Entries.keys b).Nodup) (hpa : ∀ e ∈ a, e.2 ≠ .null) (hpb : ∀ e ∈ b, e.2 ≠ .null)
    (hka : ∀ key ∈ Entries.keys a, key ∈ texts names)
    (hkb : ∀ key ∈ Entries.keys b, key ∈ texts names)
    (hget : ∀ name ∈ names, getKey a name = getKey b name) : Alike a b := by
  have habsent {c : Entries ν} (hkc : ∀ key ∈ Entries.keys c, key ∈ texts names) {key : String}
      (hkey : key ∉ names) : getKey c key = .null := by
    unfold getKey
    rw [Json.find?_eq_none]
    · rfl
    · intro hin
      obtain ⟨name, hname, heq⟩ := mem_texts (hkc _ hin)
      exact hkey (lit_injective heq ▸ hname)
  have hall (key : String) : getKey a key = getKey b key := by
    by_cases hkey : key ∈ names
    · exact hget key hkey
    · rw [habsent hka hkey, habsent hkb hkey]
  have hlit (key : String) : .lit key ∈ Entries.keys a ↔ .lit key ∈ Entries.keys b := by
    rw [mem_keys_iff ha hpa, mem_keys_iff hb hpb, hall]
  refine ⟨?_, fun key => .inl (hall key)⟩
  intro key
  constructor
  · intro hin
    obtain ⟨name, -, rfl⟩ := mem_texts (hka key hin)
    exact (hlit name).mp hin
  · intro hin
    obtain ⟨name, -, rfl⟩ := mem_texts (hkb key hin)
    exact (hlit name).mpr hin

def signalNames : List String :=
  ["schema_version", "signal_id", "kind", "occurred_at", "source_ref", "project_id", "task_ref",
    "work_order_ref", "binding_ref", "payload"]

/-- The fields of a signal are the lookups of a dictionary. -/
structure OrchestrationSignal.ReadFrom (s : OrchestrationSignal ν) (entries : Entries ν) :
    Prop where
  schemaVersion : s.schemaVersion = getKey entries "schema_version"
  signalId : s.signalId = getKey entries "signal_id"
  kind : s.kind = getKey entries "kind"
  occurredAt : s.occurredAt = getKey entries "occurred_at"
  sourceRef : s.sourceRef = getKey entries "source_ref"
  projectId : s.projectId = getKey entries "project_id"
  taskRef : s.taskRef = getKey entries "task_ref"
  workOrderRef : s.workOrderRef = getKey entries "work_order_ref"
  bindingRef : s.bindingRef = getKey entries "binding_ref"
  payload : s.payload = getKey entries "payload"

/-- Equality of payloads: two dictionaries are equal whatever the order of their entries. -/
def DictEq : Json ν → Json ν → Prop
  | .obj a, .obj b => a.Perm b
  | a, b => a = b

/-- Equality of signals, `a == b`. -/
structure OrchestrationSignal.Same (a b : OrchestrationSignal ν) : Prop where
  schemaVersion : a.schemaVersion = b.schemaVersion
  signalId : a.signalId = b.signalId
  kind : a.kind = b.kind
  occurredAt : a.occurredAt = b.occurredAt
  sourceRef : a.sourceRef = b.sourceRef
  projectId : a.projectId = b.projectId
  taskRef : a.taskRef = b.taskRef
  workOrderRef : a.workOrderRef = b.workOrderRef
  bindingRef : a.bindingRef = b.bindingRef
  payload : DictEq a.payload b.payload

theorem keys_signalItems (s : OrchestrationSignal ν) :
    Entries.keys (signalItems s) = texts signalNames := rfl

theorem nodup_signalItems (s : OrchestrationSignal ν) : (Entries.keys (signalItems s)).Nodup := by
  rw [keys_signalItems]
  decide +kernel

theorem nodup_signalValue (s : OrchestrationSignal ν) : (Entries.keys (signalValue s)).Nodup :=
  (nodup_signalItems s).sublist (filter_sublist.map _)

theorem known_signalValue (s : OrchestrationSignal ν) :
    ∀ key ∈ Entries.keys (signalValue s), key ∈ texts signalNames := by
  intro key hkey
  rw [← keys_signalItems s]
  exact (filter_sublist.map _).subset hkey

theorem readFrom_signalValue (s : OrchestrationSignal ν) : s.ReadFrom (signalValue s) := by
  have hget (key : String) : getKey (signalValue s) key = getKey (signalItems s) key :=
    getKey_filter (nodup_signalItems s) key
  constructor
  all_goals rw [hget]; simp [getKey, signalItems, find?_lit_cons]

theorem distinct_signalValue (s : OrchestrationSignal ν)
    (htext : ∀ e ∈ signalValue s, e.1 ≠ .lit "payload" → Printable e.2) :
    (Json.obj (signalValue s)).Distinct := by
  refine ⟨nodup_signalValue s, distinctEntries_iff.mpr ?_⟩
  intro e he
  by_cases hkey : e.1 = .lit "payload"
  · obtain ⟨key, value⟩ := e
    obtain rfl : key = .lit "payload" := hkey
    have hvalue := getKey_of_mem (nodup_signalValue s) he
    show value.Distinct
    rw [← hvalue, ← (readFrom_signalValue s).payload]
    exact s.distinct
  · exact (htext e he hkey).sound.distinct

/-- A valid dictionary of a signal has its keys once, at every depth. -/
theorem ValidSignal.distinct (h : ValidSignal (signalValue s)) :
    (Json.obj (signalValue s)).Distinct := by
  apply distinct_signalValue
  rintro ⟨key, value⟩ he hkey
  rcases signal_names (h.known key (mem_map_of_mem he)) with rfl | ⟨name, hname, rfl⟩
  · exact absurd rfl hkey
  · rw [← getKey_of_mem (nodup_signalValue s) he]
    exact h.text name hname (mem_map_of_mem he)

theorem ValidSignal.present (h : ValidSignal entries) (hdistinct : (Json.obj entries).Distinct) :
    ∀ e ∈ entries, e.2 ≠ .null := by
  intro e he
  rcases h.entry hdistinct he with ⟨-, htext⟩ | ⟨-, payload, names, heq, -⟩
  · exact htext.ne_null
  · rw [heq]
    exact nofun

/-- What a valid dictionary is read back as. -/
theorem ValidSignal.encoded (hdistinct : (Json.obj entries).Distinct)
    (hvalid : validate fromIsoFormat entries expectedSource = .ok ()) :
    boundedTree (.obj entries) = .ok () ∧
      validate fromIsoFormat (sorted entries) expectedSource = .ok () ∧
      ∃ data, encodeValue (.obj entries) = .ok data ∧
        (parse data : Except OrchestrationError (Json ν)) = .ok (.obj (sorted entries)) := by
  have hsorted : validate fromIsoFormat (sorted entries) expectedSource = .ok () := by
    rw [(alike_sorted hdistinct.1).validate hdistinct.2]
    exact hvalid
  have hwithin := (validate_ok hvalid).within hdistinct
  have hsortedDistinct : (Json.obj (sorted entries)).Distinct := by
    rw [← sortKeys_obj]
    exact hwithin.1.sortKeys.distinct
  refine ⟨boundedTree_ok hwithin.1 hwithin.2.1 hwithin.2.2.1 hwithin.2.2.2, hsorted, ?_⟩
  exact encodeValue_parse hwithin ((validate_ok hsorted).within hsortedDistinct).2

theorem decodeSignal_of_parse
    (hparse : (parse data : Except OrchestrationError (Json ν)) = .ok (.obj entries))
    (hvalid : validate fromIsoFormat entries expectedSource = .ok ()) :
    ∃ s : OrchestrationSignal ν,
      decodeSignal fromIsoFormat data expectedSource = .ok s ∧ s.ReadFrom entries := by
  unfold decodeSignal
  split
  · rename_i e h
    rw [hparse] at h
    cases h
  · rename_i found h
    rw [hparse] at h
    cases h
    split
    · rename_i e h
      rw [hvalid] at h
      cases h
    · exact ⟨_, rfl, ⟨rfl, rfl, rfl, rfl, rfl, rfl, rfl, rfl, rfl, rfl⟩⟩
  · rename_i value hnot h
    rw [hparse] at h
    cases h
    exact absurd rfl (hnot entries)

theorem decodeSignal_ok (h : decodeSignal fromIsoFormat data expectedSource = .ok s) :
    ∃ entries, (Json.obj entries).Distinct ∧
      validate fromIsoFormat entries expectedSource = .ok () ∧ s.ReadFrom entries := by
  unfold decodeSignal at h
  split at h
  · cases h
  · rename_i entries hparse
    split at h
    · cases h
    · rename_i hvalid
      cases h
      exact ⟨entries, parse_distinct hparse, hvalid,
        ⟨rfl, rfl, rfl, rfl, rfl, rfl, rfl, rfl, rfl, rfl⟩⟩
  · cases h

theorem ValidSignal.text_sortKeys (h : ValidSignal entries) {key : String} (hkey : key ∈ textKeys) :
    (getKey entries key).sortKeys = getKey entries key := by
  by_cases hin : .lit key ∈ Entries.keys entries
  · exact (h.text key hkey hin).sortKeys
  · have hnull : getKey entries key = .null := by
      unfold getKey
      rw [Json.find?_eq_none hin]
      rfl
    rw [hnull, sortKeys]

theorem FlatDict.sorted_perm {names : List PyStr} (h : FlatDict names entries) :
    (sorted entries).Perm entries := by
  have hsame : entries.map (fun e => (e.1, e.2.sortKeys)) = entries := by
    conv_rhs => rw [← map_id entries]
    apply map_congr_left
    intro e he
    rw [(h.printable e he).sortKeys]
    rfl
  have hperm := Signal.sorted_perm entries
  rwa [hsame] at hperm

/-- A signal read from the sorted dictionary of another one equals it. -/
theorem ValidSignal.same {a b : OrchestrationSignal ν} (h : ValidSignal entries)
    (hdistinct : (Json.obj entries).Distinct) (ha : a.ReadFrom (sorted entries))
    (hb : b.ReadFrom entries) : a.Same b := by
  have hget (key : String) (hkey : key ∈ textKeys) :
      getKey (sorted entries) key = getKey entries key := by
    rw [getKey_sorted hdistinct.1, h.text_sortKeys hkey]
  constructor
  case schemaVersion => rw [ha.schemaVersion, hb.schemaVersion, hget _ (by decide)]
  case signalId => rw [ha.signalId, hb.signalId, hget _ (by decide)]
  case kind => rw [ha.kind, hb.kind, hget _ (by decide)]
  case occurredAt => rw [ha.occurredAt, hb.occurredAt, hget _ (by decide)]
  case sourceRef => rw [ha.sourceRef, hb.sourceRef, hget _ (by decide)]
  case projectId => rw [ha.projectId, hb.projectId, hget _ (by decide)]
  case taskRef => rw [ha.taskRef, hb.taskRef, hget _ (by decide)]
  case workOrderRef => rw [ha.workOrderRef, hb.workOrderRef, hget _ (by decide)]
  case bindingRef => rw [ha.bindingRef, hb.bindingRef, hget _ (by decide)]
  case payload =>
    obtain ⟨kind, hpayload⟩ := h.payload
    have hpayloadDistinct : (getKey entries "payload").Distinct := distinct_find? hdistinct.2
    obtain ⟨payload, names, heq, -, hflat⟩ := payloadContract_ok hpayloadDistinct hpayload
    rw [ha.payload, hb.payload, getKey_sorted hdistinct.1, heq, sortKeys_obj]
    exact hflat.sorted_perm

/-- A signal whose dictionary is valid is encoded, and decoded as an equal one. -/
theorem signal_reads_back
    (hvalid : validate fromIsoFormat (signalValue s) expectedSource = .ok ()) :
    boundedTree (.obj (signalValue s)) = .ok () ∧
      ∃ data, encodeValue (.obj (signalValue s)) = .ok data ∧
        ∃ s', decodeSignal fromIsoFormat data expectedSource = .ok s' ∧ s'.Same s := by
  have hsignal := validate_ok hvalid
  have hdistinct := hsignal.distinct
  obtain ⟨htree, hsorted, data, hencode, hparse⟩ := ValidSignal.encoded hdistinct hvalid
  obtain ⟨s', hdecode, hread⟩ := decodeSignal_of_parse hparse hsorted
  exact ⟨htree, data, hencode, s', hdecode,
    hsignal.same hdistinct hread (readFrom_signalValue s)⟩

/-- An expected source only adds a check. -/
theorem validate_none (h : validate fromIsoFormat entries expectedSource = .ok ()) :
    validate fromIsoFormat entries none = .ok () := by
  unfold validate at h ⊢
  simp only [bind_eq_ok] at h ⊢
  obtain ⟨_, hkeys, _, hversion, kind, hkind, _, hid, _, hsource, _, hproject, _, -, _, htime, _,
    htask, _, horder, _, hbinding, _, heffect, hpayload⟩ := h
  exact ⟨_, hkeys, _, hversion, kind, hkind, _, hid, _, hsource, _, hproject, (), rfl, _, htime, _,
    htask, _, horder, _, hbinding, _, heffect, hpayload⟩

theorem encodeSignal_ok (h : encodeSignal fromIsoFormat s = .ok data) :
    validate fromIsoFormat (signalValue s) none = .ok () ∧
      encodeValue (.obj (signalValue s)) = .ok data := by
  unfold encodeSignal at h
  simp only [bind_eq_ok] at h
  obtain ⟨_, -, _, hvalid, hencode⟩ := h
  exact ⟨hvalid, hencode⟩

/-- What a decoded signal's fields came from has the lookups of its own dictionary. -/
theorem alike_signalValue (hvalid : ValidSignal entries) (hdistinct : (Json.obj entries).Distinct)
    (hread : s.ReadFrom entries) : Alike (signalValue s) entries := by
  have hpresent : ∀ e ∈ signalValue s, e.2 ≠ .null := fun e he =>
    present_eq_true.mp (mem_filter.mp he).2
  have hknown : ∀ key ∈ Entries.keys entries, key ∈ texts signalNames := by
    have hnames : ∀ key ∈ signalFields ++ signalOptional, key ∈ texts signalNames := by
      decide +kernel
    exact fun key hkey => hnames key (hvalid.known key hkey)
  apply alike_of_getKey (nodup_signalValue s) hdistinct.1 hpresent (hvalid.present hdistinct)
    (known_signalValue s) hknown
  intro name hname
  have hown := readFrom_signalValue s
  simp only [signalNames, mem_cons, not_mem_nil, or_false] at hname
  rcases hname with rfl | rfl | rfl | rfl | rfl | rfl | rfl | rfl | rfl | rfl
  · rw [← hown.schemaVersion, hread.schemaVersion]
  · rw [← hown.signalId, hread.signalId]
  · rw [← hown.kind, hread.kind]
  · rw [← hown.occurredAt, hread.occurredAt]
  · rw [← hown.sourceRef, hread.sourceRef]
  · rw [← hown.projectId, hread.projectId]
  · rw [← hown.taskRef, hread.taskRef]
  · rw [← hown.workOrderRef, hread.workOrderRef]
  · rw [← hown.bindingRef, hread.bindingRef]
  · rw [← hown.payload, hread.payload]

/-- A decoded signal is encoded again, and decodes to itself. -/
theorem signal_encoded_again (h : decodeSignal fromIsoFormat data expectedSource = .ok s) :
    ∃ data' s', encodeSignal fromIsoFormat s = .ok data' ∧
      decodeSignal fromIsoFormat data' expectedSource = .ok s' ∧ s'.Same s := by
  obtain ⟨entries, hdistinct, hvalid, hread⟩ := decodeSignal_ok h
  have hown : validate fromIsoFormat (signalValue s) expectedSource = .ok () := by
    rw [(alike_signalValue (validate_ok hvalid) hdistinct hread).validate hdistinct.2]
    exact hvalid
  obtain ⟨htree, data', hencode, s', hdecode, hsame⟩ := signal_reads_back hown
  refine ⟨data', s', ?_, hdecode, hsame⟩
  unfold encodeSignal
  rw [htree, ok_bind, validate_none hown, ok_bind, hencode]

end AConductor.Signal

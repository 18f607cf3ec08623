import AConductor.Operator.Dispatch
import AConductor.Operator.WireMapping

/-!
# The operator wire: round trips

A parsed request is encoded within the default limit and decoded to itself, and so is any
request that the wire accepted. A response survives as well as long as its numbers and its
references are bounded (`src/a_conductor/operator_wire.py:97-206`,
`src/a_conductor/operator_protocol.py:172-230`).
-/

namespace AConductor.Operator

open List Except Json

variable {env : WireEnv}

variable {payload : Payload} {value : Value} {n maxBytes : Int} {r : OperatorFields} {α : Type}
  {parse : Value → Except String α} {action : OperatorAction} {o : Option α}
  {key s code name : String} {data : List UInt8}

theorem mem_keys_iff {key : PyStr} :
    key ∈ payload.map Prod.fst ↔ (Json.find? key payload).isSome = true := by
  constructor
  · intro hmem
    by_contra hnone
    rw [Bool.not_eq_true, Option.isSome_eq_false_iff, Option.isNone_iff_eq_none] at hnone
    obtain ⟨e, he, rfl⟩ := mem_map.mp hmem
    unfold Json.find? at hnone
    rw [Option.map_eq_none_iff, List.find?_eq_none] at hnone
    exact hnone e he (by simp)
  · intro hsome
    by_contra hmem
    rw [find?_eq_none hmem] at hsome
    cases hsome

/-- Payloads with the same lookups are the same to the parser. -/
theorem parse_congr {m m' : Payload} (h : ∀ key, Json.find? key m = Json.find? key m') :
    parseOperatorRequest m = parseOperatorRequest m' := by
  have hget : getKey m = getKey m' := funext fun key => by unfold getKey; rw [h]
  have hhas : hasKey m = hasKey m' := funext fun key => by unfold hasKey; rw [h]
  have hkeys (allowed : List PyStr) :
      (m.all fun e => e.1 ∈ allowed) = (m'.all fun e => e.1 ∈ allowed) := by
    have hiff (m : Payload) : (m.all fun e => decide (e.1 ∈ allowed)) = true ↔
        ∀ key, (Json.find? key m).isSome = true → key ∈ allowed := by
      simp only [← mem_keys_iff, all_eq_true, decide_eq_true_eq, mem_map]
      constructor
      · rintro hall key ⟨e, he, rfl⟩
        exact hall e he
      · exact fun hall e he => hall e.1 ⟨e, he, rfl⟩
    rw [Bool.eq_iff_iff, hiff, hiff]
    simp only [h]
  have hfield {α : Type} (action : OperatorAction) (key : String)
      (parse : Value → Except String α) :
      parseField m action key parse = parseField m' action key parse := by
    unfold parseField
    rw [h]
  unfold parseOperatorRequest
  simp only [hget, hhas, hkeys, hfield]

/-- The fields that an action may have. -/
def actionFields (action : OperatorAction) : List String :=
  actionRequiredFields action ++ actionOptionalFields action

/-- A field is there only if the action may have it, and if the action needs it. -/
def Fits (action : OperatorAction) (name : String) (present : Bool) : Prop :=
  (present = true → name ∈ actionFields action) ∧
    (name ∈ actionRequiredFields action → present = true)

theorem parseField_fits (h : parseField payload action key parse = .ok o)
    (hrequired : key ∈ actionRequiredFields action → hasKey payload key = true) :
    Fits action key o.isSome := by
  unfold parseField at h
  split at h
  · rename_i hmem
    refine ⟨fun _ => hmem, fun hneeds => ?_⟩
    have hkey := hrequired hneeds
    unfold hasKey at hkey
    obtain ⟨value, hvalue⟩ := Option.isSome_iff_exists.mp hkey
    rw [hvalue] at h
    dsimp only at h
    cases hparse : parse value with
    | error e =>
      rw [hparse] at h
      cases h
    | ok a =>
      rw [hparse] at h
      cases h
      rfl
  · rename_i hmem
    cases h
    refine ⟨nofun, fun hneeds => absurd (mem_append_left _ hneeds) hmem⟩

/-- The value of a field that is there comes from the payload. -/
theorem parseField_some {a : α} (h : parseField payload action key parse = .ok (some a)) :
    ∃ value, Json.find? (.lit key) payload = some value ∧ parse value = .ok a := by
  unfold parseField at h
  split at h
  · split at h
    · rename_i value hvalue
      refine ⟨value, hvalue, ?_⟩
      cases hparse : parse value with
      | error e =>
        rw [hparse] at h
        cases h
      | ok b =>
        rw [hparse] at h
        cases h
        rfl
    · cases h
  · cases h

theorem make_ok {f : OperatorFields} {r : OperatorRequest} (h : OperatorRequest.make f = .ok r) :
    r.toOperatorFields = f := by
  unfold OperatorRequest.make at h
  split at h
  · cases h
    rfl
  · cases h

theorem make_self (r : OperatorRequest) : OperatorRequest.make r.toOperatorFields = .ok r := by
  unfold OperatorRequest.make
  split
  · rfl
  · rename_i code hcheck
    rw [r.checked] at hcheck
    cases hcheck

/-- What the parser found in a payload. -/
structure Parsed (payload : Payload) (r : OperatorFields) : Prop where
  version : getKey payload "protocol_version" = textValue operatorProtocolVersion
  action : getKey payload "action" = textValue r.action.value
  base : ∀ name ∈ baseFields, hasKey payload name = true
  required : ∀ name ∈ actionRequiredFields r.action, hasKey payload name = true
  jobId : parseField payload r.action "job_id" requireIdentifier = .ok r.jobId
  workOrderRef : parseField payload r.action "work_order_ref" requireIdentifier = .ok r.workOrderRef
  projectId : parseField payload r.action "project_id" requireIdentifier = .ok r.projectId
  workerId : parseField payload r.action "worker_id" requireIdentifier = .ok r.workerId
  checkpointRef : parseField payload r.action "checkpoint_ref" requireIdentifier = .ok r.checkpointRef
  evidenceRef : parseField payload r.action "evidence_ref" requireIdentifier = .ok r.evidenceRef
  operationRef : parseField payload r.action "operation_ref" requireIdentifier = .ok r.operationRef
  expectedVersion : parseField payload r.action "expected_version"
    (requirePositiveInt "OPERATOR_VERSION_INVALID") = .ok r.expectedVersion
  maxAttempts : ∃ given, parseField payload r.action "max_attempts" requireAttemptBudget = .ok given ∧
    r.maxAttempts = given.or (if r.action = .jobCreate then some 3 else none)

theorem isText_eq {text : String} (h : isText text value = true) : value = textValue text := by
  unfold isText at h
  split at h
  · rw [of_decide_eq_true h]
    rfl
  · cases h

theorem parseAction_eq (h : parseAction value = .ok action) : value = textValue action.value := by
  unfold parseAction at h
  split at h
  · split at h
    · rename_i found hfound
      cases h
      unfold OperatorAction.ofText? at hfound
      have hvalue := List.find?_some hfound
      rw [decide_eq_true_iff] at hvalue
      rw [textValue, hvalue]
    · cases h
  · cases h

theorem parse_parsed {r : OperatorRequest} (h : parseOperatorRequest payload = .ok r) :
    Parsed payload r.toOperatorFields := by
  unfold parseOperatorRequest at h
  simp only [bind_eq_ok, rejectIf_eq_ok] at h
  obtain ⟨_, hversion, action, haction, _, hkeys, _, -, jobId, hjobId, workOrderRef, hworkOrderRef,
    projectId, hprojectId, workerId, hworkerId, checkpointRef, hcheckpointRef, evidenceRef,
    hevidenceRef, operationRef, hoperationRef, expectedVersion, hexpectedVersion, given, hgiven,
    hmake⟩ := h
  rw [make_ok hmake]
  rw [Bool.not_eq_true, Bool.not_eq_false', all_eq_true] at hkeys
  rw [Bool.not_eq_true, Bool.not_eq_false'] at hversion
  refine ⟨isText_eq hversion, parseAction_eq haction, ?_, ?_, hjobId, hworkOrderRef, hprojectId,
    hworkerId, hcheckpointRef, hevidenceRef, hoperationRef, hexpectedVersion, given, hgiven, ?_⟩
  · exact fun name hname => hkeys name (mem_append_right _ hname)
  · exact fun name hname => hkeys name (mem_append_left _ hname)
  · cases given with
    | some n => rfl
    | none => rfl

theorem checkOptional_ok {check : α → Except String Unit} {a : α}
    (h : checkOptional check o = .ok ()) (ho : o = some a) : check a = .ok () := by
  subst ho
  exact h

theorem checkIdentifier_ok (h : checkIdentifier s = .ok ()) : isIdentifier s = true := by
  unfold checkIdentifier at h
  rw [rejectIf_eq_ok] at h
  simpa using h

theorem checkInt_ok {least : Int} (h : checkInt least code n = .ok ()) : least ≤ n := by
  unfold checkInt at h
  rw [rejectIf_eq_ok] at h
  omega

theorem checkAttemptBudget_ok (h : checkAttemptBudget n = .ok ()) : 1 ≤ n ∧ n ≤ 100 := by
  unfold checkAttemptBudget at h
  rw [rejectIf_eq_ok] at h
  omega

theorem requireIdentifier_text (h : isIdentifier s = true) :
    requireIdentifier (textValue s) = .ok s := by
  have hstring : asString (.lit s) = some s := by
    unfold asString PyStr.lit
    rw [PyStr.toChars?_ofChars, Option.map_some, String.ofList_toList]
  unfold textValue requireIdentifier
  dsimp only
  rw [hstring]
  exact if_pos h

/-- What the constructor of a request has checked. -/
structure Checked (r : OperatorFields) : Prop where
  identifiers : ∀ o ∈ r.identifiers, ∀ s, o = some s → isIdentifier s = true
  expectedVersion : ∀ n, r.expectedVersion = some n → 1 ≤ n
  maxAttempts : ∀ n, r.maxAttempts = some n → 1 ≤ n ∧ n ≤ 100

theorem OperatorRequest.valid (r : OperatorRequest) : Checked r.toOperatorFields := by
  have hcheck := r.checked
  unfold OperatorFields.check at hcheck
  simp only [bind_eq_ok] at hcheck
  obtain ⟨_, hidentifiers, _, hversion, hattempts⟩ := hcheck
  refine ⟨?_, ?_, ?_⟩
  · intro o ho s hs
    exact checkIdentifier_ok (checkOptional_ok (forM_eq_ok.mp hidentifiers o ho) hs)
  · exact fun n hn => checkInt_ok (checkOptional_ok hversion hn)
  · exact fun n hn => checkAttemptBudget_ok (checkOptional_ok hattempts hn)

theorem requirePositiveInt_int (h : 1 ≤ n) :
    requirePositiveInt code (intValue n) = .ok n := if_neg (by omega)

theorem requireAttemptBudget_int (h : 1 ≤ n ∧ n ≤ 100) :
    requireAttemptBudget (intValue n) = .ok n := by
  unfold requireAttemptBudget
  rw [requirePositiveInt_int h.1, ok_bind]
  exact if_neg (by omega)

theorem names_entries (r : OperatorFields) : (r.entries.map Prod.fst).Nodup := by
  show (["protocol_version", "action", "job_id", "work_order_ref", "project_id", "max_attempts",
    "expected_version", "worker_id", "checkpoint_ref", "evidence_ref", "operation_ref"] :
    List String).Nodup
  decide

theorem find?_request {value : Option Value} (h : (name, value) ∈ r.entries) :
    Json.find? (.lit name) (requestMapping r) = value :=
  find?_mappingOf (names_entries r) h

/-- The parser reads a field of the mapping as the request has it. -/
theorem parseField_mapping {toValue : α → Value} (hentry : (key, o.map toValue) ∈ r.entries)
    (hfits : Fits r.action key o.isSome) (hparse : ∀ a, o = some a → parse (toValue a) = .ok a) :
    parseField (requestMapping r) r.action key parse = .ok o := by
  unfold parseField
  rw [find?_request hentry]
  cases o with
  | none => split <;> rfl
  | some a =>
    refine (if_pos (hfits.1 rfl)).trans ?_
    rw [Option.map_some]
    dsimp only
    rw [hparse a rfl]
    rfl

/-- The fields of a parsed request are those of its action. -/
structure Fitting (r : OperatorFields) : Prop where
  jobId : Fits r.action "job_id" r.jobId.isSome
  workOrderRef : Fits r.action "work_order_ref" r.workOrderRef.isSome
  projectId : Fits r.action "project_id" r.projectId.isSome
  workerId : Fits r.action "worker_id" r.workerId.isSome
  checkpointRef : Fits r.action "checkpoint_ref" r.checkpointRef.isSome
  evidenceRef : Fits r.action "evidence_ref" r.evidenceRef.isSome
  operationRef : Fits r.action "operation_ref" r.operationRef.isSome
  expectedVersion : Fits r.action "expected_version" r.expectedVersion.isSome
  maxAttempts : Fits r.action "max_attempts" r.maxAttempts.isSome
  budget : r.action = .jobCreate → r.maxAttempts.isSome = true

theorem Parsed.fitting (h : Parsed payload r) : Fitting r := by
  have hfits {α : Type} {key : String} {parse : Value → Except String α} {o : Option α}
      (hfield : parseField payload r.action key parse = .ok o) : Fits r.action key o.isSome :=
    parseField_fits hfield (h.required key)
  obtain ⟨given, hgiven, hmax⟩ := h.maxAttempts
  have hbudget : r.action = .jobCreate → r.maxAttempts.isSome = true := by
    intro hcreate
    rw [hmax, if_pos hcreate]
    cases given <;> rfl
  refine ⟨hfits h.jobId, hfits h.workOrderRef, hfits h.projectId, hfits h.workerId,
    hfits h.checkpointRef, hfits h.evidenceRef, hfits h.operationRef, hfits h.expectedVersion,
    ⟨?_, ?_⟩, hbudget⟩
  · intro hsome
    by_cases hcreate : r.action = .jobCreate
    · rw [hcreate]
      decide
    · rw [hmax, if_neg hcreate, Option.or_none] at hsome
      exact (hfits hgiven).1 hsome
  · intro hneeds
    cases haction : r.action <;> rw [haction] at hneeds <;> exact absurd hneeds (by decide)

/-- Every field of the mapping is a base field or one of the action. -/
theorem Fitting.entries (h : Fitting r) : ∀ field ∈ r.entries,
    (field.1 ∈ baseFields ∧ field.2.isSome = true) ∨ Fits r.action field.1 field.2.isSome := by
  intro field hfield
  unfold OperatorFields.entries at hfield
  simp only [mem_cons, not_mem_nil, or_false] at hfield
  rcases hfield with rfl | rfl | rfl | rfl | rfl | rfl | rfl | rfl | rfl | rfl | rfl <;>
    simp only [Option.isSome_map]
  · exact .inl ⟨by decide, rfl⟩
  · exact .inl ⟨by decide, rfl⟩
  · exact .inr h.jobId
  · exact .inr h.workOrderRef
  · exact .inr h.projectId
  · exact .inr h.maxAttempts
  · exact .inr h.expectedVersion
  · exact .inr h.workerId
  · exact .inr h.checkpointRef
  · exact .inr h.evidenceRef
  · exact .inr h.operationRef

theorem Fitting.hasKey (h : Fitting r)
    (hname : name ∈ actionRequiredFields r.action ++ baseFields) :
    hasKey (requestMapping r) name = true := by
  have hentry : name ∈ r.entries.map Prod.fst := by
    have hnames : r.entries.map Prod.fst =
        ["protocol_version", "action", "job_id", "work_order_ref", "project_id", "max_attempts",
          "expected_version", "worker_id", "checkpoint_ref", "evidence_ref", "operation_ref"] := rfl
    have hall : ∀ action : OperatorAction, ∀ name ∈ actionRequiredFields action ++ baseFields,
        name ∈ ["protocol_version", "action", "job_id", "work_order_ref", "project_id",
          "max_attempts", "expected_version", "worker_id", "checkpoint_ref", "evidence_ref",
          "operation_ref"] := by
      intro action
      cases action <;> decide
    rw [hnames]
    exact hall _ _ hname
  obtain ⟨⟨_, value⟩, hmem, rfl⟩ := mem_map.mp hentry
  have hsome : value.isSome = true := by
    rcases h.entries _ hmem with hbase | hfits
    · exact hbase.2
    · rcases mem_append.mp hname with hrequired | hbase
      · exact hfits.2 hrequired
      · simp only [baseFields, mem_cons, not_mem_nil, or_false] at hbase
        unfold OperatorFields.entries at hmem
        rcases hbase with rfl | rfl <;>
        · simp at hmem
          rw [hmem]
          rfl
  unfold Operator.hasKey
  rw [find?_request hmem]
  exact hsome

theorem Fitting.allowed (h : Fitting r) {e : PyStr × Value}
    (he : e ∈ requestMapping r) : e.1 ∈ (baseFields ++ actionRequiredFields r.action ++
      actionOptionalFields r.action).map PyStr.lit := by
  obtain ⟨name, value, hmem, rfl⟩ := mem_mappingOf.mp he
  refine mem_map_of_mem ?_
  rw [append_assoc]
  rcases h.entries _ hmem with hbase | hfits
  · exact mem_append_left _ hbase.1
  · exact mem_append_right _ (hfits.1 rfl)

/-- The mapping of a fitting request is parsed as that request. -/
theorem parse_requestMapping {r : OperatorRequest} (h : Fitting r.toOperatorFields) :
    parseOperatorRequest (requestMapping r.toOperatorFields) = .ok r := by
  have hvalid := r.valid
  have hmake := make_self r
  generalize r.toOperatorFields = f at h hvalid hmake ⊢
  have hversion : getKey (requestMapping f) "protocol_version" = textValue operatorProtocolVersion := by
    unfold getKey
    rw [@find?_request f _ _ mem_cons_self]
    rfl
  have haction : getKey (requestMapping f) "action" = textValue f.action.value := by
    unfold getKey
    rw [@find?_request f _ _ (mem_cons_of_mem _ mem_cons_self)]
    rfl
  have hparsed : parseAction (textValue f.action.value) = .ok f.action := by
    cases f.action <;> decide
  have hkeys : (actionRequiredFields f.action ++ baseFields).all (hasKey (requestMapping f)) = true :=
    all_eq_true.mpr fun name hname => h.hasKey hname
  have hallowed : ((requestMapping f).all fun e => decide (e.1 ∈ (baseFields ++
      actionRequiredFields f.action ++ actionOptionalFields f.action).map PyStr.lit)) = true :=
    all_eq_true.mpr fun e he => decide_eq_true (h.allowed he)
  have hid {key : String} {o : Option String} (hentry : (key, o.map textValue) ∈ f.entries)
      (hmem : o ∈ f.identifiers) (hfits : Fits f.action key o.isSome) :
      parseField (requestMapping f) f.action key requireIdentifier = .ok o :=
    parseField_mapping hentry hfits fun a ha =>
      requireIdentifier_text (hvalid.identifiers o hmem a ha)
  have hexpected : parseField (requestMapping f) f.action "expected_version"
      (requirePositiveInt "OPERATOR_VERSION_INVALID") = .ok f.expectedVersion :=
    parseField_mapping (by simp [OperatorFields.entries]) h.expectedVersion fun a ha =>
      requirePositiveInt_int (hvalid.expectedVersion a ha)
  have hattempts : parseField (requestMapping f) f.action "max_attempts" requireAttemptBudget =
      .ok f.maxAttempts :=
    parseField_mapping (by simp [OperatorFields.entries]) h.maxAttempts fun a ha =>
      requireAttemptBudget_int (hvalid.maxAttempts a ha)
  unfold parseOperatorRequest
  rw [hversion, haction, hparsed, rejectIf_neg (by decide), ok_bind, ok_bind]
  dsimp only
  rw [hkeys, rejectIf_neg (by decide), ok_bind, hallowed,
    rejectIf_neg (by decide), ok_bind]
  have hmem (o : Option String) (ho : o ∈ [f.jobId, f.workOrderRef, f.projectId, f.workerId,
      f.checkpointRef, f.evidenceRef, f.operationRef]) : o ∈ f.identifiers := ho
  rw [hid (by simp [OperatorFields.entries]) (hmem _ (by simp)) h.jobId, ok_bind,
    hid (by simp [OperatorFields.entries]) (hmem _ (by simp)) h.workOrderRef, ok_bind,
    hid (by simp [OperatorFields.entries]) (hmem _ (by simp)) h.projectId, ok_bind,
    hid (by simp [OperatorFields.entries]) (hmem _ (by simp)) h.workerId, ok_bind,
    hid (by simp [OperatorFields.entries]) (hmem _ (by simp)) h.checkpointRef, ok_bind,
    hid (by simp [OperatorFields.entries]) (hmem _ (by simp)) h.evidenceRef, ok_bind,
    hid (by simp [OperatorFields.entries]) (hmem _ (by simp)) h.operationRef, ok_bind,
    hexpected, ok_bind, hattempts, ok_bind]
  cases hmax : f.maxAttempts with
  | some n =>
    dsimp only
    rw [← hmax]
    exact hmake
  | none =>
    have hother : f.action ≠ .jobCreate := by
      intro hcreate
      have hbudget := h.budget hcreate
      rw [hmax] at hbudget
      cases hbudget
    dsimp only
    rw [if_neg hother, ← hmax]
    exact hmake

/-- The characters of an entry of the mapping. -/
def fieldLength (field : String × Option Value) : Nat :=
  match field.2 with
  | none => 0
  | some value =>
    field.1.length + 4 + (dumps compactStyle numberText value).length

/-- A mapping takes the characters of its fields, and the braces. -/
theorem length_wireText {fields : List (String × Option Value)}
    (hnames : ∀ field ∈ fields, WireText field.1) : (wireText fields).length ≤ (fields.map fieldLength).sum + 2 := by
  have hentries : ((mappingOf fields).map
      (entryLength compactStyle numberText)).sum + (mappingOf fields).length ≤
        (fields.map fieldLength).sum := by
    induction fields with
    | nil => exact Nat.le_refl 0
    | cons field fields ih =>
      obtain ⟨name, value⟩ := field
      have hrest := ih fun f hf => hnames f (mem_cons_of_mem _ hf)
      have htext : WireText name := hnames _ mem_cons_self
      cases value with
      | none =>
        have hskip : mappingOf ((name, none) :: fields) = mappingOf fields := rfl
        rw [hskip, map_cons, sum_cons]
        omega
      | some v =>
        have hlength := htext.length_dumpsStr
        have hhead : entryLength compactStyle numberText (PyStr.lit name, v) + 1 =
            fieldLength (name, some v) := by
          show (dumpsStr false (PyStr.lit name)).length + 1 +
            (dumps compactStyle numberText v).length + 1 =
              name.length + 4 + (dumps compactStyle numberText v).length
          omega
        have hcons : mappingOf ((name, some v) :: fields) = (PyStr.lit name, v) :: mappingOf fields :=
          rfl
        rw [hcons, map_cons, sum_cons, length_cons, map_cons, sum_cons]
        omega
  have hcomma : compactStyle.comma.length = 1 := rfl
  unfold wireText
  rw [dumps, length_cons, length_append, length_singleton,
    length_dumpsEntries, hcomma]
  omega

theorem length_text (h : WireText s) :
    (dumps compactStyle numberText (textValue s)).length = s.length + 2 := by
  unfold textValue
  rw [dumps]
  exact h.length_dumpsStr

/-- An integer that is not negative, of at most so many digits. -/
theorem length_int {n : Int} {k : Nat} (hk : 0 < k) (hn : 0 ≤ n) (hlt : n < 10 ^ k) :
    (dumps compactStyle numberText (intValue n)).length ≤ k := by
  have hdigits : n.natAbs < 10 ^ k := by
    have hcast : (n.natAbs : Int) < ((10 ^ k : Nat) : Int) := by
      rw [Int.natAbs_of_nonneg hn]
      exact_mod_cast hlt
    exact_mod_cast hcast
  unfold intValue
  rw [dumps]
  show (intText n).length ≤ k
  rw [intText_of_nonneg hn]
  exact length_digits_le hk hdigits

theorem prints_int {k : Nat} (hk : 0 < k ∧ k ≤ 640) (hn : 0 ≤ n) (hlt : n < 10 ^ k) :
    env.prints (.int n) = true := by
  have hlength : (intText n).length ≤ k := length_int hk.1 hn hlt
  have hfilter := length_filter_le isDigit (intText n)
  unfold WireEnv.prints
  dsimp only
  cases hmax : env.maxDigits with
  | none => rfl
  | some m =>
    have hleast := env.least m hmax
    rw [Option.any_some, decide_eq_false (by omega)]
    rfl

theorem length_identifier (h : isIdentifier s = true) :
    (dumps compactStyle numberText (textValue s)).length ≤ 162 := by
  rw [length_text (isIdentifier_wireText h)]
  exact Nat.add_le_add_right (isIdentifier_length h) 2

/-- The names of the fields are short identifiers. -/
theorem wireNames_entries (r : OperatorFields) :
    ∀ field ∈ r.entries, WireText field.1 ∧ field.1.length ≤ 16 := by
  have hall : ["protocol_version", "action", "job_id", "work_order_ref", "project_id",
      "max_attempts", "expected_version", "worker_id", "checkpoint_ref", "evidence_ref",
      "operation_ref"].all fun name => name.toList.all identifierChar && name.length ≤ 16 := by
    decide
  intro field hfield
  have hname := all_eq_true.mp hall field.1 (mem_map_of_mem hfield)
  rw [Bool.and_eq_true] at hname
  exact ⟨all_eq_true.mp hname.1, of_decide_eq_true hname.2⟩

/-- A property of the identifiers and numbers of a request holds of every field. -/
theorem Checked.entries (h : Checked r) {P : Value → Prop}
    (htext : ∀ s, isIdentifier s = true → P (textValue s))
    (hbudget : ∀ n, 1 ≤ n ∧ n ≤ 100 → P (intValue n))
    (hversion : ∀ n, r.expectedVersion = some n → P (intValue n))
    (hmem : (name, some value) ∈ r.entries) : P value := by
  have hid {o : Option String} (ho : o ∈ r.identifiers) (hvalue : some value = o.map textValue) :
      P value :=
    Option.forall_mem_map.mpr (fun s hs => htext s (h.identifiers o ho s hs)) value hvalue.symm
  have haction : isIdentifier r.action.value = true := by
    cases r.action <;> decide
  unfold OperatorFields.entries at hmem
  simp only [mem_cons, not_mem_nil, or_false, Prod.mk.injEq] at hmem
  rcases hmem with ⟨-, hv⟩ | ⟨-, hv⟩ | ⟨-, hv⟩ | ⟨-, hv⟩ | ⟨-, hv⟩ | ⟨-, hv⟩ | ⟨-, hv⟩ | ⟨-, hv⟩ |
    ⟨-, hv⟩ | ⟨-, hv⟩ | ⟨-, hv⟩
  · cases hv
    exact htext _ (by decide)
  · cases hv
    exact htext _ haction
  · exact hid (by simp [OperatorFields.identifiers]) hv
  · exact hid (by simp [OperatorFields.identifiers]) hv
  · exact hid (by simp [OperatorFields.identifiers]) hv
  · exact Option.forall_mem_map.mpr (fun n hn => hbudget n (h.maxAttempts n hn)) value hv.symm
  · exact Option.forall_mem_map.mpr hversion value hv.symm
  · exact hid (by simp [OperatorFields.identifiers]) hv
  · exact hid (by simp [OperatorFields.identifiers]) hv
  · exact hid (by simp [OperatorFields.identifiers]) hv
  · exact hid (by simp [OperatorFields.identifiers]) hv

theorem Checked.wireFields {r : OperatorFields} (h : Checked r)
    (hversion : ∀ n, r.expectedVersion = some n → env.prints (.int n) = true) :
    WireFields env r.entries := by
  refine ⟨names_entries r, fun field hfield => (wireNames_entries r field hfield).1, ?_⟩
  intro name value hmem
  refine h.entries (P := WireValue env) ?_ ?_ ?_ hmem
  · exact fun s hs => .text s (isIdentifier_wireText hs)
  · exact fun n hn => .int n (prints_int (k := 3) (by decide) (by omega) (by norm_num; omega))
  · exact fun n hn => .int n (hversion n hn)

/-- A request whose version has at most eighteen digits takes less than half of the limit. -/
theorem Checked.length (h : Checked r) (hversion : ∀ n, r.expectedVersion = some n → n < 10 ^ 18) :
    ((wireText r.entries).length : Int) ≤ defaultRequestMaxBytes := by
  have hfields : ∀ x ∈ r.entries.map fieldLength, x ≤ 182 := by
    intro x hx
    obtain ⟨⟨name, value⟩, hmem, rfl⟩ := mem_map.mp hx
    cases value with
    | none => exact Nat.zero_le _
    | some v =>
      have hname := (wireNames_entries r _ hmem).2
      have hvalue : (dumps compactStyle numberText v).length ≤ 162 := by
        refine h.entries (P := fun v => (dumps compactStyle numberText v).length ≤ 162)
          (fun s hs => length_identifier hs) (fun n hn => ?_) (fun n hn => ?_) hmem
        · exact (length_int (k := 3) (by decide) (by omega) (by norm_num; omega)).trans (by decide)
        · have hlow := h.expectedVersion n hn
          exact (length_int (k := 18) (by decide) (by omega) (hversion n hn)).trans (by decide)
      show name.length + 4 + _ ≤ 182
      dsimp only at hname
      omega
  have hsum := sum_le_card_nsmul _ 182 hfields
  have hcount : (r.entries.map fieldLength).length = 11 := rfl
  have hlength := length_wireText fun field hfield => (wireNames_entries r field hfield).1
  rw [hcount] at hsum
  show _ ≤ (4096 : Int)
  simp only [smul_eq_mul] at hsum
  omega

/-- What is encoded within the limit is decoded to the request. -/
theorem decode_request {r : OperatorRequest} (hfitting : Fitting r.toOperatorFields)
    (hversion : ∀ n, r.expectedVersion = some n → env.prints (.int n) = true)
    (hsize : ((wireText r.entries).length : Int) ≤ maxBytes) :
    ∃ data, encodeOperatorRequest env maxBytes r = .ok data ∧
      decodeOperatorRequest env maxBytes data = .ok r := by
  have hwire := r.valid.wireFields hversion
  obtain ⟨data, hencode, -, hdecode⟩ := hwire.round_trip hsize
  refine ⟨data, hencode, ?_⟩
  unfold decodeOperatorRequest
  rw [hdecode, ok_bind, parse_congr hwire.find?]
  exact parse_requestMapping hfitting

/-- A parsed request survives the wire. -/
theorem parsed_round_trip {r : OperatorRequest} (h : parseOperatorRequest payload = .ok r)
    (hversion : ∀ n, r.expectedVersion = some n → n < 10 ^ 18) :
    ∃ data, encodeOperatorRequest env defaultRequestMaxBytes r = .ok data ∧
      decodeOperatorRequest env defaultRequestMaxBytes data = .ok r := by
  refine decode_request (parse_parsed h).fitting (fun n hn => ?_) (r.valid.length hversion)
  have hlow := r.valid.expectedVersion n hn
  exact prints_int (k := 18) (by decide) (by omega) (hversion n hn)

theorem shrink_strictHooks : (strictHooks env).Shrink numberText where
  parseInt s integer rest j hscan hj := by
    unfold strictHooks at hj
    dsimp only at hj
    split at hj
    · cases hj
    · cases hj
      rw [dumps]
      exact (intText_intOf hscan).1
  parseFloat text j hj := by
    cases hj
    rw [dumps]
    exact Nat.le_refl _
  parseConstant text j hj := nomatch hj
  objectPairs pairs j hj := by
    unfold strictHooks at hj
    dsimp only at hj
    split at hj
    · cases hj
      exact Nat.le_refl _
    · cases hj

/-- Every number that the wire accepts can be printed again. -/
theorem establish_strictHooks :
    (strictHooks env).Establish fun j => j.allNums env.prints = true where
  null := rfl
  bool _ := rfl
  str _ := rfl
  arr items hitems := by
    show allNumsItems env.prints items = true
    induction items with
    | nil => rfl
    | cons item items ih =>
      obtain ⟨hfirst, hrest⟩ := forall_mem_cons.mp hitems
      rw [allNumsItems, hfirst, ih hrest]
      rfl
  parseInt s text rest j hscan hj := by
    unfold strictHooks at hj
    dsimp only at hj
    split at hj
    · cases hj
    · rename_i hdigits
      cases hj
      have hle := (intText_intOf hscan).2
      show (!env.maxDigits.any _) = true
      cases hmax : env.maxDigits with
      | none => rfl
      | some m =>
        rw [hmax, Option.any_some, decide_eq_true_eq] at hdigits
        rw [Option.any_some, decide_eq_false (by omega)]
        rfl
  parseFloat text j hj := by
    cases hj
    rfl
  parseConstant text j hj := nomatch hj
  objectPairs pairs j hpairs hj := by
    unfold strictHooks at hj
    dsimp only at hj
    split at hj
    · cases hj
      exact allNumsEntries_iff.mpr hpairs
    · cases hj

theorem decodeObject_ok {mapping : Payload}
    (h : decodeObject env maxBytes data = .ok mapping) : (data.length : Int) ≤ maxBytes ∧
      ∃ text, PyStr.decode data = some text ∧
        loads (strictHooks env) text = .ok (.obj mapping) := by
  unfold decodeObject ensureSize at h
  simp only [bind_eq_ok, rejectIf_eq_ok] at h
  obtain ⟨_, -, _, hsize, h⟩ := h
  refine ⟨by omega, ?_⟩
  split at h
  · cases h
  · rename_i text hdecode
    refine ⟨text, hdecode, ?_⟩
    split at h
    · cases h
    · cases h
    · rename_i entries hloads
      cases h
      exact hloads
    · cases h

/-- The compact text of a mapping is no longer than the bytes that it was decoded from. -/
theorem length_decodeObject {mapping : Payload} (h : decodeObject env maxBytes data = .ok mapping) :
    ((dumps compactStyle numberText (.obj mapping)).length : Int) ≤ maxBytes := by
  obtain ⟨hsize, text, hdecode, hloads⟩ := decodeObject_ok h
  have htext := length_loads shrink_strictHooks hloads
  have hbytes := PyStr.length_le_decode hdecode
  omega

theorem mem_of_find? {key : PyStr} (h : Json.find? key payload = some value) :
    (key, value) ∈ payload := by
  unfold Json.find? at h
  obtain ⟨e, he, rfl⟩ := Option.map_eq_some_iff.mp h
  have hkey := List.find?_some he
  rw [decide_eq_true_iff] at hkey
  rw [← hkey]
  exact mem_of_find?_eq_some he

theorem requireIdentifier_eq (h : requireIdentifier value = .ok s) : value = textValue s := by
  unfold requireIdentifier at h
  split at h
  · split at h
    · rename_i text htext
      split at h
      · cases h
        unfold asString at htext
        obtain ⟨cs, hcs, rfl⟩ := Option.map_eq_some_iff.mp htext
        rw [PyStr.toChars?_eq_some.mp hcs]
        unfold textValue PyStr.lit
        rw [String.toList_ofList]
      · cases h
    · cases h
  · cases h

theorem requirePositiveInt_eq (h : requirePositiveInt code value = .ok n) : value = intValue n := by
  unfold requirePositiveInt at h
  split at h
  · split at h
    · cases h
    · cases h
      rfl
  · cases h

theorem requireAttemptBudget_eq (h : requireAttemptBudget value = .ok n) : value = intValue n := by
  unfold requireAttemptBudget at h
  obtain ⟨m, hm, h⟩ := bind_eq_ok.mp h
  split at h
  · cases h
  · cases h
    exact requirePositiveInt_eq hm

/-- Without a default, the fields of a parsed request stand in the payload as they are. -/
theorem Parsed.subset (h : Parsed payload r) (hother : r.action ≠ .jobCreate) :
    requestMapping r ⊆ payload := by
  have hbase {name : String} {value : Value} (hname : name ∈ baseFields)
      (hvalue : getKey payload name = value) : (PyStr.lit name, value) ∈ payload := by
    have hkey := h.base name hname
    unfold hasKey at hkey
    obtain ⟨v, hv⟩ := Option.isSome_iff_exists.mp hkey
    unfold getKey at hvalue
    rw [hv, Option.getD_some] at hvalue
    exact mem_of_find? (hvalue ▸ hv)
  have hfield {α : Type} {name : String} {value : Value} {parse : Value → Except String α}
      {toValue : α → Value} {o : Option α} (hparse : parseField payload r.action name parse = .ok o)
      (heq : ∀ v a, parse v = .ok a → v = toValue a) (hvalue : some value = o.map toValue) :
      (PyStr.lit name, value) ∈ payload := by
    obtain ⟨a, rfl, rfl⟩ := Option.map_eq_some_iff.mp hvalue.symm
    obtain ⟨v, hv, ha⟩ := parseField_some hparse
    exact mem_of_find? (heq v a ha ▸ hv)
  obtain ⟨given, hgiven, hmax⟩ := h.maxAttempts
  rw [if_neg hother, Option.or_none] at hmax
  intro e he
  obtain ⟨name, value, hmem, rfl⟩ := mem_mappingOf.mp he
  unfold OperatorFields.entries at hmem
  simp only [mem_cons, not_mem_nil, or_false, Prod.mk.injEq] at hmem
  rcases hmem with ⟨rfl, hv⟩ | ⟨rfl, hv⟩ | ⟨rfl, hv⟩ | ⟨rfl, hv⟩ | ⟨rfl, hv⟩ | ⟨rfl, hv⟩ |
    ⟨rfl, hv⟩ | ⟨rfl, hv⟩ | ⟨rfl, hv⟩ | ⟨rfl, hv⟩ | ⟨rfl, hv⟩
  · cases hv
    exact hbase (by decide) h.version
  · cases hv
    exact hbase (by decide) h.action
  · exact hfield h.jobId (fun _ _ => requireIdentifier_eq) hv
  · exact hfield h.workOrderRef (fun _ _ => requireIdentifier_eq) hv
  · exact hfield h.projectId (fun _ _ => requireIdentifier_eq) hv
  · rw [hmax] at hv
    exact hfield hgiven (fun _ _ => requireAttemptBudget_eq) hv
  · exact hfield h.expectedVersion (fun _ _ => requirePositiveInt_eq) hv
  · exact hfield h.workerId (fun _ _ => requireIdentifier_eq) hv
  · exact hfield h.checkpointRef (fun _ _ => requireIdentifier_eq) hv
  · exact hfield h.evidenceRef (fun _ _ => requireIdentifier_eq) hv
  · exact hfield h.operationRef (fun _ _ => requireIdentifier_eq) hv

theorem Parsed.prints (h : Parsed payload r) (hnums : (Json.obj payload).allNums env.prints = true)
    (n : Int) (hn : r.expectedVersion = some n) : env.prints (.int n) = true := by
  obtain ⟨value, hvalue, hparse⟩ := parseField_some (hn ▸ h.expectedVersion)
  have hmem := mem_of_find? hvalue
  rw [requirePositiveInt_eq hparse] at hmem
  exact allNumsEntries_iff.mp hnums _ hmem

/-- A request that the wire accepted survives the wire. -/
theorem accepted_round_trip {r : OperatorRequest}
    (h : decodeOperatorRequest env defaultRequestMaxBytes data = .ok r) :
    ∃ data', encodeOperatorRequest env defaultRequestMaxBytes r = .ok data' ∧
      decodeOperatorRequest env defaultRequestMaxBytes data' = .ok r := by
  unfold decodeOperatorRequest at h
  obtain ⟨mapping, hdecode, hparse⟩ := bind_eq_ok.mp h
  have hparsed := parse_parsed hparse
  obtain ⟨-, text, -, hloads⟩ := decodeObject_ok hdecode
  have hprints := hparsed.prints (loads_forall establish_strictHooks hloads)
  refine decode_request hparsed.fitting hprints ?_
  -- the default of `job.create` may make the text longer, but it has no version
  by_cases hcreate : r.action = .jobCreate
  · refine r.valid.length fun n hn => ?_
    have hfits := hparsed.fitting.expectedVersion.1 (by rw [hn]; rfl)
    rw [hcreate] at hfits
    exact absurd hfits (by decide)
  · have hsubset := length_dumps_subset compactStyle numberText
      (nodup_mappingOf (names_entries r.toOperatorFields)) (hparsed.subset hcreate)
    have hlength := length_decodeObject hdecode
    unfold wireText
    omega

end AConductor.Operator

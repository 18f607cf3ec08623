import AConductor.Operator.WireRoundTrip

/-!
# The operator wire: responses

A response survives the wire as long as its numbers have at most eighteen digits and it has
few references. The dispatcher answers with at most one reference, but for the events of a job,
of which 49 fit (`src/a_conductor/operator_wire.py:121-206`,
`src/a_conductor/operator_dispatch.py:111-220`).
-/

namespace AConductor.Operator

open Job List Except Json

variable {env : WireEnv}

structure CheckedResponse (r : ResponseFields) : Prop where
  code : isIdentifier r.code = true
  jobId : ∀ s, r.jobId = some s → isIdentifier s = true
  state : ∀ s, r.state = some s → isIdentifier s = true
  workerId : ∀ s, r.workerId = some s → isIdentifier s = true
  version : ∀ n, r.version = some n → 1 ≤ n
  attemptCount : ∀ n, r.attemptCount = some n → 0 ≤ n
  maxAttempts : ∀ n, r.maxAttempts = some n → 1 ≤ n ∧ n ≤ 100
  refs : ∀ s ∈ r.refs, isIdentifier s = true

theorem OperatorResponse.valid (r : OperatorResponse) : CheckedResponse r.toResponseFields := by
  have hcheck := r.checked
  unfold ResponseFields.check at hcheck
  simp only [bind_eq_ok] at hcheck
  obtain ⟨_, hcode, _, hjobId, _, hstate, _, hworkerId, _, hversion, _, hattempt, _, hmax, hrefs⟩ :=
    hcheck
  exact ⟨checkIdentifier_ok hcode, fun s hs => checkIdentifier_ok (checkOptional_ok hjobId hs),
    fun s hs => checkIdentifier_ok (checkOptional_ok hstate hs),
    fun s hs => checkIdentifier_ok (checkOptional_ok hworkerId hs),
    fun n hn => checkInt_ok (checkOptional_ok hversion hn),
    fun n hn => checkInt_ok (checkOptional_ok hattempt hn),
    fun n hn => checkAttemptBudget_ok (checkOptional_ok hmax hn),
    fun s hs => checkIdentifier_ok (forM_eq_ok.mp hrefs s hs)⟩

theorem makeResponse_self (r : OperatorResponse) :
    OperatorResponse.make r.toResponseFields = .ok r := by
  unfold OperatorResponse.make
  split
  · rfl
  · rename_i code hcheck
    rw [r.checked] at hcheck
    cases hcheck

variable {r : OperatorResponse}

theorem makeResponse_ok {f : ResponseFields} (h : OperatorResponse.make f = .ok r) :
    r.toResponseFields = f := by
  unfold OperatorResponse.make at h
  split at h
  · cases h
    rfl
  · cases h

theorem names_responseEntries (r : ResponseFields) : r.entries.map Prod.fst =
    ["ok", "code", "refs", "job_id", "state", "version", "worker_id", "attempt_count",
      "max_attempts"] := rfl

theorem nodup_responseEntries (r : ResponseFields) : (r.entries.map Prod.fst).Nodup := by
  rw [names_responseEntries]
  decide

theorem wireNames_responseEntries (r : ResponseFields) :
    ∀ field ∈ r.entries, WireText field.1 ∧ field.1.length ≤ 16 := by
  have hall : ["ok", "code", "refs", "job_id", "state", "version", "worker_id",
      "attempt_count", "max_attempts"].all
        fun name => name.toList.all identifierChar && name.length ≤ 16 := by
    decide
  intro field hfield
  have hname := all_eq_true.mp hall field.1 (mem_map_of_mem hfield)
  rw [Bool.and_eq_true] at hname
  exact ⟨all_eq_true.mp hname.1, of_decide_eq_true hname.2⟩

theorem find?_response {r : ResponseFields} {name : String} {value : Option Value}
    (h : (name, value) ∈ r.entries) : Json.find? (.lit name) (responseMapping r) = value :=
  find?_mappingOf (nodup_responseEntries r) h

/-- The numbers of a response that have no bound of their own. -/
def BoundedNumbers (r : ResponseFields) : Prop :=
  (∀ n, r.version = some n → n < 10 ^ 18) ∧ ∀ n, r.attemptCount = some n → n < 10 ^ 18

/-- A property of the identifiers and the numbers of a response holds of every field but `ok` and
    `refs`. -/
theorem CheckedResponse.entries {r : ResponseFields} (h : CheckedResponse r) {P : Value → Prop}
    (hok : P (.bool r.ok)) (hrefs : P (.arr (r.refs.map textValue)))
    (htext : ∀ s, isIdentifier s = true → P (textValue s))
    (hbudget : ∀ n, 1 ≤ n ∧ n ≤ 100 → P (intValue n))
    (hversion : ∀ n, r.version = some n → P (intValue n))
    (hattempt : ∀ n, r.attemptCount = some n → P (intValue n))
    {name : String} {value : Value} (hmem : (name, some value) ∈ r.entries) : P value := by
  have hid {o : Option String} (ho : ∀ s, o = some s → isIdentifier s = true)
      (hvalue : some value = o.map textValue) : P value :=
    Option.forall_mem_map.mpr (fun s hs => htext s (ho s hs)) value hvalue.symm
  unfold ResponseFields.entries at hmem
  simp only [mem_cons, not_mem_nil, or_false, Prod.mk.injEq] at hmem
  rcases hmem with ⟨-, hv⟩ | ⟨-, hv⟩ | ⟨-, hv⟩ | ⟨-, hv⟩ | ⟨-, hv⟩ | ⟨-, hv⟩ | ⟨-, hv⟩ | ⟨-, hv⟩ |
    ⟨-, hv⟩
  · cases hv
    exact hok
  · cases hv
    exact htext _ h.code
  · cases hv
    exact hrefs
  · exact hid h.jobId hv
  · exact hid h.state hv
  · exact Option.forall_mem_map.mpr hversion value hv.symm
  · exact hid h.workerId hv
  · exact Option.forall_mem_map.mpr hattempt value hv.symm
  · exact Option.forall_mem_map.mpr (fun n hn => hbudget n (h.maxAttempts n hn)) value hv.symm

theorem CheckedResponse.wireFields {r : ResponseFields} (h : CheckedResponse r)
    (hbounded : BoundedNumbers r) : WireFields env r.entries := by
  refine ⟨nodup_responseEntries r, fun field hfield => (wireNames_responseEntries r field hfield).1, ?_⟩
  intro name value hmem
  refine h.entries (P := WireValue env) (.bool r.ok) (.texts r.refs fun s hs => ?_) ?_ ?_ ?_ ?_ hmem
  · exact isIdentifier_wireText (h.refs s hs)
  · exact fun s hs => .text s (isIdentifier_wireText hs)
  · exact fun n hn => .int n (prints_int (k := 3) (by decide) (by omega) (by norm_num; omega))
  · intro n hn
    have hlow := h.version n hn
    exact .int n (prints_int (k := 18) (by decide) (by omega) (hbounded.1 n hn))
  · intro n hn
    exact .int n (prints_int (k := 18) (by decide) (h.attemptCount n hn) (hbounded.2 n hn))

theorem asTexts_map (refs : List String) :
    asTexts (.arr (refs.map textValue)) = some (refs.map PyStr.lit) := by
  unfold asTexts
  dsimp only
  induction refs with
  | nil => rfl
  | cons s refs ih =>
    rw [map_cons, mapM_cons, ih]
    rfl

variable {refs : List String}

theorem mapM_requireIdentifier (h : ∀ s ∈ refs, isIdentifier s = true) :
    ((refs.map PyStr.lit).mapM fun ref => requireIdentifier (.str ref)) = .ok refs := by
  induction refs with
  | nil => rfl
  | cons s refs ih =>
    rw [map_cons, mapM_cons, ih fun t ht => h t (mem_cons_of_mem _ ht)]
    have hhead : requireIdentifier (.str (.lit s)) = .ok s :=
      requireIdentifier_text (h s mem_cons_self)
    rw [hhead]
    rfl

/-- A field that is there or not is read as it is. -/
theorem optionalField_map {α : Type} {parse : Value → Except String α} {toValue : α → Value}
    {o : Option α} (hnull : ∀ a, toValue a ≠ .null) (hparse : ∀ a, o = some a →
      parse (toValue a) = .ok a) : optionalField parse ((o.map toValue).getD .null) = .ok o := by
  cases o with
  | none => rfl
  | some a =>
    have hvalue := hparse a rfl
    rw [Option.map_some, Option.getD_some]
    unfold optionalField
    split
    · rename_i heq
      exact absurd heq (hnull a)
    · rw [hvalue]
      rfl

theorem requireCount_int {n : Int} (h : 0 ≤ n) : requireCount (intValue n) = .ok n :=
  if_neg (by omega)

/-- The constructor call of the decoder builds the response again. -/
theorem responseOf_lookups {m : Payload}
    (hfind : ∀ key, Json.find? key m = Json.find? key (responseMapping r.toResponseFields)) :
    responseOf m (r.refs.map PyStr.lit) = .ok r := by
  have hvalid := r.valid
  have hmake := makeResponse_self r
  have hget {name : String} {value : Option Value} (hmem : (name, value) ∈ r.entries) :
      getKey m name = value.getD .null := by
    unfold getKey
    rw [hfind, find?_response hmem]
  have htext {name : String} {o : Option String} (hmem : (name, o.map textValue) ∈ r.entries)
      (ho : ∀ s, o = some s → isIdentifier s = true) :
      optionalField requireIdentifier (getKey m name) = .ok o := by
    rw [hget hmem]
    exact optionalField_map nofun fun s hs => requireIdentifier_text (ho s hs)
  have hint {name : String} {parse : Value → Except String Int} {o : Option Int}
      (hmem : (name, o.map intValue) ∈ r.entries) (ho : ∀ n, o = some n → parse (intValue n) = .ok n) :
      optionalField parse (getKey m name) = .ok o := by
    rw [hget hmem]
    exact optionalField_map nofun ho
  have hok : getKey m "ok" = .bool r.ok := @hget _ (some (.bool r.ok)) mem_cons_self
  have hcode : getKey m "code" = textValue r.code :=
    @hget _ (some (textValue r.code)) (mem_cons_of_mem _ mem_cons_self)
  unfold responseOf
  rw [hok]
  dsimp only
  rw [hcode, requireIdentifier_text hvalid.code, ok_bind,
    htext (by simp [ResponseFields.entries]) hvalid.jobId, ok_bind,
    htext (by simp [ResponseFields.entries]) hvalid.state, ok_bind,
    htext (by simp [ResponseFields.entries]) hvalid.workerId, ok_bind,
    hint (by simp [ResponseFields.entries]) (fun n hn => requirePositiveInt_int (hvalid.version n hn)),
    ok_bind,
    hint (by simp [ResponseFields.entries]) (fun n hn => requireCount_int (hvalid.attemptCount n hn)),
    ok_bind,
    hint (by simp [ResponseFields.entries])
      (fun n hn => requireAttemptBudget_int (hvalid.maxAttempts n hn)), ok_bind,
    mapM_requireIdentifier hvalid.refs, ok_bind]
  exact hmake

/-- What is encoded within the limit is decoded to the response. -/
theorem decode_response {maxBytes : Int} (hbounded : BoundedNumbers r.toResponseFields)
    (hsize : ((wireText r.entries).length : Int) ≤ maxBytes) :
    ∃ data, encodeOperatorResponse env maxBytes r = .ok data ∧
      decodeOperatorResponse env maxBytes data = .ok r := by
  have hwire := @CheckedResponse.wireFields env _ r.valid hbounded
  obtain ⟨data, hencode, -, hdecode⟩ := hwire.round_trip hsize
  refine ⟨data, hencode, ?_⟩
  have hhas {name : String} {value : Value} (hmem : (name, some value) ∈ r.entries) :
      hasKey (sortedEntries (mappingOf r.entries)) name = true := by
    unfold hasKey
    rw [hwire.find?, find?_mappingOf hwire.names hmem]
    rfl
  have hrequired : responseRequired.all
      (hasKey (sortedEntries (mappingOf r.entries))) = true := by
    unfold responseRequired
    rw [all_cons, all_cons, all_nil,
      @hhas _ (.bool r.ok) mem_cons_self,
      @hhas _ (textValue r.code) (mem_cons_of_mem _ mem_cons_self)]
    rfl
  have hkeys : ((sortedEntries (mappingOf r.entries)).all fun e =>
      decide (e.1 ∈ (responseRequired ++ responseOptional).map PyStr.lit)) = true := by
    rw [all_eq_true]
    intro e he
    obtain ⟨name, value, hmem, rfl⟩ := mem_mappingOf.mp (hwire.perm.mem_iff.mp he)
    have hname : name ∈ r.entries.map Prod.fst := mem_map_of_mem hmem
    rw [names_responseEntries] at hname
    have hall : ∀ name ∈ ["ok", "code", "refs", "job_id", "state", "version", "worker_id",
        "attempt_count", "max_attempts"], name ∈ responseRequired ++ responseOptional := by decide
    exact decide_eq_true (mem_map_of_mem (hall name hname))
  have hrefs : Json.find? (.lit "refs") (sortedEntries (mappingOf r.entries)) =
      some (.arr (r.refs.map textValue)) := by
    rw [hwire.find?]
    exact find?_response (by simp [ResponseFields.entries])
  unfold decodeOperatorResponse
  rw [hdecode, ok_bind, hrequired, rejectIf_neg (by decide), ok_bind, hkeys,
    rejectIf_neg (by decide), ok_bind, hrefs, Option.getD_some, asTexts_map]
  dsimp only
  rw [responseOf_lookups hwire.find?]
  rfl

theorem length_refs (h : ∀ s ∈ refs, isIdentifier s = true) :
    (dumps compactStyle numberText (.arr (refs.map textValue))).length ≤
      162 * refs.length + (refs.length - 1) + 2 := by
  have hcomma : compactStyle.comma.length = 1 := rfl
  have hitems : ∀ x ∈ (refs.map textValue).map
      fun item => (dumps compactStyle numberText item).length, x ≤ 162 := by
    intro x hx
    obtain ⟨item, hitem, rfl⟩ := mem_map.mp hx
    obtain ⟨s, hs, rfl⟩ := mem_map.mp hitem
    exact length_identifier (h s hs)
  have hsum := sum_le_card_nsmul _ 162 hitems
  rw [dumps, length_cons, length_append, length_singleton,
    length_dumpsItems, hcomma]
  simp only [length_map, smul_eq_mul] at hsum ⊢
  omega

theorem fieldLength_some (name : String) (value : Value) : fieldLength (name, some value) =
    name.length + 4 + (dumps compactStyle numberText value).length := rfl

/-- With one reference at most, the fields take less than a quarter of the limit. -/
theorem CheckedResponse.length_few {r : ResponseFields} (h : CheckedResponse r)
    (hbounded : BoundedNumbers r) (hrefs : r.refs.length ≤ 1) :
    ((wireText r.entries).length : Int) ≤ defaultResponseMaxBytes := by
  have hfields : ∀ x ∈ r.entries.map fieldLength, x ≤ 184 := by
    intro x hx
    obtain ⟨⟨name, value⟩, hmem, rfl⟩ := mem_map.mp hx
    cases value with
    | none => exact Nat.zero_le _
    | some v =>
      have hname := (wireNames_responseEntries r _ hmem).2
      have hvalue : (dumps compactStyle numberText v).length ≤ 164 := by
        refine h.entries (P := fun v => (dumps compactStyle numberText v).length ≤ 164)
          ?_ ?_ (fun s hs => ?_) (fun n hn => ?_) (fun n hn => ?_) (fun n hn => ?_) hmem
        · cases r.ok <;> decide
        · have hlength := length_refs h.refs
          omega
        · exact (length_identifier hs).trans (by decide)
        · exact (@length_int n 3 (by decide) (by omega) (by norm_num; omega)).trans (by decide)
        · have hlow := h.version n hn
          exact (@length_int n 18 (by decide) (by omega) (hbounded.1 n hn)).trans (by decide)
        · have hlow := h.attemptCount n hn
          exact (@length_int n 18 (by decide) hlow (hbounded.2 n hn)).trans (by decide)
      show name.length + 4 + _ ≤ 184
      dsimp only at hname
      omega
  have hsum := sum_le_card_nsmul _ 184 hfields
  have hcount : (r.entries.map fieldLength).length = 9 := rfl
  have hlength := length_wireText fun field hfield => (wireNames_responseEntries r field hfield).1
  rw [hcount] at hsum
  show _ ≤ (8192 : Int)
  simp only [smul_eq_mul] at hsum
  omega

/-- The response to a request for events. -/
def eventsResponse (jobId : Option String) (refs : List String) : ResponseFields :=
  { ok := true, code := "OK", jobId, refs }

/-- The response with events and 49 references fits exactly. -/
theorem length_events {jobId : Option String} (h : CheckedResponse (eventsResponse jobId refs))
    (hrefs : refs.length ≤ 49) :
    ((wireText (eventsResponse jobId refs).entries).length : Int) ≤ defaultResponseMaxBytes := by
  have hlength := length_wireText fun field hfield =>
    (wireNames_responseEntries (eventsResponse jobId refs) field hfield).1
  have hitems := length_refs h.refs
  have hjob : fieldLength ("job_id", jobId.map textValue) ≤ 172 := by
    cases hid : jobId with
    | none => exact Nat.zero_le _
    | some s =>
      have hvalue := length_identifier (h.jobId s hid)
      have hname : "job_id".length = 6 := by decide
      rw [Option.map_some, fieldLength_some, hname]
      omega
  have hok : fieldLength ("ok", some (.bool true)) = 10 := by decide
  have hcode : fieldLength ("code", some (textValue "OK")) = 12 := by decide
  have hlist : fieldLength ("refs", some (.arr (refs.map textValue))) =
      8 + (dumps compactStyle numberText (.arr (refs.map textValue))).length := by
    have hname : "refs".length = 4 := by decide
    rw [fieldLength_some, hname]
  have hentries : ((eventsResponse jobId refs).entries.map fieldLength).sum =
      fieldLength ("ok", some (.bool true)) + (fieldLength ("code", some (textValue "OK")) +
        (fieldLength ("refs", some (.arr (refs.map textValue))) +
          fieldLength ("job_id", jobId.map textValue))) := by
    simp only [ResponseFields.entries, eventsResponse, map_cons, map_nil, sum_cons,
      sum_nil, Option.map_none]
    simp only [fieldLength, Nat.add_zero]
  show _ ≤ (8192 : Int)
  have hrefs' : (eventsResponse jobId refs).refs = refs := rfl
  rw [hrefs'] at hitems
  omega

/-- A response with one reference at most, or one to a request for events. -/
def Answers (limit : Nat) (r : ResponseFields) : Prop :=
  r.refs.length ≤ 1 ∨ ∃ jobId refs, r = eventsResponse jobId refs ∧ refs.length ≤ limit

theorem buildResponse_ok {f : ResponseFields} (h : buildResponse f = .ok r) :
    r.toResponseFields = f :=
  makeResponse_ok (mapError_eq_ok.mp h)

theorem respondJob_answers {limit : Nat} {answer : Except Raised JobRuntimeState}
    (h : respondJob answer = .ok r) : Answers limit r.toResponseFields := by
  cases answer with
  | error raised => cases h
  | ok job =>
    left
    rw [buildResponse_ok h]
    exact Nat.zero_le 1

variable {request : OperatorRequest} {maxEventRefs : Int}

theorem respondEvents_answers {answer : Except Raised (List JobEvent)}
    (h : respondEvents request maxEventRefs answer = .ok r) :
    Answers maxEventRefs.toNat r.toResponseFields := by
  cases answer with
  | error raised => cases h
  | ok events =>
    right
    refine ⟨request.jobId, _, buildResponse_ok h, ?_⟩
    rw [length_map]
    exact length_take_le _ _

theorem respondOutcome_answers {limit : Nat} {answer : Except Raised (Option JobExecutionOutcome)}
    (h : respondOutcome request answer = .ok r) : Answers limit r.toResponseFields := by
  left
  cases answer with
  | error raised => cases h
  | ok outcome =>
    cases outcome with
    | none =>
      rw [buildResponse_ok h]
      exact Nat.zero_le 1
    | some outcome =>
      rw [buildResponse_ok h]
      exact Option.length_toList_le

theorem respondRaised_answers {limit : Nat} {jobId : Option String}
    {out : Except Raised OperatorResponse}
    (hout : ∀ r, out = .ok r → Answers limit r.toResponseFields)
    (h : respondRaised jobId out = .ok r) : Answers limit r.toResponseFields := by
  cases out with
  | ok response =>
    cases h
    exact hout r rfl
  | error raised =>
    left
    rw [buildResponse_ok h]
    exact Nat.zero_le 1

variable {σ ε : Type}

/-- The result of a call whose result is only rephrased. -/
theorem exec_rephrase {α β : Type} (p : Proc σ ε α) (f : α → β) (s : σ) :
    ((do return f (← p) : Proc σ ε β).exec s).1 = f (p.exec s).1 := by
  rw [Proc.exec_bind]
  rfl

variable {service : OperatorJobControl σ ε}

theorem serve_answers {s : σ} (h : ((serve service maxEventRefs request).exec s).1 = .ok r) :
    Answers maxEventRefs.toNat r.toResponseFields := by
  unfold serve at h
  cases haction : request.action <;> rw [haction] at h <;> dsimp only at h
  case status =>
    left
    rw [buildResponse_ok h]
    exact Nat.zero_le 1
  all_goals rw [exec_rephrase] at h
  case jobEvents => exact respondEvents_answers h
  case jobExecute => exact respondOutcome_answers h
  all_goals exact respondJob_answers h

variable {statusProvider : Option (StatusProvider σ ε)}

theorem dispatch_answers {s : σ} (hstatus : request.action ≠ .status)
    (h : ((dispatchOperatorRequest service statusProvider maxEventRefs request).exec s).1 = .ok r) :
    Answers maxEventRefs.toNat r.toResponseFields := by
  unfold dispatchOperatorRequest at h
  split at h
  · cases h
  · split at h
    · rename_i haction
      exact absurd haction hstatus
    · rw [exec_rephrase] at h
      exact respondRaised_answers (fun r hr => serve_answers hr) h

/-- A response of the dispatcher survives the wire. -/
theorem dispatched_round_trip {s : σ} (hlimit : maxEventRefs ≤ 49)
    (hstatus : request.action ≠ .status)
    (h : ((dispatchOperatorRequest service statusProvider maxEventRefs request).exec s).1 = .ok r)
    (hbounded : BoundedNumbers r.toResponseFields) :
    ∃ data, encodeOperatorResponse env defaultResponseMaxBytes r = .ok data ∧
      decodeOperatorResponse env defaultResponseMaxBytes data = .ok r := by
  refine decode_response hbounded ?_
  rcases dispatch_answers hstatus h with hfew | ⟨jobId, refs, heq, hrefs⟩
  · exact r.valid.length_few hbounded hfew
  · have hvalid := r.valid
    rw [heq] at hvalid ⊢
    exact length_events hvalid (by omega)

/-- The wire loses nothing: neither a parsed request, nor a request that it accepted, nor a
    response of the dispatcher whose numbers and references are bounded. -/
theorem operator_wire_round_trip (env : WireEnv) :
    (∀ payload r, parseOperatorRequest payload = .ok r →
      (∀ n, r.expectedVersion = some n → n < 10 ^ 18) →
      ∃ data, encodeOperatorRequest env defaultRequestMaxBytes r = .ok data ∧
        decodeOperatorRequest env defaultRequestMaxBytes data = .ok r) ∧
    (∀ data r, decodeOperatorRequest env defaultRequestMaxBytes data = .ok r →
      ∃ data', encodeOperatorRequest env defaultRequestMaxBytes r = .ok data' ∧
        decodeOperatorRequest env defaultRequestMaxBytes data' = .ok r) ∧
    ∀ {σ ε : Type} (service : OperatorJobControl σ ε) (statusProvider : Option (StatusProvider σ ε))
      (maxEventRefs : Int) (request : OperatorRequest) (s : σ) (r : OperatorResponse),
      maxEventRefs ≤ 49 → request.action ≠ .status →
      ((dispatchOperatorRequest service statusProvider maxEventRefs request).exec s).1 = .ok r →
      BoundedNumbers r.toResponseFields →
      ∃ data, encodeOperatorResponse env defaultResponseMaxBytes r = .ok data ∧
        decodeOperatorResponse env defaultResponseMaxBytes data = .ok r :=
  ⟨fun _ _ h hversion => parsed_round_trip h hversion, fun _ _ h => accepted_round_trip h,
    fun _ _ _ _ _ _ hlimit hstatus h hbounded => dispatched_round_trip hlimit hstatus h hbounded⟩

def sampleRow (version : Int) : JobRow where
  jobId := "J1"
  workOrderRef := "W1"
  projectId := "P1"
  state := .new
  workerId := none
  attemptCount := 0
  maxAttempts := 3
  recoveryClassification := none
  version := version

variable {version : Int}

theorem sampleRow_check (h : 1 ≤ version) : (sampleRow version).check = .ok () := by
  have hversion : Job.requirePositiveInt version "version" = .ok () := if_neg (by omega)
  unfold JobRow.check sampleRow
  dsimp only
  rw [hversion]
  rfl

def sampleJob (version : Int) (h : 1 ≤ version) : JobRuntimeState :=
  ⟨sampleRow version, sampleRow_check h⟩

/-- A service that answers every request with the job and no events. -/
def sampleService (job : JobRuntimeState) : OperatorJobControl Unit Unit where
  createJob _ _ _ _ := .ret (.ok job)
  getJob _ := .ret (.ok job)
  listEvents _ := .ret (.ok [])
  markReady _ _ := .ret (.ok job)
  claim _ _ _ := .ret (.ok job)
  gate _ _ _ := .ret (.ok job)
  checkpoint _ _ _ _ := .ret (.ok job)
  executeOperation _ _ _ _ := .ret (.ok (some ⟨true, job, some "E1", none, false⟩))

def sampleEnv : WireEnv := ⟨some 4300, by intro m hm; cases hm; decide⟩

def sampleGet : OperatorRequest := ⟨{ action := .jobGet, jobId := some "J1" }, by decide⟩

theorem sampleResponse_check (h : 1 ≤ version) :
    ({ ok := true, code := "OK", jobId := some "J1", state := some "NEW", version := some version
       attemptCount := some 0, maxAttempts := some 3 } : ResponseFields).check = .ok () := by
  have hversion : checkOptional (checkInt 1 "OPERATOR_RESPONSE_INVALID") (some version) = .ok () :=
    if_neg (by omega)
  unfold ResponseFields.check
  dsimp only
  rw [hversion]
  rfl

def sampleResponse (version : Int) (h : 1 ≤ version) : OperatorResponse :=
  ⟨{ ok := true, code := "OK", jobId := some "J1", state := some "NEW", version := some version
     attemptCount := some 0, maxAttempts := some 3 }, sampleResponse_check h⟩

theorem dispatch_sample (h : 1 ≤ version) :
    ((dispatchOperatorRequest (sampleService (sampleJob version h)) none 20 sampleGet).exec ()).1 =
      .ok (sampleResponse version h) := by
  have hbuild : buildResponse (sampleResponse version h).toResponseFields =
      .ok (sampleResponse version h) := by
    unfold buildResponse
    rw [makeResponse_self]
    rfl
  show respondRaised (some "J1") (buildResponse (sampleResponse version h).toResponseFields) = _
  rw [hbuild]
  rfl

def largeVersion : Int := 10 ^ 4300

theorem one_le_largeVersion : 1 ≤ largeVersion := by
  unfold largeVersion
  exact one_le_pow₀ (by decide)

theorem not_prints_large : sampleEnv.prints (.int largeVersion) = false := by
  have hdigits : ¬ (digits largeVersion.natAbs).length ≤ 4300 := by
    unfold digits
    rw [PyStr.length_ofChars, Nat.length_toDigits_le_iff (by decide) (by decide)]
    unfold largeVersion
    rw [Int.natAbs_pow]
    exact Nat.lt_irrefl _
  have hfilter : (digits largeVersion.natAbs).filter isDigit =
      digits largeVersion.natAbs :=
    filter_eq_self.mpr fun _ => digits_isDigit
  have hpositive := one_le_largeVersion
  unfold WireEnv.prints sampleEnv
  dsimp only
  rw [intText_of_nonneg (by omega), hfilter, Option.any_some, decide_eq_true (by omega)]
  rfl

/-- A version of 4301 digits is within the limits of a response, and cannot be printed. -/
theorem large_version_not_encoded :
    ∃ r, ((dispatchOperatorRequest (sampleService (sampleJob largeVersion one_le_largeVersion))
        none 20 sampleGet).exec ()).1 = .ok r ∧
      r.version = some largeVersion ∧
      encodeOperatorResponse sampleEnv defaultResponseMaxBytes r =
        .error "OPERATOR_WIRE_ENCODE_FAILED" := by
  refine ⟨_, dispatch_sample one_le_largeVersion, rfl, ?_⟩
  have hprints : (Json.obj (responseMapping
      (sampleResponse largeVersion one_le_largeVersion).toResponseFields)).allNums
        sampleEnv.prints = false := by
    rw [Bool.eq_false_iff]
    intro hall
    have hmem : (PyStr.lit "version", intValue largeVersion) ∈ responseMapping
        (sampleResponse largeVersion one_le_largeVersion).toResponseFields :=
      mem_mappingOf.mpr ⟨"version", intValue largeVersion, by simp [ResponseFields.entries, sampleResponse], rfl⟩
    have hversion := allNumsEntries_iff.mp hall _ hmem
    rw [show (intValue largeVersion).allNums sampleEnv.prints = sampleEnv.prints (.int largeVersion)
      from rfl, not_prints_large] at hversion
    cases hversion
  have hlimit : requireLimit defaultResponseMaxBytes = .ok () := by decide
  unfold encodeOperatorResponse encodeMapping
  rw [hlimit, ok_bind, hprints]
  rfl

def sampleReady : OperatorRequest :=
  ⟨{ action := .jobReady, jobId := some "J1", expectedVersion := some 4 }, by decide⟩

/-- A request to make a job ready, with its fields out of order. -/
def samplePayload : Payload :=
  [(.lit "expected_version", intValue 4), (.lit "action", textValue "job.ready"),
    (.lit "job_id", textValue "J1"), (.lit "protocol_version", textValue "operator.v1")]

theorem operator_wire_round_trip_sample :
    (∃ data, encodeOperatorRequest sampleEnv defaultRequestMaxBytes sampleReady = .ok data ∧
      decodeOperatorRequest sampleEnv defaultRequestMaxBytes data = .ok sampleReady) ∧
    (∃ data r, decodeOperatorRequest sampleEnv defaultRequestMaxBytes data = .ok r ∧
      ∃ data', encodeOperatorRequest sampleEnv defaultRequestMaxBytes r = .ok data') ∧
    ∃ data, encodeOperatorResponse sampleEnv defaultResponseMaxBytes (sampleResponse 7 (by decide)) =
        .ok data ∧
      decodeOperatorResponse sampleEnv defaultResponseMaxBytes data =
        .ok (sampleResponse 7 (by decide)) := by
  obtain ⟨hparsed, haccepted, hresponse⟩ := operator_wire_round_trip sampleEnv
  have hparse : parseOperatorRequest samplePayload = .ok sampleReady := by decide +kernel
  obtain ⟨data, hencode, hdecode⟩ := hparsed samplePayload sampleReady hparse (by
    intro n hn
    cases hn
    decide)
  obtain ⟨data', hencode', -⟩ := haccepted data sampleReady hdecode
  refine ⟨⟨data, hencode, hdecode⟩, ⟨data, sampleReady, hdecode, data', hencode'⟩, ?_⟩
  refine hresponse _ none 20 sampleGet () _ (by decide) (by decide)
    (dispatch_sample (by decide : (1 : Int) ≤ 7)) ⟨?_, ?_⟩
  · intro n hn
    cases hn
    decide
  · intro n hn
    cases hn
    decide

end AConductor.Operator

import AConductor.Lib.JsonText
import AConductor.Relay.Envelope

/-!
# The line codec of relay envelopes

`src/a_conductor/sidecar_relay.py:282-445`. A check returns the text it was given, so an
envelope that was built from a mapping passes the same checks again from its own mapping;
and the mapping is read back from its line, since its texts hold no surrogate.
-/

namespace AConductor.Relay

open List Except Json

variable {env : RelayEnv}

variable {value : Value} {s : PyStr} {e : RelayEnvelope} {payload : Payload}
  {numOk : Number PyStr → Prop}

theorem requireText_ok {maxLen : Nat} (h : requireText env maxLen value = .ok s) :
    value = .str s ∧ s.all CodePoint.isChar = true := by
  cases value with
  | str t =>
    unfold requireText at h
    simp only [bind_eq_ok] at h
    obtain ⟨_, -, _, hsafe, hs⟩ := h
    cases hs
    refine ⟨rfl, ?_⟩
    unfold checkSafeText at hsafe
    split at hsafe
    · cases hsafe
    · rename_i hunsafe
      rw [all_eq_true]
      intro c hc
      cases c with
      | char d => rfl
      | surrogate n =>
        exfalso
        exact hunsafe (any_eq_true.mpr ⟨_, hc, rfl⟩)
  | null | bool _ | num _ | arr _ | obj _ => cases h

theorem requireMatch_ok {maxLen : Nat} {grammar : PyStr → Bool}
    (h : requireMatch env maxLen grammar value = .ok s) :
    value = .str s ∧ s.all CodePoint.isChar = true := by
  unfold requireMatch at h
  simp only [bind_eq_ok] at h
  obtain ⟨t, ht, _, -, hs⟩ := h
  cases hs
  exact requireText_ok ht

theorem requireMember_ok {allowed : List PyStr} (h : requireMember allowed value = .ok s) :
    value = .str s ∧ s ∈ allowed := by
  cases value with
  | str t =>
    dsimp only [requireMember] at h
    split at h
    · cases h
      exact ⟨rfl, by assumption⟩
    · cases h
  | null | bool _ | num _ | arr _ | obj _ => cases h

theorem validateEventId_ok {surface : PyStr} (h : validateEventId env surface value = .ok s) :
    value = .str s ∧ s.all CodePoint.isChar = true := by
  unfold validateEventId at h
  simp only [bind_eq_ok] at h
  obtain ⟨t, ht, _, -, _, -, _, -, hs⟩ := h
  cases hs
  exact requireText_ok ht

/-- The value of an optional field. -/
def optValue : Option PyStr → Value
  | none => .null
  | some s => .str s

/-- An optional field that was accepted is absent, or a text that its check accepts. -/
theorem optionalField_ok {check : Value → Except RelayFault PyStr}
    (hcheck : ∀ v s, check v = .ok s → v = .str s ∧ s.all CodePoint.isChar = true)
    {o : Option PyStr} (h : optionalField check value = .ok o) :
    value = optValue o ∧ ∀ s ∈ o, s.all CodePoint.isChar = true := by
  have present (hv : value ≠ .null) (hmap : (check value).map some = .ok o) :
      value = optValue o ∧ ∀ s ∈ o, s.all CodePoint.isChar = true := by
    cases hc : check value with
    | error e =>
      rw [hc] at hmap
      cases hmap
    | ok s =>
      rw [hc] at hmap
      cases hmap
      obtain ⟨hvalue, hchars⟩ := hcheck _ _ hc
      refine ⟨hvalue, ?_⟩
      intro t ht
      cases ht
      exact hchars
  cases value with
  | null =>
    cases h
    exact ⟨rfl, nofun⟩
  | str _ | bool _ | num _ | arr _ | obj _ => exact present nofun h

theorem mapM_evidenceRef {items : List Value} {refs : List PyStr}
    (h : items.mapM (evidenceRef env) = .ok refs) :
    items = refs.map .str ∧ ∀ r ∈ refs, r.all CodePoint.isChar = true := by
  induction items generalizing refs with
  | nil =>
    cases h
    exact ⟨rfl, nofun⟩
  | cons item items ih =>
    rw [mapM_cons] at h
    obtain ⟨first, hfirst, h⟩ := bind_eq_ok.mp h
    obtain ⟨rest, hrest, h⟩ := bind_eq_ok.mp h
    cases h
    obtain ⟨hitem, hchars⟩ := requireMatch_ok hfirst
    obtain ⟨hitems, hall⟩ := ih hrest
    refine ⟨by rw [hitem, hitems, map_cons], ?_⟩
    intro r hr
    rcases mem_cons.mp hr with rfl | hr
    · exact hchars
    · exact hall r hr

/-- The references that were accepted are accepted again, as a list. -/
theorem validateEvidenceRefs_ok {refs : List PyStr}
    (h : validateEvidenceRefs env value = .ok refs) :
    validateEvidenceRefs env (.arr (refs.map .str)) = .ok refs ∧
      ∀ r ∈ refs, r.all CodePoint.isChar = true := by
  cases value with
  | null =>
    cases h
    exact ⟨rfl, nofun⟩
  | arr items =>
    have hkeep := h
    unfold validateEvidenceRefs at h
    simp only [bind_eq_ok] at h
    obtain ⟨_, -, found, hmap, _, -, hs⟩ := h
    cases hs
    obtain ⟨hitems, hall⟩ := mapM_evidenceRef hmap
    rw [← hitems]
    exact ⟨hkeep, hall⟩
  | str _ | bool _ | num _ | obj _ => cases h

theorem priorityOf_ok {eventType : PyStr} {p : PyStr} (h : priorityOf eventType value = .ok p) :
    priorityOf eventType (.str p) = .ok p ∧ p ∈ priorities := by
  have hmember (hp : p ∈ priorities) : priorityOf eventType (.str p) = .ok p := by
    simp only [priorityOf, requireMember, if_pos hp]
  cases value with
  | null =>
    have hp : p ∈ priorities := by
      cases h
      split <;> decide
    exact ⟨hmember hp, hp⟩
  | str s =>
    have hread : requireMember priorities (.str s) = .ok p := h
    obtain ⟨-, hp⟩ := requireMember_ok hread
    exact ⟨hmember hp, hp⟩
  | bool _ | num _ | arr _ | obj _ => cases h

theorem find?_optionalEntry (key name : String) (o : Option PyStr) :
    Json.find? (.lit key) (optionalEntry name o) = if name = key then o.map .str else none := by
  cases o with
  | none =>
    split <;> rfl
  | some s =>
    unfold Json.find? optionalEntry
    by_cases h : name = key
    · simp [h]
    · have hne : ¬ PyStr.lit name = PyStr.lit key := fun heq => h (PyStr.lit_injective heq)
      simp [h, hne]

theorem getD_optValue (o : Option PyStr) : (o.map Json.str).getD .null = optValue o := by
  cases o <;> rfl

section Mapping

variable (e : RelayEnvelope)

/-- What the mapping of an envelope holds under each key. -/
theorem getKey_toMapping :
    getKey e.toMapping "EVENT_ID" = .str e.eventId ∧
    getKey e.toMapping "EVENT_TYPE" = .str e.eventType ∧
    getKey e.toMapping "SOURCE_SURFACE" = .str e.sourceSurface ∧
    getKey e.toMapping "SOURCE_THREAD_ID" = .str e.sourceThreadId ∧
    getKey e.toMapping "SOURCE_TURN_ID" = .str e.sourceTurnId ∧
    getKey e.toMapping "PRIORITY" = .str e.priority ∧
    getKey e.toMapping "EVIDENCE_REFS" = .arr (e.evidenceRefs.map .str) ∧
    getKey e.toMapping "CREATED_AT" = .str e.createdAt ∧
    getKey e.toMapping "TASK_ID" = optValue e.taskId ∧
    getKey e.toMapping "CLAIM_ID" = optValue e.claimId ∧
    getKey e.toMapping "REPO" = optValue e.repo ∧
    getKey e.toMapping "WORKTREE" = optValue e.worktree ∧
    getKey e.toMapping "HEAD_SHA" = optValue e.headSha ∧
    getKey e.toMapping "REQUESTED_CAPABILITY" = optValue e.requestedCapability ∧
    getKey e.toMapping "DEVICE_CONTEXT" = optValue e.deviceContext := by
  simp [getKey, RelayEnvelope.toMapping, Json.find?_append, Json.find?_lit_cons, find?_optionalEntry,
    getD_optValue]

end Mapping

/-- The keys of a mapping are among those of the full one, in its order. -/
theorem toMapping_keys (e : RelayEnvelope) : (e.toMapping.map Prod.fst).Sublist (texts
    ["EVENT_ID", "EVENT_TYPE", "SOURCE_SURFACE", "SOURCE_THREAD_ID", "SOURCE_TURN_ID", "PRIORITY",
      "EVIDENCE_REFS", "CREATED_AT", "TASK_ID", "CLAIM_ID", "REPO", "WORKTREE", "HEAD_SHA",
      "REQUESTED_CAPABILITY", "DEVICE_CONTEXT"]) := by
  have hentry (key : String) (o : Option PyStr) :
      ((optionalEntry key o).map Prod.fst).Sublist [PyStr.lit key] := by
    cases o with
    | none => exact nil_sublist _
    | some s => exact List.Sublist.refl _
  unfold RelayEnvelope.toMapping
  simp only [map_append]
  exact ((((((((List.Sublist.refl _).append (hentry "TASK_ID" _)).append
    (hentry "CLAIM_ID" _)).append (hentry "REPO" _)).append (hentry "WORKTREE" _)).append
    (hentry "HEAD_SHA" _)).append (hentry "REQUESTED_CAPABILITY" _)).append
    (hentry "DEVICE_CONTEXT" _))

theorem toMapping_nodup (e : RelayEnvelope) : (e.toMapping.map Prod.fst).Nodup := by
  apply (toMapping_keys e).nodup
  decide +kernel

theorem toMapping_known (e : RelayEnvelope) :
    ∀ key ∈ e.toMapping.map Prod.fst, key ∈ envelopeKeys := by
  intro key hkey
  have hall : ∀ k ∈ texts
      ["EVENT_ID", "EVENT_TYPE", "SOURCE_SURFACE", "SOURCE_THREAD_ID", "SOURCE_TURN_ID", "PRIORITY",
        "EVIDENCE_REFS", "CREATED_AT", "TASK_ID", "CLAIM_ID", "REPO", "WORKTREE", "HEAD_SHA",
        "REQUESTED_CAPABILITY", "DEVICE_CONTEXT"], k ∈ envelopeKeys := by decide +kernel
  exact hall key ((toMapping_keys e).subset hkey)

/-- What `envelope_from_mapping` established about the envelope it built. -/
structure RelayEnvelope.Checked (env : RelayEnv) (e : RelayEnvelope) : Prop where
  eventType : requireMember eventFamilies (.str e.eventType) = .ok e.eventType
  sourceSurface : requireMember sourceSurfaces (.str e.sourceSurface) = .ok e.sourceSurface
  eventId : validateEventId env e.sourceSurface (.str e.eventId) = .ok e.eventId
  sourceThreadId : requireText env 256 (.str e.sourceThreadId) = .ok e.sourceThreadId
  sourceTurnId : requireText env 256 (.str e.sourceTurnId) = .ok e.sourceTurnId
  createdAt : validateCreatedAt env (.str e.createdAt) = .ok e.createdAt
  priority : priorityOf e.eventType (.str e.priority) = .ok e.priority
  binding : bindingPresent e.eventType e.toMapping = true
  taskId : optionalField (requireToken env 128) (optValue e.taskId) = .ok e.taskId
  claimId : optionalField (requireToken env 128) (optValue e.claimId) = .ok e.claimId
  repo : optionalField (requireMatch env 256 repoRe) (optValue e.repo) = .ok e.repo
  worktree : optionalField (requireText env 1024) (optValue e.worktree) = .ok e.worktree
  headSha : optionalField (requireMatch env 40 headShaRe) (optValue e.headSha) = .ok e.headSha
  requestedCapability : optionalField (requireMatch env 64 capabilityRe)
    (optValue e.requestedCapability) = .ok e.requestedCapability
  deviceContext : optionalField (requireText env 256) (optValue e.deviceContext) =
    .ok e.deviceContext
  evidenceRefs : validateEvidenceRefs env (.arr (e.evidenceRefs.map .str)) = .ok e.evidenceRefs
  evidence : ¬ (e.eventType ∈ resultReceiptFamilies ∧ e.evidenceRefs = [])

/-- A checked envelope is built again from any mapping with the lookups of its own. -/
theorem envelopeFromMapping_checked (h : e.Checked env)
    (hkeys : ∀ key ∈ payload.map Prod.fst, key ∈ envelopeKeys)
    (hfind : ∀ key, Json.find? key payload = Json.find? key e.toMapping) :
    envelopeFromMapping env payload = .ok e := by
  have hget (key : String) : getKey payload key = getKey e.toMapping key := by
    unfold getKey
    rw [hfind]
  have hbinding : bindingPresent e.eventType payload = true := by
    unfold bindingPresent
    simp only [hget]
    exact h.binding
  obtain ⟨hEventId, hEventType, hSurface, hThread, hTurn, hPriority, hEvidence, hCreated, hTask,
    hClaim, hRepo, hWorktree, hHead, hCapability, hDevice⟩ := getKey_toMapping e
  rw [← Bool.not_eq_false] at hbinding
  unfold envelopeFromMapping
  simp only [hget, hEventId, hEventType, hSurface, hThread, hTurn, hPriority, hEvidence, hCreated,
    hTask, hClaim, hRepo, hWorktree, hHead, hCapability, hDevice, h.eventType,
    h.sourceSurface, h.sourceThreadId, h.sourceTurnId, h.createdAt, h.taskId, h.claimId, h.repo, h.worktree, h.headSha, h.requestedCapability,
    h.deviceContext, h.evidenceRefs, bind_eq_ok, rejectIf_eq_ok]
  exact ⟨(), not_not.mpr hkeys, _, rfl, _, rfl, _, h.eventId, _, rfl, _, rfl, _, rfl, _, h.priority,
    (), hbinding, _, rfl, _, rfl, _, rfl, _, rfl, _, rfl, _, rfl, _, rfl, _, rfl, (), h.evidence, rfl⟩

theorem isNone_false {v : Value} : isNone v = false ↔ v ≠ .null := by
  cases v <;> simp [isNone]

theorem bindingPresent_iff {eventType : PyStr} :
    bindingPresent eventType payload = true ↔ (eventType ∈ mutationRelevantFamilies →
      getKey payload "TASK_ID" ≠ .null ∧ getKey payload "CLAIM_ID" ≠ .null ∧
        getKey payload "REPO" ≠ .null ∧ getKey payload "WORKTREE" ≠ .null ∧
        getKey payload "HEAD_SHA" ≠ .null) := by
  unfold bindingPresent bindingKeys
  generalize mutationRelevantFamilies = families
  by_cases hmem : eventType ∈ families
  · simp only [hmem, not_true_eq_false, decide_false, Bool.false_or, all_cons, all_nil,
      Bool.and_eq_true, Bool.not_eq_true', isNone_false, and_true, true_imp_iff]
  · simp only [hmem, not_false_eq_true, decide_true, Bool.true_or, false_imp_iff]

/-- An envelope built from a mapping passed every check. -/
theorem checked_of_mapping (h : envelopeFromMapping env payload = .ok e) : e.Checked env := by
  unfold envelopeFromMapping at h
  simp only [bind_eq_ok, rejectIf_eq_ok] at h
  obtain ⟨_, -, eventType, hEventType, surface, hSurface, eventId, hEventId, thread, hThread, turn,
    hTurn, created, hCreated, priority, hPriority, _, hbinding, task, hTask, claim, hClaim, repo,
    hRepo, worktree, hWorktree, head, hHead, cap, hCap, device, hDevice, refs, hRefs, _, hEvidence,
    he⟩ := h
  cases he
  have hEventTypeText := (requireMember_ok hEventType).1
  have hSurfaceText := (requireMember_ok hSurface).1
  have hEventIdText := (validateEventId_ok hEventId).1
  have hThreadText := (requireText_ok hThread).1
  have hTurnText := (requireText_ok hTurn).1
  have hCreatedText := (requireMatch_ok hCreated).1
  have hTaskValue := (optionalField_ok (fun _ _ => requireMatch_ok) hTask).1
  have hClaimValue := (optionalField_ok (fun _ _ => requireMatch_ok) hClaim).1
  have hRepoValue := (optionalField_ok (fun _ _ => requireMatch_ok) hRepo).1
  have hWorktreeValue := (optionalField_ok (fun _ _ => requireText_ok) hWorktree).1
  have hHeadValue := (optionalField_ok (fun _ _ => requireMatch_ok) hHead).1
  have hCapValue := (optionalField_ok (fun _ _ => requireMatch_ok) hCap).1
  have hDeviceValue := (optionalField_ok (fun _ _ => requireText_ok) hDevice).1
  constructor
  case eventType => rwa [hEventTypeText] at hEventType
  case sourceSurface => rwa [hSurfaceText] at hSurface
  case eventId => rwa [hEventIdText] at hEventId
  case sourceThreadId => rwa [hThreadText] at hThread
  case sourceTurnId => rwa [hTurnText] at hTurn
  case createdAt => rwa [hCreatedText] at hCreated
  case priority => exact (priorityOf_ok hPriority).1
  case binding =>
    rw [Bool.not_eq_false, bindingPresent_iff, hTaskValue, hClaimValue, hRepoValue,
      hWorktreeValue, hHeadValue] at hbinding
    obtain ⟨-, -, -, -, -, -, -, -, mTask, mClaim, mRepo, mWorktree, mHead, -, -⟩ :=
      getKey_toMapping
        { eventId, eventType, sourceSurface := surface, sourceThreadId := thread
          sourceTurnId := turn, priority, evidenceRefs := refs, createdAt := created
          taskId := task, claimId := claim, repo, worktree, headSha := head
          requestedCapability := cap, deviceContext := device }
    rw [bindingPresent_iff, mTask, mClaim, mRepo, mWorktree, mHead]
    exact hbinding
  case taskId => rwa [hTaskValue] at hTask
  case claimId => rwa [hClaimValue] at hClaim
  case repo => rwa [hRepoValue] at hRepo
  case worktree => rwa [hWorktreeValue] at hWorktree
  case headSha => rwa [hHeadValue] at hHead
  case requestedCapability => rwa [hCapValue] at hCap
  case deviceContext => rwa [hDeviceValue] at hDevice
  case evidenceRefs => exact (validateEvidenceRefs_ok hRefs).1
  case evidence => exact hEvidence

/-- An envelope that is accepted from its own mapping comes back as it is. -/
theorem envelopeFromMapping_toMapping {e c : RelayEnvelope}
    (h : envelopeFromMapping env e.toMapping = .ok c) : c = e := by
  obtain ⟨hEventId, hEventType, hSurface, hThread, hTurn, hPriority, hEvidence, hCreated, hTask,
    hClaim, hRepo, hWorktree, hHead, hCapability, hDevice⟩ := getKey_toMapping e
  unfold envelopeFromMapping at h
  simp only [bind_eq_ok, hEventId, hEventType, hSurface, hThread, hTurn, hPriority,
    hEvidence, hCreated, hTask, hClaim, hRepo, hWorktree, hHead, hCapability, hDevice] at h
  obtain ⟨_, -, eventType, cEventType, surface, cSurface, eventId, cEventId, thread, cThread, turn,
    cTurn, created, cCreated, priority, cPriority, _, -, task, cTask, claim, cClaim, repo,
    cRepo, worktree, cWorktree, head, cHead, cap, cCap, device, cDevice, refs, cRefs, _, -,
    hc⟩ := h
  cases hc
  have priorityEq : e.priority = priority := by
    have hread : requireMember priorities (.str e.priority) = .ok priority := cPriority
    exact Json.str.inj (requireMember_ok hread).1
  have refsEq : e.evidenceRefs = refs := by
    unfold validateEvidenceRefs at cRefs
    simp only [bind_eq_ok] at cRefs
    obtain ⟨_, -, found, hmap, _, -, hs⟩ := cRefs
    cases hs
    exact map_injective_iff.mpr (fun _ _ => Json.str.inj) (mapM_evidenceRef hmap).1
  have optEq {a b : Option PyStr} (hab : optValue a = optValue b) : a = b := by
    cases a <;> cases b <;> cases hab <;> rfl
  rw [← Json.str.inj (requireMember_ok cEventType).1, ← Json.str.inj (requireMember_ok cSurface).1,
    ← Json.str.inj (validateEventId_ok cEventId).1, ← Json.str.inj (requireText_ok cThread).1,
    ← Json.str.inj (requireText_ok cTurn).1, ← Json.str.inj (requireMatch_ok cCreated).1,
    ← priorityEq, ← refsEq,
    ← optEq (optionalField_ok (fun _ _ => requireMatch_ok) cTask).1,
    ← optEq (optionalField_ok (fun _ _ => requireMatch_ok) cClaim).1,
    ← optEq (optionalField_ok (fun _ _ => requireMatch_ok) cRepo).1,
    ← optEq (optionalField_ok (fun _ _ => requireText_ok) cWorktree).1,
    ← optEq (optionalField_ok (fun _ _ => requireMatch_ok) cHead).1,
    ← optEq (optionalField_ok (fun _ _ => requireMatch_ok) cCap).1,
    ← optEq (optionalField_ok (fun _ _ => requireText_ok) cDevice).1]

theorem chars_of_mem {allowed : List PyStr} (h : s ∈ allowed)
    (hall : allowed.all (fun t => t.all CodePoint.isChar) = true) :
    s.all CodePoint.isChar = true := all_eq_true.mp hall s h

theorem readable_optionalEntry {key : String} {o : Option PyStr}
    (h : ∀ s ∈ o, s.all CodePoint.isChar = true) :
    ReadableEntries numOk (optionalEntry key o) := by
  cases o with
  | none => trivial
  | some s => exact ⟨PyStr.all_isChar_lit key, h s rfl, trivial⟩

theorem readableEntries_append {a b : Payload} : ReadableEntries numOk (a ++ b) ↔
      ReadableEntries numOk a ∧ ReadableEntries numOk b := by
  rw [readableEntries_iff, readableEntries_iff, readableEntries_iff]
  exact forall_mem_append

/-- The mapping of a checked envelope can be printed and read back. -/
theorem readable_toMapping (h : e.Checked env) (numOk : Number PyStr → Prop) :
    Readable numOk (.obj e.toMapping) := by
  have hrefs : Readable numOk (.arr (e.evidenceRefs.map .str)) := by
    show ReadableItems numOk (e.evidenceRefs.map .str)
    rw [readableItems_iff]
    intro item hitem
    obtain ⟨r, hr, rfl⟩ := mem_map.mp hitem
    exact (validateEvidenceRefs_ok h.evidenceRefs).2 r hr
  have hpriority := (priorityOf_ok h.priority).2
  refine ⟨toMapping_nodup e, ?_⟩
  unfold RelayEnvelope.toMapping
  simp only [readableEntries_append]
  refine ⟨⟨⟨⟨⟨⟨⟨⟨PyStr.all_isChar_lit _, (validateEventId_ok h.eventId).2, PyStr.all_isChar_lit _,
    chars_of_mem (requireMember_ok h.eventType).2 (by decide +kernel), PyStr.all_isChar_lit _,
    chars_of_mem (requireMember_ok h.sourceSurface).2 (by decide +kernel), PyStr.all_isChar_lit _,
    (requireText_ok h.sourceThreadId).2, PyStr.all_isChar_lit _, (requireText_ok h.sourceTurnId).2,
    PyStr.all_isChar_lit _, chars_of_mem hpriority (by decide +kernel), PyStr.all_isChar_lit _,
    hrefs, PyStr.all_isChar_lit _, (requireMatch_ok h.createdAt).2, trivial⟩, ?_⟩, ?_⟩, ?_⟩, ?_⟩,
    ?_⟩, ?_⟩, ?_⟩
  · exact readable_optionalEntry (optionalField_ok (fun _ _ => requireMatch_ok) h.taskId).2
  · exact readable_optionalEntry (optionalField_ok (fun _ _ => requireMatch_ok) h.claimId).2
  · exact readable_optionalEntry (optionalField_ok (fun _ _ => requireMatch_ok) h.repo).2
  · exact readable_optionalEntry (optionalField_ok (fun _ _ => requireText_ok) h.worktree).2
  · exact readable_optionalEntry (optionalField_ok (fun _ _ => requireMatch_ok) h.headSha).2
  · exact readable_optionalEntry
      (optionalField_ok (fun _ _ => requireMatch_ok) h.requestedCapability).2
  · exact readable_optionalEntry (optionalField_ok (fun _ _ => requireText_ok) h.deviceContext).2

/-- None of the values of a mapping holds a key that could be sorted. -/
theorem sortKeysEntries_toMapping (e : RelayEnvelope) :
    sortKeysEntries e.toMapping = e.toMapping := by
  have hentry (key : String) (o : Option PyStr) :
      (optionalEntry key o).map (fun e => (e.1, sortKeys e.2)) = optionalEntry key o := by
    cases o with
    | none => rfl
    | some s => simp only [optionalEntry, map_cons, map_nil, sortKeys]
  have hrefs : sortKeysItems (e.evidenceRefs.map .str : List Value) =
      e.evidenceRefs.map .str := by
    rw [sortKeysItems_eq, map_map]
    apply map_congr_left
    intro r _
    show sortKeys (.str r) = .str r
    rw [sortKeys]
  rw [sortKeysEntries_eq]
  unfold RelayEnvelope.toMapping
  simp only [map_append, hentry, map_cons, map_nil, sortKeys, hrefs]

/-- The entries of a line. -/
def sortedMapping (e : RelayEnvelope) : Payload :=
  e.toMapping.insertionSort fun a b => PyStr.Le a.1 b.1

theorem sortedMapping_perm (e : RelayEnvelope) : (sortedMapping e).Perm e.toMapping :=
  perm_insertionSort _ _

theorem toJson_eq (e : RelayEnvelope) :
    e.toJson = dumps lineStyle numberText (.obj (sortedMapping e)) := by
  unfold RelayEnvelope.toJson
  rw [sortKeys, sortKeysEntries_toMapping]
  rfl

theorem readable_sortedMapping (h : e.Checked env) (numOk : Number PyStr → Prop) :
    Readable numOk (.obj (sortedMapping e)) := by
  have hsorted := (readable_toMapping h numOk).sortKeys
  rwa [sortKeys, sortKeysEntries_toMapping] at hsorted

theorem loadLine_toJson (h : e.Checked env) :
    loadLine env e.toJson = .ok (.obj (sortedMapping e)) := by
  unfold loadLine
  rw [toJson_eq]
  apply loads_dumps _ _ (keepsObjects_plainHooks _ _ _) (readable_sortedMapping h _)
  rw [dumps, List.head?_cons]
  exact (by decide : some (CodePoint.char '{') ≠ some (.char '\ufeff'))

theorem find?_sortedMapping (e : RelayEnvelope) (key : PyStr) :
    Json.find? key (sortedMapping e) = Json.find? key e.toMapping :=
  (find?_perm (sortedMapping_perm e).symm (toMapping_nodup e)).symm

theorem sortedMapping_known (e : RelayEnvelope) :
    ∀ key ∈ (sortedMapping e).map Prod.fst, key ∈ envelopeKeys := by
  intro key hkey
  exact toMapping_known e key (((sortedMapping_perm e).map Prod.fst).mem_iff.mp hkey)

/-- A checked envelope is read back from its line. -/
theorem envelopeFromJsonLine_toJson (h : e.Checked env) :
    envelopeFromJsonLine env e.toJson = .ok e := by
  unfold envelopeFromJsonLine
  rw [loadLine_toJson h]
  exact envelopeFromMapping_checked h (sortedMapping_known e) (find?_sortedMapping e)

theorem checked_of_jsonLine {line : PyStr} (h : envelopeFromJsonLine env line = .ok e) :
    e.Checked env := by
  unfold envelopeFromJsonLine at h
  split at h
  · cases h
  · cases h
  · exact checked_of_mapping h
  · cases h

theorem checked_iff : e.Checked env ↔ envelopeFromMapping env e.toMapping = .ok e := by
  constructor
  · intro h
    exact envelopeFromMapping_checked h (toMapping_known e) fun _ => rfl
  · exact checked_of_mapping

theorem toJson_injective {a b : RelayEnvelope} (ha : a.Checked env) (hb : b.Checked env)
    (h : a.toJson = b.toJson) : a = b := by
  have hread := envelopeFromJsonLine_toJson ha
  rw [h, envelopeFromJsonLine_toJson hb] at hread
  exact (Except.ok.inj hread).symm

/-- A line holds no control character and no surrogate. -/
theorem plain_toJson (h : e.Checked env) : ∀ c ∈ e.toJson, Plain c := by
  rw [toJson_eq]
  exact plain_dumps lineStyle (fun _ hn => hn.elim) _ (readable_sortedMapping h fun _ => False)

end AConductor.Relay

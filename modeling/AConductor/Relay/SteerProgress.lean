import AConductor.Relay.CodexBridge

namespace AConductor.Relay

open List Except

variable {e : RelayEnvelope} {events : List RelayEnvelope} {renv : RelayEnv}

theorem mem_dedupeFrom {seen : List PyStr} (h : e ∈ dedupeFrom seen events) :
    e ∈ events ∧ e.eventId ∉ seen := by
  induction events generalizing seen with
  | nil => cases h
  | cons d events ih =>
    unfold dedupeFrom at h
    split at h
    · obtain ⟨hmem, hseen⟩ := ih h
      exact ⟨mem_cons_of_mem _ hmem, hseen⟩
    · rename_i hd
      rcases mem_cons.mp h with rfl | h
      · exact ⟨mem_cons_self, hd⟩
      · obtain ⟨hmem, hseen⟩ := ih h
        exact ⟨mem_cons_of_mem _ hmem, fun he => hseen (mem_cons_of_mem _ he)⟩

theorem mem_of_dedupe (h : e ∈ dedupeEvents events) : e ∈ events := (mem_dedupeFrom h).1

/-- Events that are already once each are kept. -/
theorem dedupeFrom_dedupeFrom {seen before : List PyStr} (hbefore : before ⊆ seen)
    (events : List RelayEnvelope) :
    dedupeFrom before (dedupeFrom seen events) = dedupeFrom seen events := by
  induction events generalizing seen before with
  | nil => rfl
  | cons e events ih =>
    rw [dedupeFrom]
    by_cases he : e.eventId ∈ seen
    · rw [if_pos he]
      exact ih hbefore
    · rw [if_neg he, dedupeFrom, if_neg fun hmem => he (hbefore hmem)]
      rw [ih (cons_subset_cons _ hbefore)]

theorem dedupe_dedupe (events : List RelayEnvelope) :
    dedupeEvents (dedupeEvents events) = dedupeEvents events :=
  dedupeFrom_dedupeFrom (List.Subset.refl _) events

/-- A new event is kept behind the others. -/
theorem dedupeFrom_append {seen : List PyStr} (hseen : e.eventId ∉ seen)
    (hfresh : e.eventId ∉ events.map RelayEnvelope.eventId) :
    dedupeFrom seen (events ++ [e]) = dedupeFrom seen events ++ [e] := by
  induction events generalizing seen with
  | nil => simp [dedupeFrom, hseen]
  | cons d events ih =>
    rw [map_cons, mem_cons, not_or] at hfresh
    rw [cons_append, dedupeFrom, dedupeFrom]
    split
    · exact ih hseen hfresh.2
    · rw [ih (by simp [hseen, hfresh.1]) hfresh.2, cons_append]

theorem projectedEventIds_dedupe (events : List RelayEnvelope) :
    projectedEventIds (dedupeEvents events) = projectedEventIds events := by
  unfold projectedEventIds
  rw [dedupe_dedupe]

variable {env : BridgeEnv}

theorem requireCarrierCreatedAt_checked (h : e.Checked env.toRelayEnv) :
    requireCarrierCreatedAt env e = .ok () := by
  unfold requireCarrierCreatedAt
  rw [h.createdAt]
  rfl

theorem steerRequests_dedupe (events : List RelayEnvelope) :
    steerRequests (dedupeEvents events) = steerRequests events := by
  unfold steerRequests
  rw [dedupe_dedupe]

theorem mem_steerRequests (h : e ∈ steerRequests events) :
    e ∈ events ∧ e.eventType = steerRequestFamily := by
  obtain ⟨hmem, htype⟩ := mem_filter.mp h
  exact ⟨mem_of_dedupe hmem, of_decide_eq_true htype⟩

theorem mem_orderEvents : e ∈ orderEvents env events ↔ e ∈ events := by
  unfold orderEvents
  exact (perm_insertionSort _ _).mem_iff

theorem selectSteerCandidate_checked (h : ∀ e ∈ events, e.Checked env.toRelayEnv) :
    selectSteerCandidate env (dedupeEvents events) =
      .ok (orderEvents env (steerRequests events)).head? := by
  have hgate : (steerRequests events).forM (requireCarrierCreatedAt env) = .ok () :=
    forM_eq_ok.mpr fun e he =>
      requireCarrierCreatedAt_checked (h e (mem_steerRequests he).1)
  unfold selectSteerCandidate
  rw [steerRequests_dedupe, hgate]
  rfl

/-- The five binding values of a steer request that the carrier accepted. -/
theorem binding_of_checked (h : e.Checked renv) (htype : e.eventType = steerRequestFamily) :
    ∃ taskId claimId repo worktree headSha, e.taskId = some taskId ∧ e.claimId = some claimId ∧
      e.repo = some repo ∧ e.worktree = some worktree ∧ e.headSha = some headSha := by
  have hbinding := bindingPresent_iff.mp h.binding (by rw [htype]; decide +kernel)
  obtain ⟨-, -, -, -, -, -, -, -, hTask, hClaim, hRepo, hWorktree, hHead, -, -⟩ :=
    getKey_toMapping e
  rw [hTask, hClaim, hRepo, hWorktree, hHead] at hbinding
  have present {o : Option PyStr} (ho : optValue o ≠ .null) : ∃ s, o = some s := by
    cases o with
    | none => exact absurd rfl ho
    | some s => exact ⟨s, rfl⟩
  obtain ⟨taskId, htask⟩ := present hbinding.1
  obtain ⟨claimId, hclaim⟩ := present hbinding.2.1
  obtain ⟨repo, hrepo⟩ := present hbinding.2.2.1
  obtain ⟨worktree, hworktree⟩ := present hbinding.2.2.2.1
  obtain ⟨headSha, hhead⟩ := present hbinding.2.2.2.2
  exact ⟨taskId, claimId, repo, worktree, headSha, htask, hclaim, hrepo, hworktree, hhead⟩

/-- Facts that supply all five binding fields. -/
structure LiveBindingFacts.Complete (f : LiveBindingFacts) : Prop where
  repo : f.repo.isSome = true
  worktree : f.worktree.isSome = true
  headSha : f.headSha.isSome = true
  taskId : f.taskId.isSome = true
  claimId : f.claimId.isSome = true

/-- The binding of an event equals the facts. -/
def Bound (f : LiveBindingFacts) (e : RelayEnvelope) : Prop :=
  f.repo = e.repo ∧ f.worktree = e.worktree ∧ f.headSha = e.headSha ∧ f.taskId = e.taskId ∧
    f.claimId = e.claimId

instance (f : LiveBindingFacts) (e : RelayEnvelope) : Decidable (Bound f e) :=
  inferInstanceAs (Decidable (_ ∧ _ ∧ _ ∧ _ ∧ _))

theorem rebind_eq_ok {code : String} {live value : Option PyStr} (hlive : live.isSome = true)
    {u : Unit} : rebind code live value = .ok u ↔ live = value := by
  unfold rebind
  simp [hlive]

/-- With complete facts a candidate that has its binding is revalidated exactly if it is bound to
    them. -/
theorem revalidateCandidate_eq_ok (h : e.Checked env.toRelayEnv)
    (htype : e.eventType = steerRequestFamily) {f : LiveBindingFacts} (hf : f.Complete) :
    revalidateCandidate e (some f) = .ok () ↔ Bound f e := by
  obtain ⟨taskId, claimId, repo, worktree, headSha, htask, hclaim, hrepo, hworktree, hhead⟩ :=
    binding_of_checked h htype
  have hsupplied : f ≠ {} := by
    rintro rfl
    exact absurd hf.repo (by decide)
  unfold revalidateCandidate Bound
  simp only [bind_eq_ok, rejectIf_eq_ok, rebind_eq_ok hf.repo,
    rebind_eq_ok hf.worktree, rebind_eq_ok hf.headSha, rebind_eq_ok hf.taskId,
    rebind_eq_ok hf.claimId]
  constructor
  · rintro ⟨_, -, _, -, _, h1, _, h2, _, h3, _, h4, h5⟩
    exact ⟨h1, h2, h3, h4, h5⟩
  · rintro ⟨h1, h2, h3, h4, h5⟩
    exact ⟨(), hsupplied, (), by simp [htask, hclaim, hrepo, hworktree, hhead], (), h1, (), h2, (),
      h3, (), h4, h5⟩

/-- A text that the carrier accepts as a reference passes the check of the bridge. -/
theorem invalidEvidenceRef_accepted {ref : PyStr} {value : Value}
    (h : evidenceRef renv value = .ok ref) : invalidEvidenceRef renv ref = false := by
  unfold evidenceRef requireMatch at h
  obtain ⟨text, htext, h⟩ := bind_eq_ok.mp h
  obtain ⟨_, hurl, h⟩ := bind_eq_ok.mp h
  cases h
  cases value with
  | str t =>
    unfold requireText at htext
    obtain ⟨_, hshape, htext⟩ := bind_eq_ok.mp htext
    obtain ⟨_, hsafe, htext⟩ := bind_eq_ok.mp htext
    cases htext
    rw [rejectIf_eq_ok] at hshape hurl
    unfold invalidEvidenceRef
    simp only [not_or, not_lt, not_not] at hshape
    obtain ⟨hempty, hlength, hstrip⟩ := hshape
    simp only [Bool.not_eq_false', Bool.not_eq_true] at hurl
    rw [decide_eq_false hempty, hurl, decide_eq_false (not_lt.mpr hlength), hsafe,
      decide_eq_false (not_not.mpr hstrip)]
    rfl
  | null | bool _ | num _ | arr _ | obj _ => cases htext

theorem evidenceRef_of_mapM {items : List Value} {refs : List PyStr}
    (h : items.mapM (evidenceRef renv) = .ok refs) :
    ∀ item ∈ items, ∃ ref, evidenceRef renv item = .ok ref := by
  induction items generalizing refs with
  | nil => nofun
  | cons first items ih =>
    rw [mapM_cons] at h
    obtain ⟨ref, hfirst, h⟩ := bind_eq_ok.mp h
    obtain ⟨rest, hrest, -⟩ := bind_eq_ok.mp h
    intro item hitem
    rcases mem_cons.mp hitem with rfl | hitem
    · exact ⟨ref, hfirst⟩
    · exact ih hrest item hitem

theorem evidenceRefs_checked (h : e.Checked env.toRelayEnv) :
    e.evidenceRefs.any (invalidEvidenceRef env.toRelayEnv) = false ∧
      e.evidenceRefs.length ≤ maxEvidenceRefs ∧ e.evidenceRefs.Nodup := by
  have hrefs := h.evidenceRefs
  unfold validateEvidenceRefs at hrefs
  obtain ⟨_, hlength, hrefs⟩ := bind_eq_ok.mp hrefs
  obtain ⟨found, hfound, hrefs⟩ := bind_eq_ok.mp hrefs
  obtain ⟨_, hnodup, hrefs⟩ := bind_eq_ok.mp hrefs
  have hfound' := Except.ok.inj hrefs
  rw [rejectIf_eq_ok] at hlength hnodup
  rw [length_map, not_lt] at hlength
  rw [hfound', not_not] at hnodup
  refine ⟨?_, hlength, hnodup⟩
  rw [any_eq_false]
  intro ref hmem
  obtain ⟨text, htext⟩ := evidenceRef_of_mapM hfound (.str ref) (mem_map_of_mem hmem)
  have hsame := (requireMatch_ok htext).1
  cases hsame
  rw [invalidEvidenceRef_accepted htext]
  exact Bool.false_ne_true

theorem requireText_shape {maxLen : Nat} {s : PyStr}
    (h : requireText renv maxLen (.str s) = .ok s) :
    s ≠ [] ∧ s.length ≤ maxLen ∧ s = strip s ∧ checkSafeText renv s = .ok () := by
  unfold requireText at h
  obtain ⟨_, hshape, h⟩ := bind_eq_ok.mp h
  obtain ⟨_, hsafe, -⟩ := bind_eq_ok.mp h
  rw [rejectIf_eq_ok] at hshape
  simp only [not_or, not_lt, not_not] at hshape
  exact ⟨hshape.1, hshape.2.1, hshape.2.2, hsafe⟩

theorem checkSafeText_eq_ok {s : PyStr} : checkSafeText renv s = .ok () ↔
    s.any (unsafeCategory renv) = false ∧ contains "-----begin" (renv.lower s) = false ∧
      (secretTokens.any fun p => p.found s) = false := by
  unfold checkSafeText
  cases s.any (unsafeCategory renv) with
  | true => simp
  | false =>
    cases contains "-----begin" (renv.lower s) with
    | true => simp
    | false => cases secretTokens.any fun p => p.found s <;> simp

/-- The thread of an event serves as the hint. -/
theorem identifies_sourceThreadId (h : e.Checked env.toRelayEnv) :
    identifies env.toRelayEnv e.sourceThreadId = true := by
  obtain ⟨hne, hlength, -, hsafe⟩ := requireText_shape h.sourceThreadId
  unfold identifies
  rw [(checkSafeText_eq_ok.mp hsafe).1]
  simp [hne, hlength]

/-- The payload of an event. -/
def Carries (p : SteerProjection) (e : RelayEnvelope) : Prop :=
  p.originalEventId = e.eventId ∧ some p.taskId = e.taskId ∧ some p.claimId = e.claimId ∧
    p.evidenceRefs = e.evidenceRefs

theorem buildSteerProjection_checked (h : e.Checked env.toRelayEnv)
    (htype : e.eventType = steerRequestFamily) :
    (e.evidenceRefs ≠ [] ∧ ∃ p, buildSteerProjection env.toRelayEnv e = .ok p ∧ Carries p e) ∨
      (e.evidenceRefs = [] ∧ ∃ fault, buildSteerProjection env.toRelayEnv e = .error fault) := by
  obtain ⟨taskId, claimId, _, _, _, htask, hclaim, -⟩ := binding_of_checked h htype
  obtain ⟨hvalid, hlength, hnodup⟩ := evidenceRefs_checked h
  unfold buildSteerProjection
  rw [htask, hclaim]
  dsimp only
  by_cases hrefs : e.evidenceRefs = []
  · right
    rw [rejectIf_pos (.inl hrefs)]
    exact ⟨hrefs, _, rfl⟩
  · left
    rw [rejectIf_neg (by simp [hrefs, hvalid, not_lt.mpr hlength, hnodup])]
    exact ⟨hrefs, _, rfl, rfl, htask.symm, hclaim.symm, rfl⟩

/-- The gates that do not look at the candidate: the surface, the context, the quota, the hint, and
    whatever the transport observes. -/
structure GatesPass (env : BridgeEnv) (call : SteerCall) (transport : Transport) : Prop where
  surface : call.verified = .ok transport
  context : call.contextPressure = false
  quota : call.quotaLimited = false
  hint : ∀ hint, call.targetHint = some hint → identifies env.toRelayEnv hint = true
  observation : ∀ hint id, ∃ observed,
    classifyObservation env.toRelayEnv (transport.observe hint id) = .ok observed

/-- A request that is not acknowledged, is bound to the facts, and points to evidence. -/
def Eligible (events : List RelayEnvelope) (f : LiveBindingFacts) (e : RelayEnvelope) : Prop :=
  e.eventId ∉ projectedEventIds events ∧ Bound f e ∧ e.evidenceRefs ≠ []

instance (events : List RelayEnvelope) (f : LiveBindingFacts) (e : RelayEnvelope) :
    Decidable (Eligible events f e) := inferInstanceAs (Decidable (_ ∧ _ ∧ _))

section Calls

variable {events : List RelayEnvelope} {call : SteerCall} {transport : Transport}
  {f : LiveBindingFacts} {e : RelayEnvelope}

theorem gateCandidate_checked (events : List RelayEnvelope) (hpass : GatesPass env call transport)
    (hfacts : call.facts = some f) (hf : f.Complete) (h : e.Checked env.toRelayEnv)
    (htype : e.eventType = steerRequestFamily) :
    (Eligible events f e ∧ ∃ prepared,
      gateCandidate env.toRelayEnv events call e = .ok prepared ∧
        prepared.transport = transport ∧ Carries prepared.projection e) ∨
    (¬ Eligible events f e ∧ ∃ fault, gateCandidate env.toRelayEnv events call e = .error fault) := by
  have hhint : identifies env.toRelayEnv (call.targetHint.getD e.sourceThreadId) = true := by
    cases hhint : call.targetHint with
    | none => exact identifies_sourceThreadId h
    | some hint => exact hpass.hint hint hhint
  unfold gateCandidate Eligible
  by_cases hmem : e.eventId ∈ projectedEventIds events
  · rw [rejectIf_pos hmem]
    exact .inr ⟨fun hall => hall.1 hmem, _, rfl⟩
  rw [rejectIf_neg hmem, ok_bind, hfacts]
  by_cases hbound : Bound f e
  · rw [(revalidateCandidate_eq_ok h htype hf).mpr hbound, ok_bind,
      rejectIf_neg (by simp [hpass.context]), ok_bind,
      rejectIf_neg (by simp [hpass.quota]), ok_bind, hpass.surface, ok_bind]
    rcases buildSteerProjection_checked h htype with ⟨hrefs, p, hp, hcarries⟩ | ⟨hrefs, fault, hp⟩
    · rw [hp, ok_bind]
      dsimp only
      rw [rejectIf_neg (by simp [hhint])]
      exact .inl ⟨⟨hmem, hbound, hrefs⟩, _, rfl, rfl, hcarries⟩
    · rw [hp]
      exact .inr ⟨fun hall => hall.2.2 hrefs, fault, rfl⟩
  · cases hrevalidate : revalidateCandidate e (some f) with
    | ok _ => exact absurd ((revalidateCandidate_eq_ok h htype hf).mp hrevalidate) hbound
    | error fault => exact .inr ⟨fun hall => hbound hall.2.1, fault, rfl⟩

/-- A turn submits the first steer request, if that is eligible, and nothing otherwise. -/
theorem projectSteerCandidate_checked (hpass : GatesPass env call transport)
    (hfacts : call.facts = some f) (hf : f.Complete)
    (hevents : ∀ e ∈ events, e.Checked env.toRelayEnv) :
    (projectSteerCandidate env events call).submitted = none ∧
      (∀ e, (orderEvents env (steerRequests events)).head? = some e → ¬ Eligible events f e) ∨
    ∃ e p, (orderEvents env (steerRequests events)).head? = some e ∧ Eligible events f e ∧
      (projectSteerCandidate env events call).submitted = some p ∧ Carries p e := by
  unfold projectSteerCandidate
  rw [selectSteerCandidate_checked hevents]
  cases hhead : (orderEvents env (steerRequests events)).head? with
  | none => exact .inl ⟨rfl, nofun⟩
  | some e =>
    obtain ⟨hmem, htype⟩ := mem_steerRequests (mem_orderEvents.mp (mem_of_head? hhead))
    dsimp only
    have hsame : Eligible (dedupeEvents events) f e ↔ Eligible events f e := by
      unfold Eligible
      rw [projectedEventIds_dedupe]
    rcases gateCandidate_checked (dedupeEvents events) hpass hfacts hf (hevents e hmem)
      htype with ⟨heligible, prepared, hgate, htransport, hcarries⟩ | ⟨hnot, fault, hgate⟩
    · right
      obtain ⟨observed, hobserved⟩ :=
        hpass.observation prepared.hint prepared.projection.originalEventId
      rw [hgate]
      dsimp only [Prepared.submitOnce]
      rw [htransport, hobserved]
      exact ⟨e, prepared.projection, rfl, hsame.mp heligible, rfl, hcarries⟩
    · left
      rw [hgate]
      refine ⟨rfl, ?_⟩
      rintro _ ⟨⟩
      exact fun heligible => hnot (hsame.mpr heligible)

end Calls

end AConductor.Relay

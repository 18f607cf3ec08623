import AConductor.Provider.AdmissionCapacity

/-!
# Providers: what a call writes

A call either raises and changes nothing, replaces one profile, replaces one endpoint and
raises the generation of the providers that name it, stores one observation, or touches
admissions only. Both saves go through the same compare-and-swap on a generation.
-/

namespace AConductor.Provider

open Txn List Except Table Function Option

/-! ### Effects -/

/-- The compare-and-swap went through: nothing was stored and nothing expected, or the
    stored generation was expected and the next one is written. -/
def Claims (stored : Option (Option Int)) (expected : Option Int) (next : Int) : Prop :=
  (stored = none ∧ expected = none ∧ next = 1) ∨
    ∃ g, stored = some (some g) ∧ expected = some g ∧ next = g + 1

theorem nextGeneration_ok {current next : Int} (h : nextGeneration (some current) = .ok next) :
    next = current + 1 := by
  unfold nextGeneration at h
  obtain ⟨current', hcurrent', h⟩ := bind_eq_ok.mp h
  cases storedGeneration_ok hcurrent'
  split at h
  · cases h
  · cases h
    rfl

variable {expected : Option Int} {s : ProviderStore} {updates : List (String × Int × Int)}
  {endpoint : ProviderEndpointConfig}

theorem claimGeneration_ok {stored : Option (Option Int)} {claim : Option Int × Int}
    (h : claimGeneration stored expected = .ok claim) :
    claim.1 = expected ∧ Claims stored expected claim.2 := by
  unfold claimGeneration at h
  cases stored with
  | none =>
    dsimp only at h
    split at h
    · cases h
    · rename_i hnone
      cases h
      rw [not_isSome_iff_eq_none] at hnone
      exact ⟨hnone.symm, .inl ⟨rfl, hnone, rfl⟩⟩
  | some generation =>
    obtain ⟨current, hcurrent, h⟩ := bind_eq_ok.mp h
    split at h
    · cases h
    · split at h
      · cases h
      · rename_i hsame
        obtain ⟨next, hnext, h⟩ := bind_eq_ok.mp h
        cases h
        rw [not_not] at hsame
        refine ⟨hsame.symm, .inr ⟨current, ?_, hsame, ?_⟩⟩
        · rw [storedGeneration_ok hcurrent]
        · exact nextGeneration_ok hnext

/-- What a save of an endpoint makes of a provider: where it is `named` its generation
    rises, and its profile stays. -/
inductive Bumped (named : ProviderRow → Prop) : Option ProviderRow → Option ProviderRow → Prop where
  | absent : Bumped named none none
  | kept {row : ProviderRow} (h : ¬ named row) : Bumped named (some row) (some row)
  | raised {row : ProviderRow} {g g' : Int} (stored : row.generation = some g) (h : g < g') :
      Bumped named (some row) (some { row with generation := some g' })

/-- A saved profile replaces the row of its provider. -/
structure ProviderWrite (s : ProviderStore) (profile : ProviderConfiguration)
    (expected : Option Int) (next : Int) (s' : ProviderStore) : Prop where
  claim : Claims ((s.configuration? profile.providerId).map fun r => r.generation) expected next
  written : s'.configuration? = update s.configuration? profile.providerId
    (some { toProviderProfile := profile.toProviderProfile, generation := some next })
  endpoints : s'.endpoints = s.endpoints
  observations : s'.observations = s.observations

/-- A saved endpoint replaces its row and raises the generation of every provider that
    names it. -/
structure EndpointWrite (s : ProviderStore) (endpoint : ProviderEndpointConfig)
    (expected : Option Int) (next : Int) (s' : ProviderStore) : Prop where
  claim : Claims ((s.endpoint? endpoint.endpointRef).map fun r => r.generation) expected next
  written : s'.endpoint? = update s.endpoint? endpoint.endpointRef
    (some ⟨endpoint.endpointRef, endpoint.baseUrl, some next⟩)
  bumped : ∀ id, Bumped (fun row => row.endpointRef = endpoint.endpointRef) (s.configuration? id)
    (s'.configuration? id)
  observations : s'.observations = s.observations

/-- An observation is stored under the generation of its provider. -/
structure ObservationWrite (s : ProviderStore) (observation : ProviderObservation)
    (s' : ProviderStore) : Prop where
  current : ∃ row, s.configuration? observation.providerId = some row ∧
    row.generation = observation.configurationGeneration
  configurations : s'.configurations = s.configurations
  endpoints : s'.endpoints = s.endpoints
  observations : ∀ o ∈ s'.observations, o = observation ∨ o ∈ s.observations

/-! ### The operations -/

theorem configuration?_updateWhere {id : String} {current : Int} {f : ProviderRow → ProviderRow}
    (hid : ∀ r, r.providerId = id → (f r).providerId = id) (id' : String) :
    ProviderStore.configuration? { s with
        configurations := updateWhere
          (fun r => r.providerId = id && r.generation = some current) f s.configurations } id' =
      (s.configuration? id').map fun r =>
        if r.providerId = id ∧ r.generation = some current then f r else r := by
  unfold ProviderStore.configuration?
  rw [find?_updateWhere]
  · simp only [Bool.and_eq_true, decide_eq_true_eq]
  · intro r hr
    simp only [Bool.and_eq_true, decide_eq_true_eq] at hr
    rw [hid r hr.1, hr.1]

/-- A row that is appended is found where none was. -/
theorem find?_append_fresh {α : Type} {rows : List α} {key : α → String} {new : α}
    (hnew : rows.find? (fun r => key r = key new) = none) (k : String) :
    (rows ++ [new]).find? (fun r => key r = k) =
      update (fun k => rows.find? fun r => key r = k) (key new) (some new) k := by
  rw [List.find?_append]
  by_cases hk : k = key new
  · subst hk
    rw [update_self, hnew]
    simp
  · rw [update_of_ne hk]
    have hother : ¬ key new = k := fun h => hk h.symm
    simp [hother]

theorem saveProviderBody_write {profile : ProviderConfiguration}
    : wp (saveProviderBody profile expected)
      (fun next s' => ProviderWrite s profile expected next s') (fun _ _ => True) s := by
  unfold saveProviderBody
  simp only [wp_bind, wp_query]
  apply wp_assertNotInUse
  intro _
  apply wp_ofExcept_of_ok
  intro claim hclaim
  obtain ⟨hfirst, hclaims⟩ := claimGeneration_ok hclaim
  unfold writeProvider
  rw [hfirst]
  cases expected with
  | none =>
    simp only [insertProvider, wp_bind, wp_query, wp_require, wp_update, implies_true, and_true]
    intro hnew
    simp only [Bool.and_eq_true, isNone_iff_eq_none] at hnew
    refine ⟨hclaims, ?_, rfl, rfl⟩
    obtain ⟨-, -, hone⟩ | ⟨g, -, hg, -⟩ := hclaims
    · funext id
      rw [hone]
      have hfresh := hnew.1.1
      unfold ProviderStore.configuration? at hfresh ⊢
      let new : ProviderRow :=
        { toProviderProfile := profile.toProviderProfile, generation := some 1 }
      exact @find?_append_fresh _ s.configurations (fun r => r.providerId) new hfresh id
    · cases hg
  | some current =>
    simp only [updateProvider, wp_bind, wp_query, wp_require, wp_update, implies_true, and_true]
    intro _
    refine ⟨hclaims, ?_, rfl, rfl⟩
    obtain ⟨-, hg, -⟩ | ⟨g, hstored, hg, hnext⟩ := hclaims
    · cases hg
    · cases hg
      obtain ⟨row, hrow, hgen⟩ := map_eq_some_iff.mp hstored
      funext id
      rw [configuration?_updateWhere (by intro _ _; rfl)]
      by_cases hid : id = profile.providerId
      · subst hid
        rw [update_self, hrow, map_some,
          if_pos ⟨(ProviderStore.configuration?_some hrow).2, hgen⟩]
      · rw [update_of_ne hid]
        cases hother : s.configuration? id with
        | none => rfl
        | some other =>
          rw [map_some, if_neg]
          intro hmatch
          exact hid ((ProviderStore.configuration?_some hother).2.symm.trans hmatch.1)

/-- The row of an id is the one that a bump finds. -/
theorem bumpProviders_bumped (hk : Unique ProviderRow.idKey s.configurations)
    (hup : ∀ u ∈ updates, u.2.1 < u.2.2) :
    wp (bumpProviders updates)
      (fun _ s' => (∀ id, Bumped (fun row => row.providerId ∈ updates.map Prod.fst)
          (s.configuration? id) (s'.configuration? id)) ∧
        s'.endpoints = s.endpoints ∧ s'.observations = s.observations)
      (fun _ _ => True) s := by
  induction updates generalizing s with
  | nil =>
    refine ⟨?_, rfl, rfl⟩
    intro id
    cases s.configuration? id with
    | none => exact .absent
    | some row => exact .kept (by simp)
  | cons u updates ih =>
    obtain ⟨id₀, current, next⟩ := u
    have hlt : current < next := hup _ mem_cons_self
    unfold bumpProviders updateProvider
    simp only [wp_bind, wp_query, wp_require, wp_update, implies_true, and_true]
    intro hone
    refine wp_mono (ih ?_ fun u hu => hup u (mem_cons_of_mem _ hu)) ?_ (fun _ _ _ => trivial)
    · apply hk.updateWhere
      intro r _
      exact .inl rfl
    · rintro _ s' ⟨hbumped, hendpoints, hobservations⟩
      refine ⟨?_, hendpoints, hobservations⟩
      intro id
      have hrest := hbumped id
      rw [configuration?_updateWhere (by intro _ hr; exact hr)] at hrest
      cases hrow : s.configuration? id with
      | none =>
        rw [hrow, map_none] at hrest
        generalize s'.configuration? id = after at hrest ⊢
        cases hrest
        exact .absent
      | some row =>
        obtain ⟨hmem, hid⟩ := ProviderStore.configuration?_some hrow
        rw [hrow, map_some] at hrest
        by_cases hhit : row.providerId = id₀
        · -- the one row that the update found
          have hstored : row.generation = some current := by
            rw [decide_eq_true_eq] at hone
            obtain ⟨found, hfound⟩ := length_eq_one_iff.mp hone
            have hin : found ∈ s.configurations.filter fun r =>
                r.providerId = id₀ && r.generation = some current := by
              rw [hfound]
              exact mem_singleton_self _
            rw [mem_filter, Bool.and_eq_true, decide_eq_true_eq, decide_eq_true_eq] at hin
            rw [← hk.eq_of_key hin.1 hmem (congrArg some hin.2.1) (congrArg some hhit)]
            exact hin.2.2
          rw [if_pos ⟨hhit, hstored⟩] at hrest
          generalize s'.configuration? id = after at hrest ⊢
          cases hrest with
          | kept h => exact .raised hstored hlt
          | raised stored h =>
            cases stored
            exact .raised hstored (hlt.trans h)
        · rw [if_neg fun h => hhit h.1] at hrest
          generalize s'.configuration? id = after at hrest ⊢
          cases hrest with
          | kept h =>
            refine .kept ?_
            rw [map_cons, mem_cons, not_or]
            exact ⟨hhit, h⟩
          | raised stored h => exact .raised stored h

theorem Bumped.mono {P Q : ProviderRow → Prop} {before after : Option ProviderRow}
    (h : Bumped P before after) (himp : ∀ row, before = some row → Q row → P row) :
    Bumped Q before after := by
  cases h with
  | absent => exact .absent
  | kept hnot => exact .kept fun hq => hnot (himp _ rfl hq)
  | raised stored hlt => exact .raised stored hlt

/-- Every provider gets an update, and to a later generation. -/
theorem providerUpdates_covers {rows : List ProviderRow} (h : providerUpdates rows = .ok updates) :
    (∀ u ∈ updates, u.2.1 < u.2.2) ∧ ∀ r ∈ rows, r.providerId ∈ updates.map Prod.fst := by
  unfold providerUpdates at h
  induction rows generalizing updates with
  | nil =>
    cases h
    simp
  | cons row rows ih =>
    rw [mapM_cons] at h
    obtain ⟨first, hfirst, h⟩ := bind_eq_ok.mp h
    obtain ⟨rest, hrest, h⟩ := bind_eq_ok.mp h
    obtain ⟨current, -, hfirst⟩ := bind_eq_ok.mp hfirst
    obtain ⟨next, hnext, hfirst⟩ := bind_eq_ok.mp hfirst
    cases hfirst
    cases h
    obtain ⟨hlater, hcovered⟩ := ih hrest
    constructor
    · intro u hu
      rcases mem_cons.mp hu with rfl | hu
      · rw [nextGeneration_ok hnext]
        exact Int.lt_succ _
      · exact hlater u hu
    · intro r hr
      rw [map_cons]
      rcases mem_cons.mp hr with rfl | hr
      · exact mem_cons_self
      · exact mem_cons_of_mem _ (hcovered r hr)

theorem wp_writeEndpoint_written
    {next : Int}
    (hclaims : Claims ((s.endpoint? endpoint.endpointRef).map fun r => r.generation) expected
      next) :
    wp (writeEndpoint endpoint expected next)
      (fun _ s' => s'.endpoint? = update s.endpoint? endpoint.endpointRef
          (some ⟨endpoint.endpointRef, endpoint.baseUrl, some next⟩) ∧
        s'.configurations = s.configurations ∧ s'.observations = s.observations)
      (fun _ _ => True) s := by
  unfold writeEndpoint
  obtain ⟨hstored, rfl, rfl⟩ | ⟨g, hstored, rfl, rfl⟩ := hclaims
  · simp only [wp_bind, wp_query, wp_require, wp_update, implies_true, and_true]
    intro _
    funext ref
    have hfresh := map_eq_none_iff.mp hstored
    unfold ProviderStore.endpoint? at hfresh ⊢
    let new : EndpointRow := ⟨endpoint.endpointRef, endpoint.baseUrl, some 1⟩
    exact @find?_append_fresh _ s.endpoints (fun r => r.endpointRef) new hfresh ref
  · simp only [wp_bind, wp_query, wp_require, wp_update, implies_true, and_true]
    intro _
    obtain ⟨row, hrow, hgen⟩ := map_eq_some_iff.mp hstored
    have named : ∀ ref row, s.endpoint? ref = some row → row.endpointRef = ref := by
      intro ref row h
      simpa using List.find?_some h
    funext ref
    show (updateWhere _ _ s.endpoints).find? _ = _
    rw [find?_updateWhere (by intro r _; rfl)]
    show (s.endpoint? ref).map _ = _
    by_cases href : ref = endpoint.endpointRef
    · subst href
      rw [update_self, hrow, map_some, if_pos (by simp [named _ _ hrow, hgen]),
        named _ _ hrow]
    · rw [update_of_ne href]
      cases hother : s.endpoint? ref with
      | none => rfl
      | some other =>
        rw [map_some, if_neg]
        rw [Bool.and_eq_true, decide_eq_true_eq]
        intro hmatch
        exact href ((named _ _ hother).symm.trans hmatch.1)

theorem saveEndpointBody_write
    (hk : Unique ProviderRow.idKey s.configurations) : wp (saveEndpointBody endpoint expected)
      (fun next s' => EndpointWrite s endpoint expected next s') (fun _ _ => True) s := by
  unfold saveEndpointBody
  simp only [wp_bind, wp_query]
  apply wp_ofExcept_of_ok
  intro claim hclaim
  obtain ⟨hfirst, hclaims⟩ := claimGeneration_ok hclaim
  apply wp_assertNotInUse
  intro _
  apply wp_ofExcept_of_ok
  intro updates hupdates
  obtain ⟨hlater, hcovered⟩ := providerUpdates_covers hupdates
  rw [hfirst]
  refine wp_mono (wp_writeEndpoint_written hclaims) ?_ (fun _ _ _ => trivial)
  rintro _ s₁ ⟨hwritten, hconfigurations, hobservations⟩
  refine wp_mono (bumpProviders_bumped (hconfigurations ▸ hk) hlater) ?_ (fun _ _ _ => trivial)
  rintro _ s' ⟨hbumped, hendpoints, hobservations'⟩
  refine ⟨hclaims, ?_, ?_, hobservations'.trans hobservations⟩
  · rw [← hwritten]
    unfold ProviderStore.endpoint?
    rw [hendpoints]
  · intro id
    have hsame : s₁.configuration? id = s.configuration? id := by
      unfold ProviderStore.configuration?
      rw [hconfigurations]
    rw [← hsame]
    apply (hbumped id).mono
    intro row hrow href
    rw [hsame] at hrow
    apply hcovered
    rw [mem_filter]
    exact ⟨(ProviderStore.configuration?_some hrow).1, by simpa using href⟩

theorem saveObservationBody_write {observation : ProviderObservation} :
    wp (saveObservationBody observation) (fun _ s' => ObservationWrite s observation s')
      (fun _ _ => True) s := by
  unfold saveObservationBody
  rw [wp_bind, wp_query]
  cases hrow : s.configuration? observation.providerId with
  | none => trivial
  | some row =>
    simp only [wp_bind]
    apply wp_ofExcept_of_ok
    intro current hcurrent
    simp only [wp_require, wp_query, wp_update, implies_true, and_true, decide_eq_true_eq]
    intro hgen
    refine ⟨⟨row, hrow, ?_⟩, rfl, rfl, ?_⟩
    · rw [storedGeneration_ok hcurrent, hgen]
    · intro o ho
      dsimp only at ho
      split at ho
      · obtain ⟨old, hold, rfl⟩ := mem_updateWhere.mp ho
        split
        · exact .inl rfl
        · exact .inr hold
      · rcases mem_append.mp ho with ho | ho
        · exact .inr ho
        · exact .inl (mem_singleton.mp ho)

theorem validatedExpectedGeneration_ok {value expected : Option Int}
    (h : validatedExpectedGeneration value = .ok expected) : expected = value := by
  unfold validatedExpectedGeneration at h
  split at h
  · cases h
    rfl
  · cases h

theorem saveProvider_cases (profile : ProviderConfiguration) (expected : Option Int)
    (s : ProviderStore) :
    (∃ next s', saveProvider profile expected s = (.ok next, s') ∧
      ProviderWrite s profile expected next s') ∨
    ∃ e, saveProvider profile expected s = (.error e, s) := by
  unfold saveProvider
  split
  · exact .inr ⟨_, rfl⟩
  · rename_i expected' hvalid
    rw [← validatedExpectedGeneration_ok hvalid]
    exact nameIntegrity_spec saveProviderBody_write

theorem saveEndpoint_cases (endpoint : ProviderEndpointConfig) (expected : Option Int)
    (hk : Unique ProviderRow.idKey s.configurations) :
    (∃ next s', saveEndpoint endpoint expected s = (.ok next, s') ∧
      EndpointWrite s endpoint expected next s') ∨
    ∃ e, saveEndpoint endpoint expected s = (.error e, s) := by
  unfold saveEndpoint
  split
  · exact .inr ⟨_, rfl⟩
  · rename_i expected' hvalid
    rw [← validatedExpectedGeneration_ok hvalid]
    exact nameIntegrity_spec (saveEndpointBody_write hk)

theorem saveObservation_cases (observation : ProviderObservation) (s : ProviderStore) :
    (∃ s', saveObservation observation s = (.ok (), s') ∧ ObservationWrite s observation s') ∨
    ∃ e, saveObservation observation s = (.error e, s) := by
  unfold saveObservation
  split
  · exact .inr ⟨_, rfl⟩
  · rcases nameIntegrity_spec saveObservationBody_write with ⟨_, s', hx, hw⟩ | ⟨e, hx⟩
    · exact .inl ⟨s', hx, hw⟩
    · exact .inr ⟨e, hx⟩

/-! ### One call -/

/-- What a call answers and leaves. -/
inductive ConfigWrite (s : ProviderStore) :
    ProviderCall → Except ProviderFault ProviderAnswer → ProviderStore → Prop where
  | raised {call : ProviderCall} {e : ProviderFault} : ConfigWrite s call (.error e) s
  | provider {profile : ProviderConfiguration} {expected : Option Int} {next : Int}
      {s' : ProviderStore} (h : ProviderWrite s profile expected next s') :
      ConfigWrite s (.saveProvider profile expected) (.ok (.generation next)) s'
  | endpoint {endpoint : ProviderEndpointConfig} {expected : Option Int} {next : Int}
      {s' : ProviderStore} (h : EndpointWrite s endpoint expected next s') :
      ConfigWrite s (.saveEndpoint endpoint expected) (.ok (.generation next)) s'
  | observation {observation : ProviderObservation} {s' : ProviderStore}
      (h : ObservationWrite s observation s') :
      ConfigWrite s (.saveObservation observation) (.ok .saved) s'
  | acquired {args : AcquireArgs} {result : ProviderAdmissionResult}
      {admissions : List ProviderAdmissionRecord} :
      ConfigWrite s (.acquireAdmission args) (.ok (.admission result)) { s with admissions }
  | released {args : ReleaseArgs} {record : ProviderAdmissionRecord}
      {admissions : List ProviderAdmissionRecord} :
      ConfigWrite s (.releaseAdmission args) (.ok (.released record)) { s with admissions }

theorem providerStep_write (hk : Unique ProviderRow.idKey s.configurations)
    (call : ProviderCall) : ConfigWrite s call (providerStep s call).1 (providerStep s call).2 := by
  cases call with
  | saveEndpoint endpoint expected =>
    simp only [providerStep, answer]
    rcases saveEndpoint_cases endpoint expected hk with ⟨next, s', hx, hw⟩ | ⟨e, hx⟩
    · rw [hx]
      exact .endpoint hw
    · rw [hx]
      exact .raised
  | saveProvider profile expected =>
    simp only [providerStep, answer]
    rcases saveProvider_cases profile expected s with ⟨next, s', hx, hw⟩ | ⟨e, hx⟩
    · rw [hx]
      exact .provider hw
    · rw [hx]
      exact .raised
  | saveObservation observation =>
    simp only [providerStep, answer]
    rcases saveObservation_cases observation s with ⟨s', hx, hw⟩ | ⟨e, hx⟩
    · rw [hx]
      exact .observation hw
    · rw [hx]
      exact .raised
  | acquireAdmission args =>
    simp only [providerStep, answer, acquireAdmission]
    split
    · exact .raised
    · rcases nameIntegrity_spec acquireBody_spec with ⟨r, s', hx, hw⟩ | ⟨e, hx⟩
      · rw [hx]
        rcases hw with ⟨-, rfl⟩ | ⟨-, record, -, rfl⟩
        · exact @ConfigWrite.acquired s' args r s'.admissions
        · exact .acquired
      · rw [hx]
        exact .raised
  | releaseAdmission args =>
    simp only [providerStep, answer, releaseAdmission]
    split
    · exact .raised
    · rcases nameIntegrity_spec releaseBody_spec with ⟨r, s', hx, rfl⟩ | ⟨e, hx⟩
      · rw [hx]
        exact .released
      · rw [hx]
        exact .raised

end AConductor.Provider

import AConductor.Lib.Registers
import AConductor.Provider.Spec

namespace AConductor.Provider

open Function Option

/-- The profile of a provider and its endpoint, under the generation of the provider. -/
def ProviderStore.effective (s : ProviderStore) :
    Registers String Int (ProviderProfile × Option EndpointRow) := fun providerId =>
  (s.configuration? providerId).bind fun row => row.generation.map fun g =>
    (g, row.toProviderProfile, s.endpoint? row.endpointRef)

/-- The URL of an endpoint, under the generation of the endpoint. -/
def ProviderStore.endpointUrl (s : ProviderStore) : Registers String Int String :=
  fun endpointRef =>
    (s.endpoint? endpointRef).bind fun row => row.generation.map fun g => (g, row.baseUrl)

variable {s s' : ProviderStore} {expected : Option Int} {next : Int}
  {profile : ProviderConfiguration} {endpoint : ProviderEndpointConfig}
  {answer : Except ProviderFault ProviderAnswer}

theorem generation_eq_some {Row V : Type} {found : Option Row} {generation : Row → Option Int}
    {value : Row → V} {g : Int} {v : V} :
    (found.bind fun row => (generation row).map fun g => (g, value row)) = some (g, v) ↔
      ∃ row, found = some row ∧ generation row = some g ∧ v = value row := by
  constructor
  · intro h
    obtain ⟨row, hrow, h⟩ := bind_eq_some_iff.mp h
    obtain ⟨g', hg, h⟩ := map_eq_some_iff.mp h
    cases h
    exact ⟨row, hrow, hg, rfl⟩
  · rintro ⟨row, rfl, hg, rfl⟩
    rw [bind_some, hg, map_some]

theorem effective_eq_some {providerId : String} {g : Int}
    {v : ProviderProfile × Option EndpointRow} :
    s.effective providerId = some (g, v) ↔ ∃ row, s.configuration? providerId = some row ∧
      row.generation = some g ∧ v = (row.toProviderProfile, s.endpoint? row.endpointRef) :=
  generation_eq_some

theorem endpointUrl_eq_some {endpointRef : String} {g : Int} {url : String} :
    s.endpointUrl endpointRef = some (g, url) ↔ ∃ row, s.endpoint? endpointRef = some row ∧
      row.generation = some g ∧ url = row.baseUrl := generation_eq_some

theorem effective_congr (hconf : s'.configurations = s.configurations)
    (hend : s'.endpoints = s.endpoints) : s'.effective = s.effective := by
  unfold ProviderStore.effective ProviderStore.configuration? ProviderStore.endpoint?
  rw [hconf, hend]

theorem endpointUrl_congr (hend : s'.endpoints = s.endpoints) : s'.endpointUrl = s.endpointUrl := by
  unfold ProviderStore.endpointUrl ProviderStore.endpoint?
  rw [hend]

theorem Claims.lt {stored : Option (Option Int)} {next g : Int} (h : Claims stored expected next)
    (hg : stored = some (some g)) : g < next := by
  obtain ⟨hnone, -, -⟩ | ⟨g', hstored, -, rfl⟩ := h
  · rw [hnone] at hg
    cases hg
  · rw [hstored] at hg
    cases hg
    omega

theorem ProviderWrite.effective (h : ProviderWrite s profile expected next s') :
    s'.effective = update s.effective profile.providerId
      (some (next, profile.toProviderProfile, s.endpoint? profile.endpointRef)) := by
  have hend : s'.endpoint? = s.endpoint? := by
    unfold ProviderStore.endpoint?
    rw [h.endpoints]
  funext id
  unfold ProviderStore.effective
  rw [h.written, hend]
  by_cases hid : id = profile.providerId
  · subst hid
    rw [update_self, update_self]
    rfl
  · rw [update_of_ne hid, update_of_ne hid]

theorem ProviderWrite.advances (h : ProviderWrite s profile expected next s') :
    Registers.Advances s.effective s'.effective := by
  rw [h.effective]
  apply Registers.advances_update
  intro g v hg
  obtain ⟨row, hrow, hgen, -⟩ := effective_eq_some.mp hg
  exact h.claim.lt (by rw [hrow, map_some, hgen])

theorem EndpointWrite.endpointUrl (h : EndpointWrite s endpoint expected next s') :
    s'.endpointUrl = update s.endpointUrl endpoint.endpointRef
      (some (next, endpoint.baseUrl)) := by
  funext ref
  unfold ProviderStore.endpointUrl
  rw [h.written]
  by_cases href : ref = endpoint.endpointRef
  · subst href
    rw [update_self, update_self]
    rfl
  · rw [update_of_ne href, update_of_ne href]

/-- A provider that names the endpoint moves to a later generation; the effective
    configuration of the others stays. -/
theorem EndpointWrite.advances (h : EndpointWrite s endpoint expected next s') :
    Registers.Advances s.effective s'.effective := by
  intro id g v hg
  obtain ⟨row, hrow, hgen, rfl⟩ := effective_eq_some.mp hg
  have hbumped := h.bumped id
  rw [hrow] at hbumped
  cases hafter : s'.configuration? id with
  | none =>
    rw [hafter] at hbumped
    cases hbumped
  | some row' =>
    rw [hafter] at hbumped
    cases hbumped with
    | kept hother =>
      have hsame : s'.endpoint? row.endpointRef = s.endpoint? row.endpointRef := by
        rw [h.written, update_of_ne hother]
      exact ⟨g, _, effective_eq_some.mpr ⟨row, hafter, hgen, rfl⟩, .inl ⟨rfl, by rw [hsame]⟩⟩
    | @raised _ g₀ g' stored hlt =>
      rw [hgen] at stored
      cases stored
      exact ⟨g', _, effective_eq_some.mpr ⟨_, hafter, rfl, rfl⟩, .inr hlt⟩

theorem ConfigWrite.advances {call : ProviderCall} (h : ConfigWrite s call answer s') :
    Registers.Advances s.effective s'.effective ∧
      Registers.Advances s.endpointUrl s'.endpointUrl := by
  cases h with
  | raised => exact ⟨Registers.advances_refl _, Registers.advances_refl _⟩
  | provider h =>
    exact ⟨h.advances, Registers.advances_of_eq (endpointUrl_congr h.endpoints).symm⟩
  | endpoint h =>
    refine ⟨h.advances, ?_⟩
    rw [h.endpointUrl]
    apply Registers.advances_update
    intro g url hg
    obtain ⟨row, hrow, hgen, -⟩ := endpointUrl_eq_some.mp hg
    exact h.claim.lt (by rw [hrow, map_some, hgen])
  | observation h =>
    exact ⟨Registers.advances_of_eq (effective_congr h.configurations h.endpoints).symm,
      Registers.advances_of_eq (endpointUrl_congr h.endpoints).symm⟩
  | acquired => exact ⟨Registers.advances_refl _, Registers.advances_refl _⟩
  | released => exact ⟨Registers.advances_refl _, Registers.advances_refl _⟩

/-- Every row is labelled, and no observation is ahead of its provider. -/
structure Labelled (s : ProviderStore) : Prop where
  providers : ∀ id row, s.configuration? id = some row → ∃ g, row.generation = some g
  endpoints : ∀ ref row, s.endpoint? ref = some row → ∃ g, row.generation = some g
  observations : ∀ o ∈ s.observations, ∃ g g' v, o.configurationGeneration = some g ∧
    s.effective o.providerId = some (g', v) ∧ g ≤ g'

theorem labelled_empty : Labelled .empty := by
  refine ⟨?_, ?_, ?_⟩
  · intro id row h
    cases h
  · intro ref row h
    cases h
  · intro o ho
    cases ho

/-- An observation stays behind a provider that advances. -/
theorem Labelled.observations_advance (h : Labelled s)
    {effective : Registers String Int (ProviderProfile × Option EndpointRow)}
    (hadv : Registers.Advances s.effective effective) {o : ProviderObservation}
    (ho : o ∈ s.observations) :
    ∃ g g' v, o.configurationGeneration = some g ∧ effective o.providerId = some (g', v) ∧
      g ≤ g' := by
  obtain ⟨g, g', v, hg, heff, hle⟩ := h.observations o ho
  obtain ⟨g'', v', heff', hstep⟩ := hadv o.providerId g' v heff
  refine ⟨g, g'', v', hg, heff', ?_⟩
  rcases hstep with ⟨rfl, -⟩ | hlt
  · exact hle
  · omega

theorem ConfigWrite.labelled {call : ProviderCall} (hw : ConfigWrite s call answer s')
    (h : Labelled s) : Labelled s' := by
  have hadv := hw.advances.1
  cases hw with
  | raised => exact h
  | provider hw =>
    refine ⟨?_, ?_, ?_⟩
    · intro id row hrow
      rw [hw.written, update_apply] at hrow
      split at hrow
      · cases hrow
        exact ⟨_, rfl⟩
      · exact h.providers id row hrow
    · unfold ProviderStore.endpoint?
      rw [hw.endpoints]
      exact h.endpoints
    · rw [hw.observations]
      exact fun o ho => h.observations_advance hadv ho
  | endpoint hw =>
    refine ⟨?_, ?_, ?_⟩
    · intro id row' hrow'
      have hbumped := hw.bumped id
      rw [hrow'] at hbumped
      generalize hbefore : s.configuration? id = before at hbumped
      cases hbumped with
      | kept _ => exact h.providers id row' hbefore
      | raised stored hlt => exact ⟨_, rfl⟩
    · intro ref row hrow
      rw [hw.written, update_apply] at hrow
      split at hrow
      · cases hrow
        exact ⟨_, rfl⟩
      · exact h.endpoints ref row hrow
    · rw [hw.observations]
      exact fun o ho => h.observations_advance hadv ho
  | observation hw =>
    refine ⟨?_, ?_, ?_⟩
    · unfold ProviderStore.configuration?
      rw [hw.configurations]
      exact h.providers
    · unfold ProviderStore.endpoint?
      rw [hw.endpoints]
      exact h.endpoints
    · intro o ho
      rcases hw.observations o ho with rfl | hold
      · obtain ⟨row, hrow, hgen⟩ := hw.current
        obtain ⟨g, hg⟩ := h.providers _ row hrow
        refine ⟨g, g, (row.toProviderProfile, s.endpoint? row.endpointRef), hgen ▸ hg, ?_,
          le_refl g⟩
        rw [effective_congr hw.configurations hw.endpoints]
        exact effective_eq_some.mpr ⟨row, hrow, hg, rfl⟩
      · exact h.observations_advance hadv hold
  | acquired => exact ⟨h.providers, h.endpoints, h.observations⟩
  | released => exact ⟨h.providers, h.endpoints, h.observations⟩

/-- One call keeps the rows labelled and advances both registers. -/
theorem providerStep_labelled (s : ProviderStore) (call : ProviderCall)
    (h : ProviderSound s ∧ Labelled s) :
    (ProviderSound (providerStep s call).2 ∧ Labelled (providerStep s call).2) ∧
      Registers.Advances s.effective (providerStep s call).2.effective ∧
      Registers.Advances s.endpointUrl (providerStep s call).2.endpointUrl := by
  have hw := providerStep_write h.1.providers call
  exact ⟨⟨providerStep_sound h.1 call, hw.labelled h.2⟩, hw.advances⟩

/-- The store after some calls. -/
def providersAfter (calls : List ProviderCall) : ProviderStore :=
  (Machine.run providerStep ProviderStore.empty calls).2

theorem providersAfter_labelled (calls : List ProviderCall) :
    ProviderSound (providersAfter calls) ∧ Labelled (providersAfter calls) :=
  Machine.Reachable.induction (P := fun s => ProviderSound s ∧ Labelled s) ⟨calls, rfl⟩
    ⟨providerSound_empty, labelled_empty⟩ fun s call h => (providerStep_labelled s call h).1

theorem providersAfter_advances (calls more : List ProviderCall) :
    Registers.Advances (providersAfter calls).effective (providersAfter (calls ++ more)).effective ∧
      Registers.Advances (providersAfter calls).endpointUrl
        (providersAfter (calls ++ more)).endpointUrl := by
  refine Machine.run_later (P := fun s => ProviderSound s ∧ Labelled s)
    (R := fun a b => Registers.Advances a.effective b.effective ∧
      Registers.Advances a.endpointUrl b.endpointUrl)
    ⟨providerSound_empty, labelled_empty⟩ providerStep_labelled ?_ ?_ calls more
  · exact fun s => ⟨Registers.advances_refl _, Registers.advances_refl _⟩
  · exact fun a b c hab hbc => ⟨hab.1.trans hbc.1, hab.2.trans hbc.2⟩

/-- A write that went through expected what was there: nothing, or its generation. -/
theorem saved_expected (hk : Table.Unique ProviderRow.idKey s.configurations)
    {answer : ProviderAnswer} :
    (∀ profile, (providerStep s (.saveProvider profile expected)).1 = .ok answer →
      (s.effective profile.providerId).map Prod.fst = expected) ∧
    ∀ endpoint, (providerStep s (.saveEndpoint endpoint expected)).1 = .ok answer →
      (s.endpointUrl endpoint.endpointRef).map Prod.fst = expected := by
  constructor
  · intro profile hok
    have hw := providerStep_write hk (.saveProvider profile expected)
    rw [hok] at hw
    cases hw with
    | provider h =>
      obtain ⟨hstored, rfl, -⟩ | ⟨g, hstored, rfl, -⟩ := h.claim
      · rw [map_eq_none_iff] at hstored
        simp [ProviderStore.effective, hstored]
      · obtain ⟨row, hrow, hgen⟩ := map_eq_some_iff.mp hstored
        simp [ProviderStore.effective, hrow, hgen]
  · intro endpoint hok
    have hw := providerStep_write hk (.saveEndpoint endpoint expected)
    rw [hok] at hw
    cases hw with
    | endpoint h =>
      obtain ⟨hstored, rfl, -⟩ | ⟨g, hstored, rfl, -⟩ := h.claim
      · rw [map_eq_none_iff] at hstored
        simp [ProviderStore.endpointUrl, hstored]
      · obtain ⟨row, hrow, hgen⟩ := map_eq_some_iff.mp hstored
        simp [ProviderStore.endpointUrl, hrow, hgen]

/-- Over every run of the store, in any interleaving of writers:

    * a provider has a generation and keeps its row, and a call that changes its profile or
      its endpoint raises that generation;
    * between any two states of the run, one generation of a provider stands for one profile
      and endpoint;
    * a save of a profile or an endpoint that succeeds found nothing and expected nothing, or
      it found the generation that it expected, and then what it replaces is what was there in
      every earlier state with that generation;
    * a call that raises leaves all rows as they were;
    * a stored observation carries at most the current generation of its provider. -/
theorem provider_generation_labels (calls : List ProviderCall) :
    let s := providersAfter calls
    (∀ id row, s.configuration? id = some row →
      ∃ g, s.effective id = some (g, row.toProviderProfile, s.endpoint? row.endpointRef)) ∧
    (∀ call id g v, s.effective id = some (g, v) →
      ∃ g' v', (providerStep s call).2.effective id = some (g', v') ∧ (v' ≠ v → g < g')) ∧
    (∀ more id g v v', s.effective id = some (g, v) →
      (providersAfter (calls ++ more)).effective id = some (g, v') → v' = v) ∧
    (∀ more profile expected answer,
      let now := providersAfter (calls ++ more)
      (providerStep now (.saveProvider profile expected)).1 = .ok answer →
      (now.effective profile.providerId).map Prod.fst = expected ∧
      ∀ g v, expected = some g → s.effective profile.providerId = some (g, v) →
        now.effective profile.providerId = some (g, v)) ∧
    (∀ more endpoint expected answer,
      let now := providersAfter (calls ++ more)
      (providerStep now (.saveEndpoint endpoint expected)).1 = .ok answer →
      (now.endpointUrl endpoint.endpointRef).map Prod.fst = expected ∧
      ∀ g url, expected = some g → s.endpointUrl endpoint.endpointRef = some (g, url) →
        now.endpointUrl endpoint.endpointRef = some (g, url)) ∧
    (∀ call e, (providerStep s call).1 = .error e → (providerStep s call).2 = s) ∧
    ∀ o ∈ s.observations, ∃ g g' v, o.configurationGeneration = some g ∧
      s.effective o.providerId = some (g', v) ∧ g ≤ g' := by
  intro s
  obtain ⟨hsound, hlabelled⟩ : ProviderSound s ∧ Labelled s := providersAfter_labelled calls
  refine ⟨?_, ?_, ?_, ?_, ?_, ?_, hlabelled.observations⟩
  · intro id row hrow
    obtain ⟨g, hg⟩ := hlabelled.providers id row hrow
    exact ⟨g, effective_eq_some.mpr ⟨row, hrow, hg, rfl⟩⟩
  · intro call id g v hg
    have hadv := (providerStep_labelled s call ⟨hsound, hlabelled⟩).2.1
    obtain ⟨g', v', hg', -⟩ := hadv id g v hg
    exact ⟨g', v', hg', hadv.lt_of_ne hg hg'⟩
  · intro more id g v v' hg hg'
    exact (providersAfter_advances calls more).1.value_eq hg hg'
  · intro more profile expected answer now hok
    have hsound' := (providersAfter_labelled (calls ++ more)).1
    have hexpected := (saved_expected hsound'.providers).1 profile hok
    refine ⟨hexpected, ?_⟩
    intro g v hg hread
    exact (providersAfter_advances calls more).1.current hread (hexpected.trans hg)
  · intro more endpoint expected answer now hok
    have hsound' := (providersAfter_labelled (calls ++ more)).1
    have hexpected := (saved_expected hsound'.providers).2 endpoint hok
    refine ⟨hexpected, ?_⟩
    intro g url hg hread
    exact (providersAfter_advances calls more).2.current hread (hexpected.trans hg)
  · intro call e he
    have hw := providerStep_write hsound.providers call
    rw [he] at hw
    generalize (providerStep s call).2 = s' at hw ⊢
    cases hw
    rfl

end AConductor.Provider

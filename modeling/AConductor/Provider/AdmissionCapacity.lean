import AConductor.Lib.Machine
import AConductor.Provider.Store

namespace AConductor.Provider

open Txn List Except Table

/-- The calls that write. -/
inductive ProviderCall where
  | saveEndpoint (endpoint : ProviderEndpointConfig) (expectedGeneration : Option Int)
  | saveProvider (profile : ProviderConfiguration) (expectedGeneration : Option Int)
  | saveObservation (observation : ProviderObservation)
  | acquireAdmission (args : AcquireArgs)
  | releaseAdmission (args : ReleaseArgs)

inductive ProviderAnswer where
  | generation (value : Int)
  | saved
  | admission (result : ProviderAdmissionResult)
  | released (record : ProviderAdmissionRecord)
  deriving DecidableEq, Repr

def answer {α : Type} (tag : α → ProviderAnswer) (out : Except ProviderFault α × ProviderStore) :
    Except ProviderFault ProviderAnswer × ProviderStore := (out.1.map tag, out.2)

def providerStep (s : ProviderStore) :
    ProviderCall → Except ProviderFault ProviderAnswer × ProviderStore
  | .saveEndpoint endpoint expected => answer .generation (saveEndpoint endpoint expected s)
  | .saveProvider profile expected => answer .generation (saveProvider profile expected s)
  | .saveObservation observation => answer (fun _ => .saved) (saveObservation observation s)
  | .acquireAdmission args => answer .admission (acquireAdmission args s)
  | .releaseAdmission args => answer .released (releaseAdmission args s)

/-- `provider_id TEXT PRIMARY KEY`. -/
def ProviderRow.idKey (r : ProviderRow) : Option String := some r.providerId

structure ProviderSound (s : ProviderStore) : Prop where
  providers : Unique ProviderRow.idKey s.configurations
  executions : Unique ProviderAdmissionRecord.executionKey s.admissions
  configured : ∀ a ∈ s.admissions, ∃ row ∈ s.configurations, row.providerId = a.providerId
  capacity : ∀ row ∈ s.configurations,
    ((s.outstanding row.providerId).length : Int) ≤ row.maxConcurrency
  generation : ∀ a ∈ s.admissions, a.outstanding = true → a.configurationGeneration = none ∨
    ∃ row ∈ s.configurations, row.providerId = a.providerId ∧
      row.generation = a.configurationGeneration

theorem providerSound_empty : ProviderSound .empty := by
  refine ⟨unique_nil _, unique_nil _, ?_, ?_, ?_⟩
  · intro a ha
    cases ha
  · intro row hrow
    cases hrow
  · intro a ha
    cases ha

variable {s s' : ProviderStore} {a : AcquireArgs} {id : String} {row : ProviderRow}
  {expected : Option Int}

theorem ProviderStore.outstanding_congr (h : s'.admissions = s.admissions) (id : String) :
    s'.outstanding id = s.outstanding id := by
  unfold ProviderStore.outstanding
  rw [h]

theorem ProviderSound.of_same (h : ProviderSound s) (hconf : s'.configurations = s.configurations)
    (hadm : s'.admissions = s.admissions) : ProviderSound s' := by
  refine ⟨hconf ▸ h.providers, hadm ▸ h.executions, ?_, ?_, ?_⟩
  · rw [hconf, hadm]
    exact h.configured
  · intro row hrow
    rw [ProviderStore.outstanding_congr hadm]
    exact h.capacity row (hconf ▸ hrow)
  · rw [hconf, hadm]
    exact h.generation

theorem ProviderStore.mem_outstanding {a : ProviderAdmissionRecord} (ha : a ∈ s.admissions)
    (hout : a.outstanding = true) : a ∈ s.outstanding a.providerId := by
  unfold ProviderStore.outstanding
  rw [mem_filter]
  exact ⟨ha, by simp [hout]⟩

theorem ProviderStore.configuration?_none (h : s.configuration? id = none) :
    ∀ row ∈ s.configurations, row.providerId ≠ id := by
  intro row hrow hid
  have hfind := List.find?_eq_none.mp h row hrow
  simp [hid] at hfind

theorem ProviderStore.configuration?_some (h : s.configuration? id = some row) :
    row ∈ s.configurations ∧ row.providerId = id :=
  ⟨mem_of_find?_eq_some h, by simpa using List.find?_some h⟩

/-! ### Configuration writes -/

/-- What a write of the configuration keeps. -/
def KeepsAdmissions (s s' : ProviderStore) : Prop :=
  ProviderSound s' ∧ s'.admissions = s.admissions

variable {f : ProviderRow → ProviderRow} {updates : List (String × Int × Int)}
  {endpoint : ProviderEndpointConfig} {record : ProviderAdmissionRecord}
  {history : List (ProviderCall × Except ProviderFault ProviderAnswer)}
  {x : ProviderCall × Except ProviderFault ProviderAnswer}

/-- A configuration with nothing outstanding may change. -/
theorem ProviderSound.updateProvider (h : ProviderSound s) (hfree : s.outstanding id = [])
    {p : ProviderRow → Bool} (hp : ∀ r, p r = true → r.providerId = id)
    (hid : ∀ r, r.providerId = id → (f r).providerId = id)
    (hmax : ∀ r ∈ s.configurations, r.providerId = id → 0 ≤ (f r).maxConcurrency) :
    ProviderSound { s with configurations := updateWhere p f s.configurations } where
  providers := by
    apply h.providers.updateWhere
    intro r hr
    unfold ProviderRow.idKey
    rw [hid r (hp r hr), hp r hr]
    exact .inl rfl
  executions := h.executions
  configured a ha := by
    obtain ⟨row, hrow, hrid⟩ := h.configured a ha
    refine ⟨_, mem_updateWhere.mpr ⟨row, hrow, rfl⟩, ?_⟩
    by_cases hpr : p row = true
    · rw [if_pos hpr, hid row (hp row hpr), ← hrid, hp row hpr]
    · rw [if_neg hpr, hrid]
  capacity row' hrow' := by
    obtain ⟨row, hrow, rfl⟩ := mem_updateWhere.mp hrow'
    show ((s.outstanding _).length : Int) ≤ _
    by_cases hpr : p row = true
    · rw [if_pos hpr, hid row (hp row hpr), hfree]
      exact hmax row hrow (hp row hpr)
    · rw [if_neg hpr]
      exact h.capacity row hrow
  generation a ha hout := by
    rcases h.generation a ha hout with hnone | ⟨row, hrow, hrid, hgen⟩
    · exact .inl hnone
    · refine .inr ⟨row, mem_updateWhere.mpr ⟨row, hrow, ?_⟩, hrid, hgen⟩
      apply if_neg
      intro hpr
      have hmem : a ∈ s.outstanding a.providerId := ProviderStore.mem_outstanding ha hout
      rw [← hrid, hp row hpr, hfree] at hmem
      cases hmem

/-- A new configuration has nothing outstanding. -/
theorem ProviderSound.insertProvider (h : ProviderSound s)
    (hnew : s.configuration? row.providerId = none) (hmax : 0 ≤ row.maxConcurrency) :
    ProviderSound { s with configurations := s.configurations ++ [row] } where
  providers := by
    apply h.providers.insert
    rw [conflicts_eq_false]
    intro r hr k hk hrk
    have hid : r.providerId = row.providerId := Option.some.inj (hrk.trans hk.symm)
    exact ProviderStore.configuration?_none hnew r hr hid
  executions := h.executions
  configured a ha := by
    obtain ⟨old, hold, hid⟩ := h.configured a ha
    exact ⟨old, mem_append_left _ hold, hid⟩
  capacity r hr := by
    show ((s.outstanding r.providerId).length : Int) ≤ _
    rcases mem_append.mp hr with hr | hr
    · exact h.capacity r hr
    · rw [mem_singleton] at hr
      subst hr
      have hfree : s.outstanding r.providerId = [] := by
        unfold ProviderStore.outstanding
        rw [filter_eq_nil_iff]
        intro a ha hmatch
        obtain ⟨old, hold, hid⟩ := h.configured a ha
        simp only [Bool.and_eq_true, decide_eq_true_eq] at hmatch
        exact ProviderStore.configuration?_none hnew old hold (hid.trans hmatch.1)
      rw [hfree]
      exact hmax
  generation a ha hout := by
    rcases h.generation a ha hout with hnone | ⟨old, hold, hid, hgen⟩
    · exact .inl hnone
    · exact .inr ⟨old, mem_append_left _ hold, hid, hgen⟩

theorem wp_assertNotInUse {ids : List String} {Q : Unit → ProviderStore → Prop}
    (hQ : (∀ id ∈ ids, s.outstanding id = []) → Q () s) :
    wp (assertNotInUse ids) Q (fun _ _ => True) s := by
  unfold assertNotInUse
  simp only [wp_bind, wp_query, wp_require, implies_true, and_true]
  intro hany
  apply hQ
  intro id hid
  unfold ProviderStore.outstanding
  rw [filter_eq_nil_iff]
  intro a ha hmatch
  simp only [Bool.not_eq_true', any_eq_false] at hany
  simp only [Bool.and_eq_true, decide_eq_true_eq] at hmatch
  apply hany a ha
  simp [hmatch.2, hmatch.1, hid]

theorem wp_updateProvider (h : ProviderSound s) (hfree : s.outstanding id = []) {current : Int}
    (hid : ∀ r, r.providerId = id → (f r).providerId = id)
    (hmax : ∀ r ∈ s.configurations, r.providerId = id → 0 ≤ (f r).maxConcurrency) :
    wp (updateProvider id current f) (fun _ s' => KeepsAdmissions s s') (fun _ _ => True) s := by
  unfold Provider.updateProvider
  simp only [wp_bind, wp_query, wp_require, implies_true, and_true, wp_update]
  intro _
  refine ⟨h.updateProvider hfree ?_ hid hmax, rfl⟩
  intro r hr
  simp only [Bool.and_eq_true, decide_eq_true_eq] at hr
  exact hr.1

theorem bumpProviders_sound (h : ProviderSound s) (hfree : ∀ u ∈ updates, s.outstanding u.1 = []) :
    wp (bumpProviders updates) (fun _ s' => KeepsAdmissions s s') (fun _ _ => True) s := by
  induction updates generalizing s with
  | nil => exact ⟨h, rfl⟩
  | cons u updates ih =>
    obtain ⟨id, current, next⟩ := u
    unfold bumpProviders
    rw [wp_bind]
    have hnow : s.outstanding id = [] := hfree _ mem_cons_self
    refine wp_mono (wp_updateProvider h hnow (fun r hr => hr) ?_) ?_ (fun _ _ _ => trivial)
    · intro r hr hid
      have hcapacity := h.capacity r hr
      rw [hid, hnow] at hcapacity
      exact hcapacity
    · rintro _ s₁ ⟨hs₁, hadm⟩
      refine wp_mono (ih hs₁ ?_) ?_ (fun _ _ _ => trivial)
      · intro u hu
        rw [ProviderStore.outstanding_congr hadm]
        exact hfree u (mem_cons_of_mem _ hu)
      · rintro _ s₂ ⟨hs₂, hadm₂⟩
        exact ⟨hs₂, hadm₂.trans hadm⟩

theorem providerUpdates_ok {rows : List ProviderRow} (h : providerUpdates rows = .ok updates) :
    ∀ u ∈ updates, u.1 ∈ rows.map fun r => r.providerId := by
  unfold providerUpdates at h
  induction rows generalizing updates with
  | nil =>
    cases h
    simp
  | cons row rows ih =>
    rw [mapM_cons] at h
    obtain ⟨first, hfirst, h⟩ := bind_eq_ok.mp h
    obtain ⟨rest, hrest, h⟩ := bind_eq_ok.mp h
    obtain ⟨current, -, hfirst⟩ := bind_eq_ok.mp hfirst
    obtain ⟨next, -, hfirst⟩ := bind_eq_ok.mp hfirst
    cases hfirst
    cases h
    intro u hu
    rcases mem_cons.mp hu with rfl | hu
    · exact mem_cons_self
    · exact mem_cons_of_mem _ (ih hrest u hu)

/-- The write of an endpoint touches neither configurations nor admissions. -/
theorem wp_writeEndpoint {current : Option Int} {next : Int}
    : wp (writeEndpoint endpoint current next)
      (fun _ s' => s'.configurations = s.configurations ∧ s'.admissions = s.admissions)
      (fun _ _ => True) s := by
  cases current with
  | none => simp [writeEndpoint]
  | some current => simp [writeEndpoint]

theorem saveEndpointBody_sound (h : ProviderSound s) :
    wp (saveEndpointBody endpoint expected) (fun _ s' => KeepsAdmissions s s')
      (fun _ _ => True) s := by
  unfold saveEndpointBody
  simp only [wp_bind, wp_query]
  apply wp_ofExcept_of_ok
  intro claim _
  apply wp_assertNotInUse
  intro hfree
  apply wp_ofExcept_of_ok
  intro updates hupdates
  refine wp_mono wp_writeEndpoint ?_ (fun _ _ _ => trivial)
  rintro _ s₁ ⟨hconf, hadm⟩
  refine wp_mono (bumpProviders_sound (h.of_same hconf hadm) ?_) ?_ (fun _ _ _ => trivial)
  · intro u hu
    rw [ProviderStore.outstanding_congr hadm]
    exact hfree u.1 (providerUpdates_ok hupdates u hu)
  · rintro _ s₂ ⟨hs₂, hadm₂⟩
    exact ⟨hs₂, hadm₂.trans hadm⟩

theorem ProviderProfile.check_maxConcurrency {p : ProviderProfile} (h : p.check = .ok ()) :
    0 ≤ p.maxConcurrency := by
  unfold ProviderProfile.check at h
  iterate 8 obtain ⟨_, -, h⟩ := bind_eq_ok.mp h
  obtain ⟨_, hmax, -⟩ := bind_eq_ok.mp h
  unfold Provider.check at hmax
  split at hmax
  · rename_i hrange
    simp only [Bool.and_eq_true, decide_eq_true_eq] at hrange
    omega
  · cases hmax

theorem claimGeneration_none {claim : Option Int × Int}
    (h : claimGeneration none expected = .ok claim) : claim.1 = none := by
  unfold claimGeneration at h
  dsimp only at h
  split at h
  · cases h
  · cases h
    rfl

theorem saveProviderBody_sound {profile : ProviderConfiguration} (h : ProviderSound s) :
    wp (saveProviderBody profile expected) (fun _ s' => KeepsAdmissions s s')
      (fun _ _ => True) s := by
  have hmax : 0 ≤ profile.maxConcurrency := ProviderProfile.check_maxConcurrency profile.checked
  unfold saveProviderBody
  simp only [wp_bind, wp_query]
  apply wp_assertNotInUse
  intro hfree
  apply wp_ofExcept_of_ok
  intro claim hclaim
  unfold writeProvider
  cases hcurrent : claim.1 with
  | none =>
    simp only [insertProvider, wp_bind, wp_query, wp_require, wp_update, implies_true, and_true]
    intro hnew
    simp only [Bool.and_eq_true, Option.isNone_iff_eq_none] at hnew
    exact ⟨h.insertProvider hnew.1.1 hmax, rfl⟩
  | some current =>
    cases hrow : s.configuration? profile.providerId with
    | none =>
      rw [hrow] at hclaim
      rw [claimGeneration_none hclaim] at hcurrent
      cases hcurrent
    | some row =>
      have hnow : s.outstanding profile.providerId = [] := by
        apply hfree
        simp [hrow]
      exact wp_updateProvider h hnow (fun _ _ => rfl) fun _ _ _ => hmax

theorem saveObservationBody_sound {observation : ProviderObservation} (h : ProviderSound s) :
    wp (saveObservationBody observation) (fun _ s' => KeepsAdmissions s s')
      (fun _ _ => True) s := by
  unfold saveObservationBody
  rw [wp_bind, wp_query]
  cases s.configuration? observation.providerId with
  | none => trivial
  | some provider =>
    simp only [wp_bind]
    apply wp_ofExcept_of_ok
    intro current _
    simp only [wp_require, wp_query, wp_update, implies_true, and_true]
    intro _
    exact ⟨h.of_same rfl rfl, rfl⟩

/-! ### Admissions -/

/-- What granting an admission takes. -/
structure Admits (a : AcquireArgs) (s : ProviderStore) (record : ProviderAdmissionRecord) :
    Prop where
  profile : ∃ row, s.configuration? a.providerId = some row ∧
    ((s.outstanding a.providerId).length : Int) < row.maxConcurrency ∧
    ∀ g, a.expectedConfigurationGeneration = some g → row.generation = some g
  fresh : conflicts ProviderAdmissionRecord.executionKey record s.admissions = false
  provider : record.providerId = a.providerId
  execution : record.executionId = a.executionId
  generation : record.configurationGeneration = a.expectedConfigurationGeneration

theorem admissionFromRow_ok {row record : ProviderAdmissionRecord}
    (h : admissionFromRow row = .ok record) : record = row := by
  unfold admissionFromRow at h
  split at h
  · cases h
  · split at h
    · cases h
      rfl
    · cases h

theorem storedGeneration_ok {generation : Option Int} {current : Int}
    (h : storedGeneration generation = .ok current) : generation = some current := by
  unfold storedGeneration at h
  split at h
  · cases h
  · split at h
    · cases h
      rfl
    · cases h

theorem wp_admittingProfile
    {Q : ProviderRow → ProviderStore → Prop}
    (hQ : ∀ row, s.configuration? a.providerId = some row →
      row.maxConcurrency = a.expectedMaxConcurrency →
      (∀ g, a.expectedConfigurationGeneration = some g → row.generation = some g) → Q row s) :
    wp (admittingProfile a) Q (fun _ _ => True) s := by
  unfold admittingProfile
  rw [wp_bind, wp_query]
  cases hrow : s.configuration? a.providerId with
  | none => trivial
  | some row =>
    simp only [wp_bind, wp_require, implies_true, and_true, decide_eq_true_eq]
    intro hmax _
    apply wp_ofExcept_of_ok
    intro current hcurrent
    simp only [wp_pure]
    intro hexpected
    refine hQ row hrow hmax ?_
    intro g hg
    rw [storedGeneration_ok hcurrent]
    rw [hg] at hexpected
    simp only [Option.all_some, decide_eq_true_eq] at hexpected
    rw [hexpected]

theorem wp_grantAdmission {now expiresAt : Int} (hrow : s.configuration? a.providerId = some row)
    (hroom : ((s.outstanding a.providerId).length : Int) < row.maxConcurrency)
    (hgen : ∀ g, a.expectedConfigurationGeneration = some g → row.generation = some g) :
    wp (grantAdmission a now expiresAt)
      (fun r s' => r.kind = .admitted ∧ ∃ record, Admits a s record ∧
      s' = { s with admissions := s.admissions ++ [record] }) (fun _ _ => True) s := by
  unfold grantAdmission insertAdmission
  simp only [wp_bind]
  apply wp_ofExcept_of_ok
  intro admissionId _
  simp only [wp_query, wp_require, wp_update, wp_pure, implies_true, and_true, id_eq]
  intro hkeys
  simp only [Bool.and_eq_true, Bool.not_eq_true'] at hkeys
  exact ⟨trivial, _, ⟨⟨row, hrow, hroom, hgen⟩, hkeys.1.2, rfl, rfl, rfl⟩, rfl⟩

theorem priorResult_kind (a : AcquireArgs) (now : Int) (record : ProviderAdmissionRecord) :
    (priorResult a now record).kind ≠ .admitted := by
  unfold priorResult
  dsimp only
  split
  · simp
  · split
    · simp
    · split
      · simp
      · split
        · simp
        · simp

theorem exhaustedResult_kind (now : Int) (active : List ProviderAdmissionRecord) :
    (exhaustedResult now active).kind ≠ .admitted := by
  unfold exhaustedResult
  split
  · simp
  · simp

/-- An acquisition grants an admission or changes nothing. -/
theorem acquireBody_spec {now expiresAt : Int} :
    wp (acquireBody a now expiresAt) (fun r s' => (r.kind ≠ .admitted ∧ s' = s) ∨
      (r.kind = .admitted ∧ ∃ record, Admits a s record ∧
        s' = { s with admissions := s.admissions ++ [record] })) (fun _ _ => True) s := by
  unfold acquireBody
  rw [wp_bind]
  apply wp_admittingProfile
  intro row hrow hmax hgen
  simp only [wp_bind, wp_query]
  apply wp_ofExcept_of_ok
  intro records hrecords
  cases s.admissions.find? fun r => r.providerId = a.providerId && r.executionId = a.executionId with
  | some prior =>
    simp only [wp_bind]
    apply wp_ofExcept_of_ok
    intro record _
    exact .inl ⟨priorResult_kind a now record, rfl⟩
  | none =>
    rw [wp_ite]
    refine ⟨fun _ => .inl ⟨exhaustedResult_kind now records, rfl⟩, ?_⟩
    intro hroom
    rw [mapM_eq_ok_self (fun _ _ => admissionFromRow_ok) hrecords, ← hmax,
      Int.not_le] at hroom
    exact wp_mono (wp_grantAdmission hrow hroom hgen) (fun _ _ h => .inr h) (fun _ _ _ => trivial)

theorem releaseBody_spec {a : ReleaseArgs} {now : Int} :
    wp (releaseBody a now) (fun _ s' => s' = { s with
      admissions := updateWhere (fun r => r.admissionId = a.admissionId && r.outstanding)
        (ProviderAdmissionRecord.release now) s.admissions }) (fun _ _ => True) s := by
  unfold releaseBody
  rw [wp_bind, wp_query]
  cases s.admissions.find? fun r => r.admissionId = a.admissionId with
  | none => trivial
  | some row =>
    simp only [wp_bind]
    apply wp_ofExcept_of_ok
    intro record _
    simp

theorem ProviderSound.granted (h : ProviderSound s) (hadmits : Admits a s record) :
    ProviderSound { s with admissions := s.admissions ++ [record] } where
  providers := h.providers
  executions := h.executions.insert hadmits.fresh
  configured r hr := by
    rcases mem_append.mp hr with hr | hr
    · exact h.configured r hr
    · rw [mem_singleton] at hr
      subst hr
      obtain ⟨row, hrow, -, -⟩ := hadmits.profile
      obtain ⟨hmem, hid⟩ := ProviderStore.configuration?_some hrow
      exact ⟨row, hmem, hid.trans hadmits.provider.symm⟩
  capacity row hrow := by
    have hcapacity := h.capacity row hrow
    simp only [ProviderStore.outstanding, filter_append, length_append] at hcapacity ⊢
    by_cases hid : row.providerId = a.providerId
    · obtain ⟨profile, hprofile, hroom, -⟩ := hadmits.profile
      obtain ⟨hmem, hpid⟩ := ProviderStore.configuration?_some hprofile
      have hsame : row = profile := h.providers.eq_of_key hrow hmem
        (congrArg some hid) (congrArg some hpid)
      subst hsame
      have hone : ([record].filter fun r => r.providerId = row.providerId && r.outstanding).length
          ≤ 1 := length_filter_le _ _
      rw [← hid] at hroom
      simp only [ProviderStore.outstanding] at hroom
      omega
    · have hnone : ([record].filter fun r => r.providerId = row.providerId && r.outstanding) = [] := by
        rw [filter_eq_nil_iff]
        intro r hr hmatch
        rw [mem_singleton] at hr
        simp only [Bool.and_eq_true, decide_eq_true_eq] at hmatch
        apply hid
        rw [← hmatch.1, hr, hadmits.provider]
      rw [hnone]
      simpa using hcapacity
  generation r hr hout := by
    rcases mem_append.mp hr with hr | hr
    · exact h.generation r hr hout
    · rw [mem_singleton] at hr
      subst hr
      obtain ⟨row, hrow, -, hgen⟩ := hadmits.profile
      obtain ⟨hmem, hid⟩ := ProviderStore.configuration?_some hrow
      cases hexpected : a.expectedConfigurationGeneration with
      | none => exact .inl (hadmits.generation.trans hexpected)
      | some g =>
        refine .inr ⟨row, hmem, hid.trans hadmits.provider.symm, ?_⟩
        rw [hgen g hexpected, hadmits.generation, hexpected]

theorem outstanding_release (now : Int) (r : ProviderAdmissionRecord) :
    (r.release now).outstanding = false := rfl

theorem ProviderSound.release (h : ProviderSound s)
    (p : ProviderAdmissionRecord → Bool) (now : Int) :
    ProviderSound { s with
      admissions := updateWhere p (ProviderAdmissionRecord.release now) s.admissions } where
  providers := h.providers
  executions := h.executions.updateWhere fun _ _ => .inl rfl
  configured r hr := by
    obtain ⟨old, hold, rfl⟩ := mem_updateWhere.mp hr
    obtain ⟨row, hrow, hid⟩ := h.configured old hold
    refine ⟨row, hrow, ?_⟩
    split
    · exact hid
    · exact hid
  capacity row hrow := by
    have hless : ∀ id, (updateWhere p (ProviderAdmissionRecord.release now) s.admissions
        |>.filter fun a => a.providerId = id && a.outstanding).length ≤ (s.outstanding id).length := by
      intro id
      unfold updateWhere ProviderStore.outstanding
      rw [filter_map, length_map, ← countP_eq_length_filter,
        ← countP_eq_length_filter]
      apply countP_mono_left
      intro r _ hr
      simp only [Function.comp_apply] at hr
      split at hr
      · rw [outstanding_release, Bool.and_false] at hr
        cases hr
      · exact hr
    have hcapacity := h.capacity row hrow
    have hrelease := hless row.providerId
    simp only [ProviderStore.outstanding] at hcapacity hrelease ⊢
    omega
  generation r hr hout := by
    obtain ⟨old, hold, rfl⟩ := mem_updateWhere.mp hr
    split at hout
    · rw [outstanding_release] at hout
      cases hout
    · rename_i hp
      rw [if_neg hp]
      exact h.generation old hold hout

/-! ### Runs -/

/-- What a body guarantees of its returns, under the code of its operation. -/
theorem nameIntegrity_spec {α : Type} {code : String} {x : ProviderTxn α}
    {Q : α → ProviderStore → Prop} (h : wp x Q (fun _ _ => True) s) :
    (∃ r s', nameIntegrity code (atomically x s) = (.ok r, s') ∧ Q r s') ∨
      ∃ e, nameIntegrity code (atomically x s) = (.error e, s) := by
  rcases atomically_spec (E := fun _ => True) h with ⟨r, s', hx, hQ⟩ | ⟨e, hx, -⟩
  · rw [hx]
    exact .inl ⟨r, s', rfl, hQ⟩
  · rw [hx]
    cases e with
    | integrityError => exact .inr ⟨_, rfl⟩
    | valueError text => exact .inr ⟨_, rfl⟩
    | storeError code => exact .inr ⟨_, rfl⟩
    | overflowError => exact .inr ⟨_, rfl⟩

theorem nameIntegrity_keeps {α : Type} {code : String} {x : ProviderTxn α} (h : ProviderSound s)
    (hx : wp x (fun _ s' => KeepsAdmissions s s') (fun _ _ => True) s) :
    KeepsAdmissions s (nameIntegrity code (atomically x s)).2 := by
  rcases nameIntegrity_spec hx with ⟨r, s', heq, hs'⟩ | ⟨e, heq⟩
  · rw [heq]
    exact hs'
  · rw [heq]
    exact ⟨h, rfl⟩

/-- The acquisition that a call was, if it reported `ADMITTED`. -/
def admittedBy : ProviderCall × Except ProviderFault ProviderAnswer → Option AcquireArgs
  | (.acquireAdmission a, .ok (.admission r)) => if r.kind = .admitted then some a else none
  | _ => none

/-- What one call can do: keep the admissions, release some, or grant one, and only then
    report it. -/
theorem providerStep_cases (h : ProviderSound s) (call : ProviderCall) :
    (admittedBy (call, (providerStep s call).1) = none ∧
      (KeepsAdmissions s (providerStep s call).2 ∨ ∃ p now, (providerStep s call).2 = { s with
        admissions := updateWhere p (ProviderAdmissionRecord.release now) s.admissions })) ∨
    ∃ a record, admittedBy (call, (providerStep s call).1) = some a ∧ Admits a s record ∧
      (providerStep s call).2 = { s with admissions := s.admissions ++ [record] } := by
  have same : KeepsAdmissions s s := ⟨h, rfl⟩
  cases call with
  | saveEndpoint endpoint expected =>
    refine .inl ⟨rfl, .inl ?_⟩
    simp only [providerStep, answer, saveEndpoint]
    split
    · exact same
    · exact nameIntegrity_keeps h (saveEndpointBody_sound h)
  | saveProvider profile expected =>
    refine .inl ⟨rfl, .inl ?_⟩
    simp only [providerStep, answer, saveProvider]
    split
    · exact same
    · exact nameIntegrity_keeps h (saveProviderBody_sound h)
  | saveObservation observation =>
    refine .inl ⟨rfl, .inl ?_⟩
    simp only [providerStep, answer, saveObservation]
    split
    · exact same
    · exact nameIntegrity_keeps h (saveObservationBody_sound h)
  | releaseAdmission args =>
    refine .inl ⟨rfl, ?_⟩
    simp only [providerStep, answer, releaseAdmission]
    split
    · exact .inl same
    · rcases nameIntegrity_spec releaseBody_spec with ⟨r, s', hx, hs'⟩ | ⟨e, hx⟩
      · rw [hx]
        exact .inr ⟨_, _, hs'⟩
      · rw [hx]
        exact .inl same
  | acquireAdmission args =>
    simp only [providerStep, answer, acquireAdmission]
    split
    · exact .inl ⟨rfl, .inl same⟩
    · rcases nameIntegrity_spec acquireBody_spec with ⟨r, s', hx, hs'⟩ | ⟨e, hx⟩
      · rw [hx]
        rcases hs' with ⟨hkind, rfl⟩ | ⟨hkind, record, hadmits, rfl⟩
        · exact .inl ⟨if_neg hkind, .inl same⟩
        · exact .inr ⟨args, record, if_pos hkind, hadmits, rfl⟩
      · rw [hx]
        exact .inl ⟨rfl, .inl same⟩

theorem providerStep_sound (h : ProviderSound s) (call : ProviderCall) :
    ProviderSound (providerStep s call).2 := by
  rcases providerStep_cases h call with ⟨-, hkeeps | ⟨p, now, hreleased⟩⟩ |
    ⟨a, record, -, hadmits, hgranted⟩
  · exact hkeeps.1
  · rw [hreleased]
    exact h.release p now
  · rw [hgranted]
    exact h.granted hadmits

/-- The identity of an acquisition. -/
def AcquireArgs.key (a : AcquireArgs) : String × String := (a.providerId, a.executionId)

/-- A row is that of an acquisition. -/
def ProviderAdmissionRecord.From (r : ProviderAdmissionRecord) (a : AcquireArgs) : Prop :=
  r.providerId = a.providerId ∧ r.executionId = a.executionId ∧
    r.configurationGeneration = a.expectedConfigurationGeneration

/-- What holds along a run: the store is sound, the rows are those of the reported
    acquisitions, and no identity is reported twice. -/
structure AdmissionHistory (history : List (ProviderCall × Except ProviderFault ProviderAnswer))
    (s : ProviderStore) : Prop where
  sound : ProviderSound s
  recorded : ∀ a ∈ history.filterMap admittedBy, ∃ r ∈ s.admissions, r.From a
  reported : ∀ r ∈ s.admissions, ∃ a ∈ history.filterMap admittedBy, r.From a
  once : ((history.filterMap admittedBy).map AcquireArgs.key).Nodup


theorem AdmissionHistory.silent (h : AdmissionHistory history s) (hx : admittedBy x = none)
    (hsound : ProviderSound s')
    (hkept : ∀ r ∈ s.admissions, ∃ r' ∈ s'.admissions, ∀ a, r.From a → r'.From a)
    (hold : ∀ r' ∈ s'.admissions, ∃ r ∈ s.admissions, ∀ a, r.From a → r'.From a) :
    AdmissionHistory (history ++ [x]) s' := by
  have hsame : (history ++ [x]).filterMap admittedBy = history.filterMap admittedBy := by
    rw [filterMap_append]
    simp [hx]
  refine ⟨hsound, ?_, ?_, ?_⟩
  · rw [hsame]
    intro a ha
    obtain ⟨r, hr, hfrom⟩ := h.recorded a ha
    obtain ⟨r', hr', hsame'⟩ := hkept r hr
    exact ⟨r', hr', hsame' a hfrom⟩
  · rw [hsame]
    intro r' hr'
    obtain ⟨r, hr, hsame'⟩ := hold r' hr'
    obtain ⟨a, ha, hfrom⟩ := h.reported r hr
    exact ⟨a, ha, hsame' a hfrom⟩
  · rw [hsame]
    exact h.once

theorem AdmissionHistory.admitted (h : AdmissionHistory history s) (hx : admittedBy x = some a)
    (hadmits : Admits a s record) :
    AdmissionHistory (history ++ [x]) { s with admissions := s.admissions ++ [record] } := by
  have hmore : (history ++ [x]).filterMap admittedBy = history.filterMap admittedBy ++ [a] := by
    rw [filterMap_append]
    simp [hx]
  have hfrom : record.From a := ⟨hadmits.provider, hadmits.execution, hadmits.generation⟩
  refine ⟨h.sound.granted hadmits, ?_, ?_, ?_⟩
  · rw [hmore]
    intro b hb
    rcases mem_append.mp hb with hb | hb
    · obtain ⟨r, hr, hfrom'⟩ := h.recorded b hb
      exact ⟨r, mem_append_left _ hr, hfrom'⟩
    · rw [mem_singleton] at hb
      subst hb
      exact ⟨record, mem_append_right _ (mem_singleton_self _), hfrom⟩
  · rw [hmore]
    intro r hr
    rcases mem_append.mp hr with hr | hr
    · obtain ⟨b, hb, hfrom'⟩ := h.reported r hr
      exact ⟨b, mem_append_left _ hb, hfrom'⟩
    · rw [mem_singleton] at hr
      subst hr
      exact ⟨a, mem_append_right _ (mem_singleton_self _), hfrom⟩
  · rw [hmore, map_append]
    refine h.once.append (nodup_singleton _) (disjoint_singleton.mpr ?_)
    intro hmem
    -- an earlier report would have left a row under the same key
    obtain ⟨b, hb, hkey⟩ := mem_map.mp hmem
    obtain ⟨r, hr, hp, he, -⟩ := h.recorded b hb
    obtain ⟨hprovider, hexecution⟩ := Prod.mk.inj hkey
    apply conflicts_eq_false.mp hadmits.fresh r hr (a.providerId, a.executionId)
    · simp [ProviderAdmissionRecord.executionKey, hadmits.provider, hadmits.execution]
    · simp [ProviderAdmissionRecord.executionKey, hp, he, hprovider, hexecution]

theorem admissionHistory_step
    (history : List (ProviderCall × Except ProviderFault ProviderAnswer)) (s : ProviderStore)
    (call : ProviderCall) (h : AdmissionHistory history s) :
    AdmissionHistory (history ++ [(call, (providerStep s call).1)]) (providerStep s call).2 := by
  rcases providerStep_cases h.sound call with ⟨hnone, hkeeps | ⟨p, now, hreleased⟩⟩ |
    ⟨a, record, hsome, hadmits, hgranted⟩
  · apply h.silent hnone hkeeps.1
    · exact fun r hr => ⟨r, hkeeps.2 ▸ hr, fun _ hfrom => hfrom⟩
    · exact fun r hr => ⟨r, hkeeps.2 ▸ hr, fun _ hfrom => hfrom⟩
  · have released : ∀ r a, r.From a →
        (if p r then ProviderAdmissionRecord.release now r else r).From a := by
      intro r a hfrom
      split
      · exact hfrom
      · exact hfrom
    rw [hreleased]
    apply h.silent hnone (h.sound.release p now)
    · exact fun r hr => ⟨_, mem_updateWhere.mpr ⟨r, hr, rfl⟩, released r⟩
    · intro r' hr'
      obtain ⟨r, hr, rfl⟩ := mem_updateWhere.mp hr'
      exact ⟨r, hr, released r⟩
  · rw [hgranted]
    exact h.admitted hsome hadmits

/-- After any calls from an empty store: a provider has at most as many admissions
    outstanding as its configuration allows, and none without one; `ADMITTED` was reported
    at most once for each provider and execution; and an outstanding admission records the
    generation that its acquisition expected, which is none or still the current one of
    its provider. -/
theorem provider_admissions_bounded (calls : List ProviderCall) :
    let run := Machine.run providerStep ProviderStore.empty calls
    (∀ providerId, (run.2.configuration? providerId = none ∧ run.2.outstanding providerId = []) ∨
      ∃ row, run.2.configuration? providerId = some row ∧
        ((run.2.outstanding providerId).length : Int) ≤ row.maxConcurrency) ∧
    ((run.1.filterMap admittedBy).map AcquireArgs.key).Nodup ∧
    ∀ r ∈ run.2.admissions, r.outstanding = true →
      ∃ a ∈ run.1.filterMap admittedBy, r.From a ∧
        (a.expectedConfigurationGeneration = none ∨
          ∃ row, run.2.configuration? r.providerId = some row ∧
            row.generation = r.configurationGeneration) := by
  intro run
  have inv : AdmissionHistory run.1 run.2 := by
    refine Machine.run_induction ?_ admissionHistory_step calls
    refine ⟨providerSound_empty, ?_, ?_, nodup_nil⟩
    · intro a ha
      cases ha
    · intro r hr
      cases hr
  have found : ∀ row ∈ run.2.configurations,
      run.2.configuration? row.providerId = some row := by
    intro row hrow
    cases hfind : run.2.configuration? row.providerId with
    | none => exact absurd rfl (ProviderStore.configuration?_none hfind row hrow)
    | some other =>
      obtain ⟨hother, hid⟩ := ProviderStore.configuration?_some hfind
      rw [inv.sound.providers.eq_of_key hother hrow (congrArg some hid) rfl]
  refine ⟨?_, inv.once, ?_⟩
  · intro providerId
    cases hrow : run.2.configuration? providerId with
    | none =>
      refine .inl ⟨rfl, ?_⟩
      unfold ProviderStore.outstanding
      rw [filter_eq_nil_iff]
      intro a ha hmatch
      obtain ⟨row, hmem, hid⟩ := inv.sound.configured a ha
      simp only [Bool.and_eq_true, decide_eq_true_eq] at hmatch
      exact ProviderStore.configuration?_none hrow row hmem (hid.trans hmatch.1)
    | some row =>
      obtain ⟨hmem, hid⟩ := ProviderStore.configuration?_some hrow
      refine .inr ⟨row, rfl, ?_⟩
      rw [← hid]
      exact inv.sound.capacity row hmem
  · intro r hr hout
    obtain ⟨a, ha, hfrom⟩ := inv.reported r hr
    refine ⟨a, ha, hfrom, ?_⟩
    rcases inv.sound.generation r hr hout with hnone | ⟨row, hrow, hid, hgen⟩
    · exact .inl (hfrom.2.2.symm.trans hnone)
    · exact .inr ⟨row, hid ▸ found row hrow, hgen⟩

/-! ### An acquisition without an expected generation -/

def sampleProfile : ProviderConfiguration where
  providerId := "provider-1"
  displayName := "Provider"
  providerType := "api"
  protocolFamily := .openaiCompatible
  endpointRef := "endpoint-1"
  credentialRef := "secret-ref:key-1"
  trustClass := .firstParty
  egressBoundary := .externalFirstParty
  harnessStrategies := [.directApi]
  maxConcurrency := 2
  models := [{ modelId := "model-1", displayName := "Model" }]
  enabled := true
  checked := by decide +kernel

def sampleAcquire : AcquireArgs where
  providerId := "provider-1"
  executionId := "exec-1"
  batchId := "batch-1"
  expectedMaxConcurrency := 2
  now := some 0
  ttlSeconds := 60
  draw := .value "admission-1"

/-- It leaves an outstanding admission that does not record the generation of its
    provider. -/
theorem admission_generation_unrecorded :
    let s := (Machine.run providerStep .empty
      [.saveProvider sampleProfile none, .acquireAdmission sampleAcquire]).2
    ¬ ∀ r ∈ s.admissions, r.outstanding = true →
      (s.configuration? r.providerId).map (fun row => row.generation) =
        some r.configurationGeneration := by
  decide +kernel

end AConductor.Provider

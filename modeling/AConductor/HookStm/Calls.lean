import AConductor.HookStm.Admission

/-!
# What a call does

One specification for each of `update`, `rebuild`, `reconcile` and `read`: a call that
returns has admitted a candidate whose bytes are accounted for, or has changed nothing; a
call that raises has changed one flag at most, except where the copy of the records it
hands out is what raises, after the swap (`call_spec`).
-/

namespace AConductor.Stm

open List Json Txn

variable {φ τ : Type}

/-- The records retained of a list of inputs, which `depth` measures. -/
structure OwnsAll (rt : Runtime φ) (bound : Nat) (records : List (Record φ)) (start size : Nat) :
    Prop where
  bytes : ∃ total, bytesOf rt (records.map Record.unit) = some total ∧ size = start + total
  distinct : ∀ r ∈ records, (Json.obj r.1 : Value φ).Distinct
  depth : ∀ r ∈ records, (Json.obj r.1 : Value φ).depth ≤ bound

variable {rt : Runtime φ} {key : PartitionKey} {ps : Partitions φ τ} {env : Env φ τ}
  {entries : Entries φ} {bound : Nat}

theorem OwnsAll.nil {bound size : Nat} : OwnsAll rt bound [] size size :=
  ⟨⟨0, rfl, rfl⟩, nofun, nofun⟩

theorem OwnsAll.cons {rt : Runtime φ} {bound start bytes size : Nat} {entries : Entries φ}
    {r : Record φ} {records : List (Record φ)} (hr : Owns rt entries r bytes)
    (hbound : (Json.obj entries : Value φ).depth ≤ bound)
    (h : OwnsAll rt bound records (start + bytes) size) :
    OwnsAll rt bound (r :: records) start size := by
  obtain ⟨total, htotal, hsize⟩ := h.bytes
  refine ⟨⟨bytes + total, bytesOf_cons hr.bytes htotal, by omega⟩, ?_, ?_⟩
  · intro r' hr'
    rcases mem_cons.mp hr' with rfl | hmem
    · exact hr.distinct
    · exact h.distinct r' hmem
  · intro r' hr'
    rcases mem_cons.mp hr' with rfl | hmem
    · rw [hr.depth]
      exact hbound
    · exact h.depth r' hmem

/-- Every mapping given nests at most so deep. -/
def MappingsWithin (bound : Nat) (inputs : List (Option (Mapping φ) × Option Int)) : Prop :=
  ∀ m w, (some m, w) ∈ inputs → (Json.obj m.entries : Value φ).depth ≤ bound

theorem wp_ownRecords {count bound : Nat} (inputs : List (Option (Mapping φ) × Option Int))
    (size : Nat) (hbound : MappingsWithin bound inputs) :
    wp (ownRecords env key count inputs size)
      (fun out ps' => ps' = ps ∧ OwnsAll env.runtime bound out.1 size out.2)
      (fun _ ps' => Unchanged key ps ps') ps := by
  induction inputs generalizing size with
  | nil => exact ⟨rfl, .nil⟩
  | cons input inputs ih =>
    obtain ⟨record, wireBytes⟩ := input
    unfold ownRecords
    rw [Txn.wp_bind]
    refine wp_ofExcept_of ?_ fun _ _ => .refl key ps
    rintro ⟨r, bytes⟩ hpair
    obtain ⟨m, rfl, howns⟩ := ownedPair_ok hpair
    rw [Txn.wp_bind]
    refine wp_mono wp_checkCandidate ?_ fun _ _ h => h
    rintro _ ps' ⟨hps, -⟩
    subst hps
    rw [Txn.wp_bind]
    have hrest : MappingsWithin bound inputs := fun m' w' hmem =>
      hbound m' w' (mem_cons_of_mem _ hmem)
    refine wp_mono (ih (size + bytes) hrest) ?_ fun _ _ h => h
    rintro ⟨records, total⟩ _ ⟨rfl, hall⟩
    exact ⟨rfl, .cons howns (hbound m wireBytes mem_cons_self) hall⟩

theorem wp_ownReferences {count : Nat} (references : List PyStr) (size : Nat) :
    wp (ownReferences env key count references size)
      (fun out ps' => ps' = ps ∧ out.1 = references ∧ ∃ total,
        bytesOf env.runtime (references.map Json.str) = some total ∧ out.2 = size + total)
      (fun _ ps' => Unchanged key ps ps') ps := by
  induction references generalizing size with
  | nil => exact ⟨rfl, rfl, 0, rfl, rfl⟩
  | cons reference references ih =>
    unfold ownReferences
    rw [Txn.wp_bind]
    refine wp_ofExcept_of ?_ fun _ _ => .refl key ps
    rintro ⟨owned, bytes⟩ hunit
    obtain ⟨rfl, hbytes⟩ := ownedUnit_str hunit
    rw [Txn.wp_bind]
    refine wp_mono wp_checkCandidate ?_ fun _ _ h => h
    rintro _ ps' ⟨hps, -⟩
    subst hps
    rw [Txn.wp_bind]
    refine wp_mono (ih (size + bytes)) ?_ fun _ _ h => h
    rintro ⟨rest, total⟩ _ ⟨rfl, hrest, n, hn, hsum⟩
    dsimp only at hrest hsum ⊢
    rw [hrest]
    exact ⟨rfl, rfl, bytes + n, bytesOf_cons hbytes hn, by omega⟩

theorem mem_insertEntry {key : PyStr} {value : Value φ} {e : PyStr × Value φ}
    (he : e ∈ insertEntry key value entries) : e ∈ entries ∨ e = (key, value) := by
  induction entries with
  | nil => exact .inr (mem_singleton.mp he)
  | cons d entries ih =>
    unfold insertEntry at he
    by_cases hkey : d.1 = key
    · rw [if_pos hkey] at he
      rcases mem_cons.mp he with rfl | hmem
      · exact .inr rfl
      · exact .inl (mem_cons_of_mem _ hmem)
    · rw [if_neg hkey] at he
      rcases mem_cons.mp he with rfl | hmem
      · exact .inl mem_cons_self
      · rcases ih hmem with hold | hnew
        · exact .inl (mem_cons_of_mem _ hold)
        · exact .inr hnew

theorem keys_insertEntry {key : PyStr} {value projected : Value φ}
    (h : Json.find? key entries = some projected) :
    (insertEntry key value entries).map Prod.fst = entries.map Prod.fst := by
  induction entries with
  | nil => cases h
  | cons d entries ih =>
    unfold insertEntry
    by_cases hkey : d.1 = key
    · rw [if_pos hkey, map_cons, map_cons, hkey]
    · rw [if_neg hkey, map_cons, map_cons, ih]
      unfold Json.find? at h ⊢
      rwa [List.find?_cons_of_neg (by simpa using hkey)] at h

/-- A projection within a bound, with its keys distinct. -/
def Bounded (bound : Nat) (entries : Entries φ) : Prop :=
  (Json.obj entries : Value φ).Distinct ∧ (Json.obj entries : Value φ).depth ≤ bound

variable {corrected corrected' : Entries φ × Bool}

theorem Bounded.supersede {field : PyStr × Value φ} (h : Bounded bound corrected.1)
    (hfield : field.2.Distinct) (hdepth : field.2.depth + 1 ≤ bound)
    (hout : Stm.supersede rt corrected field = .ok corrected') : Bounded bound corrected'.1 := by
  unfold Stm.supersede at hout
  cases hfind : Json.find? field.1 corrected.1 with
  | none =>
    rw [hfind] at hout
    cases hout
    exact h
  | some projected =>
    rw [hfind] at hout
    dsimp only at hout
    obtain ⟨projectedText, -, hout⟩ := Except.bind_eq_ok.mp hout
    obtain ⟨observedText, -, hout⟩ := Except.bind_eq_ok.mp hout
    by_cases hsame : projectedText ≠ observedText
    · rw [if_pos hsame] at hout
      cases hout
      obtain ⟨⟨hnodup, hentries⟩, hbound⟩ := h
      have hitem : ∀ e ∈ insertEntry field.1 field.2 corrected.1,
          e.2.Distinct ∧ e.2.depth + 1 ≤ bound := by
        intro e he
        rcases mem_insertEntry he with hold | rfl
        · have hle := depthEntries_le.mp (le_refl (depthEntries corrected.1)) e hold
          rw [depth] at hbound
          exact ⟨distinctEntries_iff.mp hentries e hold, by omega⟩
        · exact ⟨hfield, hdepth⟩
      refine ⟨⟨?_, distinctEntries_iff.mpr fun e he => (hitem e he).1⟩, ?_⟩
      · rw [keys_insertEntry hfind]
        exact hnodup
      · have hall : depthEntries (insertEntry field.1 field.2 corrected.1) ≤ bound - 1 :=
          depthEntries_le.mpr fun e he => by
            have := (hitem e he).2
            omega
        show depthEntries (insertEntry field.1 field.2 corrected.1) + 1 ≤ bound
        omega
    · rw [if_neg hsame] at hout
      cases hout
      exact h

theorem Bounded.supersedeAll {observed : Entries φ}
    (hobserved : ∀ e ∈ observed, e.2.Distinct ∧ e.2.depth + 1 ≤ bound)
    (h : Bounded bound corrected.1)
    (hout : observed.foldlM (Stm.supersede rt) corrected = .ok corrected') :
    Bounded bound corrected'.1 := by
  induction observed generalizing corrected with
  | nil =>
    cases hout
    exact h
  | cons field observed ih =>
    rw [foldlM_cons] at hout
    obtain ⟨next, hnext, hout⟩ := Except.bind_eq_ok.mp hout
    obtain ⟨hdistinct, hdepth⟩ := hobserved field mem_cons_self
    exact ih (fun e he => hobserved e (mem_cons_of_mem _ he))
      (h.supersede hdistinct hdepth hnext) hout

theorem wp_correctRecords {count bound : Nat} {observed : Entries φ}
    (hobserved : ∀ e ∈ observed, e.2.Distinct ∧ e.2.depth + 1 ≤ bound) (records : List (Record φ))
    (hrecords : ∀ r ∈ records, Bounded bound r.1) (size : Nat) (degraded : Bool) :
    wp (correctRecords env key count observed records size degraded)
      (fun out ps' => ps' = ps ∧ OwnsAll env.runtime bound out.1 size out.2.1)
      (fun _ ps' => Unchanged key ps ps') ps := by
  induction records generalizing size degraded with
  | nil => exact ⟨rfl, .nil⟩
  | cons record records ih =>
    obtain ⟨projection, wireBytes⟩ := record
    unfold correctRecords
    rw [Txn.wp_bind]
    refine wp_ofExcept_of ?_ fun _ _ => .refl key ps
    intro copied hcopied
    have hsame : copied = projection := by
      unfold copyProjection at hcopied
      split at hcopied
      · cases hcopied
      · cases hcopied
        rfl
    subst hsame
    rw [Txn.wp_bind]
    refine wp_ofExcept_of ?_ fun _ _ => .refl key ps
    rintro ⟨corrected, nowDegraded⟩ hcorrected
    obtain ⟨hdistinct, hdepth⟩ :=
      (hrecords _ mem_cons_self).supersedeAll hobserved hcorrected
    rw [Txn.wp_bind]
    refine wp_ofExcept_of ?_ fun _ _ => .refl key ps
    rintro ⟨pair, measured⟩ hunit
    have howns := owns_pair hdistinct hunit
    rw [Txn.wp_bind]
    refine wp_mono wp_checkCandidate ?_ fun _ _ h => h
    rintro _ ps' ⟨hps, -⟩
    subst hps
    rw [Txn.wp_bind]
    refine wp_mono (ih (fun r hr => hrecords r (mem_cons_of_mem _ hr))
      (size + measured) nowDegraded) ?_ fun _ _ h => h
    rintro ⟨owned, total, last⟩ _ ⟨rfl, hall⟩
    exact ⟨rfl, .cons howns hdepth hall⟩

theorem Accounted.add {prior candidate : PartitionState φ τ} {r : Record φ} {bytes : Nat}
    (h : Accounted rt key prior) (hr : Owns rt entries r bytes)
    (hrecords : candidate.records = prior.records ++ [r])
    (hrefs : candidate.authorityRefs = prior.authorityRefs)
    (hpointer : candidate.reconciliationRef = prior.reconciliationRef)
    (hbytes : candidate.accountedBytes = prior.accountedBytes + bytes) :
    Accounted rt key candidate := by
  obtain ⟨⟨total, htotal, hprior⟩, hdistinct⟩ := h
  refine ⟨⟨bytes + total, ?_, by omega⟩, ?_⟩
  · have hperm : candidate.units.Perm (r.unit :: prior.units) := by
      unfold PartitionState.units
      rw [hrecords, hrefs, hpointer, map_append, map_singleton, append_assoc,
        append_assoc, append_assoc]
      exact perm_middle
    rw [bytesOf_perm hperm]
    exact bytesOf_cons hr.bytes htotal
  · intro r' hr'
    rw [hrecords] at hr'
    rcases mem_append.mp hr' with hold | hnew
    · exact hdistinct r' hold
    · rw [mem_singleton.mp hnew]
      exact hr.distinct

/-- A partition built anew from pairs and references. -/
theorem OwnsAll.accounted {bound size total : Nat} {candidate : PartitionState φ τ}
    (h : OwnsAll rt bound candidate.records (keyBytes key) size)
    (hrefs : bytesOf rt ((candidate.authorityRefs ++ candidate.reconciliationRef.toList).map
      Json.str) = some total) (hbytes : candidate.accountedBytes = size + total) :
    Accounted rt key candidate := by
  obtain ⟨n, hn, hsize⟩ := h.bytes
  refine ⟨⟨n + total, ?_, by omega⟩, h.distinct⟩
  unfold PartitionState.units
  rw [append_assoc, ← map_append]
  exact bytesOf_append hn hrefs

/-- What every partition of a memory has. -/
def AllAccounted (env : Env φ τ) (ps : Partitions φ τ) : Prop :=
  ∀ key st, ps.get? key = some st → Accounted env.runtime key st

/-- How fresh an admission by the call leaves its partition. -/
def Call.Refreshes (env : Env φ τ) (c : Call φ τ) (prior : Option (PartitionState φ τ))
    (candidate : PartitionState φ τ) : Prop :=
  match c with
  | .update _ _ _ now => candidate.refreshedAt = now ∧
      candidate.rebuildRequired = (prior.map PartitionState.rebuildRequired).getD false
  | .rebuild _ _ _ now => candidate.refreshedAt = now ∧ candidate.rebuildRequired = false
  | .reconcile _ _ _ now _ => candidate.refreshedAt = now ∧ ∃ st, prior = some st ∧
      candidate.rebuildRequired = (st.rebuildRequired || env.expired st.refreshedAt now)
  | .read .. => False

/-- A call has admitted a candidate under the key of its partition. -/
structure Admission (env : Env φ τ) (c : Call φ τ) (key : PartitionKey)
    (candidate : PartitionState φ τ) (ps ps' : Partitions φ τ) : Prop where
  target : partitionKey c.partition = .ok key
  admitted : Admitted env key candidate ps ps'
  accounted : Accounted env.runtime key candidate
  refreshes : c.Refreshes env (ps.get? key) candidate

/-- A call has changed the flag of its partition at most. -/
def Rejected (c : Call φ τ) (ps ps' : Partitions φ τ) : Prop :=
  ps' = ps ∨ ∃ key, partitionKey c.partition = .ok key ∧
    ps' = ps.modify key PartitionState.flagged

theorem Unchanged.rejected {c : Call φ τ} {ps ps' : Partitions φ τ} (h : Unchanged key ps ps')
    (hkey : partitionKey c.partition = .ok key) : Rejected c ps ps' := by
  rcases h with rfl | rfl
  · exact .inl rfl
  · exact .inr ⟨key, hkey, rfl⟩

/-- What `copy.deepcopy` can follow of what the call hands out: the records a rebuild is
    given; the retained projections and the observation of a reconciliation. -/
def Copies (env : Env φ τ) (ps : Partitions φ τ) (c : Call φ τ) : Prop :=
  match c with
  | .rebuild _ hookRecords _ _ => MappingsWithin (env.runtime.copyDepth - 2) hookRecords
  | .reconcile partition authorityState _ _ _ =>
    (∀ key st, partitionKey partition = .ok key → ps.get? key = some st →
      copyable env.runtime st.records = true) ∧
    ∀ m, authorityState = some m →
      (Json.obj m.entries : Value φ).depth ≤ env.runtime.copyDepth - 2
  | _ => True

theorem copyable_of_depth {records : List (Record φ)}
    (h : ∀ r ∈ records, (Json.obj r.1 : Value φ).depth ≤ rt.copyDepth - 2) :
    copyable rt records = true := by
  unfold copyable
  rw [all_eq_true]
  intro r hr
  have hdepth := h r hr
  rw [depth] at hdepth
  rw [decide_eq_true_iff, depth]
  omega

section Specs

variable [LinearOrder τ] {env : Env φ τ} {ps : Partitions φ τ}

theorem wp_update (hps : AllAccounted env ps) (partition : StmPartition)
    (record : Option (Mapping φ)) (wireBytes : Option Int) (now : τ) :
    wp (update env partition record wireBytes now)
      (fun _ ps' => ∃ key candidate,
        Admission env (.update partition record wireBytes now) key candidate ps ps')
      (fun _ ps' => Rejected (.update partition record wireBytes now) ps ps') ps := by
  unfold update
  rw [Txn.wp_bind]
  refine wp_ofExcept_of ?_ fun _ _ => .inl rfl
  intro key hkey
  have hreject : ∀ (_ : Failure) (ps' : Partitions φ τ), Unchanged key ps ps' →
      Rejected (.update partition record wireBytes now) ps ps' :=
    fun _ _ h => h.rejected hkey
  rw [Txn.wp_bind, wp_query]
  dsimp only [id]
  rw [Txn.wp_bind]
  refine wp_mono wp_checkCandidate ?_ hreject
  rintro _ ps₁ ⟨hps₁, -⟩
  subst hps₁
  rw [wp_ite]
  refine ⟨fun _ => ?_, fun _ => wp_mono (wp_capacityFailure (.refl key ps₁)) (Q := fun _ _ => False)
    (fun _ _ h => h.elim) hreject⟩
  rw [Txn.wp_bind]
  have howned : wp (orCapacityFailure key
      (ofExcept (ownedPair env.runtime record wireBytes)))
      (fun out ps' => ps' = ps₁ ∧ ∃ m, record = some m ∧ Owns env.runtime m.entries out.1 out.2)
      (fun _ ps' => Unchanged key ps₁ ps') ps₁ := by
    apply wp_orCapacityFailure
    exact wp_ofExcept_of (fun out hout => ⟨rfl, ownedPair_ok hout⟩) fun _ _ => .refl key ps₁
  refine wp_mono howned ?_ hreject
  rintro ⟨pair, bytes⟩ ps₂ ⟨hps₂, m, rfl, howns⟩
  subst hps₂
  dsimp only
  rw [Txn.wp_bind]
  refine wp_mono wp_checkCandidate ?_ hreject
  rintro _ ps₃ ⟨hps₃, -⟩
  subst hps₃
  refine wp_mono (wp_admitCandidate env key _ ps₃) ?_ hreject
  intro _ ps' hadmitted
  refine ⟨key, _, hkey, hadmitted, ?_, rfl, rfl⟩
  cases hprior : ps₃.get? key with
  | some prior => exact (hps key prior hprior).add howns rfl rfl rfl rfl
  | none =>
    refine ⟨⟨bytes + 0, bytesOf_cons howns.bytes rfl, rfl⟩, ?_⟩
    intro r hr
    rw [mem_singleton.mp hr]
    exact howns.distinct

theorem wp_rebuild (partition : StmPartition) (hookRecords : List (Option (Mapping φ) × Option Int))
    (authorityRefs : List PyStr) (now : τ) (hbound : MappingsWithin bound hookRecords) :
    wp (rebuild env partition hookRecords authorityRefs now)
      (fun _ ps' => ∃ key candidate,
        Admission env (.rebuild partition hookRecords authorityRefs now) key candidate ps ps')
      (fun _ ps' => Rejected (.rebuild partition hookRecords authorityRefs now) ps ps' ∨
        ∃ key candidate, Admission env (.rebuild partition hookRecords authorityRefs now) key
          candidate ps ps' ∧ copyable env.runtime candidate.records = false ∧
          ∀ r ∈ candidate.records, (Json.obj r.1 : Value φ).depth ≤ bound) ps := by
  unfold rebuild
  rw [Txn.wp_bind]
  refine wp_ofExcept_of ?_ fun _ _ => .inl (.inl rfl)
  intro key hkey
  have hreject : ∀ ps' : Partitions φ τ, Unchanged key ps ps' →
      Rejected (.rebuild partition hookRecords authorityRefs now) ps ps' :=
    fun _ h => h.rejected hkey
  rw [Txn.wp_bind]
  refine wp_ofExcept_of ?_ fun _ _ => .inl (.inl rfl)
  intro within _
  rw [wp_ite]
  refine ⟨fun _ => ?_, fun _ => ?_⟩
  · rw [Txn.wp_bind]
    refine wp_mono wp_checkCandidate ?_ fun _ ps' h => .inl (hreject ps' h)
    rintro _ ps₁ ⟨hps₁, -⟩
    subst hps₁
    rw [Txn.wp_bind]
    refine wp_mono (wp_orCapacityFailure (Q := fun out ps' => ps' = ps₁ ∧ ∃ size total,
      OwnsAll env.runtime bound out.1 (keyBytes key) size ∧ out.2.1 = authorityRefs ∧
      bytesOf env.runtime (authorityRefs.map Json.str) = some total ∧ out.2.2 = size + total) ?_) ?_
      fun _ ps' h => .inl (hreject ps' h)
    · rw [Txn.wp_bind]
      refine wp_mono (wp_ownRecords hookRecords (keyBytes key) hbound) ?_ fun _ _ h => h
      rintro ⟨records, size⟩ ps₂ ⟨hps₂, hall⟩
      subst hps₂
      dsimp only at hall ⊢
      rw [Txn.wp_bind]
      refine wp_mono (wp_ownReferences authorityRefs size) ?_ fun _ _ h => h
      rintro ⟨references, sum⟩ ps₃ ⟨hps₃, href, total, htotal, hsum⟩
      exact ⟨hps₃, size, total, hall, href, htotal, hsum⟩
    rintro ⟨records, references, sum⟩ ps₂ ⟨hps₂, size, total, hall, href, htotal, hsum⟩
    subst hps₂
    dsimp only at hall href hsum ⊢
    subst href
    rw [Txn.wp_bind]
    refine wp_mono (wp_admitCandidate env key _ ps₂) ?_ fun _ ps' h => .inl (hreject ps' h)
    intro _ ps' hadmitted
    have hadmission : Admission env (.rebuild partition hookRecords references now) key
        { refreshedAt := now, records := records, authorityRefs := references
          accountedBytes := sum } ps₂ ps' := by
      refine ⟨hkey, hadmitted, hall.accounted ?_ hsum, rfl, rfl⟩
      rw [Option.toList_none, append_nil]
      exact htotal
    rw [Txn.wp_bind]
    refine wp_ofExcept_of (fun copied _ => ⟨key, _, hadmission⟩) ?_
    intro e hcopy
    refine .inr ⟨key, _, hadmission, ?_, hall.depth⟩
    unfold copyRecords at hcopy
    split at hcopy
    · cases hcopy
    · next hnot => exact Bool.eq_false_iff.mpr hnot
  · rw [Txn.wp_bind, Txn.wp_update, Txn.wp_raise]
    exact .inl (.inr ⟨key, hkey, rfl⟩)

omit [LinearOrder τ] in
theorem wp_read (env : Env φ τ) (ps : Partitions φ τ) (partition : StmPartition) (now : τ) :
    wp (read env partition now) (fun _ ps' => ps' = ps)
      (fun _ ps' => ps' = ps ∧ ∀ key st, partitionKey partition = .ok key →
        ps.get? key = some st → copyable env.runtime st.records = false) ps := by
  unfold read
  rw [Txn.wp_bind]
  refine wp_ofExcept_of ?_ ?_
  · intro key hkey
    rw [Txn.wp_bind, wp_query]
    dsimp only [id]
    cases hst : ps.get? key with
    | none => exact rfl
    | some st =>
      dsimp only
      rw [Txn.wp_bind]
      refine wp_ofExcept_of (fun _ _ => rfl) ?_
      intro e hcopy
      refine ⟨rfl, ?_⟩
      intro key' st' hkey' hst'
      rw [hkey] at hkey'
      cases hkey'
      rw [hst] at hst'
      cases hst'
      unfold copyRecords at hcopy
      split at hcopy
      · cases hcopy
      · next hnot => exact Bool.eq_false_iff.mpr hnot
  · intro e hkey
    refine ⟨rfl, ?_⟩
    intro key st hkey'
    rw [hkey] at hkey'
    cases hkey'

theorem wp_reconcile (hps : AllAccounted env ps) (partition : StmPartition)
    (authorityState : Option (Mapping φ)) (authorityRef : Option PyStr) (now later : τ)
    (hprior : ∀ key st, partitionKey partition = .ok key → ps.get? key = some st →
      ∀ r ∈ st.records, (Json.obj r.1 : Value φ).depth ≤ bound)
    (hobserved : ∀ m, authorityState = some m → (Json.obj m.entries : Value φ).depth ≤ bound) :
    wp (reconcile env partition authorityState authorityRef now later)
      (fun _ ps' => ps' = ps ∨ ∃ key candidate,
        Admission env (.reconcile partition authorityState authorityRef now later) key candidate
          ps ps')
      (fun _ ps' => Rejected (.reconcile partition authorityState authorityRef now later) ps ps' ∨
        ∃ key candidate,
          Admission env (.reconcile partition authorityState authorityRef now later) key
            candidate ps ps' ∧ copyable env.runtime candidate.records = false ∧
          ∀ r ∈ candidate.records, (Json.obj r.1 : Value φ).depth ≤ bound) ps := by
  unfold reconcile
  rw [Txn.wp_bind]
  refine wp_ofExcept_of ?_ fun _ _ => .inl (.inl rfl)
  intro key hkey
  have hreject : ∀ ps' : Partitions φ τ, Unchanged key ps ps' →
      Rejected (.reconcile partition authorityState authorityRef now later) ps ps' :=
    fun _ h => h.rejected hkey
  rw [Txn.wp_bind, wp_query]
  dsimp only [id]
  split
  · next observed reference _ =>
    cases hst : ps.get? key with
    | none => exact .inl rfl
    | some prior =>
      dsimp only
      have hwithin : ∀ r ∈ prior.records, Bounded bound r.1 := fun r hr =>
        ⟨(hps key prior hst).distinct r hr, hprior key prior hkey hst r hr⟩
      have hfields : ∀ e ∈ observed.entries, e.2.Distinct ∧ e.2.depth + 1 ≤ bound := by
        intro e he
        have hdepth := hobserved observed rfl
        rw [depth] at hdepth
        have hle := depthEntries_le.mp (le_refl (depthEntries observed.entries)) e he
        exact ⟨distinctEntries_iff.mp observed.distinct.2 e he, by omega⟩
      generalize prior.unitCount + (if prior.reconciliationRef.isNone = true then 1 else 0) =
        count
      rw [Txn.wp_bind]
      refine wp_mono wp_checkCandidate ?_ fun _ ps' h => .inl (hreject ps' h)
      rintro _ ps₁ ⟨hps₁, -⟩
      subst hps₁
      rw [Txn.wp_bind]
      refine wp_mono (wp_orCapacityFailure (Q := fun out ps' => ps' = ps₁ ∧ ∃ size total,
        OwnsAll env.runtime bound out.1 (keyBytes key) size ∧
        bytesOf env.runtime ((prior.authorityRefs ++ [reference]).map Json.str) = some total ∧
        out.2.1 = size + total) ?_) ?_ fun _ ps' h => .inl (hreject ps' h)
      · rw [Txn.wp_bind]
        refine wp_mono (wp_correctRecords hfields prior.records hwithin (keyBytes key)
          prior.derivedDegraded) ?_ fun _ _ h => h
        rintro ⟨records, size, degraded⟩ ps₂ ⟨hps₂, hall⟩
        subst hps₂
        dsimp only at hall ⊢
        rw [Txn.wp_bind]
        refine wp_mono (wp_ownReferences (prior.authorityRefs ++ [reference]) size) ?_
          fun _ _ h => h
        rintro ⟨references, sum⟩ ps₃ ⟨hps₃, -, total, htotal, hsum⟩
        exact ⟨hps₃, size, total, hall, htotal, hsum⟩
      rintro ⟨records, sum, degraded⟩ ps₂ ⟨hps₂, size, total, hall, htotal, hsum⟩
      subst hps₂
      dsimp only at hall hsum ⊢
      rw [Txn.wp_bind]
      refine wp_mono (wp_admitCandidate env key _ ps₂) ?_
        fun _ ps' h => .inl (hreject ps' h)
      intro _ ps' hadmitted
      have hadmission : Admission env
          (.reconcile partition (some observed) (some reference) now later) key
          { refreshedAt := now, records := records, authorityRefs := prior.authorityRefs
            rebuildRequired := prior.rebuildRequired || env.expired prior.refreshedAt now
            accountedBytes := sum, derivedDegraded := degraded
            reconciliationRef := some reference } ps₂ ps' :=
        ⟨hkey, hadmitted, hall.accounted htotal hsum, rfl, prior, hst, rfl⟩
      refine wp_mono (wp_read env ps' partition later) ?_ ?_
      · rintro _ _ rfl
        exact .inr ⟨key, _, hadmission⟩
      · rintro _ _ ⟨rfl, hcopy⟩
        exact .inr ⟨key, _, hadmission, hcopy key _ hkey hadmitted.self, hall.depth⟩
  · rw [Txn.wp_bind, Txn.wp_update, Txn.wp_raise]
    exact .inl (.inr ⟨key, hkey, rfl⟩)

end Specs

end AConductor.Stm

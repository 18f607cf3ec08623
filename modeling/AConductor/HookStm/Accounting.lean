import AConductor.HookStm.Calls

/-!
# Memory accounting

In every state a memory reaches, the accounted bytes are those of the retained keys and
units, every cap holds, and the next call evicts only to admit a new partition. A call that
raises leaves every partition's records as they were, where `copy.deepcopy` can follow what
the call hands out: `rebuild` and `reconcile` copy the records for their answer only after
`_admit` has swapped them in.
-/

namespace AConductor.Stm

open List Txn

variable {φ τ : Type}

/-- Key bytes and unit sizes of partitions, added up. -/
def retainedBytes (rt : Runtime φ) : List (PartitionKey × PartitionState φ τ) → Option Nat
  | [] => some 0
  | (key, st) :: rest => do
    return keyBytes key + (← bytesOf rt st.units) + (← retainedBytes rt rest)

/-- A partition within its caps. -/
structure WithinPartition (limits : Limits) (st : PartitionState φ τ) : Prop where
  records : st.unitCount ≤ limits.recordsPerPartition
  bytes : st.accountedBytes ≤ limits.bytesPerPartition

/-- The invariant of a memory. -/
structure Sound (env : Env φ τ) (ps : Partitions φ τ) : Prop where
  accounted : AllAccounted env ps
  within : ∀ key st, ps.get? key = some st → WithinPartition env.limits st
  totals : WithinTotals env.limits ps

theorem withinPartition_of_exceeds {limits : Limits} {st : PartitionState φ τ}
    (h : limits.exceeds st.unitCount st.accountedBytes = false) : WithinPartition limits st := by
  have hnot := of_decide_eq_false h
  exact ⟨by omega, by omega⟩

theorem Sound.empty (env : Env φ τ) : Sound env Dict.empty :=
  ⟨nofun, nofun, Nat.zero_le _, Nat.zero_le _, Nat.zero_le _⟩

variable {ps ps' : Partitions φ τ} {env : Env φ τ} {c : Call φ τ}

/-- A flag changes nothing that is counted. -/
theorem Sound.flagged (h : Sound env ps) (key : PartitionKey) :
    Sound env (ps.modify key PartitionState.flagged) := by
  have hget : ∀ other st, (ps.modify key PartitionState.flagged).get? other = some st →
      ∃ st₀, ps.get? other = some st₀ ∧ (st = st₀ ∨ st = st₀.flagged) := by
    intro other st hst
    rw [Dict.get?_modify] at hst
    by_cases hother : other = key
    · rw [if_pos hother] at hst
      obtain ⟨st₀, hst₀, rfl⟩ := Option.map_eq_some_iff.mp hst
      exact ⟨st₀, hother ▸ hst₀, .inr rfl⟩
    · rw [if_neg hother] at hst
      exact ⟨st, hst, .inl rfl⟩
  refine ⟨?_, ?_, ?_, ?_, ?_⟩
  · intro other st hst
    obtain ⟨st₀, hst₀, rfl | rfl⟩ := hget other st hst
    · exact h.accounted other _ hst₀
    · exact (h.accounted other _ hst₀).flagged
  · intro other st hst
    obtain ⟨st₀, hst₀, rfl | rfl⟩ := hget other st hst
    · exact h.within other _ hst₀
    · exact ⟨(h.within other _ hst₀).records, (h.within other _ hst₀).bytes⟩
  · rw [Dict.size_modify]
    exact h.totals.partitions
  · have hsame : (ps.modify key PartitionState.flagged).sum PartitionState.unitCount =
        ps.sum PartitionState.unitCount := Dict.sum_modify _ fun _ => rfl
    unfold recordCount
    rw [hsame]
    exact h.totals.records
  · have hsame : (ps.modify key PartitionState.flagged).sum PartitionState.accountedBytes =
        ps.sum PartitionState.accountedBytes := Dict.sum_modify _ fun _ => rfl
    unfold accountedBytes
    rw [hsame]
    exact h.totals.bytes

theorem Sound.rejected (h : Sound env ps) (hrejected : Rejected c ps ps') : Sound env ps' := by
  rcases hrejected with rfl | ⟨key, -, rfl⟩
  · exact h
  · exact h.flagged key

theorem Sound.admission {key : PartitionKey} {candidate : PartitionState φ τ} (h : Sound env ps)
    (hadmission : Admission env c key candidate ps ps') : Sound env ps' := by
  obtain ⟨-, hadmitted, haccounted, -⟩ := hadmission
  refine ⟨?_, ?_, hadmitted.totals⟩
  · intro other st hst
    by_cases hother : other = key
    · subst hother
      rw [hadmitted.self] at hst
      cases hst
      exact haccounted
    · exact h.accounted other st (hadmitted.others other st hother hst)
  · intro other st hst
    by_cases hother : other = key
    · subst hother
      rw [hadmitted.self] at hst
      cases hst
      exact withinPartition_of_exceeds hadmitted.within
    · exact h.within other st (hadmitted.others other st hother hst)

/-- Some bound holds of finitely many inputs. -/
theorem exists_mappingsWithin (inputs : List (Option (Mapping φ) × Option Int)) :
    ∃ bound, MappingsWithin bound inputs := by
  induction inputs with
  | nil => exact ⟨0, nofun⟩
  | cons input inputs ih =>
    obtain ⟨bound, hbound⟩ := ih
    obtain ⟨record, wireBytes⟩ := input
    refine ⟨max bound ((record.map fun m => (Json.obj m.entries : Value φ).depth).getD 0), ?_⟩
    intro m w hmem
    rcases mem_cons.mp hmem with heq | hrest
    · cases heq
      exact le_max_right _ _
    · exact le_trans (hbound m w hrest) (le_max_left _ _)

theorem exists_recordsWithin (records : List (Record φ)) :
    ∃ bound, ∀ r ∈ records, (Json.obj r.1 : Value φ).depth ≤ bound := by
  induction records with
  | nil => exact ⟨0, nofun⟩
  | cons r records ih =>
    obtain ⟨bound, hbound⟩ := ih
    refine ⟨max bound (Json.obj r.1 : Value φ).depth, ?_⟩
    intro r' hr'
    rcases mem_cons.mp hr' with rfl | hrest
    · exact le_max_right _ _
    · exact le_trans (hbound r' hrest) (le_max_left _ _)

theorem depth_of_copyable {rt : Runtime φ} {records : List (Record φ)}
    (h : copyable rt records = true) :
    ∀ r ∈ records, (Json.obj r.1 : Value φ).depth ≤ rt.copyDepth - 2 := by
  intro r hr
  have hdepth := of_decide_eq_true (all_eq_true.mp h r hr)
  omega

section Spec

variable [LinearOrder τ] {env : Env φ τ} {ps : Partitions φ τ}

theorem call_spec (hps : AllAccounted env ps) (c : Call φ τ) :
    wp (call env c)
      (fun _ ps' => ps' = ps ∨ ∃ key candidate, Admission env c key candidate ps ps')
      (fun _ ps' => Rejected c ps ps' ∨
        ¬ Copies env ps c ∧ ∃ key candidate, Admission env c key candidate ps ps') ps := by
  have hdeep : ∀ {records : List (Record φ)}, copyable env.runtime records = false →
      ¬ ∀ r ∈ records, (Json.obj r.1 : Value φ).depth ≤ env.runtime.copyDepth - 2 := by
    intro records hfalse hall
    rw [copyable_of_depth hall] at hfalse
    cases hfalse
  cases c with
  | update partition record wireBytes now =>
    show wp (update env partition record wireBytes now >>= fun _ => pure none) _ _ ps
    rw [wp_bind]
    exact wp_mono (wp_update hps partition record wireBytes now) (fun _ _ h => .inr h)
      fun _ _ h => .inl h
  | rebuild partition hookRecords authorityRefs now =>
    show wp (rebuild env partition hookRecords authorityRefs now >>=
      fun out => pure (some out)) _ _ ps
    rw [wp_bind]
    by_cases hcopies : Copies env ps (.rebuild partition hookRecords authorityRefs now)
    · refine wp_mono (wp_rebuild partition hookRecords authorityRefs now hcopies)
        (fun _ _ h => .inr h) ?_
      rintro _ ps' (hrejected | ⟨key, candidate, -, hfalse, hdepth⟩)
      · exact .inl hrejected
      · exact absurd hdepth (hdeep hfalse)
    · obtain ⟨bound, hbound⟩ := exists_mappingsWithin hookRecords
      refine wp_mono (wp_rebuild partition hookRecords authorityRefs now hbound)
        (fun _ _ h => .inr h) ?_
      rintro _ ps' (hrejected | ⟨key, candidate, hadmission, -⟩)
      · exact .inl hrejected
      · exact .inr ⟨hcopies, key, candidate, hadmission⟩
  | reconcile partition authorityState authorityRef now later =>
    show wp (reconcile env partition authorityState authorityRef now later >>=
      fun out => pure (some out)) _ _ ps
    rw [wp_bind]
    by_cases hcopies : Copies env ps (.reconcile partition authorityState authorityRef now later)
    · refine wp_mono (wp_reconcile hps partition authorityState authorityRef now later
        (fun key st hkey hst => depth_of_copyable (hcopies.1 key st hkey hst)) hcopies.2)
        (fun _ _ h => h) ?_
      rintro _ ps' (hrejected | ⟨key, candidate, -, hfalse, hdepth⟩)
      · exact .inl hrejected
      · exact absurd hdepth (hdeep hfalse)
    · obtain ⟨bound, hbound⟩ : ∃ bound, (∀ key st, partitionKey partition = .ok key →
          ps.get? key = some st → ∀ r ∈ st.records, (Json.obj r.1 : Value φ).depth ≤ bound) ∧
          ∀ m, authorityState = some m → (Json.obj m.entries : Value φ).depth ≤ bound := by
        obtain ⟨b₁, h₁⟩ : ∃ bound, ∀ key st, partitionKey partition = .ok key →
            ps.get? key = some st →
            ∀ r ∈ st.records, (Json.obj r.1 : Value φ).depth ≤ bound := by
          cases hkey : partitionKey partition with
          | error e => exact ⟨0, nofun⟩
          | ok key =>
            cases hst : ps.get? key with
            | none =>
              refine ⟨0, ?_⟩
              rintro _ st ⟨⟩ hst'
              rw [hst] at hst'
              cases hst'
            | some st =>
              obtain ⟨bound, hbound⟩ := exists_recordsWithin st.records
              refine ⟨bound, ?_⟩
              rintro _ st' ⟨⟩ hst'
              rw [hst] at hst'
              cases hst'
              exact hbound
        obtain ⟨b₂, h₂⟩ := exists_mappingsWithin [(authorityState, none)]
        refine ⟨max b₁ b₂, ?_, ?_⟩
        · intro key st hkey hst r hr
          exact le_trans (h₁ key st hkey hst r hr) (le_max_left _ _)
        · rintro m rfl
          exact le_trans (h₂ m none mem_cons_self) (le_max_right _ _)
      refine wp_mono (wp_reconcile hps partition authorityState authorityRef now later
        hbound.1 hbound.2) (fun _ _ h => h) ?_
      rintro _ ps' (hrejected | ⟨key, candidate, hadmission, -⟩)
      · exact .inl hrejected
      · exact .inr ⟨hcopies, key, candidate, hadmission⟩
  | read partition now =>
    show wp (read env partition now >>= fun out => pure (some out)) _ _ ps
    rw [wp_bind]
    exact wp_mono (wp_read env ps partition now) (fun _ _ h => .inl h)
      fun _ _ h => .inl (.inl h.1)

/-- The two ways a call can leave the partitions. -/
theorem step_cases (hps : AllAccounted env ps) (c : Call φ τ) :
    Rejected c ps (step env ps c).2 ∨
      ∃ key candidate, Admission env c key candidate ps (step env ps c).2 := by
  apply (wp_state (P := fun ps' => Rejected c ps ps' ∨
    ∃ key candidate, Admission env c key candidate ps ps')).mp
  refine wp_mono (call_spec hps c) ?_ ?_
  · rintro _ ps' (heq | hadmission)
    · exact .inl (.inl heq)
    · exact .inr hadmission
  · rintro _ ps' (hrejected | ⟨-, hadmission⟩)
    · exact .inl hrejected
    · exact .inr hadmission

theorem Sound.step (h : Sound env ps) (c : Call φ τ) : Sound env (step env ps c).2 := by
  rcases step_cases h.accounted c with hrejected | ⟨key, candidate, hadmission⟩
  · exact h.rejected hrejected
  · exact h.admission hadmission

theorem reachable_sound (h : Machine.Reachable (step env) Dict.empty ps) : Sound env ps :=
  h.induction (.empty env) fun _ c hs => hs.step c

end Spec

/-- The accounted total is what is retained. -/
theorem AllAccounted.total (h : AllAccounted env ps) :
    retainedBytes env.runtime ps.entries = some (accountedBytes ps) := by
  have hentries : ∀ es : List (PartitionKey × PartitionState φ τ),
      (∀ e ∈ es, Accounted env.runtime e.1 e.2) →
      retainedBytes env.runtime es = some ((es.map fun e => e.2.accountedBytes).sum) := by
    intro es hes
    induction es with
    | nil => rfl
    | cons e es ih =>
      obtain ⟨key, st⟩ := e
      obtain ⟨total, htotal, hbytes⟩ := (hes _ mem_cons_self).bytes
      rw [retainedBytes, htotal, ih fun e he => hes e (mem_cons_of_mem _ he),
        map_cons, sum_cons]
      dsimp only at hbytes ⊢
      rw [hbytes]
      rfl
  rw [hentries ps.entries fun e he => h e.1 e.2 (Dict.mem_iff_get?.mp he)]
  unfold accountedBytes
  rw [← Dict.sum_perm (List.Perm.refl _)]

/-! ### The memory's contract -/

section Contract

variable [LinearOrder τ]

omit [LinearOrder τ] in
theorem Rejected.keeps (h : Rejected c ps ps') {key : PartitionKey} {st : PartitionState φ τ}
    (hst : ps.get? key = some st) : ps'.get? key ≠ none := by
  rcases h with rfl | ⟨target, -, rfl⟩
  · rw [hst]
    nofun
  · rw [Dict.get?_modify]
    by_cases hkey : key = target
    · subst hkey
      rw [if_pos rfl, hst]
      nofun
    · rw [if_neg hkey, hst]
      nofun

/-- In every reachable state the accounted bytes are exactly those of the retained keys and
    units, every partition and the whole are within their caps, a partition disappears only
    in a call that admits a partition that was not there, and a call that raises changes the
    flag of its partition at most, if `copy.deepcopy` can follow what the call hands out. -/
theorem hook_stm_accounting (env : Env φ τ) (ps : Partitions φ τ)
    (h : Machine.Reachable (step env) Dict.empty ps) :
    retainedBytes env.runtime ps.entries = some (accountedBytes ps) ∧
    (∀ key st, ps.get? key = some st → WithinPartition env.limits st) ∧
    WithinTotals env.limits ps ∧
    (∀ c evicted st, ps.get? evicted = some st → (step env ps c).2.get? evicted = none →
      ∃ key candidate, partitionKey c.partition = .ok key ∧ ps.get? key = none ∧
        (step env ps c).2.get? key = some candidate) ∧
    ∀ c, Copies env ps c → (step env ps c).1.isOk = false → Rejected c ps (step env ps c).2 := by
  have hsound := reachable_sound h
  refine ⟨hsound.accounted.total, hsound.within, hsound.totals, ?_, ?_⟩
  · intro c evicted st hst hgone
    rcases step_cases hsound.accounted c with hrejected | ⟨key, candidate, hadmission⟩
    · exact absurd hgone (hrejected.keeps hst)
    · exact ⟨key, candidate, hadmission.target, hadmission.admitted.evicted evicted st hst hgone,
        hadmission.admitted.self⟩
  · intro c hcopies hraised
    rcases hrun : step env ps c with ⟨e | answer, ps'⟩
    · have hspec := wp_error (call_spec hsound.accounted c) hrun
      rcases hspec with hrejected | ⟨hnot, -⟩
      · exact hrejected
      · exact absurd hcopies hnot
    · rw [hrun] at hraised
      cases hraised

end Contract

/-! ### A rebuild that raises after the swap -/

/-- An interpreter without floats whose recursion limit is low. -/
def shallowRuntime : Runtime Unit where
  finite _ := false
  floatText _ := []
  toFloat _ := ()
  maxDigits := some 4300
  jsonDepth := 20
  copyDepth := 6
  floatReads _ h := nomatch h

def shallowEnv : Env Unit Nat where
  runtime := shallowRuntime
  limits := Limits.of {}
  expired refreshedAt now := decide (1800 ≤ now - refreshedAt)

def shallowPartition : StmPartition := { projectRef := .lit "proj-1", deviceId := .lit "device-01" }

/-- A record whose only field is a text. -/
def flatRecord : Mapping Unit :=
  ⟨[(.lit "state", .str (.lit "RUNNING"))], by simp [Json.Distinct, Json.DistinctEntries]⟩

/-- A record that nests deeper than `copy.deepcopy` follows, though the codec reads it. -/
def deepRecord : Mapping Unit :=
  ⟨[(.lit "nested", .arr [.arr [.arr [.arr [.arr []]]]])],
    by simp [Json.Distinct, Json.DistinctEntries, Json.DistinctItems]⟩

theorem hook_stm_accounting_refused :
    let ps := (Machine.run (step shallowEnv) Dict.empty
      [.update shallowPartition (some flatRecord) (some 17) 0]).2
    let refused : Call Unit Nat := .update shallowPartition (some flatRecord) (some (-1)) 1
    retainedBytes shallowEnv.runtime ps.entries = some (accountedBytes ps) ∧
      Rejected refused ps (step shallowEnv ps refused).2 := by
  have h := hook_stm_accounting shallowEnv
    (Machine.run (step shallowEnv) Dict.empty
      [.update shallowPartition (some flatRecord) (some 17) 0]).2 ⟨_, rfl⟩
  exact ⟨h.1, h.2.2.2.2 (.update shallowPartition (some flatRecord) (some (-1)) 1) trivial
    (by decide +kernel)⟩

/-- The records of the partition: one, then two after the rebuild that raised. -/
theorem hook_stm_rebuild_swaps_and_raises :
    let before := (Machine.run (step shallowEnv) Dict.empty
      [.update shallowPartition (some flatRecord) (some 17) 0]).2
    let after := step shallowEnv before
      (.rebuild shallowPartition [(some deepRecord, some 17), (some deepRecord, some 17)] [] 1)
    after.1.isOk = false ∧
      before.values.map (fun st => st.records.length) = [1] ∧
      after.2.values.map (fun st => st.records.length) = [2] := by
  decide +kernel

end AConductor.Stm

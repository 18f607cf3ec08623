import AConductor.HookStm.Units

/-!
# What an admission does

`_admit` (`hook_stm.py:296-344`) either swaps in a dictionary with the candidate in place,
from which victims are gone only where the candidate's partition is new, or raises and leaves
the target flagged at most. The totals the loop over the victims carries along are those of
the dictionary with the victims removed (`chooseVictims_load`), so a load that fits is a
dictionary within the caps.
-/

namespace AConductor.Stm

open List Txn Dict

variable {φ τ : Type}

/-- The retained units: Hook pairs, references, and the pointer of the last reconciliation. -/
def PartitionState.units (st : PartitionState φ τ) : List (Value φ) :=
  st.records.map Record.unit ++ st.authorityRefs.map Json.str ++
    st.reconciliationRef.toList.map Json.str

/-- The accounted bytes are the key's and those of every unit. -/
structure Accounted (rt : Runtime φ) (key : PartitionKey) (st : PartitionState φ τ) : Prop where
  bytes : ∃ total, bytesOf rt st.units = some total ∧ st.accountedBytes = keyBytes key + total
  distinct : ∀ r ∈ st.records, (Json.obj r.1 : Value φ).Distinct

variable {key : PartitionKey} {ps : Partitions φ τ} {env : Env φ τ} {candidate : PartitionState φ τ}

theorem Accounted.flagged {rt : Runtime φ} {st : PartitionState φ τ}
    (h : Accounted rt key st) : Accounted rt key st.flagged := ⟨h.bytes, h.distinct⟩

/-- Nothing but the flag of one partition may have changed. -/
def Unchanged (key : PartitionKey) (ps ps' : Partitions φ τ) : Prop :=
  ps' = ps ∨ ps' = ps.modify key PartitionState.flagged

theorem Unchanged.refl (key : PartitionKey) (ps : Partitions φ τ) : Unchanged key ps ps := .inl rfl

theorem Unchanged.flag {ps ps' : Partitions φ τ} (h : Unchanged key ps ps') :
    Unchanged key ps (ps'.modify key PartitionState.flagged) := by
  rcases h with rfl | rfl
  · exact .inr rfl
  · rw [modify_modify]
    exact .inr rfl

/-- `_capacity_failure` never returns. -/
theorem wp_capacityFailure {α : Type} {ps ps' : Partitions φ τ} {Q : α → Partitions φ τ → Prop}
    (h : Unchanged key ps ps') :
    wp (capacityFailure key) Q (fun _ after => Unchanged key ps after) ps' := by
  unfold capacityFailure
  rw [wp_bind, wp_update, wp_raise]
  exact h.flag

theorem wp_checkCandidate {count size : Nat} : wp (checkCandidate env key count size)
      (fun _ ps' => ps' = ps ∧ env.limits.exceeds count size = false)
      (fun _ ps' => Unchanged key ps ps') ps := by
  unfold checkCandidate
  rw [wp_ite]
  constructor
  · intro _
    exact wp_capacityFailure (.refl key ps)
  · intro h
    rw [wp_pure]
    exact ⟨rfl, Bool.not_eq_true _ ▸ h⟩

theorem wp_orCapacityFailure {α : Type} {x : Txn (Partitions φ τ) Failure α}
    {Q : α → Partitions φ τ → Prop} (h : wp x Q (fun _ ps' => Unchanged key ps ps') ps) :
    wp (orCapacityFailure key x) Q (fun _ ps' => Unchanged key ps ps') ps := by
  unfold orCapacityFailure
  rw [wp_bind, wp_attempt]
  unfold wp at h
  rcases hx : x ps with ⟨e | a, ps'⟩
  · rw [hx] at h
    cases e with
    | stm e => exact wp_capacityFailure h
    | unicodeError => exact h
    | unserializable => exact h
    | recursionError => exact h
    | noMapping => exact h
  · rw [hx] at h
    exact h

/-- The caps over all partitions. -/
structure WithinTotals (limits : Limits) (ps : Partitions φ τ) : Prop where
  partitions : ps.size ≤ limits.maxPartitions
  records : recordCount ps ≤ limits.recordsTotal
  bytes : accountedBytes ps ≤ limits.bytesTotal

/-- The totals of a dictionary with one more partition. -/
def loadOf (ps : Partitions φ τ) (candidate : PartitionState φ τ) : Load :=
  ⟨ps.size + 1, recordCount ps + candidate.unitCount,
    accountedBytes ps + candidate.accountedBytes⟩

theorem loadOf_erase {st candidate : PartitionState φ τ} (h : ps.get? key = some st) :
    loadOf (ps.erase key) candidate = (loadOf ps candidate).without st := by
  have hsize : 1 ≤ ps.size := by
    unfold Dict.size
    rw [(perm_of_get? h).length_eq, length_cons]
    omega
  have hcount := sum_of_mem PartitionState.unitCount (mem_of_get? h)
  have hbytes := sum_of_mem PartitionState.accountedBytes (mem_of_get? h)
  unfold loadOf Load.without recordCount accountedBytes
  rw [size_erase h, hcount, hbytes]
  rw [Load.mk.injEq]
  dsimp only
  omega

/-- What `_admit` computes first are the totals of the replacement without evictions. -/
theorem loadWith_eq (ps : Partitions φ τ) (key : PartitionKey) (candidate : PartitionState φ τ) :
    loadWith ps (ps.get? key) candidate = loadOf (ps.erase key) candidate := by
  cases hprior : ps.get? key with
  | none => rw [erase_of_absent hprior]; rfl
  | some prior => rw [loadOf_erase hprior]; rfl

theorem withinTotals_set {limits : Limits}
    (h : (loadOf (ps.erase key) candidate).fits limits = true) :
    WithinTotals limits (ps.set key candidate) := by
  unfold Load.fits loadOf at h
  obtain ⟨hsize, hcount, hbytes⟩ := of_decide_eq_true h
  dsimp only at hsize hcount hbytes
  refine ⟨?_, ?_, ?_⟩
  · rw [size_set]
    exact hsize
  · unfold recordCount at hcount ⊢
    rw [Dict.sum_set, Nat.add_comm]
    exact hcount
  · unfold accountedBytes at hbytes ⊢
    rw [Dict.sum_set, Nat.add_comm]
    exact hbytes

/-- The loop over the victims carries the totals of what is left. -/
theorem chooseVictims_load (limits : Limits) (candidate : PartitionState φ τ)
    (es : List (PartitionKey × PartitionState φ τ)) (ps : Partitions φ τ)
    (hes : ∀ e ∈ es, ps.get? e.1 = some e.2) (hnodup : (es.map Prod.fst).Nodup) :
    (chooseVictims limits (loadOf ps candidate) es).2 =
      loadOf ((chooseVictims limits (loadOf ps candidate) es).1.foldl erase ps)
        candidate := by
  induction es generalizing ps with
  | nil => rfl
  | cons e es ih =>
    obtain ⟨key, st⟩ := e
    have hkey : ps.get? key = some st := hes _ mem_cons_self
    obtain ⟨hnot, htail⟩ := nodup_cons.mp hnodup
    have hrest : ∀ e ∈ es, (ps.erase key).get? e.1 = some e.2 := by
      intro e he
      have hne : e.1 ≠ key := by
        intro heq
        exact hnot (mem_map.mpr ⟨e, he, heq⟩)
      rw [get?_erase, if_neg hne]
      exact hes e (mem_cons_of_mem _ he)
    unfold chooseVictims
    rw [← loadOf_erase hkey]
    by_cases hfits : (loadOf (ps.erase key) candidate).fits limits = true
    · rw [if_pos hfits]
      rfl
    · rw [if_neg hfits]
      exact ih (ps.erase key) hrest htail

theorem mem_evictionOrder [LinearOrder τ] {now : τ} {e : PartitionKey × PartitionState φ τ} :
    e ∈ evictionOrder env now ps ↔ e ∈ ps.entries := mem_insertionSort _

/-- The dictionary an admission swaps in. -/
structure Admitted (env : Env φ τ) (key : PartitionKey) (candidate : PartitionState φ τ)
    (ps ps' : Partitions φ τ) : Prop where
  within : env.limits.exceeds candidate.unitCount candidate.accountedBytes = false
  totals : WithinTotals env.limits ps'
  self : ps'.get? key = some candidate
  others : ∀ other st, other ≠ key → ps'.get? other = some st → ps.get? other = some st
  evicted : ∀ other st, ps.get? other = some st → ps'.get? other = none → ps.get? key = none

theorem admitted_replacement {victims : List PartitionKey}
    (hwithin : env.limits.exceeds candidate.unitCount candidate.accountedBytes = false)
    (hvictims : victims = [] ∨ ps.get? key = none)
    (hfits : (loadOf ((victims.foldl erase ps).erase key) candidate).fits env.limits = true) :
    Admitted env key candidate ps (replacement ps victims key candidate) := by
  refine ⟨hwithin, withinTotals_set hfits, get?_set_self _ _ _, ?_, ?_⟩
  · intro other st hne hother
    unfold replacement at hother
    rw [get?_set, if_neg hne, get?_foldl_erase] at hother
    by_cases hmem : other ∈ victims
    · rw [if_pos hmem] at hother
      cases hother
    · rwa [if_neg hmem] at hother
  · intro other st hother hgone
    rcases hvictims with rfl | hnew
    · unfold replacement at hgone
      rw [get?_set, foldl_nil, hother] at hgone
      by_cases hkey : other = key
      · rw [if_pos hkey] at hgone
        cases hgone
      · rw [if_neg hkey] at hgone
        cases hgone
    · exact hnew

theorem wp_admitCandidate [LinearOrder τ] (env : Env φ τ) (key : PartitionKey) (candidate : PartitionState φ τ)
    (ps : Partitions φ τ) :
    wp (admitCandidate env key candidate)
      (fun _ ps' => Admitted env key candidate ps ps') (fun _ ps' => Unchanged key ps ps') ps := by
  unfold admitCandidate
  rw [wp_bind]
  refine wp_mono wp_checkCandidate ?_ fun _ _ h => h
  rintro _ ps' ⟨hps, hwithin⟩
  subst hps
  rw [wp_bind, wp_query]
  dsimp only [id]
  rw [loadWith_eq, wp_ite]
  constructor
  · intro hfits
    rw [wp_update]
    exact admitted_replacement hwithin (.inl rfl) hfits
  · intro _
    rw [wp_ite]
    constructor
    · intro _
      exact wp_capacityFailure (.refl key ps')
    · intro hprior
      have hnew : ps'.get? key = none := Option.not_isSome_iff_eq_none.mp hprior
      rw [erase_of_absent hnew]
      have hnodup : ((evictionOrder env candidate.refreshedAt ps').map Prod.fst).Nodup :=
        ((perm_insertionSort _ ps'.entries).map Prod.fst).nodup_iff.mpr ps'.nodup
      have hload := chooseVictims_load env.limits candidate
        (evictionOrder env candidate.refreshedAt ps') ps'
        (fun e he => mem_iff_get?.mp (mem_evictionOrder.mp he)) hnodup
      rw [wp_ite]
      constructor
      · intro hfits
        rw [wp_update]
        refine admitted_replacement hwithin (.inr hnew) ?_
        have hstill : ∀ victims : List PartitionKey,
            (victims.foldl erase ps').get? key = none := by
          intro victims
          rw [get?_foldl_erase, hnew, ite_self]
        rw [erase_of_absent (hstill _), ← hload]
        exact hfits
      · intro _
        exact wp_capacityFailure (.refl key ps')

end AConductor.Stm

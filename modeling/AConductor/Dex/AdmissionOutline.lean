import AConductor.Dex.Admission
import AConductor.Lib.RelyGuarantee

/-!
# DEX: the outline of a decision

`decide` is used on its own and inside the wire, under invariants that say different
things. `HostsDecide` lists what an invariant has to grant; what a decision then leaves
behind (`Decided`) is the same for both.
-/

namespace AConductor.Dex

open Execution Interleave Proc

variable {ε : Type} {journaled : Nat → Bool} {hash : DexBindingIdentity → String}

/-- What an issuer with a journal remembers is what the journal holds. -/
def Remembers (journaled : Nat → Bool) (s : DexState) : Prop :=
  ∀ issuer key record, journaled issuer = true → s.records issuer key = some record →
    s.store.admission? key = some record

variable {s : DexState} {issuer : Nat} {record : AdmissionRecord} {key : AttemptKey}
  {outage : Option StoreFault} {binding : DexBindingIdentity} {args : DecideArgs}

theorem Remembers.store (h : Remembers journaled s) {store : ExecutionStore}
    (hg : s.store.Grows store) : Remembers journaled { s with store } := by
  intro issuer key record hj hrecord
  exact hg.admissions key record (h issuer key record hj hrecord)

theorem Remembers.remember (h : Remembers journaled s)
    (hrecord : journaled issuer = true → s.store.admission? key = some record) :
    Remembers journaled (s.remember issuer key record) := by
  intro n k r hj hr
  simp only [DexState.remember] at hr
  split at hr
  · rename_i hnk
    obtain ⟨rfl, rfl⟩ := hnk
    cases hr
    exact hrecord hj
  · exact h n k r hj hr

theorem Remembers.forget (h : Remembers journaled s) (issuer : Nat) :
    Remembers journaled (s.forget issuer) := by
  intro n k r hj hr
  simp only [DexState.forget] at hr
  split at hr
  · cases hr
  · exact h n k r hj hr

theorem remembers_boot (store : ExecutionStore) : Remembers journaled (DexState.boot store) := by
  intro issuer key record _ h
  cases h

variable {α : Type} {tx : ExecutionStore → Except StoreFault α × ExecutionStore}

/-- A store operation, reached or not, changes the store only as the operation does. -/
theorem onStore_grows {s s' : DexState} {r : Except StoreFault α}
    (h : onStore outage tx s = (r, s'))
    (htx : ∀ out store', tx s.store = (out, store') → s.store.Grows store') :
    s.store.Grows s'.store ∧ s' = { s with store := s'.store } := by
  unfold onStore at h
  cases outage with
  | some fault =>
    cases h
    exact ⟨.refl _, rfl⟩
  | none =>
    cases h
    exact ⟨htx _ _ rfl, rfl⟩

theorem onStore_ok {s s' : DexState} {a : α} (h : onStore outage tx s = (.ok a, s')) :
    tx s.store = (.ok a, s'.store) := by
  unfold onStore at h
  cases outage with
  | some fault => cases h
  | none =>
    obtain ⟨hr, rfl⟩ := Prod.mk.inj h
    exact Prod.ext hr rfl

/-- An invariant under which a call may decide: it implies that memory and journal
    agree, and a write that leaves no note and keeps that is silent. -/
structure HostsDecide (P : Protocol DexState ε) (journaled : Nat → Bool) : Prop where
  grows : ∀ s s', P.Grows s s' ↔ s.store.Grows s'.store
  remembers : ∀ s trace, P.Inv s trace → Remembers journaled s
  silent : ∀ s s' trace, P.Inv s trace → s.store.Grows s'.store → Remembers journaled s' →
    P.Inv s' trace

/-- The details of the two replay conflicts, which say nothing about the decision. -/
def replayConflicts : List String := [replayBindingConflict, replayGenerationConflict]

/-- What the outcome of a decision says about the journal: an admission is the
    journaled decision and binds the presented binding; a denial that is no replay
    conflict is the journaled decision too. -/
def Decided (journaled : Nat → Bool) (hash : DexBindingIdentity → String) (issuer : Nat)
    (binding : DexBindingIdentity) (s : DexState) : Except DecideFault AdmissionRecord → Prop
  | .ok record => record.admitted = true ∧ record.bindingDigest = hash binding ∧
    (journaled issuer = true → s.store.admission? binding.key = some record)
  | .error (.denied _ detail) => detail ∉ replayConflicts → journaled issuer = true →
    ∃ record, s.store.admission? binding.key = some record ∧ record.admitted = false
  | .error (.raised _) => True

theorem Decided.grows {s s' : DexState} {out : Except DecideFault AdmissionRecord}
    (h : Decided journaled hash issuer binding s out) (hg : s.store.Grows s'.store) :
    Decided journaled hash issuer binding s' out := by
  match out, h with
  | .ok record, ⟨hadmitted, hdigest, hrow⟩ =>
    exact ⟨hadmitted, hdigest, fun hj => hg.admissions _ _ (hrow hj)⟩
  | .error (.denied _ _), h =>
    intro hdetail hj
    obtain ⟨record, hrow, hdenied⟩ := h hdetail hj
    exact ⟨record, hg.admissions _ _ hrow, hdenied⟩
  | .error (.raised _), _ => trivial

/-! ### The pure parts -/

theorem make_ok {r record : AdmissionRecord} (h : AdmissionRecord.make r = .ok record) :
    record = r := by
  unfold AdmissionRecord.make at h
  split at h
  · cases h
  · cases h
    rfl

theorem decideFresh_ok {claimView : ClaimView} {digest : String}
    (h : decideFresh binding claimView digest = .ok record) :
    record.key = binding.key ∧ record.bindingDigest = digest := by
  unfold decideFresh at h
  cases hm : AdmissionRecord.make (freshDecision binding claimView digest) with
  | error e =>
    rw [hm] at h
    cases h
  | ok made =>
    rw [hm] at h
    cases h
    rw [make_ok hm]
    unfold freshDecision
    split
    · exact ⟨rfl, rfl⟩
    · split
      · exact ⟨rfl, rfl⟩
      · split
        · exact ⟨rfl, rfl⟩
        · exact ⟨rfl, rfl⟩

theorem decided_conclude (hdigest : record.bindingDigest = hash binding)
    (hrow : journaled issuer = true → s.store.admission? binding.key = some record) :
    Decided journaled hash issuer binding s (conclude record) := by
  unfold conclude
  cases hadmitted : record.admitted with
  | false => exact fun _ hj => ⟨record, hrow hj, hadmitted⟩
  | true => exact ⟨hadmitted, hdigest, hrow⟩

theorem decided_replay {existing : AdmissionRecord}
    (hrow : journaled issuer = true → s.store.admission? args.binding.key = some existing) :
    Decided journaled hash issuer args.binding s (replay args (hash args.binding) existing) := by
  unfold replay
  split
  · intro hdetail
    simp [replayConflicts] at hdetail
  · rename_i hsame
    have hdigest : existing.bindingDigest = hash args.binding := by
      by_contra hne
      exact hsame (.inl hne)
    split
    · intro hdetail
      simp [replayConflicts] at hdetail
    · cases hadmitted : existing.admitted with
      | false => exact fun _ hj => ⟨existing, hrow hj, hadmitted⟩
      | true => exact ⟨hadmitted, hdigest, hrow⟩

/-! ### The steps -/

/-- What an issuer found out about an identity, in memory or in the journal. -/
def Known (journaled : Nat → Bool) (issuer : Nat) (key : AttemptKey)
    (existing : Option AdmissionRecord) (s : DexState) : Prop :=
  ∀ record, existing = some record → journaled issuer = true →
    s.store.admission? key = some record

/-- A part of a decision returns with `ψ`, or raises what its surroundings raised. -/
def OrRaised {α : Type} (ψ : α → DexState → Prop) : Except DecideFault α → DexState → Prop
  | .ok a, s => ψ a s
  | .error fault, _ => ∃ e, fault = .raised e

/-- A fact about the state that later states keep. -/
def Lasting (φ : DexState → Prop) : Prop :=
  ∀ s s' : DexState, s.store.Grows s'.store → φ s → φ s'

theorem lasting_known {existing : Option AdmissionRecord} :
    Lasting (Known journaled issuer key existing) :=
  fun _ _ hg h record hr hj => hg.admissions _ _ (h record hr hj)

section Outlines

variable {P : Protocol DexState ε} {i : Nat} {notes : List ε} {φ : DexState → Prop}
  {ψ : α → DexState → Prop}

theorem outline_silent (h : HostsDecide P journaled) {α β : Type}
    {tx : DexState → β × DexState} {k : β → Proc DexState ε α} {Q : α → Assertion DexState ε}
    (htx : ∀ s r s', tx s = (r, s') → Remembers journaled s → φ s →
      s.store.Grows s'.store ∧ Remembers journaled s' ∧
      ∃ ψ, Lasting ψ ∧ ψ s' ∧ Outline P i (k r) (fun s own => own = notes ∧ ψ s) Q) :
    Outline P i (transact tx >>= k) (fun s own => own = notes ∧ φ s) Q := by
  apply outline_transact
  intro s trace r s' hstep hinv hA
  obtain ⟨hg, hremembers, ψ, hψ, hψs, hk⟩ := htx s r s' hstep (h.remembers s trace hinv) hA.2
  refine ⟨h.silent s s' trace hinv hg hremembers, (h.grows s s').mpr hg,
    fun s own => own = notes ∧ ψ s, ?_, ⟨hA.1, hψs⟩, hk⟩
  intro s₁ s₂ own hg' hA'
  exact ⟨hA'.1, hψ s₁ s₂ ((h.grows s₁ s₂).mp hg') hA'.2⟩

theorem outline_lookup (h : HostsDecide P journaled) :
    Outline P i (lookup issuer key : DecideProc ε _).run (fun _ own => own = notes ∧ True)
      (fun r s own => own = notes ∧ OrRaised (Known journaled issuer key) r s) := by
  show Outline P i (transact _ >>= fun a => ret (Except.ok a)) _ _
  apply outline_silent h
  intro s r s' hstep hremembers _
  cases hstep
  refine ⟨.refl _, hremembers, Known journaled issuer key (s.records issuer key), lasting_known,
    ?_, outline_ret fun _ _ hA => hA⟩
  intro record hr hj
  exact hremembers issuer key record hj hr

theorem outline_remember (h : HostsDecide P journaled)
    : Outline P i (remember issuer key record : DecideProc ε Unit).run
      (fun s own => own = notes ∧ Known journaled issuer key (some record) s)
      (fun r s own => own = notes ∧
        OrRaised (fun _ => Known journaled issuer key (some record)) r s) := by
  show Outline P i (transact _ >>= fun a => ret (Except.ok a)) _ _
  apply outline_silent h
  intro s r s' hstep hremembers hknown
  cases hstep
  exact ⟨.refl _, hremembers.remember (hknown record rfl), Known journaled issuer key (some record),
    lasting_known, hknown, outline_ret fun _ _ hA => hA⟩

theorem outline_journaledCall (h : HostsDecide P journaled) (hψ : ∀ a, Lasting (ψ a))
    (hgrows : ∀ store out store', tx store = (out, store') → store.Grows store')
    (hok : ∀ (s s' : DexState) a, φ s → tx s.store = (.ok a, s'.store) → ψ a s') :
    Outline P i (journaledCall outage tx : DecideProc ε α).run (fun s own => own = notes ∧ φ s)
      (fun r s own => own = notes ∧ OrRaised ψ r s) := by
  show Outline P i (transact _ >>= ret) _ _
  apply outline_silent h
  intro s r s' hstep hremembers hφ
  rcases hout : onStore outage tx s with ⟨out, s₁⟩
  simp only [hout, Prod.mk.injEq] at hstep
  obtain ⟨rfl, rfl⟩ := hstep
  obtain ⟨hg, hsame⟩ := onStore_grows hout fun out store' => hgrows s.store out store'
  refine ⟨hg, by rw [hsame]; exact hremembers.store hg, ?_⟩
  cases out with
  | error e =>
    exact ⟨fun _ => True, fun _ _ _ _ => trivial, trivial,
      outline_ret fun _ _ hA => ⟨hA.1, e, rfl⟩⟩
  | ok a =>
    exact ⟨ψ a, hψ a, hok s s₁ a hφ (onStore_ok hout), outline_ret fun _ _ hA => hA⟩

theorem journalLoad_state {s s' : ExecutionStore} {r : Except StoreFault (Option AdmissionRecord)}
    (h : journalLoad key s = (r, s')) : s' = s := by
  unfold journalLoad at h
  rcases hload : loadAdmissionDecision key s with ⟨out, s₁⟩
  rw [hload] at h
  match out, hload with
  | .error e, hload =>
    cases h
    exact loadAdmissionDecision_error hload
  | .ok none, hload =>
    cases h
    exact (loadAdmissionDecision_ok hload).1
  | .ok (some row), hload =>
    cases h
    exact (loadAdmissionDecision_ok hload).1

theorem journalLoad_ok {s s' : ExecutionStore} {r : Option AdmissionRecord}
    (h : journalLoad key s = (.ok r, s')) : r = s.admission? key := by
  unfold journalLoad at h
  rcases hload : loadAdmissionDecision key s with ⟨out, s₁⟩
  rw [hload] at h
  match out, hload with
  | .error e, hload => cases h
  | .ok none, hload =>
    cases h
    exact (loadAdmissionDecision_ok hload).2
  | .ok (some row), hload =>
    cases hm : AdmissionRecord.make row with
    | error e =>
      simp only [hm] at h
      cases h
    | ok made =>
      simp only [hm] at h
      cases h
      rw [make_ok hm]
      exact (loadAdmissionDecision_ok hload).2

theorem outline_consult (h : HostsDecide P journaled) (known : Option AdmissionRecord) :
    Outline P i (consult journaled issuer args known : DecideProc ε _).run
      (fun s own => own = notes ∧ Known journaled issuer args.binding.key known s)
      (fun r s own => own = notes ∧
        OrRaised (Known journaled issuer args.binding.key) r s) := by
  cases known with
  | some existing => exact outline_ret fun _ _ hA => hA
  | none =>
    unfold consult
    by_cases hj : journaled issuer = true
    · rw [if_pos hj]
      refine outline_tryBind (outline_journaledCall h
        (ψ := Known journaled issuer args.binding.key) (fun _ => lasting_known) ?_ ?_)
        (fun _ _ _ hA => hA) ?_
      · intro store out store' hload
        rw [journalLoad_state hload]
        exact .refl store
      · intro s s' existing _ hload record hrecord _
        rw [journalLoad_state hload, ← journalLoad_ok hload, hrecord]
      · intro existing
        cases existing with
        | none => exact outline_ret fun _ _ hA => hA
        | some record =>
          exact outline_tryBind (outline_remember h) (fun _ _ _ hA => hA) fun _ =>
            outline_ret fun _ _ hA => hA
    · rw [if_neg hj]
      exact outline_ret fun _ _ hA => hA

theorem find?_admission_append {store : ExecutionStore} {decision : AdmissionDecisionRow}
    (h : store.admission? decision.key = none) :
    ({ store with admissions := store.admissions ++ [decision] } : ExecutionStore).admission?
      decision.key = some decision := by
  unfold ExecutionStore.admission? at h ⊢
  rw [List.find?_append, h]
  simp

theorem outline_journalRecord (h : HostsDecide P journaled) (hkey : record.key = args.binding.key) :
    Outline P i (journalRecord journaled issuer args record : DecideProc ε Unit).run
      (fun s own => own = notes ∧ φ s)
      (fun r s own => own = notes ∧
        OrRaised (fun _ => Known journaled issuer args.binding.key (some record)) r s) := by
  unfold journalRecord
  by_cases hj : journaled issuer = true
  · rw [if_pos hj]
    refine outline_journaledCall h (fun _ => lasting_known) (fun _ _ _ => grows_recordAdmission) ?_
    intro s s' u _ hrecord r hr _
    cases hr
    rw [← hkey]
    rcases recordAdmissionDecision_ok hrecord with ⟨hrow, hsame⟩ | ⟨hnone, hsame⟩
    · rw [hsame]
      exact hrow
    · rw [hsame]
      exact find?_admission_append hnone
  · rw [if_neg hj]
    refine outline_ret fun s own hA => ⟨hA.1, ?_⟩
    intro r _ hj'
    exact absurd hj' hj

theorem decided_of_raised (e : DecideFault) (s : DexState) (own : List ε)
    (hA : own = notes ∧ OrRaised ψ (.error e) s) :
    own = notes ∧ Decided journaled hash issuer binding s (.error e) := by
  obtain ⟨hown, fault, rfl⟩ := hA
  exact ⟨hown, trivial⟩

theorem outline_settle (h : HostsDecide P journaled) :
    Outline P i (settle journaled hash issuer args : DecideProc ε _).run
      (fun s own => own = notes ∧ φ s)
      (fun r s own => own = notes ∧ Decided journaled hash issuer args.binding s r) := by
  unfold settle
  cases hfresh : decideFresh args.binding args.claimView (hash args.binding) with
  | error fault =>
    refine outline_ret fun s own hA => ?_
    unfold decideFresh at hfresh
    cases hm : AdmissionRecord.make (freshDecision args.binding args.claimView (hash args.binding))
      with
    | error e =>
      rw [hm] at hfresh
      cases hfresh
      exact ⟨hA.1, trivial⟩
    | ok made =>
      rw [hm] at hfresh
      cases hfresh
  | ok record =>
    obtain ⟨hkey, hdigest⟩ := decideFresh_ok hfresh
    show Outline P i (journalRecord journaled issuer args record >>= fun _ =>
      remember issuer args.binding.key record >>= fun _ =>
      ExceptT.mk (pure (conclude record)) : DecideProc ε _).run _ _
    refine outline_tryBind (outline_journalRecord h hkey) decided_of_raised fun _ => ?_
    refine outline_tryBind (outline_remember h) decided_of_raised fun _ => ?_
    refine outline_ret fun s own hA => ⟨hA.1, ?_⟩
    exact decided_conclude hdigest (hA.2 record rfl)

/-- What `decide` leaves behind, whatever others do meanwhile. -/
theorem outline_decide (h : HostsDecide P journaled) :
    Outline P i (decide journaled hash issuer args : DecideProc ε _).run
      (fun _ own => own = notes)
      (fun r s own => own = notes ∧ Decided journaled hash issuer args.binding s r) := by
  unfold decide
  have known : Outline P i (lookup issuer args.binding.key : DecideProc ε _).run
      (fun _ own => own = notes)
      (fun r s own => own = notes ∧ OrRaised (Known journaled issuer args.binding.key) r s) :=
    (outline_lookup h).strengthen fun _ _ hown => ⟨hown, trivial⟩
  refine outline_tryBind known decided_of_raised ?_
  intro found
  have consulted : Outline P i (consult journaled issuer args found : DecideProc ε _).run
      (fun s own => own = notes ∧ OrRaised (Known journaled issuer args.binding.key) (.ok found) s)
      (fun r s own => own = notes ∧ OrRaised (Known journaled issuer args.binding.key) r s) :=
    outline_consult h found
  refine outline_tryBind consulted decided_of_raised ?_
  intro existing
  cases existing with
  | none => exact outline_settle h
  | some record =>
    refine outline_ret fun s own hA => ⟨hA.1, ?_⟩
    exact decided_replay (hA.2 record rfl)

end Outlines

end AConductor.Dex

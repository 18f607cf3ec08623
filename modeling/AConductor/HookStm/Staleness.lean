import AConductor.HookStm.Accounting

/-!
# Staleness

A partition is stale once its flag is set or its age has reached the TTL. `reconcile` carries
an expiry over into the flag of what it admits (`hook_stm.py:506-513`); `update` carries the
flag alone (370-377), so an expired partition whose flag is not set is fresh again after it.
Where no update does that, a partition once read as stale is never read as fresh before it is
rebuilt, or is gone and admitted anew.
-/

namespace AConductor.Stm

open List Txn Machine

variable {φ τ : Type}

/-- The clock readings of a call, in order. -/
def Call.readings : Call φ τ → List τ
  | .update _ _ _ now => [now]
  | .rebuild _ _ _ now => [now]
  | .reconcile _ _ _ now later => [now, later]
  | .read _ now => [now]

/-- The clock of a run does not go back. -/
abbrev NonDecreasing [LinearOrder τ] (calls : List (Call φ τ)) : Prop :=
  (calls.flatMap Call.readings).Pairwise (· ≤ ·)

/-- A partition that has expired stays expired. -/
def Env.Ages [LinearOrder τ] (env : Env φ τ) : Prop :=
  ∀ refreshedAt now later, now ≤ later → env.expired refreshedAt now = true →
    env.expired refreshedAt later = true

/-- What a read at an instant reports of a partition. -/
def reported (env : Env φ τ) (now : τ) : Option (PartitionState φ τ) → ReadState
  | none => .unknown
  | some st => if st.rebuildRequired || env.expired st.refreshedAt now then .stale else .fresh

/-- The partition, where there is one, is stale at an instant. -/
def Lapsed (env : Env φ τ) (key : PartitionKey) (now : τ) (ps : Partitions φ τ) : Prop :=
  ∀ st, ps.get? key = some st →
    st.rebuildRequired = true ∨ env.expired st.refreshedAt now = true

variable {key : PartitionKey} {ps : Partitions φ τ} {partition : StmPartition}

theorem wp_read_reported (env : Env φ τ) (hkey : partitionKey partition = .ok key) (now : τ) :
    wp (read env partition now) (fun r _ => r.state = reported env now (ps.get? key))
      (fun _ _ => True) ps := by
  unfold read
  rw [wp_bind, hkey, wp_ofExcept_ok, wp_bind, wp_query]
  dsimp only [id]
  cases hst : ps.get? key with
  | none => exact rfl
  | some st =>
    dsimp only
    rw [wp_bind]
    exact wp_ofExcept_of_ok fun _ _ => rfl

section Runs

variable [LinearOrder τ] {env : Env φ τ}

/-- The report of a `read` call. -/
theorem step_read_reported (hkey : partitionKey partition = .ok key) {now : τ} {r : StmReadResult φ}
    (h : (step env ps (.read partition now)).1 = .ok (some r)) :
    r.state = reported env now (ps.get? key) := by
  have hspec : wp (call env (.read partition now))
      (fun out _ => ∀ r, out = some r → r.state = reported env now (ps.get? key))
      (fun _ _ => True) ps := by
    show wp (read env partition now >>= fun out => pure (some out)) _ _ ps
    rw [wp_bind]
    refine wp_mono (wp_read_reported env hkey now) ?_ fun _ _ h => h
    rintro r' _ hr' _ ⟨⟩
    exact hr'
  have hrun : call env (.read partition now) ps =
      (.ok (some r), (step env ps (.read partition now)).2) := Prod.ext h rfl
  have hok := wp_ok hspec hrun
  exact hok r rfl

/-- A call makes the partition fresh in one of the two ways allowed: a rebuild of it that
    returns, or an update that admits it anew. -/
def Renews (env : Env φ τ) (key : PartitionKey) (ps : Partitions φ τ) (c : Call φ τ) : Prop :=
  match c with
  | .rebuild partition .. =>
    partitionKey partition = .ok key ∧ (step env ps c).1.isOk = true
  | .update partition .. =>
    partitionKey partition = .ok key ∧ ps.get? key = none ∧ (step env ps c).1.isOk = true
  | _ => False

/-- The calls that keep a stale partition stale: an update that returns has found the flag set
    or the partition within its TTL, and `copy.deepcopy` can follow what a rebuild is given. -/
def KeepsStale (env : Env φ τ) (key : PartitionKey) (ps : Partitions φ τ) (c : Call φ τ) : Prop :=
  match c with
  | .update partition _ _ now =>
    partitionKey partition = .ok key → (step env ps c).1.isOk = true →
      ∀ st, ps.get? key = some st →
        st.rebuildRequired = true ∨ env.expired st.refreshedAt now = false
  | .rebuild partition hookRecords _ _ =>
    partitionKey partition = .ok key → MappingsWithin (env.runtime.copyDepth - 2) hookRecords
  | _ => True

omit [LinearOrder τ] in
/-- A call that raises leaves a lapsed partition lapsed. -/
theorem Rejected.lapsed {c : Call φ τ} {ps ps' : Partitions φ τ} {now : τ} (h : Rejected c ps ps')
    (hlapsed : Lapsed env key now ps) : Lapsed env key now ps' := by
  rcases h with rfl | ⟨target, -, rfl⟩
  · exact hlapsed
  · intro st hst
    rw [Dict.get?_modify] at hst
    by_cases hkey : key = target
    · rw [if_pos hkey] at hst
      obtain ⟨st₀, -, rfl⟩ := Option.map_eq_some_iff.mp hst
      exact .inl rfl
    · rw [if_neg hkey] at hst
      exact hlapsed st hst

/-- One call, at an instant not before the one the partition lapsed at. -/
theorem Lapsed.step {lapsed : τ} {c : Call φ τ} (hages : env.Ages) (hps : AllAccounted env ps)
    (hclock : ∀ t ∈ c.readings, lapsed ≤ t) (hrenews : ¬ Renews env key ps c)
    (hkeeps : KeepsStale env key ps c) (h : Lapsed env key lapsed ps) :
    Lapsed env key lapsed (step env ps c).2 := by
  have hcases : Rejected c ps (Stm.step env ps c).2 ∨ (((Stm.step env ps c).1.isOk = true ∨
      ¬ Copies env ps c) ∧
      ∃ target candidate, Admission env c target candidate ps (Stm.step env ps c).2) := by
    rcases hrun : Stm.step env ps c with ⟨e | answer, ps'⟩
    · rcases wp_error (call_spec hps c) hrun with hrejected | ⟨hnot, hadmission⟩
      · exact .inl hrejected
      · exact .inr ⟨.inr hnot, hadmission⟩
    · rcases wp_ok (call_spec hps c) hrun with heq | hadmission
      · exact .inl (.inl heq)
      · exact .inr ⟨.inl rfl, hadmission⟩
  rcases hcases with hrejected | ⟨hok, target, candidate, hadmission⟩
  · exact hrejected.lapsed h
  · obtain ⟨htarget, hadmitted, -, hrefreshes⟩ := hadmission
    intro st hst
    by_cases hkey : key = target
    · subst hkey
      rw [hadmitted.self] at hst
      cases hst
      cases c with
      | update partition record wireBytes now =>
        have hreturned : (Stm.step env ps (.update partition record wireBytes now)).1.isOk =
            true := hok.elim id fun hnot => absurd trivial hnot
        obtain ⟨-, hflag⟩ := hrefreshes
        cases hprior : ps.get? key with
        | none => exact absurd ⟨htarget, hprior, hreturned⟩ hrenews
        | some prior =>
          rw [hprior] at hflag
          rw [hflag]
          rcases hkeeps htarget hreturned prior hprior with hset | hfresh
          · exact .inl hset
          · rcases h prior hprior with hset | hexpired
            · exact .inl hset
            · rw [hages _ _ _ (hclock now mem_cons_self) hexpired] at hfresh
              cases hfresh
      | rebuild partition hookRecords authorityRefs now =>
        rcases hok with hreturned | hnot
        · exact absurd ⟨htarget, hreturned⟩ hrenews
        · exact absurd (hkeeps htarget) hnot
      | reconcile partition authorityState authorityRef now later =>
        obtain ⟨-, prior, hprior, hflag⟩ := hrefreshes
        left
        rw [hflag, Bool.or_eq_true]
        rcases h prior hprior with hset | hexpired
        · exact .inl hset
        · exact .inr (hages _ _ _ (hclock now mem_cons_self) hexpired)
      | read partition now => exact hrefreshes.elim
    · exact h st (hadmitted.others key st hkey hst)

/-- In a run whose clock does not go back, a partition that was read as stale is read as stale
    or as unknown again and again, as long as no rebuild of it returns and no update admits it
    anew, if no update that returns finds it expired without the flag. -/
theorem hook_stm_stale_until_rebuilt (env : Env φ τ) (hages : env.Ages)
    (partition : StmPartition) (key : PartitionKey) (hkey : partitionKey partition = .ok key)
    (before between : List (Call φ τ)) (lapsed last : τ)
    (hclock : NonDecreasing (before ++ .read partition lapsed :: (between ++
      [.read partition last])))
    (first : StmReadResult φ)
    (hfirst : (step env (run (step env) Dict.empty before).2
      (.read partition lapsed)).1 = .ok (some first))
    (hstale : first.state = .stale)
    (hbetween : Along (step env)
      (fun ps c => ¬ Renews env key ps c ∧ KeepsStale env key ps c)
      (step env (run (step env) Dict.empty before).2 (.read partition lapsed)).2 between)
    (later : StmReadResult φ)
    (hlater : (step env (run (step env) Dict.empty
      (before ++ .read partition lapsed :: between)).2 (.read partition last)).1 =
        .ok (some later)) :
    later.state = .stale ∨ later.state = .unknown := by
  generalize hps : (run (step env) Dict.empty before).2 = ps at hfirst hbetween
  have hsound : Sound env ps := hps ▸ reachable_sound ⟨before, rfl⟩
  -- the clock readings from the first read on
  have hreadings : ∀ t ∈ (between ++ [Call.read partition last]).flatMap Call.readings,
      lapsed ≤ t := by
    unfold NonDecreasing at hclock
    rw [flatMap_append, flatMap_cons] at hclock
    have hrest := (pairwise_append.mp hclock).2.1
    exact (pairwise_cons.mp hrest).1
  have hlapsed : Lapsed env key lapsed ps := by
    have hreport := step_read_reported hkey hfirst
    intro st hst
    rw [hstale, hst] at hreport
    unfold reported at hreport
    dsimp only at hreport
    by_cases hold : (st.rebuildRequired || env.expired st.refreshedAt lapsed) = true
    · exact (Bool.or_eq_true _ _).mp hold
    · rw [if_neg hold] at hreport
      cases hreport
  have hread : (step env ps (.read partition lapsed)).2 = ps := by
    have hspec := wp_read env ps partition lapsed
    have hstate : wp (call env (.read partition lapsed)) (fun _ ps' => ps' = ps)
        (fun _ ps' => ps' = ps) ps := by
      show wp (read env partition lapsed >>= fun out => pure (some out)) _ _ ps
      rw [wp_bind]
      exact wp_mono hspec (fun _ _ h => h) fun _ _ h => h.1
    exact (wp_state (P := fun ps' => ps' = ps)).mp hstate
  rw [hread] at hbetween
  have hend := hbetween.kept (P := fun ps => Sound env ps ∧ Lapsed env key lapsed ps)
    (fun ps c hc hfit hinv => ⟨hinv.1.step c, hinv.2.step hages hinv.1.accounted
      (fun t ht => hreadings t (mem_flatMap.mpr ⟨c, mem_append_left _ hc, ht⟩))
      hfit.1 hfit.2⟩) ⟨hsound, hlapsed⟩
  rw [run_append_state, hps] at hlater
  have hstate : (run (step env) ps (.read partition lapsed :: between)).2 =
      (run (step env) ps between).2 := by
    show (run (step env) (step env ps (.read partition lapsed)).2 between).2 = _
    rw [hread]
  rw [hstate] at hlater
  have hreport := step_read_reported hkey hlater
  have hlast : lapsed ≤ last :=
    hreadings last (mem_flatMap.mpr ⟨Call.read partition last,
      mem_append_right _ mem_cons_self, mem_cons_self⟩)
  cases hst : (run (step env) ps between).2.get? key with
  | none =>
    rw [hst] at hreport
    exact .inr hreport
  | some st =>
    rw [hst] at hreport
    left
    rw [hreport]
    unfold reported
    dsimp only
    rcases hend.2 st hst with hset | hexpired
    · rw [hset, Bool.true_or]
      rfl
    · rw [hages _ _ _ hlast hexpired, Bool.or_true]
      rfl

end Runs

/-! ### An update of an expired partition -/

/-- What a call reports, if it reports anything. -/
def report (answer : Answer φ) : Option ReadState :=
  answer.toOption.bind fun out => out.map StmReadResult.state

theorem report_eq_some {answer : Answer φ} {state : ReadState} (h : report answer = some state) :
    ∃ r, answer = .ok (some r) ∧ r.state = state := by
  cases answer with
  | error e => cases h
  | ok out =>
    cases out with
    | none => cases h
    | some r =>
      cases h
      exact ⟨r, rfl, rfl⟩

/-- An update of a flagged partition neither renews it nor clears the flag. -/
theorem flagged_fits [LinearOrder τ] {env : Env φ τ} {st : PartitionState φ τ}
    (hst : ps.get? key = some st) (hflag : st.rebuildRequired = true) {record : Option (Mapping φ)}
    {wireBytes : Option Int} {now : τ} :
    ¬ Renews env key ps (.update partition record wireBytes now) ∧
      KeepsStale env key ps (.update partition record wireBytes now) := by
  constructor
  · rintro ⟨-, hnone, -⟩
    rw [hst] at hnone
    cases hnone
  · intro _ _ st' hst'
    rw [hst] at hst'
    cases hst'
    exact .inl hflag

/-- The first write of the run below, and the calls between its two reads. -/
def firstUpdate : List (Call Unit Nat) := [.update shallowPartition (some flatRecord) (some 17) 0]

def staleCalls : List (Call Unit Nat) :=
  [.reconcile shallowPartition (some flatRecord) (some (.lit "auth://fresh")) 1800 1800,
    .update shallowPartition (some flatRecord) (some 17) 1801]

def shallowKey : PartitionKey :=
  ⟨.lit "proj-1", .lit "UNBOUND_TASK", .lit "device-01", .lit "UNBOUND_LANE"⟩

theorem shallowEnv_ages : shallowEnv.Ages := by
  intro refreshedAt now later hle hexpired
  have hage : 1800 ≤ now - refreshedAt := of_decide_eq_true hexpired
  exact decide_eq_true (by omega)

theorem hook_stm_stale_after_reconcile :
    ∃ later, (step shallowEnv (run (step shallowEnv) Dict.empty
        (firstUpdate ++ .read shallowPartition 1800 :: staleCalls)).2
        (.read shallowPartition 1802)).1 = .ok (some later) ∧
      (later.state = .stale ∨ later.state = .unknown) := by
  have hfirst : report (step shallowEnv (run (step shallowEnv) Dict.empty firstUpdate).2
      (.read shallowPartition 1800)).1 = some .stale := by decide +kernel
  have hlater : report (step shallowEnv (run (step shallowEnv) Dict.empty
      (firstUpdate ++ .read shallowPartition 1800 :: staleCalls)).2
      (.read shallowPartition 1802)).1 = some .stale := by decide +kernel
  have hflagged : ((step shallowEnv (step shallowEnv (run (step shallowEnv) Dict.empty
      firstUpdate).2 (.read shallowPartition 1800)).2 (.reconcile shallowPartition
      (some flatRecord) (some (.lit "auth://fresh")) 1800 1800)).2.get? shallowKey).map
      PartitionState.rebuildRequired = some true := by decide +kernel
  obtain ⟨first, hreturned, hstale⟩ := report_eq_some hfirst
  obtain ⟨later, hread, -⟩ := report_eq_some hlater
  have hbetween : Along (step shallowEnv)
      (fun ps c => ¬ Renews shallowEnv shallowKey ps c ∧ KeepsStale shallowEnv shallowKey ps c)
      (step shallowEnv (run (step shallowEnv) Dict.empty firstUpdate).2
        (.read shallowPartition 1800)).2 staleCalls := by
    unfold staleCalls Along
    refine ⟨⟨id, trivial⟩, ?_⟩
    obtain ⟨st, hst, hflag⟩ := Option.map_eq_some_iff.mp hflagged
    exact ⟨flagged_fits hst hflag, trivial⟩
  exact ⟨later, hread, hook_stm_stale_until_rebuilt shallowEnv shallowEnv_ages shallowPartition
    shallowKey (by decide +kernel) firstUpdate staleCalls 1800 1802 (by decide) first hreturned
    hstale hbetween later hread⟩

/-- Read as stale at 1800, updated, and read as fresh. -/
theorem hook_stm_update_freshens :
    (run (step shallowEnv) Dict.empty
      (firstUpdate ++ [.read shallowPartition 1800,
        .update shallowPartition (some flatRecord) (some 17) 1800,
        .read shallowPartition 1800])).1.map (fun a => report a.2) =
      [none, some .stale, none, some .fresh] := by
  decide +kernel

end AConductor.Stm

import AConductor.Lifecycle.Executor

/-!
# The lifecycle journal is a prefix of the plan

`src/a_conductor/lifecycle_executor.py:107-195`, `lifecycle_journal.py:124-232` and
`lifecycle_recovery.py:65-156`. In every round the journal of a fresh transaction holds the
steps already done, numbered from 1; a round adds the next one or ends the loop. `load` gives
these back, and the resumption finds them at the front of the plan.
-/

namespace AConductor.Lifecycle

open Txn List Except

/-- What the resumption compares of a row with the plan. -/
def CheckpointRow.numbered (r : CheckpointRow) : Nat × String × String :=
  (r.sequenceNo, r.action, r.step)

/-- The steps as they are to be journaled, numbered from `first`. -/
def planned (action : LifecycleAction) : Nat → List LifecycleStep → List (Nat × String × String)
  | _, [] => []
  | first, step :: rest => (first, action.value, step.value) :: planned action (first + 1) rest

theorem planned_append (action : LifecycleAction) (first : Nat) (done rest : List LifecycleStep) :
    planned action first (done ++ rest) =
      planned action first done ++ planned action (first + done.length) rest := by
  induction done generalizing first with
  | nil => rfl
  | cons step done ih =>
    rw [cons_append, planned, planned, ih, cons_append, length_cons]
    congr 3
    omega

@[simp] theorem length_planned (action : LifecycleAction) (first : Nat)
    (steps : List LifecycleStep) : (planned action first steps).length = steps.length := by
  induction steps generalizing first with
  | nil => rfl
  | cons step rest ih => simp [planned, ih]

variable {steps : List LifecycleStep}

/-- The numbers run from `first` to one below the end. -/
theorem planned_number {action : LifecycleAction} {first : Nat}
    {entry : Nat × String × String} (h : entry ∈ planned action first steps) :
    first ≤ entry.1 ∧ entry.1 < first + steps.length := by
  induction steps generalizing first with
  | nil => cases h
  | cons step rest ih =>
    rw [length_cons]
    rcases mem_cons.mp h with rfl | hrest
    · dsimp only
      omega
    · have hbounds := ih hrest
      omega

/-! ### Recording -/

theorem initializeJournal_rows (j : LifecycleJournal) :
    wp initializeJournal (fun _ j' => j'.rows = j.rows) (fun _ j' => j'.rows = j.rows) j := by
  unfold initializeJournal
  rw [wp_bind, wp_query]
  split
  · rfl
  · simp only [wp_require]
    exact ⟨fun _ => trivial, fun _ => trivial⟩

variable {j : LifecycleJournal} {checkpoint : LifecycleCheckpoint} {transactionId : String}
  {plan : LifecyclePlan} {p : Progress}

/-- A checkpoint whose number is not in the journal is added, or nothing is written. -/
theorem record_rows
    (hnew : ∀ r ∈ j.rowsOf checkpoint.transactionId, r.sequenceNo ≠ checkpoint.sequenceNo) :
    wp (record checkpoint) (fun _ j' => j'.rows = j.rows ++ [checkpoint.row])
      (fun _ j' => j'.rows = j.rows) j := by
  unfold record
  rw [wp_bind]
  apply wp_ofExcept_of
  · intro _ _
    rw [wp_bind]
    refine wp_mono (initializeJournal_rows j) ?_ fun _ _ he => he
    intro _ j₁ hrows
    have hbody : wp (recordBody checkpoint) (fun _ j' => j'.rows = j.rows ++ [checkpoint.row])
        (fun _ _ => True) j₁ := by
      have hsame : j₁.rowsOf checkpoint.transactionId = j.rowsOf checkpoint.transactionId := by
        unfold LifecycleJournal.rowsOf
        rw [hrows]
      have hnone : (j.rowsOf checkpoint.transactionId).find?
          (fun r => r.sequenceNo = checkpoint.sequenceNo) = none := by
        rw [List.find?_eq_none]
        intro r hr
        simpa using hnew r hr
      unfold recordBody
      rw [wp_bind, wp_query, hsame, hnone]
      simp only [wp_bind, wp_require, wp_update]
      exact ⟨fun _ => by rw [hrows], fun _ => trivial⟩
    show wp (atomically (recordBody checkpoint) : JournalTxn Unit) _ _ j₁
    apply wp_intro
    · intro _ j' hok
      have hadded := atomically_ok hbody hok
      exact hadded
    · intro e j' herror
      have hkept : (atomically (recordBody checkpoint) j₁).2 = j₁ :=
        atomically_error (congrArg Prod.fst herror)
      rw [herror] at hkept
      rw [show j' = j₁ from hkept, hrows]
  · intro _ _
    rfl

/-- Whatever the sink does, it adds the checkpoint or writes nothing, and adds it when it
    returns. -/
theorem SinkBehaviour.record_rows (sink : SinkBehaviour)
    (hnew : ∀ r ∈ j.rowsOf checkpoint.transactionId, r.sequenceNo ≠ checkpoint.sequenceNo) :
    wp (sink.record checkpoint) (fun _ j' => j'.rows = j.rows ++ [checkpoint.row])
      (fun _ j' => j'.rows = j.rows ∨ j'.rows = j.rows ++ [checkpoint.row]) j := by
  have hrecord := Lifecycle.record_rows hnew
  cases sink with
  | records => exact wp_mono hrecord (fun _ _ h => h) fun _ _ h => .inl h
  | failsBefore fault => exact .inl rfl
  | failsAfter fault =>
    unfold SinkBehaviour.record
    rw [wp_bind]
    exact wp_mono hrecord (fun _ _ h => .inr h) fun _ _ h => .inl h

/-! ### The loop -/

/-- What an execution leaves: the journal of the transaction is a prefix of the plan, the
    backend was given at most one step more, and a complete execution has journaled all. -/
structure Journaled (plan : LifecyclePlan) (transactionId : String) (start : LifecycleJournal)
    (out : (Ending × Progress) × LifecycleJournal) : Prop where
  planned : (out.2.rowsOf transactionId).map CheckpointRow.numbered <+:
    planned plan.action 1 plan.steps
  executed : out.1.2.executed <+: plan.steps
  journaled : (out.2.rowsOf transactionId).length ≤ out.1.2.executed.length
  ahead : out.1.2.executed.length ≤ (out.2.rowsOf transactionId).length + 1
  complete : ∀ result, out.1.1 = .returned result → result.state = .complete →
    (out.2.rowsOf transactionId).length = plan.steps.length
  others : ∀ other, other ≠ transactionId → out.2.rowsOf other = start.rowsOf other

/-- The journal holds `noted`, the backend was given `given`. -/
theorem Journaled.of {start : LifecycleJournal}
    {ending : Ending} {noted given : List LifecycleStep}
    (hrows : (j.rowsOf transactionId).map CheckpointRow.numbered = Lifecycle.planned plan.action 1 noted)
    (hgiven : p.executed = given) (hnoted : noted <+: given) (hplan : given <+: plan.steps)
    (hahead : given.length ≤ noted.length + 1)
    (hcomplete : ∀ result, ending = .returned result → result.state = .complete →
      noted = plan.steps)
    (hothers : ∀ other, other ≠ transactionId → j.rowsOf other = start.rowsOf other) :
    Journaled plan transactionId start ((ending, p), j) := by
  have hlength : (j.rowsOf transactionId).length = noted.length := by
    have h := congrArg List.length hrows
    rwa [length_map, length_planned] at h
  obtain ⟨more, hmore⟩ := hnoted.trans hplan
  refine ⟨?_, hgiven ▸ hplan, ?_, ?_, ?_, hothers⟩
  · rw [hrows, ← hmore, planned_append]
    exact prefix_append _ _
  · rw [hlength, hgiven]
    exact hnoted.length_le
  · rw [hlength, hgiven]
    exact hahead
  · intro result hreturned hstate
    rw [hlength, hcomplete result hreturned hstate]

/-- The rows of a transaction after a checkpoint of it, and of another. -/
theorem rowsOf_added {j j' : LifecycleJournal} (h : j'.rows = j.rows ++ [checkpoint.row])
    (other : String) :
    j'.rowsOf other = if other = checkpoint.transactionId then
      j.rowsOf other ++ [checkpoint.row] else j.rowsOf other := by
  unfold LifecycleJournal.rowsOf
  rw [h, filter_append]
  by_cases hother : other = checkpoint.transactionId
  · rw [if_pos hother]
    congr 1
    simp [LifecycleCheckpoint.row, hother]
  · rw [if_neg hother]
    have hne : ¬ checkpoint.transactionId = other := fun heq => hother heq.symm
    simp [LifecycleCheckpoint.row, hne]

theorem rowsOf_same {j j' : LifecycleJournal} (h : j'.rows = j.rows) (other : String) :
    j'.rowsOf other = j.rowsOf other := by
  unfold LifecycleJournal.rowsOf
  rw [h]

theorem uncertain_not_complete {transactionId mutatingCode otherCode : String}
    {step : LifecycleStep} {result : LifecycleExecutionResult}
    (h : p.uncertain transactionId step mutatingCode otherCode = .returned result) :
    result.state ≠ .complete := by
  unfold Progress.uncertain at h
  split at h
  · cases h
    exact nofun
  · cases h
    exact nofun

section Loop

variable {plan : LifecyclePlan} {transactionId : String} {rounds : Nat → Round}
  {start : LifecycleJournal}

theorem executeLoop_journaled (done rest : List LifecycleStep) (hplan : plan.steps = done ++ rest)
    (hexecuted : p.executed = done)
    (hrows : (j.rowsOf transactionId).map CheckpointRow.numbered = planned plan.action 1 done)
    (hothers : ∀ other, other ≠ transactionId → j.rowsOf other = start.rowsOf other) :
    Journaled plan transactionId start
      (executeLoop plan.action transactionId rounds (done.length + 1) rest p j) := by
  induction rest generalizing done p j with
  | nil =>
    rw [append_nil] at hplan
    exact .of hrows hexecuted (prefix_refl _) (hplan ▸ prefix_refl _) (by omega)
      (fun _ _ _ => hplan.symm) hothers
  | cons step rest ih =>
    have hdone : done <+: plan.steps := hplan ▸ prefix_append _ _
    have hgiven : done ++ [step] <+: plan.steps := by
      refine ⟨rest, ?_⟩
      rw [hplan, append_assoc]
      rfl
    have hstep : done <+: done ++ [step] := prefix_append _ _
    have hone : (done ++ [step]).length ≤ done.length + 1 := by simp
    -- the step was given to the backend, and nothing of it is journaled
    have hstopped : ∀ {ending : Ending} {q : Progress} {j' : LifecycleJournal},
        q.executed = done ++ [step] → j'.rows = j.rows →
        (∀ result, ending = .returned result → result.state ≠ .complete) →
        Journaled plan transactionId start ((ending, q), j') := by
      intro ending q j' hq hsame hending
      refine .of ?_ hq hstep hgiven hone ?_ ?_
      · rw [rowsOf_same hsame]
        exact hrows
      · intro result hreturned hstate
        exact absurd hstate (hending result hreturned)
      · intro other hother
        rw [rowsOf_same hsame]
        exact hothers other hother
    unfold executeLoop
    dsimp only
    split
    · refine .of hrows hexecuted (prefix_refl _) hdone (by omega) nofun hothers
    split
    · exact hstopped (by rw [hexecuted]) rfl nofun
    split
    · exact hstopped (by rw [hexecuted]) rfl fun _ h => uncertain_not_complete h
    rename_i result _
    split
    · refine hstopped (by simp [Progress.noteEvidence, hexecuted]) rfl ?_
      intro failed hreturned
      cases hreturned
      unfold Progress.result
      dsimp only
      split
      · exact nofun
      · exact nofun
    split
    · exact hstopped (by simp [Progress.noteEvidence, hexecuted]) rfl nofun
    -- the checkpoint of the step
    have hnew : ∀ r ∈ j.rowsOf transactionId, r.sequenceNo ≠ done.length + 1 := by
      intro r hr heq
      have hmem : r.numbered ∈ planned plan.action 1 done := by
        rw [← hrows]
        exact mem_map_of_mem hr
      have hbounds := (planned_number hmem).2
      dsimp only [CheckpointRow.numbered] at hbounds
      omega
    generalize hcheckpoint : (⟨transactionId, done.length + 1, plan.action, step,
      result.evidenceRef⟩ : LifecycleCheckpoint) = checkpoint
    have hnumbered : checkpoint.row.numbered = (done.length + 1, plan.action.value, step.value) := by
      rw [← hcheckpoint]
      rfl
    have hid : checkpoint.transactionId = transactionId := by rw [← hcheckpoint]
    have hno : checkpoint.sequenceNo = done.length + 1 := by rw [← hcheckpoint]
    have hsink := (rounds (done.length + 1)).sink.record_rows (hid.symm ▸ hno.symm ▸ hnew)
    have hadded : ∀ {j' : LifecycleJournal}, j'.rows = j.rows ++ [checkpoint.row] →
        (j'.rowsOf transactionId).map CheckpointRow.numbered =
            planned plan.action 1 (done ++ [step]) ∧
          ∀ other, other ≠ transactionId → j'.rowsOf other = start.rowsOf other := by
      intro j' hj'
      constructor
      · rw [rowsOf_added hj', if_pos hid.symm, map_append, hrows, planned_append,
          map_singleton, hnumbered, Nat.add_comm 1]
        rfl
      · intro other hother
        rw [rowsOf_added hj', if_neg fun heq => hother (heq.trans hid)]
        exact hothers other hother
    rcases hrecord : (rounds (done.length + 1)).sink.record checkpoint j with ⟨answer, j'⟩
    cases answer with
    | error fault =>
      have hending : ∀ {ending : Ending} {q : Progress}, q.executed = done ++ [step] →
          (∀ result, ending = .returned result → result.state ≠ .complete) →
          Journaled plan transactionId start ((ending, q), j') := by
        intro ending q hq hfailed
        rcases wp_error hsink hrecord with hsame | hmore
        · exact hstopped hq hsame hfailed
        · refine .of (hadded hmore).1 hq (prefix_refl _) hgiven (by omega) ?_ (hadded hmore).2
          intro result hreturned hstate
          exact absurd hstate (hfailed result hreturned)
      dsimp only
      split
      · exact hending (by simp [Progress.noteEvidence, hexecuted]) nofun
      · exact hending (by simp [Progress.noteEvidence, hexecuted])
          fun _ h => uncertain_not_complete h
    | ok _ =>
      have hmore := wp_ok hsink hrecord
      obtain ⟨hnext, hnextOthers⟩ := hadded hmore
      dsimp only
      split
      · exact .of hnext (by simp [Progress.noteEvidence, hexecuted]) (prefix_refl _) hgiven
          (by omega) nofun hnextOthers
      · have hround := ih (done ++ [step]) (by rw [hplan, append_assoc]; rfl)
          (p := { p.noteEvidence result.evidenceRef with
            executed := p.executed ++ [step]
            completedSteps := p.completedSteps ++ [step] })
          (by rw [hexecuted]) hnext hnextOthers
        rw [length_append] at hround
        exact hround

end Loop

/-- An execution of a plan to proceed, on a journal that holds nothing of the transaction. -/
theorem execute_journaled (hproceed : plan.decision = .proceed) {rounds : Nat → Round}
    (hfresh : j.rowsOf transactionId = []) {out : Ending × Progress} {j' : LifecycleJournal}
    (h : execute plan rounds transactionId j = (.ok out, j')) :
    Journaled plan transactionId j (out, j') := by
  unfold execute at h
  split at h
  · cases h
  · rw [hproceed] at h
    cases h
    have hnothing : (j.rowsOf transactionId).map CheckpointRow.numbered =
        planned plan.action 1 [] := by
      rw [hfresh]
      rfl
    exact executeLoop_journaled [] plan.steps rfl rfl hnothing fun _ _ => rfl

/-! ### Loading and resuming -/

theorem planned_take (action : LifecycleAction) (first k : Nat) (steps : List LifecycleStep) :
    (planned action first steps).take k = planned action first (steps.take k) := by
  induction steps generalizing first k with
  | nil => simp [planned]
  | cons step rest ih =>
    cases k with
    | zero => rfl
    | succ k => simp [planned, ih]

theorem planned_sorted (action : LifecycleAction) (first : Nat) (steps : List LifecycleStep) :
    (planned action first steps).Pairwise fun a b => a.1 ≤ b.1 := by
  induction steps generalizing first with
  | nil => exact List.Pairwise.nil
  | cons step rest ih =>
    refine pairwise_cons.mpr ⟨?_, ih (first + 1)⟩
    intro entry hentry
    have hbounds := (planned_number hentry).1
    dsimp only
    omega

/-- The rows of planned steps load, and the resumption takes them for durable. -/
theorem loadCheckpoints_planned (before steps after : List LifecycleStep)
    (hplan : plan.steps = before ++ (steps ++ after)) {rows : List CheckpointRow}
    (hid : ∀ r ∈ rows, r.transactionId = transactionId)
    (hrows : rows.map CheckpointRow.numbered = planned plan.action (before.length + 1) steps) :
    ∃ loaded, loadCheckpoints (before.length + 1) rows = .ok loaded ∧
      loaded.length = steps.length ∧
      durableSteps transactionId plan (before.length + 1) loaded = .ok steps := by
  induction steps generalizing before rows with
  | nil =>
    rw [planned, map_eq_nil_iff] at hrows
    subst hrows
    exact ⟨[], rfl, rfl, rfl⟩
  | cons step steps ih =>
    rw [planned] at hrows
    obtain ⟨row, rest, rfl, hrow, hrest⟩ := map_eq_cons_iff.mp hrows
    obtain ⟨hno, haction, hstep⟩ : row.sequenceNo = before.length + 1 ∧
        row.action = plan.action.value ∧ row.step = step.value := by
      unfold CheckpointRow.numbered at hrow
      simpa using hrow
    have hnext := ih (before ++ [step]) (by rw [hplan, append_assoc]; rfl)
      (fun r hr => hid r (mem_cons_of_mem _ hr))
      (by rw [length_append]; exact hrest)
    rw [length_append] at hnext
    obtain ⟨loaded, hloaded, hlength, hdurable⟩ := hnext
    refine ⟨⟨row.transactionId, row.sequenceNo, plan.action, step, row.evidenceRef⟩ :: loaded,
      ?_, congrArg (· + 1) hlength, ?_⟩
    · unfold loadCheckpoints
      rw [rejectIf_neg (fun hne => hne hno), haction, hstep,
        LifecycleAction.ofValue_value, LifecycleStep.ofValue_value]
      simp only [ok_bind]
      rw [show before.length + 1 + 1 = before.length + [step].length + 1 from rfl, hloaded]
      rfl
    · have hexpected : plan.steps[before.length + 1 - 1]? = some step := by
        rw [hplan, Nat.add_sub_cancel, List.getElem?_append_right (Nat.le_refl _), Nat.sub_self]
        rfl
      unfold durableSteps
      dsimp only
      rw [rejectIf_neg (fun hne => hne (hid row mem_cons_self)),
        rejectIf_neg (fun hne => hne rfl), rejectIf_neg (fun hne => hne hno),
        rejectIf_neg (fun hne => hne hexpected.symm)]
      simp only [ok_bind]
      rw [show before.length + 1 + 1 = before.length + [step].length + 1 from rfl, hdurable]
      rfl

/-- A journal of this schema, or a new one. -/
def LifecycleJournal.Supported (j : LifecycleJournal) : Prop :=
  j.schemaVersion = none ∨ j.schemaVersion = some journalSchemaVersion

theorem initializeJournal_supported (h : j.Supported) :
    ∃ j', initializeJournal j = (.ok (), j') ∧ j'.rows = j.rows ∧ j'.Supported := by
  obtain ⟨version, rows⟩ := j
  rcases h with h | h
  · cases h
    exact ⟨_, rfl, rfl, .inr rfl⟩
  · cases h
    exact ⟨_, rfl, rfl, .inr rfl⟩

theorem recordBody_supported (checkpoint : LifecycleCheckpoint) (h : j.Supported) :
    (atomically (recordBody checkpoint) j).2.Supported := by
  apply atomically_state h
  unfold recordBody
  rw [wp_bind, wp_query]
  split
  · rw [wp_require]
    exact ⟨fun _ => h, fun _ => trivial⟩
  · simp only [wp_bind, wp_require, wp_update]
    exact ⟨fun _ => h, fun _ => trivial⟩

theorem record_supported (checkpoint : LifecycleCheckpoint) (h : j.Supported) :
    (record checkpoint j).2.Supported := by
  apply (wp_state (P := LifecycleJournal.Supported)).mp
  unfold record
  rw [wp_bind]
  apply wp_ofExcept_of
  · intro _ _
    obtain ⟨j₁, hinitialized, -, h₁⟩ := initializeJournal_supported h
    rw [wp_bind]
    apply wp_intro
    · intro _ j' hok
      rw [hinitialized] at hok
      cases hok
      exact wp_state.mpr (recordBody_supported checkpoint h₁)
    · intro _ _ herror
      rw [hinitialized] at herror
      cases herror
  · intro _ _
    exact h

theorem SinkBehaviour.record_supported (sink : SinkBehaviour) (checkpoint : LifecycleCheckpoint)
    (h : j.Supported) : (sink.record checkpoint j).2.Supported := by
  have hrecord := Lifecycle.record_supported checkpoint h
  cases sink with
  | records => exact hrecord
  | failsBefore fault => exact h
  | failsAfter fault =>
    apply (wp_state (P := LifecycleJournal.Supported)).mp
    unfold SinkBehaviour.record
    rw [wp_bind]
    exact wp_state.mpr hrecord

/-- What every call of the sink keeps of the journal, the loop keeps. -/
theorem executeLoop_kept {P : LifecycleJournal → Prop}
    (hrecord : ∀ (sink : SinkBehaviour) checkpoint j, P j → P (sink.record checkpoint j).2)
    {action : LifecycleAction} {rounds : Nat → Round} {sequenceNo : Nat}
    (h : P j) : P (executeLoop action transactionId rounds sequenceNo steps p j).2 := by
  induction steps generalizing sequenceNo p j with
  | nil => exact h
  | cons step rest ih =>
    unfold executeLoop
    dsimp only
    split
    · exact h
    split
    · exact h
    split
    · exact h
    split
    · exact h
    split
    · exact h
    rename_i result _ _ _
    generalize (⟨transactionId, sequenceNo, action, step, result.evidenceRef⟩ :
      LifecycleCheckpoint) = checkpoint
    have hnext := hrecord (rounds sequenceNo).sink checkpoint j h
    split
    · rename_i hout
      rw [hout] at hnext
      split
      · exact hnext
      · exact hnext
    · rename_i hout
      rw [hout] at hnext
      split
      · exact hnext
      · exact ih hnext

/-- What `load` gives back of a journal that is a prefix of the plan, and what the resumption
    makes of it. -/
theorem resume_of_planned (hproceed : plan.decision = .proceed)
    (hblank : Text.isBlank transactionId = false) (hsupported : j.Supported)
    (hplanned : (j.rowsOf transactionId).map CheckpointRow.numbered <+:
      planned plan.action 1 plan.steps) :
    ∃ loaded j' resume, load transactionId j = (.ok loaded, j') ∧
      planLifecycleResume transactionId plan loaded .consistentWithJournal = .ok resume ∧
      resume.durableSteps = plan.steps.take (j.rowsOf transactionId).length ∧
      resume.durableSteps ++ resume.remainingSteps = plan.steps ∧
      (resume.decision = .complete ∧ resume.remainingSteps = [] ∨
        resume.decision = .resume ∧ resume.remainingSteps ≠ []) := by
  generalize hrowsOf : j.rowsOf transactionId = rows at hplanned ⊢
  have hnumbered : rows.map CheckpointRow.numbered =
      planned plan.action 1 (plan.steps.take rows.length) := by
    have htake := prefix_iff_eq_take.mp hplanned
    rwa [length_map, planned_take] at htake
  have hsorted : rows.insertionSort (fun a b => a.sequenceNo ≤ b.sequenceNo) = rows := by
    apply List.Pairwise.insertionSort_eq
    have hpairwise := planned_sorted plan.action 1 (plan.steps.take rows.length)
    rw [← hnumbered, pairwise_map] at hpairwise
    exact hpairwise
  have hid : ∀ r ∈ rows, r.transactionId = transactionId := by
    intro r hr
    rw [← hrowsOf] at hr
    simpa using (mem_filter.mp hr).2
  obtain ⟨loaded, hloaded, hlength, hdurable⟩ := loadCheckpoints_planned [] _
    (plan.steps.drop rows.length) (by simp) hid hnumbered
  have htext : requireText transactionId "transaction_id" = .ok () :=
    rejectIf_neg (by simp [hblank])
  obtain ⟨j₁, hinitialized, hsame, -⟩ := initializeJournal_supported hsupported
  have hload : load transactionId j = (.ok loaded, j₁) := by
    unfold load
    rw [bind_run, htext]
    show (initializeJournal >>= _) j = _
    rw [bind_run, hinitialized]
    dsimp only
    rw [query_bind_run, rowsOf_same hsame, hrowsOf, hsorted]
    exact congrArg (fun answer => (answer, j₁)) hloaded
  have hshort : ¬ plan.steps.length < loaded.length := by
    rw [hlength, length_take]
    omega
  refine ⟨loaded, j₁, ?_⟩
  have hdurable' : durableSteps transactionId plan 1 loaded =
      .ok (plan.steps.take rows.length) := hdurable
  have hdrop : plan.steps.drop (plan.steps.take rows.length).length =
      plan.steps.drop rows.length := by
    rw [length_take]
    rcases Nat.le_total rows.length plan.steps.length with h | h
    · rw [Nat.min_eq_left h]
    · rw [Nat.min_eq_right h, drop_length, drop_eq_nil_of_le h]
  unfold planLifecycleResume
  rw [htext, ok_bind, if_neg (by simp [hproceed]), if_neg hshort]
  simp only [hdurable', hdrop]
  have happend := take_append_drop rows.length plan.steps
  cases hremaining : plan.steps.drop rows.length with
  | nil =>
    rw [hremaining] at happend
    exact ⟨_, hload, rfl, rfl, happend, .inl ⟨rfl, rfl⟩⟩
  | cons next more =>
    rw [hremaining] at happend
    exact ⟨_, hload, rfl, rfl, happend, .inr ⟨rfl, nofun⟩⟩

/-- Whatever the backend and the sink do in each round, and wherever the process dies: an
    execution of a plan to proceed under a transaction id that is not in the journal leaves
    there a prefix of the steps of the plan, numbered from 1, and the rows of other
    transactions as they were; the backend was given these steps and at most one more; a
    complete execution has journaled the whole plan; and the resumption of what is loaded then,
    if it is consistent, splits the plan into the durable and the remaining steps, with
    nothing left exactly when it is complete. -/
theorem lifecycle_journal_planned {plan : LifecyclePlan} (hproceed : plan.decision = .proceed)
    (rounds : Nat → Round) {transactionId : String} {start : LifecycleJournal}
    (hsupported : start.Supported) (hfresh : start.rowsOf transactionId = []) {ending : Ending}
    {progress : Progress} {j : LifecycleJournal}
    (h : execute plan rounds transactionId start = (.ok (ending, progress), j)) :
    let journaled := j.rowsOf transactionId
    journaled.map CheckpointRow.numbered <+: planned plan.action 1 plan.steps ∧
    (∀ other, other ≠ transactionId → j.rowsOf other = start.rowsOf other) ∧
    progress.executed <+: plan.steps ∧
    journaled.length ≤ progress.executed.length ∧
    progress.executed.length ≤ journaled.length + 1 ∧
    (∀ result, ending = .returned result → result.state = .complete →
      journaled.length = plan.steps.length) ∧
    ∃ loaded j' resume, load transactionId j = (.ok loaded, j') ∧
      planLifecycleResume transactionId plan loaded .consistentWithJournal = .ok resume ∧
      resume.durableSteps = plan.steps.take journaled.length ∧
      resume.durableSteps ++ resume.remainingSteps = plan.steps ∧
      (resume.decision = .complete ∧ resume.remainingSteps = [] ∨
        resume.decision = .resume ∧ resume.remainingSteps ≠ []) := by
  intro journaled
  have hjournaled := execute_journaled hproceed hfresh h
  have hblank : Text.isBlank transactionId = false := by
    cases hblank : Text.isBlank transactionId with
    | false => rfl
    | true =>
      have htext : requireText transactionId "transaction_id" =
          .error (.valueError ("transaction_id" ++ " must not be blank")) :=
        rejectIf_pos hblank
      unfold execute at h
      rw [htext] at h
      cases h
  have hkept : j.Supported := by
    unfold execute at h
    split at h
    · cases h
    · rw [hproceed] at h
      obtain ⟨-, rfl⟩ := Prod.mk.inj h
      exact executeLoop_kept (fun sink checkpoint _ hj => sink.record_supported checkpoint hj)
        hsupported
  exact ⟨hjournaled.planned, hjournaled.others, hjournaled.executed, hjournaled.journaled,
    hjournaled.ahead, hjournaled.complete,
    resume_of_planned hproceed hblank hkept hjournaled.planned⟩

/-- A stop whose second checkpoint is lost. -/
def lostCheckpoint (sequenceNo : Nat) : Round where
  backend := some { success := true, evidenceRef := some "e" }
  sink := if sequenceNo = 2 then .failsBefore (.journalError "disk I/O error") else .records
  crash := none

def stopPlan : LifecyclePlan where
  action := .stop
  decision := .proceed
  reasonCode := "STOP_ALLOWED"
  steps := [.verifyAssignment, .targetedStop, .waitExit]

theorem lifecycle_journal_planned_lost :
    let out := execute stopPlan lostCheckpoint "t" ⟨none, []⟩
    out.2.rows.map CheckpointRow.numbered = [(1, "STOP", "VERIFY_ASSIGNMENT")] ∧
    out.1.toOption.map (fun r => r.2.executed) = some [.verifyAssignment, .targetedStop] ∧
    ∃ loaded j' resume, load "t" out.2 = (.ok loaded, j') ∧
      planLifecycleResume "t" stopPlan loaded .consistentWithJournal = .ok resume ∧
      resume.durableSteps ++ resume.remainingSteps = stopPlan.steps := by
  intro out
  refine ⟨by decide +kernel, by decide +kernel, ?_⟩
  have hproceed : stopPlan.decision = .proceed := rfl
  have hsupported : (⟨none, []⟩ : LifecycleJournal).Supported := .inl rfl
  have hfresh : (⟨none, []⟩ : LifecycleJournal).rowsOf "t" = [] := rfl
  obtain ⟨-, -, -, -, -, -, loaded, j', resume, hload, hresume, -, happend, -⟩ :=
    lifecycle_journal_planned hproceed lostCheckpoint hsupported hfresh
      (rfl : execute stopPlan lostCheckpoint "t" ⟨none, []⟩ = _)
  exact ⟨loaded, j', resume, hload, hresume, happend⟩

end AConductor.Lifecycle

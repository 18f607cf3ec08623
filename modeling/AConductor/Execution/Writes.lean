import AConductor.Execution.Log

/-!
# Executions: when a write is accepted

`SQLiteExecutionStore._update` (`src/a_conductor/execution_store.py:712-766`) on a record that can
be read: the store takes the changed record exactly when it passes its own checks and its integers
fit their columns, and then it holds just that record and one event more. The id of an event is
drawn anew for it.
-/

namespace AConductor.Execution

open Txn

/-- The store takes the row as the next state of a record. -/
structure Accepted (next : ExecutionRow) : Prop where
  checked : next.check = .ok ()
  fits : next.fits = true

instance (next : ExecutionRow) : Decidable (Accepted next) :=
  decidable_of_iff (next.check = .ok () ∧ next.fits = true)
    ⟨fun h => ⟨h.1, h.2⟩, fun h => ⟨h.checked, h.fits⟩⟩

/-- An id that no event has. -/
structure FreshDraw (s : ExecutionStore) (draw : String) : Prop where
  spelled : draw.toList.all (· = ' ') = false
  unused : ∀ e ∈ s.events, e.eventId ≠ draw

/-- The store after the change. -/
def ExecutionStore.written (s : ExecutionStore) (row : StoredRecord) (change : ExecutionChange)
    (evidenceRef : Option String) (draw : String) : ExecutionStore :=
  { s with
    records := Table.updateWhere
      (fun r => r.executionId = row.executionId && r.version = row.version)
      (StoredRecord.overwrite (change.apply row.toExecutionRow)) s.records
    events := s.events ++ [(change.apply row.toExecutionRow).event draw
      (s.nextSequence row.executionId) change.eventType evidenceRef] }

/-- The row after the change. -/
def StoredRecord.changed (row : StoredRecord) (change : ExecutionChange) : StoredRecord :=
  StoredRecord.overwrite (change.apply row.toExecutionRow) row

@[simp] theorem changed_row (row : StoredRecord) (change : ExecutionChange) :
    (row.changed change).toExecutionRow = change.apply row.toExecutionRow :=
  overwrite_apply change row

variable {s : ExecutionStore} {evidenceRef : Option String} {E : StoreFault → ExecutionStore → Prop}

theorem lt_nextSequence {id : String} {e : ExecutionEvent} (he : e ∈ s.events)
    (hid : e.executionId = id) : e.sequenceNo < s.nextSequence id := by
  have hmem : e.sequenceNo ∈ (s.eventsOf id).map ExecutionEvent.sequenceNo :=
    List.mem_map_of_mem (List.mem_filter.mpr ⟨he, by simpa using hid⟩)
  unfold ExecutionStore.nextSequence
  cases hmax : ((s.eventsOf id).map ExecutionEvent.sequenceNo).max? with
  | none =>
    rw [List.max?_eq_none_iff] at hmax
    rw [hmax] at hmem
    cases hmem
  | some m =>
    have hle := (List.max?_eq_some_iff.mp hmax).2 _ hmem
    exact Int.lt_add_one_iff.mpr hle

theorem written_record? {row : StoredRecord} {change : ExecutionChange} {draw : String}
    (hrow : s.record? row.executionId = some row) :
    (s.written row change evidenceRef draw).record? row.executionId =
      some (row.changed change) := by
  unfold ExecutionStore.record? ExecutionStore.written at *
  rw [Table.find?_updateWhere (by intro r _; rfl), hrow]
  simp [StoredRecord.changed]

/-- The event of a change is taken when its id is fresh. -/
theorem wp_insertEvent_fresh {row : ExecutionRow} {draw : String} {eventType : ExecutionEventType}
    {Q : Unit → ExecutionStore → Prop}
    (hfresh : FreshDraw s draw)
    (hevidence : requireOptionalText evidenceRef "evidence_ref" = .ok ())
    (hknown : (s.record? row.executionId).isSome = true)
    (hQ : Q () { s with events := s.events ++
      [row.event draw (s.nextSequence row.executionId) eventType evidenceRef] }) :
    wp (insertEvent draw row eventType evidenceRef) Q E s := by
  have hid : Table.conflicts ExecutionEvent.idKey
      (row.event draw (s.nextSequence row.executionId) eventType evidenceRef) s.events = false := by
    rw [Table.conflicts_eq_false]
    intro e he k hk hek
    cases hk
    exact hfresh.unused e he (Option.some_inj.mp hek)
  have hsequence : Table.conflicts ExecutionEvent.sequenceKey
      (row.event draw (s.nextSequence row.executionId) eventType evidenceRef) s.events = false := by
    rw [Table.conflicts_eq_false]
    intro e he k hk hek
    cases hk
    obtain ⟨howner, hnumber⟩ := Prod.mk.inj (Option.some_inj.mp hek)
    have hlt := lt_nextSequence he howner
    rw [hnumber] at hlt
    exact absurd hlt (lt_irrefl _)
  unfold insertEvent
  rw [wp_bind, hevidence, wp_ofExcept_ok]
  simp only [wp_bind, wp_query, wp_require, wp_update, hfresh.spelled, hid, hsequence, hknown,
    Bool.or_self, Bool.not_false, true_imp_iff, Bool.true_eq_false, false_imp_iff, and_true]
  exact hQ

section Write

variable {s : ExecutionStore} {row : StoredRecord} {a : UpdateArgs} {change : ExecutionChange}
  {draw : String}

theorem make_checked {r : ExecutionRow} (hcheck : r.check = .ok ()) :
    DurableExecutionRecord.make r = .ok ⟨r, hcheck⟩ := by
  unfold DurableExecutionRecord.make
  split
  · rfl
  · rename_i e he
    rw [hcheck] at he
    cases he

theorem wp_loadRecord_of {Q : DurableExecutionRecord → ExecutionStore → Prop} {id : String}
    (hrow : s.record? id = some row) (hcheck : row.toExecutionRow.check = .ok ())
    (hQ : Q ⟨row.toExecutionRow, hcheck⟩ s) : wp (loadRecord id) Q E s := by
  unfold loadRecord
  rw [wp_bind, wp_query, hrow]
  dsimp only
  rw [make_checked hcheck]
  exact hQ

theorem loadRecord_run {id : String} (hrow : s.record? id = some row)
    (hcheck : row.toExecutionRow.check = .ok ()) :
    loadRecord id s = (.ok ⟨row.toExecutionRow, hcheck⟩, s) := by
  unfold loadRecord
  rw [query_bind_run, hrow]
  dsimp only
  rw [make_checked hcheck]
  rfl

/-- The store takes an acceptable change, and then holds just that. -/
theorem updateExecution_accepted (hrow : s.record? a.executionId = some row)
    (hcheck : row.toExecutionRow.check = .ok ()) (hargs : a.check = .ok ())
    (hversion : row.version = a.expectedVersion) (hfresh : FreshDraw s draw)
    (haccepted : Accepted (change.apply row.toExecutionRow)) :
    updateExecution a change draw s =
      (.ok ⟨change.apply row.toExecutionRow, haccepted.checked⟩,
        s.written row change a.evidenceRef draw) := by
  obtain ⟨id, version, evidenceRef⟩ := a
  have hid : row.executionId = id := (ExecutionStore.record?_some hrow).2
  have hsame : row.version = version := hversion
  subst hid hsame
  have hevidence : requireOptionalText evidenceRef "evidence_ref" = .ok () := by
    obtain ⟨_, -, h⟩ := Except.bind_eq_ok.mp hargs
    obtain ⟨_, -, h⟩ := Except.bind_eq_ok.mp h
    exact h
  have hbody : wp (updateBody ⟨row.executionId, row.version, evidenceRef⟩ change draw)
      (fun next s' => next = ⟨change.apply row.toExecutionRow, haccepted.checked⟩ ∧
        s' = s.written row change evidenceRef draw) (fun _ _ => False) s := by
    unfold updateBody
    rw [wp_bind]
    refine wp_loadRecord_of hrow hcheck ?_
    have howner : (change.apply row.toExecutionRow).executionId = row.executionId :=
      apply_executionId change row.toExecutionRow
    simp only [wp_bind, wp_require, make_checked haccepted.checked, wp_ofExcept_ok,
      decide_true, true_imp_iff, Bool.true_eq_false, false_imp_iff, and_true, howner,
      haccepted.fits, wp_update]
    refine wp_insertEvent_fresh ⟨hfresh.spelled, hfresh.unused⟩ hevidence ?_ ?_
    · rw [howner]
      have hwritten : (s.written row change evidenceRef draw).record? row.executionId =
          some (row.changed change) := written_record? hrow
      exact Option.isSome_iff_exists.mpr ⟨_, hwritten⟩
    · rw [wp_pure, howner]
      exact ⟨rfl, rfl⟩
  unfold updateExecution checkedTxn
  rw [hargs]
  rcases atomically_spec (E := fun _ => False) hbody with ⟨next, s', heq, rfl, rfl⟩ | ⟨_, -, h⟩
  · exact heq
  · exact h.elim

theorem updateExecution_refused (hrow : s.record? a.executionId = some row)
    (hrefused : ¬ Accepted (change.apply row.toExecutionRow)) :
    ∃ e, updateExecution a change draw s = (.error e, s) := by
  cases hupdate : updateExecution a change draw s with
  | mk r s' =>
    cases r with
    | error e => exact ⟨e, by rw [checkedTxn_error hupdate]⟩
    | ok next =>
      -- What the store returned passed its checks, and the columns took its integers.
      have hfits : next.toExecutionRow = change.apply row.toExecutionRow ∧
          next.toExecutionRow.fits = true := by
        refine checkedTxn_ok (Q := fun next _ => next.toExecutionRow =
          change.apply row.toExecutionRow ∧ next.toExecutionRow.fits = true) hupdate ?_
        unfold updateBody
        rw [wp_bind]
        apply wp_loadRecord
        intro found current hfound hcurrent
        rw [hrow] at hfound
        cases hfound
        simp only [wp_bind, wp_require, implies_true, and_true]
        intro _
        apply wp_ofExcept_of_ok
        intro made hmade _ hfits
        rw [wp_update]
        apply wp_insertEvent
        rw [wp_pure]
        exact ⟨by rw [DurableExecutionRecord.make_ok hmade, hcurrent], hfits⟩
      obtain ⟨hsame, hfits⟩ := hfits
      refine absurd ⟨?_, ?_⟩ hrefused
      · rw [← hsame]
        exact next.checked
      · rw [← hsame]
        exact hfits

end Write

/-- An id that is fresh and not the drawn one is fresh after the write. -/
theorem FreshDraw.written {row : StoredRecord} {change : ExecutionChange}
    {draw other : String} (h : FreshDraw s other)
    (hother : other ≠ draw) : FreshDraw (s.written row change evidenceRef draw) other where
  spelled := h.spelled
  unused := by
    intro e he
    rcases List.mem_append.mp he with he | he
    · exact h.unused e he
    · rw [List.mem_singleton] at he
      subst he
      exact hother.symm

end AConductor.Execution

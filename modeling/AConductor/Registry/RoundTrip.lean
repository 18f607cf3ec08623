import AConductor.Registry.Exclusivity
import AConductor.Registry.Persistence

/-!
# A saved registry loads again

`src/a_conductor/persistence.py:102-232`. `load` replays the rows through the operations of
the registry: every project, every worker without its assignment, then every assignment. What
is still to be replayed is the list of rows that are left, and `Loading` says what the registry
under construction has of the saved one.
-/

namespace AConductor.Registry

open Txn List

/-! ### What the operations guarantee beyond the pairing -/

/-- Projects are under their own ids, a worker has no other runtime than its assignment, and
    a record has the worktree of its project. -/
structure Loadable (normPath : PyStr → Option PyStr) (v : View) : Prop extends Exclusive v where
  projectKey : ∀ k p, v.projects k = some p → p.projectId = k
  runtime : ∀ a r w, v.assignments a = some r → v.workers r.workerId = some w →
    runtimeMismatch w r.assignment = false
  worktree : ∀ a r p, v.assignments a = some r → v.projects r.projectId = some p →
    windowsWorktreeKey normPath p.rootPath = .ok r.worktreeKey

theorem loadable_empty (normPath : PyStr → Option PyStr) :
    Loadable normPath ControlPlaneRegistry.empty.view :=
  ⟨exclusive_empty, nofun, nofun, nofun⟩

theorem runtimeMismatch_congr {w w' : Worker} (h : w'.runtimeId = w.runtimeId) (a : Assignment) :
    runtimeMismatch w' a = runtimeMismatch w a := by
  unfold runtimeMismatch
  rw [h]

/-- The runtimes agree. -/
def RuntimesAgree (v : View) : Prop :=
  ∀ a r w, v.assignments a = some r → v.workers r.workerId = some w →
    runtimeMismatch w r.assignment = false

variable {v : View} {w : Worker} {normPath : PyStr → Option PyStr} {db : RegistryDatabase}
  {V : Type}

theorem RuntimesAgree.setAssignment_none (h : RuntimesAgree v) (a : PyStr) :
    RuntimesAgree (v.setAssignment a none) := by
  intro b r w hr hw
  rcases setAssignment_assignments hr with ⟨-, hnone⟩ | hold
  · cases hnone
  · exact h b r w hold hw

/-- A worker entry is replaced by one of the same runtime. -/
theorem RuntimesAgree.setWorker (h : RuntimesAgree v) {k : PyStr} {w w' : Worker}
    (hw : v.workers k = some w) (hruntime : w'.runtimeId = w.runtimeId) :
    RuntimesAgree (v.setWorker k (some w')) := by
  intro a r x hr hx
  rcases setWorker_workers hx with ⟨hk, heq⟩ | hold
  · cases heq
    rw [runtimeMismatch_congr hruntime]
    exact h a r w hr (hk ▸ hw)
  · exact h a r x hr hold

/-- A record joins that agrees with its worker. -/
theorem RuntimesAgree.setAssignment {r : AssignmentRecord} (h : RuntimesAgree v)
    (hw : v.workers r.workerId = some w) (hruntime : runtimeMismatch w r.assignment = false) :
    RuntimesAgree (v.setAssignment r.assignmentId (some r)) := by
  intro a t x ht hx
  rcases setAssignment_assignments ht with ⟨-, heq⟩ | hold
  · cases heq
    have hsame : w = x := Option.some.inj (hw.symm.trans hx)
    rw [← hsame]
    exact hruntime
  · exact h a t x hold hx

theorem Exclusive.runtimes_effect {v v' : View} (hex : Exclusive v) (h : RuntimesAgree v)
    (he : Effect normPath v v') : RuntimesAgree v' := by
  cases he with
  | none => exact h
  | project p => exact h
  | @worker w fresh free =>
    -- no record is of a worker that is not registered yet
    intro a r x hr hx
    rcases setWorker_workers hx with ⟨hk, -⟩ | hold
    · obtain ⟨y, hy, -⟩ := (hex.linked r.workerId a).mpr ⟨r, hr, rfl⟩
      rw [hk, fresh] at hy
      cases hy
    · exact h a r x hr hold
  | @assigned w w' r fits free same runtime names =>
    have hid : w.workerId = r.workerId := hex.workerKey _ w fits.worker
    exact (h.setAssignment fits.worker fits.runtime).setWorker (hid ▸ fits.worker) runtime
  | @reassigned w w' r old fits held same runtime names =>
    have hid : w.workerId = r.workerId := hex.workerKey _ w fits.worker
    have hfreed := h.setAssignment_none old
    exact (hfreed.setAssignment fits.worker fits.runtime).setWorker (hid ▸ fits.worker) runtime
  | released worker held same runtime free =>
    exact (h.setAssignment_none _).setWorker worker runtime
  | edited worker same runtime kept => exact h.setWorker worker runtime
  | unregistered worker free =>
    intro a r x hr hx
    rcases setWorker_workers hx with ⟨-, hnone⟩ | hold
    · cases hnone
    · exact h a r x hr hold

/-- The record of an assignment has the worktree of its project. -/
def Worktrees (normPath : PyStr → Option PyStr) (v : View) : Prop :=
  ∀ a r p, v.assignments a = some r → v.projects r.projectId = some p →
    windowsWorktreeKey normPath p.rootPath = .ok r.worktreeKey

theorem Worktrees.setAssignment {r : AssignmentRecord} (h : Worktrees normPath v)
    (hproject : ∃ p, v.projects r.projectId = some p ∧
      windowsWorktreeKey normPath p.rootPath = .ok r.worktreeKey) :
    Worktrees normPath (v.setAssignment r.assignmentId (some r)) := by
  intro a t q ht hq
  rcases setAssignment_assignments ht with ⟨-, heq⟩ | hold
  · cases heq
    obtain ⟨p, hp, hkey⟩ := hproject
    have hsame : p = q := Option.some.inj (hp.symm.trans hq)
    rw [← hsame]
    exact hkey
  · exact h a t q hold hq

theorem Worktrees.setAssignment_none (h : Worktrees normPath v) (a : PyStr) :
    Worktrees normPath (v.setAssignment a none) := by
  intro b r p hr hp
  rcases setAssignment_assignments hr with ⟨-, hnone⟩ | hold
  · cases hnone
  · exact h b r p hold hp

theorem Exclusive.worktrees_effect {v v' : View} (hex : Exclusive v) (h : Worktrees normPath v)
    (he : Effect normPath v v') : Worktrees normPath v' := by
  cases he with
  | none => exact h
  | project p fresh =>
    -- the project of a record is registered, so it is not the new one
    intro a r q hr hq
    obtain ⟨known, hknown⟩ := hex.project a r hr
    have hne : r.projectId ≠ p.projectId := by
      intro heq
      rw [heq, fresh] at hknown
      cases hknown
    exact h a r q hr (by simpa [View.setProject, Function.update_apply, hne] using hq)
  | worker fresh free => exact h
  | assigned fits free same runtime names => exact h.setAssignment fits.project
  | reassigned fits held same runtime names =>
    exact (h.setAssignment_none _).setAssignment fits.project
  | released worker held same runtime free => exact h.setAssignment_none _
  | edited worker same runtime kept => exact h
  | unregistered worker free => exact h

theorem projectKeys_effect {v v' : View} (h : ∀ k p, v.projects k = some p → p.projectId = k)
    (he : Effect normPath v v') : ∀ k p, v'.projects k = some p → p.projectId = k := by
  cases he with
  | project p fresh =>
    intro k q hq
    simp only [View.setProject, Function.update_apply] at hq
    split at hq
    · rename_i hk
      cases hq
      exact hk.symm
    · exact h k q hq
  | _ => exact h

theorem Loadable.effect {v v' : View} (h : Loadable normPath v) (he : Effect normPath v v') :
    Loadable normPath v' :=
  ⟨h.toExclusive.effect he, projectKeys_effect h.projectKey he,
    h.toExclusive.runtimes_effect h.runtime he, h.toExclusive.worktrees_effect h.worktree he⟩

theorem reachable_loadable {s : ControlPlaneRegistry}
    (h : Machine.Reachable (registryStep normPath) ControlPlaneRegistry.empty s) :
    Loadable normPath s.view := by
  apply h.induction (P := fun s => Loadable normPath s.view) (loadable_empty normPath)
  intro s call hs
  rcases hout : registryStep normPath s call with ⟨answer, s'⟩
  cases answer with
  | error e =>
    have hsame : s' = s := registryStep_error hout
    subst hsame
    exact hs
  | ok a => exact hs.effect (registryStep_ok hout)

/-! ### Saving -/

/-- The rows are new to the table and have an id each. -/
def FreshIds {Row : Type} (key : Row → PyStr) (table rows : List Row) : Prop :=
  ((table ++ rows).map key).Nodup

variable {Row : Type}

theorem FreshIds.head {key : Row → PyStr} {table rows : List Row} {row : Row}
    (h : FreshIds key table (row :: rows)) : table.any (fun r => key r = key row) = false := by
  unfold FreshIds at h
  rw [map_append, map_cons] at h
  rw [any_eq_false]
  intro r hr heq
  have hdisjoint := (nodup_append.mp h).2.2 (key r) (mem_map_of_mem hr) (key row)
    mem_cons_self
  exact hdisjoint (by simpa using heq)

theorem FreshIds.tail {key : Row → PyStr} {table rows : List Row} {row : Row}
    (h : FreshIds key table (row :: rows)) : FreshIds key (table ++ [row]) rows := by
  unfold FreshIds at h ⊢
  rwa [append_assoc, singleton_append]

/-- A loop of insertions into one table, each of which adds its row when the id is new and
    `ok` holds of the other tables. -/
theorem forM_insert (key : Row → PyStr) (insert : Row → DatabaseTxn Unit)
    (table : RegistryDatabase → List Row) (add : RegistryDatabase → List Row → RegistryDatabase)
    (ok : RegistryDatabase → Row → Prop)
    (hinsert : ∀ db row, (table db).any (fun r => key r = key row) = false → ok db row →
      insert row db = (.ok (), add db [row]))
    (hnil : ∀ db, add db [] = db)
    (hcons : ∀ db row rows, add (add db [row]) rows = add db (row :: rows))
    (htable : ∀ db row, table (add db [row]) = table db ++ [row])
    (hok : ∀ db row r, ok db r → ok (add db [row]) r)
    {rows : List Row} (hfresh : FreshIds key (table db) rows)
    (hrows : ∀ row ∈ rows, ok db row) : rows.forM insert db = (.ok (), add db rows) := by
  induction rows generalizing db with
  | nil => rw [hnil]; rfl
  | cons row rows ih =>
    have hrow := hinsert db row hfresh.head (hrows row mem_cons_self)
    show (insert row >>= fun _ => rows.forM insert) db = _
    rw [bind_run, hrow]
    dsimp only
    rw [← hcons db row rows]
    apply ih
    · rw [htable]
      exact hfresh.tail
    · exact fun r hr => hok db row r (hrows r (mem_cons_of_mem _ hr))

namespace RegistryDatabase

def addProjects (db : RegistryDatabase) (rows : List ProjectFields) : RegistryDatabase :=
  { db with projects := db.projects ++ rows }

def addWorkers (db : RegistryDatabase) (rows : List WorkerRow) : RegistryDatabase :=
  { db with workers := db.workers ++ rows }

def addAssignments (db : RegistryDatabase) (rows : List AssignmentRow) : RegistryDatabase :=
  { db with assignments := db.assignments ++ rows }

end RegistryDatabase

/-- The constraints on a row of `assignments` other than its key. -/
structure Referenced (db : RegistryDatabase) (row : AssignmentRow) : Prop where
  texts : row.texts.all bindable = true
  worker : ∃ w ∈ db.workers, w.workerId = row.workerId
  project : ∃ p ∈ db.projects, p.projectId = row.projectId
  flag : row.mutationAllowed = 0 ∨ row.mutationAllowed = 1

theorem forM_insertProject {rows : List ProjectFields}
    (h : FreshIds ProjectFields.projectId db.projects rows)
    (htexts : ∀ row ∈ rows, row.texts.all bindable = true) :
    rows.forM insertProject db = (.ok (), db.addProjects rows) := by
  refine forM_insert ProjectFields.projectId insertProject RegistryDatabase.projects
    RegistryDatabase.addProjects (fun _ row => row.texts.all bindable = true) ?_ ?_ ?_
    (fun _ _ => rfl) (fun _ _ _ hr => hr) h htexts
  · intro db row hnew hrow
    simp only [insertProject, bind_run, query, require, hrow, hnew, Bool.not_false, if_true,
      Txn.pure]
    rfl
  · intro db
    simp [RegistryDatabase.addProjects]
  · intro db row rows
    simp [RegistryDatabase.addProjects]

theorem forM_insertWorker {rows : List WorkerRow}
    (h : FreshIds WorkerRow.workerId db.workers rows)
    (htexts : ∀ row ∈ rows, row.texts.all bindable = true) :
    rows.forM insertWorker db = (.ok (), db.addWorkers rows) := by
  refine forM_insert WorkerRow.workerId insertWorker RegistryDatabase.workers
    RegistryDatabase.addWorkers (fun _ row => row.texts.all bindable = true) ?_ ?_ ?_
    (fun _ _ => rfl) (fun _ _ _ hr => hr) h htexts
  · intro db row hnew hrow
    simp only [insertWorker, bind_run, query, require, hrow, hnew, Bool.not_false, if_true,
      Txn.pure]
    rfl
  · intro db
    simp [RegistryDatabase.addWorkers]
  · intro db row rows
    simp [RegistryDatabase.addWorkers]

theorem forM_insertAssignment {rows : List AssignmentRow}
    (h : FreshIds AssignmentRow.assignmentId db.assignments rows)
    (hreferenced : ∀ row ∈ rows, Referenced db row) :
    rows.forM insertAssignment db = (.ok (), db.addAssignments rows) := by
  refine forM_insert AssignmentRow.assignmentId insertAssignment RegistryDatabase.assignments
    RegistryDatabase.addAssignments Referenced ?_ ?_ ?_ (fun _ _ => rfl)
    (fun _ _ _ hr => ⟨hr.texts, hr.worker, hr.project, hr.flag⟩) h hreferenced
  · intro db row hnew hrow
    have hworker : db.workers.any (fun w => w.workerId = row.workerId) = true := by
      obtain ⟨w, hw, heq⟩ := hrow.worker
      exact any_eq_true.mpr ⟨w, hw, by simpa using heq⟩
    have hproject : db.projects.any (fun p => p.projectId = row.projectId) = true := by
      obtain ⟨p, hp, heq⟩ := hrow.project
      exact any_eq_true.mpr ⟨p, hp, by simpa using heq⟩
    have hflag : (decide (row.mutationAllowed = 0) || decide (row.mutationAllowed = 1)) = true := by
      simpa using hrow.flag
    simp only [insertAssignment, bind_run, query, require, hrow.texts, hnew, hworker, hproject, hflag,
      Bool.not_false, if_true, Txn.pure]
    rfl
  · intro db
    simp [RegistryDatabase.addAssignments]
  · intro db row rows
    simp [RegistryDatabase.addAssignments]

/-- Every text of the snapshot can be bound. -/
structure RegistrySnapshot.Bindable (snapshot : RegistrySnapshot) : Prop where
  projects : ∀ p ∈ snapshot.projects, p.texts.all bindable = true
  workers : ∀ w ∈ snapshot.workers, w.row.texts.all bindable = true
  assignments : ∀ r ∈ snapshot.assignments, r.row.texts.all bindable = true

/-- A snapshot whose texts can be bound, whose ids are distinct and whose assignments are of its
    workers and projects is written as it is. -/
theorem saveBody_ok {snapshot : RegistrySnapshot} (db : RegistryDatabase)
    (hbindable : snapshot.Bindable)
    (hprojects : (snapshot.projects.map fun p => p.projectId).Nodup)
    (hworkers : (snapshot.workers.map fun w => w.workerId).Nodup)
    (hassignments : (snapshot.assignments.map fun r => r.assignmentId).Nodup)
    (hreferenced : ∀ r ∈ snapshot.assignments,
      (∃ w ∈ snapshot.workers, w.workerId = r.workerId) ∧
        ∃ p ∈ snapshot.projects, p.projectId = r.projectId) :
    saveBody snapshot db = (.ok (), { db with
      projects := snapshot.projects.map Project.toProjectFields
      workers := snapshot.workers.map Worker.row
      assignments := snapshot.assignments.map AssignmentRecord.row }) := by
  unfold saveBody
  rw [bind_run]
  simp only [update]
  rw [bind_run, forM_insertProject (by simpa [FreshIds, Function.comp_def] using hprojects)
    (forall_mem_map.mpr hbindable.projects)]
  dsimp only
  rw [bind_run, forM_insertWorker (by
    simpa [FreshIds, RegistryDatabase.addProjects, Function.comp_def, Worker.row] using hworkers)
    (forall_mem_map.mpr hbindable.workers)]
  dsimp only
  rw [forM_insertAssignment]
  · simp [RegistryDatabase.addProjects, RegistryDatabase.addWorkers,
      RegistryDatabase.addAssignments]
  · simpa [FreshIds, RegistryDatabase.addProjects, RegistryDatabase.addWorkers,
      Function.comp_def, AssignmentRecord.row, AssignmentRecord.assignmentId] using hassignments
  · intro row hrow
    obtain ⟨r, hr, rfl⟩ := mem_map.mp hrow
    obtain ⟨⟨w, hw, hworker⟩, ⟨p, hp, hproject⟩⟩ := hreferenced r hr
    refine ⟨hbindable.assignments r hr, ⟨w.row, ?_, hworker⟩, ⟨p.toProjectFields, ?_, hproject⟩, ?_⟩
    · simpa [RegistryDatabase.addProjects, RegistryDatabase.addWorkers] using ⟨w, hw, rfl⟩
    · simpa [RegistryDatabase.addProjects, RegistryDatabase.addWorkers] using ⟨p, hp, rfl⟩
    · unfold AssignmentRecord.row
      dsimp only
      cases r.mutationAllowed with
      | false => exact .inl rfl
      | true => exact .inr rfl

/-- A loop that does not raise has passed every check. -/
theorem wp_forM_checked {insert : Row → DatabaseTxn Unit} {P : Row → Prop}
    (hinsert : ∀ row db, wp (insert row) (fun _ _ => P row) (fun e _ => e = saveFailed) db)
    (rows : List Row) :
    wp (rows.forM insert) (fun _ _ => ∀ row ∈ rows, P row) (fun e _ => e = saveFailed) db := by
  induction rows generalizing db with
  | nil => exact fun row hrow => absurd hrow not_mem_nil
  | cons row rows ih =>
    show wp (insert row >>= fun _ => rows.forM insert) _ _ db
    rw [wp_bind]
    refine wp_mono (hinsert row db) (fun _ _ hrow => ?_) fun _ _ he => he
    exact wp_mono ih (fun _ _ hrows => forall_mem_cons.mpr ⟨hrow, hrows⟩) fun _ _ he => he

/-- Saving raises its one error, or every text could be bound. -/
theorem saveBody_bindable (snapshot : RegistrySnapshot) (db : RegistryDatabase) :
    wp (saveBody snapshot) (fun _ _ => snapshot.Bindable) (fun e _ => e = saveFailed) db := by
  unfold saveBody
  rw [wp_bind, wp_update, wp_bind]
  refine wp_mono (wp_forM_checked (P := fun row => row.texts.all bindable = true) ?_ _)
    (fun _ _ hprojects => ?_) fun _ _ he => he
  · intro row db
    unfold insertProject
    simp only [wp_bind, wp_require, wp_query, wp_update, implies_true, and_true]
    exact fun htexts _ => htexts
  rw [wp_bind]
  refine wp_mono (wp_forM_checked (P := fun row => row.texts.all bindable = true) ?_ _)
    (fun _ _ hworkers => ?_) fun _ _ he => he
  · intro row db
    unfold insertWorker
    simp only [wp_bind, wp_require, wp_query, wp_update, implies_true, and_true]
    exact fun htexts _ => htexts
  refine wp_mono (wp_forM_checked (P := fun row => row.texts.all bindable = true) ?_ _)
    (fun _ _ hassignments => ?_) fun _ _ he => he
  · intro row db
    unfold insertAssignment
    simp only [wp_bind, wp_require, wp_query, wp_update, implies_true, and_true]
    exact fun htexts _ _ _ _ => htexts
  rw [forall_mem_map] at hprojects hworkers hassignments
  exact ⟨hprojects, hworkers, hassignments⟩

/-! ### Loading -/

/-- The worker without its assignment. -/
def Worker.freed (w : Worker) : Worker :=
  ⟨{ w.toWorkerFields with assignmentId := none }, check_released w⟩

/-- The worker as it is while the assignments `pending` are still to come. -/
def Worker.awaiting (w : Worker) (pending : List PyStr) : Worker :=
  if w.assignmentId.any (· ∈ pending) then w.freed else w

/-- Only the worker of an assignment awaits it. -/
theorem Worker.awaiting_cons {a : PyStr} (h : w.assignmentId ≠ some a) (pending : List PyStr) :
    w.awaiting (a :: pending) = w.awaiting pending := by
  unfold Worker.awaiting
  cases hheld : w.assignmentId with
  | none => rfl
  | some b =>
    have hne : b ≠ a := fun heq => h (heq ▸ hheld)
    simp [hne]

/-- A worker that awaits nothing more has its assignment. -/
theorem Worker.awaiting_of_notMem {a : PyStr} (h : w.assignmentId = some a) {pending : List PyStr}
    (hnot : a ∉ pending) : w.awaiting pending = w := by
  unfold Worker.awaiting
  rw [h]
  exact if_neg (by simpa using hnot)

/-- What the registry `u` under construction has of `v` when these rows are left. -/
structure Loading (v : View) (ps : List ProjectFields) (ws : List WorkerRow)
    (rs : List AssignmentRow) (u : View) : Prop where
  projects : ∀ k p, u.projects k = some p ↔
    v.projects k = some p ∧ k ∉ ps.map ProjectFields.projectId
  workers : ∀ k w, u.workers k = some w ↔
    ∃ x, v.workers k = some x ∧ k ∉ ws.map WorkerRow.workerId ∧
      w = x.awaiting (rs.map AssignmentRow.assignmentId)
  assignments : ∀ a r, u.assignments a = some r ↔
    v.assignments a = some r ∧ a ∉ rs.map AssignmentRow.assignmentId

/-- Rows of some of the values, one for each id. -/
structure RowsOf {V Row : Type} (found : PyStr → Option V) (toRow : V → Row) (key : Row → PyStr)
    (rows : List Row) : Prop where
  value : ∀ row ∈ rows, ∃ x, found (key row) = some x ∧ toRow x = row
  ids : (rows.map key).Nodup

theorem RowsOf.tail {V Row : Type} {found : PyStr → Option V} {toRow : V → Row}
    {key : Row → PyStr} {row : Row} {rows : List Row} (h : RowsOf found toRow key (row :: rows)) :
    RowsOf found toRow key rows :=
  ⟨fun r hr => h.value r (mem_cons_of_mem _ hr), (nodup_cons.mp h.ids).2⟩

abbrev ProjectRowsOf (v : View) := RowsOf v.projects Project.toProjectFields ProjectFields.projectId

abbrev WorkerRowsOf (v : View) := RowsOf v.workers Worker.row WorkerRow.workerId

abbrev AssignmentRowsOf (v : View) :=
  RowsOf v.assignments AssignmentRecord.row AssignmentRow.assignmentId

theorem Project.make_self (p : Project) : Project.make p.toProjectFields = .ok p := by
  unfold Project.make
  split
  · rfl
  · rename_i heq
    rw [p.checked] at heq
    cases heq

theorem Assignment.make_self (a : Assignment) : Assignment.make a.toAssignmentFields = .ok a := by
  unfold Assignment.make
  split
  · rfl
  · rename_i heq
    rw [a.checked] at heq
    cases heq

@[simp] theorem WorkerState.ofValue_value (state : WorkerState) :
    WorkerState.ofValue state.value = some state := by
  cases state <;> decide

theorem assign_ok {a : Assignment} {mutationAllowed : Bool} {t : ControlPlaneRegistry} {p : Project}
    {key : PyStr} (hworker : t.workers.get? a.workerId = some w)
    (hproject : t.projects.get? a.projectId = some p)
    (hfresh : t.assignments.get? a.assignmentId = none) (hfree : w.assignmentId = none)
    (hruntime : runtimeMismatch w a = false)
    (hkey : windowsWorktreeKey normPath p.rootPath = .ok key)
    (halone : (mutationAllowed && worktreeTaken t.assignments key w.workerId) = false) :
    wp (assign normPath a mutationAllowed)
      (fun _ t' => t' = (t.putAssignment a.assignmentId ⟨a, mutationAllowed, key⟩).putWorker
        w.workerId
        ⟨{ w.toWorkerFields with assignmentId := some a.assignmentId }, check_assigned w a⟩)
      (fun _ _ => False) t := by
  unfold assign getWorker getProject newRecord
  simp only [wp_bind, wp_query, hworker, hproject, wp_pure, wp_require, hfresh,
    Option.isSome_none, Bool.not_false, hfree, Option.isNone_none, hruntime, hkey, wp_ofExcept_ok,
    halone, wp_update, make_of_check (check_assigned w a), forall_const, Bool.true_eq_false,
    false_imp_iff, and_true]

section Rounds

variable {normPath : PyStr → Option PyStr} {v : View} {ps : List ProjectFields}
  {ws : List WorkerRow} {rs : List AssignmentRow} {t : ControlPlaneRegistry}

theorem Loading.project {row : ProjectFields} (hrows : ProjectRowsOf v (row :: ps))
    (h : Loading v (row :: ps) ws rs t.view) :
    wp (loadProject row) (fun _ t' => Loading v ps ws rs t'.view) (fun _ _ => False) t := by
  obtain ⟨p, hp, rfl⟩ := hrows.value row mem_cons_self
  have hfresh : t.projects.get? p.projectId = none := by
    cases hfound : t.projects.get? p.projectId with
    | none => rfl
    | some q =>
      have hleft := ((h.projects p.projectId q).mp hfound).2
      exact absurd mem_cons_self hleft
  have hnew : p.projectId ∉ ps.map ProjectFields.projectId :=
    (nodup_cons.mp hrows.ids).1
  unfold loadProject registerProject
  rw [Project.make_self]
  simp only [Except.mapError, wp_bind, wp_ofExcept_ok, wp_recast, wp_query, wp_require, wp_update,
    wp_pure, hfresh]
  refine ⟨fun _ => ?_, nofun⟩
  rw [view_putProject]
  refine ⟨?_, h.workers, h.assignments⟩
  intro k q
  simp only [View.setProject, Function.update_apply]
  by_cases hk : k = p.projectId
  · subst hk
    rw [if_pos rfl]
    constructor
    · rintro ⟨⟩
      exact ⟨hp, hnew⟩
    · rintro ⟨hq, -⟩
      rw [← hp, hq]
  · rw [if_neg hk, h.projects k q, map_cons, mem_cons, not_or]
    constructor
    · rintro ⟨hq, -, hnot⟩
      exact ⟨hq, hnot⟩
    · rintro ⟨hq, hnot⟩
      exact ⟨hq, hk, hnot⟩

/-- A worker is registered without the assignment it will get. -/
theorem Loading.worker {row : WorkerRow} (hrows : WorkerRowsOf v (row :: ws))
    (hpending : ∀ k x a, v.workers k = some x → x.assignmentId = some a →
      a ∈ rs.map AssignmentRow.assignmentId) (h : Loading v ps (row :: ws) rs t.view) :
    wp (loadWorker row) (fun _ t' => Loading v ps ws rs t'.view) (fun _ _ => False) t := by
  obtain ⟨w, hw, rfl⟩ := hrows.value row mem_cons_self
  have hfresh : t.workers.get? w.workerId = none := by
    cases hfound : t.workers.get? w.workerId with
    | none => rfl
    | some y =>
      obtain ⟨-, -, hleft, -⟩ := (h.workers w.workerId y).mp hfound
      exact absurd mem_cons_self hleft
  have hnew : w.workerId ∉ ws.map WorkerRow.workerId := (nodup_cons.mp hrows.ids).1
  have hawaiting : w.awaiting (rs.map AssignmentRow.assignmentId) = w.freed := by
    unfold Worker.awaiting
    cases hheld : w.assignmentId with
    | none =>
      obtain ⟨⟨_, _, _, _, _⟩, _⟩ := w
      cases hheld
      rfl
    | some a => exact if_pos (decide_eq_true (hpending _ w a hw hheld))
  have hmake : Worker.make {
      workerId := w.row.workerId, displayName := w.row.displayName, runtimeId := w.row.runtimeId,
      assignmentId := none, state := w.state } = .ok w.freed :=
    make_of_check (check_released w)
  have hstate : WorkerState.ofValue w.row.state = some w.state := WorkerState.ofValue_value _
  unfold loadWorker registerWorker
  simp only [hstate, hmake, Except.mapError, wp_bind, wp_ofExcept_ok, wp_recast, wp_query,
    wp_require, wp_update, wp_pure]
  have hfree : t.workers.get? w.freed.workerId = none := hfresh
  rw [hfree]
  refine ⟨fun _ => ⟨fun _ => ?_, nofun⟩, nofun⟩
  rw [view_putWorker]
  refine ⟨h.projects, ?_, h.assignments⟩
  intro k y
  simp only [View.setWorker, Function.update_apply]
  by_cases hk : k = w.freed.workerId
  · have hw' : v.workers k = some w := hk ▸ hw
    rw [if_pos hk]
    constructor
    · rintro ⟨⟩
      exact ⟨w, hw', hk ▸ hnew, hawaiting.symm⟩
    · rintro ⟨x, hx, -, rfl⟩
      have hsame : w = x := Option.some.inj (hw'.symm.trans hx)
      rw [← hsame, hawaiting]
  · rw [if_neg hk, h.workers k y, map_cons]
    have hk' : ¬ k = w.row.workerId := hk
    simp only [mem_cons, not_or, hk', not_false_eq_true, true_and]

/-- An assignment is made: it meets nothing that the registry `v` does not hold. -/
theorem Loading.assignment {row : AssignmentRow} (hv : Loadable normPath v)
    (hrows : AssignmentRowsOf v (row :: rs)) (h : Loading v [] [] (row :: rs) t.view) :
    wp (loadAssignment normPath row) (fun _ t' => Loading v [] [] rs t'.view) (fun _ _ => False)
      t := by
  obtain ⟨r, hr, rfl⟩ := hrows.value row mem_cons_self
  obtain ⟨w, hw, hheld⟩ := (hv.linked r.workerId r.assignmentId).mpr ⟨r, hr, rfl⟩
  obtain ⟨p, hp⟩ := hv.project _ r hr
  have hid : w.workerId = r.workerId := hv.workerKey _ w hw
  have hnew : r.assignmentId ∉ rs.map AssignmentRow.assignmentId :=
    (nodup_cons.mp hrows.ids).1
  have hpending : w.awaiting ((r.row :: rs).map AssignmentRow.assignmentId) = w.freed := by
    unfold Worker.awaiting
    rw [hheld]
    exact if_pos (decide_eq_true mem_cons_self)
  have hworker : t.workers.get? r.assignment.workerId = some w.freed :=
    (h.workers r.workerId w.freed).mpr ⟨w, hw, not_mem_nil, hpending.symm⟩
  have hproject : t.projects.get? r.assignment.projectId = some p :=
    (h.projects r.projectId p).mpr ⟨hp, not_mem_nil⟩
  have hfresh : t.assignments.get? r.assignment.assignmentId = none := by
    cases hfound : t.assignments.get? r.assignment.assignmentId with
    | none => rfl
    | some x =>
      have hleft := ((h.assignments r.assignmentId x).mp hfound).2
      exact absurd mem_cons_self hleft
  -- a mutating record on the worktree is this one, which is not there yet
  have halone : (r.mutationAllowed &&
      worktreeTaken t.assignments r.worktreeKey w.freed.workerId) = false := by
    rw [Bool.and_eq_false_iff]
    by_cases hm : r.mutationAllowed = true
    · refine .inr (any_eq_false.mpr ?_)
      intro x hx htaken
      obtain ⟨a, ha⟩ := Dict.mem_values_iff.mp hx
      obtain ⟨hxa, hleft⟩ := (h.assignments a x).mp ha
      simp only [Bool.and_eq_true, decide_eq_true_eq] at htaken
      have hsame := hv.mutating a r.assignmentId x r hxa hr htaken.1.1 hm htaken.1.2
      rw [hsame] at hleft
      exact hleft mem_cons_self
    · exact .inl (by simpa using hm)
  have hruntime : runtimeMismatch w.freed r.assignment = false := hv.runtime _ r w hr hw
  have hassign := assign_ok hworker hproject hfresh rfl hruntime (hv.worktree _ r p hr hp) halone
  have hflag : (r.row.mutationAllowed = 0 || r.row.mutationAllowed = 1) = true ∧
      decide (r.row.mutationAllowed ≠ 0) = r.mutationAllowed := by
    unfold AssignmentRecord.row
    cases r.mutationAllowed with
    | false => exact ⟨rfl, rfl⟩
    | true => exact ⟨rfl, rfl⟩
  have hmake : Assignment.make {
      assignmentId := r.row.assignmentId, workerId := r.row.workerId,
      projectId := r.row.projectId, runtimeId := r.row.runtimeId } = .ok r.assignment :=
    Assignment.make_self r.assignment
  unfold loadAssignment
  rw [wp_bind, wp_require, hflag.1]
  refine ⟨fun _ => ?_, nofun⟩
  rw [hmake, hflag.2]
  simp only [Except.mapError, wp_bind, wp_ofExcept_ok, wp_recast, wp_pure]
  refine wp_mono hassign ?_ fun _ _ he => he
  rintro _ t' rfl
  rw [view_putWorker, view_putAssignment]
  have hback : (⟨{ w.freed.toWorkerFields with assignmentId := some r.assignmentId },
      check_assigned w.freed r.assignment⟩ : Worker) = w := by
    obtain ⟨⟨_, _, _, _, _⟩, _⟩ := w
    cases hheld
    rfl
  refine ⟨h.projects, ?_, ?_⟩
  · intro k y
    simp only [View.setWorker, View.setAssignment, Function.update_apply]
    by_cases hk : k = w.freed.workerId
    · have hw' : v.workers k = some w := by
        rw [hk]
        exact hid ▸ hw
      have hdone := Worker.awaiting_of_notMem hheld hnew
      rw [if_pos hk]
      constructor
      · rintro ⟨⟩
        exact ⟨w, hw', not_mem_nil, hback.trans hdone.symm⟩
      · rintro ⟨x, hx, -, rfl⟩
        have hsame : w = x := Option.some.inj (hw'.symm.trans hx)
        rw [← hsame, hdone]
        exact congrArg some hback
    · rw [if_neg hk, h.workers k y, map_cons]
      have hother : ∀ x, v.workers k = some x → x.assignmentId ≠ some r.assignmentId := by
        intro x hx hxa
        exact hk (hv.names_eq ⟨x, hx, hxa⟩ ⟨w, hid ▸ hw, hheld⟩)
      constructor
      · rintro ⟨x, hx, hnil, rfl⟩
        exact ⟨x, hx, hnil, Worker.awaiting_cons (hother x hx) _⟩
      · rintro ⟨x, hx, hnil, rfl⟩
        exact ⟨x, hx, hnil, (Worker.awaiting_cons (hother x hx) _).symm⟩
  · intro b x
    simp only [View.setWorker, View.setAssignment, Function.update_apply]
    by_cases hb : b = r.assignment.assignmentId
    · have hr' : v.assignments b = some r := hb ▸ hr
      rw [if_pos hb]
      constructor
      · rintro ⟨⟩
        exact ⟨hr', hb ▸ hnew⟩
      · rintro ⟨hx, -⟩
        exact hr'.symm.trans hx
    · rw [if_neg hb, h.assignments b x, map_cons, mem_cons, not_or]
      have hb' : ¬ b = r.row.assignmentId := hb
      simp only [hb', not_false_eq_true, true_and]

@[simp] theorem Worker.awaiting_nil (w : Worker) : w.awaiting [] = w := by
  unfold Worker.awaiting
  cases w.assignmentId with
  | none => rfl
  | some a => rfl

/-- With no rows left the registry is the saved one. -/
theorem Loading.view_eq (h : Loading v [] [] [] t.view) : t.view = v := by
  have hprojects : t.view.projects = v.projects := by
    funext k
    apply Option.ext
    intro p
    rw [h.projects k p]
    simp
  have hworkers : t.view.workers = v.workers := by
    funext k
    apply Option.ext
    intro w
    rw [h.workers k w]
    simp
  have hassignments : t.view.assignments = v.assignments := by
    funext a
    apply Option.ext
    intro r
    rw [h.assignments a r]
    simp
  obtain ⟨_, _, _⟩ := v
  cases hprojects
  cases hworkers
  cases hassignments
  rfl

/-- Every worker names the assignment its row names. -/
theorem Loading.reference {rows : List WorkerRow} (hrows : WorkerRowsOf v rows) (row : WorkerRow)
    (hrow : row ∈ rows) (h : Loading v [] [] [] t.view) :
    wp (checkReference row) (fun _ t' => t' = t) (fun _ _ => False) t := by
  obtain ⟨w, hw, rfl⟩ := hrows.value row hrow
  have hawaits : w.awaiting [] = w := w.awaiting_nil
  have hworker : t.workers.get? w.row.workerId = some w :=
    (h.workers _ w).mpr ⟨w, hw, not_mem_nil, hawaits.symm⟩
  unfold checkReference getWorker
  simp only [wp_bind, wp_recast, wp_query, hworker, wp_pure, wp_require]
  exact ⟨fun _ => trivial, fun hne => by simp [Worker.row] at hne⟩

/-- The loops of `load` build the registry whose rows they are given. -/
theorem loadBody_view (hv : Loadable normPath v) (hps : ProjectRowsOf v ps)
    (hws : WorkerRowsOf v ws) (hrs : AssignmentRowsOf v rs)
    (allProjects : ∀ k p, v.projects k = some p → k ∈ ps.map ProjectFields.projectId)
    (allWorkers : ∀ k w, v.workers k = some w → k ∈ ws.map WorkerRow.workerId)
    (allAssignments : ∀ a r, v.assignments a = some r → a ∈ rs.map AssignmentRow.assignmentId) :
    wp (loadBody normPath ps ws rs) (fun _ t => t.view = v) (fun _ _ => False) .empty := by
  have hnone : Loading v ps ws rs ControlPlaneRegistry.empty.view := by
    refine ⟨?_, ?_, ?_⟩
    · intro k p
      exact ⟨nofun, fun h => absurd (allProjects k p h.1) h.2⟩
    · intro k w
      exact ⟨nofun, fun ⟨x, hx, hleft, _⟩ => absurd (allWorkers k x hx) hleft⟩
    · intro a r
      exact ⟨nofun, fun h => absurd (allAssignments a r h.1) h.2⟩
  have hpending : ∀ k x a, v.workers k = some x → x.assignmentId = some a →
      a ∈ rs.map AssignmentRow.assignmentId := by
    intro k x a hx hxa
    obtain ⟨r, hr, -⟩ := (hv.linked k a).mp ⟨x, hx, hxa⟩
    exact allAssignments a r hr
  unfold loadBody
  rw [wp_bind]
  refine wp_mono (wp_forM (I := fun ps t => ProjectRowsOf v ps ∧ Loading v ps ws rs t.view)
    ?_ ps ⟨hps, hnone⟩) ?_ fun _ _ he => he
  · rintro row rest t ⟨hrows, h⟩
    exact wp_mono (h.project hrows) (fun _ _ ht => ⟨hrows.tail, ht⟩) fun _ _ he => he
  rintro _ t₁ ⟨-, h₁⟩
  rw [wp_bind]
  refine wp_mono (wp_forM (I := fun ws t => WorkerRowsOf v ws ∧ Loading v [] ws rs t.view)
    ?_ ws ⟨hws, h₁⟩) ?_ fun _ _ he => he
  · rintro row rest t ⟨hrows, h⟩
    exact wp_mono (h.worker hrows hpending) (fun _ _ ht => ⟨hrows.tail, ht⟩) fun _ _ he => he
  rintro _ t₂ ⟨-, h₂⟩
  rw [wp_bind]
  refine wp_mono (wp_forM (I := fun rs t => AssignmentRowsOf v rs ∧ Loading v [] [] rs t.view)
    ?_ rs ⟨hrs, h₂⟩) ?_ fun _ _ he => he
  · rintro row rest t ⟨hrows, h⟩
    exact wp_mono (h.assignment hv hrows) (fun _ _ ht => ⟨hrows.tail, ht⟩) fun _ _ he => he
  rintro _ t₃ ⟨-, h₃⟩
  refine wp_mono (wp_forM (I := fun rest t => (∀ row ∈ rest, row ∈ ws) ∧ t = t₃)
    ?_ ws ⟨fun _ h => h, rfl⟩) ?_ fun _ _ he => he
  · rintro row rest t ⟨hrest, rfl⟩
    exact wp_mono (h₃.reference hws row (hrest row mem_cons_self))
      (fun _ _ ht => ⟨fun r hr => hrest r (mem_cons_of_mem _ hr), ht⟩) fun _ _ he => he
  rintro _ t ⟨-, rfl⟩
  exact h₃.view_eq

end Rounds

/-! ### Snapshots -/

theorem sortedValues_perm (d : Dict PyStr V) : (sortedValues d).Perm d.values :=
  (perm_insertionSort _ d.entries).map Prod.snd

theorem mem_sortedValues {d : Dict PyStr V} {x : V} :
    x ∈ sortedValues d ↔ ∃ k, d.get? k = some x := by
  rw [(sortedValues_perm d).mem_iff, Dict.mem_values_iff]

/-- Values whose ids are their keys have an id each. -/
theorem sortedValues_ids {d : Dict PyStr V} {id : V → PyStr}
    (hid : ∀ k x, d.get? k = some x → id x = k) : ((sortedValues d).map id).Nodup := by
  have hkeys : d.values.map id = d.entries.map Prod.fst := by
    unfold Dict.values
    rw [map_map]
    apply map_congr_left
    rintro ⟨k, x⟩ hmem
    exact hid k x (Dict.mem_iff_get?.mp hmem)
  rw [((sortedValues_perm d).map id).nodup_iff, hkeys]
  exact d.nodup

/-- Dictionaries with the same lookups are sorted alike. -/
theorem sortedValues_congr {d e : Dict PyStr V} (h : d.get? = e.get?) :
    sortedValues d = sortedValues e := by
  have hperm : d.entries.Perm e.entries := by
    rw [perm_ext_iff_of_nodup (List.Nodup.of_map _ d.nodup) (List.Nodup.of_map _ e.nodup)]
    rintro ⟨k, x⟩
    rw [Dict.mem_iff_get?, Dict.mem_iff_get?, h]
  have total : Std.Total fun a b : PyStr × V => PyStr.Le a.1 b.1 := ⟨fun _ _ => PyStr.Le.total _ _⟩
  have trans : IsTrans (PyStr × V) fun a b => PyStr.Le a.1 b.1 :=
    ⟨fun _ _ _ hab hbc => PyStr.Le.trans hab hbc⟩
  unfold sortedValues
  congr 1
  refine List.Perm.eq_of_pairwise
    (?_ : ∀ a b : PyStr × V, _ → _ → PyStr.Le a.1 b.1 → PyStr.Le b.1 a.1 → a = b) ?_ ?_ ?_
  · rintro ⟨k, x⟩ ⟨j, y⟩ hx hy hkj hjk
    obtain rfl : k = j := PyStr.Le.antisymm hkj hjk
    have hx' := Dict.mem_iff_get?.mp ((mem_insertionSort _).mp hx)
    have hy' := Dict.mem_iff_get?.mp ((mem_insertionSort _).mp hy)
    rw [h, hy'] at hx'
    cases hx'
    rfl
  · exact pairwise_insertionSort _ _
  · exact pairwise_insertionSort _ _
  · exact (perm_insertionSort _ _).trans (hperm.trans (perm_insertionSort _ _).symm)

/-- The rows of a saved dictionary, in whatever order they are read. -/
theorem rowsOf_sorted {V Row : Type} (d : Dict PyStr V) (toRow : V → Row) (key : Row → PyStr)
    (le : Row → Row → Prop) [DecidableRel le]
    (hkey : ∀ k x, d.get? k = some x → key (toRow x) = k) :
    RowsOf d.get? toRow key (((sortedValues d).map toRow).insertionSort le) ∧
      ∀ k x, d.get? k = some x → k ∈ (((sortedValues d).map toRow).insertionSort le).map key := by
  have hperm := perm_insertionSort le ((sortedValues d).map toRow)
  refine ⟨⟨?_, ?_⟩, ?_⟩
  · intro row hrow
    obtain ⟨x, hx, rfl⟩ := mem_map.mp (hperm.mem_iff.mp hrow)
    obtain ⟨k, hk⟩ := mem_sortedValues.mp hx
    exact ⟨x, (hkey k x hk).symm ▸ hk, rfl⟩
  · rw [(hperm.map key).nodup_iff, map_map]
    exact sortedValues_ids hkey
  · intro k x hx
    rw [(hperm.map key).mem_iff, map_map]
    exact mem_map.mpr ⟨x, mem_sortedValues.mpr ⟨k, hx⟩, hkey k x hx⟩

/-- The database can be used: it is new or has the schema of this version. -/
def RegistryDatabase.Supported (db : RegistryDatabase) : Prop :=
  db.schemaVersion = none ∨ db.schemaVersion = some Registry.schemaVersion

theorem initializeStore_ok (h : db.Supported) :
    initializeStore db = (.ok (), { db with schemaVersion := some schemaVersion }) := by
  obtain ⟨version, projects, workers, assignments⟩ := db
  unfold initializeStore
  rcases h with h | h
  · cases h
    rfl
  · cases h
    rfl

/-- Over every run of registry operations from the empty registry and every database of this schema,
    whatever it holds. If every text of the registry can be bound, saving its snapshot succeeds,
    loading it then succeeds, and the registry that is loaded has the same snapshot. If one cannot,
    saving raises and the tables keep what they held. -/
theorem registry_survives_persistence (normPath : PyStr → Option PyStr)
    (calls : List RegistryCall) (db : RegistryDatabase) (hdb : db.Supported) :
    let s := (Machine.run (registryStep normPath) ControlPlaneRegistry.empty calls).2
    ∃ saved, snapshot s = (.ok saved, s) ∧
      (saved.Bindable → ∃ db' loaded, save saved db = (.ok (), db') ∧
        load normPath db' = (.ok loaded, db') ∧ snapshot loaded = (.ok saved, loaded)) ∧
      (¬ saved.Bindable →
        save saved db = (.error saveFailed, { db with schemaVersion := some schemaVersion })) := by
  intro s
  have hv : Loadable normPath s.view := reachable_loadable ⟨calls, rfl⟩
  have hprojectId : ∀ k p, s.projects.get? k = some p → p.projectId = k := hv.projectKey
  have hworkerId : ∀ k w, s.workers.get? k = some w → w.workerId = k := hv.workerKey
  have hassignmentId : ∀ a r, s.assignments.get? a = some r → r.assignmentId = a :=
    hv.assignmentKey
  let saved : RegistrySnapshot :=
    ⟨sortedValues s.projects, sortedValues s.workers, sortedValues s.assignments⟩
  let db' : RegistryDatabase :=
    ⟨some schemaVersion, saved.projects.map Project.toProjectFields, saved.workers.map Worker.row,
      saved.assignments.map AssignmentRecord.row⟩
  refine ⟨saved, rfl, fun hbindable => ?_, fun hunbindable => ?_⟩
  case refine_2 =>
    have hrefused : atomically (saveBody saved) { db with schemaVersion := some schemaVersion } =
        (.error saveFailed, { db with schemaVersion := some schemaVersion }) := by
      rcases atomically_spec (E := fun e => e = saveFailed) (saveBody_bindable saved _) with
        ⟨_, _, -, hbindable⟩ | ⟨e, heq, rfl⟩
      · exact absurd hbindable hunbindable
      · exact heq
    unfold save
    rw [bind_run, initializeStore_ok hdb]
    exact hrefused
  have hreferenced : ∀ r ∈ saved.assignments,
      (∃ w ∈ saved.workers, w.workerId = r.workerId) ∧
        ∃ p ∈ saved.projects, p.projectId = r.projectId := by
    intro r hr
    obtain ⟨a, ha⟩ := mem_sortedValues.mp hr
    obtain ⟨p, hp⟩ := hv.project a r ha
    obtain ⟨w, hw, -⟩ := (hv.linked r.workerId a).mpr ⟨r, ha, rfl⟩
    exact ⟨⟨w, mem_sortedValues.mpr ⟨_, hw⟩, hworkerId _ w hw⟩,
      ⟨p, mem_sortedValues.mpr ⟨_, hp⟩, hprojectId _ p hp⟩⟩
  have hsave : save saved db = (.ok (), db') := by
    unfold save
    rw [bind_run, initializeStore_ok hdb]
    dsimp only
    unfold transaction atomically
    rw [saveBody_ok _ hbindable (sortedValues_ids hprojectId) (sortedValues_ids hworkerId)
      (sortedValues_ids hassignmentId) hreferenced]
  -- the rows come back sorted by their ids
  obtain ⟨hps, allProjects⟩ := rowsOf_sorted s.projects Project.toProjectFields
    ProjectFields.projectId (fun a b => PyStr.Le a.projectId b.projectId) hprojectId
  obtain ⟨hws, allWorkers⟩ := rowsOf_sorted s.workers Worker.row WorkerRow.workerId
    (fun a b => PyStr.Le a.workerId b.workerId) hworkerId
  obtain ⟨hrs, allAssignments⟩ := rowsOf_sorted s.assignments AssignmentRecord.row
    AssignmentRow.assignmentId (fun a b => PyStr.Le a.assignmentId b.assignmentId) hassignmentId
  have hbody := loadBody_view hv hps hws hrs allProjects allWorkers allAssignments
  unfold wp at hbody
  split at hbody
  · rename_i loaded hloaded
    have hload : load normPath db' = (.ok loaded, db') := by
      have hstart : initializeStore db' = (.ok (), db') := rfl
      unfold load
      rw [bind_run, hstart]
      dsimp only
      rw [query_bind_run, query_bind_run, query_bind_run, hloaded]
      rfl
    refine ⟨db', loaded, hsave, hload, ?_⟩
    have hprojects : loaded.projects.get? = s.projects.get? := congrArg View.projects hbody
    have hworkers : loaded.workers.get? = s.workers.get? := congrArg View.workers hbody
    have hassignments : loaded.assignments.get? = s.assignments.get? :=
      congrArg View.assignments hbody
    have hsnapshot : (⟨sortedValues loaded.projects, sortedValues loaded.workers,
        sortedValues loaded.assignments⟩ : RegistrySnapshot) = saved := by
      rw [sortedValues_congr hprojects, sortedValues_congr hworkers,
        sortedValues_congr hassignments]
    exact congrArg (fun snapshot => (Except.ok snapshot, loaded)) hsnapshot
  · exact hbody.elim

/-- A worker mutates the worktree of the project. -/
def assignedCalls : List RegistryCall :=
  [.registerProject ⟨⟨.lit "p", .lit "P", .lit "C:/p"⟩, by decide⟩,
   .registerWorker ⟨{ workerId := .lit "w", displayName := .lit "W", state := .ready }, by decide⟩,
   .assign ⟨⟨.lit "a", .lit "w", .lit "p", none⟩, by decide⟩ true]

theorem registry_survives_persistence_assigned :
    let s := (Machine.run (registryStep some) ControlPlaneRegistry.empty assignedCalls).2
    heldAssignments s = [.lit "a"] ∧
    ∃ saved db' loaded, snapshot s = (.ok saved, s) ∧ save saved .empty = (.ok (), db') ∧
      load some db' = (.ok loaded, db') ∧ snapshot loaded = (.ok saved, loaded) := by
  obtain ⟨saved, hsnapshot, hsaved, -⟩ :=
    registry_survives_persistence some assignedCalls .empty (.inl rfl)
  have hbindable : saved.Bindable := by
    cases hsnapshot
    refine ⟨?_, ?_, ?_⟩
    all_goals decide +kernel
  obtain ⟨db', loaded, hsave, hload, hsame⟩ := hsaved hbindable
  exact ⟨by decide +kernel, saved, db', loaded, hsnapshot, hsave, hload, hsame⟩

/-- A project whose name is a lone surrogate is registered, and its registry cannot be saved. -/
theorem surrogate_project_unsaved :
    ¬ ∀ calls : List RegistryCall,
      let s := (Machine.run (registryStep some) ControlPlaneRegistry.empty calls).2
      ∃ saved db', snapshot s = (.ok saved, s) ∧ save saved .empty = (.ok (), db') := by
  intro h
  obtain ⟨saved, db', hsnapshot, hsave⟩ :=
    h [.registerProject ⟨⟨.lit "p", [.surrogate 0], .lit "C:/p"⟩, by decide⟩]
  cases hsnapshot
  have hok := congrArg Prod.fst hsave
  clear hsave
  dsimp only at hok
  revert hok
  decide +kernel

end AConductor.Registry

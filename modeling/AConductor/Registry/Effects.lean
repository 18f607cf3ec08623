import AConductor.Registry.Basic

/-!
# What one registry operation does

`src/a_conductor/registry.py:88-258`. A registry is looked at as three partial functions.
`Effect` lists what one operation can do to them; a raise does nothing, since what the
domain records guarantee of their own fields is all that is checked between two writes.
-/

namespace AConductor.Registry

open Txn Function

/-- The registry as lookups. -/
structure View where
  projects : PyStr → Option Project
  workers : PyStr → Option Worker
  assignments : PyStr → Option AssignmentRecord

def ControlPlaneRegistry.view (s : ControlPlaneRegistry) : View :=
  ⟨s.projects.get?, s.workers.get?, s.assignments.get?⟩

namespace View

def setProject (v : View) (k : PyStr) (p : Project) : View :=
  { v with projects := update v.projects k (some p) }

def setWorker (v : View) (k : PyStr) (w : Option Worker) : View :=
  { v with workers := update v.workers k w }

def setAssignment (v : View) (k : PyStr) (r : Option AssignmentRecord) : View :=
  { v with assignments := update v.assignments k r }

end View

section Writes

variable (s : ControlPlaneRegistry)

theorem view_putProject (k : PyStr) (p : Project) :
    (s.putProject k p).view = s.view.setProject k p := by
  have hget : (s.projects.set k p).get? = update s.projects.get? k (some p) := by
    funext j
    rw [Dict.get?_set, update_apply]
  simp only [ControlPlaneRegistry.view, ControlPlaneRegistry.putProject, View.setProject, hget]

theorem view_putWorker (k : PyStr) (w : Worker) :
    (s.putWorker k w).view = s.view.setWorker k (some w) := by
  have hget : (s.workers.set k w).get? = update s.workers.get? k (some w) := by
    funext j
    rw [Dict.get?_set, update_apply]
  simp only [ControlPlaneRegistry.view, ControlPlaneRegistry.putWorker, View.setWorker, hget]

theorem view_popWorker (k : PyStr) :
    (s.popWorker k).view = s.view.setWorker k none := by
  have hget : (s.workers.erase k).get? = update s.workers.get? k none := by
    funext j
    rw [Dict.get?_erase, update_apply]
  simp only [ControlPlaneRegistry.view, ControlPlaneRegistry.popWorker, View.setWorker, hget]

theorem view_putAssignment (k : PyStr) (r : AssignmentRecord) :
    (s.putAssignment k r).view = s.view.setAssignment k (some r) := by
  have hget : (s.assignments.set k r).get? = update s.assignments.get? k (some r) := by
    funext j
    rw [Dict.get?_set, update_apply]
  simp only [ControlPlaneRegistry.view, ControlPlaneRegistry.putAssignment, View.setAssignment,
    hget]

theorem view_popAssignment (k : PyStr) :
    (s.popAssignment k).view = s.view.setAssignment k none := by
  have hget : (s.assignments.erase k).get? = update s.assignments.get? k none := by
    funext j
    rw [Dict.get?_erase, update_apply]
  simp only [ControlPlaneRegistry.view, ControlPlaneRegistry.popAssignment, View.setAssignment,
    hget]

end Writes

/-! ### What an operation does -/

/-- The record of a new assignment for `w`: its id is free, its project is known and has the
    worktree, the runtimes agree, and a mutating one meets no other worker's mutating
    assignment on the worktree. -/
structure Fits (normPath : PyStr → Option PyStr) (v : View) (w : Worker)
    (r : AssignmentRecord) : Prop where
  worker : v.workers r.workerId = some w
  project : ∃ p, v.projects r.projectId = some p ∧
    windowsWorktreeKey normPath p.rootPath = .ok r.worktreeKey
  fresh : v.assignments r.assignmentId = none
  runtime : runtimeMismatch w r.assignment = false
  exclusive : r.mutationAllowed = true → ∀ a t, v.assignments a = some t →
    t.mutationAllowed = true → t.worktreeKey = r.worktreeKey → t.workerId = w.workerId

/-- Everything one operation that returns can do. -/
inductive Effect (normPath : PyStr → Option PyStr) (v : View) : View → Prop where
  | none : Effect normPath v v
  | project (p : Project) (fresh : v.projects p.projectId = Option.none) :
      Effect normPath v (v.setProject p.projectId p)
  | worker {w : Worker} (fresh : v.workers w.workerId = Option.none)
      (free : w.assignmentId = Option.none) : Effect normPath v (v.setWorker w.workerId (some w))
  | assigned {w w' : Worker} {r : AssignmentRecord} (fits : Fits normPath v w r)
      (free : w.assignmentId = Option.none) (same : w'.workerId = w.workerId)
      (runtime : w'.runtimeId = w.runtimeId) (names : w'.assignmentId = some r.assignmentId) :
      Effect normPath v
        ((v.setAssignment r.assignmentId (some r)).setWorker w.workerId (some w'))
  | reassigned {w w' : Worker} {r : AssignmentRecord} {old : PyStr} (fits : Fits normPath v w r)
      (held : w.assignmentId = some old) (same : w'.workerId = w.workerId)
      (runtime : w'.runtimeId = w.runtimeId) (names : w'.assignmentId = some r.assignmentId) :
      Effect normPath v (((v.setAssignment old Option.none).setAssignment r.assignmentId
        (some r)).setWorker w.workerId (some w'))
  | released {k old : PyStr} {w w' : Worker} (worker : v.workers k = some w)
      (held : w.assignmentId = some old) (same : w'.workerId = w.workerId)
      (runtime : w'.runtimeId = w.runtimeId) (free : w'.assignmentId = Option.none) :
      Effect normPath v ((v.setAssignment old Option.none).setWorker k (some w'))
  | edited {k : PyStr} {w w' : Worker} (worker : v.workers k = some w)
      (same : w'.workerId = w.workerId) (runtime : w'.runtimeId = w.runtimeId)
      (kept : w'.assignmentId = w.assignmentId) : Effect normPath v (v.setWorker k (some w'))
  | unregistered {k : PyStr} {w : Worker} (worker : v.workers k = some w)
      (free : w.assignmentId = Option.none) : Effect normPath v (v.setWorker k Option.none)

/-- `Worker.make` on fields that pass the checks. -/
theorem make_of_check {w : WorkerFields} (h : w.check = .ok ()) : Worker.make w = .ok ⟨w, h⟩ := by
  unfold Worker.make
  split
  · rfl
  · rename_i heq
    rw [h] at heq
    cases heq

theorem WorkerFields.check_eq_ok {w : WorkerFields} : w.check = .ok () ↔
    requireText w.workerId "worker_id" = .ok () ∧
      requireText w.displayName "display_name" = .ok () ∧
      requireOptionalText w.runtimeId "runtime_id" = .ok () ∧
      requireOptionalText w.assignmentId "assignment_id" = .ok () := by
  unfold WorkerFields.check
  simp only [Except.bind_eq_ok]
  constructor
  · rintro ⟨_, hid, _, hname, _, hruntime, hassignment⟩
    exact ⟨hid, hname, hruntime, hassignment⟩
  · rintro ⟨hid, hname, hruntime, hassignment⟩
    exact ⟨_, hid, _, hname, _, hruntime, hassignment⟩

theorem Assignment.named (a : Assignment) : requireText a.assignmentId "assignment_id" = .ok () := by
  have h := a.checked
  unfold AssignmentFields.check at h
  simp only [Except.bind_eq_ok] at h
  obtain ⟨_, hid, -⟩ := h
  exact hid

/-- A worker takes the id of any assignment: the assignment has checked it. -/
theorem check_assigned (w : Worker) (a : Assignment) :
    WorkerFields.check { w.toWorkerFields with assignmentId := some a.assignmentId } = .ok () := by
  obtain ⟨hid, hname, hruntime, -⟩ := WorkerFields.check_eq_ok.mp w.checked
  exact WorkerFields.check_eq_ok.mpr ⟨hid, hname, hruntime, a.named⟩

theorem check_released (w : Worker) :
    WorkerFields.check { w.toWorkerFields with assignmentId := none } = .ok () := by
  obtain ⟨hid, hname, hruntime, -⟩ := WorkerFields.check_eq_ok.mp w.checked
  exact WorkerFields.check_eq_ok.mpr ⟨hid, hname, hruntime, rfl⟩

variable {s : ControlPlaneRegistry} {normPath : PyStr → Option PyStr}

theorem wp_getWorker {k : PyStr} {Q : Worker → ControlPlaneRegistry → Prop}
    (hQ : ∀ w, s.view.workers k = some w → Q w s) : wp (getWorker k) Q (fun _ s' => s' = s) s := by
  unfold getWorker
  rw [wp_bind, wp_query]
  cases hget : s.workers.get? k with
  | none => rfl
  | some w => exact hQ w hget

theorem wp_getProject {k : PyStr} {Q : Project → ControlPlaneRegistry → Prop}
    (hQ : ∀ p, s.view.projects k = some p → Q p s) :
    wp (getProject k) Q (fun _ s' => s' = s) s := by
  unfold getProject
  rw [wp_bind, wp_query]
  cases hget : s.projects.get? k with
  | none => rfl
  | some p => exact hQ p hget

theorem wp_newRecord {worker : Worker} {project : Project} {a : Assignment} {mutationAllowed : Bool}
    {Q : AssignmentRecord → ControlPlaneRegistry → Prop}
    (hworker : s.view.workers a.workerId = some worker)
    (hproject : s.view.projects a.projectId = some project)
    (hfresh : s.view.assignments a.assignmentId = none)
    (hQ : ∀ r, r.assignment = a → Fits normPath s.view worker r → Q r s) :
    wp (newRecord normPath worker project a mutationAllowed) Q (fun _ s' => s' = s) s := by
  unfold newRecord
  rw [wp_bind, wp_require]
  refine ⟨fun hruntime => ?_, fun _ => rfl⟩
  rw [wp_bind]
  apply wp_ofExcept_of
  · intro key hworktree
    simp only [wp_bind, wp_query, wp_require, wp_pure]
    refine ⟨fun hopen => ?_, fun _ => trivial⟩
    apply hQ _ rfl
    refine ⟨hworker, ⟨project, hproject, hworktree⟩, hfresh, by simpa using hruntime, ?_⟩
    intro hmutating id t ht htmutating hkey
    dsimp only at hmutating hkey
    by_contra hne
    have htaken : worktreeTaken s.assignments key worker.workerId = true := by
      refine List.any_eq_true.mpr ⟨t, Dict.mem_values_iff.mpr ⟨id, ht⟩, ?_⟩
      simp [htmutating, hkey, hne]
    simp [hmutating, htaken] at hopen
  · intro _ _
    rfl

theorem registerProject_spec (normPath : PyStr → Option PyStr)
    (p : Project) (s : ControlPlaneRegistry) :
    wp (registerProject p) (fun _ s' => Effect normPath s.view s'.view) (fun _ s' => s' = s) s := by
  unfold registerProject
  simp only [wp_bind, wp_query, wp_require, wp_update, wp_pure]
  refine ⟨fun hfresh => ?_, fun _ => trivial⟩
  rw [view_putProject]
  refine .project p ?_
  show s.projects.get? p.projectId = none
  simpa using hfresh

theorem registerWorker_spec (normPath : PyStr → Option PyStr)
    (w : Worker) (s : ControlPlaneRegistry) :
    wp (registerWorker w) (fun _ s' => Effect normPath s.view s'.view) (fun _ s' => s' = s) s := by
  unfold registerWorker
  simp only [wp_bind, wp_query, wp_require, wp_update, wp_pure]
  refine ⟨fun hfresh => ⟨fun hfree => ?_, fun _ => trivial⟩, fun _ => trivial⟩
  rw [view_putWorker]
  refine .worker ?_ (Option.isNone_iff_eq_none.mp hfree)
  show s.workers.get? w.workerId = none
  simpa using hfresh

theorem assign_spec (normPath : PyStr → Option PyStr) (a : Assignment) (mutationAllowed : Bool)
    (s : ControlPlaneRegistry) :
    wp (assign normPath a mutationAllowed) (fun _ s' => Effect normPath s.view s'.view)
      (fun _ s' => s' = s) s := by
  unfold assign
  rw [wp_bind]
  apply wp_getWorker
  intro worker hworker
  rw [wp_bind]
  apply wp_getProject
  intro project hproject
  rw [wp_bind, wp_query, wp_bind, wp_require]
  refine ⟨fun hknown => ?_, fun _ => rfl⟩
  rw [wp_bind, wp_require]
  refine ⟨fun hfree => ?_, fun _ => rfl⟩
  have hfresh : s.view.assignments a.assignmentId = none := by
    show s.assignments.get? a.assignmentId = none
    simpa using hknown
  rw [wp_bind]
  apply wp_newRecord hworker hproject hfresh
  intro r hr fits
  subst hr
  rw [make_of_check (check_assigned worker r.assignment)]
  simp only [wp_bind, wp_update, wp_ofExcept_ok, wp_pure]
  rw [view_putWorker, view_putAssignment]
  exact .assigned fits (Option.isNone_iff_eq_none.mp hfree) rfl rfl rfl

theorem replaceAssignment_spec (normPath : PyStr → Option PyStr) (a : Assignment)
    (mutationAllowed : Bool) (s : ControlPlaneRegistry) :
    wp (replaceAssignment normPath a mutationAllowed) (fun _ s' => Effect normPath s.view s'.view)
      (fun _ s' => s' = s) s := by
  unfold replaceAssignment
  rw [wp_bind]
  apply wp_getWorker
  intro worker hworker
  rw [wp_bind]
  apply wp_getProject
  intro project hproject
  rw [wp_bind, wp_require]
  refine ⟨fun _ => ?_, fun _ => rfl⟩
  cases hheld : worker.assignmentId with
  | none => exact assign_spec normPath a mutationAllowed s
  | some old =>
    dsimp only
    rw [wp_bind, wp_query, wp_bind, wp_require]
    refine ⟨fun hknown => ?_, fun _ => rfl⟩
    have hfresh : s.view.assignments a.assignmentId = none := by
      show s.assignments.get? a.assignmentId = none
      simpa using hknown
    rw [wp_bind]
    apply wp_newRecord hworker hproject hfresh
    intro r hr fits
    subst hr
    rw [make_of_check (check_assigned worker r.assignment)]
    simp only [wp_bind, wp_update, wp_ofExcept_ok, wp_pure]
    rw [view_putWorker, view_putAssignment, view_popAssignment]
    exact .reassigned fits hheld rfl rfl rfl

theorem releaseWorker_spec (normPath : PyStr → Option PyStr)
    (k : PyStr) (s : ControlPlaneRegistry) :
    wp (releaseWorker k) (fun _ s' => Effect normPath s.view s'.view) (fun _ s' => s' = s) s := by
  unfold releaseWorker
  rw [wp_bind]
  apply wp_getWorker
  intro worker hworker
  rw [wp_bind, wp_require]
  refine ⟨fun _ => ?_, fun _ => rfl⟩
  cases hheld : worker.assignmentId with
  | none => exact .none
  | some old =>
    dsimp only
    rw [make_of_check (check_released worker)]
    simp only [wp_bind, wp_update, wp_ofExcept_ok, wp_pure]
    rw [view_putWorker, view_popAssignment]
    exact .released hworker hheld rfl rfl rfl

/-- A write of edited fields that keep the worker and its assignment. -/
theorem wp_edit {k : PyStr} {worker : Worker} {f : WorkerFields}
    (hworker : s.view.workers k = some worker) (hid : f.workerId = worker.workerId)
    (hruntime : f.runtimeId = worker.runtimeId) (hkept : f.assignmentId = worker.assignmentId) :
    wp (do
      let updated ← ofExcept (Worker.make f)
      update fun s => s.putWorker k updated
      pure updated) (fun _ s' => Effect normPath s.view s'.view) (fun _ s' => s' = s) s := by
  rw [wp_bind]
  apply wp_ofExcept_of
  · intro updated hmake
    have hfields : updated.toWorkerFields = f := by
      unfold Worker.make at hmake
      split at hmake
      · cases hmake
        rfl
      · cases hmake
    simp only [wp_bind, wp_update, wp_pure]
    rw [view_putWorker]
    refine .edited hworker ?_ ?_ ?_
    · rw [hfields, hid]
    · rw [hfields, hruntime]
    · rw [hfields, hkept]
  · intro _ _
    rfl

theorem setWorkerState_spec (normPath : PyStr → Option PyStr)
    (k : PyStr) (state : WorkerState) (s : ControlPlaneRegistry) :
    wp (setWorkerState k state) (fun _ s' => Effect normPath s.view s'.view)
      (fun _ s' => s' = s) s := by
  unfold setWorkerState
  rw [wp_bind]
  apply wp_getWorker
  intro worker hworker
  exact wp_edit hworker rfl rfl rfl

theorem renameWorker_spec (normPath : PyStr → Option PyStr)
    (k displayName : PyStr) (s : ControlPlaneRegistry) :
    wp (renameWorker k displayName) (fun _ s' => Effect normPath s.view s'.view)
      (fun _ s' => s' = s) s := by
  unfold renameWorker
  rw [wp_bind]
  apply wp_getWorker
  intro worker hworker
  rw [wp_bind, wp_require]
  refine ⟨fun _ => ?_, fun _ => rfl⟩
  exact wp_edit hworker rfl rfl rfl

theorem unregisterWorker_spec (normPath : PyStr → Option PyStr)
    (k : PyStr) (s : ControlPlaneRegistry) :
    wp (unregisterWorker k) (fun _ s' => Effect normPath s.view s'.view)
      (fun _ s' => s' = s) s := by
  unfold unregisterWorker
  rw [wp_bind]
  apply wp_getWorker
  intro worker hworker
  simp only [wp_bind, wp_require, wp_update, wp_pure]
  refine ⟨fun hfree => ⟨fun _ => ?_, fun _ => trivial⟩, fun _ => trivial⟩
  rw [view_popWorker]
  exact .unregistered hworker (Option.isNone_iff_eq_none.mp hfree)

/-- An operation that returns had one of the effects; one that raises had none. -/
theorem perform_spec (normPath : PyStr → Option PyStr) (call : RegistryCall)
    (s : ControlPlaneRegistry) :
    wp (perform normPath call) (fun _ s' => Effect normPath s.view s'.view)
      (fun _ s' => s' = s) s := by
  cases call with
  | registerProject p =>
    simp only [perform, wp_bind, wp_pure]
    exact registerProject_spec normPath p s
  | registerWorker w =>
    simp only [perform, wp_bind, wp_pure]
    exact registerWorker_spec normPath w s
  | getProject k =>
    simp only [perform, wp_bind, wp_pure]
    exact wp_getProject fun _ _ => .none
  | getWorker k =>
    simp only [perform, wp_bind, wp_pure]
    exact wp_getWorker fun _ _ => .none
  | assign a mutationAllowed =>
    simp only [perform, wp_bind, wp_pure]
    exact assign_spec normPath a mutationAllowed s
  | replaceAssignment a mutationAllowed =>
    simp only [perform, wp_bind, wp_pure]
    exact replaceAssignment_spec normPath a mutationAllowed s
  | releaseWorker k =>
    simp only [perform, wp_bind, wp_pure]
    exact releaseWorker_spec normPath k s
  | setWorkerState k state =>
    simp only [perform, wp_bind, wp_pure]
    exact setWorkerState_spec normPath k state s
  | renameWorker k displayName =>
    simp only [perform, wp_bind, wp_pure]
    exact renameWorker_spec normPath k displayName s
  | unregisterWorker k =>
    simp only [perform, wp_bind, wp_pure]
    exact unregisterWorker_spec normPath k s
  | snapshot =>
    simp only [perform, snapshot, wp_bind, wp_query, wp_pure]
    exact .none

end AConductor.Registry

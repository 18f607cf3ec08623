import AConductor.Registry.Effects

/-!
# Workers and assignments of the registry

`src/a_conductor/registry.py:68-271`. The pairing of workers and assignments and the
single writer of a worktree are kept by every effect of an operation, so they hold after
every run.
-/

namespace AConductor.Registry

open Txn Function

/-- Worker `k` names assignment `a`. -/
def View.Names (v : View) (k a : PyStr) : Prop :=
  ∃ w, v.workers k = some w ∧ w.assignmentId = some a

/-- Assignment `a` is for worker `k`. -/
def View.Given (v : View) (k a : PyStr) : Prop :=
  ∃ r, v.assignments a = some r ∧ r.workerId = k

/-- Entries are under their own ids, workers and assignments name each other, assignments
    are of known projects, and a worktree has one mutating assignment. -/
structure Exclusive (v : View) : Prop where
  workerKey : ∀ k w, v.workers k = some w → w.workerId = k
  assignmentKey : ∀ a r, v.assignments a = some r → r.assignmentId = a
  project : ∀ a r, v.assignments a = some r → ∃ p, v.projects r.projectId = some p
  linked : ∀ k a, v.Names k a ↔ v.Given k a
  mutating : ∀ a b r t, v.assignments a = some r → v.assignments b = some t →
    r.mutationAllowed = true → t.mutationAllowed = true → r.worktreeKey = t.worktreeKey → a = b

theorem exclusive_empty : Exclusive ControlPlaneRegistry.empty.view := by
  refine ⟨nofun, nofun, nofun, ?_, nofun⟩
  intro k a
  constructor
  · rintro ⟨w, hw, -⟩
    cases hw
  · rintro ⟨r, hr, -⟩
    cases hr

variable {w : Option Worker} {normPath : PyStr → Option PyStr} {s s' : ControlPlaneRegistry}

section Lookups

variable {v : View}

theorem names_setWorker {k a j : PyStr} : (v.setWorker k w).Names j a ↔
      if j = k then ∃ x, w = some x ∧ x.assignmentId = some a else v.Names j a := by
  unfold View.Names View.setWorker
  simp only [update_apply]
  by_cases hj : j = k
  · simp [hj]
  · simp [hj]

variable {r : Option AssignmentRecord}

theorem given_setAssignment {k a b : PyStr} : (v.setAssignment a r).Given k b ↔
      if b = a then ∃ x, r = some x ∧ x.workerId = k else v.Given k b := by
  unfold View.Given View.setAssignment
  simp only [update_apply]
  by_cases hb : b = a
  · simp [hb]
  · simp [hb]

/-- A write to the workers does not touch the assignments, nor the other way round. -/
theorem given_setWorker {k a j : PyStr} : (v.setWorker k w).Given j a ↔ v.Given j a := Iff.rfl

theorem names_setAssignment {k a b : PyStr} :
    (v.setAssignment a r).Names k b ↔ v.Names k b := Iff.rfl

theorem setWorker_workers {k j : PyStr} {x : Worker} (h : (v.setWorker k w).workers j = some x) :
    (j = k ∧ w = some x) ∨ v.workers j = some x := by
  simp only [View.setWorker, update_apply] at h
  split at h
  · rename_i hj
    exact .inl ⟨hj, h⟩
  · exact .inr h

theorem setAssignment_assignments {a b : PyStr} {x : AssignmentRecord}
    (h : (v.setAssignment a r).assignments b = some x) :
    (b = a ∧ r = some x) ∨ v.assignments b = some x := by
  simp only [View.setAssignment, update_apply] at h
  split at h
  · rename_i hb
    exact .inl ⟨hb, h⟩
  · exact .inr h

end Lookups

namespace Exclusive

variable {v : View}

/-- A lookup of a held assignment names no other worker. -/
theorem names_eq (h : Exclusive v) {k j a : PyStr} (hk : v.Names k a) (hj : v.Names j a) :
    k = j := by
  obtain ⟨r, hr, rfl⟩ := (h.linked k a).mp hk
  obtain ⟨t, ht, rfl⟩ := (h.linked j a).mp hj
  rw [hr] at ht
  cases ht
  rfl

theorem setProject (h : Exclusive v) (p : Project) : Exclusive (v.setProject p.projectId p) := by
  refine ⟨h.workerKey, h.assignmentKey, ?_, h.linked, h.mutating⟩
  intro a r hr
  by_cases hp : r.projectId = p.projectId
  · exact ⟨p, by simp [View.setProject, hp]⟩
  · obtain ⟨q, hq⟩ := h.project a r hr
    exact ⟨q, by simpa [View.setProject, update_apply, hp] using hq⟩

/-- A worker entry is replaced, or removed, while what it names stays the same. -/
theorem setWorker (h : Exclusive v) {k : PyStr} (hkey : ∀ x, w = some x → x.workerId = k)
    (hnames : ∀ a, (∃ x, w = some x ∧ x.assignmentId = some a) ↔ v.Names k a) :
    Exclusive (v.setWorker k w) := by
  refine ⟨?_, h.assignmentKey, h.project, ?_, h.mutating⟩
  · intro j x hx
    rcases setWorker_workers hx with ⟨rfl, hw⟩ | hold
    · exact hkey x hw
    · exact h.workerKey j x hold
  · intro j a
    rw [names_setWorker, given_setWorker, ← h.linked]
    by_cases hj : j = k
    · rw [if_pos hj, hnames, hj]
    · rw [if_neg hj]

theorem released (h : Exclusive v) {k old : PyStr} {w w' : Worker} (hw : v.workers k = some w)
    (hheld : w.assignmentId = some old) (hsame : w'.workerId = w.workerId)
    (hfree : w'.assignmentId = none) :
    Exclusive ((v.setAssignment old none).setWorker k (some w')) := by
  have hnames : v.Names k old := ⟨w, hw, hheld⟩
  refine ⟨?_, ?_, ?_, ?_, ?_⟩
  · intro j x hx
    rcases setWorker_workers hx with ⟨rfl, heq⟩ | hold
    · cases heq
      rw [hsame]
      exact h.workerKey j w hw
    · exact h.workerKey j x hold
  · intro a r hr
    rcases setAssignment_assignments hr with ⟨-, hnone⟩ | hold
    · cases hnone
    · exact h.assignmentKey a r hold
  · intro a r hr
    rcases setAssignment_assignments hr with ⟨-, hnone⟩ | hold
    · cases hnone
    · exact h.project a r hold
  · intro j a
    rw [names_setWorker, given_setWorker, given_setAssignment, names_setAssignment]
    by_cases hj : j = k
    · subst hj
      rw [if_pos rfl]
      constructor
      · rintro ⟨x, heq, ha⟩
        cases heq
        rw [hfree] at ha
        cases ha
      · intro hgiven
        by_cases ha : a = old
        · rw [if_pos ha] at hgiven
          obtain ⟨x, hnone, -⟩ := hgiven
          cases hnone
        · exfalso
          rw [if_neg ha, ← h.linked] at hgiven
          obtain ⟨x, hx, hxa⟩ := hgiven
          rw [hw] at hx
          cases hx
          rw [hheld] at hxa
          cases hxa
          exact ha rfl
    · rw [if_neg hj]
      by_cases ha : a = old
      · subst ha
        rw [if_pos rfl]
        constructor
        · intro hother
          exact absurd (h.names_eq hother hnames) hj
        · rintro ⟨x, hnone, -⟩
          cases hnone
      · rw [if_neg ha]
        exact h.linked j a
  · intro a b r t hr ht hrm htm hkey
    rcases setAssignment_assignments hr with ⟨-, hnone⟩ | hr'
    · cases hnone
    · rcases setAssignment_assignments ht with ⟨-, hnone⟩ | ht'
      · cases hnone
      · exact h.mutating a b r t hr' ht' hrm htm hkey

theorem assigned {normPath : PyStr → Option PyStr} (h : Exclusive v) {w w' : Worker}
    {r : AssignmentRecord} (hfits : Fits normPath v w r) (hfree : w.assignmentId = none)
    (hsame : w'.workerId = w.workerId) (hnames : w'.assignmentId = some r.assignmentId) :
    Exclusive ((v.setAssignment r.assignmentId (some r)).setWorker w.workerId (some w')) := by
  have hid : w.workerId = r.workerId := h.workerKey _ w hfits.worker
  have hw : v.workers w.workerId = some w := by
    rw [hid]
    exact hfits.worker
  -- nobody works on a worktree that the new record mutates
  have halone (a : PyStr) (t : AssignmentRecord) (ht : v.assignments a = some t)
      (hrm : r.mutationAllowed = true) (htm : t.mutationAllowed = true)
      (hkey : t.worktreeKey = r.worktreeKey) : False := by
    have hother := hfits.exclusive hrm a t ht htm hkey
    obtain ⟨x, hx, hxa⟩ := (h.linked w.workerId a).mpr ⟨t, ht, hother⟩
    rw [hw] at hx
    cases hx
    rw [hfree] at hxa
    cases hxa
  refine ⟨?_, ?_, ?_, ?_, ?_⟩
  · intro j x hx
    rcases setWorker_workers hx with ⟨rfl, heq⟩ | hold
    · cases heq
      exact hsame
    · exact h.workerKey j x hold
  · intro a t ht
    rcases setAssignment_assignments ht with ⟨rfl, heq⟩ | hold
    · cases heq
      rfl
    · exact h.assignmentKey a t hold
  · intro a t ht
    rcases setAssignment_assignments ht with ⟨-, heq⟩ | hold
    · cases heq
      obtain ⟨p, hp, -⟩ := hfits.project
      exact ⟨p, hp⟩
    · exact h.project a t hold
  · intro j a
    rw [names_setWorker, given_setWorker, given_setAssignment, names_setAssignment]
    by_cases ha : a = r.assignmentId
    · rw [if_pos ha]
      by_cases hj : j = w.workerId
      · rw [if_pos hj, ha]
        exact ⟨fun _ => ⟨r, rfl, hid.symm.trans hj.symm⟩, fun _ => ⟨w', rfl, hnames⟩⟩
      · rw [if_neg hj]
        constructor
        · intro hother
          exfalso
          obtain ⟨t, ht, -⟩ := (h.linked j a).mp hother
          rw [ha, hfits.fresh] at ht
          cases ht
        · rintro ⟨x, heq, hxj⟩
          cases heq
          exact absurd (hxj.symm.trans hid.symm) hj
    · rw [if_neg ha]
      by_cases hj : j = w.workerId
      · rw [if_pos hj]
        constructor
        · rintro ⟨x, heq, hxa⟩
          cases heq
          rw [hnames] at hxa
          cases hxa
          exact absurd rfl ha
        · intro hgiven
          exfalso
          obtain ⟨x, hx, hxa⟩ := (h.linked j a).mpr hgiven
          rw [hj, hw] at hx
          cases hx
          rw [hfree] at hxa
          cases hxa
      · rw [if_neg hj]
        exact h.linked j a
  · intro a b x t hx ht hxm htm hkey
    rcases setAssignment_assignments hx with ⟨rfl, heq⟩ | hx'
    · cases heq
      rcases setAssignment_assignments ht with ⟨rfl, heq'⟩ | ht'
      · rfl
      · exact (halone b t ht' hxm htm hkey.symm).elim
    · rcases setAssignment_assignments ht with ⟨rfl, heq'⟩ | ht'
      · cases heq'
        exact (halone a x hx' htm hxm hkey).elim
      · exact h.mutating a b x t hx' ht' hxm htm hkey

/-- A worker changes its assignment: it gives the old one back and takes the new one. -/
theorem reassigned {normPath : PyStr → Option PyStr} (h : Exclusive v) {w w' : Worker}
    {r : AssignmentRecord} {old : PyStr} (hfits : Fits normPath v w r)
    (hheld : w.assignmentId = some old) (hsame : w'.workerId = w.workerId)
    (hnames : w'.assignmentId = some r.assignmentId) :
    Exclusive (((v.setAssignment old none).setAssignment r.assignmentId
      (some r)).setWorker w.workerId (some w')) := by
  let free : Worker := ⟨{ w.toWorkerFields with assignmentId := none }, check_released w⟩
  have hid : w.workerId = r.workerId := h.workerKey _ w hfits.worker
  have hw : v.workers w.workerId = some w := by
    rw [hid]
    exact hfits.worker
  have hreleased : Exclusive ((v.setAssignment old none).setWorker w.workerId (some free)) :=
    h.released hw hheld rfl rfl
  have hfits' :
      Fits normPath ((v.setAssignment old none).setWorker w.workerId (some free)) free r := by
    refine ⟨?_, hfits.project, ?_, hfits.runtime, ?_⟩
    · rw [← hid]
      exact update_self _ _ _
    · show update v.assignments old none r.assignmentId = none
      rw [update_apply, hfits.fresh]
      exact ite_self _
    · intro hrm a t ht
      rcases setAssignment_assignments ht with ⟨-, hnone⟩ | hold
      · cases hnone
      · exact hfits.exclusive hrm a t hold
  have hassigned : Exclusive ((((v.setAssignment old none).setWorker w.workerId
      (some free)).setAssignment r.assignmentId (some r)).setWorker free.workerId (some w')) :=
    hreleased.assigned hfits' rfl hsame hnames
  have hview : (((v.setAssignment old none).setWorker w.workerId (some free)).setAssignment
      r.assignmentId (some r)).setWorker w.workerId (some w') =
      ((v.setAssignment old none).setAssignment r.assignmentId (some r)).setWorker w.workerId
        (some w') := by
    simp only [View.setWorker, View.setAssignment, update_idem]
  rw [← hview]
  exact hassigned

theorem effect (h : Exclusive v) {v' : View} (he : Effect normPath v v') : Exclusive v' := by
  cases he with
  | none => exact h
  | project p => exact h.setProject p
  | @worker w fresh free =>
    refine h.setWorker ?_ ?_
    · intro x hx
      cases hx
      rfl
    · intro a
      constructor
      · rintro ⟨x, hx, hxa⟩
        cases hx
        rw [free] at hxa
        cases hxa
      · rintro ⟨x, hx, -⟩
        rw [fresh] at hx
        cases hx
  | assigned fits free same _ names => exact h.assigned fits free same names
  | reassigned fits held same _ names => exact h.reassigned fits held same names
  | released worker held same _ free => exact h.released worker held same free
  | @edited k w w' worker same _ kept =>
    refine h.setWorker ?_ ?_
    · intro x hx
      cases hx
      rw [same]
      exact h.workerKey k w worker
    · intro a
      constructor
      · rintro ⟨x, hx, hxa⟩
        cases hx
        exact ⟨w, worker, kept.symm.trans hxa⟩
      · rintro ⟨x, hx, hxa⟩
        rw [worker] at hx
        cases hx
        exact ⟨w', rfl, kept.trans hxa⟩
  | @unregistered k w worker free =>
    refine h.setWorker nofun ?_
    intro a
    constructor
    · rintro ⟨x, hx, -⟩
      cases hx
    · rintro ⟨x, hx, hxa⟩
      rw [worker] at hx
      cases hx
      rw [free] at hxa
      cases hxa

end Exclusive

/-! ### Runs -/

theorem registryStep_ok {call : RegistryCall} {answer : RegistryAnswer}
    (h : registryStep normPath s call = (.ok answer, s')) : Effect normPath s.view s'.view := by
  exact wp_ok (Q := fun _ t => Effect normPath s.view t.view) (perform_spec normPath call s) h

theorem registryStep_error {call : RegistryCall} {e : RegistryFault}
    (h : registryStep normPath s call = (.error e, s')) : s' = s := by
  exact wp_error (E := fun _ t => t = s) (perform_spec normPath call s) h

theorem reachable_exclusive
    (h : Machine.Reachable (registryStep normPath) ControlPlaneRegistry.empty s) :
    Exclusive s.view := by
  apply h.induction (P := fun s => Exclusive s.view) exclusive_empty
  intro s call hs
  rcases hout : registryStep normPath s call with ⟨answer, s'⟩
  cases answer with
  | error e =>
    have hsame : s' = s := registryStep_error hout
    subst hsame
    exact hs
  | ok a => exact hs.effect (registryStep_ok hout)

/-- The ids that the workers of a registry name. -/
def heldAssignments (s : ControlPlaneRegistry) : List PyStr :=
  s.workers.values.filterMap fun w => w.assignmentId

/-- What the workers name and what the registry has assigned are the same ids, once
    each. -/
theorem Exclusive.heldAssignments_perm (h : Exclusive s.view) :
    (heldAssignments s).Perm (s.assignments.entries.map Prod.fst) := by
  have hnodup : (heldAssignments s).Nodup := by
    unfold heldAssignments Dict.values
    rw [List.filterMap_map]
    apply List.pairwise_filterMap.mpr
    refine List.Pairwise.imp_of_mem ?_ (List.pairwise_map.mp s.workers.nodup)
    rintro ⟨k, w⟩ ⟨j, x⟩ hw hx hne a hwa _ hxa rfl
    exact hne (h.names_eq ⟨w, Dict.mem_iff_get?.mp hw, hwa⟩ ⟨x, Dict.mem_iff_get?.mp hx, hxa⟩)
  rw [List.perm_ext_iff_of_nodup hnodup s.assignments.nodup]
  intro a
  rw [Dict.mem_keys_iff]
  unfold heldAssignments
  rw [List.mem_filterMap]
  constructor
  · rintro ⟨w, hw, ha⟩
    obtain ⟨k, hk⟩ := Dict.mem_values_iff.mp hw
    obtain ⟨r, hr, -⟩ := (h.linked k a).mp ⟨w, hk, ha⟩
    exact ⟨r, hr⟩
  · rintro ⟨r, hr⟩
    obtain ⟨w, hw, ha⟩ := (h.linked r.workerId a).mpr ⟨r, hr, rfl⟩
    exact ⟨w, Dict.mem_values_iff.mpr ⟨_, hw⟩, ha⟩

/-- Over every run of registry operations from the empty registry: each assignment is of a
    registered project and worker, which names it; a worker that names an assignment has
    it; the ids that workers name are those assigned, once each; a worktree has one
    mutating assignment; and an operation that raises changes nothing. -/
theorem registry_exclusive (normPath : PyStr → Option PyStr) (calls : List RegistryCall) :
    let s := (Machine.run (registryStep normPath) ControlPlaneRegistry.empty calls).2
    (∀ a r, s.assignments.get? a = some r →
      r.assignmentId = a ∧ (∃ p, s.projects.get? r.projectId = some p) ∧
        ∃ w, s.workers.get? r.workerId = some w ∧ w.workerId = r.workerId ∧
          w.assignmentId = some a) ∧
    (∀ k w a, s.workers.get? k = some w → w.assignmentId = some a →
      ∃ r, s.assignments.get? a = some r ∧ r.workerId = k) ∧
    (heldAssignments s).Perm (s.assignments.entries.map Prod.fst) ∧
    (∀ a b r t, s.assignments.get? a = some r → s.assignments.get? b = some t →
      r.mutationAllowed = true → t.mutationAllowed = true → r.worktreeKey = t.worktreeKey →
      a = b) ∧
    ∀ call e s', registryStep normPath s call = (.error e, s') → s' = s := by
  intro s
  have h : Exclusive s.view := reachable_exclusive ⟨calls, rfl⟩
  refine ⟨?_, ?_, h.heldAssignments_perm, h.mutating, ?_⟩
  · intro a r hr
    obtain ⟨w, hw, ha⟩ := (h.linked r.workerId a).mpr ⟨r, hr, rfl⟩
    exact ⟨h.assignmentKey a r hr, h.project a r hr, w, hw, h.workerKey _ w hw, ha⟩
  · intro k w a hw ha
    exact (h.linked k a).mp ⟨w, hw, ha⟩
  · intro call e s' hstep
    exact registryStep_error hstep

end AConductor.Registry

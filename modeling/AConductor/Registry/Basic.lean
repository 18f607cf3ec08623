import AConductor.Lib.Dict
import AConductor.Lib.Machine
import AConductor.Lib.PyText
import AConductor.Lib.Transaction

/-!
# The control-plane registry

`ControlPlaneRegistry` (`src/a_conductor/registry.py:36-271`) with the domain records it
keeps (`src/a_conductor/domain.py:80-164`), which cannot be built without passing their
own checks. The dictionaries are written in place and nothing rolls a write back, so an
operation is a body whose earlier writes survive a later raise. `ntpath.normcase` after
`ntpath.normpath` is a parameter, `none` where it raises.
-/

namespace AConductor.Registry

open Txn

/-- What a registry call can raise: a `ValueError`, one of the `RegistryError` classes
    with its text, and whatever the path normalisation raises. -/
inductive RegistryFault where
  | valueError (text : PyStr)
  | duplicateRegistration (text : PyStr)
  | assignmentConflict (text : PyStr)
  | notFound (text : PyStr)
  | workerBusy (text : PyStr)
  | pathError
  deriving DecidableEq, Repr

/-- `_require_text` (`domain.py:80-83`). -/
def requireText (value : PyStr) (fieldName : String) : Except RegistryFault Unit :=
  if value.isBlank then .error (.valueError (.lit (fieldName ++ " must not be blank"))) else .ok ()

/-- `_require_optional_text` (`domain.py:86-89`). -/
def requireOptionalText (value : Option PyStr) (fieldName : String) :
    Except RegistryFault Unit :=
  match value with
  | none => .ok ()
  | some v => requireText v fieldName

/-- `WorkerState` (`domain.py:56-62`). -/
inductive WorkerState where
  | stopped
  | starting
  | ready
  | busy
  | stopping
  | error
  deriving DecidableEq, Repr

structure ProjectFields where
  projectId : PyStr
  displayName : PyStr
  rootPath : PyStr
  deriving DecidableEq, Repr

/-- `Project.__post_init__` (`domain.py:108-111`). -/
def ProjectFields.check (p : ProjectFields) : Except RegistryFault Unit := do
  requireText p.projectId "project_id"
  requireText p.displayName "display_name"
  requireText p.rootPath "root_path"

/-- `Project` (`domain.py:102-111`). -/
structure Project extends ProjectFields where
  checked : toProjectFields.check = .ok ()
  deriving DecidableEq, Repr

structure WorkerFields where
  workerId : PyStr
  displayName : PyStr
  runtimeId : Option PyStr := none
  assignmentId : Option PyStr := none
  state : WorkerState := .stopped
  deriving DecidableEq, Repr

/-- `Worker.__post_init__` (`domain.py:134-138`). -/
def WorkerFields.check (w : WorkerFields) : Except RegistryFault Unit := do
  requireText w.workerId "worker_id"
  requireText w.displayName "display_name"
  requireOptionalText w.runtimeId "runtime_id"
  requireOptionalText w.assignmentId "assignment_id"

/-- `Worker` (`domain.py:126-138`). -/
structure Worker extends WorkerFields where
  checked : toWorkerFields.check = .ok ()
  deriving DecidableEq, Repr

/-- The constructor call `Worker(…)`, also the one `dataclasses.replace` makes. -/
def Worker.make (w : WorkerFields) : Except RegistryFault Worker :=
  match h : w.check with
  | .ok () => .ok ⟨w, h⟩
  | .error e => .error e

structure AssignmentFields where
  assignmentId : PyStr
  workerId : PyStr
  projectId : PyStr
  runtimeId : Option PyStr := none
  deriving DecidableEq, Repr

/-- `Assignment.__post_init__` (`domain.py:174-178`). -/
def AssignmentFields.check (a : AssignmentFields) : Except RegistryFault Unit := do
  requireText a.assignmentId "assignment_id"
  requireText a.workerId "worker_id"
  requireText a.projectId "project_id"
  requireOptionalText a.runtimeId "runtime_id"

/-- `Assignment` (`domain.py:167-178`). -/
structure Assignment extends AssignmentFields where
  checked : toAssignmentFields.check = .ok ()
  deriving DecidableEq, Repr

/-- `AssignmentRecord` (`registry.py:42-58`). -/
structure AssignmentRecord where
  assignment : Assignment
  mutationAllowed : Bool
  worktreeKey : PyStr
  deriving DecidableEq, Repr

def AssignmentRecord.assignmentId (r : AssignmentRecord) : PyStr := r.assignment.assignmentId

def AssignmentRecord.workerId (r : AssignmentRecord) : PyStr := r.assignment.workerId

def AssignmentRecord.projectId (r : AssignmentRecord) : PyStr := r.assignment.projectId

/-- `ControlPlaneRegistry` (`registry.py:68-72`). -/
structure ControlPlaneRegistry where
  projects : Dict PyStr Project
  workers : Dict PyStr Worker
  assignments : Dict PyStr AssignmentRecord

def ControlPlaneRegistry.empty : ControlPlaneRegistry := ⟨.empty, .empty, .empty⟩

abbrev RegistryTxn := Txn ControlPlaneRegistry RegistryFault

/-- `windows_worktree_key` (`registry.py:36-39`). -/
def windowsWorktreeKey (normPath : PyStr → Option PyStr) (path : PyStr) :
    Except RegistryFault PyStr :=
  if path.isBlank then .error (.valueError (.lit "worktree path must not be blank"))
  else match normPath path.strip with
  | none => .error .pathError
  | some key => .ok key

namespace ControlPlaneRegistry

/-- `self._projects[project_id] = project`. -/
def putProject (s : ControlPlaneRegistry) (projectId : PyStr) (project : Project) :
    ControlPlaneRegistry :=
  { s with projects := s.projects.set projectId project }

/-- `self._workers[worker_id] = worker`. -/
def putWorker (s : ControlPlaneRegistry) (workerId : PyStr) (worker : Worker) :
    ControlPlaneRegistry :=
  { s with workers := s.workers.set workerId worker }

/-- `del self._workers[worker_id]`. -/
def popWorker (s : ControlPlaneRegistry) (workerId : PyStr) : ControlPlaneRegistry :=
  { s with workers := s.workers.erase workerId }

/-- `self._assignments[assignment_id] = record`. -/
def putAssignment (s : ControlPlaneRegistry) (assignmentId : PyStr) (record : AssignmentRecord) :
    ControlPlaneRegistry :=
  { s with assignments := s.assignments.set assignmentId record }

/-- `self._assignments.pop(assignment_id, None)`. -/
def popAssignment (s : ControlPlaneRegistry) (assignmentId : PyStr) : ControlPlaneRegistry :=
  { s with assignments := s.assignments.erase assignmentId }

end ControlPlaneRegistry

/-- `register_project` (`registry.py:88-94`). -/
def registerProject (project : Project) : RegistryTxn Project := do
  let known ← query fun s => (s.projects.get? project.projectId).isSome
  require (!known)
    (.duplicateRegistration (PyStr.lit "project_id already registered: " ++ project.projectId))
  update fun s => s.putProject project.projectId project
  pure project

/-- `register_worker` (`registry.py:96-104`). -/
def registerWorker (worker : Worker) : RegistryTxn Worker := do
  let known ← query fun s => (s.workers.get? worker.workerId).isSome
  require (!known) (.duplicateRegistration (PyStr.lit "worker_id already registered: " ++ worker.workerId))
  require worker.assignmentId.isNone
    (.valueError (.lit "worker must be registered without an assignment"))
  update fun s => s.putWorker worker.workerId worker
  pure worker

/-- `get_project` (`registry.py:106-110`). -/
def getProject (projectId : PyStr) : RegistryTxn Project := do
  match ← query fun s => s.projects.get? projectId with
  | none => raise (.notFound (PyStr.lit "project_id not found: " ++ projectId))
  | some project => pure project

/-- `get_worker` (`registry.py:112-116`). -/
def getWorker (workerId : PyStr) : RegistryTxn Worker := do
  match ← query fun s => s.workers.get? workerId with
  | none => raise (.notFound (PyStr.lit "worker_id not found: " ++ workerId))
  | some worker => pure worker

/-- The runtime a worker has and the one an assignment names differ
    (`registry.py:135-142, 187-194`). -/
def runtimeMismatch (worker : Worker) (assignment : Assignment) : Bool :=
  worker.runtimeId.isSome && assignment.runtimeId.isSome &&
    decide (worker.runtimeId ≠ assignment.runtimeId)

/-- Another worker has a mutating assignment of the worktree (`registry.py:145-154, 196-205`). -/
def worktreeTaken (assignments : Dict PyStr AssignmentRecord) (worktreeKey workerId : PyStr) :
    Bool :=
  assignments.values.any fun r =>
    r.mutationAllowed && decide (r.worktreeKey = worktreeKey) && decide (r.workerId ≠ workerId)

/-- The tests of the runtime and of the worktree, and the new record
    (`registry.py:135-160, 187-211`). -/
def newRecord (normPath : PyStr → Option PyStr) (worker : Worker) (project : Project)
    (assignment : Assignment) (mutationAllowed : Bool) : RegistryTxn AssignmentRecord := do
  require (!runtimeMismatch worker assignment)
    (.assignmentConflict (PyStr.lit "runtime mismatch for worker " ++ worker.workerId))
  let worktreeKey ← ofExcept (windowsWorktreeKey normPath project.rootPath)
  let assignments ← query ControlPlaneRegistry.assignments
  require (!(mutationAllowed && worktreeTaken assignments worktreeKey worker.workerId))
    (.assignmentConflict (.lit "mutating worktree already assigned to another worker"))
  pure { assignment, mutationAllowed, worktreeKey }

/-- `assign` (`registry.py:118-166`). -/
def assign (normPath : PyStr → Option PyStr) (assignment : Assignment)
    (mutationAllowed : Bool) : RegistryTxn Assignment := do
  let worker ← getWorker assignment.workerId
  let project ← getProject assignment.projectId
  let known ← query fun s => (s.assignments.get? assignment.assignmentId).isSome
  require (!known)
    (.duplicateRegistration (PyStr.lit "assignment_id already registered: " ++ assignment.assignmentId))
  require worker.assignmentId.isNone
    (.assignmentConflict (PyStr.lit "worker already assigned: " ++ worker.workerId))
  let record ← newRecord normPath worker project assignment mutationAllowed
  update fun s => s.putAssignment assignment.assignmentId record
  -- the record is already in the dictionary when the worker is checked again
  let assigned ← ofExcept (Worker.make
    { worker.toWorkerFields with assignmentId := some assignment.assignmentId })
  update fun s => s.putWorker worker.workerId assigned
  pure assignment

/-- `replace_assignment` (`registry.py:168-217`). -/
def replaceAssignment (normPath : PyStr → Option PyStr) (assignment : Assignment)
    (mutationAllowed : Bool) : RegistryTxn Assignment := do
  let worker ← getWorker assignment.workerId
  let project ← getProject assignment.projectId
  require (worker.state = .stopped) (.workerBusy
    (PyStr.lit "busy worker assignment cannot be replaced until STOPPED: " ++ worker.workerId))
  match worker.assignmentId with
  | none => assign normPath assignment mutationAllowed
  | some oldAssignmentId =>
    let known ← query fun s => (s.assignments.get? assignment.assignmentId).isSome
    require (!known)
      (.duplicateRegistration (PyStr.lit "assignment_id already registered: " ++ assignment.assignmentId))
    let record ← newRecord normPath worker project assignment mutationAllowed
    update fun s => s.popAssignment oldAssignmentId
    update fun s => s.putAssignment assignment.assignmentId record
    let assigned ← ofExcept (Worker.make
      { worker.toWorkerFields with assignmentId := some assignment.assignmentId })
    update fun s => s.putWorker worker.workerId assigned
    pure assignment

/-- `release_worker` (`registry.py:219-231`). -/
def releaseWorker (workerId : PyStr) : RegistryTxn Worker := do
  let worker ← getWorker workerId
  require (worker.state = .stopped)
    (.workerBusy (PyStr.lit "busy worker cannot be released until STOPPED: " ++ workerId))
  match worker.assignmentId with
  | none => pure worker
  | some assignmentId =>
    update fun s => s.popAssignment assignmentId
    let released ← ofExcept (Worker.make { worker.toWorkerFields with assignmentId := none })
    update fun s => s.putWorker workerId released
    pure released

/-- `set_worker_state` (`registry.py:233-237`). -/
def setWorkerState (workerId : PyStr) (state : WorkerState) : RegistryTxn Worker := do
  let worker ← getWorker workerId
  let updated ← ofExcept (Worker.make { worker.toWorkerFields with state })
  update fun s => s.putWorker workerId updated
  pure updated

/-- `rename_worker` (`registry.py:239-245`). -/
def renameWorker (workerId displayName : PyStr) : RegistryTxn Worker := do
  let worker ← getWorker workerId
  require (!displayName.isBlank) (.valueError (.lit "display_name must not be blank"))
  let updated ← ofExcept (Worker.make
    { worker.toWorkerFields with displayName := displayName.strip })
  update fun s => s.putWorker workerId updated
  pure updated

/-- `unregister_worker` (`registry.py:247-258`). -/
def unregisterWorker (workerId : PyStr) : RegistryTxn Worker := do
  let worker ← getWorker workerId
  require worker.assignmentId.isNone
    (.workerBusy (PyStr.lit "assigned worker cannot be deleted: " ++ workerId))
  require (worker.state = .stopped)
    (.workerBusy (PyStr.lit "busy worker cannot be deleted until STOPPED: " ++ workerId))
  update fun s => s.popWorker workerId
  pure worker

/-- `RegistrySnapshot` (`registry.py:61-65`). -/
structure RegistrySnapshot where
  projects : List Project
  workers : List Worker
  assignments : List AssignmentRecord
  deriving DecidableEq, Repr

/-- `tuple(d[key] for key in sorted(d))`. -/
def sortedValues {V : Type} (d : Dict PyStr V) : List V :=
  (d.entries.insertionSort fun a b => PyStr.Le a.1 b.1).map Prod.snd

/-- `snapshot` (`registry.py:260-271`). -/
def snapshot : RegistryTxn RegistrySnapshot :=
  query fun s => ⟨sortedValues s.projects, sortedValues s.workers, sortedValues s.assignments⟩

/-- The operations of the registry. -/
inductive RegistryCall where
  | registerProject (project : Project)
  | registerWorker (worker : Worker)
  | getProject (projectId : PyStr)
  | getWorker (workerId : PyStr)
  | assign (assignment : Assignment) (mutationAllowed : Bool)
  | replaceAssignment (assignment : Assignment) (mutationAllowed : Bool)
  | releaseWorker (workerId : PyStr)
  | setWorkerState (workerId : PyStr) (state : WorkerState)
  | renameWorker (workerId displayName : PyStr)
  | unregisterWorker (workerId : PyStr)
  | snapshot

/-- What an operation returns. -/
inductive RegistryAnswer where
  | project (project : Project)
  | worker (worker : Worker)
  | assignment (assignment : Assignment)
  | snapshot (snapshot : RegistrySnapshot)

/-- Perform one operation. -/
def perform (normPath : PyStr → Option PyStr) : RegistryCall → RegistryTxn RegistryAnswer
  | .registerProject project => return .project (← registerProject project)
  | .registerWorker worker => return .worker (← registerWorker worker)
  | .getProject projectId => return .project (← getProject projectId)
  | .getWorker workerId => return .worker (← getWorker workerId)
  | .assign assignment mutationAllowed =>
    return .assignment (← assign normPath assignment mutationAllowed)
  | .replaceAssignment assignment mutationAllowed =>
    return .assignment (← replaceAssignment normPath assignment mutationAllowed)
  | .releaseWorker workerId => return .worker (← releaseWorker workerId)
  | .setWorkerState workerId state => return .worker (← setWorkerState workerId state)
  | .renameWorker workerId displayName => return .worker (← renameWorker workerId displayName)
  | .unregisterWorker workerId => return .worker (← unregisterWorker workerId)
  | .snapshot => return .snapshot (← snapshot)

def registryStep (normPath : PyStr → Option PyStr) (s : ControlPlaneRegistry)
    (call : RegistryCall) : Except RegistryFault RegistryAnswer × ControlPlaneRegistry :=
  perform normPath call s

end AConductor.Registry

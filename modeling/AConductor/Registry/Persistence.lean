import AConductor.Registry.Basic
import AConductor.Lib.Table

/-!
# The registry database

`SQLiteRegistryStore` (`src/a_conductor/persistence.py:27-232`): `save` writes a snapshot over
the three tables, `load` builds a registry from them by the operations that check it. The
tables keep the constraints of the schema; opening the file and the failures of SQLite itself
are left out. `PersistenceError` carries its text, where that shows a Python `repr` the values.
-/

namespace AConductor.Registry

open Txn

/-- What `save` and `load` raise. -/
inductive PersistenceFault where
  | persistenceError (text : PyStr)
  | referenceMismatch (workerId : PyStr) (expected actual : Option PyStr)
  | pathError
  deriving DecidableEq, Repr

/-- `SCHEMA_VERSION` (`persistence.py:19`). -/
def schemaVersion : String := "1"

/-- A row of `workers`. -/
structure WorkerRow where
  workerId : PyStr
  displayName : PyStr
  runtimeId : Option PyStr
  assignmentId : Option PyStr
  state : String
  deriving DecidableEq, Repr

/-- A row of `assignments`. -/
structure AssignmentRow where
  assignmentId : PyStr
  workerId : PyStr
  projectId : PyStr
  runtimeId : Option PyStr
  mutationAllowed : Int
  worktreeKey : PyStr
  deriving DecidableEq, Repr

/-- The tables (`persistence.py:52-79`); a row of `projects` is the fields of a project. -/
structure RegistryDatabase where
  schemaVersion : Option String
  projects : List ProjectFields
  workers : List WorkerRow
  assignments : List AssignmentRow
  deriving DecidableEq, Repr

/-- A database file that does not exist yet. -/
def RegistryDatabase.empty : RegistryDatabase := ⟨none, [], [], []⟩

abbrev DatabaseTxn := Txn RegistryDatabase PersistenceFault

/-- `initialize` (`persistence.py:47-100`). -/
def initializeStore : DatabaseTxn Unit := do
  match ← query RegistryDatabase.schemaVersion with
  | none => update fun db => { db with schemaVersion := some schemaVersion }
  | some version =>
    require (version = schemaVersion)
      (.persistenceError (.lit ("unsupported schema_version: " ++ version)))

/-- `WorkerState.value`. -/
def WorkerState.value : WorkerState → String
  | .stopped => "STOPPED"
  | .starting => "STARTING"
  | .ready => "READY"
  | .busy => "BUSY"
  | .stopping => "STOPPING"
  | .error => "ERROR"

/-- The row of a worker (`persistence.py:117-124`). -/
def Worker.row (w : Worker) : WorkerRow where
  workerId := w.workerId
  displayName := w.displayName
  runtimeId := w.runtimeId
  assignmentId := w.assignmentId
  state := w.state.value

/-- The row of an assignment (`persistence.py:132-139`). -/
def AssignmentRecord.row (r : AssignmentRecord) : AssignmentRow where
  assignmentId := r.assignment.assignmentId
  workerId := r.assignment.workerId
  projectId := r.assignment.projectId
  runtimeId := r.assignment.runtimeId
  mutationAllowed := if r.mutationAllowed then 1 else 0
  worktreeKey := r.worktreeKey

/-- What `save` makes of a violated constraint or a text that it cannot bind
    (`persistence.py:144-146`). -/
def saveFailed : PersistenceFault := .persistenceError (.lit "unable to save registry snapshot")

/-- A parameter is bound in UTF-8, which a lone surrogate does not have; the `UnicodeEncodeError` is a
    `ValueError`. -/
def bindable (text : PyStr) : Bool := text.all CodePoint.isChar

def ProjectFields.texts (row : ProjectFields) : List PyStr :=
  [row.projectId, row.displayName, row.rootPath]

def WorkerRow.texts (row : WorkerRow) : List PyStr :=
  row.workerId :: row.displayName :: (row.runtimeId.toList ++ row.assignmentId.toList)

def AssignmentRow.texts (row : AssignmentRow) : List PyStr :=
  row.assignmentId :: row.workerId :: row.projectId :: row.worktreeKey :: row.runtimeId.toList

def insertProject (row : ProjectFields) : DatabaseTxn Unit := do
  require (row.texts.all bindable) saveFailed
  let rows ← query RegistryDatabase.projects
  require (!(rows.any fun r => r.projectId = row.projectId)) saveFailed
  update fun db => { db with projects := db.projects ++ [row] }

def insertWorker (row : WorkerRow) : DatabaseTxn Unit := do
  require (row.texts.all bindable) saveFailed
  let rows ← query RegistryDatabase.workers
  require (!(rows.any fun r => r.workerId = row.workerId)) saveFailed
  update fun db => { db with workers := db.workers ++ [row] }

/-- The insertion checks the primary key, the two foreign keys and the `CHECK`. -/
def insertAssignment (row : AssignmentRow) : DatabaseTxn Unit := do
  require (row.texts.all bindable) saveFailed
  let rows ← query RegistryDatabase.assignments
  require (!(rows.any fun r => r.assignmentId = row.assignmentId)) saveFailed
  let workers ← query RegistryDatabase.workers
  require (workers.any fun w => w.workerId = row.workerId) saveFailed
  let projects ← query RegistryDatabase.projects
  require (projects.any fun p => p.projectId = row.projectId) saveFailed
  require (row.mutationAllowed = 0 || row.mutationAllowed = 1) saveFailed
  update fun db => { db with assignments := db.assignments ++ [row] }

/-- The transaction of `save` (`persistence.py:105-143`). -/
def saveBody (snapshot : RegistrySnapshot) : DatabaseTxn Unit := do
  update fun db => { db with projects := [], workers := [], assignments := [] }
  (snapshot.projects.map Project.toProjectFields).forM insertProject
  (snapshot.workers.map Worker.row).forM insertWorker
  (snapshot.assignments.map AssignmentRecord.row).forM insertAssignment

/-- `BEGIN IMMEDIATE` and `commit`; a raise rolls the writes back. -/
def transaction (body : DatabaseTxn Unit) : DatabaseTxn Unit := atomically body

/-- `save` (`persistence.py:102-146`). -/
def save (snapshot : RegistrySnapshot) : DatabaseTxn Unit := do
  initializeStore
  transaction (saveBody snapshot)

/-- `Project(…)`. -/
def Project.make (p : ProjectFields) : Except RegistryFault Project :=
  match h : p.check with
  | .ok () => .ok ⟨p, h⟩
  | .error e => .error e

/-- `Assignment(…)`. -/
def Assignment.make (a : AssignmentFields) : Except RegistryFault Assignment :=
  match h : a.check with
  | .ok () => .ok ⟨a, h⟩
  | .error e => .error e

/-- `WorkerState(value)`; `none` is its `ValueError`. -/
def WorkerState.ofValue (value : String) : Option WorkerState :=
  [WorkerState.stopped, .starting, .ready, .busy, .stopping, .error].find? fun s =>
    s.value = value

/-- What `load` makes of what the registry and the domain records raise
    (`persistence.py:229-230`). -/
def invalidData : RegistryFault → PersistenceFault
  | .pathError => .pathError
  | _ => .persistenceError (.lit "invalid persisted registry data")

abbrev LoadTxn := Txn ControlPlaneRegistry PersistenceFault

/-- One round of the loop over the projects (`persistence.py:170-177`). -/
def loadProject (row : ProjectFields) : LoadTxn Unit := do
  let project ← ofExcept ((Project.make row).mapError invalidData)
  let _ ← recast invalidData (registerProject project)

/-- One round of the loop over the workers (`persistence.py:179-195`). -/
def loadWorker (row : WorkerRow) : LoadTxn Unit := do
  match WorkerState.ofValue row.state with
  | none =>
    raise (.persistenceError
      (PyStr.lit "invalid worker state for " ++ row.workerId ++ PyStr.lit (": " ++ row.state)))
  | some state =>
    let worker ← ofExcept ((Worker.make {
      workerId := row.workerId, displayName := row.displayName, runtimeId := row.runtimeId,
      assignmentId := none, state }).mapError invalidData)
    let _ ← recast invalidData (registerWorker worker)

/-- One round of the loop over the assignments (`persistence.py:197-212`). -/
def loadAssignment (normPath : PyStr → Option PyStr) (row : AssignmentRow) : LoadTxn Unit := do
  require (row.mutationAllowed = 0 || row.mutationAllowed = 1)
    (.persistenceError (PyStr.lit "invalid mutation_allowed for " ++ row.assignmentId))
  let assignment ← ofExcept ((Assignment.make {
    assignmentId := row.assignmentId, workerId := row.workerId, projectId := row.projectId,
    runtimeId := row.runtimeId }).mapError invalidData)
  let _ ← recast invalidData (assign normPath assignment (row.mutationAllowed ≠ 0))

/-- One round of the last loop (`persistence.py:214-221`). The dictionary of the expected ids
    has the rows of the workers in their order: a second row of one id is refused before. -/
def checkReference (row : WorkerRow) : LoadTxn Unit := do
  let worker ← recast invalidData (getWorker row.workerId)
  require (worker.assignmentId = row.assignmentId)
    (.referenceMismatch row.workerId row.assignmentId worker.assignmentId)

/-- The loops of `load` (`persistence.py:169-221`). -/
def loadBody (normPath : PyStr → Option PyStr) (projects : List ProjectFields)
    (workers : List WorkerRow) (assignments : List AssignmentRow) : LoadTxn Unit := do
  projects.forM loadProject
  workers.forM loadWorker
  assignments.forM (loadAssignment normPath)
  workers.forM checkReference

/-- `load` (`persistence.py:148-232`). -/
def load (normPath : PyStr → Option PyStr) : DatabaseTxn ControlPlaneRegistry := do
  initializeStore
  let projects ← query fun db => db.projects.insertionSort fun a b => PyStr.Le a.projectId b.projectId
  let workers ← query fun db => db.workers.insertionSort fun a b => PyStr.Le a.workerId b.workerId
  let assignments ← query fun db =>
    db.assignments.insertionSort fun a b => PyStr.Le a.assignmentId b.assignmentId
  match loadBody normPath projects workers assignments .empty with
  | (.ok (), registry) => pure registry
  | (.error e, _) => raise e

end AConductor.Registry

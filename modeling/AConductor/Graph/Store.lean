import AConductor.Graph.Dag
import AConductor.Lib.Table
import AConductor.Lib.Transaction

/-!
# The graph store

`GraphStore` (`src/a_conductor/graph/store.py:415-1302`) over the tables of graph
definitions and of prepared runs, in the schema that it creates. A row of `graph_nodes`
holds the JSON object of a node, which is read back as its fields. The two SHA-256 digests
over canonical JSON are functions of the canonical objects with types of their own, so
that the checks of their hexadecimal form have nothing to find. Node events are left out.
-/

namespace AConductor.Graph

open Txn

/-- `GraphStoreError` with its code, or a violated constraint. -/
inductive GraphStoreFault where
  | graphStoreError (code : String)
  | integrityError
  deriving DecidableEq, Repr

/-- `GraphRunBindingSpec` (`store.py:237-252`). -/
structure GraphRunBindingSpec where
  nodeId : String
  runtimeKind : String
  taskContractRef : String
  taskContractSha256 : String
  taskPacketRef : String
  taskPacketSha256 : String
  providerId : String
  modelId : String
  effortLevel : String
  deriving DecidableEq, Repr

/-- `GraphRunBindingRecord` (`store.py:268-280`), also a row of `graph_run_bindings`. -/
structure GraphRunBindingRecord extends GraphRunBindingSpec where
  runId : String
  boundAt : String
  deriving DecidableEq, Repr

/-- `_canonical_graph_object` (`store.py:196-209`). -/
structure CanonicalGraph where
  nodes : List TaskNodeFields
  edges : List TaskEdge
  deriving DecidableEq, Repr

/-- The payload of `_preparation_sha256` (`store.py:385-407`). -/
structure Preparation (Definition : Type) where
  graphId : String
  projectId : String
  graphDefinitionSha256 : Definition
  bindings : List GraphRunBindingSpec
  deriving DecidableEq, Repr

/-- The two digests of the store. -/
structure GraphHash (Definition Prepared : Type) where
  definition : CanonicalGraph → Definition
  preparation : Preparation Definition → Prepared

/-- `GraphRunRecord` (`store.py:255-265`), also a row of `graph_runs`. -/
structure GraphRunRecord (Definition Prepared : Type) where
  runId : String
  graphId : String
  status : String
  createdAt : String
  completedAt : Option String
  projectId : Option String
  graphDefinitionSha256 : Option Definition
  preparationRef : Option String
  preparationSha256 : Option Prepared
  deriving DecidableEq, Repr

structure NodeRow where
  graphId : String
  nodeId : String
  data : TaskNodeFields
  deriving DecidableEq, Repr

structure EdgeRow where
  graphId : String
  edge : TaskEdge
  deriving DecidableEq, Repr

structure GraphStore (Definition Prepared : Type) where
  nodes : List NodeRow
  edges : List EdgeRow
  runs : List (GraphRunRecord Definition Prepared)
  bindings : List GraphRunBindingRecord
  deriving DecidableEq, Repr

variable {D P : Type}

def GraphStore.empty : GraphStore D P := ⟨[], [], [], []⟩

/-- The order of the columns `from_id, to_id, dep_type`. -/
def EdgeBefore (a b : TaskEdge) : Prop :=
  a.fromId < b.fromId ∨ (a.fromId = b.fromId ∧
    (a.toId < b.toId ∨ (a.toId = b.toId ∧ a.depType.value ≤ b.depType.value)))

instance : DecidableRel EdgeBefore := fun a b =>
  inferInstanceAs (Decidable (a.fromId < b.fromId ∨ (a.fromId = b.fromId ∧
    (a.toId < b.toId ∨ (a.toId = b.toId ∧ a.depType.value ≤ b.depType.value)))))

def canonicalGraph (g : TaskGraph) : CanonicalGraph where
  nodes := (g.nodes.map TaskNode.toTaskNodeFields).insertionSort fun a b => a.id ≤ b.id
  edges := g.edges.insertionSort EdgeBefore

/-- `canonical_graph_definition_sha256` (`store.py:212-220`). -/
def GraphHash.definitionSha256 (hash : GraphHash D P) (g : TaskGraph) : D :=
  hash.definition (canonicalGraph g)

/-- `save_graph` (`store.py:1004-1018`). -/
def saveGraph (g : TaskGraph) (graphId : String) (s : GraphStore D P) : GraphStore D P :=
  { s with
    nodes := s.nodes.filter (fun r => r.graphId ≠ graphId) ++
      g.nodes.map fun n => ⟨graphId, n.id, n.toTaskNodeFields⟩
    edges := s.edges.filter (fun r => r.graphId ≠ graphId) ++ g.edges.map fun e => ⟨graphId, e⟩ }

/-- `delete_graph` (`store.py:1031-1035`). -/
def deleteGraph (graphId : String) (s : GraphStore D P) : GraphStore D P :=
  { s with
    nodes := s.nodes.filter fun r => r.graphId ≠ graphId
    edges := s.edges.filter fun r => r.graphId ≠ graphId }

/-- `_load_graph_from_connection` (`store.py:804-827`). -/
def loadGraph (s : GraphStore D P) (graphId : String) : Except GraphStoreFault TaskGraph :=
  let nodeRows := (s.nodes.filter fun r => r.graphId = graphId).insertionSort
    fun a b => a.nodeId ≤ b.nodeId
  let edges := ((s.edges.filter fun r => r.graphId = graphId).map fun r => r.edge).insertionSort
    EdgeBefore
  let graph : Except GraphFault TaskGraph := do
    let nodes ← nodeRows.mapM fun r => TaskNode.make r.data
    buildGraph nodes edges
  graph.mapError fun _ => .graphStoreError "GRAPH_DEFINITION_INVALID"

/-- `_require_text` (`store.py:283-298`). -/
def requireText (code value : String) (maxLength : Nat := 512) : Except GraphStoreFault Unit :=
  if value = "" || value ≠ Text.strip value || maxLength < value.length ||
      Text.hasChar value '\x00' || Text.hasChar value '\r' || Text.hasChar value '\n' then
    .error (.graphStoreError code)
  else .ok ()

/-- `_require_sha256` (`store.py:301-304`). -/
def requireSha256 (code value : String) : Except GraphStoreFault Unit :=
  if Text.isHex 64 value then .ok () else .error (.graphStoreError code)

/-- `_WINDOWS_ABSOLUTE_RE` (`store.py:35`). -/
def windowsAbsolute (value : String) : Bool :=
  match value.toList with
  | drive :: ':' :: _ => drive.isAlpha
  | _ => false

/-- `_require_project_relative_ref` (`store.py:307-320`). -/
def requireProjectRelativeRef (code ref : String) : Except GraphStoreFault Unit := do
  requireText code ref 1024
  if Text.startsWith ref "/" || Text.hasChar ref '\\' || windowsAbsolute ref ||
      (Text.split '/' ref).any (["", ".", ".."].elem ·) then
    .error (.graphStoreError code)

/-- The checks that a caller's binding and a stored one share
    (`store.py:326-354`, `:915-952`); they differ in their codes. -/
def GraphRunBindingSpec.check (code kindCode : String) (b : GraphRunBindingSpec) :
    Except GraphStoreFault Unit := do
  requireText code b.nodeId
  requireText code b.runtimeKind
  if b.runtimeKind ≠ "serena" then .error (.graphStoreError kindCode)
  requireProjectRelativeRef code b.taskContractRef
  requireSha256 code b.taskContractSha256
  requireProjectRelativeRef code b.taskPacketRef
  requireSha256 code b.taskPacketSha256
  requireText code b.providerId
  requireText code b.modelId
  requireText code b.effortLevel

/-- `_validated_binding_spec` (`store.py:323-354`). -/
def validateBinding : GraphRunBindingSpec → Except GraphStoreFault Unit :=
  GraphRunBindingSpec.check "GRAPH_RUN_BINDING_INVALID" "RUNTIME_KIND_AUTHORITY_UNAVAILABLE"

/-- `_decode_binding_row` (`store.py:893-954`). -/
def decodeBindingRow (r : GraphRunBindingRecord) :
    Except GraphStoreFault GraphRunBindingRecord := do
  requireText "GRAPH_RUN_BINDING_RECORD_INVALID" r.runId
  r.toGraphRunBindingSpec.check "GRAPH_RUN_BINDING_RECORD_INVALID"
    "GRAPH_RUN_BINDING_RECORD_INVALID"
  requireText "GRAPH_RUN_BINDING_RECORD_INVALID" r.boundAt
  pure r

/-- `_read_binding_records` (`store.py:986-1002`). -/
def readBindingRecords (s : GraphStore D P) (runId : String) :
    Except GraphStoreFault (List GraphRunBindingRecord) :=
  ((s.bindings.filter fun r => r.runId = runId).insertionSort fun a b => a.nodeId ≤ b.nodeId).mapM
    decodeBindingRow

def requireOptionalText (code : String) : Option String → Except GraphStoreFault Unit
  | none => .ok ()
  | some value => requireText code value

/-- `_decode_v2_run_row` (`store.py:829-891`). -/
def decodeRunRow (r : GraphRunRecord D P) : Except GraphStoreFault (GraphRunRecord D P) := do
  requireText "GRAPH_RUN_RECORD_INVALID" r.runId
  requireText "GRAPH_RUN_RECORD_INVALID" r.graphId
  requireText "GRAPH_RUN_RECORD_INVALID" r.status
  requireText "GRAPH_RUN_RECORD_INVALID" r.createdAt
  requireOptionalText "GRAPH_RUN_RECORD_INVALID" r.completedAt
  match r.projectId, r.graphDefinitionSha256, r.preparationRef, r.preparationSha256 with
  | none, none, none, none => pure r
  | some projectId, some _, some preparationRef, some _ => do
    requireText "GRAPH_RUN_RECORD_INVALID" projectId
    requireText "GRAPH_RUN_RECORD_INVALID" preparationRef
    pure r
  | _, _, _, _ => .error (.graphStoreError "GRAPH_RUN_RECORD_INVALID")

/-- The arguments of `prepare_run`, with the run id that will be drawn and what the clock
    will say. -/
structure PrepareCall where
  graphId : String
  projectId : String
  preparationRef : String
  bindings : List GraphRunBindingSpec
  runHex : String
  createdAt : String
  boundAt : String
  deriving DecidableEq, Repr

/-- The validated bindings in the order of their nodes (`store.py:1108-1133`). -/
def PrepareCall.validated (c : PrepareCall) : Except GraphStoreFault (List GraphRunBindingSpec) := do
  requireText "GRAPH_RUN_PREPARATION_INVALID" c.graphId
  requireText "GRAPH_RUN_PREPARATION_INVALID" c.projectId
  requireText "GRAPH_RUN_PREPARATION_REF_REQUIRED" c.preparationRef
  c.bindings.forM validateBinding
  if (c.bindings.map fun b => b.nodeId).Nodup then
    pure (c.bindings.insertionSort fun a b => a.nodeId ≤ b.nodeId)
  else .error (.graphStoreError "GRAPH_RUN_BINDING_INVALID")

/-- A binding is for a node of the graph that requires no capability
    (`store.py:1148-1155`). -/
def checkBindingNode (g : TaskGraph) (b : GraphRunBindingSpec) : Except GraphStoreFault Unit :=
  match g.node? b.nodeId with
  | none => .error (.graphStoreError "GRAPH_RUN_BINDING_NODE_INVALID")
  | some node =>
    if node.workerRequirement = [] then .ok ()
    else .error (.graphStoreError "RUNTIME_CAPABILITY_AUTHORITY_UNAVAILABLE")

/-- What is to be prepared: the payload of the preparation digest
    (`store.py:1141-1162`). -/
def preparationOf (hash : GraphHash D P) (c : PrepareCall) (validated : List GraphRunBindingSpec)
    (s : GraphStore D P) : Except GraphStoreFault (Preparation D) := do
  let graph ← loadGraph s c.graphId
  if graph.nodes = [] then .error (.graphStoreError "GRAPH_DEFINITION_UNAVAILABLE")
  else do
    validated.forM (checkBindingNode graph)
    pure
      { graphId := c.graphId, projectId := c.projectId
        graphDefinitionSha256 := hash.definitionSha256 graph, bindings := validated }

section Prepare

variable [DecidableEq D] [DecidableEq P] (hash : GraphHash D P)

/-- A run and its bindings are those of the preparation (`store.py:1198-1212`,
    `:1275-1289`). -/
def confirms (preparationRef : String) (preparation : Preparation D)
    (run : GraphRunRecord D P) (durable : List GraphRunBindingRecord) : Bool :=
  run.graphId = preparation.graphId && run.projectId = some preparation.projectId &&
    run.graphDefinitionSha256 = some preparation.graphDefinitionSha256 &&
    run.preparationRef = some preparationRef &&
    run.preparationSha256 = some (hash.preparation preparation) &&
    durable.map (fun r => r.toGraphRunBindingSpec) = preparation.bindings

def recoveryRequired : GraphStoreFault :=
  .graphStoreError "GRAPH_RUN_PREPARATION_RECOVERY_REQUIRED"

/-- Read a run and its bindings back, and confirm them. -/
def confirmed (preparationRef : String) (preparation : Preparation D)
    (run : GraphRunRecord D P) (s : GraphStore D P) :
    Except GraphStoreFault (GraphRunRecord D P) := do
  let existing ← (decodeRunRow run).mapError fun _ => recoveryRequired
  let durable ← (readBindingRecords s existing.runId).mapError fun _ => recoveryRequired
  if confirms hash preparationRef preparation existing durable then pure existing
  else .error recoveryRequired

/-- A preparation that exists (`store.py:1174-1217`). -/
def replayed (preparationRef : String) (preparation : Preparation D) (raw : GraphRunRecord D P)
    (s : GraphStore D P) : Except GraphStoreFault (GraphRunRecord D P) :=
  match raw.preparationSha256 with
  | none => .error recoveryRequired
  | some digest =>
    if digest ≠ hash.preparation preparation then
      .error (.graphStoreError "GRAPH_RUN_PREPARATION_IDENTITY_MISMATCH")
    else confirmed hash preparationRef preparation raw s

/-- `run_id TEXT PRIMARY KEY`. -/
def GraphRunRecord.idKey (r : GraphRunRecord D P) : Option String := some r.runId

/-- `idx_graph_runs_preparation_ref` (`store.py:133-137`). -/
def GraphRunRecord.preparationKey (r : GraphRunRecord D P) : Option String := r.preparationRef

/-- `PRIMARY KEY (run_id, node_id)`. -/
def GraphRunBindingRecord.idKey (r : GraphRunBindingRecord) : Option (String × String) :=
  some (r.runId, r.nodeId)

/-- The row of a new run. -/
def newRun (c : PrepareCall) (preparation : Preparation D) : GraphRunRecord D P where
  runId := "graph-run-v1:" ++ c.runHex
  graphId := preparation.graphId
  status := "pending"
  createdAt := c.createdAt
  completedAt := none
  projectId := some preparation.projectId
  graphDefinitionSha256 := some preparation.graphDefinitionSha256
  preparationRef := some c.preparationRef
  preparationSha256 := some (hash.preparation preparation)

abbrev GraphTxn (D P : Type) := Txn (GraphStore D P) GraphStoreFault

def insertRun (run : GraphRunRecord D P) : GraphTxn D P Unit := do
  let runs ← query GraphStore.runs
  require (!Table.conflicts GraphRunRecord.idKey run runs &&
    !Table.conflicts GraphRunRecord.preparationKey run runs) .integrityError
  update fun s => { s with runs := s.runs ++ [run] }

/-- `trim(value) <> ''`. -/
def sqlNotBlank (value : String) : Bool := value.toList.any (· ≠ ' ')

/-- `length(value) = 64 AND value = lower(value)`. -/
def sqlSha256 (value : String) : Bool :=
  value.length = 64 && value.toList.all fun c => !c.isUpper

/-- The constraints of `graph_run_bindings` (`store.py:102-131`). -/
def GraphRunBindingRecord.columnsValid (r : GraphRunBindingRecord) : Bool :=
  r.runtimeKind = "serena" && sqlNotBlank r.taskContractRef && sqlSha256 r.taskContractSha256 &&
    sqlNotBlank r.taskPacketRef && sqlSha256 r.taskPacketSha256 && sqlNotBlank r.providerId &&
    sqlNotBlank r.modelId && sqlNotBlank r.effortLevel && sqlNotBlank r.boundAt

def insertBinding (record : GraphRunBindingRecord) : GraphTxn D P Unit := do
  let s ← query id
  require (record.columnsValid && !Table.conflicts GraphRunBindingRecord.idKey record s.bindings &&
    s.runs.any fun r => r.runId = record.runId) .integrityError
  update fun s => { s with bindings := s.bindings ++ [record] }

def insertBindings (runId boundAt : String) : List GraphRunBindingSpec → GraphTxn D P Unit
  | [] => pure ()
  | b :: rest => do
    insertBinding { toGraphRunBindingSpec := b, runId, boundAt }
    insertBindings runId boundAt rest

/-- The new run is written and read back (`store.py:1219-1291`). -/
def createRun (c : PrepareCall) (preparation : Preparation D) :
    GraphTxn D P (GraphRunRecord D P) := do
  let run := newRun hash c preparation
  insertRun run
  insertBindings run.runId c.boundAt preparation.bindings
  let s ← query id
  match s.runs.find? fun r => r.runId = run.runId with
  | none => raise recoveryRequired
  | some inserted => ofExcept (confirmed hash c.preparationRef preparation inserted s)

/-- The transaction of `prepare_run` (`store.py:1135-1293`). -/
def prepareBody (c : PrepareCall) (validated : List GraphRunBindingSpec) :
    GraphTxn D P (GraphRunRecord D P) := do
  let s ← query id
  let preparation ← ofExcept (preparationOf hash c validated s)
  match s.runs.find? fun r => r.preparationRef = some c.preparationRef with
  | some raw => ofExcept (replayed hash c.preparationRef preparation raw s)
  | none => createRun hash c preparation

/-- `prepare_run` (`store.py:1098-1302`). -/
def prepareRun (c : PrepareCall) (s : GraphStore D P) :
    Except GraphStoreFault (GraphRunRecord D P) × GraphStore D P :=
  match c.validated with
  | .error e => (.error e, s)
  | .ok validated =>
    match atomically (prepareBody hash c validated) s with
    | (.error .integrityError, s') =>
      (.error (.graphStoreError "GRAPH_RUN_PREPARATION_STORE_FAILED"), s')
    | out => out

end Prepare

end AConductor.Graph

import AConductor.Graph.Store
import AConductor.Lib.JsonPlain
import AConductor.Lib.JsonCompact

/-!
# Graphs as stored texts

The rows that `save_graph` writes and `load_graph` reads (`src/a_conductor/graph/store.py:804-827`,
`:1004-1022`): the JSON text of each node, the columns of each edge, and the canonical text behind
the digest of a definition (`store.py:150-220`). The primary keys are left out, since a graph has
each id and each edge once and its rows are deleted before. A dataclass checks no types; what it
would keep of another type than it declares has no place in a node here and is refused.
-/

namespace AConductor.Graph

open Json

abbrev NodeValue := Json (Number PyStr)

/-- What the codec raises: an error that `_load_graph_from_connection` turns into
    `GRAPH_DEFINITION_INVALID`, or the `AttributeError` of a text that is no object. -/
inductive CodecFault where
  | definitionInvalid
  | attributeError
  deriving DecidableEq, Repr

/-- The names and values of `asdict(node)`, with enumerations and tuples as the codec has them. -/
def TaskNodeFields.entries (node : TaskNodeFields) : List (String × NodeValue) :=
  [("id", Json.text node.id),
    ("objective", Json.text node.objective),
    ("expected_outputs", Json.texts node.expectedOutputs),
    ("read_set", Json.texts node.readSet),
    ("write_set", Json.texts node.writeSet),
    ("worker_requirement", Json.texts node.workerRequirement),
    ("model_requirement", Json.optional Json.text node.modelRequirement),
    ("priority", Json.int node.priority),
    ("timeout_seconds", Json.optional Json.int node.timeoutSeconds),
    ("retry_policy_ref", Json.optional Json.text node.retryPolicyRef),
    ("status", Json.text node.status.value),
    ("artifacts", Json.texts node.artifacts)]

/-- The integers of a node have no more digits than the runtime prints. -/
def TaskNodeFields.printable (maxDigits : Option Nat) (node : TaskNodeFields) : Bool :=
  Json.printable maxDigits node.priority && node.timeoutSeconds.all (Json.printable maxDigits)

/-- The separators of `json.dumps` without arguments, with `ensure_ascii=False`. -/
def storedStyle : Style := ⟨false, true⟩

def TaskNodeFields.jsonText (node : TaskNodeFields) : PyStr :=
  dumps storedStyle plainNumber (.obj (Json.named node.entries))

/-- `_dataclass_to_json` of a node (`store.py:150-159`). -/
def dataclassToJson (maxDigits : Option Nat) (node : TaskNodeFields) : Except CodecFault PyStr :=
  if node.printable maxDigits then .ok node.jsonText else .error .definitionInvalid

/-- `tuple(d.get(key, ()))`, of texts. -/
def readTuple (payload : List (PyStr × NodeValue)) (key : String) :
    Except CodecFault (List String) :=
  let items : Option (List String) :=
    match Json.find? (.lit key) payload with
    | none => some []
    | some (.arr items) => items.mapM asText
    | some (.str s) => s.mapM fun c => asText (.str [c] : NodeValue)
    | some (.obj entries) => entries.mapM fun e => asText (.str e.1 : NodeValue)
    | some _ => none
  match items with
  | some items => .ok items
  | none => .error .definitionInvalid

/-- A required text. -/
def readText (payload : List (PyStr × NodeValue)) (key : String) : Except CodecFault String :=
  match (Json.find? (.lit key) payload).bind asText with
  | some s => .ok s
  | none => .error .definitionInvalid

/-- A field with the default `None`. -/
def readOptional {α : Type} (read : NodeValue → Option α) (payload : List (PyStr × NodeValue))
    (key : String) : Except CodecFault (Option α) :=
  match Json.find? (.lit key) payload with
  | none => .ok none
  | some .null => .ok none
  | some value =>
    match read value with
    | some a => .ok (some a)
    | none => .error .definitionInvalid

def asInt : NodeValue → Option Int
  | .num (.int n) => some n
  | _ => none

def readPriority (payload : List (PyStr × NodeValue)) : Except CodecFault Int :=
  match Json.find? (.lit "priority") payload with
  | none => .ok 0
  | some value =>
    match asInt value with
    | some n => .ok n
    | none => .error .definitionInvalid

/-- `TaskNodeStatus(value)`; `none` is its `ValueError`. -/
def TaskNodeStatus.ofValue (value : String) : Option TaskNodeStatus :=
  [TaskNodeStatus.todo, .doing, .done, .blocked, .skipped].find? fun s => s.value = value

def readStatus (payload : List (PyStr × NodeValue)) : Except CodecFault TaskNodeStatus :=
  match Json.find? (.lit "status") payload with
  | none => .ok .todo
  | some value =>
    match (asText value).bind TaskNodeStatus.ofValue with
    | some status => .ok status
    | none => .error .definitionInvalid

/-- The parameters of `TaskNode(…)`. -/
def nodeFieldNames : List String :=
  ["id", "objective", "expected_outputs", "read_set", "write_set", "worker_requirement",
    "model_requirement", "priority", "timeout_seconds", "retry_policy_ref", "status", "artifacts"]

/-- `_json_to_node` after `json.loads` (`store.py:164-175`). -/
def nodeOfPayload (payload : List (PyStr × NodeValue)) : Except CodecFault TaskNode := do
  let expectedOutputs ← readTuple payload "expected_outputs"
  let readSet ← readTuple payload "read_set"
  let writeSet ← readTuple payload "write_set"
  let workerRequirement ← readTuple payload "worker_requirement"
  let artifacts ← readTuple payload "artifacts"
  let status ← readStatus payload
  Except.rejectIf (∃ e ∈ payload, e.1 ∉ nodeFieldNames.map PyStr.lit) .definitionInvalid
  let id ← readText payload "id"
  let objective ← readText payload "objective"
  let modelRequirement ← readOptional asText payload "model_requirement"
  let priority ← readPriority payload
  let timeoutSeconds ← readOptional asInt payload "timeout_seconds"
  let retryPolicyRef ← readOptional asText payload "retry_policy_ref"
  (TaskNode.make
    { id, objective, expectedOutputs, readSet, writeSet, workerRequirement, modelRequirement,
      priority, timeoutSeconds, retryPolicyRef, status, artifacts }).mapError
    fun _ => .definitionInvalid

/-- `_json_to_node` (`store.py:162-175`). -/
def jsonToNode (maxDigits : Option Nat) (text : PyStr) : Except CodecFault TaskNode :=
  match loads (plainHooks maxDigits id ()) text with
  | .error _ => .error .definitionInvalid
  | .ok (.obj payload) => nodeOfPayload payload
  | .ok _ => .error .attributeError

theorem names_nodeEntries (node : TaskNodeFields) :
    node.entries.map Prod.fst = nodeFieldNames := rfl

theorem find?_node {node : TaskNodeFields} {key : String} {value : NodeValue}
    (h : (key, value) ∈ node.entries) :
    Json.find? (.lit key) (Json.named node.entries) = some value := by
  have hnodup : (node.entries.map Prod.fst).Nodup := by
    rw [names_nodeEntries]
    decide
  rw [find?_named]
  cases hfind : node.entries.find? fun e => e.1 = key with
  | none => simpa using List.find?_eq_none.mp hfind _ h
  | some e =>
    have hkey : e.1 = key := by simpa using List.find?_some hfind
    rw [List.inj_on_of_nodup_map hnodup (List.mem_of_find?_eq_some hfind) h hkey]
    rfl

section Fields

variable {payload : List (PyStr × NodeValue)} {key : String}

theorem readTuple_texts {l : List String}
    (h : Json.find? (.lit key) payload = some (Json.texts l)) : readTuple payload key = .ok l := by
  unfold readTuple
  rw [h]
  unfold Json.texts
  dsimp only
  rw [mapM_asText_texts]

theorem readText_text {s : String} (h : Json.find? (.lit key) payload = some (Json.text s)) :
    readText payload key = .ok s := by
  unfold readText
  rw [h, Option.bind_some, asText_text]

theorem readOptional_optional {α : Type} {read : NodeValue → Option α} {value : α → NodeValue}
    (hread : ∀ a, read (value a) = some a) (hvalue : ∀ a, value a ≠ .null) {o : Option α}
    (h : Json.find? (.lit key) payload = some (Json.optional value o)) :
    readOptional read payload key = .ok o := by
  unfold readOptional
  rw [h]
  cases o with
  | none => rfl
  | some a =>
    rw [show Json.optional value (some a) = value a from rfl]
    have hne := hvalue a
    have hsome := hread a
    cases hj : value a with
    | null => exact absurd hj hne
    | _ =>
      rw [hj] at hsome
      dsimp only
      rw [hsome]

end Fields

theorem ofValue_value (status : TaskNodeStatus) :
    TaskNodeStatus.ofValue status.value = some status := by
  cases status <;> rfl

/-- Stored fields are read back, and checked again. -/
theorem nodeOfPayload_entries (node : TaskNodeFields) :
    nodeOfPayload (Json.named node.entries) =
      (TaskNode.make node).mapError fun _ => .definitionInvalid := by
  have hfind {key : String} {value : NodeValue} (h : (key, value) ∈ node.entries) :=
    find?_node h
  have hknown : ¬ ∃ e ∈ Json.named node.entries, e.1 ∉ nodeFieldNames.map PyStr.lit := by
    rintro ⟨e, he, hnew⟩
    obtain ⟨entry, hentry, rfl⟩ := List.mem_map.mp he
    exact hnew (List.mem_map_of_mem (names_nodeEntries _ ▸ List.mem_map_of_mem hentry))
  have hstatus : readStatus (Json.named node.entries) = .ok node.status := by
    unfold readStatus
    rw [hfind (show ("status", Json.text node.status.value) ∈ node.entries by
      simp [TaskNodeFields.entries])]
    dsimp only
    rw [asText_text, Option.bind_some, ofValue_value]
  have hpriority : readPriority (Json.named node.entries) = .ok node.priority := by
    unfold readPriority
    rw [hfind (show ("priority", Json.int node.priority) ∈ node.entries by
      simp [TaskNodeFields.entries])]
    rfl
  have htextNull : ∀ s : String, (Json.text s : NodeValue) ≠ .null := nofun
  have hintNull : ∀ n : Int, (Json.int n : NodeValue) ≠ .null := nofun
  have hread : ∀ n : Int, asInt (Json.int n) = some n := fun _ => rfl
  unfold nodeOfPayload
  rw [readTuple_texts (l := node.expectedOutputs) (hfind (by simp [TaskNodeFields.entries])),
    readTuple_texts (l := node.readSet) (hfind (by simp [TaskNodeFields.entries])),
    readTuple_texts (l := node.writeSet) (hfind (by simp [TaskNodeFields.entries])),
    readTuple_texts (l := node.workerRequirement) (hfind (by simp [TaskNodeFields.entries])),
    readTuple_texts (l := node.artifacts) (hfind (by simp [TaskNodeFields.entries])),
    hstatus, Except.rejectIf_neg hknown,
    readText_text (s := node.id) (hfind (by simp [TaskNodeFields.entries])),
    readText_text (s := node.objective) (hfind (by simp [TaskNodeFields.entries])),
    readOptional_optional asText_text htextNull (o := node.modelRequirement)
      (hfind (by simp [TaskNodeFields.entries])), hpriority,
    readOptional_optional hread hintNull (o := node.timeoutSeconds)
      (hfind (by simp [TaskNodeFields.entries])),
    readOptional_optional asText_text htextNull (o := node.retryPolicyRef)
      (hfind (by simp [TaskNodeFields.entries]))]
  rfl

/-- `_json_to_node` reads what `_dataclass_to_json` wrote. -/
theorem jsonToNode_jsonText {maxDigits : Option Nat} {node : TaskNodeFields}
    (h : node.printable maxDigits = true) : jsonToNode maxDigits node.jsonText =
      (TaskNode.make node).mapError fun _ => .definitionInvalid := by
  unfold TaskNodeFields.printable at h
  rw [Bool.and_eq_true, Option.all_eq_true] at h
  obtain ⟨hpriority, htimeout⟩ := h
  have hint {i : Int} (hi : Json.printable maxDigits i = true) : Readable (fun n =>
      ∃ i, n = .int i ∧ Json.printable maxDigits i = true) (Json.int i : NodeValue) := by
    unfold Json.int Readable
    exact ⟨i, rfl, hi⟩
  have hnames : (node.entries.map Prod.fst).Nodup := by
    rw [names_nodeEntries]
    decide
  have hreadable : ∀ e ∈ node.entries, Readable (fun n =>
      ∃ i, n = .int i ∧ Json.printable maxDigits i = true) e.2 := by
    simp only [TaskNodeFields.entries, List.forall_mem_cons]
    exact ⟨readable_text _, readable_text _, readable_texts _,
      readable_texts _, readable_texts _, readable_texts _,
      readable_optional fun _ _ => readable_text _, hint hpriority,
      readable_optional fun n hn => hint (htimeout n hn),
      readable_optional fun _ _ => readable_text _, readable_text _,
      readable_texts _, nofun⟩
  unfold jsonToNode TaskNodeFields.jsonText
  rw [loads_named hnames hreadable]
  exact nodeOfPayload_entries node

/-- A row of `graph_nodes`. -/
structure NodeText where
  graphId : String
  nodeId : String
  data : PyStr
  deriving DecidableEq, Repr

/-- A row of `graph_edges`. -/
structure EdgeText where
  graphId : String
  fromId : String
  toId : String
  depType : String
  deriving DecidableEq, Repr

structure GraphTables where
  nodes : List NodeText
  edges : List EdgeText
  deriving DecidableEq, Repr

def TaskNode.stored (maxDigits : Option Nat) (graphId : String) (node : TaskNode) :
    Except CodecFault NodeText := do
  let data ← dataclassToJson maxDigits node.toTaskNodeFields
  pure ⟨graphId, node.id, data⟩

def TaskEdge.stored (graphId : String) (edge : TaskEdge) : EdgeText :=
  ⟨graphId, edge.fromId, edge.toId, edge.depType.value⟩

/-- `save_graph` (`store.py:1004-1018`); a raise rolls the deletions back. -/
def saveTables (maxDigits : Option Nat) (g : TaskGraph) (graphId : String) (t : GraphTables) :
    Except CodecFault GraphTables := do
  let nodes ← g.nodes.mapM (TaskNode.stored maxDigits graphId)
  pure
    { nodes := t.nodes.filter (fun r => r.graphId ≠ graphId) ++ nodes
      edges := t.edges.filter (fun r => r.graphId ≠ graphId) ++
        g.edges.map (TaskEdge.stored graphId) }

/-- `DependencyType(value)`; `none` is its `ValueError`. -/
def DependencyType.ofValue (value : String) : Option DependencyType :=
  [DependencyType.data, .ordering, .fileWrite, .workspaceWrite, .git, .worker, .runtime, .provider,
    .rateLimit, .resource, .verification, .humanApproval].find? fun d => d.value = value

/-- `ORDER BY from_id, to_id, dep_type`. -/
def EdgeTextBefore (a b : EdgeText) : Prop :=
  a.fromId < b.fromId ∨ (a.fromId = b.fromId ∧
    (a.toId < b.toId ∨ (a.toId = b.toId ∧ a.depType ≤ b.depType)))

instance : DecidableRel EdgeTextBefore := fun a b =>
  inferInstanceAs (Decidable (a.fromId < b.fromId ∨ (a.fromId = b.fromId ∧
    (a.toId < b.toId ∨ (a.toId = b.toId ∧ a.depType ≤ b.depType)))))

def addNodeRow (maxDigits : Option Nat) (g : TaskGraph) (row : NodeText) :
    Except CodecFault TaskGraph := do
  let node ← jsonToNode maxDigits row.data
  (g.addNode node).mapError fun _ => .definitionInvalid

def addEdgeRow (g : TaskGraph) (row : EdgeText) : Except CodecFault TaskGraph :=
  match DependencyType.ofValue row.depType with
  | none => .error .definitionInvalid
  | some depType =>
    (g.addAcyclicEdge ⟨row.fromId, row.toId, depType⟩).mapError fun _ => .definitionInvalid

/-- `_load_graph_from_connection` (`store.py:804-827`). -/
def loadTables (maxDigits : Option Nat) (t : GraphTables) (graphId : String) :
    Except CodecFault TaskGraph := do
  let nodeRows := (t.nodes.filter fun r => r.graphId = graphId).insertionSort
    fun a b => a.nodeId ≤ b.nodeId
  let edgeRows := (t.edges.filter fun r => r.graphId = graphId).insertionSort EdgeTextBefore
  let bare ← nodeRows.foldlM (addNodeRow maxDigits) .empty
  edgeRows.foldlM addEdgeRow bare

/-- An edge in the canonical object (`store.py:199-203`). -/
def TaskEdge.canonical (edge : TaskEdge) : NodeValue :=
  .obj (Json.named
    [("from_id", Json.text edge.fromId), ("to_id", Json.text edge.toId),
      ("dep_type", Json.text edge.depType.value)])

/-- `_canonical_graph_object` (`store.py:196-209`). -/
def CanonicalGraph.object (c : CanonicalGraph) : NodeValue :=
  .obj (Json.named
    [("nodes", .arr (c.nodes.map fun n => .obj (Json.named n.entries))),
      ("edges", .arr (c.edges.map TaskEdge.canonical))])

/-- `canonical_graph_definition_sha256` (`store.py:212-220`), for a digest of the encoded text
    behind its domain. -/
def canonicalGraphDefinitionSha256 (maxDigits : Option Nat) (sha256 : PyStr → String)
    (g : TaskGraph) : Except CodecFault String :=
  if (canonicalGraph g).nodes.all (TaskNodeFields.printable maxDigits) then
    .ok (sha256 (dumps compactStyle plainNumber (canonicalGraph g).object.sortKeys))
  else .error .definitionInvalid

end AConductor.Graph

import AConductor.Lib.Text

/-!
# Task graphs

`TaskNode`, `TaskEdge` and `TaskGraph` of `src/a_conductor/graph/domain.py`. A node
exists only with what its constructor checks, and a graph only with what `add_node` and
`add_edge` check; a graph may still be cyclic, which the builder refuses.
-/

namespace AConductor.Graph

open List

/-- `DependencyType` (`domain.py:25-39`). -/
inductive DependencyType where
  | data
  | ordering
  | fileWrite
  | workspaceWrite
  | git
  | worker
  | runtime
  | provider
  | rateLimit
  | resource
  | verification
  | humanApproval
  deriving DecidableEq, Repr

def DependencyType.value : DependencyType → String
  | .data => "DATA"
  | .ordering => "ORDERING"
  | .fileWrite => "FILE_WRITE"
  | .workspaceWrite => "WORKSPACE_WRITE"
  | .git => "GIT"
  | .worker => "WORKER"
  | .runtime => "RUNTIME"
  | .provider => "PROVIDER"
  | .rateLimit => "RATE_LIMIT"
  | .resource => "RESOURCE"
  | .verification => "VERIFICATION"
  | .humanApproval => "HUMAN_APPROVAL"

/-- `TaskNodeStatus` (`domain.py:42-51`). -/
inductive TaskNodeStatus where
  | todo
  | doing
  | done
  | blocked
  | skipped
  deriving DecidableEq, Repr

def TaskNodeStatus.value : TaskNodeStatus → String
  | .todo => "todo"
  | .doing => "doing"
  | .done => "done"
  | .blocked => "blocked"
  | .skipped => "skipped"

/-- `CAPABILITY_VOCABULARY` (`domain.py:55-76`). -/
def capabilityVocabulary : List String :=
  ["repository-read", "repository-write", "shell", "tests", "code-review", "deep-reasoning",
    "architecture-review", "security-review", "long-context", "web-research", "documentation",
    "translation", "data-analysis", "independent-judgement", "project-code-context",
    "symbol-search", "call-graph", "blast-radius", "memory-read", "memory-write"]

/-- The `ValueError`s of nodes and graphs, with what their texts quote. -/
inductive GraphFault where
  | blankNodeId
  | unknownCapability (nodeId capability : String)
  | negativePriority
  | badTimeout
  | duplicateNode (nodeId : String)
  | unknownFrom (nodeId : String)
  | unknownTo (nodeId : String)
  | selfEdge
  | duplicateEdge (fromId toId : String) (depType : DependencyType)
  | cycle (cycle : List String)
  deriving DecidableEq, Repr

/-- The fields of `TaskNode` (`domain.py:79-98`). -/
structure TaskNodeFields where
  id : String
  objective : String
  expectedOutputs : List String := []
  readSet : List String := []
  writeSet : List String := []
  workerRequirement : List String := []
  modelRequirement : Option String := none
  priority : Int := 0
  timeoutSeconds : Option Int := none
  retryPolicyRef : Option String := none
  status : TaskNodeStatus := .todo
  artifacts : List String := []
  deriving DecidableEq, Repr

/-- `TaskNode.__post_init__` (`domain.py:100-111`). -/
def TaskNodeFields.check (node : TaskNodeFields) : Except GraphFault Unit := do
  if Text.isBlank node.id then .error .blankNodeId
  match node.workerRequirement.find? fun c => !capabilityVocabulary.elem c with
  | some capability => .error (.unknownCapability node.id capability)
  | none => .ok ()
  if node.priority < 0 then .error .negativePriority
  if node.timeoutSeconds.any (· ≤ 0) then .error .badTimeout

structure TaskNode extends TaskNodeFields where
  checked : toTaskNodeFields.check = .ok ()
  deriving DecidableEq, Repr

/-- The constructor call `TaskNode(…)`. -/
def TaskNode.make (fields : TaskNodeFields) : Except GraphFault TaskNode :=
  match h : fields.check with
  | .ok () => .ok ⟨fields, h⟩
  | .error e => .error e

/-- A checked node passes its own check again, with the same fields. -/
@[simp] theorem TaskNode.make_toTaskNodeFields (node : TaskNode) :
    make node.toTaskNodeFields = .ok node := by
  unfold make
  split
  · rfl
  · rename_i h
    rw [node.checked] at h
    cases h

theorem TaskNode.ext_fields {a b : TaskNode} (h : a.toTaskNodeFields = b.toTaskNodeFields) :
    a = b := by
  cases a
  cases b
  cases h
  rfl

/-- `TaskEdge` (`domain.py:114-120`). -/
structure TaskEdge where
  fromId : String
  toId : String
  depType : DependencyType := .data
  deriving DecidableEq, Repr

/-- `TaskGraph` (`domain.py:123-171`): nodes and edges in the order of their insertion;
    the set of edge keys is the set of edges. -/
structure TaskGraph where
  nodes : List TaskNode
  edges : List TaskEdge
  nodesUnique : (nodes.map fun n => n.id).Nodup
  edgesUnique : edges.Nodup
  endpoints : ∀ e ∈ edges, e.fromId ∈ nodes.map (fun n => n.id) ∧
    e.toId ∈ nodes.map (fun n => n.id) ∧ e.fromId ≠ e.toId

namespace TaskGraph

variable (g : TaskGraph)

/-- `TaskGraph()`. -/
def empty : TaskGraph := ⟨[], [], nodup_nil, nodup_nil, by simp⟩

def nodeIds : List String := g.nodes.map fun n => n.id

/-- `TaskGraph.node` (`domain.py:155-156`); `none` is the `KeyError`. -/
def node? (nodeId : String) : Option TaskNode := g.nodes.find? fun n => n.id = nodeId

/-- `TaskGraph.add_node` (`domain.py:137-140`). -/
def addNode (node : TaskNode) : Except GraphFault TaskGraph :=
  if h : node.id ∈ g.nodes.map (fun n => n.id) then .error (.duplicateNode node.id)
  else .ok
    { nodes := g.nodes ++ [node], edges := g.edges
      nodesUnique := by
        rw [map_append]
        exact g.nodesUnique.append (nodup_singleton _) (disjoint_singleton.mpr h)
      edgesUnique := g.edgesUnique
      endpoints := by
        intro e he
        obtain ⟨hfrom, hto, hne⟩ := g.endpoints e he
        rw [map_append]
        exact ⟨mem_append_left _ hfrom, mem_append_left _ hto, hne⟩ }

/-- `TaskGraph.add_edge` (`domain.py:142-156`). -/
def addEdge (edge : TaskEdge) : Except GraphFault TaskGraph :=
  if hfrom : edge.fromId ∉ g.nodes.map (fun n => n.id) then .error (.unknownFrom edge.fromId)
  else if hto : edge.toId ∉ g.nodes.map (fun n => n.id) then .error (.unknownTo edge.toId)
  else if hself : edge.fromId = edge.toId then .error .selfEdge
  else if hnew : edge ∈ g.edges then
    .error (.duplicateEdge edge.fromId edge.toId edge.depType)
  else .ok
    { nodes := g.nodes, edges := g.edges ++ [edge]
      nodesUnique := g.nodesUnique
      edgesUnique := g.edgesUnique.append (nodup_singleton _)
        (disjoint_singleton.mpr hnew)
      endpoints := by
        intro e he
        rcases mem_append.mp he with he | he
        · exact g.endpoints e he
        · rw [mem_singleton] at he
          subst he
          exact ⟨not_not.mp hfrom, not_not.mp hto, hself⟩ }

theorem node?_of_mem {node : TaskNode} (h : node ∈ g.nodes) : g.node? node.id = some node := by
  unfold node?
  cases hfind : g.nodes.find? fun n => n.id = node.id with
  | none => simpa using List.find?_eq_none.mp hfind node h
  | some found =>
    have hmem := mem_of_find?_eq_some hfind
    have hid : found.id = node.id := by simpa using List.find?_some hfind
    rw [inj_on_of_nodup_map g.nodesUnique hmem h hid]

end TaskGraph

end AConductor.Graph

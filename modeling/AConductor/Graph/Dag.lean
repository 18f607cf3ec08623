import AConductor.Graph.Domain

/-!
# Topological order and cycles

`topological_sort` (`src/a_conductor/graph/dag.py:31-75`) and the cycle search of the
builder (`src/a_conductor/graph/graph.py:28-106`), both of them Kahn's algorithm. A loop
that empties a queue is a recursion with as much fuel as there are nodes: no node
enters the queue twice, as its indegree becomes zero once.
-/

namespace AConductor.Graph

/-- `DagResult` (`dag.py:22-28`). -/
structure DagResult where
  order : List String
  levels : Option (List (List String))
  cycle : Option (List String)
  deriving DecidableEq, Repr

/-- `sorted(ids)`. -/
def sortIds (ids : List String) : List String := ids.insertionSort (· ≤ ·)

def TaskGraph.adjacency (g : TaskGraph) (nodeId : String) : List String :=
  (g.edges.filter fun e => e.fromId = nodeId).map fun e => e.toId

def TaskGraph.indegree (g : TaskGraph) (nodeId : String) : Int :=
  (g.edges.filter fun e => e.toId = nodeId).length

/-- Decrement the indegree of each neighbour; a neighbour that reaches zero is queued. -/
def relax : (String → Int) → List String → (String → Int) × List String
  | indegree, [] => (indegree, [])
  | indegree, neighbor :: rest =>
    let next := Function.update indegree neighbor (indegree neighbor - 1)
    let relaxed := relax next rest
    (relaxed.1, if next neighbor = 0 then neighbor :: relaxed.2 else relaxed.2)

/-- The loop of `topological_sort` (`dag.py:54-67`): the queue of each level. -/
def kahnLevels (adjacency : String → List String) :
    Nat → (String → Int) → List String → List (List String)
  | 0, _, _ => []
  | _ + 1, _, [] => []
  | fuel + 1, indegree, current :: queue =>
    let relaxed := relax indegree ((current :: queue).flatMap adjacency)
    (current :: queue) :: kahnLevels adjacency fuel relaxed.1 relaxed.2

/-- Walk on from a node until one is met again; the walk so far, and where it stopped. -/
def walkToRepeat (next : String → Option String) :
    Nat → List String → Option String → List String × Option String
  | fuel + 1, path, some current =>
    if current ∈ path then (path, some current)
    else walkToRepeat next fuel (path ++ [current]) (next current)
  | _, path, current => (path, current)

/-- `_reconstruct_cycle` (`dag.py:94-121`). -/
def reconstructCycle (remaining : List String) (adjacency : String → List String) :
    List String :=
  let next (nodeId : String) : Option String :=
    ((adjacency nodeId).filter fun t => remaining.elem t).head?
  match walkToRepeat next (remaining.length + 1) [] (sortIds remaining).head? with
  | (path, some current) => path.dropWhile (· ≠ current) ++ [current]
  | ([], none) => remaining
  | (first :: path, none) => first :: path ++ [first]

/-- `topological_sort` (`dag.py:31-75`). -/
def topologicalSort (g : TaskGraph) : DagResult :=
  let queue := sortIds (g.nodeIds.filter fun n => g.indegree n = 0)
  let levels := kahnLevels g.adjacency g.nodes.length g.indegree queue
  let remaining := g.nodeIds.filter fun n => !levels.flatten.elem n
  if remaining = [] then
    { order := levels.flatten, levels := some (levels.map sortIds), cycle := none }
  else { order := [], levels := none, cycle := some (reconstructCycle remaining g.adjacency) }

/-- The loop of `_find_cycle` (`graph.py:71-78`): how many nodes it visits and the
    indegrees it leaves. -/
def kahnVisit (adjacency : String → List String) :
    Nat → (String → Int) → List String → Nat × (String → Int)
  | 0, indegree, _ => (0, indegree)
  | _ + 1, indegree, [] => (0, indegree)
  | fuel + 1, indegree, current :: queue =>
    let relaxed := relax indegree (adjacency current)
    let rest := kahnVisit adjacency fuel relaxed.1 (queue ++ relaxed.2)
    (rest.1 + 1, rest.2)

/-- `_find_cycle` (`graph.py:59-94`). -/
def findCycle (g : TaskGraph) : Option (List String) :=
  let visited := kahnVisit g.adjacency g.nodes.length g.indegree
    (g.nodeIds.filter fun n => g.indegree n = 0)
  if visited.1 = g.nodes.length then none
  else
    let next (nodeId : String) : Option String :=
      (((g.adjacency nodeId).filter fun t => 0 < visited.2 t).head?).or (some nodeId)
    let remaining := g.nodeIds.filter fun n => 0 < visited.2 n
    match walkToRepeat next (remaining.length + 1) [] remaining.head? with
    | (path, some current) => some (path.dropWhile (· ≠ current) ++ [current])
    | (path, none) => some path

/-- `TaskGraphBuilder.add_edge` (`graph.py:48-56`): an edge that closes a cycle is taken
    back. -/
def TaskGraph.addAcyclicEdge (g : TaskGraph) (edge : TaskEdge) : Except GraphFault TaskGraph := do
  let extended ← g.addEdge edge
  match findCycle extended with
  | some cycle => .error (.cycle cycle)
  | none => .ok extended

/-- `build_graph` (`graph.py:97-106`). -/
def buildGraph (nodes : List TaskNode) (edges : List TaskEdge) : Except GraphFault TaskGraph := do
  let g ← nodes.foldlM TaskGraph.addNode .empty
  edges.foldlM TaskGraph.addAcyclicEdge g

end AConductor.Graph

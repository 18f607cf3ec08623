import AConductor.Graph.Analyze
import AConductor.Graph.Domain

/-!
# The ready set

`compute_ready_set` (`src/a_conductor/graph/ready.py:62-133`): which nodes may run under
the current statuses. A node that is missing from the statuses counts as TODO, so the
statuses are a function.
-/

namespace AConductor.Graph

open List

/-- `BlockerKind` (`ready.py:24-28`). -/
inductive BlockerKind where
  | dependency
  | resource
  | worker
  | gate
  deriving DecidableEq, Repr

/-- `Blocker` (`ready.py:31-37`). -/
structure Blocker where
  kind : BlockerKind
  detail : String
  deriving DecidableEq, Repr

/-- `ReadyCheck` (`ready.py:40-50`). -/
structure ReadyCheck where
  nodeId : String
  isReady : Bool
  blockers : List Blocker
  deriving DecidableEq, Repr

/-- `ReadySetResult` (`ready.py:53-60`). -/
structure ReadySetResult where
  checks : List ReadyCheck
  readyIds : List String
  readyUnique : readyIds.Nodup

abbrev NodeStates := String → TaskNodeStatus

/-- `pred_state in (DONE, SKIPPED)`. -/
def TaskNodeStatus.settled (s : TaskNodeStatus) : Bool := s ∈ [.done, .skipped]

def gateBlockers (state : TaskNodeStatus) : List Blocker :=
  if state = .todo then [] else [⟨.gate, "status is " ++ state.value ++ ", not todo"⟩]

def dependencyBlocker (states : NodeStates) (edge : TaskEdge) : Option Blocker :=
  if (states edge.fromId).settled then none
  else some ⟨.dependency,
    "waiting for " ++ edge.fromId ++ " (status: " ++ (states edge.fromId).value ++ ")"⟩

/-- The write sets of the running nodes (`ready.py:86-90`). -/
def runningWriteSets (g : TaskGraph) (states : NodeStates) : List (String × List String) :=
  (g.nodes.filter fun n => states n.id = .doing && n.writeSet ≠ []).map
    fun n => (n.id, n.writeSet)

def resourceBlocker (node : TaskNode) (running : String × List String) : Option Blocker :=
  if running.1 ≠ node.id ∧ writeSetsOverlap node.writeSet running.2 = true then
    some ⟨.resource, "write conflict with running node " ++ running.1⟩
  else none

/-- What stands against a node (`ready.py:92-122`). -/
def blockersOf (g : TaskGraph) (states : NodeStates) (node : TaskNode) : List Blocker :=
  gateBlockers (states node.id) ++
    (g.edges.filter fun e => e.toId = node.id).filterMap (dependencyBlocker states) ++
    if node.writeSet = [] then []
    else (runningWriteSets g states).filterMap (resourceBlocker node)

def readyCheck (g : TaskGraph) (states : NodeStates) (node : TaskNode) : ReadyCheck where
  nodeId := node.id
  isReady := blockersOf g states node = []
  blockers := blockersOf g states node

/-- `compute_ready_set` (`ready.py:62-133`). -/
def computeReadySet (g : TaskGraph) (states : NodeStates) : ReadySetResult where
  checks := g.nodes.map (readyCheck g states)
  readyIds := (g.nodes.filter fun n => (readyCheck g states n).isReady).map fun n => n.id
  readyUnique := g.nodesUnique.sublist (filter_sublist.map _)

/-- What it is for a node to be ready. -/
structure Ready (g : TaskGraph) (states : NodeStates) (node : TaskNode) : Prop where
  todo : states node.id = .todo
  settled : ∀ e ∈ g.edges, e.toId = node.id → (states e.fromId).settled = true
  apart : ∀ other ∈ g.nodes, other.id ≠ node.id → states other.id = .doing →
    writeSetsOverlap node.writeSet other.writeSet = false

theorem gateBlockers_eq_nil {state : TaskNodeStatus} : gateBlockers state = [] ↔ state = .todo := by
  unfold gateBlockers
  split
  · simp_all
  · simp_all

variable {states : NodeStates} {g : TaskGraph}

theorem dependencyBlocker_eq_none {edge : TaskEdge} :
    dependencyBlocker states edge = none ↔ (states edge.fromId).settled = true := by
  unfold dependencyBlocker
  split
  · simp_all
  · simp_all

theorem resourceBlocker_eq_none {node : TaskNode} {running : String × List String} :
    resourceBlocker node running = none ↔
      (running.1 ≠ node.id → writeSetsOverlap node.writeSet running.2 = false) := by
  unfold resourceBlocker
  split
  · rename_i h
    simp [h.1, h.2]
  · rename_i h
    simp only [not_and, Bool.not_eq_true] at h
    simpa using h

theorem mem_runningWriteSets {other : TaskNode} (hmem : other ∈ g.nodes)
    (hdoing : states other.id = .doing) (hwrites : other.writeSet ≠ []) :
    (other.id, other.writeSet) ∈ runningWriteSets g states := by
  unfold runningWriteSets
  rw [mem_map]
  exact ⟨other, mem_filter.mpr ⟨hmem, by simp [hdoing, hwrites]⟩, rfl⟩

theorem ready_of_blockersOf {node : TaskNode} (h : blockersOf g states node = []) :
    Ready g states node := by
  unfold blockersOf at h
  rw [append_eq_nil_iff, append_eq_nil_iff] at h
  obtain ⟨⟨hgate, hdeps⟩, hresources⟩ := h
  refine ⟨gateBlockers_eq_nil.mp hgate, ?_, ?_⟩
  · intro e he hto
    rw [filterMap_eq_nil_iff] at hdeps
    have hblocker := hdeps e (mem_filter.mpr ⟨he, by simp [hto]⟩)
    exact dependencyBlocker_eq_none.mp hblocker
  · intro other hmem hne hdoing
    by_cases hwrites : node.writeSet = []
    · rw [hwrites]
      rfl
    · by_cases hother : other.writeSet = []
      · rw [hother]
        exact writeSetsOverlap_nil_right _
      · rw [if_neg hwrites, filterMap_eq_nil_iff] at hresources
        have hblocker := hresources _ (mem_runningWriteSets hmem hdoing hother)
        exact resourceBlocker_eq_none.mp hblocker hne

theorem mem_readyIds {nodeId : String} (h : nodeId ∈ (computeReadySet g states).readyIds) :
    ∃ node ∈ g.nodes, node.id = nodeId ∧ Ready g states node := by
  obtain ⟨node, hmem, hid⟩ := mem_map.mp h
  obtain ⟨hnode, hready⟩ := mem_filter.mp hmem
  refine ⟨node, hnode, hid, ready_of_blockersOf ?_⟩
  simpa [readyCheck] using hready

end AConductor.Graph

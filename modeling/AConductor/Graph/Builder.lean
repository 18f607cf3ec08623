import AConductor.Graph.Cycles

/-!
# The builder

`TaskGraphBuilder` (`src/a_conductor/graph/graph.py:28-56`) over the fields it changes: the nodes, the
list of edges, and the set of their keys (`src/a_conductor/graph/domain.py:123-153`). An edge is entered
before the search for a cycle and taken out again when one is found, so that what is left after a call
that raises has to be shown. Nothing in this state is promised: that it stays a graph without cycles is
the invariant of the calls.
-/

namespace AConductor.Graph

open List

/-- The fields of a `TaskGraph` under construction. -/
structure Assembly where
  nodes : List TaskNode := []
  edges : List TaskEdge := []
  edgeKeys : Finset (String × String × DependencyType) := ∅

/-- The key of an edge (`domain.py:146`). -/
def TaskEdge.key (edge : TaskEdge) : String × String × DependencyType :=
  (edge.fromId, edge.toId, edge.depType)

theorem TaskEdge.key_inj {a b : TaskEdge} : a.key = b.key ↔ a = b := by
  cases a
  cases b
  simp [key]

namespace Assembly

def nodeIds (s : Assembly) : List String := s.nodes.map fun n => n.id

/-- `TaskGraph.add_node` (`domain.py:134-137`). -/
def addNode (s : Assembly) (node : TaskNode) : Except GraphFault Unit × Assembly :=
  if node.id ∈ s.nodeIds then (.error (.duplicateNode node.id), s)
  else (.ok (), { s with nodes := s.nodes ++ [node] })

/-- `TaskGraph.add_edge` (`domain.py:139-153`). -/
def enterEdge (s : Assembly) (edge : TaskEdge) : Except GraphFault Unit × Assembly :=
  if edge.fromId ∉ s.nodeIds then (.error (.unknownFrom edge.fromId), s)
  else if edge.toId ∉ s.nodeIds then (.error (.unknownTo edge.toId), s)
  else if edge.fromId = edge.toId then (.error .selfEdge, s)
  else if edge.key ∈ s.edgeKeys then
    (.error (.duplicateEdge edge.fromId edge.toId edge.depType), s)
  else (.ok (), { s with
    edgeKeys := insert edge.key s.edgeKeys
    edges := s.edges ++ [edge] })

def adjacency (s : Assembly) (nodeId : String) : List String :=
  (s.edges.filter fun e => e.fromId = nodeId).map fun e => e.toId

def indegree (s : Assembly) (nodeId : String) : Int :=
  (s.edges.filter fun e => e.toId = nodeId).length

/-- `_find_cycle` (`graph.py:59-94`) on the fields as they are. -/
def findCycle (s : Assembly) : Option (List String) :=
  let visited := kahnVisit s.adjacency s.nodes.length s.indegree
    (s.nodeIds.filter fun n => s.indegree n = 0)
  if visited.1 = s.nodes.length then none
  else
    let next (nodeId : String) : Option String :=
      (((s.adjacency nodeId).filter fun t => 0 < visited.2 t).head?).or (some nodeId)
    let remaining := s.nodeIds.filter fun n => 0 < visited.2 n
    match walkToRepeat next (remaining.length + 1) [] remaining.head? with
    | (path, some current) => some (path.dropWhile (· ≠ current) ++ [current])
    | (path, none) => some path

/-- The edge is taken back (`graph.py:53-54`). -/
def rollBack (s : Assembly) (edge : TaskEdge) : Assembly :=
  { s with
    edges := s.edges.erase edge
    edgeKeys := s.edgeKeys.erase edge.key }

/-- The search behind an edge that was entered (`graph.py:50-56`); an empty list is no cycle. -/
def checkCycle (s : Assembly) (edge : TaskEdge) : Except GraphFault Unit × Assembly :=
  match s.findCycle with
  | some (n :: cycle) => (.error (.cycle (n :: cycle)), s.rollBack edge)
  | _ => (.ok (), s)

/-- `TaskGraphBuilder.add_edge` (`graph.py:48-56`). -/
def addEdge (s : Assembly) (edge : TaskEdge) : Except GraphFault Unit × Assembly :=
  match s.enterEdge edge with
  | (.ok (), entered) => entered.checkCycle edge
  | (.error e, same) => (.error e, same)

end Assembly

/-- A call of the builder. -/
inductive BuilderCall where
  | addNode (node : TaskNode)
  | addEdge (edge : TaskEdge)

def Assembly.step (s : Assembly) : BuilderCall → Except GraphFault Unit × Assembly
  | .addNode node => s.addNode node
  | .addEdge edge => s.addEdge edge

/-! ### What the calls keep -/

/-- `b` waits for `a` by one of these edges. -/
def EdgeOf (edges : List TaskEdge) (a b : String) : Prop :=
  ∃ e ∈ edges, e.fromId = a ∧ e.toId = b

/-- A graph without cycles, whose keys are those of its edges. -/
structure Assembly.Sound (s : Assembly) : Prop where
  nodesUnique : s.nodeIds.Nodup
  edgesUnique : s.edges.Nodup
  endpoints : ∀ e ∈ s.edges, e.fromId ∈ s.nodeIds ∧ e.toId ∈ s.nodeIds ∧ e.fromId ≠ e.toId
  keys : ∀ e, e.key ∈ s.edgeKeys ↔ e ∈ s.edges
  acyclic : Walk.Acyclic (EdgeOf s.edges)

namespace Assembly

variable {s : Assembly} {edge : TaskEdge}

theorem sound_new : Sound {} where
  nodesUnique := nodup_nil
  edgesUnique := nodup_nil
  endpoints := nofun
  keys := by simp
  acyclic := by
    intro n hn
    obtain ⟨m, ⟨e, he, -⟩, -⟩ := Relation.TransGen.head'_iff.mp hn
    cases he

/-- An edge that may be entered: between two known nodes, and new. -/
structure Enterable (s : Assembly) (edge : TaskEdge) : Prop where
  source : edge.fromId ∈ s.nodeIds
  target : edge.toId ∈ s.nodeIds
  apart : edge.fromId ≠ edge.toId
  new : edge ∉ s.edges

/-- The edge entered, and nothing else changed. -/
def entered (s : Assembly) (edge : TaskEdge) : Assembly :=
  { s with
    edgeKeys := insert edge.key s.edgeKeys
    edges := s.edges ++ [edge] }

theorem enterEdge_cases (h : s.Sound) (edge : TaskEdge) :
    s.enterEdge edge = (.ok (), s.entered edge) ∧ s.Enterable edge ∨
      (∃ e, s.enterEdge edge = (.error e, s)) ∧ ¬ s.Enterable edge := by
  unfold enterEdge
  by_cases hfrom : edge.fromId ∈ s.nodeIds
  · rw [if_neg (not_not.mpr hfrom)]
    by_cases hto : edge.toId ∈ s.nodeIds
    · rw [if_neg (not_not.mpr hto)]
      by_cases hself : edge.fromId = edge.toId
      · rw [if_pos hself]
        exact .inr ⟨⟨_, rfl⟩, fun henter => henter.apart hself⟩
      · rw [if_neg hself]
        by_cases hkey : edge.key ∈ s.edgeKeys
        · rw [if_pos hkey]
          exact .inr ⟨⟨_, rfl⟩, fun henter => henter.new ((h.keys edge).mp hkey)⟩
        · rw [if_neg hkey]
          exact .inl ⟨rfl, hfrom, hto, hself, fun hmem => hkey ((h.keys edge).mpr hmem)⟩
    · rw [if_pos hto]
      exact .inr ⟨⟨_, rfl⟩, fun henter => hto henter.target⟩
  · rw [if_pos hfrom]
    exact .inr ⟨⟨_, rfl⟩, fun henter => hfrom henter.source⟩

/-- Taking the edge back leaves everything as it was. -/
theorem rollBack_entered (h : s.Sound) (hnew : edge ∉ s.edges) :
    (s.entered edge).rollBack edge = s := by
  have hkey : edge.key ∉ s.edgeKeys := fun hmem => hnew ((h.keys edge).mp hmem)
  unfold rollBack entered
  rw [erase_append_right _ hnew, erase_cons_head, append_nil,
    Finset.erase_insert hkey]

/-- The graph with the edge entered, before the search. -/
def enteredGraph (h : s.Sound) (henter : s.Enterable edge) : TaskGraph where
  nodes := s.nodes
  edges := s.edges ++ [edge]
  nodesUnique := h.nodesUnique
  edgesUnique := h.edgesUnique.append (nodup_singleton _)
    (disjoint_singleton.mpr henter.new)
  endpoints := by
    intro e he
    rcases mem_append.mp he with he | he
    · exact h.endpoints e he
    · rw [mem_singleton] at he
      rw [he]
      exact ⟨henter.source, henter.target, henter.apart⟩

theorem findCycle_entered (h : s.Sound) (henter : s.Enterable edge) :
    (s.entered edge).findCycle = Graph.findCycle (enteredGraph h henter) := rfl

/-- The search answers with an error exactly for an edge that closes a cycle. -/
theorem checkCycle_entered (h : s.Sound) (henter : s.Enterable edge) :
    (s.entered edge).checkCycle edge = (.ok (), s.entered edge) ∧
      Walk.Acyclic (EdgeOf (s.edges ++ [edge])) ∨
    (∃ cycle, (s.entered edge).checkCycle edge = (.error (.cycle cycle), s)) ∧
      ¬ Walk.Acyclic (EdgeOf (s.edges ++ [edge])) := by
  unfold checkCycle
  rw [findCycle_entered h henter]
  by_cases hacyclic : Walk.Acyclic (EdgeOf (s.edges ++ [edge]))
  · left
    rw [(findCycle_none_iff _).mpr ((acyclic_iff (enteredGraph h henter)).mpr hacyclic)]
    exact ⟨rfl, hacyclic⟩
  · right
    obtain ⟨_, cycle, -, hfind, hne, -⟩ := findCycle_closed (g := enteredGraph h henter) hacyclic
    rw [hfind]
    cases cycle with
    | nil => exact absurd rfl hne
    | cons n cycle =>
      exact ⟨⟨n :: cycle, congrArg (Prod.mk _) (rollBack_entered h henter.new)⟩, hacyclic⟩

/-- An edge is added between two known nodes when it is new and closes no cycle; otherwise the call
    raises, and nothing has changed. -/
theorem addEdge_cases (h : s.Sound) (edge : TaskEdge) :
    s.addEdge edge = (.ok (), s.entered edge) ∧ s.Enterable edge ∧
      Walk.Acyclic (EdgeOf (s.edges ++ [edge])) ∨
    (∃ e, s.addEdge edge = (.error e, s)) ∧
      ¬ (s.Enterable edge ∧ Walk.Acyclic (EdgeOf (s.edges ++ [edge]))) := by
  unfold addEdge
  rcases s.enterEdge_cases h edge with ⟨hok, henter⟩ | ⟨⟨e, herror⟩, hnot⟩
  · rw [hok]
    rcases checkCycle_entered h henter with ⟨hcheck, hacyclic⟩ | ⟨⟨cycle, hcheck⟩, hcyclic⟩
    · exact .inl ⟨hcheck, henter, hacyclic⟩
    · exact .inr ⟨⟨_, hcheck⟩, fun hboth => hcyclic hboth.2⟩
  · rw [herror]
    exact .inr ⟨⟨e, rfl⟩, fun hboth => hnot hboth.1⟩

theorem addNode_cases (s : Assembly) (node : TaskNode) :
    s.addNode node = (.ok (), { s with nodes := s.nodes ++ [node] }) ∧ node.id ∉ s.nodeIds ∨
      (∃ e, s.addNode node = (.error e, s)) := by
  unfold addNode
  by_cases hknown : node.id ∈ s.nodeIds
  · rw [if_pos hknown]
    exact .inr ⟨_, rfl⟩
  · rw [if_neg hknown]
    exact .inl ⟨rfl, hknown⟩

theorem Sound.addNode (h : s.Sound) {node : TaskNode} (hnew : node.id ∉ s.nodeIds) :
    Sound { s with nodes := s.nodes ++ [node] } where
  nodesUnique := by
    show ((s.nodes ++ [node]).map fun n => n.id).Nodup
    rw [map_append]
    exact h.nodesUnique.append (nodup_singleton _) (disjoint_singleton.mpr hnew)
  edgesUnique := h.edgesUnique
  endpoints e he := by
    obtain ⟨hfrom, hto, hne⟩ := h.endpoints e he
    show e.fromId ∈ (s.nodes ++ [node]).map _ ∧ e.toId ∈ (s.nodes ++ [node]).map _ ∧ _
    rw [map_append]
    exact ⟨mem_append_left _ hfrom, mem_append_left _ hto, hne⟩
  keys := h.keys
  acyclic := h.acyclic

theorem Sound.entered (h : s.Sound) (henter : s.Enterable edge)
    (hacyclic : Walk.Acyclic (EdgeOf (s.edges ++ [edge]))) : Sound (s.entered edge) where
  nodesUnique := h.nodesUnique
  edgesUnique := (enteredGraph h henter).edgesUnique
  endpoints := (enteredGraph h henter).endpoints
  keys e := by
    show e.key ∈ insert edge.key s.edgeKeys ↔ e ∈ s.edges ++ [edge]
    rw [Finset.mem_insert, h.keys, TaskEdge.key_inj, mem_append, mem_singleton, or_comm]
  acyclic := hacyclic

/-- A call keeps the graph sound, and leaves it as it was when it raises. -/
theorem step_spec (h : s.Sound) (call : BuilderCall) :
    (s.step call).2.Sound ∧ ∀ e, (s.step call).1 = .error e → (s.step call).2 = s := by
  cases call with
  | addNode node =>
    simp only [step]
    rcases s.addNode_cases node with ⟨hok, hnew⟩ | ⟨e, herror⟩
    · rw [hok]
      exact ⟨h.addNode hnew, nofun⟩
    · rw [herror]
      exact ⟨h, fun _ _ => rfl⟩
  | addEdge edge =>
    simp only [step]
    rcases addEdge_cases h edge with ⟨hok, henter, hacyclic⟩ | ⟨⟨e, herror⟩, -⟩
    · rw [hok]
      exact ⟨h.entered henter hacyclic, nofun⟩
    · rw [herror]
      exact ⟨h, fun _ _ => rfl⟩

end Assembly

/-- After any calls the graph under construction has no cycle, and no edge twice, to itself or to a
    node it does not have. A new edge between known nodes is accepted exactly when it closes no cycle,
    and a call that raises leaves nodes and edges as they were. -/
theorem builder_keeps_acyclic (calls : List BuilderCall) :
    let s := (Machine.run Assembly.step {} calls).2
    Walk.Acyclic (EdgeOf s.edges) ∧ s.nodeIds.Nodup ∧ s.edges.Nodup ∧
    (∀ e ∈ s.edges, e.fromId ∈ s.nodeIds ∧ e.toId ∈ s.nodeIds ∧ e.fromId ≠ e.toId) ∧
    (∀ edge, edge.fromId ∈ s.nodeIds → edge.toId ∈ s.nodeIds → edge ∉ s.edges →
      ((s.addEdge edge).1 = .ok () ↔ Walk.Acyclic (EdgeOf (s.edges ++ [edge])))) ∧
    (∀ edge, (s.addEdge edge).1 = .ok () →
      (s.addEdge edge).2.nodes = s.nodes ∧ (s.addEdge edge).2.edges = s.edges ++ [edge]) ∧
    ∀ call e, (s.step call).1 = .error e → (s.step call).2 = s := by
  intro s
  have hreachable : Machine.Reachable Assembly.step {} s := ⟨calls, rfl⟩
  have h : s.Sound := hreachable.induction Assembly.sound_new fun _ call h =>
    (Assembly.step_spec h call).1
  refine ⟨h.acyclic, h.nodesUnique, h.edgesUnique, h.endpoints, fun edge hfrom hto hnew => ?_,
    fun edge hok => ?_, fun call e => (Assembly.step_spec h call).2 e⟩
  · rcases Assembly.addEdge_cases h edge with ⟨hok, -, hacyclic⟩ | ⟨⟨e, herror⟩, hnot⟩
    · rw [hok]
      exact iff_of_true rfl hacyclic
    · rw [herror]
      refine iff_of_false nofun fun hacyclic => hnot ⟨⟨hfrom, hto, ?_, hnew⟩, hacyclic⟩
      intro hself
      exact hacyclic edge.fromId (.single ⟨edge, by simp, rfl, hself.symm⟩)
  · rcases Assembly.addEdge_cases h edge with ⟨hadd, -⟩ | ⟨⟨e, herror⟩, -⟩
    · rw [hadd]
      exact ⟨rfl, rfl⟩
    · rw [herror] at hok
      cases hok

end AConductor.Graph

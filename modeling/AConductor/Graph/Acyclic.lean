import AConductor.Graph.Dag
import AConductor.Lib.Transaction

/-!
# Graphs without cycles

`_find_cycle` (`src/a_conductor/graph/graph.py:59-94`) finds nothing exactly in the graphs whose
nodes can be numbered along their edges. So the builder, which searches after every edge, makes
graphs without cycles only, and `build_graph` makes any such graph again from its nodes and edges
in whatever order these are given.
-/

namespace AConductor.Graph

open List Except Function

/-- The nodes can be numbered so that every edge goes up. -/
def Acyclic (g : TaskGraph) : Prop :=
  ∃ rank : String → Nat, ∀ e ∈ g.edges, rank e.fromId < rank e.toId

variable {g g' : TaskGraph} {indegree : String → Int} {edge : TaskEdge}

theorem Acyclic.of_subset (h : Acyclic g') (hedges : g.edges ⊆ g'.edges) : Acyclic g := by
  obtain ⟨rank, hrank⟩ := h
  exact ⟨rank, fun e he => hrank e (hedges he)⟩

theorem relax_fst (indegree : String → Int) (neighbours : List String) (n : String) :
    (relax indegree neighbours).1 n = indegree n - neighbours.count n := by
  induction neighbours generalizing indegree with
  | nil => simp [relax]
  | cons x rest ih =>
    rw [relax, ih]
    by_cases hx : x = n
    · subst hx
      rw [update_self, count_cons_self]
      omega
    · rw [update_of_ne (Ne.symm hx), count_cons_of_ne hx]

/-- No indegree drops below the edges that are still to be taken away. -/
theorem count_le_update {x : String} {rest : List String}
    (h : ∀ n, ((x :: rest).count n : Int) ≤ indegree n) (n : String) :
    (rest.count n : Int) ≤ update indegree x (indegree x - 1) n := by
  have hn := h n
  by_cases hx : x = n
  · subst hx
    rw [count_cons_self] at hn
    rw [update_self]
    omega
  · rw [count_cons_of_ne hx] at hn
    rw [update_of_ne (Ne.symm hx)]
    exact hn

/-- The neighbours that are queued are those whose last edges are taken away. -/
theorem mem_relax_snd {neighbours : List String} (h : ∀ n, (neighbours.count n : Int) ≤ indegree n)
    (n : String) :
    n ∈ (relax indegree neighbours).2 ↔ n ∈ neighbours ∧ indegree n = neighbours.count n := by
  induction neighbours generalizing indegree with
  | nil => simp [relax]
  | cons x rest ih =>
    have hrest := count_le_update h
    have hin := ih hrest
    have hx := hrest x
    rw [update_self] at hx
    simp only [relax]
    by_cases hn : x = n
    · subst hn
      rw [update_self] at hin
      rw [count_cons_self, update_self]
      split
      · rename_i hzero
        have hnone : rest.count x = 0 := by omega
        simp only [mem_cons, true_or, true_and, true_iff]
        omega
      · rename_i hpositive
        rw [hin]
        simp only [mem_cons, true_or, true_and]
        constructor
        · rintro ⟨-, heq⟩
          omega
        · intro heq
          refine ⟨count_pos_iff.mp ?_, ?_⟩ <;> omega
    · rw [update_of_ne (Ne.symm hn)] at hin
      rw [count_cons_of_ne hn, mem_cons, or_iff_right (Ne.symm hn), ← hin]
      split
      · rw [mem_cons, or_iff_right (Ne.symm hn)]
      · rfl

theorem relax_snd_nodup {neighbours : List String}
    (h : ∀ n, (neighbours.count n : Int) ≤ indegree n) : (relax indegree neighbours).2.Nodup := by
  induction neighbours generalizing indegree with
  | nil => exact nodup_nil
  | cons x rest ih =>
    have hrest := count_le_update h
    simp only [relax]
    split
    · rename_i hzero
      refine nodup_cons.mpr ⟨fun hmem => ?_, ih hrest⟩
      -- queued once its indegree is zero, so no neighbour of the rest
      have hx := hrest x
      rw [hzero] at hx
      have hcount := count_pos_iff.mpr ((mem_relax_snd hrest x).mp hmem).1
      omega
    · exact ih hrest

/-- The edges into a node from nodes that were not visited. -/
def pending (g : TaskGraph) (visited : List String) (n : String) : List TaskEdge :=
  g.edges.filter fun e => e.toId = n && !visited.elem e.fromId

/-- Where the loop stands: the visited nodes in their order, the queue, and the indegrees. -/
structure Visiting (g : TaskGraph) (visited queue : List String) (indegree : String → Int) :
    Prop where
  nodup : (visited ++ queue).Nodup
  known : visited ++ queue ⊆ g.nodeIds
  indegrees : ∀ n, indegree n = (pending g visited n).length
  free : ∀ n ∈ g.nodeIds, indegree n = 0 → n ∈ visited ++ queue
  queued : ∀ n ∈ visited ++ queue, indegree n = 0
  ordered : ∀ e ∈ g.edges, e.toId ∈ visited → e.fromId ∈ visited ∧
    visited.idxOf e.fromId < visited.idxOf e.toId

variable {g : TaskGraph} {visited queue : List String} {indegree : String → Int}

theorem visiting_init (g : TaskGraph) :
    Visiting g [] (g.nodeIds.filter fun n => g.indegree n = 0) g.indegree where
  nodup := g.nodesUnique.filter _
  known := filter_subset_self _
  indegrees n := by
    unfold TaskGraph.indegree pending
    simp
  free n hn hzero := by simpa using ⟨hn, hzero⟩
  queued n hn := by
    rw [nil_append, mem_filter] at hn
    simpa using hn.2
  ordered e _ he := absurd he not_mem_nil

/-- Visiting a node takes away the edges that leave it. -/
theorem pending_snoc {current : String} (h : current ∉ visited) (n : String) :
    (pending g visited n).length =
      (pending g (visited ++ [current]) n).length + (g.adjacency current).count n := by
  unfold pending TaskGraph.adjacency
  induction g.edges with
  | nil => rfl
  | cons e edges ih =>
    by_cases hfrom : e.fromId = current
    · by_cases hto : e.toId = n
      · simp [hfrom, hto, h] at ih ⊢
        omega
      · simp [hfrom, hto] at ih ⊢
        omega
    · by_cases hto : e.toId = n
      · by_cases hv : e.fromId ∈ visited
        · simp [hfrom, hto, hv] at ih ⊢
          omega
        · simp [hfrom, hto, hv] at ih ⊢
          omega
      · simp [hfrom, hto] at ih ⊢
        omega

theorem Visiting.step {current : String} (h : Visiting g visited (current :: queue) indegree) :
    Visiting g (visited ++ [current]) (queue ++ (relax indegree (g.adjacency current)).2)
      (relax indegree (g.adjacency current)).1 := by
  have hfresh : current ∉ visited := fun hmem =>
    (nodup_append.mp h.nodup).2.2 _ hmem _ mem_cons_self rfl
  have hdegrees : ∀ n, (relax indegree (g.adjacency current)).1 n =
      (pending g (visited ++ [current]) n).length := by
    intro n
    have hsnoc := pending_snoc (g := g) hfresh n
    rw [relax_fst, h.indegrees]
    omega
  have hcount : ∀ n, ((g.adjacency current).count n : Int) ≤ indegree n := by
    intro n
    have hsnoc := pending_snoc (g := g) hfresh n
    rw [h.indegrees]
    omega
  have hmem := mem_relax_snd hcount
  have hassoc : visited ++ current :: queue = visited ++ [current] ++ queue := by simp
  have hnodup := h.nodup
  have hknown := h.known
  have hqueued := h.queued
  have hfree := h.free
  rw [hassoc] at hnodup hknown hqueued hfree
  refine ⟨?_, ?_, hdegrees, ?_, ?_, ?_⟩
  · rw [← append_assoc, nodup_append]
    refine ⟨hnodup, relax_snd_nodup hcount, ?_⟩
    rintro a ha b hb rfl
    obtain ⟨hadj, hall⟩ := (hmem a).mp hb
    rw [hqueued a ha] at hall
    have hpos := count_pos_iff.mpr hadj
    omega
  · rw [← append_assoc, append_subset]
    refine ⟨hknown, fun n hn => ?_⟩
    obtain ⟨hadj, -⟩ := (hmem n).mp hn
    obtain ⟨e, he, rfl⟩ := mem_map.mp hadj
    exact (g.endpoints e (mem_of_mem_filter he)).2.1
  · intro n hn hzero
    rw [← append_assoc]
    by_cases hadj : n ∈ g.adjacency current
    · rw [relax_fst] at hzero
      exact mem_append_right _ ((hmem n).mpr ⟨hadj, by omega⟩)
    · rw [relax_fst, count_eq_zero_of_not_mem hadj] at hzero
      exact mem_append_left _ (hfree n hn (by simpa using hzero))
  · intro n hn
    rw [← append_assoc, mem_append] at hn
    rw [relax_fst]
    rcases hn with hn | hn
    · have hzero := hqueued n hn
      have hle := hcount n
      omega
    · have hall := ((hmem n).mp hn).2
      omega
  · intro e he hto
    rw [mem_append, mem_singleton] at hto
    rcases hto with hto | hto
    · obtain ⟨hfrom, hlt⟩ := h.ordered e he hto
      refine ⟨mem_append_left _ hfrom, ?_⟩
      rwa [idxOf_append_of_mem hfrom, idxOf_append_of_mem hto]
    · -- the visited node has no pending edge left
      have hzero := h.queued current (mem_append_right _ mem_cons_self)
      rw [h.indegrees, Int.natCast_eq_zero, length_eq_zero_iff] at hzero
      have hfrom : e.fromId ∈ visited := by
        by_contra hnot
        have hpending : e ∈ pending g visited current := by
          unfold pending
          simp [he, hto, hnot]
        rw [hzero] at hpending
        cases hpending
      refine ⟨mem_append_left _ hfrom, ?_⟩
      rw [hto, idxOf_append_of_mem hfrom, idxOf_append_of_notMem hfresh]
      have hlt := idxOf_lt_length_of_mem hfrom
      omega

theorem Visiting.length_le (h : Visiting g visited queue indegree) :
    visited.length + queue.length ≤ g.nodes.length := by
  have hle := (h.nodup.subperm h.known).length_le
  unfold TaskGraph.nodeIds at hle
  rwa [length_append, length_map] at hle

/-- The loop ends with an empty queue, having visited as many nodes as it counts. -/
theorem kahnVisit_spec (fuel : Nat) (h : Visiting g visited queue indegree)
    (hfuel : g.nodes.length ≤ visited.length + fuel) :
    ∃ visited', Visiting g visited' [] (kahnVisit g.adjacency fuel indegree queue).2 ∧
      visited'.length = visited.length + (kahnVisit g.adjacency fuel indegree queue).1 := by
  induction fuel generalizing visited queue indegree with
  | zero =>
    have hle := h.length_le
    obtain rfl : queue = [] := eq_nil_of_length_eq_zero (by omega)
    exact ⟨visited, h, rfl⟩
  | succ fuel ih =>
    cases queue with
    | nil => exact ⟨visited, h, rfl⟩
    | cons current queue =>
      obtain ⟨visited', hdone, hlength⟩ := ih h.step (by
        rw [length_append, length_singleton]
        omega)
      rw [length_append, length_singleton] at hlength
      refine ⟨visited', hdone, ?_⟩
      rw [hlength, kahnVisit]
      omega

theorem findCycle_eq_none : findCycle g = none ↔ (kahnVisit g.adjacency g.nodes.length g.indegree
      (g.nodeIds.filter fun n => g.indegree n = 0)).1 = g.nodes.length := by
  unfold findCycle
  dsimp only
  split
  · rename_i hall
    exact ⟨fun _ => hall, fun _ => rfl⟩
  · rename_i hsome
    refine ⟨fun h => ?_, fun h => absurd h hsome⟩
    split at h <;> cases h

/-- `_find_cycle` finds nothing exactly in the graphs without cycles. -/
theorem findCycle_none_iff (g : TaskGraph) : findCycle g = none ↔ Acyclic g := by
  obtain ⟨visited, hdone, hlength⟩ := kahnVisit_spec g.nodes.length (visiting_init g) (by simp)
  rw [length_nil, Nat.zero_add] at hlength
  rw [findCycle_eq_none, ← hlength]
  have hnodup := hdone.nodup
  have hknown := hdone.known
  rw [append_nil] at hnodup hknown
  constructor
  · intro hall
    have hsub : g.nodeIds ⊆ visited := by
      have hperm := (hnodup.subperm hknown).perm_of_length_le (by
        unfold TaskGraph.nodeIds
        rw [length_map, hall])
      exact hperm.symm.subset
    exact ⟨visited.idxOf, fun e he => (hdone.ordered e he (hsub (g.endpoints e he).2.1)).2⟩
  · rintro ⟨rank, hrank⟩
    have hvisited : ∀ k, ∀ n ∈ g.nodeIds, rank n = k → n ∈ visited := by
      intro k
      induction k using Nat.strongRecOn with
      | ind k ih =>
        rintro n hn rfl
        have hpending : pending g visited n = [] := by
          unfold pending
          rw [filter_eq_nil_iff]
          intro e he heq
          rw [Bool.and_eq_true, decide_eq_true_eq] at heq
          have hlt := hrank e he
          rw [heq.1] at hlt
          have hmem := ih _ hlt _ (g.endpoints e he).1 rfl
          simp [hmem] at heq
        have hzero := hdone.free n hn (by rw [hdone.indegrees, hpending]; rfl)
        rwa [append_nil] at hzero
    have hle := (g.nodesUnique.subperm fun n hn => hvisited _ n hn rfl).length_le
    rw [length_map] at hle
    have hge := hdone.length_le
    simp only [length_nil] at hge
    omega

/-- The graphs a `TaskGraphBuilder` holds: each call adds a node or an edge, or raises and leaves
    the graph as it was. -/
inductive Built : TaskGraph → Prop where
  | new : Built .empty
  | addNode {g g' : TaskGraph} {node : TaskNode} : Built g → g.addNode node = .ok g' → Built g'
  | addEdge {g g' : TaskGraph} {edge : TaskEdge} :
    Built g → g.addAcyclicEdge edge = .ok g' → Built g'

theorem addNode_ok {node : TaskNode} (h : g.addNode node = .ok g') :
    g'.nodes = g.nodes ++ [node] ∧ g'.edges = g.edges := by
  unfold TaskGraph.addNode at h
  split at h
  · cases h
  · cases h
    exact ⟨rfl, rfl⟩

theorem addEdge_ok (h : g.addEdge edge = .ok g') :
    g'.nodes = g.nodes ∧ g'.edges = g.edges ++ [edge] := by
  unfold TaskGraph.addEdge at h
  split at h
  · cases h
  split at h
  · cases h
  split at h
  · cases h
  split at h
  · cases h
  · cases h
    exact ⟨rfl, rfl⟩

theorem addAcyclicEdge_ok :
    g.addAcyclicEdge edge = .ok g' ↔ g.addEdge edge = .ok g' ∧ Acyclic g' := by
  unfold TaskGraph.addAcyclicEdge
  rw [bind_eq_ok]
  constructor
  · rintro ⟨extended, hadd, h⟩
    split at h
    · cases h
    · rename_i hnone
      cases h
      exact ⟨hadd, (findCycle_none_iff _).mp hnone⟩
  · rintro ⟨hadd, hacyclic⟩
    refine ⟨g', hadd, ?_⟩
    rw [(findCycle_none_iff g').mpr hacyclic]

theorem Built.acyclic (h : Built g) : Acyclic g := by
  induction h with
  | new => exact ⟨fun _ => 0, fun e he => absurd he not_mem_nil⟩
  | addNode _ hadd ih => exact ih.of_subset (by rw [(addNode_ok hadd).2]; exact List.Subset.refl _)
  | addEdge _ hadd _ => exact (addAcyclicEdge_ok.mp hadd).2

theorem foldlM_addNode {nodes : List TaskNode} (h : ((g.nodes ++ nodes).map fun n => n.id).Nodup) :
    ∃ g', nodes.foldlM TaskGraph.addNode g = .ok g' ∧ g'.nodes = g.nodes ++ nodes ∧
      g'.edges = g.edges := by
  induction nodes generalizing g with
  | nil => exact ⟨g, rfl, (append_nil _).symm, rfl⟩
  | cons node nodes ih =>
    have hnew : node.id ∉ g.nodes.map fun n => n.id := by
      rw [map_append, map_cons] at h
      intro hmem
      exact (nodup_append.mp h).2.2 _ hmem _ mem_cons_self rfl
    obtain ⟨next, hadd⟩ : ∃ next, g.addNode node = .ok next := by
      unfold TaskGraph.addNode
      rw [dif_neg hnew]
      exact ⟨_, rfl⟩
    obtain ⟨hnodes, hedges⟩ := addNode_ok hadd
    obtain ⟨g', hrest, hnodes', hedges'⟩ := ih (g := next) (by
      rw [hnodes, append_assoc]
      exact h)
    refine ⟨g', ?_, ?_, hedges'.trans hedges⟩
    · rw [foldlM_cons]
      exact bind_eq_ok.mpr ⟨next, hadd, hrest⟩
    · rw [hnodes', hnodes, append_assoc]
      rfl

theorem addEdge_of_new (hfrom : edge.fromId ∈ g.nodeIds) (hto : edge.toId ∈ g.nodeIds)
    (hne : edge.fromId ≠ edge.toId) (hnew : edge ∉ g.edges) : ∃ g', g.addEdge edge = .ok g' := by
  unfold TaskGraph.nodeIds at hfrom hto
  unfold TaskGraph.addEdge
  rw [dif_neg (not_not.mpr hfrom), dif_neg (not_not.mpr hto), dif_neg hne, dif_neg hnew]
  exact ⟨_, rfl⟩

theorem foldlM_addAcyclicEdge {whole : TaskGraph} (hacyclic : Acyclic whole) {edges : List TaskEdge}
    (hnodes : g.nodes.Perm whole.nodes) (hedges : (g.edges ++ edges).Perm whole.edges) :
    ∃ g', edges.foldlM TaskGraph.addAcyclicEdge g = .ok g' ∧ g'.nodes = g.nodes ∧
      g'.edges = g.edges ++ edges := by
  induction edges generalizing g with
  | nil => exact ⟨g, rfl, rfl, (append_nil _).symm⟩
  | cons edge edges ih =>
    have hids : ∀ n, n ∈ whole.nodeIds → n ∈ g.nodeIds := fun n hn =>
      (hnodes.map fun n => n.id).symm.subset hn
    obtain ⟨hfrom, hto, hne⟩ := whole.endpoints edge
      (hedges.subset (mem_append_right _ mem_cons_self))
    have hnew : edge ∉ g.edges := fun hmem =>
      (nodup_append.mp (hedges.nodup_iff.mpr whole.edgesUnique)).2.2 _ hmem _
        mem_cons_self rfl
    obtain ⟨next, hadd⟩ := addEdge_of_new (hids _ hfrom) (hids _ hto) hne hnew
    obtain ⟨hnextNodes, hnextEdges⟩ := addEdge_ok hadd
    have happend : next.edges ++ edges = g.edges ++ edge :: edges := by
      rw [hnextEdges, append_assoc]
      rfl
    have hnext : Acyclic next := hacyclic.of_subset fun e he =>
      hedges.subset (happend ▸ mem_append_left _ he)
    obtain ⟨g', hrest, hnodes', hedges'⟩ := ih (g := next) (by rwa [hnextNodes])
      (by rwa [happend])
    refine ⟨g', ?_, hnodes'.trans hnextNodes, hedges'.trans happend⟩
    rw [foldlM_cons]
    exact bind_eq_ok.mpr ⟨next, addAcyclicEdge_ok.mpr ⟨hadd, hnext⟩, hrest⟩

/-- The nodes and edges of a graph without cycles, in any order, are a graph again. -/
theorem buildGraph_perm (h : Acyclic g) {nodes : List TaskNode} {edges : List TaskEdge}
    (hnodes : nodes.Perm g.nodes) (hedges : edges.Perm g.edges) :
    ∃ g', buildGraph nodes edges = .ok g' ∧ g'.nodes = nodes ∧ g'.edges = edges := by
  have hids : ((TaskGraph.empty.nodes ++ nodes).map fun n => n.id).Nodup :=
    (hnodes.map _).nodup_iff.mpr g.nodesUnique
  obtain ⟨bare, hbare, hbareNodes, hbareEdges⟩ := foldlM_addNode hids
  have hbareNodes' : bare.nodes = nodes := hbareNodes
  have hbareEdges' : bare.edges = [] := hbareEdges
  obtain ⟨g', hbuilt, hnodes', hedges'⟩ := foldlM_addAcyclicEdge h
    (show bare.nodes.Perm g.nodes by rwa [hbareNodes'])
    (show (bare.edges ++ edges).Perm g.edges by rwa [hbareEdges'])
  rw [hbareNodes'] at hnodes'
  rw [hbareEdges'] at hedges'
  exact ⟨g', bind_eq_ok.mpr ⟨bare, hbare, hbuilt⟩, hnodes', hedges'⟩

theorem foldlM_built {α : Type} {add : TaskGraph → α → Except GraphFault TaskGraph}
    (hadd : ∀ g a g', Built g → add g a = .ok g' → Built g') {l : List α} (hg : Built g)
    (h : l.foldlM add g = .ok g') : Built g' := by
  induction l generalizing g with
  | nil =>
    cases h
    exact hg
  | cons a l ih =>
    rw [foldlM_cons] at h
    obtain ⟨next, hnext, h⟩ := bind_eq_ok.mp h
    exact ih (hadd g a next hg hnext) h

/-- The builder makes every graph without cycles, and no other. -/
theorem built_iff_acyclic : Built g ↔ Acyclic g := by
  refine ⟨Built.acyclic, fun h => ?_⟩
  obtain ⟨g', hbuilt, hnodes, hedges⟩ := buildGraph_perm h (List.Perm.refl _) (List.Perm.refl _)
  have hsame : g' = g := by
    cases g
    cases g'
    cases hnodes
    cases hedges
    rfl
  obtain ⟨bare, hbare, hfull⟩ := bind_eq_ok.mp hbuilt
  rw [← hsame]
  refine foldlM_built (fun _ _ _ hg hadd => hg.addEdge hadd) ?_ hfull
  exact foldlM_built (fun _ _ _ hg hadd => hg.addNode hadd) .new hbare

end AConductor.Graph

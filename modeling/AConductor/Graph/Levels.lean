import AConductor.Graph.InsertionOrder
import AConductor.Graph.Acyclic
import AConductor.Lib.Walk

/-!
# Levels

What `topological_sort` (`src/a_conductor/graph/dag.py:31-75`) returns. It empties its queue a whole
level at a time, so one turn of its loop is as many turns of the loop of `_find_cycle`, and keeps the
same invariant (`Visiting`). Beside it every level holds the nodes of one depth: the number of edges of
the longest path that ends there.
-/

namespace AConductor.Graph

open List

/-- `b` waits for `a`, by an edge of whichever type. -/
def TaskGraph.Edge (g : TaskGraph) (a b : String) : Prop :=
  ∃ e ∈ g.edges, e.fromId = a ∧ e.toId = b

variable {g : TaskGraph} {visited queue next : List String} {indegree : String → Int}

theorem TaskGraph.Edge.known {a b : String} (h : g.Edge a b) : a ∈ g.nodeIds ∧ b ∈ g.nodeIds := by
  obtain ⟨e, he, rfl, rfl⟩ := h
  exact ⟨(g.endpoints e he).1, (g.endpoints e he).2.1⟩

theorem mem_adjacency {a b : String} : b ∈ g.adjacency a ↔ g.Edge a b := by
  unfold TaskGraph.adjacency TaskGraph.Edge
  simp [and_assoc]

variable {n : String} {levels : List (List String)}

/-- A node without indegree waits for visited nodes only. -/
theorem pending_eq_nil : pending g visited n = [] ↔ ∀ m, g.Edge m n → m ∈ visited := by
  unfold pending
  rw [filter_eq_nil_iff]
  constructor
  · rintro h m ⟨e, he, rfl, rfl⟩
    simpa using h e he
  · intro h e he
    simp only [Bool.and_eq_true, decide_eq_true_eq, not_and]
    rintro rfl
    simpa using h e.fromId ⟨e, he, rfl, rfl⟩

namespace Visiting

theorem indegree_eq_zero (h : Visiting g visited queue indegree) :
    indegree n = 0 ↔ ∀ m, g.Edge m n → m ∈ visited := by
  rw [h.indegrees, Int.natCast_eq_zero, length_eq_zero_iff, pending_eq_nil]

/-- The order of the queue does not matter. -/
theorem queue_perm (h : Visiting g visited queue indegree) (hperm : queue.Perm next) :
    Visiting g visited next indegree := by
  have happend : (visited ++ queue).Perm (visited ++ next) := hperm.append_left visited
  exact
    { nodup := happend.nodup_iff.mp h.nodup
      known := fun n hn => h.known (happend.symm.subset hn)
      indegrees := h.indegrees
      free := fun n hn hzero => happend.subset (h.free n hn hzero)
      queued := fun n hn => h.queued n (happend.symm.subset hn)
      ordered := h.ordered }

end Visiting

theorem relax_append (indegree : String → Int) (l l' : List String) :
    relax indegree (l ++ l') = ((relax (relax indegree l).1 l').1,
      (relax indegree l).2 ++ (relax (relax indegree l).1 l').2) := by
  induction l generalizing indegree with
  | nil => rfl
  | cons x l ih =>
    simp only [cons_append, relax, ih]
    split <;> rfl

/-- A whole level is visited. -/
theorem Visiting.level (h : Visiting g visited (queue ++ next) indegree) :
    Visiting g (visited ++ queue) (next ++ (relax indegree (queue.flatMap g.adjacency)).2)
      (relax indegree (queue.flatMap g.adjacency)).1 := by
  induction queue generalizing visited next indegree with
  | nil =>
    rw [append_nil]
    simpa [relax] using h
  | cons current queue ih =>
    have hstep : Visiting g (visited ++ [current])
        (queue ++ (next ++ (relax indegree (g.adjacency current)).2))
        (relax indegree (g.adjacency current)).1 := by
      rw [← append_assoc]
      exact h.step
    have hrest := ih hstep
    rw [append_assoc, append_assoc] at hrest
    rw [flatMap_cons, relax_append]
    exact hrest

/-- The levels so far hold the nodes of depth `0, 1, …`. -/
def Layered (g : TaskGraph) (levels : List (List String)) : Prop :=
  ∀ i level, levels[i]? = some level → ∀ n ∈ level, Walk.Depth g.Edge n i

theorem Layered.snoc (h : Layered g levels)
    (hqueue : ∀ n ∈ queue, Walk.Depth g.Edge n levels.length) : Layered g (levels ++ [queue]) := by
  intro i level hlevel n hn
  by_cases hi : i < levels.length
  · rw [List.getElem?_append_left hi] at hlevel
    exact h i level hlevel n hn
  · obtain ⟨hlt, -⟩ := List.getElem?_eq_some_iff.mp hlevel
    rw [length_append, length_singleton] at hlt
    obtain rfl : i = levels.length := by omega
    rw [List.getElem?_concat_length] at hlevel
    cases hlevel
    exact hqueue n hn

theorem Layered.depth (h : Layered g levels) (hn : n ∈ levels.flatten) :
    ∃ d, Walk.Depth g.Edge n d ∧ d < levels.length := by
  obtain ⟨level, hlevel, hn⟩ := mem_flatten.mp hn
  obtain ⟨i, hi, rfl⟩ := mem_iff_getElem.mp hlevel
  exact ⟨i, h i _ (List.getElem?_eq_getElem hi) n hn, hi⟩

/-- The next queue is one level deeper: each of its nodes waited for one of the last. -/
theorem depth_of_queued (h : Visiting g levels.flatten queue indegree)
    (hlayers : Layered g (levels ++ [queue]))
    (hn : n ∈ (relax indegree (queue.flatMap g.adjacency)).2) :
    Walk.Depth g.Edge n (levels.length + 1) := by
  have hnext : Visiting g (levels.flatten ++ queue)
      ([] ++ (relax indegree (queue.flatMap g.adjacency)).2) _ :=
    Visiting.level (by rwa [append_nil])
  rw [nil_append] at hnext
  have hfresh : n ∉ levels.flatten ++ queue := fun hmem =>
    (nodup_append.mp hnext.nodup).2.2 _ hmem _ hn rfl
  have hpreds := hnext.indegree_eq_zero.mp (hnext.queued n (mem_append_right _ hn))
  have hflatten : (levels ++ [queue]).flatten = levels.flatten ++ queue := by simp
  -- it was not queued before, so one node it waits for was not visited then
  have hwaits : ¬ ∀ m, g.Edge m n → m ∈ levels.flatten := fun hall =>
    hfresh (h.free n (hnext.known (mem_append_right _ hn)) (h.indegree_eq_zero.mpr hall))
  push Not at hwaits
  obtain ⟨m, hmn, hm⟩ := hwaits
  have hqueue : m ∈ queue := (mem_append.mp (hpreds m hmn)).resolve_left hm
  refine Walk.depth_succ hmn
    (hlayers levels.length queue List.getElem?_concat_length m hqueue) fun c hc => ?_
  obtain ⟨d, hdepth, hlt⟩ := hlayers.depth (by rw [hflatten]; exact hpreds c hc)
  rw [length_append, length_singleton] at hlt
  exact ⟨d, hdepth, by omega⟩

/-- The loop ends with an empty queue, and its levels are the depths. -/
theorem kahnLevels_spec (fuel : Nat) (h : Visiting g levels.flatten queue indegree)
    (hlayers : Layered g levels) (hqueue : ∀ n ∈ queue, Walk.Depth g.Edge n levels.length)
    (hfuel : g.nodes.length ≤ levels.flatten.length + fuel) :
    Layered g (levels ++ kahnLevels g.adjacency fuel indegree queue) ∧ ∃ left,
      Visiting g (levels ++ kahnLevels g.adjacency fuel indegree queue).flatten [] left := by
  induction fuel generalizing levels queue indegree with
  | zero =>
    have hle := h.length_le
    obtain rfl : queue = [] := eq_nil_of_length_eq_zero (by omega)
    rw [kahnLevels, append_nil]
    exact ⟨hlayers, indegree, h⟩
  | succ fuel ih =>
    cases queue with
    | nil =>
      rw [kahnLevels, append_nil]
      exact ⟨hlayers, indegree, h⟩
    | cons current queue =>
      have hsnoc := hlayers.snoc hqueue
      have hflatten : (levels ++ [current :: queue]).flatten =
          levels.flatten ++ current :: queue := by simp
      have hnext : Visiting g (levels ++ [current :: queue]).flatten
          (relax indegree ((current :: queue).flatMap g.adjacency)).2
          (relax indegree ((current :: queue).flatMap g.adjacency)).1 := by
        rw [hflatten]
        have hlevel : Visiting g levels.flatten (current :: queue ++ []) indegree := by
          rwa [append_nil]
        exact hlevel.level
      have hrest := ih hnext hsnoc
        (fun n hn => by
          rw [length_append, length_singleton]
          exact depth_of_queued h hsnoc hn)
        (by
          rw [hflatten, length_append, length_cons]
          omega)
      rw [append_assoc] at hrest
      exact hrest

theorem levelQueues_spec (g : TaskGraph) :
    Layered g (levelQueues g) ∧ ∃ left, Visiting g (levelQueues g).flatten [] left := by
  have hstart : Visiting g [] (sortIds (g.nodeIds.filter fun n => g.indegree n = 0)) g.indegree :=
    (visiting_init g).queue_perm (perm_insertionSort _ _).symm
  have hnone : Layered g [] := fun i level hlevel => by simp at hlevel
  refine kahnLevels_spec g.nodes.length hstart hnone (fun n hn => ?_) (by simp)
  refine Walk.depth_zero fun m hm => ?_
  have hzero := hstart.indegree_eq_zero.mp (hstart.queued n hn)
  exact absurd (hzero m hm) not_mem_nil

theorem levelQueues_ne_nil {adjacency : String → List String} (fuel : Nat)
    (indegree : String → Int) (queue : List String) :
    ∀ level ∈ kahnLevels adjacency fuel indegree queue, level ≠ [] := by
  induction fuel generalizing indegree queue with
  | zero => nofun
  | succ fuel ih =>
    cases queue with
    | nil => nofun
    | cons current queue =>
      intro level hlevel
      rw [kahnLevels, mem_cons] at hlevel
      rcases hlevel with rfl | hlevel
      · exact cons_ne_nil _ _
      · exact ih _ _ level hlevel

/-- The nodes that are left over are those at or behind a cycle. -/
theorem Visiting.left_over_iff (hdone : Visiting g visited [] indegree) (hn : n ∈ g.nodeIds) :
    n ∉ visited ↔ Walk.BehindCycle g.Edge n := by
  constructor
  · intro hleft
    refine Walk.behindCycle_of_preds (l := g.nodeIds.filter fun n => !visited.elem n)
      (fun a ha => ?_) (mem_filter.mpr ⟨hn, by simpa using hleft⟩)
    obtain ⟨hknown, hleft⟩ := mem_filter.mp ha
    have hwaits : ¬ ∀ m, g.Edge m a → m ∈ visited := fun hall => by
      have hmem := hdone.free a hknown (hdone.indegree_eq_zero.mpr hall)
      rw [append_nil] at hmem
      simp [hmem] at hleft
    push Not at hwaits
    obtain ⟨m, hma, hm⟩ := hwaits
    exact ⟨m, mem_filter.mpr ⟨hma.known.1, by simpa using hm⟩, hma⟩
  · intro hbehind hmem
    -- going back from a visited node ends
    have hrank : ∀ k, ∀ m, visited.idxOf m = k → m ∈ visited → ¬ Walk.BehindCycle g.Edge m := by
      intro k
      induction k using Nat.strongRecOn with
      | ind k ih =>
        rintro m rfl hm hbehind
        obtain ⟨p, ⟨e, he, rfl, rfl⟩, hp⟩ := hbehind.pred
        obtain ⟨hvisited, hlt⟩ := hdone.ordered e he hm
        exact ih _ hlt _ rfl hvisited hp
    exact hrank _ n rfl hmem hbehind

theorem left_over_iff (hn : n ∈ g.nodeIds) :
    n ∉ (levelQueues g).flatten ↔ Walk.BehindCycle g.Edge n := by
  obtain ⟨-, left, hdone⟩ := levelQueues_spec g
  exact hdone.left_over_iff hn

theorem acyclic_of_cycle_none (h : (topologicalSort g).cycle = none) : Walk.Acyclic g.Edge := by
  intro n hcycle
  obtain ⟨m, hnm, -⟩ := Relation.TransGen.head'_iff.mp hcycle
  exact (left_over_iff hnm.known.1).mpr ⟨n, hcycle, .refl⟩
    (topologicalSort_cycle_none.mp h n hnm.known.1)

theorem cycle_none_of_acyclic (h : Walk.Acyclic g.Edge) : (topologicalSort g).cycle = none := by
  refine topologicalSort_cycle_none.mpr fun n hn => ?_
  by_contra hleft
  obtain ⟨m, hm, -⟩ := (left_over_iff hn).mp hleft
  exact h m hm

/-- A cycle is reported exactly for a graph that has one. The order of any other graph names every
    node once and goes along the edges; its levels part the nodes by the longest path that ends at
    each. -/
theorem topologicalSort_correct (g : TaskGraph) :
    ((topologicalSort g).cycle = none ↔ Walk.Acyclic g.Edge) ∧
    (Walk.Acyclic g.Edge →
      (topologicalSort g).order.Perm g.nodeIds ∧
      (∀ e ∈ g.edges,
        (topologicalSort g).order.idxOf e.fromId < (topologicalSort g).order.idxOf e.toId) ∧
      ∃ levels, (topologicalSort g).levels = some levels ∧ levels.flatten.Perm g.nodeIds ∧
        (∀ level ∈ levels, level ≠ []) ∧
        ∀ i level, levels[i]? = some level → ∀ n ∈ level, Walk.Depth g.Edge n i) := by
  refine ⟨⟨acyclic_of_cycle_none, cycle_none_of_acyclic⟩, fun h => ?_⟩
  have hnone := cycle_none_of_acyclic h
  obtain ⟨horder, hlevels⟩ := topologicalSort_of_acyclic hnone
  obtain ⟨hlayers, left, hdone⟩ := levelQueues_spec g
  have hall := topologicalSort_cycle_none.mp hnone
  have hnodup := hdone.nodup
  have hknown := hdone.known
  rw [append_nil] at hnodup hknown
  have hperm : (levelQueues g).flatten.Perm g.nodeIds :=
    (perm_ext_iff_of_nodup hnodup g.nodesUnique).mpr fun n => ⟨fun hn => hknown hn, hall n⟩
  have hsorted : ((levelQueues g).map sortIds).flatten.Perm (levelQueues g).flatten := by
    refine List.Perm.flatten_congr ?_
    rw [forall₂_map_left_iff]
    exact forall₂_same.mpr fun level _ => perm_insertionSort _ level
  rw [horder]
  refine ⟨hperm, fun e he => (hdone.ordered e he (hall _ (g.endpoints e he).2.1)).2, _, hlevels,
    hsorted.trans hperm, ?_, ?_⟩
  · intro level hlevel
    obtain ⟨queue, hqueue, rfl⟩ := mem_map.mp hlevel
    have hne := levelQueues_ne_nil _ _ _ queue hqueue
    intro hnil
    exact hne (eq_nil_of_length_eq_zero (by
      rw [← (perm_insertionSort (· ≤ ·) queue).length_eq]
      exact congrArg List.length hnil))
  · intro i level hlevel n hn
    rw [List.getElem?_map, Option.map_eq_some_iff] at hlevel
    obtain ⟨queue, hqueue, rfl⟩ := hlevel
    exact hlayers i queue hqueue n ((perm_insertionSort _ queue).subset hn)

/-- A node that asks for nothing. -/
def plainNode (nodeId : String) (h : Text.isBlank nodeId = false) : TaskNode where
  id := nodeId
  objective := nodeId
  checked := by
    unfold TaskNodeFields.check
    rw [h]
    rfl

/-- Work that is split in two and joined. -/
def diamondGraph : TaskGraph where
  nodes := [plainNode "start" (by decide), plainNode "left" (by decide),
    plainNode "right" (by decide), plainNode "join" (by decide)]
  edges := [{ fromId := "start", toId := "left" }, { fromId := "start", toId := "right" },
    { fromId := "left", toId := "join" }, { fromId := "right", toId := "join" }]
  nodesUnique := by decide
  edgesUnique := by decide
  endpoints := by decide

theorem topologicalSort_correct_diamond :
    (topologicalSort diamondGraph).cycle = none ∧ Walk.Depth diamondGraph.Edge "join" 2 := by
  have hacyclic : Walk.Acyclic diamondGraph.Edge := by
    refine Walk.acyclic_of_rank ["start", "left", "right", "join"].idxOf ?_
    rintro _ _ ⟨e, he, rfl, rfl⟩
    revert e
    decide
  obtain ⟨hcycle, hsorted⟩ := topologicalSort_correct diamondGraph
  obtain ⟨-, -, levels, hlevels, -, -, hdepth⟩ := hsorted hacyclic
  have hthree : (topologicalSort diamondGraph).levels =
      some [["start"], ["left", "right"], ["join"]] := by decide +kernel
  cases hlevels.symm.trans hthree
  exact ⟨hcycle.mpr hacyclic, hdepth 2 ["join"] rfl "join" mem_cons_self⟩

end AConductor.Graph

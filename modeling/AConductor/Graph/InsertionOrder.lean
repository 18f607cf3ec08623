import AConductor.Graph.SchedulePlan

/-!
# The order of insertion

Two graphs with the same nodes and edges, inserted in different orders, have the same topological
levels (`src/a_conductor/graph/dag.py:31-75`), but not the same topological order: only the first
queue is sorted, and behind it the nodes of a level stand as the edges into them were inserted.
The scheduler ranks nodes of one priority by that order.
-/

namespace AConductor.Graph

open List

/-- The same nodes and edges, in any order of insertion. -/
structure SameGraph (g g' : TaskGraph) : Prop where
  nodes : g.nodes.Perm g'.nodes
  edges : g.edges.Perm g'.edges

/-- Neighbours may be relaxed in any order: the indegrees are the same, and the same neighbours
    are queued. -/
theorem relax_perm {l l' : List String} (h : l.Perm l') (indegree : String → Int) :
    (relax indegree l).1 = (relax indegree l').1 ∧
      (relax indegree l).2.Perm (relax indegree l').2 := by
  induction h generalizing indegree with
  | nil => exact ⟨rfl, List.Perm.refl _⟩
  | cons x _ ih =>
    obtain ⟨hdegrees, hqueued⟩ := ih (Function.update indegree x (indegree x - 1))
    simp only [relax]
    refine ⟨hdegrees, ?_⟩
    split
    · exact hqueued.cons x
    · exact hqueued
  | swap x y l =>
    by_cases hxy : x = y
    · subst hxy
      exact ⟨rfl, List.Perm.refl _⟩
    · simp only [relax, Function.update_self, Function.update_of_ne hxy,
        Function.update_of_ne (Ne.symm hxy)]
      rw [Function.update_comm hxy]
      refine ⟨rfl, ?_⟩
      split
      · split
        · exact List.Perm.swap _ _ _
        · exact List.Perm.refl _
      · exact List.Perm.refl _
  | trans _ _ ih₁ ih₂ =>
    exact ⟨(ih₁ indegree).1.trans (ih₂ indegree).1, (ih₁ indegree).2.trans (ih₂ indegree).2⟩

/-- The levels hold the same nodes. -/
theorem kahnLevels_perm {adjacency adjacency' : String → List String}
    (hadjacency : ∀ n, (adjacency n).Perm (adjacency' n)) (fuel : Nat) (indegree : String → Int)
    {queue queue' : List String} (hqueue : queue.Perm queue') :
    List.Forall₂ List.Perm (kahnLevels adjacency fuel indegree queue)
      (kahnLevels adjacency' fuel indegree queue') := by
  induction fuel generalizing indegree queue queue' with
  | zero => exact .nil
  | succ fuel ih =>
    cases queue with
    | nil =>
      rw [nil_perm.mp hqueue]
      exact .nil
    | cons current queue =>
      cases queue' with
      | nil => exact absurd hqueue.symm (nil_perm.not.mpr (by simp))
      | cons current' queue' =>
        have hneighbours : ((current :: queue).flatMap adjacency).Perm
            ((current' :: queue').flatMap adjacency') :=
          hqueue.flatMap fun n _ => hadjacency n
        obtain ⟨hdegrees, hqueued⟩ := relax_perm hneighbours indegree
        simp only [kahnLevels]
        rw [hdegrees]
        exact .cons hqueue (ih _ hqueued)

theorem sortIds_perm {ids ids' : List String} (h : ids.Perm ids') : sortIds ids = sortIds ids' := by
  have htotal : Std.Total fun a b : String => a ≤ b := ⟨String.le_total⟩
  have htrans : IsTrans String fun a b => a ≤ b := ⟨fun _ _ _ => String.le_trans⟩
  unfold sortIds
  refine List.Perm.eq_of_pairwise (fun a b _ _ => String.le_antisymm)
    (pairwise_insertionSort _ ids) (pairwise_insertionSort _ ids') ?_
  exact ((perm_insertionSort _ ids).trans h).trans (perm_insertionSort _ ids').symm

namespace SameGraph

variable {g g' : TaskGraph} (h : SameGraph g g')
include h

theorem nodeIds : g.nodeIds.Perm g'.nodeIds := h.nodes.map _

theorem indegree : g.indegree = g'.indegree := by
  funext n
  unfold TaskGraph.indegree
  rw [(h.edges.filter _).length_eq]

theorem adjacency (n : String) : (g.adjacency n).Perm (g'.adjacency n) :=
  (h.edges.filter _).map _

theorem node? (nodeId : String) : g.node? nodeId = g'.node? nodeId := by
  cases hfound : g.node? nodeId with
  | some n =>
    have hid : n.id = nodeId := by simpa using List.find?_some hfound
    have hmem := h.nodes.subset (mem_of_find?_eq_some hfound)
    rw [← hid, g'.node?_of_mem hmem]
  | none =>
    symm
    unfold TaskGraph.node? at *
    rw [List.find?_eq_none] at hfound ⊢
    exact fun n hn => hfound n (h.nodes.symm.subset hn)

end SameGraph

/-- The queues of the levels, as `topological_sort` empties them. -/
def levelQueues (g : TaskGraph) : List (List String) :=
  kahnLevels g.adjacency g.nodes.length g.indegree
    (sortIds (g.nodeIds.filter fun n => g.indegree n = 0))

variable {g g' : TaskGraph} {a b : TaskNode}

theorem levelQueues_perm (h : SameGraph g g') :
    List.Forall₂ List.Perm (levelQueues g) (levelQueues g') := by
  unfold levelQueues
  rw [h.nodes.length_eq, ← h.indegree, sortIds_perm (h.nodeIds.filter _)]
  exact kahnLevels_perm h.adjacency _ _ (List.Perm.refl _)

theorem map_sortIds_eq {levels levels' : List (List String)}
    (h : List.Forall₂ List.Perm levels levels') : levels.map sortIds = levels'.map sortIds := by
  induction h with
  | nil => rfl
  | cons hlevel _ ih => rw [map_cons, map_cons, sortIds_perm hlevel, ih]

theorem topologicalSort_cycle_none :
    (topologicalSort g).cycle = none ↔ ∀ n ∈ g.nodeIds, n ∈ (levelQueues g).flatten := by
  have hremaining : g.nodeIds.filter (fun n => !(levelQueues g).flatten.elem n) = [] ↔
      ∀ n ∈ g.nodeIds, n ∈ (levelQueues g).flatten := by simp
  rw [← hremaining]
  unfold topologicalSort
  dsimp only
  split
  · rename_i hnone
    exact ⟨fun _ => hnone, fun _ => rfl⟩
  · rename_i hsome
    exact ⟨nofun, fun hnone => absurd hnone hsome⟩

theorem topologicalSort_of_acyclic (h : (topologicalSort g).cycle = none) :
    (topologicalSort g).order = (levelQueues g).flatten ∧
      (topologicalSort g).levels = some ((levelQueues g).map sortIds) := by
  unfold topologicalSort at *
  dsimp only at *
  split at h
  · rename_i hnone
    rw [if_pos hnone]
    exact ⟨rfl, rfl⟩
  · cases h

/-- Whether a graph has a cycle, and its levels, are independent of the order of insertion. -/
theorem topologicalLevels_eq (h : SameGraph g g') (hacyclic : (topologicalSort g).cycle = none) :
    (topologicalSort g').cycle = none ∧ (topologicalSort g).levels = (topologicalSort g').levels := by
  have hlevels := levelQueues_perm h
  have hacyclic' : (topologicalSort g').cycle = none := by
    rw [topologicalSort_cycle_none] at hacyclic ⊢
    intro n hn
    exact (List.Perm.flatten_congr hlevels).subset (hacyclic n (h.nodeIds.symm.subset hn))
  rw [(topologicalSort_of_acyclic hacyclic).2, (topologicalSort_of_acyclic hacyclic').2,
    map_sortIds_eq hlevels]
  exact ⟨hacyclic', rfl⟩

/-- Different nodes of a graph without cycles have different ranks. -/
theorem topologicalRank_injective (hacyclic : (topologicalSort g).cycle = none) {a b : String}
    (ha : a ∈ g.nodeIds) (h : topologicalRank g a = topologicalRank g b) : a = b := by
  unfold topologicalRank at h
  refine (idxOf_inj ?_).mp h
  rw [(topologicalSort_of_acyclic hacyclic).1]
  exact topologicalSort_cycle_none.mp hacyclic a ha

/-- Among nodes of one priority the rank decides. -/
theorem scheduledBefore_iff (hacyclic : (topologicalSort g).cycle = none) (ha : a ∈ g.nodes)
    (hne : a.id ≠ b.id) (hpriority : a.priority = b.priority) :
    ScheduledBefore (topologicalRank g) a b ↔ topologicalRank g a.id < topologicalRank g b.id := by
  have hrank : topologicalRank g a.id ≠ topologicalRank g b.id := fun h =>
    hne (topologicalRank_injective hacyclic (mem_map_of_mem ha) h)
  unfold ScheduledBefore
  rw [hpriority]
  constructor
  · rintro (h | ⟨-, h | ⟨h, -⟩⟩)
    · exact absurd h (lt_irrefl _)
    · exact h
    · exact absurd h hrank
  · exact fun h => .inr ⟨rfl, .inl h⟩

/-- With no room at all the plan tells the order in which the nodes were examined. -/
theorem passOver_full {inputs : ScheduleInputs} (hfull : inputs.capacity ≤ 0)
    (heligible : ∀ nodeId, inputs.eligibility nodeId = none) (nodes : List TaskNode) :
    (passOver inputs nodes).blocked =
      nodes.map fun n => ⟨n.id, "capacity: all slots filled", .capacity⟩ := by
  induction nodes using List.reverseRecOn with
  | nil => rfl
  | append_singleton nodes node ih =>
    have hassign : assign inputs (passOver inputs nodes) node =
        .error ⟨node.id, "capacity: all slots filled", .capacity⟩ := by
      have hroom : inputs.capacity ≤ (passOver inputs nodes).selected.length := by omega
      unfold assign checkEligibility checkCapacity blockedFor
      rw [heligible, if_pos hroom]
      rfl
    rw [passOver_snoc, place, hassign, map_append, ← ih]
    rfl

/-- Two ready nodes. -/
def readyPair (a b : String) (h : a ≠ b) : ReadySetResult where
  checks := []
  readyIds := [a, b]
  readyUnique := by simp [h]

theorem examined_pair (a b : TaskNode) : (examined g [a, b]).map (fun n => n.id) =
      if ScheduledBefore (topologicalRank g) a b then [a.id, b.id] else [b.id, a.id] := by
  unfold examined
  rw [insertionSort_cons, insertionSort_cons, insertionSort_nil,
    orderedInsert_nil, orderedInsert_cons]
  split
  · rfl
  · rw [orderedInsert_nil]
    rfl

/-- Without workers the plan for two ready nodes tells which of them is examined first. -/
theorem scheduleOnce_readyPair (ha : a ∈ g.nodes) (hb : b ∈ g.nodes) (hne : a.id ≠ b.id) :
    ∃ plan, scheduleOnce g (readyPair a.id b.id hne) [] {} [] (fun _ => none) = some plan ∧
      plan.blocked.map (fun r => r.nodeId) =
        if ScheduledBefore (topologicalRank g) a b then [a.id, b.id] else [b.id, a.id] := by
  have hnodes : [a.id, b.id].mapM g.node? = some [a, b] := by
    simp [g.node?_of_mem ha, g.node?_of_mem hb]
  obtain ⟨plan, hplan⟩ : ∃ plan, scheduleOnce g (readyPair a.id b.id hne) [] {} []
      (fun _ => none) = some plan := by
    unfold scheduleOnce readyPair
    rw [hnodes]
    exact ⟨_, rfl⟩
  refine ⟨plan, hplan, ?_⟩
  obtain ⟨nodes, hready, -, hblocked⟩ := scheduleOnce_pass hplan
  obtain rfl := Option.some.inj (hnodes.symm.trans hready)
  rw [hblocked, passOver_full (by decide) fun _ => rfl, map_map, ← examined_pair]
  rfl

/-- The decisions of a plan. -/
def SchedulePlan.decisions (plan : SchedulePlan) : List SelectedAssignment × List BlockedReason :=
  (plan.selected, plan.blocked)

theorem examined_eq (h : SameGraph g g') (hacyclic : (topologicalSort g).cycle = none)
    (hrank : ∀ a ∈ g.nodes, ∀ b ∈ g.nodes, a.priority = b.priority →
      (topologicalRank g a.id < topologicalRank g b.id ↔
        topologicalRank g' a.id < topologicalRank g' b.id)) {nodes : List TaskNode}
    (hnodes : ∀ n ∈ nodes, n ∈ g.nodes) : examined g nodes = examined g' nodes := by
  have hacyclic' := (topologicalLevels_eq h hacyclic).1
  have hbefore : ∀ a ∈ nodes, ∀ b ∈ nodes, ScheduledBefore (topologicalRank g) a b ↔
      ScheduledBefore (topologicalRank g') a b := by
    intro a ha b hb
    by_cases hpriority : a.priority = b.priority
    · by_cases hid : a.id = b.id
      · obtain rfl := inj_on_of_nodup_map g.nodesUnique (hnodes a ha) (hnodes b hb) hid
        simp [ScheduledBefore]
      · rw [scheduledBefore_iff hacyclic (hnodes a ha) hid hpriority,
          scheduledBefore_iff hacyclic' (h.nodes.subset (hnodes a ha)) hid hpriority]
        exact hrank a (hnodes a ha) b (hnodes b hb) hpriority
    · simp [ScheduledBefore, hpriority]
  have hsame := map_insertionSort (r := ScheduledBefore (topologicalRank g))
    (s := ScheduledBefore (topologicalRank g')) id nodes hbefore
  rw [map_id, map_id] at hsame
  exact hsame

/-- Equal plans rank the nodes of each priority alike: the plan for two ready nodes and no
    worker shows which of them is examined first. -/
theorem rank_iff_of_plans (h : SameGraph g g') (hacyclic : (topologicalSort g).cycle = none)
    (hplans : ∀ ready workers policy running eligibility,
      (scheduleOnce g ready workers policy running eligibility).map SchedulePlan.decisions =
        (scheduleOnce g' ready workers policy running eligibility).map SchedulePlan.decisions)
    (ha : a ∈ g.nodes) (hb : b ∈ g.nodes) (hpriority : a.priority = b.priority) :
    topologicalRank g a.id < topologicalRank g b.id ↔
      topologicalRank g' a.id < topologicalRank g' b.id := by
  have hacyclic' := (topologicalLevels_eq h hacyclic).1
  by_cases hne : a.id = b.id
  · rw [hne]
    simp
  · obtain ⟨plan, hplan, hblocked⟩ := scheduleOnce_readyPair ha hb hne
    obtain ⟨plan', hplan', hblocked'⟩ :=
      scheduleOnce_readyPair (h.nodes.subset ha) (h.nodes.subset hb) hne
    have hsame := hplans (readyPair a.id b.id hne) [] {} [] fun _ => none
    rw [hplan, hplan', Option.map_some, Option.map_some] at hsame
    have hdecisions : plan.decisions.2 = plan'.decisions.2 :=
      congrArg Prod.snd (Option.some.inj hsame)
    have hlists : plan.blocked.map (fun r => r.nodeId) = plan'.blocked.map fun r => r.nodeId :=
      congrArg _ hdecisions
    rw [hblocked, hblocked'] at hlists
    rw [← scheduledBefore_iff hacyclic ha hne hpriority,
      ← scheduledBefore_iff hacyclic' (h.nodes.subset ha) hne hpriority]
    by_cases hbefore : ScheduledBefore (topologicalRank g) a b
    · rw [if_pos hbefore] at hlists
      by_contra hiff
      rw [if_neg (by simpa [hbefore] using hiff)] at hlists
      exact hne (List.cons.inj hlists).1
    · rw [if_neg hbefore] at hlists
      by_contra hiff
      rw [if_pos (by simpa [hbefore] using hiff)] at hlists
      exact hne (List.cons.inj hlists).1.symm

/-- Two orders of insertion of one graph without cycles lead to the same plans, whatever is ready
    and free, exactly when they rank the nodes of each priority alike. -/
theorem schedule_independent_iff {g g' : TaskGraph} (h : SameGraph g g')
    (hacyclic : (topologicalSort g).cycle = none) :
    (∀ ready workers policy running eligibility,
      (scheduleOnce g ready workers policy running eligibility).map SchedulePlan.decisions =
        (scheduleOnce g' ready workers policy running eligibility).map SchedulePlan.decisions) ↔
    ∀ a ∈ g.nodes, ∀ b ∈ g.nodes, a.priority = b.priority →
      (topologicalRank g a.id < topologicalRank g b.id ↔
        topologicalRank g' a.id < topologicalRank g' b.id) := by
  constructor
  · intro hplans a ha b hb hpriority
    exact rank_iff_of_plans h hacyclic hplans ha hb hpriority
  · intro hrank ready workers policy running eligibility
    have hlookup : g.node? = g'.node? := funext h.node?
    unfold scheduleOnce
    rw [← hlookup]
    cases hnodes : ready.readyIds.mapM g.node? with
    | none => simp only [Option.bind_eq_bind, Option.bind_none, Option.map_none]
    | some nodes =>
      have hexamined := examined_eq h hacyclic hrank fun n hn => (mem_of_mapM_node? hnodes hn).1
      unfold examined at hexamined
      simp only [Option.bind_eq_bind, Option.bind_some]
      rw [hexamined]

/-- A node of the fork: anybody may run it. -/
def forkNode (nodeId : String) (h : nodeId = "root" ∨ nodeId = "a" ∨ nodeId = "b") : TaskNode where
  id := nodeId
  objective := "read"
  checked := by rcases h with rfl | rfl | rfl <;> decide +kernel

/-- The fork as it was built, with the edge to the second branch first. -/
def forkGraph : TaskGraph where
  nodes := [forkNode "root" (.inl rfl), forkNode "a" (.inr (.inl rfl)),
    forkNode "b" (.inr (.inr rfl))]
  edges := [{ fromId := "root", toId := "b" }, { fromId := "root", toId := "a" }]
  nodesUnique := by decide
  edgesUnique := by decide
  endpoints := by decide

/-- The fork as the store returns it, in the order of its ids. -/
def loadedFork : TaskGraph where
  nodes := [forkNode "a" (.inr (.inl rfl)), forkNode "b" (.inr (.inr rfl)),
    forkNode "root" (.inl rfl)]
  edges := [{ fromId := "root", toId := "a" }, { fromId := "root", toId := "b" }]
  nodesUnique := by decide
  edgesUnique := by decide
  endpoints := by decide

theorem forkGraph_same : SameGraph forkGraph loadedFork := ⟨by decide, by decide⟩

/-- With one worker the fork goes on with one branch, the loaded fork with the other. -/
theorem schedule_depends_on_insertion :
    ¬ ∀ g g' : TaskGraph, SameGraph g g' → (topologicalSort g).cycle = none →
      ∀ ready workers policy running eligibility,
      (scheduleOnce g ready workers policy running eligibility).map SchedulePlan.decisions =
        (scheduleOnce g' ready workers policy running eligibility).map
          SchedulePlan.decisions := by
  intro h
  have hsame := h forkGraph loadedFork forkGraph_same (by decide +kernel)
    (readyPair "a" "b" (by decide)) [{ workerId := "w1" }] {} [] fun _ => none
  have hdiffer : (scheduleOnce forkGraph (readyPair "a" "b" (by decide)) [{ workerId := "w1" }] {}
      [] fun _ => none).map SchedulePlan.decisions ≠
      (scheduleOnce loadedFork (readyPair "a" "b" (by decide)) [{ workerId := "w1" }] {} []
        fun _ => none).map SchedulePlan.decisions := by
    decide +kernel
  exact hdiffer hsame

/-- The two writers one behind the other, with the later one inserted first. -/
def reversedSharedFile : TaskGraph where
  nodes := sharedFileGraph.nodes.reverse
  edges := sharedFileGraph.edges
  nodesUnique := by decide
  edgesUnique := sharedFileGraph.edgesUnique
  endpoints := by decide

theorem schedule_independent_iff_shared_file :
    (scheduleOnce sharedFileGraph (readyPair "draft" "review" (by decide)) [{ workerId := "w1" }] {}
        [] fun _ => none).map SchedulePlan.decisions =
      (scheduleOnce reversedSharedFile (readyPair "draft" "review" (by decide))
        [{ workerId := "w1" }] {} [] fun _ => none).map SchedulePlan.decisions := by
  have hsame : SameGraph sharedFileGraph reversedSharedFile := ⟨by decide, by decide⟩
  refine (schedule_independent_iff hsame (by decide +kernel)).mpr ?_ _ _ _ _ _
  decide +kernel

end AConductor.Graph

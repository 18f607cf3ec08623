import AConductor.Graph.Levels

/-!
# The cycle that is reported

`_reconstruct_cycle` (`src/a_conductor/graph/dag.py:94-121`) and the second half of `_find_cycle`
(`src/a_conductor/graph/graph.py:80-94`) walk on from one of the nodes that Kahn's algorithm left over,
each time along the first edge of a node, until they meet a node again. Every successor of a node that
is left over is left over, but it need not have a successor itself: a node behind a cycle can be a dead
end, and the walk that comes to one closes on an edge that is not there.
-/

namespace AConductor.Graph

open List

/-! ### Walking to a repeat -/

/-- A walk in `l`: no node is met twice before it stands at `current`. -/
structure Trail (next : String → Option String) (l : List String) (start : String)
    (path : List String) (current : Option String) : Prop where
  nodup : path.Nodup
  known : path ++ current.toList ⊆ l
  chain : (path ++ current.toList).IsChain fun a b => next a = some b
  starts : (path ++ current.toList).head? = some start
  ends : current = none → ∃ last ∈ path, next last = none

variable {next : String → Option String} {l path : List String} {start : String}

theorem trail_start (next : String → Option String) (h : start ∈ l) : Trail next l start [] (some start) where
  nodup := nodup_nil
  known := by simpa using h
  chain := isChain_singleton _
  starts := rfl
  ends := nofun

theorem Trail.step {current : String} (h : Trail next l start path (some current))
    (hclosed : ∀ a ∈ l, ∀ b, next a = some b → b ∈ l) (hnew : current ∉ path) :
    Trail next l start (path ++ [current]) (next current) := by
  have hknown : path ++ [current] ⊆ l := h.known
  have hchain : (path ++ [current]).IsChain fun a b => next a = some b := h.chain
  have hstarts : (path ++ [current]).head? = some start := h.starts
  have hmem : current ∈ path ++ [current] := mem_append_right _ mem_cons_self
  refine ⟨?_, ?_, ?_, ?_, fun hend => ⟨current, hmem, hend⟩⟩
  · rw [nodup_append]
    refine ⟨h.nodup, nodup_singleton _, fun a ha b hb => ?_⟩
    rw [mem_singleton] at hb
    rintro rfl
    exact hnew (hb ▸ ha)
  · rw [append_subset]
    refine ⟨hknown, fun b hb => ?_⟩
    exact hclosed current (hknown hmem) b (by simpa [eq_comm] using hb)
  · cases hnext : next current with
    | none =>
      rw [Option.toList_none, append_nil]
      exact hchain
    | some b =>
      refine hchain.append (isChain_singleton _) fun x hx y hy => ?_
      rw [List.getLast?_concat] at hx
      cases hx
      cases hy
      exact hnext
  · rw [List.head?_append, hstarts]
    rfl

/-- With enough fuel the walk comes to a node that it met before, or to one it cannot leave. -/
theorem walkToRepeat_spec (fuel : Nat) {current : Option String}
    (h : Trail next l start path current) (hclosed : ∀ a ∈ l, ∀ b, next a = some b → b ∈ l)
    (hfuel : l.length < path.length + fuel) :
    Trail next l start (walkToRepeat next fuel path current).1
      (walkToRepeat next fuel path current).2 ∧
    ∀ c, (walkToRepeat next fuel path current).2 = some c →
      c ∈ (walkToRepeat next fuel path current).1 := by
  induction fuel generalizing path current with
  | zero =>
    have hknown : path ⊆ l := fun n hn => h.known (mem_append_left _ hn)
    have hle := (h.nodup.subperm hknown).length_le
    omega
  | succ fuel ih =>
    cases current with
    | none => exact ⟨h, nofun⟩
    | some current =>
      rw [walkToRepeat]
      split
      · rename_i hmet
        refine ⟨h, ?_⟩
        rintro c ⟨⟩
        exact hmet
      · rename_i hnew
        refine ih (h.step hclosed hnew) ?_
        rw [length_append, length_singleton]
        omega

/-- Where two walks go on alike they are the same. -/
theorem walkToRepeat_congr (path : List String) {next' : String → Option String}
    (hclosed : ∀ a ∈ l, ∀ b, next a = some b → b ∈ l) (hsame : ∀ a ∈ l, next' a = next a)
    (fuel : Nat) {current : Option String} (hcurrent : ∀ c, current = some c → c ∈ l) :
    walkToRepeat next' fuel path current = walkToRepeat next fuel path current := by
  induction fuel generalizing path current with
  | zero => rfl
  | succ fuel ih =>
    cases current with
    | none => rfl
    | some current =>
      have hmem := hcurrent current rfl
      rw [walkToRepeat, walkToRepeat, hsame current hmem]
      split
      · rfl
      · exact ih _ (hclosed current hmem)

variable {n : String}

section Repeated

variable {c : String} (h : Trail next l start path (some c)) (hc : c ∈ path)
include h hc

/-- Once a node is met again, everything the walk can reach was met. -/
theorem Trail.reached (hn : Relation.ReflTransGen (fun a b => next a = some b) start n) :
    n ∈ path := by
  induction hn with
  | refl =>
    have hstarts := h.starts
    cases path with
    | nil => cases hc
    | cons first path =>
      cases hstarts
      exact mem_cons_self
  | tail _ hstep ih =>
    obtain ⟨b, hb, hnext⟩ := Walk.exists_next h.chain ih
    cases hstep.symm.trans hnext
    rcases mem_append.mp hb with hb | hb
    · exact hb
    · cases mem_singleton.mp hb
      exact hc

/-- The part from the node that is met again is a closed walk. -/
theorem Trail.closes : Walk.Closed (fun a b => next a = some b)
    (path.dropWhile (· ≠ c) ++ [c]) := by
  have hchain : (path ++ [c]).IsChain fun a b => next a = some b := h.chain
  obtain ⟨before, after, rfl, hbefore⟩ := eq_append_cons_of_mem hc
  have hdrop : (before ++ c :: after).dropWhile (· ≠ c) = c :: after := by
    rw [dropWhile_append_of_pos fun a ha => by
      simpa using fun heq : a = c => hbefore (heq ▸ ha)]
    simp
  rw [hdrop]
  rw [append_assoc] at hchain
  refine ⟨by simp, hchain.right_of_append, ?_⟩
  rw [List.getLast?_concat]
  rfl

/-- A node that goes on to itself is met again at once. -/
theorem Trail.repeats (hn : n ∈ path) (hself : next n = some n) : n = c := by
  have hchain : (path ++ [c]).IsChain fun a b => next a = some b := h.chain
  obtain ⟨before, after, rfl⟩ := append_of_mem hn
  rw [append_assoc] at hchain
  have hrest : (n :: (after ++ [c])).IsChain fun a b => next a = some b :=
    hchain.right_of_append
  refine (hrest.cons_induction (fun m => m = n) _ ?_ rfl c (by simp)).symm
  rintro x y hxy rfl
  exact Option.some_inj.mp (hxy.symm.trans hself)

end Repeated

/-! ### The nodes that are left over -/

variable {g : TaskGraph}

/-- The first edge that leaves `a` goes to `b`. -/
def TaskGraph.FirstEdge (g : TaskGraph) (a b : String) : Prop := (g.adjacency a).head? = some b

/-- Going on along the first edge of each node never comes to a node without edges. -/
def NeverEnds (g : TaskGraph) (start : String) : Prop :=
  ∀ n, Relation.ReflTransGen g.FirstEdge start n → g.adjacency n ≠ []

/-- The least node at or behind a cycle. -/
def LeastBehind (g : TaskGraph) (start : String) : Prop :=
  Walk.BehindCycle g.Edge start ∧ ∀ n, Walk.BehindCycle g.Edge n → start ≤ n

/-- The node at or behind a cycle that was inserted first. -/
def FirstBehind (g : TaskGraph) (start : String) : Prop :=
  ∃ before after, g.nodeIds = before ++ start :: after ∧ Walk.BehindCycle g.Edge start ∧
    ∀ n ∈ before, ¬ Walk.BehindCycle g.Edge n

theorem TaskGraph.FirstEdge.edge {a b : String} (h : g.FirstEdge a b) : g.Edge a b :=
  mem_adjacency.mp (mem_of_head? h)

theorem behindCycle_known (h : Walk.BehindCycle g.Edge n) : n ∈ g.nodeIds := by
  obtain ⟨m, hm, -⟩ := h.pred
  exact hm.known.2

variable {remaining : List String}

/-- What a node that is left over waits to release is left over. -/
theorem filter_remaining (hremaining : ∀ n, n ∈ remaining ↔ Walk.BehindCycle g.Edge n)
    (hn : n ∈ remaining) : (g.adjacency n).filter (fun t => remaining.elem t) = g.adjacency n := by
  rw [filter_eq_self]
  intro t ht
  have hbehind := ((hremaining n).mp hn).step (mem_adjacency.mp ht)
  simpa using (hremaining t).mpr hbehind

theorem head?_sortIds {ids : List String} (hne : ids ≠ []) :
    ∃ least ∈ ids, (sortIds ids).head? = some least ∧ ∀ n ∈ ids, least ≤ n := by
  have htotal : Std.Total fun a b : String => a ≤ b := ⟨String.le_total⟩
  have htrans : IsTrans String fun a b => a ≤ b := ⟨fun _ _ _ => String.le_trans⟩
  have hsorted := pairwise_insertionSort (fun a b : String => a ≤ b) ids
  have hperm := perm_insertionSort (fun a b : String => a ≤ b) ids
  unfold sortIds
  cases hids : ids.insertionSort fun a b => a ≤ b with
  | nil =>
    rw [hids] at hperm
    exact absurd (nil_perm.mp hperm) hne
  | cons least rest =>
    rw [hids] at hperm hsorted
    refine ⟨least, hperm.subset mem_cons_self, rfl, fun n hn => ?_⟩
    rcases mem_cons.mp (hperm.symm.subset hn) with rfl | hrest
    · exact String.le_refl _
    · exact rel_of_pairwise_cons hsorted hrest

/-- `_reconstruct_cycle` answers with a closed walk exactly when its walk never ends. -/
theorem reconstructCycle_closed (hremaining : ∀ n, n ∈ remaining ↔ Walk.BehindCycle g.Edge n)
    (hne : remaining ≠ []) : ∃ start, LeastBehind g start ∧
      (Walk.Closed g.Edge (reconstructCycle remaining g.adjacency) ↔ NeverEnds g start) := by
  obtain ⟨start, hmem, hhead, hleast⟩ := head?_sortIds hne
  have hclosed : ∀ a ∈ remaining, ∀ b, (g.adjacency a).head? = some b → b ∈ remaining := by
    intro a ha b hb
    exact (hremaining b).mpr (((hremaining a).mp ha).step (TaskGraph.FirstEdge.edge hb))
  obtain ⟨htrail, hmet⟩ := walkToRepeat_spec (remaining.length + 1)
    (trail_start (fun n => (g.adjacency n).head?) hmem) hclosed (by simp)
  have hsame : ∀ a ∈ remaining,
      ((g.adjacency a).filter fun t => remaining.elem t).head? = (g.adjacency a).head? :=
    fun a ha => by rw [filter_remaining hremaining ha]
  have hcurrent : ∀ c, some start = some c → c ∈ remaining := by
    rintro c ⟨⟩
    exact hmem
  have hwalk := walkToRepeat_congr [] hclosed hsame (remaining.length + 1) hcurrent
  refine ⟨start, ⟨(hremaining start).mp hmem, fun n hn => hleast n ((hremaining n).mpr hn)⟩, ?_⟩
  unfold reconstructCycle
  dsimp only
  rw [hhead, hwalk]
  generalize walkToRepeat _ _ _ _ = walked at htrail hmet
  obtain ⟨path, current⟩ := walked
  cases current with
  | some c =>
    have hc := hmet c rfl
    refine iff_of_true ((htrail.closes hc).mono fun _ _ => TaskGraph.FirstEdge.edge) ?_
    intro n hn hnil
    obtain ⟨b, -, hb⟩ := Walk.exists_next htrail.chain (htrail.reached hc hn)
    rw [hnil] at hb
    cases hb
  | none =>
    obtain ⟨last, hlast, hnone⟩ := htrail.ends rfl
    have hnil : g.adjacency last = [] := List.head?_eq_none_iff.mp hnone
    cases path with
    | nil => cases hlast
    | cons first path =>
      refine iff_of_false (fun hcycle => ?_) fun hnever => ?_
      · obtain ⟨b, hb⟩ := hcycle.exists_next (mem_append_left _ hlast)
        have hmem := mem_adjacency.mpr hb
        rw [hnil] at hmem
        cases hmem
      · have hchain : (first :: path).IsChain g.FirstEdge := by
          have hchain := htrail.chain
          rwa [Option.toList_none, append_nil] at hchain
        obtain rfl : first = start := by
          have hstarts := htrail.starts
          rwa [Option.toList_none, append_nil, List.head?_cons, Option.some_inj] at hstarts
        exact hnever last (hchain.induction (Relation.ReflTransGen g.FirstEdge first) _
          (fun _ _ hxy hx => hx.tail hxy) (fun _ => .refl) last hlast) hnil

theorem acyclic_iff (g : TaskGraph) : Acyclic g ↔ Walk.Acyclic g.Edge := by
  constructor
  · rintro ⟨rank, hrank⟩
    refine Walk.acyclic_of_rank rank ?_
    rintro _ _ ⟨e, he, rfl, rfl⟩
    exact hrank e he
  · intro h
    obtain ⟨-, hforward, -⟩ := (topologicalSort_correct g).2 h
    exact ⟨(topologicalSort g).order.idxOf, hforward⟩

theorem head?_filter_first {ids : List String} {p : String → Bool} (h : ids.filter p ≠ []) :
    ∃ before first after, ids = before ++ first :: after ∧ p first = true ∧
      (∀ n ∈ before, p n = false) ∧ (ids.filter p).head? = some first := by
  induction ids with
  | nil => exact absurd rfl h
  | cons a ids ih =>
    by_cases ha : p a = true
    · refine ⟨[], a, ids, rfl, ha, by simp, ?_⟩
      rw [filter_cons_of_pos ha, List.head?_cons]
    · rw [filter_cons_of_neg ha] at h ⊢
      obtain ⟨before, first, after, rfl, hfirst, hbefore, hhead⟩ := ih h
      refine ⟨a :: before, first, after, rfl, hfirst, ?_, hhead⟩
      rintro n (_ | ⟨_, hn⟩)
      · simpa using ha
      · exact hbefore n hn

/-- Where the walk of `_find_cycle` goes on: a dead end goes on to itself. -/
def stay (g : TaskGraph) (nodeId : String) : Option String :=
  (g.adjacency nodeId).head?.or (some nodeId)

theorem stay_of_ne_nil {a : String} (h : g.adjacency a ≠ []) :
    stay g a = (g.adjacency a).head? := by
  unfold stay
  cases hadjacency : g.adjacency a with
  | nil => exact absurd hadjacency h
  | cons b rest => rfl

theorem stay_of_nil {a : String} (h : g.adjacency a = []) : stay g a = some a := by
  unfold stay
  rw [h]
  rfl

theorem stay_closed (hremaining : ∀ n, n ∈ remaining ↔ Walk.BehindCycle g.Edge n) :
    ∀ a ∈ remaining, ∀ b, stay g a = some b → b ∈ remaining := by
  intro a ha b hb
  by_cases hnil : g.adjacency a = []
  · cases (stay_of_nil hnil).symm.trans hb
    exact ha
  · rw [stay_of_ne_nil hnil] at hb
    exact (hremaining b).mpr (((hremaining a).mp ha).step (TaskGraph.FirstEdge.edge hb))

/-- In a cyclic graph `_find_cycle` walks among the nodes at or behind a cycle. -/
theorem findCycle_of_cyclic (hcyclic : ¬ Walk.Acyclic g.Edge) :
    ∃ (start : String) (remaining : List String),
    FirstBehind g start ∧ (∀ n, n ∈ remaining ↔ Walk.BehindCycle g.Edge n) ∧
    ∀ path c, walkToRepeat (stay g) (remaining.length + 1) [] (some start) = (path, some c) →
      findCycle g = some (path.dropWhile (· ≠ c) ++ [c]) := by
  obtain ⟨visited, hdone, -⟩ := kahnVisit_spec g.nodes.length (visiting_init g) (by simp)
  have hsome : findCycle g ≠ none := fun hnone => hcyclic ((acyclic_iff g).mp
    ((findCycle_none_iff g).mp hnone))
  rw [Ne, findCycle_eq_none] at hsome
  unfold findCycle
  dsimp only
  rw [if_neg hsome]
  generalize (kahnVisit g.adjacency g.nodes.length g.indegree
    (g.nodeIds.filter fun n => g.indegree n = 0)).2 = left at hdone ⊢
  have hleft : ∀ n ∈ g.nodeIds, 0 < left n ↔ Walk.BehindCycle g.Edge n := by
    intro n hn
    rw [← hdone.left_over_iff hn]
    constructor
    · intro hpos hmem
      have hzero := hdone.queued n (mem_append_left _ hmem)
      omega
    · intro hfresh
      have hne : left n ≠ 0 := fun hzero => hfresh (by simpa using hdone.free n hn hzero)
      have hdegree := hdone.indegrees n
      omega
  have hremaining : ∀ n, n ∈ g.nodeIds.filter (fun n => 0 < left n) ↔
      Walk.BehindCycle g.Edge n := by
    intro n
    rw [mem_filter, decide_eq_true_eq]
    exact ⟨fun h => (hleft n h.1).mp h.2, fun h =>
      ⟨behindCycle_known h, (hleft n (behindCycle_known h)).mpr h⟩⟩
  obtain ⟨behind, hbehind⟩ := not_forall_not.mp hcyclic
  obtain ⟨before, start, after, hids, -, hbefore, hhead⟩ := head?_filter_first
    (ne_nil_of_mem ((hremaining behind).mpr ⟨behind, hbehind, .refl⟩))
  have hmem := mem_of_head? hhead
  have hfirst : FirstBehind g start := by
    refine ⟨before, after, hids, (hremaining start).mp hmem, fun n hn hcycle => ?_⟩
    have hpos := (mem_filter.mp ((hremaining n).mpr hcycle)).2
    rw [hbefore n hn] at hpos
    cases hpos
  refine ⟨start, g.nodeIds.filter fun n => 0 < left n, hfirst, hremaining, fun path c hpath => ?_⟩
  have hfilter : ∀ a ∈ g.nodeIds.filter (fun n => 0 < left n),
      (((g.adjacency a).filter fun t => 0 < left t).head?).or (some a) = stay g a := by
    intro a ha
    have hall : (g.adjacency a).filter (fun t => 0 < left t) = g.adjacency a := by
      rw [filter_eq_self]
      intro t ht
      have hedge := mem_adjacency.mp ht
      exact decide_eq_true
        ((hleft t hedge.known.2).mpr (((hremaining a).mp ha).step hedge))
    rw [hall]
    rfl
  rw [hhead, walkToRepeat_congr [] (stay_closed hremaining) hfilter _
    (by rintro c ⟨⟩; exact hmem), hpath]

/-- `_find_cycle` answers with a closed walk exactly when its walk never ends. -/
theorem findCycle_closed (hcyclic : ¬ Walk.Acyclic g.Edge) : ∃ start cycle,
    FirstBehind g start ∧ findCycle g = some cycle ∧ cycle ≠ [] ∧
      (Walk.Closed g.Edge cycle ↔ NeverEnds g start) := by
  obtain ⟨start, remaining, hfirst, hremaining, hfind⟩ := findCycle_of_cyclic hcyclic
  have hmem : start ∈ remaining := by
    obtain ⟨_, _, -, hbehind, -⟩ := hfirst
    exact (hremaining start).mpr hbehind
  obtain ⟨htrail, hmet⟩ := walkToRepeat_spec (remaining.length + 1)
    (trail_start (stay g) hmem) (stay_closed hremaining) (by simp)
  generalize hwalked : walkToRepeat (stay g) (remaining.length + 1) [] (some start) = walked
    at htrail hmet
  obtain ⟨path, current⟩ := walked
  cases current with
  | none =>
    obtain ⟨last, -, hnone⟩ := htrail.ends rfl
    unfold stay at hnone
    simp at hnone
  | some c =>
    have hc := hmet c rfl
    refine ⟨start, _, hfirst, hfind path c hwalked, by simp, fun hcycle n hn hnil => ?_,
      fun hnever => ?_⟩
    · -- the walk comes to the dead end and stays there
      have hstays : Relation.ReflTransGen (fun a b => stay g a = some b) start n := by
        refine Relation.ReflTransGen.mono (fun a b hab => ?_) _ _ hn
        have hne : g.adjacency a ≠ [] := fun hnil => by
          unfold TaskGraph.FirstEdge at hab
          rw [hnil] at hab
          cases hab
        rw [stay_of_ne_nil hne]
        exact hab
      obtain rfl := htrail.repeats hc (htrail.reached hc hstays) (stay_of_nil hnil)
      obtain ⟨b, hb⟩ := hcycle.exists_next (mem_append_right _ mem_cons_self)
      have hmem := mem_adjacency.mpr hb
      rw [hnil] at hmem
      cases hmem
    · have hfirstEdge : ∀ a, Relation.ReflTransGen g.FirstEdge start a → ∀ b,
          stay g a = some b → g.FirstEdge a b := by
        intro a ha b hb
        rwa [stay_of_ne_nil (hnever a ha)] at hb
      have hreach : ∀ a ∈ path ++ [c], Relation.ReflTransGen g.FirstEdge start a := by
        refine htrail.chain.induction _ _ (fun a b hab ha => ha.tail (hfirstEdge a ha b hab)) ?_
        intro hne
        have hstarts := htrail.starts
        rw [List.head?_eq_some_head hne, Option.some_inj] at hstarts
        rw [hstarts]
      obtain ⟨hlength, hchain, hends⟩ := htrail.closes hc
      refine ⟨hlength, hchain.imp_of_mem_imp fun a b ha _ hab => ?_, hends⟩
      refine (hfirstEdge a (hreach a ?_) b hab).edge
      rcases mem_append.mp ha with ha | ha
      · exact mem_append_left _ ((dropWhile_suffix _).subset ha)
      · exact mem_append_right _ ha

/-- A cyclic graph is answered with a closed walk along its edges exactly when the walk that looks
    for one never comes to a dead end. -/
theorem reported_cycles_closed (g : TaskGraph) (hcyclic : ¬ Walk.Acyclic g.Edge) :
    (∃ start cycle, LeastBehind g start ∧ (topologicalSort g).cycle = some cycle ∧
      (Walk.Closed g.Edge cycle ↔ NeverEnds g start)) ∧
    ∃ start cycle, FirstBehind g start ∧
      (∀ (base : TaskGraph) edge, base.addEdge edge = .ok g →
        base.addAcyclicEdge edge = .error (.cycle cycle)) ∧
      (Walk.Closed g.Edge cycle ↔ NeverEnds g start) := by
  constructor
  · have hremaining : ∀ n, n ∈ g.nodeIds.filter (fun n => !(levelQueues g).flatten.elem n) ↔
        Walk.BehindCycle g.Edge n := by
      intro n
      rw [mem_filter]
      constructor
      · rintro ⟨hknown, hleft⟩
        exact (left_over_iff hknown).mp (by simpa using hleft)
      · intro hbehind
        have hknown := behindCycle_known hbehind
        exact ⟨hknown, by simpa using (left_over_iff hknown).mpr hbehind⟩
    obtain ⟨behind, hbehind⟩ := not_forall_not.mp hcyclic
    have hne := ne_nil_of_mem ((hremaining behind).mpr ⟨behind, hbehind, .refl⟩)
    obtain ⟨start, hstart, hclosed⟩ := reconstructCycle_closed hremaining hne
    refine ⟨start, _, hstart, ?_, hclosed⟩
    unfold topologicalSort
    dsimp only
    exact congrArg DagResult.cycle (if_neg hne)
  · obtain ⟨start, cycle, hstart, hfind, -, hclosed⟩ := findCycle_closed hcyclic
    refine ⟨start, cycle, hstart, fun base edge hadd => ?_, hclosed⟩
    unfold TaskGraph.addAcyclicEdge
    rw [hadd, Except.ok_bind, hfind]

/-! ### A dead end -/

/-- Two nodes that are to wait for each other, and a third behind them. -/
def deadEndBase : TaskGraph where
  nodes := [plainNode "a" (by decide), plainNode "b" (by decide), plainNode "c" (by decide)]
  edges := [{ fromId := "b", toId := "a" }, { fromId := "b", toId := "c" }]
  nodesUnique := by decide
  edgesUnique := by decide
  endpoints := by decide

def deadEndGraph : TaskGraph where
  nodes := deadEndBase.nodes
  edges := deadEndBase.edges ++ [{ fromId := "c", toId := "b" }]
  nodesUnique := by decide
  edgesUnique := by decide
  endpoints := by decide

theorem deadEnd_cyclic : ¬ Walk.Acyclic deadEndGraph.Edge := by
  intro h
  have hbc : deadEndGraph.Edge "b" "c" := by
    unfold TaskGraph.Edge
    decide
  have hcb : deadEndGraph.Edge "c" "b" := by
    unfold TaskGraph.Edge
    decide
  exact h "b" (Relation.TransGen.tail (.single hbc) hcb)

theorem deadEnd_not_closed : ¬ Walk.Closed deadEndGraph.Edge ["a", "a"] := by
  rintro ⟨-, hchain, -⟩
  have hself := (isChain_cons_cons.mp hchain).1
  revert hself
  unfold TaskGraph.Edge
  decide

theorem reported_cycles_closed_dead_end :
    ∃ start, LeastBehind deadEndGraph start ∧ ¬ NeverEnds deadEndGraph start := by
  obtain ⟨⟨start, cycle, hstart, hcycle, hclosed⟩, -⟩ :=
    reported_cycles_closed deadEndGraph deadEnd_cyclic
  have hsame : (topologicalSort deadEndGraph).cycle = some ["a", "a"] := by decide +kernel
  cases hcycle.symm.trans hsame
  exact ⟨start, hstart, fun hnever => deadEnd_not_closed (hclosed.mpr hnever)⟩

theorem deadEndBase_addEdge :
    deadEndBase.addEdge { fromId := "c", toId := "b" } = .ok deadEndGraph := by
  unfold TaskGraph.addEdge
  rw [dif_neg (by decide), dif_neg (by decide), dif_neg (by decide), dif_neg (by decide)]
  rfl

theorem deadEndBase_addAcyclicEdge :
    deadEndBase.addAcyclicEdge { fromId := "c", toId := "b" } = .error (.cycle ["a", "a"]) := by
  have hfind : findCycle deadEndGraph = some ["a", "a"] := by decide +kernel
  unfold TaskGraph.addAcyclicEdge
  rw [deadEndBase_addEdge, Except.ok_bind, hfind]

/-- The third node is reported as a cycle of its own, both by the sort and by the builder. -/
theorem dead_end_reported_as_cycle :
    ¬ Walk.Acyclic deadEndGraph.Edge ∧
    (topologicalSort deadEndGraph).cycle = some ["a", "a"] ∧
    deadEndBase.addEdge { fromId := "c", toId := "b" } = .ok deadEndGraph ∧
    deadEndBase.addAcyclicEdge { fromId := "c", toId := "b" } = .error (.cycle ["a", "a"]) ∧
    ¬ Walk.Closed deadEndGraph.Edge ["a", "a"] :=
  ⟨deadEnd_cyclic, by decide +kernel, deadEndBase_addEdge, deadEndBase_addAcyclicEdge,
    deadEnd_not_closed⟩

end AConductor.Graph

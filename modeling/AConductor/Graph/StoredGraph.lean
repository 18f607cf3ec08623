import AConductor.Graph.Acyclic
import AConductor.Graph.InsertionOrder
import AConductor.Graph.NodeCodec
import AConductor.Graph.PreparationRun
import Mathlib.Data.String.Basic

/-!
# Stored graphs

What the builder makes is loaded as it was saved: the same nodes with all their fields, the same
edges, both in the order of the tables. The canonical text sorts the nodes and edges too, so its
digest does not depend on the order in which a graph was put together. The rows of texts are
those of `Graph.Store`, with each node's fields printed. Over a run of calls the store is a map
from ids to graphs.
-/

namespace AConductor.Graph

open Txn List

theorem value_injective : Function.Injective DependencyType.value := by
  intro a b h
  cases a <;> cases b <;> first | rfl | exact absurd h (by decide)

/-- The columns of an edge, in the order of their comparison. -/
def edgeColumns (e : TaskEdge) : String ×ₗ String ×ₗ String :=
  toLex (e.fromId, toLex (e.toId, e.depType.value))

theorem edgeBefore_iff {a b : TaskEdge} : EdgeBefore a b ↔ edgeColumns a ≤ edgeColumns b := by
  unfold EdgeBefore edgeColumns
  rw [Prod.Lex.toLex_le_toLex, Prod.Lex.toLex_le_toLex]

instance : Std.Total EdgeBefore where
  total a b := by
    rw [edgeBefore_iff, edgeBefore_iff]
    exact le_total _ _

instance : IsTrans TaskEdge EdgeBefore where
  trans a b c hab hbc := by
    rw [edgeBefore_iff] at hab hbc ⊢
    exact hab.trans hbc

theorem edgeBefore_antisymm {a b : TaskEdge} (hab : EdgeBefore a b) (hba : EdgeBefore b a) :
    a = b := by
  rw [edgeBefore_iff] at hab hba
  have hcolumns : edgeColumns a = edgeColumns b := le_antisymm hab hba
  obtain ⟨aFrom, aTo, aType⟩ := a
  obtain ⟨bFrom, bTo, bType⟩ := b
  have hpair := toLex.injective hcolumns
  rw [Prod.mk.injEq] at hpair
  obtain ⟨hfrom, hrest⟩ := hpair
  have hpair := toLex.injective hrest
  rw [Prod.mk.injEq] at hpair
  obtain ⟨hto, htype⟩ := hpair
  dsimp only at hfrom hto htype
  rw [hfrom, hto, value_injective htype]

theorem sortedEdges_perm {l l' : List TaskEdge} (h : l.Perm l') :
    l.insertionSort EdgeBefore = l'.insertionSort EdgeBefore := by
  refine List.Perm.eq_of_pairwise (fun a b _ _ => edgeBefore_antisymm)
    (pairwise_insertionSort _ l) (pairwise_insertionSort _ l') ?_
  exact ((perm_insertionSort _ l).trans h).trans (perm_insertionSort _ l').symm

variable {g g' : TaskGraph} {graphId : String} {maxDigits : Option Nat}

/-- The canonical form does not depend on the order of insertion. -/
theorem SameGraph.canonicalGraph_eq (h : SameGraph g g') :
    canonicalGraph g = canonicalGraph g' := by
  have hids : ((g.nodes.map TaskNode.toTaskNodeFields).map fun n => n.id).Nodup := by
    rw [map_map]
    exact g.nodesUnique
  unfold canonicalGraph
  rw [insertionSort_eq_of_perm (h.nodes.map _) hids, sortedEdges_perm h.edges]

theorem SameGraph.definitionSha256_eq (h : SameGraph g g') (maxDigits : Option Nat)
    (sha256 : PyStr → String) :
    canonicalGraphDefinitionSha256 maxDigits sha256 g =
      canonicalGraphDefinitionSha256 maxDigits sha256 g' := by
  unfold canonicalGraphDefinitionSha256
  rw [h.canonicalGraph_eq]

def TaskNode.row (graphId : String) (node : TaskNode) : NodeText :=
  ⟨graphId, node.id, node.jsonText⟩

theorem stored_eq {node : TaskNode} : TaskNode.stored maxDigits graphId node =
      if node.printable maxDigits then .ok (node.row graphId) else .error .definitionInvalid := by
  unfold TaskNode.stored dataclassToJson
  split <;> rfl

theorem mapM_stored (maxDigits : Option Nat) (graphId : String) (nodes : List TaskNode) :
    nodes.mapM (TaskNode.stored maxDigits graphId) =
      if nodes.all fun n => n.printable maxDigits then .ok (nodes.map (TaskNode.row graphId))
      else .error .definitionInvalid := by
  induction nodes with
  | nil => rfl
  | cons node nodes ih =>
    rw [List.mapM_cons, stored_eq, ih, all_cons]
    cases node.printable maxDigits with
    | true => cases nodes.all fun n => n.printable maxDigits <;> rfl
    | false => rfl

theorem saveTables_eq (maxDigits : Option Nat) (g : TaskGraph) (graphId : String)
    (t : GraphTables) : saveTables maxDigits g graphId t =
      if g.nodes.all fun n => n.printable maxDigits then
        .ok
          { nodes := t.nodes.filter (fun r => r.graphId ≠ graphId) ++
              g.nodes.map (TaskNode.row graphId)
            edges := t.edges.filter (fun r => r.graphId ≠ graphId) ++
              g.edges.map (TaskEdge.stored graphId) }
      else .error .definitionInvalid := by
  unfold saveTables
  rw [mapM_stored]
  split <;> rfl

/-- Behind the rows of other graphs, the rows of one graph are all that a query for it finds. -/
theorem filter_saved {α β : Type} (graphOf : α → String) (row : β → α)
    (hrow : ∀ b, graphOf (row b) = graphId) (rows : List α) (l : List β) :
    (rows.filter (fun r => graphOf r ≠ graphId) ++ l.map row).filter
      (fun r => graphOf r = graphId) = l.map row := by
  rw [filter_append, filter_filter]
  have hothers : rows.filter (fun r => decide (graphOf r = graphId) &&
      decide (graphOf r ≠ graphId)) = [] := by
    rw [filter_eq_nil_iff]
    intro r _
    by_cases h : graphOf r = graphId <;> simp [h]
  rw [hothers, nil_append, filter_eq_self]
  intro r hr
  obtain ⟨b, -, rfl⟩ := mem_map.mp hr
  exact decide_eq_true (hrow b)

theorem sorted_nodeRows (graphId : String) (nodes : List TaskNode) :
    (nodes.map (TaskNode.row graphId)).insertionSort (fun a b => a.nodeId ≤ b.nodeId) =
      (nodes.insertionSort fun a b => a.id ≤ b.id).map (TaskNode.row graphId) :=
  (map_insertionSort (fun a b : TaskNode => a.id ≤ b.id)
    (fun a b : NodeText => a.nodeId ≤ b.nodeId) (TaskNode.row graphId) nodes
    fun _ _ _ _ => Iff.rfl).symm

theorem sorted_edgeRows (graphId : String) (edges : List TaskEdge) :
    (edges.map (TaskEdge.stored graphId)).insertionSort EdgeTextBefore =
      (edges.insertionSort EdgeBefore).map (TaskEdge.stored graphId) :=
  (map_insertionSort EdgeBefore EdgeTextBefore (TaskEdge.stored graphId) edges
    fun _ _ _ _ => Iff.rfl).symm

theorem ofValue_depType (d : DependencyType) : DependencyType.ofValue d.value = some d := by
  cases d <;> rfl

theorem addNodeRow_row {node : TaskNode} (h : node.printable maxDigits = true) (g : TaskGraph) :
    addNodeRow maxDigits g (node.row graphId) =
      (g.addNode node).mapError fun _ => .definitionInvalid := by
  unfold addNodeRow TaskNode.row
  rw [jsonToNode_jsonText h, TaskNode.make_toTaskNodeFields]
  rfl

theorem addEdgeRow_stored (graphId : String) (edge : TaskEdge) (g : TaskGraph) :
    addEdgeRow g (edge.stored graphId) =
      (g.addAcyclicEdge edge).mapError fun _ => .definitionInvalid := by
  unfold addEdgeRow TaskEdge.stored
  rw [ofValue_depType]

/-- A loop over rows ends where the loop over what they stand for ends. -/
theorem foldlM_rows {α β : Type} {row : α → β} {add : TaskGraph → α → Except GraphFault TaskGraph}
    {addRow : TaskGraph → β → Except CodecFault TaskGraph} {l : List α}
    (hrow : ∀ a ∈ l, ∀ g, addRow g (row a) = (add g a).mapError fun _ => .definitionInvalid) :
    (l.map row).foldlM addRow g = .ok g' ↔ l.foldlM add g = .ok g' := by
  induction l generalizing g with
  | nil => simp [pure, Except.pure]
  | cons a l ih =>
    rw [List.map_cons, List.foldlM_cons, List.foldlM_cons, hrow a List.mem_cons_self,
      Except.bind_eq_ok, Except.bind_eq_ok]
    simp only [Except.mapError_eq_ok]
    constructor
    · rintro ⟨next, hadd, hrest⟩
      exact ⟨next, hadd, (ih fun b hb => hrow b (mem_cons_of_mem _ hb)).mp hrest⟩
    · rintro ⟨next, hadd, hrest⟩
      exact ⟨next, hadd, (ih fun b hb => hrow b (mem_cons_of_mem _ hb)).mpr hrest⟩

/-- What was saved is loaded, with nodes and edges in the order of the tables. -/
theorem loadTables_saved (hacyclic : Acyclic g)
    (hprintable : ∀ n ∈ g.nodes, n.printable maxDigits = true) {t t' : GraphTables}
    (hsave : saveTables maxDigits g graphId t = .ok t') :
    ∃ g', loadTables maxDigits t' graphId = .ok g' ∧
      g'.nodes = (g.nodes.insertionSort fun a b => a.id ≤ b.id) ∧
      g'.edges = g.edges.insertionSort EdgeBefore := by
  rw [saveTables_eq, if_pos (all_eq_true.mpr hprintable)] at hsave
  cases hsave
  obtain ⟨g', hbuilt, hnodes, hedges⟩ := buildGraph_perm hacyclic
    (perm_insertionSort (fun a b => a.id ≤ b.id) g.nodes)
    (perm_insertionSort EdgeBefore g.edges)
  obtain ⟨bare, hbare, hfull⟩ := Except.bind_eq_ok.mp hbuilt
  refine ⟨g', ?_, hnodes, hedges⟩
  unfold loadTables
  dsimp only
  rw [filter_saved NodeText.graphId (TaskNode.row graphId) (fun _ => rfl),
    filter_saved EdgeText.graphId (TaskEdge.stored graphId) (fun _ => rfl),
    sorted_nodeRows, sorted_edgeRows]
  refine Except.bind_eq_ok.mpr ⟨bare, (foldlM_rows ?_).mpr hbare, (foldlM_rows ?_).mpr hfull⟩
  · intro n hn
    rw [mem_insertionSort] at hn
    exact addNodeRow_row (hprintable n hn)
  · intro e _
    exact addEdgeRow_stored graphId e

/-- A graph of the builder is loaded as it was saved, with the same digest, which does not depend
    on the order of insertion; it is saved unless an integer of a node has more digits than the
    runtime prints. -/
theorem graph_round_trip (maxDigits : Option Nat) (sha256 : PyStr → String) {g : TaskGraph}
    (hg : Built g) (graphId : String) (t : GraphTables) :
    ((∃ n ∈ g.nodes, n.printable maxDigits = false) ∧
        saveTables maxDigits g graphId t = .error .definitionInvalid ∨
      ∃ t' g', saveTables maxDigits g graphId t = .ok t' ∧
        loadTables maxDigits t' graphId = .ok g' ∧ SameGraph g' g ∧
        canonicalGraphDefinitionSha256 maxDigits sha256 g' =
          canonicalGraphDefinitionSha256 maxDigits sha256 g) ∧
    ∀ g₂, Built g₂ → SameGraph g g₂ →
      canonicalGraphDefinitionSha256 maxDigits sha256 g =
        canonicalGraphDefinitionSha256 maxDigits sha256 g₂ := by
  constructor
  · by_cases hprintable : (g.nodes.all fun n => n.printable maxDigits) = true
    · have hsave := saveTables_eq maxDigits g graphId t
      rw [if_pos hprintable] at hsave
      obtain ⟨g', hload, hnodes, hedges⟩ :=
        loadTables_saved hg.acyclic (all_eq_true.mp hprintable) hsave
      have hsame : SameGraph g' g := by
        refine ⟨?_, ?_⟩
        · rw [hnodes]
          exact perm_insertionSort _ _
        · rw [hedges]
          exact perm_insertionSort _ _
      exact .inr ⟨_, g', hsave, hload, hsame, hsame.definitionSha256_eq maxDigits sha256⟩
    · refine .inl ⟨?_, ?_⟩
      · simpa using hprintable
      · rw [saveTables_eq, if_neg hprintable]
  · exact fun g₂ _ hsame => hsame.definitionSha256_eq maxDigits sha256

theorem forkGraph_built : Built forkGraph := by
  rw [built_iff_acyclic]
  exact ⟨fun n => if n = "root" then 0 else 1, by decide⟩

theorem loadedFork_built : Built loadedFork := by
  rw [built_iff_acyclic]
  exact ⟨fun n => if n = "root" then 0 else 1, by decide⟩

theorem graph_round_trip_fork :
    (∃ t' g', saveTables none forkGraph "fork" ⟨[], []⟩ = .ok t' ∧
      loadTables none t' "fork" = .ok g' ∧ SameGraph g' forkGraph) ∧
    canonicalGraphDefinitionSha256 none (fun _ => "digest") forkGraph =
      canonicalGraphDefinitionSha256 none (fun _ => "digest") loadedFork := by
  obtain ⟨hsaved, hsame⟩ :=
    graph_round_trip none (fun _ => "digest") forkGraph_built "fork" ⟨[], []⟩
  refine ⟨?_, hsame loadedFork loadedFork_built forkGraph_same⟩
  rcases hsaved with ⟨⟨n, -, hn⟩, -⟩ | ⟨t', g', hsave, hload, hg', -⟩
  · unfold TaskNodeFields.printable at hn
    cases htimeout : n.timeoutSeconds <;> rw [htimeout] at hn <;> cases hn
  · exact ⟨t', g', hsave, hload, hg'⟩

/-- One node, with a priority of 4301 digits. -/
def longGraph : TaskGraph where
  nodes := [{ id := "a", objective := "read", priority := ((10 ^ 4300 : Nat) : Int)
              checked := by decide +kernel }]
  edges := []
  nodesUnique := by decide
  edgesUnique := by decide
  endpoints := by decide

/-- The runtime's limit on the digits of an integer keeps a graph of the builder from being saved. -/
theorem long_priority_not_saved :
    ¬ ∀ g : TaskGraph, Built g → ∀ graphId t, ∃ t', saveTables (some 4300) g graphId t = .ok t' := by
  intro h
  have hbuilt : Built longGraph := built_iff_acyclic.mpr ⟨fun _ => 0, by decide⟩
  obtain ⟨t', hsaved⟩ := h longGraph hbuilt "g" ⟨[], []⟩
  have hunprintable : (longGraph.nodes.all fun n => n.printable (some 4300)) = false := by
    unfold longGraph TaskNodeFields.printable Json.printable
    rw [List.all_cons, Int.natAbs_natCast, Option.all_some,
      decide_eq_false (Json.long_digits_pow (by decide))]
    rfl
  rw [saveTables_eq, hunprintable, if_neg Bool.false_ne_true] at hsaved
  cases hsaved

section Typed

variable {D P : Type}

def NodeRow.text (r : NodeRow) : NodeText := ⟨r.graphId, r.nodeId, r.data.jsonText⟩

/-- The texts of the rows of `GraphStore`. -/
def GraphStore.tables (s : GraphStore D P) : GraphTables where
  nodes := s.nodes.map NodeRow.text
  edges := s.edges.map fun r => r.edge.stored r.graphId

theorem printable_none (node : TaskNodeFields) : node.printable none = true := by
  unfold TaskNodeFields.printable
  cases node.timeoutSeconds <;> rfl

/-- Saving the texts is saving the fields. -/
theorem saveTables_tables (g : TaskGraph) (graphId : String) (s : GraphStore D P) :
    saveTables none g graphId s.tables = .ok (saveGraph g graphId s).tables := by
  rw [saveTables_eq, if_pos (all_eq_true.mpr fun n _ => printable_none _)]
  unfold saveGraph GraphStore.tables
  simp only [map_append, filter_map, map_map]
  rfl

theorem addNodeRow_foldlM {rows : List NodeRow} :
    (rows.map NodeRow.text).foldlM (addNodeRow none) g = .ok g' ↔
      ∃ nodes, rows.mapM (fun r => TaskNode.make r.data) = .ok nodes ∧
        nodes.foldlM TaskGraph.addNode g = .ok g' := by
  induction rows generalizing g with
  | nil => simp [pure, Except.pure]
  | cons r rows ih =>
    simp only [List.map_cons, List.foldlM_cons, List.mapM_cons, Except.bind_eq_ok, addNodeRow,
      NodeRow.text, jsonToNode_jsonText (printable_none _), Except.mapError_eq_ok, ih]
    constructor
    · rintro ⟨next, ⟨node, hnode, hadd⟩, nodes, hnodes, hrest⟩
      refine ⟨node :: nodes, ⟨node, hnode, nodes, hnodes, rfl⟩, ?_⟩
      rw [List.foldlM_cons]
      exact Except.bind_eq_ok.mpr ⟨next, hadd, hrest⟩
    · rintro ⟨_, ⟨node, hnode, nodes, hnodes, hcons⟩, hfold⟩
      cases hcons
      rw [List.foldlM_cons] at hfold
      obtain ⟨next, hadd, hrest⟩ := Except.bind_eq_ok.mp hfold
      exact ⟨next, ⟨node, hnode, hadd⟩, nodes, hnodes, hrest⟩

/-- Loading the texts is loading the fields. -/
theorem loadTables_tables (s : GraphStore D P) (graphId : String) (g : TaskGraph) :
    loadTables none s.tables graphId = .ok g ↔ loadGraph s graphId = .ok g := by
  have hnodes : ((s.tables.nodes.filter fun r => r.graphId = graphId).insertionSort
      fun a b => a.nodeId ≤ b.nodeId) =
      ((s.nodes.filter fun r => r.graphId = graphId).insertionSort
        fun a b => a.nodeId ≤ b.nodeId).map NodeRow.text := by
    unfold GraphStore.tables
    rw [filter_map]
    exact (map_insertionSort (fun a b : NodeRow => a.nodeId ≤ b.nodeId)
      (fun a b : NodeText => a.nodeId ≤ b.nodeId) NodeRow.text _ fun _ _ _ _ => Iff.rfl).symm
  have hedges : (s.tables.edges.filter fun r => r.graphId = graphId).insertionSort
      EdgeTextBefore = (((s.edges.filter fun r => r.graphId = graphId).map
        fun r => r.edge).insertionSort EdgeBefore).map (TaskEdge.stored graphId) := by
    unfold GraphStore.tables
    rw [filter_map, ← sorted_edgeRows, map_map]
    congr 1
    refine map_congr_left fun r hr => ?_
    have hgraph : r.graphId = graphId := by simpa [TaskEdge.stored] using (mem_filter.mp hr).2
    rw [hgraph]
    rfl
  unfold loadTables loadGraph buildGraph
  dsimp only
  rw [hnodes, hedges, Except.mapError_eq_ok]
  simp only [Except.bind_eq_ok, addNodeRow_foldlM, foldlM_rows (fun e _ => addEdgeRow_stored graphId e)]
  constructor
  · rintro ⟨bare, ⟨nodes, hread, hbare⟩, hfull⟩
    exact ⟨nodes, hread, bare, hbare, hfull⟩
  · rintro ⟨nodes, hread, bare, hbare, hfull⟩
    exact ⟨bare, ⟨nodes, hread, hbare⟩, hfull⟩

/-- What a call does to the graph of each id. -/
def savedStep (saved : String → TaskGraph) : GraphCall → String → TaskGraph
  | .saveGraph graph graphId => Function.update saved graphId graph
  | .deleteGraph graphId => Function.update saved graphId .empty
  | .prepareRun _ => saved

/-- The graph of each id after the calls. -/
def savedAfter (calls : List GraphCall) : String → TaskGraph :=
  calls.foldl savedStep fun _ => .empty

/-- The rows of one id. -/
def rowsOf (s : GraphStore D P) (graphId : String) : List NodeRow × List EdgeRow :=
  (s.nodes.filter fun r => r.graphId = graphId, s.edges.filter fun r => r.graphId = graphId)

/-- The store that holds one graph. -/
def only (g : TaskGraph) (graphId : String) : GraphStore D P := saveGraph g graphId .empty

/-- Each id has the rows that its graph is saved as. -/
def Holds (s : GraphStore D P) (saved : String → TaskGraph) : Prop :=
  ∀ graphId, rowsOf s graphId = rowsOf (only (saved graphId) graphId : GraphStore D P) graphId

variable {s : GraphStore D P} {saved : String → TaskGraph}

theorem rowsOf_saveGraph_of_ne (g : TaskGraph) {graphId other : String} (h : other ≠ graphId) :
    rowsOf (saveGraph g graphId s) other = rowsOf s other := by
  have hrow (i : String) : (decide (i = other) && !decide (i = graphId)) = decide (i = other) := by
    by_cases hi : i = other <;> simp [hi, h]
  simp [rowsOf, saveGraph, filter_append, filter_filter, filter_map,
    Function.comp_def, hrow, h.symm]

theorem Holds.saveGraph (h : Holds s saved) (g : TaskGraph) (graphId : String) :
    Holds (saveGraph g graphId s) (Function.update saved graphId g) := by
  intro other
  by_cases hother : other = graphId
  · subst hother
    rw [Function.update_self]
    simp [rowsOf, only, Graph.saveGraph, GraphStore.empty, filter_append, filter_filter]
  · rw [Function.update_of_ne hother, rowsOf_saveGraph_of_ne g hother, h]

/-- The rows of an id decide what is loaded. -/
theorem Holds.load (h : Holds s saved) {graphId : String} (hacyclic : Acyclic (saved graphId)) :
    ∃ g, loadGraph s graphId = .ok g ∧ SameGraph g (saved graphId) := by
  obtain ⟨g, hload, hnodes, hedges⟩ := loadTables_saved hacyclic (fun n _ => printable_none _)
    (saveTables_tables _ graphId (.empty : GraphStore D P))
  rw [loadTables_tables] at hload
  obtain ⟨hnodeRows, hedgeRows⟩ := Prod.ext_iff.mp (h graphId)
  refine ⟨g, ?_, ?_, ?_⟩
  · rw [← hload]
    unfold loadGraph
    dsimp only [rowsOf, only] at hnodeRows hedgeRows
    rw [hnodeRows, hedgeRows]
  · rw [hnodes]
    exact perm_insertionSort _ _
  · rw [hedges]
    exact perm_insertionSort _ _

variable [DecidableEq D] [DecidableEq P] (hash : GraphHash D P)

/-- To prepare a run writes no row of a graph. -/
theorem rowsOf_prepareRun (c : PrepareCall) (s : GraphStore D P) (graphId : String) :
    rowsOf (prepareRun hash c s).2 graphId = rowsOf s graphId := by
  have hbindings (runId boundAt : String) (bound : List GraphRunBindingSpec)
      (s : GraphStore D P) : wp (insertBindings runId boundAt bound)
        (fun _ s' => rowsOf s' graphId = rowsOf s graphId) (fun _ _ => True) s := by
    induction bound generalizing s with
    | nil => rfl
    | cons b rest ih =>
      unfold insertBindings insertBinding
      simp only [wp_bind, wp_query, wp_require, wp_update, implies_true, and_true]
      exact fun _ => ih _
  have hbody (validated : List GraphRunBindingSpec) : wp (prepareBody hash c validated)
      (fun _ s' => rowsOf s' graphId = rowsOf s graphId) (fun _ _ => True) s := by
    unfold prepareBody createRun insertRun
    simp only [wp_bind, wp_query, id_eq]
    apply wp_ofExcept_of_ok
    intro preparation _
    cases s.runs.find? fun r => r.preparationRef = some c.preparationRef with
    | some raw => exact wp_ofExcept_of_ok fun _ _ => rfl
    | none =>
      simp only [wp_bind, wp_query, wp_require, wp_update, implies_true, and_true]
      intro _
      refine wp_mono (hbindings ..) ?_ (fun _ _ _ => trivial)
      intro _ s' h
      dsimp only [id_eq]
      split
      · trivial
      · exact wp_ofExcept_of_ok fun _ _ => h
  rcases prepareRun_spec hash c s (fun _ _ => trivial) (fun validated _ => hbody validated) with
    ⟨run, s', heq, h⟩ | ⟨e, heq, -⟩
  · rw [heq]
    exact h
  · rw [heq]

theorem storeAfter_holds (calls : List GraphCall) :
    Holds (storeAfter hash calls) (savedAfter calls) := by
  induction calls using List.reverseRecOn with
  | nil => exact fun _ => rfl
  | append_singleton calls call ih =>
    unfold savedAfter
    rw [storeAfter_snoc, foldl_append]
    cases call with
    | saveGraph g graphId => exact ih.saveGraph g graphId
    | deleteGraph graphId =>
      have hsame : deleteGraph graphId (storeAfter hash calls) =
          saveGraph .empty graphId (storeAfter hash calls) := by
        simp [deleteGraph, saveGraph, TaskGraph.empty]
      show Holds (deleteGraph graphId (storeAfter hash calls)) _
      rw [hsame]
      exact ih.saveGraph .empty graphId
    | prepareRun c => exact fun graphId => (rowsOf_prepareRun hash c _ graphId).trans (ih graphId)

/-- After every run of calls, what is loaded under an id, from fields or from their texts, is the
    graph saved there last, when that has no cycle. -/
theorem store_keeps_graphs (calls : List GraphCall) (graphId : String)
    (hacyclic : Acyclic (savedAfter calls graphId)) :
    ∃ g, loadGraph (storeAfter hash calls) graphId = .ok g ∧
      loadTables none (storeAfter hash calls).tables graphId = .ok g ∧
      SameGraph g (savedAfter calls graphId) := by
  obtain ⟨g, hload, hsame⟩ := (storeAfter_holds hash calls).load hacyclic
  exact ⟨g, hload, (loadTables_tables _ _ _).mpr hload, hsame⟩

theorem store_keeps_graphs_fork :
    ∃ g, loadGraph (storeAfter (⟨fun _ => "d", fun _ => "p"⟩ : GraphHash String String)
        [.saveGraph forkGraph "fork", .deleteGraph "other"]) "fork" = .ok g ∧
      SameGraph g forkGraph :=
  (store_keeps_graphs _ [.saveGraph forkGraph "fork", .deleteGraph "other"] "fork"
    forkGraph_built.acyclic).imp fun _ h => ⟨h.1, h.2.2⟩

end Typed

end AConductor.Graph

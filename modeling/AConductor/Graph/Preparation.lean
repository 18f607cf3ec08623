import AConductor.Graph.Store
import AConductor.Lib.Machine

namespace AConductor.Graph

open Txn List Except

variable {D P : Type}

/-- Lists of the same rows, no two of one key, are the same when sorted by the key. -/
theorem insertionSort_eq_of_perm {α : Type} {key : α → String} {l l' : List α} (h : l.Perm l')
    (hkey : (l.map key).Nodup) :
    l.insertionSort (fun a b => key a ≤ key b) = l'.insertionSort fun a b => key a ≤ key b := by
  have total : Std.Total fun a b : α => key a ≤ key b := ⟨fun a b => String.le_total _ _⟩
  have trans : IsTrans α fun a b : α => key a ≤ key b := ⟨fun a b c => String.le_trans⟩
  have hperm := ((perm_insertionSort (fun a b => key a ≤ key b) l).trans h).trans
    (perm_insertionSort (fun a b => key a ≤ key b) l').symm
  refine List.Perm.eq_of_pairwise ?_ (pairwise_insertionSort _ l)
    (pairwise_insertionSort _ l') hperm
  intro a b ha hb hab hba
  rw [mem_insertionSort] at ha hb
  exact inj_on_of_nodup_map hkey ha (h.mem_iff.mpr hb) (String.le_antisymm hab hba)

def definitionOf (s : GraphStore D P) (graphId : String) : Except GraphStoreFault CanonicalGraph :=
  (loadGraph s graphId).map canonicalGraph

/-- The payload of the preparation, with everything checked. -/
def intended (hash : GraphHash D P) (c : PrepareCall) (s : GraphStore D P) :
    Except GraphStoreFault (Preparation D) :=
  c.validated >>= fun validated => preparationOf hash c validated s

/-- Two calls in two states mean the same preparation. -/
structure SameIntent (again call : PrepareCall) (s s₀ : GraphStore D P) : Prop where
  graphId : again.graphId = call.graphId
  projectId : again.projectId = call.projectId
  bindings : again.bindings.Perm call.bindings
  definition : definitionOf s call.graphId = definitionOf s₀ call.graphId

variable {validated : List GraphRunBindingSpec} {c again call : PrepareCall} {g g' : TaskGraph}
  {preparation : Preparation D} {s : GraphStore D P}

theorem validated_ok (h : c.validated = .ok validated) :
    validated = c.bindings.insertionSort (fun a b => a.nodeId ≤ b.nodeId) ∧
      (c.bindings.map fun b => b.nodeId).Nodup := by
  unfold PrepareCall.validated at h
  iterate 4 obtain ⟨_, -, h⟩ := bind_eq_ok.mp h
  split at h
  · rename_i hnodup
    cases h
    exact ⟨rfl, hnodup⟩
  · cases h

theorem validated_congr
    (h : call.validated = .ok validated) (hgraph : again.graphId = call.graphId)
    (hproject : again.projectId = call.projectId)
    (href : again.preparationRef = call.preparationRef)
    (hperm : again.bindings.Perm call.bindings) : again.validated = .ok validated := by
  obtain ⟨hsorted, hnodup⟩ := validated_ok h
  unfold PrepareCall.validated at h ⊢
  rw [hgraph, hproject, href]
  obtain ⟨_, h₁, h⟩ := bind_eq_ok.mp h
  obtain ⟨_, h₂, h⟩ := bind_eq_ok.mp h
  obtain ⟨_, h₃, h⟩ := bind_eq_ok.mp h
  obtain ⟨_, h₄, -⟩ := bind_eq_ok.mp h
  have hbindings : again.bindings.forM validateBinding = .ok () := by
    rw [forM_eq_ok]
    intro b hb
    exact forM_eq_ok.mp h₄ b (hperm.mem_iff.mp hb)
  have hnodup' : (again.bindings.map fun b => b.nodeId).Nodup :=
    (hperm.map _).nodup_iff.mpr hnodup
  rw [h₁, h₂, h₃, hbindings, hsorted, ← insertionSort_eq_of_perm hperm hnodup']
  exact if_pos hnodup'

theorem mem_canonicalGraph {fields : TaskNodeFields} :
    fields ∈ (canonicalGraph g).nodes ↔ ∃ n ∈ g.nodes, n.toTaskNodeFields = fields := by
  unfold canonicalGraph
  rw [mem_insertionSort, mem_map]

theorem mem_nodes_of_canonicalGraph (h : canonicalGraph g = canonicalGraph g') {n : TaskNode}
    (hn : n ∈ g.nodes) : n ∈ g'.nodes := by
  have hmem : n.toTaskNodeFields ∈ (canonicalGraph g').nodes := by
    rw [← h, mem_canonicalGraph]
    exact ⟨n, hn, rfl⟩
  obtain ⟨m, hm, hfields⟩ := mem_canonicalGraph.mp hmem
  rwa [← TaskNode.ext_fields hfields]

/-- The canonical form decides what a node id stands for. -/
theorem node?_of_canonicalGraph (h : canonicalGraph g = canonicalGraph g') (nodeId : String) :
    g.node? nodeId = g'.node? nodeId := by
  have onto : ∀ {g g' : TaskGraph}, canonicalGraph g = canonicalGraph g' → ∀ n,
      g.node? nodeId = some n → g'.node? nodeId = some n := by
    intro g g' h n hn
    have hid : n.id = nodeId := by simpa using List.find?_some hn
    rw [← hid]
    exact g'.node?_of_mem (mem_nodes_of_canonicalGraph h (mem_of_find?_eq_some hn))
  cases hn : g.node? nodeId with
  | some n => exact (onto h n hn).symm
  | none =>
    cases hm : g'.node? nodeId with
    | none => rfl
    | some m =>
      rw [onto h.symm m hm] at hn
      cases hn

theorem nodes_eq_nil_of_canonicalGraph (h : canonicalGraph g = canonicalGraph g')
    (hnil : g.nodes = []) : g'.nodes = [] := by
  rw [eq_nil_iff_forall_not_mem]
  intro n hn
  have hmem := mem_nodes_of_canonicalGraph h.symm hn
  rw [hnil] at hmem
  cases hmem

variable {hash : GraphHash D P}

theorem preparationOf_ok (h : preparationOf hash c validated s = .ok preparation) :
    ∃ g, loadGraph s c.graphId = .ok g ∧ g.nodes ≠ [] ∧
      (∀ b ∈ validated, checkBindingNode g b = .ok ()) ∧ preparation =
        { graphId := c.graphId, projectId := c.projectId
          graphDefinitionSha256 := hash.definitionSha256 g, bindings := validated } := by
  unfold preparationOf at h
  obtain ⟨g, hg, h⟩ := bind_eq_ok.mp h
  split at h
  · cases h
  · rename_i hnodes
    obtain ⟨_, hcheck, h⟩ := bind_eq_ok.mp h
    cases h
    exact ⟨g, hg, hnodes, forM_eq_ok.mp hcheck, rfl⟩

theorem definitionOf_eq_ok {graphId : String} {definition : CanonicalGraph} :
    definitionOf s graphId = .ok definition ↔
      ∃ g, loadGraph s graphId = .ok g ∧ canonicalGraph g = definition := by
  unfold definitionOf
  cases loadGraph s graphId with
  | error e => simp [Except.map]
  | ok g => simp [Except.map]

theorem checkBindingNode_congr (h : canonicalGraph g = canonicalGraph g')
    (b : GraphRunBindingSpec) : checkBindingNode g b = checkBindingNode g' b := by
  unfold checkBindingNode
  rw [node?_of_canonicalGraph h]

/-- The payload depends on the call's graph, project and bindings and on the canonical form
    of the stored definition. -/
theorem preparationOf_congr {s s₀ : GraphStore D P} (hgraph : again.graphId = call.graphId)
    (hproject : again.projectId = call.projectId)
    (hdef : definitionOf s call.graphId = definitionOf s₀ call.graphId)
    (h : preparationOf hash call validated s₀ = .ok preparation) :
    preparationOf hash again validated s = .ok preparation := by
  obtain ⟨g₀, hload₀, hnodes₀, hcheck₀, rfl⟩ := preparationOf_ok h
  rw [definitionOf_eq_ok.mpr ⟨g₀, hload₀, rfl⟩] at hdef
  obtain ⟨g, hload, hcanonical⟩ := definitionOf_eq_ok.mp hdef
  have hnodes : g.nodes ≠ [] := fun hnil =>
    hnodes₀ (nodes_eq_nil_of_canonicalGraph hcanonical hnil)
  have hcheck : validated.forM (checkBindingNode g) = .ok () := by
    rw [forM_eq_ok]
    intro b hb
    rw [checkBindingNode_congr hcanonical]
    exact hcheck₀ b hb
  unfold preparationOf
  show (loadGraph s again.graphId >>= _) = _
  rw [hgraph, hload]
  show (if g.nodes = [] then _ else _) = _
  rw [if_neg hnodes, hcheck, hproject]
  unfold GraphHash.definitionSha256
  rw [hcanonical]
  rfl

/-- A call means to prepare what another call did exactly when their intents agree and the
    stored definition is the same. -/
theorem intended_iff (hdefinition : Function.Injective hash.definition) {s s₀ : GraphStore D P}
    (hcall : intended hash call s₀ = .ok preparation)
    (href : again.preparationRef = call.preparationRef) :
    intended hash again s = .ok preparation ↔ SameIntent again call s s₀ := by
  obtain ⟨validated, hvalidated, hprep⟩ := bind_eq_ok.mp hcall
  constructor
  · intro hagain
    obtain ⟨validated', hvalidated', hprep'⟩ := bind_eq_ok.mp hagain
    obtain ⟨g₀, hload₀, -, -, rfl⟩ := preparationOf_ok hprep
    obtain ⟨g, hload, -, -, heq⟩ := preparationOf_ok hprep'
    obtain ⟨hgraph, hproject, hdigest, hbindings⟩ := Preparation.mk.inj heq
    refine ⟨hgraph.symm, hproject.symm, ?_, ?_⟩
    · rw [(validated_ok hvalidated).1, (validated_ok hvalidated').1] at hbindings
      exact (perm_insertionSort _ _).symm.trans
        (hbindings ▸ perm_insertionSort _ call.bindings)
    · rw [definitionOf_eq_ok.mpr ⟨g₀, hload₀, rfl⟩, hgraph, definitionOf_eq_ok]
      exact ⟨g, hload, (hdefinition hdigest).symm⟩
  · intro hsame
    have hagain : again.validated = .ok validated :=
      validated_congr hvalidated hsame.graphId hsame.projectId href hsame.bindings
    exact bind_eq_ok.mpr ⟨validated, hagain,
      preparationOf_congr hsame.graphId hsame.projectId hsame.definition hprep⟩

/-- The rows of `graph_run_bindings` of a run. -/
def bindingsOf (s : GraphStore D P) (runId : String) : List GraphRunBindingRecord :=
  s.bindings.filter fun r => r.runId = runId

theorem decodeBindingRow_ok {r r' : GraphRunBindingRecord} (h : decodeBindingRow r = .ok r') :
    r' = r := by
  unfold decodeBindingRow at h
  iterate 3 obtain ⟨_, -, h⟩ := bind_eq_ok.mp h
  cases h
  rfl

theorem decodeRunRow_ok {r r' : GraphRunRecord D P} (h : decodeRunRow r = .ok r') : r' = r := by
  unfold decodeRunRow at h
  iterate 5 obtain ⟨_, -, h⟩ := bind_eq_ok.mp h
  split at h
  · cases h
    rfl
  · iterate 2 obtain ⟨_, -, h⟩ := bind_eq_ok.mp h
    cases h
    rfl
  · cases h

theorem readBindingRecords_perm {runId : String} {durable : List GraphRunBindingRecord}
    (h : readBindingRecords s runId = .ok durable) : durable.Perm (bindingsOf s runId) := by
  rw [mapM_eq_ok_self (fun _ _ => decodeBindingRow_ok) h]
  exact perm_insertionSort _ _

/-- Runs stay as they are, and so do their bindings. -/
structure Keeps (s s' : GraphStore D P) : Prop where
  runs : ∀ run ∈ s.runs, run ∈ s'.runs
  bindings : ∀ run ∈ s.runs, bindingsOf s' run.runId = bindingsOf s run.runId

theorem Keeps.refl (s : GraphStore D P) : Keeps s s := ⟨fun _ h => h, fun _ _ => rfl⟩

theorem Keeps.trans {s s' s'' : GraphStore D P} (h : Keeps s s') (h' : Keeps s' s'') :
    Keeps s s'' where
  runs run hrun := h'.runs run (h.runs run hrun)
  bindings run hrun := (h'.bindings run (h.runs run hrun)).trans (h.bindings run hrun)

section Prepare

variable [DecidableEq D] [DecidableEq P] {hash : GraphHash D P} {preparationRef : String}
  {run : GraphRunRecord D P}

/-- A run that is confirmed has the identity of the preparation and its bindings. -/
theorem confirmed_ok {run out : GraphRunRecord D P}
    (h : confirmed hash preparationRef preparation run s = .ok out) :
    out = run ∧ run.preparationRef = some preparationRef ∧
      run.preparationSha256 = some (hash.preparation preparation) ∧
      ((bindingsOf s run.runId).map fun r => r.toGraphRunBindingSpec).Perm
        preparation.bindings := by
  unfold confirmed at h
  obtain ⟨existing, hdecoded, hread⟩ := bind_eq_ok.mp h
  obtain ⟨durable, hdurable, hconfirmed⟩ := bind_eq_ok.mp hread
  have hsame : existing = run := decodeRunRow_ok (mapError_eq_ok.mp hdecoded)
  have hperm := readBindingRecords_perm (mapError_eq_ok.mp hdurable)
  rw [hsame] at hconfirmed hperm
  split at hconfirmed
  · rename_i hconfirms
    cases hconfirmed
    unfold confirms at hconfirms
    simp only [Bool.and_eq_true, decide_eq_true_eq] at hconfirms
    obtain ⟨⟨⟨_, href⟩, hsha⟩, hbindings⟩ := hconfirms
    refine ⟨rfl, href, hsha, ?_⟩
    rw [← hbindings]
    exact (hperm.map _).symm
  · cases hconfirmed

/-- Reading a run back depends on its own bindings only. -/
theorem confirmed_congr {s s' : GraphStore D P}
    (h : bindingsOf s' run.runId = bindingsOf s run.runId) :
    confirmed hash preparationRef preparation run s' =
      confirmed hash preparationRef preparation run s := by
  unfold confirmed
  cases hdecoded : decodeRunRow run with
  | error e => rfl
  | ok existing =>
    have hsame : existing = run := decodeRunRow_ok hdecoded
    have hread : readBindingRecords s' run.runId = readBindingRecords s run.runId :=
      congrArg (fun rows => (rows.insertionSort fun a b => a.nodeId ≤ b.nodeId).mapM
        decodeBindingRow) h
    subst hsame
    show ((readBindingRecords s' existing.runId).mapError _ >>= _) = _
    rw [hread]
    rfl

/-- The run is in the table, and reading it back confirms the preparation. -/
structure PreparedAs (hash : GraphHash D P) (s : GraphStore D P) (preparationRef : String)
    (preparation : Preparation D) (run : GraphRunRecord D P) : Prop where
  mem : run ∈ s.runs
  confirmed : confirmed hash preparationRef preparation run s = .ok run

structure GraphStoreSound (hash : GraphHash D P) (s : GraphStore D P) : Prop where
  ids : Table.Unique GraphRunRecord.idKey s.runs
  preparations : Table.Unique GraphRunRecord.preparationKey s.runs
  prepared : ∀ run ∈ s.runs, ∃ preparationRef preparation,
    PreparedAs hash s preparationRef preparation run

theorem PreparedAs.of_keeps {s s' : GraphStore D P}
    (h : PreparedAs hash s preparationRef preparation run) (hkeeps : Keeps s s') :
    PreparedAs hash s' preparationRef preparation run where
  mem := hkeeps.runs run h.mem
  confirmed := (confirmed_congr (hkeeps.bindings run h.mem)).trans h.confirmed

theorem graphStoreSound_empty : GraphStoreSound hash .empty := by
  refine ⟨Table.unique_nil _, Table.unique_nil _, ?_⟩
  intro run hrun
  cases hrun

/-- Either a body's postcondition describes the outcome of the call, or the call raised and
    left the store alone. -/
theorem prepareRun_spec (hash : GraphHash D P) (c : PrepareCall) (s : GraphStore D P)
    {Q : GraphRunRecord D P → GraphStore D P → Prop} {E : Prop}
    (hinvalid : ∀ e, c.validated = .error e → E)
    (hbody : ∀ validated, c.validated = .ok validated →
      wp (prepareBody hash c validated) Q (fun _ _ => E) s) :
    (∃ run s', prepareRun hash c s = (.ok run, s') ∧ Q run s') ∨
      (∃ e, prepareRun hash c s = (.error e, s) ∧ E) := by
  unfold prepareRun
  cases hvalidated : c.validated with
  | error e => exact .inr ⟨e, rfl, hinvalid e hvalidated⟩
  | ok validated =>
    rcases atomically_spec (E := fun _ => E) (hbody validated hvalidated) with
      ⟨run, s', heq, hQ⟩ | ⟨e, heq, hE⟩
    · exact .inl ⟨run, s', by simp only [heq], hQ⟩
    · cases e with
      | integrityError =>
        refine .inr ⟨.graphStoreError "GRAPH_RUN_PREPARATION_STORE_FAILED", ?_, hE⟩
        simp only [heq]
      | graphStoreError code =>
        refine .inr ⟨.graphStoreError code, ?_, hE⟩
        simp only [heq]

theorem wp_replayed {preparation p : Preparation D}
    (hpreparation : Function.Injective hash.preparation)
    (hrun : PreparedAs hash s c.preparationRef preparation run) :
    wp (ofExcept (replayed hash c.preparationRef p run s))
      (fun out s' => (out = run ∧ s' = s) ∧ p = preparation)
      (fun _ _ => p ≠ preparation) s := by
  obtain ⟨-, -, hsha, -⟩ := confirmed_ok hrun.confirmed
  unfold replayed
  rw [hsha]
  by_cases hp : p = preparation
  · subst hp
    simp only [ne_eq, not_true_eq_false, if_false]
    rw [hrun.confirmed]
    exact ⟨⟨rfl, rfl⟩, trivial⟩
  · have hdigest : hash.preparation preparation ≠ hash.preparation p :=
      fun heq => hp (hpreparation heq.symm)
    simp only [ne_eq, hdigest, not_false_eq_true, if_true]
    exact hp

/-- Where the reference names a run, a call returns that run exactly when it means what the
    run was prepared as, and never changes anything. -/
theorem prepareRun_existing (hs : GraphStoreSound hash s)
    (hpreparation : Function.Injective hash.preparation)
    (hrun : PreparedAs hash s c.preparationRef preparation run) :
    (prepareRun hash c s = (.ok run, s) ∧ intended hash c s = .ok preparation) ∨
      (∃ e, prepareRun hash c s = (.error e, s) ∧ intended hash c s ≠ .ok preparation) := by
  obtain ⟨-, href, -, -⟩ := confirmed_ok hrun.confirmed
  have hfind : s.runs.find? (fun r => r.preparationRef = some c.preparationRef) = some run := by
    cases hfound : s.runs.find? fun r => r.preparationRef = some c.preparationRef with
    | none =>
      have habsent := List.find?_eq_none.mp hfound run hrun.mem
      simp [href] at habsent
    | some raw =>
      have hraw : raw.preparationRef = some c.preparationRef := by
        simpa using List.find?_some hfound
      exact congrArg some
        (hs.preparations.eq_of_key (mem_of_find?_eq_some hfound) hrun.mem hraw href)
  have houtcome := prepareRun_spec hash c s
    (Q := fun out s' => (out = run ∧ s' = s) ∧ intended hash c s = .ok preparation)
    (E := intended hash c s ≠ .ok preparation) ?_ ?_
  · rcases houtcome with ⟨out, s', heq, ⟨rfl, rfl⟩, hintended⟩ | hraised
    · exact .inl ⟨heq, hintended⟩
    · exact .inr hraised
  · intro e hvalidated hintended
    unfold intended at hintended
    rw [hvalidated] at hintended
    cases hintended
  · intro validated hvalidated
    have hintended : intended hash c s = preparationOf hash c validated s := by
      unfold intended
      rw [hvalidated]
      rfl
    rw [hintended]
    unfold prepareBody
    simp only [wp_bind, wp_query, id_eq]
    apply wp_ofExcept_of
    · intro p hp
      rw [hfind]
      refine wp_mono (wp_replayed hpreparation hrun) ?_ ?_
      · rintro out s' ⟨hsame, rfl⟩
        exact ⟨hsame, hp⟩
      · intro e s' hne heq
        rw [hp] at heq
        exact hne (Except.ok.inj heq)
    · intro e he heq
      rw [he] at heq
      cases heq

end Prepare

end AConductor.Graph

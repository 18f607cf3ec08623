import AConductor.Graph.Preparation

namespace AConductor.Graph

open Txn List

variable {D P : Type}

/-- A run that was not there is there with bindings of its own. -/
structure Created (s s' : GraphStore D P) (run : GraphRunRecord D P) : Prop where
  runs : s'.runs = s.runs ++ [run]
  bindings : ∃ more, s'.bindings = s.bindings ++ more ∧ ∀ b ∈ more, b.runId = run.runId
  freshId : ∀ old ∈ s.runs, old.runId ≠ run.runId
  freshReference : ∀ old ∈ s.runs, ∀ r, run.preparationRef = some r → old.preparationRef ≠ some r

variable {run : GraphRunRecord D P} {s : GraphStore D P}

theorem Created.keeps {s s' : GraphStore D P} (h : Created s s' run) : Keeps s s' where
  runs old hold := by
    rw [h.runs]
    exact mem_append_left _ hold
  bindings old hold := by
    obtain ⟨more, hmore, howner⟩ := h.bindings
    have hnone : more.filter (fun r => r.runId = old.runId) = [] := by
      rw [filter_eq_nil_iff]
      intro b hb hmatch
      simp only [decide_eq_true_eq] at hmatch
      exact h.freshId old hold (hmatch.symm.trans (howner b hb))
    unfold bindingsOf
    rw [hmore, filter_append, hnone, append_nil]

theorem wp_insertBindings {runId boundAt : String} {bound : List GraphRunBindingSpec}
    : wp (insertBindings runId boundAt bound)
      (fun _ s' => s'.runs = s.runs ∧
        ∃ more, s'.bindings = s.bindings ++ more ∧ ∀ b ∈ more, b.runId = runId)
      (fun _ _ => True) s := by
  induction bound generalizing s with
  | nil =>
    refine ⟨rfl, [], (append_nil _).symm, ?_⟩
    intro b hb
    cases hb
  | cons b rest ih =>
    unfold insertBindings insertBinding
    simp only [wp_bind, wp_query, wp_require, wp_update, implies_true, and_true]
    intro _
    refine wp_mono ih ?_ (fun _ _ _ => trivial)
    rintro _ s' ⟨hruns, more, hmore, howner⟩
    refine ⟨hruns, { toGraphRunBindingSpec := b, runId, boundAt } :: more, ?_, ?_⟩
    · rw [hmore, append_assoc]
      rfl
    · intro r hr
      rcases mem_cons.mp hr with rfl | hr
      · rfl
      · exact howner r hr

section Prepare

variable [DecidableEq D] [DecidableEq P] {hash : GraphHash D P} {preparation : Preparation D}

theorem GraphStoreSound.of_created {s s' : GraphStore D P} {preparationRef : String}
    (hs : GraphStoreSound hash s) (hcreated : Created s s' run)
    (hrun : PreparedAs hash s' preparationRef preparation run) :
    GraphStoreSound hash s' where
  ids := by
    rw [hcreated.runs]
    apply hs.ids.insert
    rw [Table.conflicts_eq_false]
    intro old hold k hk hold'
    exact hcreated.freshId old hold (Option.some.inj (hold'.trans hk.symm))
  preparations := by
    rw [hcreated.runs]
    apply hs.preparations.insert
    rw [Table.conflicts_eq_false]
    exact hcreated.freshReference
  prepared r hr := by
    rw [hcreated.runs, mem_append, mem_singleton] at hr
    rcases hr with hr | rfl
    · obtain ⟨ref, p, hold⟩ := hs.prepared r hr
      exact ⟨ref, p, hold.of_keeps hcreated.keeps⟩
    · exact ⟨preparationRef, preparation, hrun⟩

theorem GraphStoreSound.of_same {s s' : GraphStore D P} (hs : GraphStoreSound hash s)
    (hruns : s'.runs = s.runs) (hbindings : s'.bindings = s.bindings) :
    GraphStoreSound hash s' ∧ Keeps s s' := by
  have hkeeps : Keeps s s' := by
    refine ⟨fun run hrun => hruns ▸ hrun, fun run _ => ?_⟩
    unfold bindingsOf
    rw [hbindings]
  refine ⟨⟨hruns ▸ hs.ids, hruns ▸ hs.preparations, ?_⟩, hkeeps⟩
  intro run hrun
  rw [hruns] at hrun
  obtain ⟨ref, p, hold⟩ := hs.prepared run hrun
  exact ⟨ref, p, hold.of_keeps hkeeps⟩

variable {c : PrepareCall}

/-- A new run is read back before it is committed. -/
theorem wp_createRun (hs : GraphStoreSound hash s) : wp (createRun hash c preparation)
      (fun run s' => Created s s' run ∧ PreparedAs hash s' c.preparationRef preparation run)
      (fun _ _ => True) s := by
  unfold createRun insertRun
  simp only [wp_bind, wp_query, wp_require, wp_update, implies_true, and_true, id_eq]
  intro hfree
  simp only [Bool.and_eq_true, Bool.not_eq_true', Table.conflicts_eq_false] at hfree
  obtain ⟨hfreeId, hfreeRef⟩ := hfree
  refine wp_mono wp_insertBindings ?_ (fun _ _ _ => trivial)
  rintro _ s' ⟨hruns, hbindings⟩
  have hcreated : Created s s' (newRun hash c preparation) := by
    refine ⟨hruns, hbindings, ?_, hfreeRef⟩
    intro old hold hsame
    exact hfreeId old hold _ rfl (congrArg some hsame)
  have hmem : newRun hash c preparation ∈ s'.runs := by
    rw [hruns]
    exact mem_append_right _ (mem_singleton_self _)
  have hids : Table.Unique GraphRunRecord.idKey s'.runs := by
    rw [hruns]
    exact hs.ids.insert (Table.conflicts_eq_false.mpr hfreeId)
  cases hfound : s'.runs.find? fun r => r.runId = (newRun hash c preparation).runId with
  | none => trivial
  | some inserted =>
    have hsame : inserted = newRun hash c preparation := by
      have hid : inserted.runId = (newRun hash c preparation).runId := by
        simpa using List.find?_some hfound
      exact hids.eq_of_key (mem_of_find?_eq_some hfound) hmem (congrArg some hid) rfl
    dsimp only
    apply wp_ofExcept_of_ok
    intro run hconfirmed
    rw [hsame] at hconfirmed
    have hrun : run = newRun hash c preparation := (confirmed_ok hconfirmed).1
    rw [hrun] at hconfirmed ⊢
    exact ⟨hcreated, hmem, hconfirmed⟩

theorem prepareRun_cases (hs : GraphStoreSound hash s) :
    (∃ run s' preparation, prepareRun hash c s = (.ok run, s') ∧
      intended hash c s = .ok preparation ∧
      PreparedAs hash s' c.preparationRef preparation run ∧ (s' = s ∨ Created s s' run)) ∨
    (∃ e, prepareRun hash c s = (.error e, s)) := by
  have houtcome := prepareRun_spec hash c s
    (Q := fun run s' => ∃ preparation, intended hash c s = .ok preparation ∧
      PreparedAs hash s' c.preparationRef preparation run ∧ (s' = s ∨ Created s s' run))
    (E := True) (fun _ _ => trivial) ?_
  · rcases houtcome with ⟨run, s', heq, preparation, h⟩ | ⟨e, heq, -⟩
    · exact .inl ⟨run, s', preparation, heq, h⟩
    · exact .inr ⟨e, heq⟩
  · intro validated hvalidated
    unfold prepareBody
    simp only [wp_bind, wp_query, id_eq]
    apply wp_ofExcept_of_ok
    intro preparation hprep
    have hintended : intended hash c s = .ok preparation := by
      unfold intended
      rw [hvalidated]
      exact hprep
    cases hfound : s.runs.find? fun r => r.preparationRef = some c.preparationRef with
    | none =>
      refine wp_mono (wp_createRun hs) ?_ (fun _ _ _ => trivial)
      rintro run s' ⟨hcreated, hrun⟩
      exact ⟨preparation, hintended, hrun, .inr hcreated⟩
    | some raw =>
      apply wp_ofExcept_of_ok
      intro run hreplayed
      unfold replayed at hreplayed
      split at hreplayed
      · cases hreplayed
      · split at hreplayed
        · cases hreplayed
        · have hrun : run = raw := (confirmed_ok hreplayed).1
          subst hrun
          exact ⟨preparation, hintended, ⟨mem_of_find?_eq_some hfound, hreplayed⟩, .inl rfl⟩

/-- The calls on the store. -/
inductive GraphCall where
  | saveGraph (graph : TaskGraph) (graphId : String)
  | deleteGraph (graphId : String)
  | prepareRun (call : PrepareCall)

def graphStep (hash : GraphHash D P) (s : GraphStore D P) :
    GraphCall → Except GraphStoreFault (Option (GraphRunRecord D P)) × GraphStore D P
  | .saveGraph graph graphId => (.ok none, saveGraph graph graphId s)
  | .deleteGraph graphId => (.ok none, deleteGraph graphId s)
  | .prepareRun call => ((prepareRun hash call s).1.map some, (prepareRun hash call s).2)

/-- The store after the calls, from an empty one. -/
def storeAfter (hash : GraphHash D P) (calls : List GraphCall) : GraphStore D P :=
  (Machine.run (graphStep hash) .empty calls).2

theorem storeAfter_snoc (calls : List GraphCall) (call : GraphCall) :
    storeAfter hash (calls ++ [call]) = (graphStep hash (storeAfter hash calls) call).2 := by
  unfold storeAfter
  rw [Machine.run_snoc]

/-- One call keeps the store sound and what it holds. -/
theorem graphStep_sound (hs : GraphStoreSound hash s) (call : GraphCall) :
    GraphStoreSound hash (graphStep hash s call).2 ∧ Keeps s (graphStep hash s call).2 := by
  cases call with
  | saveGraph graph graphId => exact hs.of_same rfl rfl
  | deleteGraph graphId => exact hs.of_same rfl rfl
  | prepareRun c =>
    show GraphStoreSound hash (prepareRun hash c s).2 ∧ Keeps s (prepareRun hash c s).2
    rcases prepareRun_cases (c := c) hs with
      ⟨run, s', preparation, heq, -, hrun, rfl | hcreated⟩ | ⟨e, heq⟩
    · rw [heq]
      exact ⟨hs, .refl _⟩
    · rw [heq]
      exact ⟨hs.of_created hcreated hrun, hcreated.keeps⟩
    · rw [heq]
      exact ⟨hs, .refl _⟩

/-- A run that one call brings into the table is the answer of that call. -/
theorem graphStep_runs (hs : GraphStoreSound hash s) {call : GraphCall}
    (hrun : run ∈ (graphStep hash s call).2.runs) :
    run ∈ s.runs ∨ ∃ c, call = .prepareRun c ∧ (prepareRun hash c s).1 = .ok run := by
  cases call with
  | saveGraph graph graphId => exact .inl hrun
  | deleteGraph graphId => exact .inl hrun
  | prepareRun c =>
    change run ∈ (prepareRun hash c s).2.runs at hrun
    rcases prepareRun_cases (c := c) hs with
      ⟨created, s', preparation, heq, -, -, rfl | hcreated⟩ | ⟨e, heq⟩
    · rw [heq] at hrun
      exact .inl hrun
    · rw [heq] at hrun
      change run ∈ s'.runs at hrun
      rw [hcreated.runs, mem_append, mem_singleton] at hrun
      rcases hrun with hrun | rfl
      · exact .inl hrun
      · exact .inr ⟨c, rfl, congrArg Prod.fst heq⟩
    · rw [heq] at hrun
      exact .inl hrun

theorem reachable_sound (h : Machine.Reachable (graphStep hash) .empty s) :
    GraphStoreSound hash s :=
  h.induction graphStoreSound_empty fun _ call hs => (graphStep_sound hs call).1

theorem storeAfter_sound (calls : List GraphCall) :
    GraphStoreSound hash (storeAfter hash calls) := reachable_sound ⟨calls, rfl⟩

/-- What the store holds after some calls it holds after more. -/
theorem storeAfter_keeps (before after : List GraphCall) :
    Keeps (storeAfter hash before) (storeAfter hash (before ++ after)) :=
  Machine.run_later graphStoreSound_empty (fun _ call hs => graphStep_sound hs call) .refl
    (fun _ _ _ hab hbc => hab.trans hbc) before after

/-- Every run in the table was the answer of a call. -/
theorem storeAfter_origin {calls : List GraphCall} (hrun : run ∈ (storeAfter hash calls).runs) :
    ∃ before c after, calls = before ++ .prepareRun c :: after ∧
      (prepareRun hash c (storeAfter hash before)).1 = .ok run := by
  obtain ⟨before, _, after, heq, c, rfl, hc⟩ :=
    Machine.run_origin (T := fun s : GraphStore D P => run ∈ s.runs) not_mem_nil
      (fun _ _ hs => graphStep_runs (reachable_sound hs)) hrun
  exact ⟨before, c, after, heq, hc⟩

/-- What a call that prepared a run says about every later store. -/
theorem prepared_later {before : List GraphCall}
    (hok : (prepareRun hash c (storeAfter hash before)).1 = .ok run) (after : List GraphCall) :
    ∃ preparation, intended hash c (storeAfter hash before) = .ok preparation ∧
      PreparedAs hash (storeAfter hash (before ++ .prepareRun c :: after)) c.preparationRef
        preparation run ∧
      bindingsOf (storeAfter hash (before ++ .prepareRun c :: after)) run.runId =
        bindingsOf (storeAfter hash (before ++ [.prepareRun c])) run.runId := by
  have hkeeps : Keeps (storeAfter hash (before ++ [.prepareRun c]))
      (storeAfter hash (before ++ .prepareRun c :: after)) := by
    rw [append_cons before _ after]
    exact storeAfter_keeps _ after
  have hsound : GraphStoreSound hash (storeAfter hash before) := storeAfter_sound before
  have hnow : storeAfter hash (before ++ [.prepareRun c]) =
      (prepareRun hash c (storeAfter hash before)).2 := storeAfter_snoc before _
  rcases prepareRun_cases (c := c) hsound with
    ⟨out, s', preparation, heq, hintended, hrun, -⟩ | ⟨e, heq⟩
  · rw [heq] at hok hnow
    cases hok
    change storeAfter hash (before ++ [.prepareRun c]) = s' at hnow
    rw [← hnow] at hrun
    exact ⟨preparation, hintended, hrun.of_keeps hkeeps, hkeeps.bindings _ hrun.mem⟩
  · rw [heq] at hok
    cases hok

/-- Graph preparation happens once: a reference names at most one run, which is the answer
    of a call that prepared it. Whoever prepares that reference again, with the same intent
    while the definition is the same, gets that run; everyone else is refused; neither
    changes anything. The bindings of the run are those that were asked for, each for a
    node of its own, and they stay. -/
theorem graph_preparation_exactly_once (hdefinition : Function.Injective hash.definition)
    (hpreparation : Function.Injective hash.preparation) (calls : List GraphCall) :
    Table.Unique GraphRunRecord.preparationKey (storeAfter hash calls).runs ∧
    (∀ run ∈ (storeAfter hash calls).runs, ∃ before c after,
      calls = before ++ .prepareRun c :: after ∧
        (prepareRun hash c (storeAfter hash before)).1 = .ok run) ∧
    ∀ before c after run, calls = before ++ .prepareRun c :: after →
      (prepareRun hash c (storeAfter hash before)).1 = .ok run →
      (run ∈ (storeAfter hash calls).runs ∧ run.preparationRef = some c.preparationRef) ∧
      (∀ again : PrepareCall, again.preparationRef = c.preparationRef →
        (SameIntent again c (storeAfter hash calls) (storeAfter hash before) →
          prepareRun hash again (storeAfter hash calls) = (.ok run, storeAfter hash calls)) ∧
        (¬ SameIntent again c (storeAfter hash calls) (storeAfter hash before) →
          ∃ e, prepareRun hash again (storeAfter hash calls) =
            (.error e, storeAfter hash calls))) ∧
      ((bindingsOf (storeAfter hash calls) run.runId).map fun b => b.toGraphRunBindingSpec).Perm
        c.bindings ∧
      ((bindingsOf (storeAfter hash calls) run.runId).map fun b => b.nodeId).Nodup ∧
      (∃ g, loadGraph (storeAfter hash before) c.graphId = .ok g ∧
        ∀ b ∈ bindingsOf (storeAfter hash calls) run.runId, ∃ n ∈ g.nodes, n.id = b.nodeId) ∧
      bindingsOf (storeAfter hash calls) run.runId =
        bindingsOf (storeAfter hash (before ++ [.prepareRun c])) run.runId := by
  refine ⟨(storeAfter_sound calls).preparations, fun _ => storeAfter_origin, ?_⟩
  rintro before c after run rfl hok
  obtain ⟨preparation, hintended, hrun, hstay⟩ := prepared_later hok after
  obtain ⟨-, href, -, hbound⟩ := confirmed_ok hrun.confirmed
  obtain ⟨validated, hvalidated, hprep⟩ := Except.bind_eq_ok.mp hintended
  obtain ⟨hsorted, hnodup⟩ := validated_ok hvalidated
  obtain ⟨g, hload, -, hcheck, rfl⟩ := preparationOf_ok hprep
  have hasked : validated.Perm c.bindings := hsorted ▸ perm_insertionSort _ _
  refine ⟨⟨hrun.mem, href⟩, ?_, hbound.trans hasked, ?_, ⟨g, hload, ?_⟩, hstay⟩
  · intro again hagain
    have hsame := intended_iff (s := storeAfter hash (before ++ .prepareRun c :: after))
      hdefinition hintended hagain
    rw [← hagain] at hrun
    rcases prepareRun_existing (storeAfter_sound _) hpreparation hrun with
      ⟨heq, hmeant⟩ | ⟨e, heq, hmeant⟩
    · exact ⟨fun _ => heq, fun hother => absurd (hsame.mp hmeant) hother⟩
    · exact ⟨fun hmean => absurd (hsame.mpr hmean) hmeant, fun _ => ⟨e, heq⟩⟩
  · have hnodes := (hbound.trans hasked).map fun b : GraphRunBindingSpec => b.nodeId
    rw [map_map] at hnodes
    exact hnodes.nodup_iff.mpr hnodup
  · intro b hb
    have hmem : b.toGraphRunBindingSpec ∈ validated :=
      hbound.mem_iff.mp (mem_map_of_mem hb)
    have hnode := hcheck _ hmem
    unfold checkBindingNode at hnode
    split at hnode
    · cases hnode
    · rename_i n hfound
      exact ⟨n, mem_of_find?_eq_some hfound, by simpa using List.find?_some hfound⟩

end Prepare

def draftNode : TaskNode where
  id := "draft"
  objective := "write the notes"
  checked := by decide +kernel

def reviewNode : TaskNode where
  id := "review"
  objective := "read the notes"
  checked := by decide +kernel

def notesEdge : TaskEdge := { fromId := "draft", toId := "review" }

def notesGraph : TaskGraph where
  nodes := [draftNode, reviewNode]
  edges := [notesEdge]
  nodesUnique := by decide
  edgesUnique := nodup_singleton notesEdge
  endpoints := by decide

def notesBinding (nodeId : String) : GraphRunBindingSpec where
  nodeId
  runtimeKind := "serena"
  taskContractRef := "contracts/notes.json"
  taskContractSha256 := "0123456789abcdef0123456789abcdef0123456789abcdef0123456789abcdef"
  taskPacketRef := "packets/notes.md"
  taskPacketSha256 := "0123456789abcdef0123456789abcdef0123456789abcdef0123456789abcdef"
  providerId := "provider-1"
  modelId := "model-1"
  effortLevel := "high"

def notesCall (projectId : String) (nodeIds : List String) : PrepareCall where
  graphId := "notes"
  projectId
  preparationRef := "prep-1"
  bindings := nodeIds.map notesBinding
  runHex := "00000000000000000000000000000001"
  createdAt := "2026-01-01 00:00:00"
  boundAt := "2026-01-01T00:00:00.000Z"

/-- Digests that are the payloads themselves. -/
def plainHash : GraphHash CanonicalGraph (Preparation CanonicalGraph) := ⟨id, id⟩

def notesRun (nodeIds : List String) :
    GraphRunRecord CanonicalGraph (Preparation CanonicalGraph) :=
  newRun plainHash (notesCall "p1" nodeIds)
    { graphId := "notes", projectId := "p1"
      graphDefinitionSha256 := canonicalGraph notesGraph, bindings := nodeIds.map notesBinding }

/-- The bindings may come in the other order, and another project is refused. -/
theorem graph_preparation_exactly_once_reordered :
    let saved := [GraphCall.saveGraph notesGraph "notes"]
    let s := storeAfter plainHash (saved ++ [.prepareRun (notesCall "p1" ["draft", "review"])])
    prepareRun plainHash (notesCall "p1" ["review", "draft"]) s =
        (.ok (notesRun ["draft", "review"]), s) ∧
      ∃ e, prepareRun plainHash (notesCall "p2" ["draft", "review"]) s = (.error e, s) := by
  intro saved s
  obtain ⟨-, -, hruns⟩ := @graph_preparation_exactly_once _ _ _ _ plainHash
    Function.injective_id Function.injective_id
    (saved ++ [.prepareRun (notesCall "p1" ["draft", "review"])])
  obtain ⟨-, hagain, -⟩ := hruns saved (notesCall "p1" ["draft", "review"]) []
    (notesRun ["draft", "review"]) rfl (by decide +kernel)
  have reordered := (hagain (notesCall "p1" ["review", "draft"]) rfl).1
  have elsewhere := (hagain (notesCall "p2" ["draft", "review"]) rfl).2
  refine ⟨reordered ⟨rfl, rfl, by decide +kernel, by decide +kernel⟩, elsewhere ?_⟩
  intro hsame
  exact absurd hsame.projectId (by decide)

/-- The run of a call that binds the first node only has no binding for the second. -/
theorem preparation_binds_some_nodes :
    let s := storeAfter plainHash
      [.saveGraph notesGraph "notes", .prepareRun (notesCall "p1" ["draft"])]
    ¬ ∀ run ∈ s.runs, bindingsOf s run.runId = [] ∨
      ∀ n ∈ notesGraph.nodes, ∃ b ∈ bindingsOf s run.runId, b.nodeId = n.id := by
  decide +kernel

end AConductor.Graph

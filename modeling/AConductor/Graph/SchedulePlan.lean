import AConductor.Graph.SchedulingRun

/-!
# Plans

What a plan of `schedule_once` (`src/a_conductor/graph/scheduler.py:173-407`) says about its
ready set: each node of it was examined once, in the order of priority, and its place in the plan
follows from the state of the pass at that time.
-/

namespace AConductor.Graph

open List Except

section Blocked

variable {inputs : ScheduleInputs} {pass : SchedulePass} {node : TaskNode} {reason : BlockedReason}

/-- The reason names the node, and it is not the capacity. -/
def OwnReason (node : TaskNode) (reason : BlockedReason) : Prop :=
  reason.nodeId = node.id ∧ reason.kind ≠ .capacity

theorem ownReason_blockedFor {α : Type} {kind : BlockedReasonKind} {text : String}
    (hkind : kind ≠ .capacity) (h : (blockedFor node kind text : Except _ α) = .error reason) :
    OwnReason node reason := by
  cases h
  exact ⟨rfl, hkind⟩

theorem checkEligibility_error (h : checkEligibility inputs node = .error reason) :
    OwnReason node reason := by
  unfold checkEligibility at h
  split at h
  · cases h
  · split at h
    · cases h
    · refine ownReason_blockedFor ?_ h
      unfold eligibilityKind
      split <;> [skip; split <;> [skip; split]] <;> decide

theorem checkBindingIdentity_error (h : checkBindingIdentity node = .error reason) :
    OwnReason node reason := by
  unfold checkBindingIdentity at h
  split at h
  · exact ownReason_blockedFor (by decide) h
  · cases h

theorem candidateWorkers_error (h : candidateWorkers inputs pass node = .error reason) :
    OwnReason node reason := by
  unfold candidateWorkers at h
  split at h
  · cases h
  · split at h
    · exact ownReason_blockedFor (by decide) h
    · split at h
      · exact ownReason_blockedFor (by decide) h
      · cases h

theorem unassigned_kind (search : WorkerSearch) : (unassigned inputs node search).1 ≠ .capacity := by
  unfold unassigned
  split
  · decide
  · split
    · simp
    · split
      · decide
      · split
        · decide
        · decide

theorem chooseWorker_error {candidates : List WorkerSnapshot}
    (h : chooseWorker inputs pass node candidates = .error reason) : OwnReason node reason := by
  unfold chooseWorker at h
  split at h
  · cases h
  · exact ownReason_blockedFor (unassigned_kind _) h

theorem checkConflicts_error (h : checkConflicts inputs pass node = .error reason) :
    OwnReason node reason := by
  unfold checkConflicts at h
  split at h
  · cases h
  · split at h
    · exact ownReason_blockedFor (by decide) h
    · split at h
      · exact ownReason_blockedFor (by decide) h
      · cases h

/-- A reason names its node, and it is the capacity only when the plan is full. -/
theorem assign_error (h : assign inputs pass node = .error reason) :
    reason.nodeId = node.id ∧
      (reason.kind = .capacity → inputs.capacity ≤ pass.selected.length) := by
  have hown (h : OwnReason node reason) : reason.nodeId = node.id ∧
      (reason.kind = .capacity → inputs.capacity ≤ pass.selected.length) :=
    ⟨h.1, fun hkind => absurd hkind h.2⟩
  unfold assign at h
  rcases bind_eq_error.mp h with h | ⟨_, -, h⟩
  · exact hown (checkEligibility_error h)
  rcases bind_eq_error.mp h with h | ⟨_, -, h⟩
  · unfold checkCapacity at h
    split at h
    · rename_i hfull
      cases h
      exact ⟨rfl, fun _ => hfull⟩
    · cases h
  rcases bind_eq_error.mp h with h | ⟨_, -, h⟩
  · exact hown (checkBindingIdentity_error h)
  rcases bind_eq_error.mp h with h | ⟨candidates, -, h⟩
  · exact hown (candidateWorkers_error h)
  rcases bind_eq_error.mp h with h | ⟨worker, -, h⟩
  · exact hown (chooseWorker_error h)
  rcases bind_eq_error.mp h with h | ⟨_, -, h⟩
  · exact hown (checkConflicts_error h)
  · cases h

end Blocked

variable {nodes : List TaskNode} {assignment : SelectedAssignment}

section Passes

variable {inputs : ScheduleInputs}

/-- The pass over some nodes. -/
def passOver (inputs : ScheduleInputs) (nodes : List TaskNode) : SchedulePass :=
  nodes.foldl (place inputs) {}

theorem passOver_snoc (nodes : List TaskNode) (node : TaskNode) :
    passOver inputs (nodes ++ [node]) = place inputs (passOver inputs nodes) node := by
  unfold passOver
  rw [foldl_append]
  rfl

/-- One round adds the node to one of the two lists. -/
theorem place_cases (pass : SchedulePass) (node : TaskNode) :
    (∃ assignment, assign inputs pass node = .ok assignment ∧
      (place inputs pass node).selected = pass.selected ++ [assignment] ∧
      (place inputs pass node).blocked = pass.blocked) ∨
    ∃ reason, assign inputs pass node = .error reason ∧
      (place inputs pass node).selected = pass.selected ∧
      (place inputs pass node).blocked = pass.blocked ++ [reason] := by
  unfold place
  cases assign inputs pass node with
  | ok assignment => exact .inl ⟨assignment, rfl, rfl, rfl⟩
  | error reason => exact .inr ⟨reason, rfl, rfl, rfl⟩

theorem selected_grows (before after : List TaskNode) :
    (passOver inputs before).selected <+: (passOver inputs (before ++ after)).selected := by
  induction after using List.reverseRecOn with
  | nil => simp
  | append_singleton after node ih =>
    rw [← append_assoc, passOver_snoc]
    refine ih.trans ?_
    rcases place_cases (passOver inputs (before ++ after)) node with
      ⟨assignment, -, hselected, -⟩ | ⟨reason, -, hselected, -⟩
    · rw [hselected]
      exact prefix_append _ _
    · rw [hselected]

/-- What a round adds to a list of the pass was added when some node was examined. -/
theorem added_origin {α : Type} (list : SchedulePass → List α)
    (added : Except BlockedReason SelectedAssignment → List α) (hstart : list {} = [])
    (hplace : ∀ pass node, list (place inputs pass node) = list pass ++ added (assign inputs pass node))
    {x : α} (h : x ∈ list (passOver inputs nodes)) :
    ∃ before node after, nodes = before ++ node :: after ∧
      x ∈ added (assign inputs (passOver inputs before) node) := by
  induction nodes using List.reverseRecOn with
  | nil =>
    rw [show list (passOver inputs []) = [] from hstart] at h
    cases h
  | append_singleton nodes node ih =>
    rw [passOver_snoc, hplace] at h
    rcases mem_append.mp h with h | h
    · obtain ⟨before, n, after, rfl, hadded⟩ := ih h
      exact ⟨before, n, after ++ [node], by simp, hadded⟩
    · exact ⟨nodes, node, [], rfl, h⟩

theorem selected_origin
    (h : assignment ∈ (passOver inputs nodes).selected) :
    ∃ before node after, nodes = before ++ node :: after ∧
      assign inputs (passOver inputs before) node = .ok assignment := by
  let added : Except BlockedReason SelectedAssignment → List SelectedAssignment
    | .ok a => [a]
    | .error _ => []
  obtain ⟨before, node, after, hnodes, hadded⟩ := added_origin (fun p => p.selected) added rfl
    (fun pass node => by
      rcases place_cases pass node with ⟨_, hassign, hselected, -⟩ | ⟨_, hassign, hselected, -⟩
      · rw [hassign, hselected]
      · rw [hassign, hselected]
        exact (append_nil _).symm) h
  refine ⟨before, node, after, hnodes, ?_⟩
  cases hassign : assign inputs (passOver inputs before) node with
  | ok a =>
    rw [hassign] at hadded
    rw [mem_singleton.mp hadded]
  | error reason =>
    rw [hassign] at hadded
    cases hadded

theorem blocked_origin {reason : BlockedReason} (h : reason ∈ (passOver inputs nodes).blocked) :
    ∃ before node after, nodes = before ++ node :: after ∧
      assign inputs (passOver inputs before) node = .error reason := by
  let added : Except BlockedReason SelectedAssignment → List BlockedReason
    | .ok _ => []
    | .error reason => [reason]
  obtain ⟨before, node, after, hnodes, hadded⟩ := added_origin (fun p => p.blocked) added rfl
    (fun pass node => by
      rcases place_cases pass node with ⟨_, hassign, -, hblocked⟩ | ⟨_, hassign, -, hblocked⟩
      · rw [hassign, hblocked]
        exact (append_nil _).symm
      · rw [hassign, hblocked]) h
  refine ⟨before, node, after, hnodes, ?_⟩
  cases hassign : assign inputs (passOver inputs before) node with
  | ok a =>
    rw [hassign] at hadded
    cases hadded
  | error reason =>
    rw [hassign] at hadded
    rw [mem_singleton.mp hadded]

/-- Each examined node stands once in the plan. -/
theorem passOver_partition (nodes : List TaskNode) :
    ((passOver inputs nodes).selected.map (fun s => s.nodeId) ++
      (passOver inputs nodes).blocked.map fun b => b.nodeId).Perm
        (nodes.map fun n => n.id) := by
  induction nodes using List.reverseRecOn with
  | nil => exact List.Perm.nil
  | append_singleton nodes node ih =>
    rw [passOver_snoc, map_append]
    rcases place_cases (passOver inputs nodes) node with
      ⟨assignment, hassign, hselected, hblocked⟩ | ⟨reason, hassign, hselected, hblocked⟩
    · obtain ⟨worker, -, rfl⟩ := assign_ok hassign
      rw [hselected, hblocked, map_append, append_assoc]
      refine (perm_append_comm_assoc _ _ _).trans ?_
      exact (List.Perm.append_left _ ih).trans perm_append_comm
    · rw [hselected, hblocked, map_append, ← append_assoc]
      have hid : reason.nodeId = node.id := (assign_error hassign).1
      simpa [hid] using ih.append_right [node.id]

/-- The workers of a plan are distinct, and they are no more than there is room for. -/
theorem passOver_workers (inputs : ScheduleInputs) (nodes : List TaskNode) :
    ((passOver inputs nodes).selected.map fun s => s.workerId).Nodup ∧
      ((passOver inputs nodes).selected.length : Int) ≤ max 0 inputs.capacity := by
  induction nodes using List.reverseRecOn with
  | nil => exact ⟨nodup_nil, le_max_left _ _⟩
  | append_singleton nodes node ih =>
    rw [passOver_snoc]
    rcases place_cases (passOver inputs nodes) node with
      ⟨assignment, hassign, hselected, -⟩ | ⟨reason, -, hselected, -⟩
    · obtain ⟨worker, hassignable, rfl⟩ := assign_ok hassign
      rw [hselected]
      constructor
      · rw [map_append]
        refine ih.1.append (nodup_singleton _) (disjoint_singleton.mpr ?_)
        have hfree := hassignable.free
        unfold SchedulePass.taken at hfree
        rw [any_eq_false] at hfree
        intro hmem
        obtain ⟨s, hs, hid⟩ := mem_map.mp hmem
        exact hfree s hs (by simpa using hid)
      · have hroom := hassignable.room
        rw [length_append, length_singleton]
        omega
    · rw [hselected]
      exact ih

end Passes

section Plans

variable {g : TaskGraph} {ready : ReadySetResult} {workers : List WorkerSnapshot}
  {policy : SchedulePolicy} {running : List (String × List String)}
  {eligibility : String → Option NodeEligibility} {plan : SchedulePlan}

/-- What the pass of a call is given. -/
def scheduleInputs (workers : List WorkerSnapshot) (policy : SchedulePolicy)
    (running : List (String × List String)) (eligibility : String → Option NodeEligibility) :
    ScheduleInputs where
  available := availableWorkers workers
  capacity := min policy.maxParallel (availableWorkers workers).length
  running := running
  eligibility := eligibility

/-- The ready nodes in the order in which they are examined. -/
def examined (g : TaskGraph) (nodes : List TaskNode) : List TaskNode :=
  nodes.insertionSort (ScheduledBefore (topologicalRank g))

theorem scheduleOnce_pass
    (h : scheduleOnce g ready workers policy running eligibility = some plan) :
    ∃ nodes, ready.readyIds.mapM g.node? = some nodes ∧
      plan.selected = (passOver (scheduleInputs workers policy running eligibility)
        (examined g nodes)).selected ∧
      plan.blocked = (passOver (scheduleInputs workers policy running eligibility)
        (examined g nodes)).blocked := by
  unfold scheduleOnce at h
  obtain ⟨nodes, hnodes, h⟩ := Option.bind_eq_some_iff.mp h
  cases h
  exact ⟨nodes, hnodes, rfl, rfl⟩

theorem ids_of_mapM_node? {ids : List String} (h : ids.mapM g.node? = some nodes) :
    nodes.map (fun n => n.id) = ids := by
  induction ids generalizing nodes with
  | nil =>
    cases h
    rfl
  | cons id ids ih =>
    rw [mapM_cons] at h
    obtain ⟨first, hfirst, h⟩ := Option.bind_eq_some_iff.mp h
    obtain ⟨rest, hrest, h⟩ := Option.bind_eq_some_iff.mp h
    cases h
    have hid : first.id = id := by simpa using List.find?_some hfirst
    rw [map_cons, ih hrest, hid]

theorem mem_examined {node : TaskNode} :
    node ∈ examined g nodes ↔ node ∈ nodes := mem_insertionSort _

theorem mem_availableWorkers {worker : WorkerSnapshot} :
    worker ∈ availableWorkers workers ↔
      worker ∈ workers ∧ worker.state = "READY" ∧ worker.reserved = false := by
  simp [availableWorkers]

theorem length_availableWorkers : (availableWorkers workers).length =
    (workers.filter fun w => w.state = "READY" && !w.reserved).length :=
  length_insertionSort _ _

/-- A plan names each ready node once; its workers are distinct, ready and fit for their nodes,
    and no more than there is room for; and what it selects writes apart from what runs and from
    each other. -/
theorem schedule_partitions_safely
    (h : scheduleOnce g ready workers policy running eligibility = some plan) :
    (plan.selected.map (fun s => s.nodeId) ++ plan.blocked.map fun b => b.nodeId).Perm
      ready.readyIds ∧
    (plan.selected.map (fun s => s.nodeId) ++ plan.blocked.map fun b => b.nodeId).Nodup ∧
    (plan.selected.map fun s => s.workerId).Nodup ∧
    (∀ s ∈ plan.selected, ∃ node ∈ g.nodes, ∃ worker ∈ workers,
      node.id = s.nodeId ∧ worker.workerId = s.workerId ∧ worker.state = "READY" ∧
      worker.reserved = false ∧ Fit node worker ∧ checkBindingIdentity node = .ok () ∧
      ∀ r ∈ running, writeSetsOverlap node.writeSet r.2 = false) ∧
    (plan.selected.length : Int) ≤ max 0 (min policy.maxParallel
      (workers.filter fun w => w.state = "READY" && !w.reserved).length) ∧
    plan.selected.Pairwise fun s t => ∀ a ∈ g.nodes, ∀ b ∈ g.nodes, a.id = s.nodeId →
      b.id = t.nodeId → writeSetsOverlap a.writeSet b.writeSet = false := by
  obtain ⟨picked, hpicked, hnodes, hapart⟩ := scheduleOnce_selected h
  obtain ⟨nodes, hready, hselected, hblocked⟩ := scheduleOnce_pass h
  have hids : ((examined g nodes).map fun n => n.id).Perm ready.readyIds := by
    rw [← ids_of_mapM_node? hready]
    exact (perm_insertionSort _ nodes).map _
  have hpartition : (plan.selected.map (fun s => s.nodeId) ++
      plan.blocked.map fun b => b.nodeId).Perm ready.readyIds := by
    rw [hselected, hblocked]
    exact (passOver_partition _).trans hids
  obtain ⟨hworkers, hroom⟩ := passOver_workers
    (scheduleInputs workers policy running eligibility) (examined g nodes)
  refine ⟨hpartition, hpartition.nodup_iff.mpr ready.readyUnique, ?_, ?_, ?_, ?_⟩
  · rw [hselected]
    exact hworkers
  · intro s hs
    rw [hselected] at hs
    obtain ⟨before, node, after, hsplit, hassign⟩ := selected_origin hs
    obtain ⟨worker, hassignable, rfl⟩ := assign_ok hassign
    have hmem : node ∈ examined g nodes := by
      rw [hsplit]
      simp
    obtain ⟨hworker, hstate, hreserved⟩ := mem_availableWorkers.mp hassignable.available
    exact ⟨node, (mem_of_mapM_node? hready (mem_examined.mp hmem)).1, worker, hworker, rfl, rfl,
      hstate, hreserved, hassignable.fit, hassignable.bound, hassignable.running⟩
  · rw [hselected, ← length_availableWorkers]
    exact hroom
  · have hmap : (picked.map fun n => n.id).Pairwise fun i j => ∀ a ∈ g.nodes, ∀ b ∈ g.nodes,
        a.id = i → b.id = j → writeSetsOverlap a.writeSet b.writeSet = false := by
      rw [pairwise_map]
      refine hapart.imp_of_mem ?_
      intro a b ha hb hab a' ha' b' hb' hida hidb
      rw [inj_on_of_nodup_map g.nodesUnique ha' (hnodes a ha).1 hida,
        inj_on_of_nodup_map g.nodesUnique hb' (hnodes b hb).1 hidb, writeSetsOverlap_comm]
      exact hab
    rw [← hpicked, pairwise_map] at hmap
    exact hmap

instance (rank : String → Nat) : Std.Total (ScheduledBefore rank) where
  total a b := by
    unfold ScheduledBefore
    rcases lt_trichotomy a.priority b.priority with hlt | heq | hgt
    · exact .inr (.inl hlt)
    · rcases lt_trichotomy (rank a.id) (rank b.id) with hrlt | hreq | hrgt
      · exact .inl (.inr ⟨heq, .inl hrlt⟩)
      · rcases String.le_total a.id b.id with hle | hle
        · exact .inl (.inr ⟨heq, .inr ⟨hreq, hle⟩⟩)
        · exact .inr (.inr ⟨heq.symm, .inr ⟨hreq.symm, hle⟩⟩)
      · exact .inr (.inr ⟨heq.symm, .inl hrgt⟩)
    · exact .inl (.inl hgt)

instance (rank : String → Nat) : IsTrans TaskNode (ScheduledBefore rank) where
  trans a b c hab hbc := by
    unfold ScheduledBefore at *
    rcases hab with hab | ⟨hab, hab'⟩
    · rcases hbc with hbc | ⟨hbc, -⟩
      · exact .inl (hbc.trans hab)
      · exact .inl (hbc ▸ hab)
    · rcases hbc with hbc | ⟨hbc, hbc'⟩
      · exact .inl (hab ▸ hbc)
      · refine .inr ⟨hab.trans hbc, ?_⟩
        rcases hab' with hab' | ⟨hab', hle⟩
        · rcases hbc' with hbc' | ⟨hbc', -⟩
          · exact .inl (hab'.trans hbc')
          · exact .inl (hbc' ▸ hab')
        · rcases hbc' with hbc' | ⟨hbc', hle'⟩
          · exact .inl (hab' ▸ hbc')
          · exact .inr ⟨hab'.trans hbc', String.le_trans hle hle'⟩

/-- Of two nodes that were examined, the one whose examination left no room for the other came
    first. -/
theorem examined_before {inputs : ScheduleInputs} {nodes before after before' after' : List TaskNode}
    {full node : TaskNode}
    (hfull : nodes = before ++ full :: after)
    (hcapacity : inputs.capacity ≤ (passOver inputs before).selected.length)
    (hnode : nodes = before' ++ node :: after')
    (hassign : assign inputs (passOver inputs before') node = .ok assignment)
    (hne : assign inputs (passOver inputs before) full ≠ .ok assignment) :
    ∃ middle, before = before' ++ node :: middle := by
  rcases append_eq_append_iff.mp (hfull.symm.trans hnode) with ⟨l, hl, hrest⟩ | ⟨l, hl, hrest⟩
  · -- the node is examined no sooner, when there is no room
    exfalso
    have hgrows : (passOver inputs before).selected.length ≤
        (passOver inputs before').selected.length := by
      rw [hl]
      exact (selected_grows before l).length_le
    obtain ⟨worker, hassignable, -⟩ := assign_ok hassign
    have hroom := hassignable.room
    omega
  · cases l with
    | nil =>
      rw [append_nil] at hl
      rw [nil_append] at hrest
      cases hrest
      rw [hl] at hne
      exact absurd hassign hne
    | cons first middle =>
      cases hrest
      exact ⟨middle, hl⟩

/-- The write sets of a pass are those of the nodes it has selected. -/
theorem mem_batchWriteSets {inputs : ScheduleInputs} {writeSet : List String}
    (h : writeSet ∈ (passOver inputs nodes).batchWriteSets) :
    ∃ node ∈ nodes, node.writeSet = writeSet ∧
      node.id ∈ (passOver inputs nodes).selected.map fun s => s.nodeId := by
  have start : Picked {} [] := ⟨rfl, rfl, List.Pairwise.nil⟩
  obtain ⟨picked, hsub, hpicked⟩ := picked_foldl inputs nodes start
  rw [nil_append] at hpicked
  unfold passOver at h ⊢
  rw [hpicked.batch, mem_filter, mem_map] at h
  obtain ⟨⟨node, hnode, rfl⟩, -⟩ := h
  refine ⟨node, hsub.subset hnode, rfl, ?_⟩
  rw [hpicked.selected]
  exact mem_map_of_mem hnode

/-- No blocked node that passes its own checks could join the plan with a worker that is still
    unused, and what is blocked for capacity comes behind everything that is selected. -/
theorem schedule_maximal
    (h : scheduleOnce g ready workers policy running eligibility = some plan) :
    (∀ b ∈ plan.blocked, ∀ node ∈ g.nodes, node.id = b.nodeId →
      (∀ e, eligibility node.id = some e → e.eligible = true) →
      checkBindingIdentity node = .ok () →
      ¬ ∃ worker ∈ workers, worker.state = "READY" ∧ worker.reserved = false ∧
        worker.workerId ∉ plan.selected.map (fun s => s.workerId) ∧ Fit node worker ∧
        (plan.selected.length : Int) + 1 ≤ policy.maxParallel ∧
        (∀ s ∈ plan.selected, ∀ n ∈ g.nodes, n.id = s.nodeId →
          writeSetsOverlap node.writeSet n.writeSet = false) ∧
        ∀ r ∈ running, writeSetsOverlap node.writeSet r.2 = false) ∧
    ∀ b ∈ plan.blocked, b.kind = .capacity → ∀ s ∈ plan.selected,
      ∀ nb ∈ g.nodes, ∀ ns ∈ g.nodes, nb.id = b.nodeId → ns.id = s.nodeId →
      ns ≠ nb ∧ ScheduledBefore (topologicalRank g) ns nb := by
  obtain ⟨nodes, hready, hselected, hblocked⟩ := scheduleOnce_pass h
  have hknown {node : TaskNode} (hmem : node ∈ examined g nodes) : node ∈ g.nodes :=
    (mem_of_mapM_node? hready (mem_examined.mp hmem)).1
  have hnodup : ((examined g nodes).map fun n => n.id).Nodup := by
    have hperm := (perm_insertionSort (ScheduledBefore (topologicalRank g)) nodes).map
      fun n => n.id
    rw [ids_of_mapM_node? hready] at hperm
    exact hperm.nodup_iff.mpr ready.readyUnique
  refine ⟨?_, ?_⟩
  · rintro b hb node hnode hid heligible hbound ⟨worker, hworker, hstate, hreserved, hunused, hfit,
      hroom, hapart, hrunning⟩
    rw [hblocked] at hb
    obtain ⟨before, examinedNode, after, hsplit, hassign⟩ := blocked_origin hb
    have hmem : examinedNode ∈ examined g nodes := by
      rw [hsplit]
      simp
    obtain rfl : examinedNode = node := inj_on_of_nodup_map g.nodesUnique (hknown hmem) hnode
      ((assign_error hassign).1.symm.trans hid.symm)
    -- what was selected by then is part of the plan
    have hgrows : (passOver (scheduleInputs workers policy running eligibility) before).selected
        <+: plan.selected := by
      rw [hselected, hsplit]
      exact selected_grows before _
    have havailable := mem_availableWorkers.mpr ⟨hworker, hstate, hreserved⟩
    have hspare : plan.selected.length < (availableWorkers workers).length := by
      obtain ⟨hworkers, -⟩ := passOver_workers
        (scheduleInputs workers policy running eligibility) (examined g nodes)
      rw [← hselected] at hworkers
      have hcons := nodup_cons.mpr ⟨hunused, hworkers⟩
      have hsubset : worker.workerId :: plan.selected.map (fun s => s.workerId) ⊆
          (availableWorkers workers).map fun w => w.workerId := by
        intro id hmem
        rcases mem_cons.mp hmem with rfl | hmem
        · exact mem_map_of_mem havailable
        · obtain ⟨s, hs, rfl⟩ := mem_map.mp hmem
          rw [hselected] at hs
          obtain ⟨_, _, _, -, hs⟩ := selected_origin hs
          obtain ⟨w, hassignable, rfl⟩ := assign_ok hs
          exact mem_map_of_mem hassignable.available
      have hle := (hcons.subperm hsubset).length_le
      simpa using hle
    have hassignable : Assignable (scheduleInputs workers policy running eligibility)
        (passOver (scheduleInputs workers policy running eligibility) before) examinedNode
        worker := by
      refine ⟨?_, ?_, hbound, havailable, ?_, hfit, hrunning, ?_⟩
      · unfold checkEligibility
        split
        · rfl
        · rename_i e he
          rw [if_pos (heligible e he)]
      · have hle := hgrows.length_le
        show _ < min policy.maxParallel _
        omega
      · unfold SchedulePass.taken
        rw [any_eq_false]
        intro s hs hsame
        exact hunused (mem_map.mpr ⟨s, hgrows.subset hs, by simpa using hsame⟩)
      · intro writeSet hwrite
        obtain ⟨n, hn, rfl, hnid⟩ := mem_batchWriteSets hwrite
        obtain ⟨s, hs, hsid⟩ := mem_map.mp hnid
        have hnmem : n ∈ examined g nodes := by
          rw [hsplit]
          exact mem_append_left _ hn
        exact hapart s (hgrows.subset hs) n (hknown hnmem) hsid.symm
    obtain ⟨assignment, hok⟩ := assign_of_assignable hassignable
    rw [hassign] at hok
    cases hok
  · intro b hb hkind s hs nb hnb ns hns hbid hsid
    rw [hblocked] at hb
    rw [hselected] at hs
    obtain ⟨before, full, after, hfull, herror⟩ := blocked_origin hb
    obtain ⟨before', node, after', hnode, hassign⟩ := selected_origin hs
    obtain ⟨hfullId, hcapacity⟩ := assign_error herror
    obtain ⟨middle, hbefore⟩ := examined_before hfull (hcapacity hkind) hnode hassign
      (by rw [herror]; nofun)
    obtain ⟨worker, -, rfl⟩ := assign_ok hassign
    have hsplit : examined g nodes = before' ++ node :: (middle ++ full :: after) := by
      rw [hfull, hbefore]
      simp
    obtain rfl : full = nb := inj_on_of_nodup_map g.nodesUnique
      (hknown (by rw [hsplit]; simp)) hnb (hfullId.symm.trans hbid.symm)
    obtain rfl : node = ns := inj_on_of_nodup_map g.nodesUnique
      (hknown (by rw [hsplit]; simp)) hns hsid.symm
    have hpair : [node, full].Sublist (examined g nodes) := by
      rw [hsplit]
      refine List.Sublist.trans ?_ (sublist_append_right _ _)
      exact List.Sublist.cons_cons _ (singleton_sublist.mpr (by simp))
    constructor
    · rintro rfl
      have hdup := hnodup.sublist (hpair.map fun n => n.id)
      simp at hdup
    · have hsorted := pairwise_insertionSort (ScheduledBefore (topologicalRank g)) nodes
      exact rel_of_pairwise_cons (hsorted.sublist hpair) mem_cons_self

end Plans

/-- Two nodes that write one file, and one free worker. -/
def twoWritersGraph : TaskGraph where
  nodes := sharedFileGraph.nodes
  edges := []
  nodesUnique := sharedFileGraph.nodesUnique
  edgesUnique := nodup_nil
  endpoints := by decide

def twoWritersPlan : SchedulePlan where
  selected := [{ nodeId := "draft", workerId := "w1" }]
  blocked := [⟨"review", "capacity: all slots filled", .capacity⟩]
  capacityEvidence := "capacity=1/5 workers_ready=1/1 selected=1 blocked=1"

theorem scheduleOnce_two_writers :
    scheduleOnce twoWritersGraph (computeReadySet twoWritersGraph fun _ => .todo)
      [{ workerId := "w1", project := some "p1" }] {} [] (fun _ => none) =
        some twoWritersPlan := by
  decide +kernel

theorem schedule_partitions_safely_two_writers :
    twoWritersPlan.selected ≠ [] ∧ ["draft", "review"].Perm
      (computeReadySet twoWritersGraph fun _ => .todo).readyIds :=
  ⟨by decide, (schedule_partitions_safely scheduleOnce_two_writers).1⟩

/-- One node may run at a time and one is running: a second one is selected for a free worker. -/
theorem schedule_counts_no_running :
    ¬ ∀ (g : TaskGraph) (ready : ReadySetResult) (workers : List WorkerSnapshot)
      (policy : SchedulePolicy) (running : List (String × List String))
      (eligibility : String → Option NodeEligibility) (plan : SchedulePlan),
      scheduleOnce g ready workers policy running eligibility = some plan →
        (plan.selected.length : Int) ≤ max 0 (policy.maxParallel - running.length) := by
  intro h
  have hbound := h twoWritersGraph (computeReadySet twoWritersGraph fun _ => .todo)
    [{ workerId := "w1", project := some "p1" }] { maxParallel := 1 } [("build", ["build.log"])]
    (fun _ => none)
    { twoWritersPlan with
      capacityEvidence := "capacity=1/1 workers_ready=1/1 selected=1 blocked=1" }
    (by decide +kernel)
  revert hbound
  decide

/-- The second writer waits behind the first. -/
theorem schedule_maximal_two_writers :
    ScheduledBefore (topologicalRank twoWritersGraph) (writerNode "draft" (.inl rfl))
      (writerNode "review" (.inr rfl)) :=
  ((schedule_maximal scheduleOnce_two_writers).2 _ mem_cons_self rfl _ mem_cons_self
    (writerNode "review" (.inr rfl)) (by decide) (writerNode "draft" (.inl rfl)) (by decide)
    rfl rfl).2

end AConductor.Graph

import AConductor.Graph.Dag
import AConductor.Graph.Ready
import AConductor.Lib.Transaction

/-!
# The scheduler

`schedule_once` (`src/a_conductor/graph/scheduler.py:138-407`) over a ready set: the
ready nodes in the order of their priority, topological rank and id, each of them either
assigned to a worker or blocked for a reason. A node passes its checks one behind the
other, and the first that fails is the reason.
-/

namespace AConductor.Graph

open List Except

/-- `WorkerSnapshot` (`scheduler.py:31-41`). -/
structure WorkerSnapshot where
  workerId : String
  state : String := "READY"
  capabilities : List String := []
  reserved : Bool := false
  project : Option String := none
  workspace : Option String := none
  mutationAuthorized : Bool := true
  deriving DecidableEq, Repr

/-- `NodeEligibility` (`scheduler.py:44-76`). -/
structure NodeEligibility where
  gateRefused : Bool := false
  humanApprovalPending : Bool := false
  providerUnavailable : Bool := false
  rateLimited : Bool := false
  deriving DecidableEq, Repr

def NodeEligibility.eligible (e : NodeEligibility) : Bool :=
  !(e.gateRefused || e.humanApprovalPending || e.providerUnavailable || e.rateLimited)

def NodeEligibility.reason (e : NodeEligibility) : String :=
  if e.gateRefused then "gate refusal (NO-GO)"
  else if e.humanApprovalPending then "human approval pending"
  else if e.providerUnavailable then "provider unavailable"
  else if e.rateLimited then "rate limited / quota exhausted"
  else "eligible"

/-- `BlockedReasonKind` (`scheduler.py:79-96`). -/
inductive BlockedReasonKind where
  | gateNoGo
  | humanApprovalWait
  | providerWait
  | rateLimitWait
  | capacity
  | capability
  | noWorkers
  | identity
  | conflict
  | binding
  deriving DecidableEq, Repr

/-- `SchedulePolicy` (`scheduler.py:99-103`). -/
structure SchedulePolicy where
  maxParallel : Int := 5
  deriving DecidableEq, Repr

/-- `SelectedAssignment` (`scheduler.py:106-112`). -/
structure SelectedAssignment where
  nodeId : String
  workerId : String
  priority : Int := 0
  deriving DecidableEq, Repr

/-- `BlockedReason` (`scheduler.py:115-121`). -/
structure BlockedReason where
  nodeId : String
  reason : String
  kind : BlockedReasonKind
  deriving DecidableEq, Repr

/-- `SchedulePlan` (`scheduler.py:124-134`). -/
structure SchedulePlan where
  selected : List SelectedAssignment
  blocked : List BlockedReason
  capacityEvidence : String
  deriving DecidableEq, Repr

/-- `_parse_binding` (`analyze.py:33-44`) followed by `.get(key)`: the last part under a key
    counts. -/
def bindingOf (node : TaskNode) (key : String) : Option String :=
  (((Text.split '|' (node.modelRequirement.getD "")).filterMap (Text.partition ':')).reverse.find?
    fun part => part.1 = key).map Prod.snd

/-- `_worker_identity_allows` (`scheduler.py:156-170`). -/
def workerIdentityAllows (worker : WorkerSnapshot) (node : TaskNode) : Bool :=
  node.writeSet = [] ||
    ((bindingOf node "project").all (fun p => worker.project = some p) &&
      (bindingOf node "ws").all (fun w => worker.workspace = some w) && worker.mutationAuthorized)

def WorkerSnapshot.capable (worker : WorkerSnapshot) (node : TaskNode) : Bool :=
  node.workerRequirement.all fun cap => worker.capabilities.elem cap

/-- What a pass is given: the free workers by id, the capacity, the write sets of the running
    nodes and the injected eligibility. -/
structure ScheduleInputs where
  available : List WorkerSnapshot
  capacity : Int
  running : List (String × List String)
  eligibility : String → Option NodeEligibility

/-- What a pass has decided so far. -/
structure SchedulePass where
  selected : List SelectedAssignment := []
  blocked : List BlockedReason := []
  batchWriteSets : List (List String) := []

def SchedulePass.taken (pass : SchedulePass) (workerId : String) : Bool :=
  pass.selected.any fun s => s.workerId = workerId

def blockedFor {α : Type} (node : TaskNode) (kind : BlockedReasonKind) (reason : String) :
    Except BlockedReason α := .error ⟨node.id, reason, kind⟩

/-- `kind_by_reason` (`scheduler.py:212-216`). -/
def eligibilityKind (reason : String) : BlockedReasonKind :=
  if reason = "gate refusal (NO-GO)" then .gateNoGo
  else if reason = "human approval pending" then .humanApprovalWait
  else if reason = "provider unavailable" then .providerWait
  else .rateLimitWait

def checkEligibility (inputs : ScheduleInputs) (node : TaskNode) : Except BlockedReason Unit :=
  match inputs.eligibility node.id with
  | none => .ok ()
  | some e =>
    if e.eligible then .ok ()
    else blockedFor node (eligibilityKind e.reason) ("eligibility: " ++ e.reason)

def checkCapacity (inputs : ScheduleInputs) (pass : SchedulePass) (node : TaskNode) :
    Except BlockedReason Unit :=
  if inputs.capacity ≤ pass.selected.length then
    blockedFor node .capacity "capacity: all slots filled"
  else .ok ()

def checkBindingIdentity (node : TaskNode) : Except BlockedReason Unit :=
  if node.writeSet ≠ [] ∧ bindingOf node "project" = none ∧ bindingOf node "ws" = none then
    blockedFor node .identity
      "identity: mutating node lacks project/workspace binding (fail closed)"
  else .ok ()

/-- The workers a node may go to (`scheduler.py:251-280`): an explicit binding leaves one. -/
def candidateWorkers (inputs : ScheduleInputs) (pass : SchedulePass) (node : TaskNode) :
    Except BlockedReason (List WorkerSnapshot) :=
  match bindingOf node "worker" with
  | none => .ok inputs.available
  | some bound =>
    if pass.taken bound then
      blockedFor node .binding
        ("binding: bound worker " ++ bound ++ " already assigned this batch")
    else if inputs.available.filter (fun w => w.workerId = bound) = [] then
      blockedFor node .binding
        ("binding: bound worker " ++ bound ++ " is not available (missing, not READY, or reserved)")
    else .ok (inputs.available.filter fun w => w.workerId = bound)

/-- What the search for a worker ends with (`scheduler.py:282-298`). -/
structure WorkerSearch where
  assigned : Option WorkerSnapshot := none
  capabilityMatched : Bool := false
  identityMatched : Bool := false

def searchWorker (pass : SchedulePass) (node : TaskNode) : List WorkerSnapshot → WorkerSearch
  | [] => {}
  | worker :: rest =>
    if pass.taken worker.workerId then searchWorker pass node rest
    else if !worker.capable node then searchWorker pass node rest
    else if !workerIdentityAllows worker node then
      { searchWorker pass node rest with capabilityMatched := true }
    else { assigned := some worker, capabilityMatched := true, identityMatched := true }

/-- Why no worker was found (`scheduler.py:300-353`). -/
def unassigned (inputs : ScheduleInputs) (node : TaskNode) (search : WorkerSearch) :
    BlockedReasonKind × String :=
  if inputs.available = [] then (.noWorkers, "no available workers")
  else match bindingOf node "worker" with
  | some bound =>
    (.binding, "binding: bound worker " ++ bound ++ " " ++
      if !search.capabilityMatched then "lacks the required capability"
      else "fails project/workspace identity or mutation authority requirements")
  | none =>
    if !search.capabilityMatched then (.capability, "capability: no matching worker")
    else if node.writeSet ≠ [] ∧ search.identityMatched = false then
      (.identity,
        "identity: no worker with matching project/workspace identity and mutation authority")
    else (.capability, "capability: no matching worker")

def chooseWorker (inputs : ScheduleInputs) (pass : SchedulePass) (node : TaskNode)
    (candidates : List WorkerSnapshot) : Except BlockedReason WorkerSnapshot :=
  match (searchWorker pass node candidates).assigned with
  | some worker => .ok worker
  | none =>
    blockedFor node (unassigned inputs node (searchWorker pass node candidates)).1
      (unassigned inputs node (searchWorker pass node candidates)).2

/-- The running nodes are asked before the batch (`scheduler.py:355-387`). -/
def checkConflicts (inputs : ScheduleInputs) (pass : SchedulePass) (node : TaskNode) :
    Except BlockedReason Unit :=
  if node.writeSet = [] then .ok ()
  else match inputs.running.find? fun r => writeSetsOverlap node.writeSet r.2 with
  | some running => blockedFor node .conflict ("resource conflict with running " ++ running.1)
  | none =>
    if pass.batchWriteSets.any fun writeSet => writeSetsOverlap node.writeSet writeSet then
      blockedFor node .conflict "resource conflict in same batch"
    else .ok ()

/-- The checks of one node (`scheduler.py:207-397`). -/
def assign (inputs : ScheduleInputs) (pass : SchedulePass) (node : TaskNode) :
    Except BlockedReason SelectedAssignment := do
  checkEligibility inputs node
  checkCapacity inputs pass node
  checkBindingIdentity node
  let candidates ← candidateWorkers inputs pass node
  let worker ← chooseWorker inputs pass node candidates
  checkConflicts inputs pass node
  pure { nodeId := node.id, workerId := worker.workerId, priority := node.priority }

/-- One round of the loop. -/
def place (inputs : ScheduleInputs) (pass : SchedulePass) (node : TaskNode) : SchedulePass :=
  match assign inputs pass node with
  | .error reason => { pass with blocked := pass.blocked ++ [reason] }
  | .ok assignment =>
    { pass with
      selected := pass.selected ++ [assignment]
      batchWriteSets := pass.batchWriteSets ++ if node.writeSet = [] then [] else [node.writeSet] }

/-- `_topological_rank` (`scheduler.py:138-143`); a missing node ranks behind all others. -/
def topologicalRank (g : TaskGraph) (nodeId : String) : Nat :=
  (topologicalSort g).order.idxOf nodeId

/-- The order of the ready nodes (`scheduler.py:201-205`). -/
def ScheduledBefore (rank : String → Nat) (a b : TaskNode) : Prop :=
  b.priority < a.priority ∨ (a.priority = b.priority ∧
    (rank a.id < rank b.id ∨ (rank a.id = rank b.id ∧ a.id ≤ b.id)))

instance (rank : String → Nat) : DecidableRel (ScheduledBefore rank) := fun a b =>
  inferInstanceAs (Decidable (b.priority < a.priority ∨ (a.priority = b.priority ∧
    (rank a.id < rank b.id ∨ (rank a.id = rank b.id ∧ a.id ≤ b.id)))))

def availableWorkers (workers : List WorkerSnapshot) : List WorkerSnapshot :=
  (workers.filter fun w => w.state = "READY" && !w.reserved).insertionSort
    fun a b => a.workerId ≤ b.workerId

/-- `schedule_once` (`scheduler.py:173-407`); `none` is the `KeyError` of a ready id that is
    no node. -/
def scheduleOnce (g : TaskGraph) (ready : ReadySetResult) (workers : List WorkerSnapshot)
    (policy : SchedulePolicy) (running : List (String × List String))
    (eligibility : String → Option NodeEligibility) : Option SchedulePlan := do
  let nodes ← ready.readyIds.mapM g.node?
  let available := availableWorkers workers
  let inputs : ScheduleInputs :=
    { available, capacity := min policy.maxParallel available.length, running, eligibility }
  let readyNodes := nodes.insertionSort (ScheduledBefore (topologicalRank g))
  let pass := readyNodes.foldl (place inputs) {}
  pure
    { selected := pass.selected, blocked := pass.blocked
      capacityEvidence :=
        "capacity=" ++ toString inputs.capacity ++ "/" ++ toString policy.maxParallel ++
        " workers_ready=" ++ toString available.length ++ "/" ++ toString workers.length ++
        " selected=" ++ toString pass.selected.length ++
        " blocked=" ++ toString pass.blocked.length }

/-! ### The checks of one node -/

/-- The worker is fit for the node: it has the capabilities, and the identity and authority for
    what the node writes, and an explicit binding names it. -/
structure Fit (node : TaskNode) (worker : WorkerSnapshot) : Prop where
  capable : worker.capable node = true
  identity : workerIdentityAllows worker node = true
  binding : ∀ bound, bindingOf node "worker" = some bound → worker.workerId = bound

/-- The node passes every check, with this worker. -/
structure Assignable (inputs : ScheduleInputs) (pass : SchedulePass) (node : TaskNode)
    (worker : WorkerSnapshot) : Prop where
  eligible : checkEligibility inputs node = .ok ()
  room : (pass.selected.length : Int) < inputs.capacity
  bound : checkBindingIdentity node = .ok ()
  available : worker ∈ inputs.available
  free : pass.taken worker.workerId = false
  fit : Fit node worker
  running : ∀ r ∈ inputs.running, writeSetsOverlap node.writeSet r.2 = false
  batch : ∀ writeSet ∈ pass.batchWriteSets, writeSetsOverlap node.writeSet writeSet = false

variable {pass : SchedulePass} {inputs : ScheduleInputs} {node : TaskNode}
  {candidates : List WorkerSnapshot} {worker : WorkerSnapshot}

theorem checkCapacity_eq_ok :
    checkCapacity inputs pass node = .ok () ↔ (pass.selected.length : Int) < inputs.capacity := by
  unfold checkCapacity blockedFor
  split
  · simp_all
  · simp_all

theorem checkConflicts_eq_ok : checkConflicts inputs pass node = .ok () ↔
      (∀ r ∈ inputs.running, writeSetsOverlap node.writeSet r.2 = false) ∧
      ∀ writeSet ∈ pass.batchWriteSets, writeSetsOverlap node.writeSet writeSet = false := by
  unfold checkConflicts blockedFor
  by_cases hwrites : node.writeSet = []
  · rw [if_pos hwrites, hwrites]
    exact ⟨fun _ => ⟨fun _ _ => rfl, fun _ _ => rfl⟩, fun _ => rfl⟩
  · rw [if_neg hwrites]
    cases hrunning : inputs.running.find? fun r => writeSetsOverlap node.writeSet r.2 with
    | some r =>
      have hmem := mem_of_find?_eq_some hrunning
      have hoverlap := List.find?_some hrunning
      refine ⟨fun h => (by cases h), fun h => ?_⟩
      rw [h.1 r hmem] at hoverlap
      cases hoverlap
    | none =>
      have hapart : ∀ r ∈ inputs.running, writeSetsOverlap node.writeSet r.2 = false := by
        simpa using List.find?_eq_none.mp hrunning
      dsimp only
      split
      · rename_i hany
        obtain ⟨writeSet, hmem, hoverlap⟩ := any_eq_true.mp hany
        refine ⟨fun h => (by cases h), fun h => ?_⟩
        rw [h.2 writeSet hmem] at hoverlap
        cases hoverlap
      · rename_i hany
        exact ⟨fun _ => ⟨hapart, by simpa using hany⟩, fun _ => rfl⟩

/-- The workers that are searched: the available ones that an explicit binding leaves. -/
theorem candidateWorkers_ok (h : candidateWorkers inputs pass node = .ok candidates) :
    ∀ worker, worker ∈ candidates ↔ worker ∈ inputs.available ∧
      ∀ bound, bindingOf node "worker" = some bound → worker.workerId = bound := by
  unfold candidateWorkers blockedFor at h
  intro worker
  cases hbound : bindingOf node "worker" with
  | none =>
    rw [hbound] at h
    cases h
    simp
  | some bound =>
    rw [hbound] at h
    dsimp only at h
    split at h
    · cases h
    · split at h
      · cases h
      · cases h
        simp

/-- With a free worker that the binding allows the search takes place. -/
theorem candidateWorkers_of_free (havailable : worker ∈ inputs.available)
    (hfree : pass.taken worker.workerId = false)
    (hbinding : ∀ bound, bindingOf node "worker" = some bound → worker.workerId = bound) :
    ∃ candidates, candidateWorkers inputs pass node = .ok candidates := by
  unfold candidateWorkers
  cases hbound : bindingOf node "worker" with
  | none => exact ⟨_, rfl⟩
  | some bound =>
    obtain rfl := hbinding bound hbound
    have hfound : inputs.available.filter (fun w => w.workerId = worker.workerId) ≠ [] := by
      intro hnil
      have hout := filter_eq_nil_iff.mp hnil worker havailable
      simp at hout
    simp [hfree, hfound]

theorem searchWorker_some (h : (searchWorker pass node candidates).assigned = some worker) :
    worker ∈ candidates ∧ pass.taken worker.workerId = false ∧ worker.capable node = true ∧
      workerIdentityAllows worker node = true := by
  induction candidates with
  | nil => cases h
  | cons first rest ih =>
    rw [searchWorker] at h
    by_cases htaken : pass.taken first.workerId = true
    · rw [if_pos htaken] at h
      exact ⟨mem_cons_of_mem _ (ih h).1, (ih h).2⟩
    · rw [if_neg htaken] at h
      by_cases hcapable : first.capable node = true
      · rw [if_neg (by simp [hcapable])] at h
        by_cases hidentity : workerIdentityAllows first node = true
        · rw [if_neg (by simp [hidentity])] at h
          cases h
          exact ⟨mem_cons_self, by simpa using htaken, hcapable, hidentity⟩
        · rw [if_pos (by simp [hidentity])] at h
          exact ⟨mem_cons_of_mem _ (ih h).1, (ih h).2⟩
      · rw [if_pos (by simp [hcapable])] at h
        exact ⟨mem_cons_of_mem _ (ih h).1, (ih h).2⟩

/-- A fit worker that is free ends the search. -/
theorem searchWorker_of_fit (hmem : worker ∈ candidates)
    (hfree : pass.taken worker.workerId = false) (hcapable : worker.capable node = true)
    (hidentity : workerIdentityAllows worker node = true) :
    ∃ found, (searchWorker pass node candidates).assigned = some found := by
  induction candidates with
  | nil => cases hmem
  | cons first rest ih =>
    rw [searchWorker]
    rcases mem_cons.mp hmem with rfl | hmem
    · simp [hfree, hcapable, hidentity]
    · obtain ⟨found, hfound⟩ := ih hmem
      split
      · exact ⟨found, hfound⟩
      · split
        · exact ⟨found, hfound⟩
        · split
          · exact ⟨found, hfound⟩
          · exact ⟨first, rfl⟩

theorem chooseWorker_eq_ok : chooseWorker inputs pass node candidates = .ok worker ↔
      (searchWorker pass node candidates).assigned = some worker := by
  unfold chooseWorker blockedFor
  cases (searchWorker pass node candidates).assigned with
  | none => simp
  | some found => simp

/-- A node that is assigned passed every check. -/
theorem assign_ok {assignment : SelectedAssignment} (h : assign inputs pass node = .ok assignment) :
    ∃ worker, Assignable inputs pass node worker ∧ assignment =
      { nodeId := node.id, workerId := worker.workerId, priority := node.priority } := by
  unfold assign at h
  obtain ⟨_, heligible, h⟩ := bind_eq_ok.mp h
  obtain ⟨_, hroom, h⟩ := bind_eq_ok.mp h
  obtain ⟨_, hbound, h⟩ := bind_eq_ok.mp h
  obtain ⟨candidates, hcandidates, h⟩ := bind_eq_ok.mp h
  obtain ⟨worker, hworker, h⟩ := bind_eq_ok.mp h
  obtain ⟨_, hconflicts, h⟩ := bind_eq_ok.mp h
  cases h
  obtain ⟨hmem, hfree, hcapable, hidentity⟩ := searchWorker_some (chooseWorker_eq_ok.mp hworker)
  obtain ⟨havailable, hbinding⟩ := (candidateWorkers_ok hcandidates worker).mp hmem
  obtain ⟨hrunning, hbatch⟩ := checkConflicts_eq_ok.mp hconflicts
  exact ⟨worker, ⟨heligible, checkCapacity_eq_ok.mp hroom, hbound, havailable, hfree,
    ⟨hcapable, hidentity, hbinding⟩, hrunning, hbatch⟩, rfl⟩

/-- A node that some worker lets pass every check is assigned, if not to that worker. -/
theorem assign_of_assignable (h : Assignable inputs pass node worker) :
    ∃ assignment, assign inputs pass node = .ok assignment := by
  obtain ⟨candidates, hcandidates⟩ := candidateWorkers_of_free h.available h.free h.fit.binding
  have hmem := (candidateWorkers_ok hcandidates worker).mpr ⟨h.available, h.fit.binding⟩
  obtain ⟨found, hfound⟩ := searchWorker_of_fit hmem h.free h.fit.capable h.fit.identity
  refine ⟨{ nodeId := node.id, workerId := found.workerId, priority := node.priority }, ?_⟩
  unfold assign
  rw [h.eligible, checkCapacity_eq_ok.mpr h.room, h.bound, hcandidates]
  simp only [ok_bind]
  rw [chooseWorker_eq_ok.mpr hfound, ok_bind,
    checkConflicts_eq_ok.mpr ⟨h.running, h.batch⟩]
  rfl

/-! ### What a pass selects -/

/-- The nodes a pass has selected: pairwise apart, and apart from what runs. -/
structure Picked (pass : SchedulePass) (picked : List TaskNode) : Prop where
  selected : pass.selected.map (fun s => s.nodeId) = picked.map fun n => n.id
  batch : pass.batchWriteSets = (picked.map fun n => n.writeSet).filter (· ≠ [])
  apart : picked.Pairwise fun a b => writeSetsOverlap b.writeSet a.writeSet = false

/-- A node is left out of the selection or stands at its end. -/
theorem picked_place (inputs : ScheduleInputs) {picked : List TaskNode} (h : Picked pass picked)
    (node : TaskNode) :
    Picked (place inputs pass node) picked ∨
      Picked (place inputs pass node) (picked ++ [node]) := by
  unfold place
  cases hassign : assign inputs pass node with
  | error reason => exact .inl ⟨h.selected, h.batch, h.apart⟩
  | ok assignment =>
    obtain ⟨worker, hassignable, rfl⟩ := assign_ok hassign
    refine .inr ⟨?_, ?_, ?_⟩
    · simp [h.selected]
    · rw [h.batch, map_append, filter_append]
      by_cases hwrites : node.writeSet = []
      · simp [hwrites]
      · simp [hwrites]
    · refine pairwise_append.mpr ⟨h.apart, pairwise_singleton _ _, ?_⟩
      intro a ha b hb
      rw [mem_singleton] at hb
      subst hb
      by_cases hwrites : a.writeSet = []
      · rw [hwrites]
        exact writeSetsOverlap_nil_right _
      · apply hassignable.batch
        rw [h.batch, mem_filter]
        exact ⟨mem_map_of_mem ha, by simpa using hwrites⟩

theorem picked_foldl (inputs : ScheduleInputs) (nodes : List TaskNode) {picked : List TaskNode}
    (h : Picked pass picked) :
    ∃ more, more.Sublist nodes ∧ Picked (nodes.foldl (place inputs) pass) (picked ++ more) := by
  induction nodes generalizing pass picked with
  | nil => exact ⟨[], List.Sublist.refl _, by simpa using h⟩
  | cons node nodes ih =>
    rcases picked_place inputs h node with hskip | htake
    · obtain ⟨more, hsub, hpicked⟩ := ih hskip
      exact ⟨more, hsub.cons _, hpicked⟩
    · obtain ⟨more, hsub, hpicked⟩ := ih htake
      refine ⟨node :: more, hsub.cons_cons _, ?_⟩
      rw [append_assoc] at hpicked
      exact hpicked

/-! ### The nodes of the ready ids -/

variable {g : TaskGraph}

theorem mem_of_mapM_node? {ids : List String} {nodes : List TaskNode}
    (h : ids.mapM g.node? = some nodes) {n : TaskNode} (hn : n ∈ nodes) :
    n ∈ g.nodes ∧ n.id ∈ ids := by
  induction ids generalizing nodes with
  | nil =>
    cases h
    cases hn
  | cons id ids ih =>
    rw [mapM_cons] at h
    obtain ⟨first, hfirst, h⟩ := Option.bind_eq_some_iff.mp h
    obtain ⟨rest, hrest, h⟩ := Option.bind_eq_some_iff.mp h
    cases h
    rcases mem_cons.mp hn with rfl | hn
    · have hid : n.id = id := by simpa using List.find?_some hfirst
      exact ⟨mem_of_find?_eq_some hfirst, by simp [hid]⟩
    · obtain ⟨hmem, hid⟩ := ih hrest hn
      exact ⟨hmem, mem_cons_of_mem _ hid⟩

theorem mapM_node?_eq_some {ids : List String} (h : ∀ id ∈ ids, id ∈ g.nodeIds) :
    ∃ nodes, ids.mapM g.node? = some nodes := by
  induction ids with
  | nil => exact ⟨[], rfl⟩
  | cons id ids ih =>
    obtain ⟨node, hnode, hid⟩ := mem_map.mp (h id mem_cons_self)
    obtain ⟨rest, hrest⟩ := ih fun i hi => h i (mem_cons_of_mem _ hi)
    have hfirst := g.node?_of_mem hnode
    rw [hid] at hfirst
    refine ⟨node :: rest, ?_⟩
    rw [mapM_cons, hfirst, hrest]
    rfl

/-- The selected nodes of a plan are ready nodes, with write sets that are pairwise apart. -/
theorem scheduleOnce_selected {ready : ReadySetResult} {workers : List WorkerSnapshot}
    {policy : SchedulePolicy} {running : List (String × List String)}
    {eligibility : String → Option NodeEligibility} {plan : SchedulePlan}
    (h : scheduleOnce g ready workers policy running eligibility = some plan) :
    ∃ picked : List TaskNode, plan.selected.map (fun s => s.nodeId) = picked.map (fun n => n.id) ∧
      (∀ n ∈ picked, n ∈ g.nodes ∧ n.id ∈ ready.readyIds) ∧
      picked.Pairwise fun a b => writeSetsOverlap b.writeSet a.writeSet = false := by
  unfold scheduleOnce at h
  obtain ⟨nodes, hnodes, h⟩ := Option.bind_eq_some_iff.mp h
  cases h
  have start : Picked {} [] := ⟨rfl, rfl, List.Pairwise.nil⟩
  obtain ⟨picked, hsub, hpicked⟩ := picked_foldl _
    (nodes.insertionSort (ScheduledBefore (topologicalRank g))) start
  refine ⟨picked, hpicked.selected, ?_, hpicked.apart⟩
  intro n hn
  exact mem_of_mapM_node? hnodes ((mem_insertionSort _).mp (hsub.subset hn))

/-- On a ready set that was computed for the graph a plan is made. -/
theorem scheduleOnce_computeReadySet (g : TaskGraph) (states : NodeStates)
    (workers : List WorkerSnapshot) (policy : SchedulePolicy)
    (running : List (String × List String)) (eligibility : String → Option NodeEligibility) :
    ∃ plan, scheduleOnce g (computeReadySet g states) workers policy running eligibility =
      some plan := by
  have known : ∀ id ∈ (computeReadySet g states).readyIds, id ∈ g.nodeIds := by
    intro id hid
    obtain ⟨node, hnode, rfl, -⟩ := mem_readyIds hid
    exact mem_map_of_mem hnode
  obtain ⟨nodes, hnodes⟩ := mapM_node?_eq_some known
  unfold scheduleOnce
  rw [hnodes]
  exact ⟨_, rfl⟩

end AConductor.Graph

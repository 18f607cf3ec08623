import AConductor.Graph.Scheduler
import AConductor.Lib.Machine

/-!
# Scheduling runs

Rounds over one graph: the ready set is computed for the current statuses, a plan is made
from it and the selected nodes are marked DOING; between two rounds a node that is DOING
may become DONE, SKIPPED or BLOCKED. Workers, policy, eligibility and the running write
sets that a round is given are those of its caller.
-/

namespace AConductor.Graph

/-- What a running node may become. -/
inductive NodeOutcome where
  | done
  | skipped
  | blocked
  deriving DecidableEq, Repr

def NodeOutcome.status : NodeOutcome → TaskNodeStatus
  | .done => .done
  | .skipped => .skipped
  | .blocked => .blocked

inductive RunEvent where
  | round (workers : List WorkerSnapshot) (policy : SchedulePolicy)
      (running : List (String × List String)) (eligibility : String → Option NodeEligibility)
  | finish (nodeId : String) (outcome : NodeOutcome)

/-- The selected nodes are marked DOING. -/
def markDoing (plan : SchedulePlan) (states : NodeStates) : NodeStates := fun nodeId =>
  if nodeId ∈ plan.selected.map (fun s => s.nodeId) then .doing else states nodeId

/-- One event of a run; a round answers with its plan. -/
def runEvent (g : TaskGraph) (states : NodeStates) : RunEvent → Option SchedulePlan × NodeStates
  | .round workers policy running eligibility =>
    let plan := scheduleOnce g (computeReadySet g states) workers policy running eligibility
    (plan, plan.elim states fun p => markDoing p states)
  | .finish nodeId outcome =>
    (none, if states nodeId = .doing then Function.update states nodeId outcome.status else states)

/-- The running nodes have write sets that are pairwise apart. -/
def WritesApart (g : TaskGraph) (states : NodeStates) : Prop :=
  ∀ a ∈ g.nodes, ∀ b ∈ g.nodes, a.id ≠ b.id → states a.id = .doing → states b.id = .doing →
    writeSetsOverlap a.writeSet b.writeSet = false

variable {g : TaskGraph} {states : NodeStates}

/-- What an event can do: the nodes that are DOING behind it were DOING before or are ready
    nodes that one plan selected together. -/
theorem runEvent_doing (g : TaskGraph) (states : NodeStates) (event : RunEvent) :
    ∃ picked : List TaskNode, (∀ n ∈ picked, Ready g states n) ∧
      (picked.Pairwise fun a b => writeSetsOverlap a.writeSet b.writeSet = false) ∧
      ∀ node ∈ g.nodes, (runEvent g states event).2 node.id = .doing →
        states node.id = .doing ∨ node ∈ picked := by
  cases event with
  | round workers policy running eligibility =>
    obtain ⟨plan, hplan⟩ :=
      scheduleOnce_computeReadySet g states workers policy running eligibility
    obtain ⟨picked, hselected, hready, hapart⟩ := scheduleOnce_selected hplan
    refine ⟨picked, ?_, hapart.imp fun {a b} h => by rwa [writeSetsOverlap_comm], ?_⟩
    · intro n hn
      obtain ⟨hnode, hids⟩ := hready n hn
      obtain ⟨other, hother, hid, hok⟩ := mem_readyIds hids
      rwa [List.inj_on_of_nodup_map g.nodesUnique hother hnode hid] at hok
    · intro node hnode hafter
      simp only [runEvent, hplan, Option.elim_some, markDoing, hselected] at hafter
      split at hafter
      · rename_i hid
        obtain ⟨n, hn, hid⟩ := List.mem_map.mp hid
        have hsame : n = node := List.inj_on_of_nodup_map g.nodesUnique (hready n hn).1 hnode hid
        exact .inr (hsame ▸ hn)
      · exact .inl hafter
  | finish nodeId outcome =>
    refine ⟨[], by simp, List.Pairwise.nil, ?_⟩
    intro node _ hafter
    simp only [runEvent] at hafter
    split at hafter
    · rename_i hdoing
      by_cases hid : node.id = nodeId
      · exact .inl (hid ▸ hdoing)
      · rw [Function.update_of_ne hid] at hafter
        exact .inl hafter
    · exact .inl hafter

/-- A node becomes DOING only when it is ready. -/
theorem runEvent_ready {event : RunEvent} {node : TaskNode} (hmem : node ∈ g.nodes)
    (hbefore : states node.id ≠ .doing) (hafter : (runEvent g states event).2 node.id = .doing) :
    Ready g states node := by
  obtain ⟨picked, hready, -, hdoing⟩ := runEvent_doing g states event
  rcases hdoing node hmem hafter with hwas | hpicked
  · exact absurd hwas hbefore
  · exact hready node hpicked

/-- One event keeps the running nodes apart: a node that starts is apart from those that
    run, and from those that start with it. -/
theorem runEvent_writesApart (h : WritesApart g states) (event : RunEvent) :
    WritesApart g (runEvent g states event).2 := by
  obtain ⟨picked, hready, hapart, hdoing⟩ := runEvent_doing g states event
  have symm : Std.Symm fun a b : TaskNode => writeSetsOverlap a.writeSet b.writeSet = false :=
    ⟨fun a b hab => by rwa [writeSetsOverlap_comm]⟩
  intro a ha b hb hne hadoing hbdoing
  rcases hdoing a ha hadoing with harun | hapicked
  · rcases hdoing b hb hbdoing with hbrun | hbpicked
    · exact h a ha b hb hne harun hbrun
    · exact symm.symm b a ((hready b hbpicked).apart a ha hne harun)
  · rcases hdoing b hb hbdoing with hbrun | hbpicked
    · exact (hready a hapicked).apart b hb (Ne.symm hne) hbrun
    · exact hapart.forall hapicked hbpicked fun hab => hne (congrArg (fun n => n.id) hab)

/-- From statuses under which the running nodes are apart, after any rounds and outcomes:
    the running nodes are still apart, and the next node that becomes DOING has all its
    predecessors DONE or SKIPPED when it is selected. -/
theorem scheduling_run_safe (g : TaskGraph) (start : NodeStates) (hstart : WritesApart g start)
    (events : List RunEvent) :
    let states := (Machine.run (runEvent g) start events).2
    WritesApart g states ∧
    ∀ event, ∀ node ∈ g.nodes, states node.id ≠ .doing →
      (runEvent g states event).2 node.id = .doing →
      ∀ edge ∈ g.edges, edge.toId = node.id →
        states edge.fromId = .done ∨ states edge.fromId = .skipped := by
  intro states
  refine ⟨?_, ?_⟩
  · exact Machine.run_induction (P := fun _ s => WritesApart g s) hstart
      (fun _ s event h => runEvent_writesApart h event) events
  · intro event node hnode hbefore hafter edge hedge hto
    have hsettled := (runEvent_ready hnode hbefore hafter).settled edge hedge hto
    simpa [TaskNodeStatus.settled] using hsettled

def writerNode (nodeId : String) (h : nodeId = "draft" ∨ nodeId = "review") : TaskNode where
  id := nodeId
  objective := "edit the notes"
  writeSet := ["docs/*.md"]
  modelRequirement := some "project:p1"
  checked := by rcases h with rfl | rfl <;> decide +kernel

def sharedFileGraph : TaskGraph where
  nodes := [writerNode "draft" (.inl rfl), writerNode "review" (.inr rfl)]
  edges := [{ fromId := "draft", toId := "review" }]
  nodesUnique := by decide
  edgesUnique := by decide
  endpoints := by decide

def oneWorkerRound : RunEvent :=
  .round [{ workerId := "w1", project := some "p1" }] {} [] fun _ => none

/-- The second writer starts once the first is done. -/
theorem scheduling_run_safe_shared_file :
    let states := (Machine.run (runEvent sharedFileGraph) (fun _ => .todo)
      [oneWorkerRound, .finish "draft" .done, oneWorkerRound]).2
    states "draft" = .done ∧ states "review" = .doing ∧ WritesApart sharedFileGraph states := by
  have idle : WritesApart sharedFileGraph fun _ => .todo := by
    intro a _ b _ _ ha
    cases ha
  refine ⟨by decide +kernel, by decide +kernel, ?_⟩
  exact (scheduling_run_safe sharedFileGraph (fun _ => .todo) idle
    [oneWorkerRound, .finish "draft" .done, oneWorkerRound]).1

end AConductor.Graph

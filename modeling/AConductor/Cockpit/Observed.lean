import AConductor.Cockpit.Lane
import AConductor.Lib.Dict
import AConductor.Lib.Transaction
import Mathlib.Data.String.Basic

/-!
# Cockpit: the lanes that are observed

`build_observed_lane_inputs` (`src/a_conductor/cockpit_projection.py:1137-1333`): the lanes of the
executions, of the workers without one and of the parked activities that belong to no lane. A
lane that says that nothing is in flight is then the lane of a worker of which the readable
authority has no execution, and a settled one that of a durable terminal record
(`cockpit_shows_work`). `ntpath.normcase` after `ntpath.normpath` is a parameter, `none` where it
raises.
-/

namespace AConductor.Cockpit

open Execution List Except

/-! ### The joins -/

/-- A row of `snapshot.workers`: the attributes that are read, `none` where one is absent or no
    text. -/
structure WorkerRow where
  workerId : String
  displayName : Option String := none
  runtimeId : Option String := none
  projectRootPath : Option String := none
  deriving DecidableEq, Repr

/-- `_worker_display` (`cockpit_projection.py:1008-1012`). -/
def WorkerRow.display (row : WorkerRow) : Option String :=
  row.displayName.filter fun name => !Text.isBlank name

/-- `_worker_worktree_anchor` (`cockpit_projection.py:1015-1019`), with `windows_worktree_key`. -/
def WorkerRow.worktreeAnchor (normPath : String → Option String) (row : WorkerRow) :
    Except CockpitFault (Option String) :=
  match row.projectRootPath.filter fun path => !Text.isBlank path with
  | none => .ok none
  | some path =>
    match normPath (Text.strip path) with
    | some key => .ok (some key)
    | none => .error .valueError

/-- `displays.get(worker_id)` and `runtimes.get(worker_id)`: the last row of the worker counts. -/
def lastOf (value : WorkerRow → Option String) (workers : List WorkerRow) (workerId : String) :
    Option String :=
  (workers.filterMap fun row => if row.workerId = workerId then value row else none).getLast?

/-- `leases_by_worker.get(worker_id)`: the first lease of the worker counts. -/
def leaseOf (leases : List CockpitLeaseObservation) (workerId : String) :
    Option CockpitLeaseObservation :=
  if workerId = "" then none else leases.find? fun l => l.workerId = some workerId

/-- The key the origins are sorted by. -/
def CockpitOriginObservation.sortKey (origin : CockpitOriginObservation) : List String :=
  [origin.observedAt.getD "", origin.originRef.getD ""]

/-- `origins_by_execution.get(execution_id)`. -/
def originOf (origins : List CockpitOriginObservation) (executionId : Option String) :
    Option CockpitOriginObservation :=
  (origins.insertionSort fun x y => x.sortKey ≤ y.sortKey).find? fun o =>
    o.available && o.executionId.any (· ≠ "") && decide (o.executionId = executionId)

/-- A step of the loop over the activities. -/
def groupActivity (groups : Dict String (List CockpitActivityObservation))
    (item : CockpitActivityObservation) : Dict String (List CockpitActivityObservation) :=
  if item.available then
    let group := (groups.get? (item.laneRef.getD "")).getD []
    groups.set (item.laneRef.getD "") (if item ∈ group then group else group ++ [item])
  else groups

/-- `activities_by_lane` (`cockpit_projection.py:1189-1194`). -/
def activitiesByLane (activities : List CockpitActivityObservation) :
    Dict String (List CockpitActivityObservation) :=
  activities.foldl groupActivity Dict.empty

/-- `activities_by_lane.get(lane)`, where an empty group and none are the same. -/
def activitiesOf (groups : Dict String (List CockpitActivityObservation)) (lane : String) :
    List CockpitActivityObservation :=
  (groups.get? lane).getD []

/-! ### The lanes -/

/-- What the lanes are built from. -/
structure Observations where
  workers : List WorkerRow
  executions : List CockpitExecutionObservation
  leases : List CockpitLeaseObservation
  executionAuthorityReadable : Bool
  leaseAuthorityReadable : Bool
  origins : List CockpitOriginObservation := []
  activities : List CockpitActivityObservation := []

/-- `_unavailable_lease` (`cockpit_projection.py:1196-1199`). -/
def Observations.unavailableLease (o : Observations) : CockpitLeaseObservation :=
  .unavailable (if o.leaseAuthorityReadable then recordNotFound else portUnavailable)

/-- The execution of a lane without one. -/
def Observations.unavailableExecution (o : Observations) : CockpitExecutionObservation :=
  .unavailable (if o.executionAuthorityReadable then recordNotFound else portUnavailable)

def truthy (value : Option String) : Option String := value.filter (· ≠ "")

/-- The activities that belong to an execution (`cockpit_projection.py:1238-1251`). -/
def executionActivities (groups : Dict String (List CockpitActivityObservation))
    (e : ExecutionFields) : List CockpitActivityObservation :=
  let executionId := (truthy e.executionId).getD notDeclared
  let workerId := e.workerId.getD "None"
  match activitiesOf groups (s!"{workerId}:{executionId}") with
  | [] => activitiesOf groups executionId
  | group => group

/-- The lane of an execution (`cockpit_projection.py:1203-1253`). -/
def executionLane (o : Observations) (e : CockpitExecutionObservation) :
    Except CockpitFault CockpitLaneInputs := do
  let executionId := (truthy e.executionId).getD notDeclared
  let lease := (truthy e.workerId).bind (leaseOf o.leases)
  let activities := executionActivities (activitiesByLane o.activities) e.toExecutionFields
  let identity ← CockpitLaneIdentity.make
    { workOrderRef := (truthy e.workOrderRef).getD notDeclared
      taskRef := (truthy e.jobId).getD notDeclared
      lane := some (match truthy e.workerId with
        | some workerId => s!"{workerId}:{executionId}"
        | none => executionId)
      executor := ((e.workerId.bind (lastOf WorkerRow.display o.workers)).or
        (truthy e.workerId)).getD notDeclared
      harness := e.workerId.bind (lastOf WorkerRow.runtimeId o.workers)
      worktree := e.repoRoot
      branch := e.branch
      expectedHead := e.headBefore
      executionId := e.executionId
      leaseId := lease.bind fun l => l.leaseId
      provenance := durableExecutionRecord }
  return {
    identity
    execution := e
    lease := lease.getD o.unavailableLease
    origin := (originOf o.origins e.executionId).getD { reason := some portUnavailable }
    activity := activities.head?.getD (.unavailable portUnavailable)
    activityCollision := 1 < activities.length }

/-- `observed_workers` (`cockpit_projection.py:1202-1208`). -/
def Observations.observed (o : Observations) (workerId : String) : Bool :=
  decide (workerId ≠ "") &&
    o.executions.any fun e => e.available && decide (e.workerId = some workerId)

/-- A lane of a worker without an execution (`cockpit_projection.py:1262-1299`). -/
def workerLane (normPath : String → Option String) (o : Observations) (row : WorkerRow)
    (collision : Bool) (activity : CockpitActivityObservation) :
    Except CockpitFault CockpitLaneInputs := do
  let lease := leaseOf o.leases row.workerId
  let worktree ← row.worktreeAnchor normPath
  let identity ← CockpitLaneIdentity.make
    { workOrderRef := if activity.available then activity.workOrderRef.getD "" else notDeclared
      taskRef := if activity.available then activity.taskRef.getD "" else notDeclared
      lane := if activity.available then activity.laneRef else some row.workerId
      executor := some (row.display.getD row.workerId)
      harness := row.runtimeId
      worktree
      leaseId := lease.bind fun l => l.leaseId
      provenance := if activity.available then durableMonitorRecord else controlCenterSnapshot }
  return {
    identity
    execution := o.unavailableExecution
    lease := lease.getD o.unavailableLease
    activity
    activityCollision := collision }

/-- The lanes of a worker without an execution (`cockpit_projection.py:1254-1299`). -/
def workerLanes (normPath : String → Option String) (o : Observations) (row : WorkerRow) :
    Except CockpitFault (List CockpitLaneInputs) :=
  let found := activitiesOf (activitiesByLane o.activities) row.workerId
  let activities := if found = [] then [CockpitActivityObservation.unavailable portUnavailable]
    else found
  activities.mapM (workerLane normPath o row (1 < found.length))

/-- `represented_lanes` (`cockpit_projection.py:1300-1305`). -/
def represented (lanes : List CockpitLaneInputs) (laneRef : String) : Bool :=
  lanes.any fun lane => decide (lane.identity.lane = some laneRef) ||
    (lane.activity.available && decide (truthy lane.activity.laneRef = some laneRef))

/-- The activities that no lane represents, with their collisions
    (`cockpit_projection.py:1306-1312`). -/
def unmatchedParked (groups : Dict String (List CockpitActivityObservation))
    (lanes : List CockpitLaneInputs) : List (CockpitActivityObservation × Bool) :=
  (groups.entries.filter fun entry => !represented lanes entry.1).flatMap fun entry =>
    (entry.2.filter fun item => decide (item.state = some .parkedCapacity) ||
      decide (1 < entry.2.length)).map fun item => (item, decide (1 < entry.2.length))

/-- The key they are sorted by. -/
def CockpitActivityObservation.sortKey (activity : CockpitActivityObservation) : List String :=
  [activity.laneRef.getD "", activity.workOrderRef.getD "", activity.taskRef.getD ""]

/-- `_unanchored_activity_lane_inputs` (`cockpit_projection.py:1022-1049`), with the collision
    that is put in afterwards. -/
def unanchoredActivityLaneInputs (o : Observations)
    (parked : CockpitActivityObservation × Bool) : Except CockpitFault CockpitLaneInputs := do
  let identity ← CockpitLaneIdentity.make
    { workOrderRef := parked.1.workOrderRef.getD ""
      taskRef := parked.1.taskRef.getD ""
      lane := parked.1.laneRef
      executor := some notDeclared
      provenance := durableMonitorRecord }
  return {
    identity
    execution := o.unavailableExecution
    activity := parked.1
    activityCollision := parked.2 }

/-- `build_observed_lane_inputs` (`cockpit_projection.py:1137-1333`). -/
def buildObservedLaneInputs (normPath : String → Option String) (o : Observations) :
    Except CockpitFault (List CockpitLaneInputs) := do
  let executing ← (o.executions.filter fun e => e.available).mapM (executionLane o)
  let waiting ← (o.workers.filter fun row => !o.observed row.workerId).mapM (workerLanes normPath o)
  let lanes := executing ++ waiting.flatten
  let parked := unmatchedParked (activitiesByLane o.activities) lanes
  let unanchored ← (parked.insertionSort fun x y => x.1.sortKey ≤ y.1.sortKey).mapM
    (unanchoredActivityLaneInputs o)
  return lanes ++ unanchored

/-! ### What is built -/

/-- The text of a field can be shown as the identity of a lane. -/
def Declarable (value : Option String) : Prop := ∀ text, value = some text → text = "" ∨
  Text.isBlank text = false

theorem isBlank_notDeclared : Text.isBlank notDeclared = false := by decide

theorem shown_not_blank_iff {value : Option String} :
    Text.isBlank ((truthy value).getD notDeclared) = false ↔ Declarable value := by
  cases value with
  | none => simp [truthy, Declarable, isBlank_notDeclared]
  | some text =>
    by_cases hempty : text = ""
    · simp [truthy, Declarable, Option.filter, hempty, isBlank_notDeclared]
    · simp [truthy, Declarable, Option.filter, hempty]

theorem make_eq_ok {i j : CockpitLaneIdentity} :
    i.make = .ok j ↔
      (Text.isBlank i.workOrderRef = false ∧ Text.isBlank i.taskRef = false) ∧ i = j := by
  unfold CockpitLaneIdentity.make
  by_cases hwork : Text.isBlank i.workOrderRef
  · simp [hwork]
  · by_cases htask : Text.isBlank i.taskRef
    · simp [hwork, htask]
    · simp [hwork, htask]

variable {o : Observations} {lane : CockpitLaneInputs} {lanes : List CockpitLaneInputs}
  {normPath : String → Option String} {row : WorkerRow} {activity : CockpitActivityObservation}

variable {e : CockpitExecutionObservation} {groups : Dict String (List CockpitActivityObservation)}
  {collision : Bool}

theorem execution_of_executionLane (h : executionLane o e = .ok lane) : lane.execution = e := by
  obtain ⟨identity, -, h⟩ := bind_eq_ok.mp h
  cases h
  rfl

theorem executions_of_mapM {executions : List CockpitExecutionObservation}
    (h : executions.mapM (executionLane o) = .ok lanes) :
    lanes.map (fun lane => lane.execution) = executions := by
  induction mapM_eq_ok.mp h with
  | nil => rfl
  | cons hfirst hrest ih =>
    rw [map_cons, execution_of_executionLane hfirst, ih (mapM_eq_ok.mpr hrest)]

theorem executionLane_returns :
    (∃ lane, executionLane o e = .ok lane) ↔ Declarable e.workOrderRef ∧ Declarable e.jobId := by
  rw [← shown_not_blank_iff, ← shown_not_blank_iff]
  constructor
  · rintro ⟨lane, h⟩
    obtain ⟨identity, hmake, -⟩ := bind_eq_ok.mp h
    exact (make_eq_ok.mp hmake).1
  · intro h
    exact ⟨_, bind_eq_ok.mpr ⟨_, make_eq_ok.mpr ⟨h, rfl⟩, rfl⟩⟩

/-- What an activity that is available names (`__post_init__`). -/
theorem CockpitActivityObservation.named {a : CockpitActivityObservation}
    (h : a.available = true) :
    present a.workOrderRef = true ∧ present a.taskRef = true ∧ present a.laneRef = true ∧
      a.state.isSome = true := by
  have hvalid := a.valid
  simp only [ActivityFields.valid, h, Bool.not_true, Bool.false_or, Bool.and_eq_true] at hvalid
  exact ⟨by tauto, by tauto, by tauto, by tauto⟩

theorem not_blank_of_present {value : Option String} (h : present value = true) :
    Text.isBlank (value.getD "") = false := by
  cases value with
  | none => cases h
  | some text => simpa [present] using h

/-- The groups hold available activities under the lane they name. -/
def Grouped (groups : Dict String (List CockpitActivityObservation)) : Prop :=
  ∀ k items, groups.get? k = some items → ∀ item ∈ items,
    item.available = true ∧ item.laneRef = some k

theorem Grouped.groupActivity (h : Grouped groups) (item : CockpitActivityObservation) :
    Grouped (groupActivity groups item) := by
  unfold Cockpit.groupActivity
  by_cases havailable : item.available = true
  · rw [if_pos havailable]
    intro k items hget other hother
    rw [Dict.get?_set] at hget
    by_cases hk : k = item.laneRef.getD ""
    · rw [if_pos hk, Option.some.injEq] at hget
      have hold : other ∈ (groups.get? (item.laneRef.getD "")).getD [] ∨ other = item := by
        rw [← hget] at hother
        by_cases hmem : item ∈ (groups.get? (item.laneRef.getD "")).getD []
        · exact .inl (by simpa [hmem] using hother)
        · simpa [hmem] using hother
      rcases hold with hold | rfl
      · cases hgroup : groups.get? (item.laneRef.getD "") with
        | none => simp [hgroup] at hold
        | some group => exact hk ▸ h _ group hgroup other (by simpa [hgroup] using hold)
      · refine ⟨havailable, ?_⟩
        have hlane := (CockpitActivityObservation.named havailable).2.2.1
        cases href : other.laneRef with
        | none => simp [href, present] at hlane
        | some lane => simp [hk, href]
    · rw [if_neg hk] at hget
      exact h k items hget other hother
  · rw [if_neg havailable]
    exact h

theorem grouped_activitiesByLane (activities : List CockpitActivityObservation) :
    Grouped (activitiesByLane activities) := by
  have hfold : ∀ groups, Grouped groups → Grouped (activities.foldl groupActivity groups) := by
    induction activities with
    | nil => exact fun _ h => h
    | cons item activities ih => exact fun groups h => ih _ (h.groupActivity item)
  refine hfold _ fun k items hget => ?_
  rw [Dict.get?_empty] at hget
  cases hget

theorem Grouped.activitiesOf (h : Grouped groups) {lane : String}
    {item : CockpitActivityObservation} (hitem : item ∈ activitiesOf groups lane) :
    item.available = true ∧ item.laneRef = some lane := by
  unfold Cockpit.activitiesOf at hitem
  cases hget : groups.get? lane with
  | none => simp [hget] at hitem
  | some group => exact h lane group hget item (by simpa [hget] using hitem)

/-- What the lanes of workers and of parked activities have in common. -/
structure Idle (o : Observations) (lane : CockpitLaneInputs) : Prop where
  execution : lane.execution = o.unavailableExecution
  /-- A lane without an activity is the lane of a worker of which no execution was observed. -/
  worker : lane.activity.available = false →
    ∃ row ∈ o.workers, lane.identity.lane = some row.workerId ∧ o.observed row.workerId = false

theorem workerLane_idle (hrow : row ∈ o.workers) (hfree : o.observed row.workerId = false)
    (h : workerLane normPath o row collision activity = .ok lane) : Idle o lane := by
  obtain ⟨worktree, -, h⟩ := bind_eq_ok.mp h
  obtain ⟨identity, hmake, h⟩ := bind_eq_ok.mp h
  cases h
  have hidentity := (make_eq_ok.mp hmake).2
  refine ⟨rfl, fun hnone => ⟨row, hrow, ?_, hfree⟩⟩
  have hunavailable : activity.available = false := hnone
  simp [← hidentity, hunavailable]

theorem workerLanes_mem (h : workerLanes normPath o row = .ok lanes) (hlane : lane ∈ lanes) :
    ∃ collision activity, workerLane normPath o row collision activity = .ok lane ∧
      (activity.available = true → activity.laneRef = some row.workerId) := by
  obtain ⟨activity, hactivity, hmade⟩ := Except.exists_of_mem_mapM h hlane
  refine ⟨_, activity, hmade, fun havailable => ?_⟩
  by_cases hfound : activitiesOf (activitiesByLane o.activities) row.workerId = []
  · rw [if_pos hfound, mem_singleton] at hactivity
    rw [hactivity] at havailable
    cases havailable
  · rw [if_neg hfound] at hactivity
    exact ((grouped_activitiesByLane o.activities).activitiesOf hactivity).2

theorem workerLanes_ne_nil (h : workerLanes normPath o row = .ok lanes) : lanes ≠ [] := by
  rintro rfl
  have hall := forall₂_nil_right_iff.mp (mapM_eq_ok.mp h)
  by_cases hfound : activitiesOf (activitiesByLane o.activities) row.workerId = []
  · simp [hfound] at hall
  · simp [hfound] at hall

/-- Each lane of a worker names the worker. -/
theorem lane_of_workerLane (h : workerLane normPath o row collision activity = .ok lane)
    (hnames : activity.available = true → activity.laneRef = some row.workerId) :
    lane.identity.lane = some row.workerId := by
  obtain ⟨worktree, -, h⟩ := bind_eq_ok.mp h
  obtain ⟨identity, hmake, h⟩ := bind_eq_ok.mp h
  cases h
  have hidentity := (make_eq_ok.mp hmake).2
  by_cases havailable : activity.available = true
  · simp [← hidentity, havailable, hnames havailable]
  · simp [← hidentity, havailable]

theorem workerLane_returns : (∃ lane, workerLane normPath o row collision activity = .ok lane) ↔
      ∃ worktree, row.worktreeAnchor normPath = .ok worktree := by
  constructor
  · rintro ⟨lane, h⟩
    obtain ⟨worktree, hworktree, -⟩ := bind_eq_ok.mp h
    exact ⟨worktree, hworktree⟩
  · rintro ⟨worktree, hworktree⟩
    refine ⟨_, bind_eq_ok.mpr ⟨worktree, hworktree,
      bind_eq_ok.mpr ⟨_, make_eq_ok.mpr ⟨?_, rfl⟩, rfl⟩⟩⟩
    by_cases havailable : activity.available = true
    · have hnamed := CockpitActivityObservation.named havailable
      simp [havailable, not_blank_of_present hnamed.1, not_blank_of_present hnamed.2.1]
    · simp [havailable, isBlank_notDeclared]

theorem workerLanes_returns : (∃ lanes, workerLanes normPath o row = .ok lanes) ↔
      ∃ worktree, row.worktreeAnchor normPath = .ok worktree := by
  unfold workerLanes
  simp only [Except.mapM_returns, workerLane_returns]
  refine ⟨fun h => ?_, fun h _ _ => h⟩
  by_cases hfound : activitiesOf (activitiesByLane o.activities) row.workerId = []
  · exact h _ (by rw [if_pos hfound]; exact mem_cons_self)
  · obtain ⟨activity, hactivity⟩ := exists_mem_of_ne_nil _ hfound
    exact h activity (by rwa [if_neg hfound])

/-- The activities that no lane represents are available. -/
theorem available_of_unmatched {activities : List CockpitActivityObservation}
    {lanes : List CockpitLaneInputs} {parked : CockpitActivityObservation × Bool}
    (h : parked ∈ unmatchedParked (activitiesByLane activities) lanes) :
    parked.1.available = true := by
  obtain ⟨entry, hentry, h⟩ := mem_flatMap.mp h
  obtain ⟨item, hitem, rfl⟩ := mem_map.mp h
  have hget := Dict.mem_iff_get?.mp (mem_filter.mp hentry).1
  exact (grouped_activitiesByLane activities _ _ hget item (mem_filter.mp hitem).1).1

theorem unanchored_returns {o : Observations} {parked : CockpitActivityObservation × Bool}
    (h : parked.1.available = true) :
    ∃ lane, unanchoredActivityLaneInputs o parked = .ok lane := by
  have hnamed := CockpitActivityObservation.named h
  exact ⟨_, bind_eq_ok.mpr ⟨_, make_eq_ok.mpr
    ⟨⟨not_blank_of_present hnamed.1, not_blank_of_present hnamed.2.1⟩, rfl⟩, rfl⟩⟩

theorem unanchored_idle {parked : CockpitActivityObservation × Bool}
    (havailable : parked.1.available = true)
    (h : unanchoredActivityLaneInputs o parked = .ok lane) : Idle o lane := by
  obtain ⟨identity, -, h⟩ := bind_eq_ok.mp h
  cases h
  refine ⟨rfl, fun hnone => ?_⟩
  have hunavailable : parked.1.available = false := hnone
  rw [havailable] at hunavailable
  cases hunavailable

/-- What the builder returns: the lanes of the executions, in their order, then idle ones, with
    one at least for each worker without an execution. -/
structure Built (o : Observations) (lanes : List CockpitLaneInputs) : Prop where
  split : ∃ executing idle, lanes = executing ++ idle ∧
    executing.map (fun lane => lane.execution) = o.executions.filter (fun e => e.available) ∧
    ∀ lane ∈ idle, Idle o lane
  worker : ∀ row ∈ o.workers, o.observed row.workerId = false →
    ∃ lane ∈ lanes, lane.identity.lane = some row.workerId

theorem buildObservedLaneInputs_built (h : buildObservedLaneInputs normPath o = .ok lanes) :
    Built o lanes := by
  obtain ⟨executing, hexecuting, h⟩ := bind_eq_ok.mp h
  obtain ⟨waiting, hwaiting, h⟩ := bind_eq_ok.mp h
  obtain ⟨unanchored, hunanchored, h⟩ := bind_eq_ok.mp h
  cases h
  have hrow : ∀ {row}, row ∈ o.workers.filter (fun row => !o.observed row.workerId) →
      row ∈ o.workers ∧ o.observed row.workerId = false := by
    intro row hrow
    simpa using mem_filter.mp hrow
  constructor
  · refine ⟨executing, waiting.flatten ++ unanchored, append_assoc _ _ _,
      executions_of_mapM hexecuting, ?_⟩
    intro lane hlane
    rcases mem_append.mp hlane with hlane | hlane
    · obtain ⟨group, hgroup, hlane⟩ := mem_flatten.mp hlane
      obtain ⟨row, hin, hmade⟩ := Except.exists_of_mem_mapM hwaiting hgroup
      obtain ⟨collision, activity, hmade, -⟩ := workerLanes_mem hmade hlane
      exact workerLane_idle (hrow hin).1 (hrow hin).2 hmade
    · obtain ⟨parked, hparked, hmade⟩ := Except.exists_of_mem_mapM hunanchored hlane
      have hin := (mem_insertionSort _).mp hparked
      exact unanchored_idle (available_of_unmatched hin) hmade
  · intro row hin hfree
    obtain ⟨group, hgroup, hmade⟩ := Except.mem_mapM hwaiting
      (mem_filter.mpr ⟨hin, by simp [hfree]⟩)
    obtain ⟨lane, hlane⟩ := exists_mem_of_ne_nil _ (workerLanes_ne_nil hmade)
    obtain ⟨collision, activity, hmade, hnames⟩ := workerLanes_mem hmade hlane
    have hflat : lane ∈ waiting.flatten := mem_flatten.mpr ⟨group, hgroup, hlane⟩
    exact ⟨lane, mem_append_left _ (mem_append_right _ hflat),
      lane_of_workerLane hmade hnames⟩

/-- The builder raises where the identity of an execution is blank, and where the path of a worker
    without an execution has no key. -/
theorem buildObservedLaneInputs_returns :
    (∃ lanes, buildObservedLaneInputs normPath o = .ok lanes) ↔
      (∀ e ∈ o.executions, e.available = true →
        Declarable e.workOrderRef ∧ Declarable e.jobId) ∧
      ∀ row ∈ o.workers, o.observed row.workerId = false →
        ∃ worktree, row.worktreeAnchor normPath = .ok worktree := by
  have hexecutions : (∃ lanes, (o.executions.filter fun e => e.available).mapM
      (executionLane o) = .ok lanes) ↔ ∀ e ∈ o.executions, e.available = true →
        Declarable e.workOrderRef ∧ Declarable e.jobId := by
    simp only [Except.mapM_returns, executionLane_returns, mem_filter, and_imp]
  have hworkers : (∃ lanes, (o.workers.filter fun row => !o.observed row.workerId).mapM
      (workerLanes normPath o) = .ok lanes) ↔ ∀ row ∈ o.workers,
        o.observed row.workerId = false →
          ∃ worktree, row.worktreeAnchor normPath = .ok worktree := by
    simp only [Except.mapM_returns, workerLanes_returns, mem_filter, and_imp,
      Bool.not_eq_true']
  rw [← hexecutions, ← hworkers]
  constructor
  · rintro ⟨lanes, h⟩
    obtain ⟨executing, hexecuting, h⟩ := bind_eq_ok.mp h
    obtain ⟨waiting, hwaiting, -⟩ := bind_eq_ok.mp h
    exact ⟨⟨executing, hexecuting⟩, waiting, hwaiting⟩
  · rintro ⟨⟨executing, hexecuting⟩, waiting, hwaiting⟩
    obtain ⟨unanchored, hunanchored⟩ := Except.mapM_returns.mpr fun parked hparked =>
      @unanchored_returns o parked (@available_of_unmatched o.activities
        (executing ++ waiting.flatten) parked
        ((mem_insertionSort fun x y => x.1.sortKey ≤ y.1.sortKey).mp hparked))
    exact ⟨_, bind_eq_ok.mpr ⟨executing, hexecuting, bind_eq_ok.mpr
      ⟨waiting, hwaiting, bind_eq_ok.mpr ⟨unanchored, hunanchored, rfl⟩⟩⟩⟩

/-! ### What a lane says -/

/-- An execution that is in flight. -/
def inFlight (e : ExecutionFields) : Bool :=
  e.available && (decide (e.executionState = some .queued) ||
    decide (e.executionState = some .starting) || decide (e.executionState = some .running) ||
    decide (e.executionState = some .processStillRunning))

/-- A gate that is closed. -/
def CockpitGateStatus.closed (status : CockpitGateStatus) : Prop :=
  status = .proven ∨ status = .notRequired

/-- Every gate is closed by durable records. -/
def CockpitGateEvidence.Closed (g : CockpitGateEvidence) : Prop :=
  (g.verification.closed ∧ g.review.closed ∧ g.merge.closed ∧ g.postMain.closed ∧ g.ci.closed) ∧
    g.provenance = durableGateRecord

/-- A terminal execution with its proof. -/
def Settled (e : ExecutionFields) (g : CockpitGateEvidence) : Prop :=
  (e.available = true ∧ e.provenance = some durableExecutionRecord) ∧
    e.finishedAt.isSome = true ∧
    ((e.executionState = some .failed ∧ e.exitCode.isSome = true) ∨
      (e.executionState = some .succeeded ∧ e.exitCode = some 0 ∧ g.Closed))

theorem closed_of_evaluateGates {g : CockpitGateEvidence} (h : evaluateGates g = none) :
    g.Closed := by
  simp only [evaluateGates, Option.or_eq_none_iff] at h
  obtain ⟨hverification, hreview, hmerge, hmain, hci, hprovenance⟩ := h
  refine ⟨⟨?_, ?_, ?_, ?_, ?_⟩, by simpa using hprovenance⟩
  · cases hs : g.verification <;> simp [hs, CockpitGateStatus.closed] at hverification ⊢
  · cases hs : g.review <;> simp [hs, CockpitGateStatus.closed] at hreview ⊢
  · cases hs : g.merge <;> simp [hs, CockpitGateStatus.closed] at hmerge ⊢
  · cases hs : g.postMain <;> simp [hs, CockpitGateStatus.closed] at hmain ⊢
  · cases hs : g.ci <;> simp [hs, CockpitGateStatus.closed] at hci ⊢

/-- What a projection may say of replays, by the execution of the lane. -/
structure Honest (inputs : CockpitLaneInputs) (v : Verdict) : Prop where
  idle : v.replaySafety = .noExecutionInFlight →
    inputs.execution.available = false ∧ inputs.activity.available = false ∧
      inputs.execution.reason = some recordNotFound
  settled : v.replaySafety = .settledNoReplay →
    Settled inputs.execution.toExecutionFields inputs.gates ∧
      inFlight inputs.execution.toExecutionFields = false

/-- What an execution must show to be settled. -/
theorem executionVerdict_settled {base : List String} {e : ExecutionFields}
    {g : CockpitGateEvidence}
    (h : (executionVerdict base e g).replaySafety = .settledNoReplay) :
    e.finishedAt.isSome = true ∧
      ((e.executionState = some .failed ∧ e.exitCode.isSome = true) ∨
        (e.executionState = some .succeeded ∧ e.exitCode = some 0 ∧ g.Closed)) := by
  cases hstate : e.executionState with
  | none => simp [executionVerdict, hstate] at h
  | some state =>
    cases state with
    | succeeded =>
      simp only [executionVerdict, hstate, succeededVerdict] at h
      by_cases hproof : e.exitCode ≠ some 0 ∨ e.finishedAt = none
      · simp [hproof] at h
      · obtain ⟨hcode, hfinished⟩ := not_or.mp hproof
        cases hgates : evaluateGates g with
        | some blocker => simp [hproof, hgates] at h
        | none =>
          exact ⟨Option.isSome_iff_ne_none.mpr hfinished,
            .inr ⟨rfl, not_not.mp hcode, closed_of_evaluateGates hgates⟩⟩
    | failed =>
      simp only [executionVerdict, hstate, failedVerdict] at h
      by_cases hproof : e.exitCode = none ∨ e.finishedAt = none
      · simp [hproof] at h
      · obtain ⟨hcode, hfinished⟩ := not_or.mp hproof
        exact ⟨Option.isSome_iff_ne_none.mpr hfinished,
          .inl ⟨rfl, Option.isSome_iff_ne_none.mpr hcode⟩⟩
    | running | processStillRunning =>
      by_cases hlost : e.transportState = some .lost
      · simp [executionVerdict, hstate, runningVerdict, hlost] at h
      · simp [executionVerdict, hstate, runningVerdict, hlost] at h
    | _ => simp [executionVerdict, hstate] at h

theorem executionVerdict_ne_idle (base : List String) (e : ExecutionFields)
    (g : CockpitGateEvidence) :
    (executionVerdict base e g).replaySafety ≠ .noExecutionInFlight := by
  cases hstate : e.executionState with
  | none => simp [executionVerdict, hstate]
  | some state =>
    cases state with
    | succeeded =>
      by_cases hproof : e.exitCode ≠ some 0 ∨ e.finishedAt = none
      · simp [executionVerdict, hstate, succeededVerdict, hproof]
      · cases hgates : evaluateGates g <;>
          simp [executionVerdict, hstate, succeededVerdict, hproof, hgates]
    | failed =>
      by_cases hproof : e.exitCode = none ∨ e.finishedAt = none
      · simp [executionVerdict, hstate, failedVerdict, hproof]
      · simp [executionVerdict, hstate, failedVerdict, hproof]
    | running | processStillRunning =>
      by_cases hlost : e.transportState = some .lost
      · simp [executionVerdict, hstate, runningVerdict, hlost]
      · simp [executionVerdict, hstate, runningVerdict, hlost]
    | _ => simp [executionVerdict, hstate]

/-- The lane of an activity says that a claim or an execution is active, or nothing. -/
theorem activityVerdict_active (base : List String) (a : ActivityFields) (executing : Bool)
    (state : ActivityState) :
    (activityVerdict base a executing state).replaySafety ≠ .noExecutionInFlight ∧
      (activityVerdict base a executing state).replaySafety ≠ .settledNoReplay := by
  unfold activityVerdict
  by_cases hunproven : (state = .running ∨ state = .borrowedActive) ∧ executing = false
  · simp [hunproven, untrusted]
  · by_cases hparked : state = .parkedCapacity
    · simp [hparked]
    · simp [hunproven, hparked]

theorem absentVerdict_idle {base : List String} {identity : CockpitLaneIdentity}
    {e : ExecutionFields} {l : LeaseFields}
    (h : (absentVerdict base identity e l).replaySafety = .noExecutionInFlight) :
    e.reason = some recordNotFound := by
  by_cases hreason : e.reason = some recordNotFound
  · exact hreason
  · simp [absentVerdict, hreason] at h

theorem absentVerdict_ne_settled (base : List String) (identity : CockpitLaneIdentity)
    (e : ExecutionFields) (l : LeaseFields) :
    (absentVerdict base identity e l).replaySafety ≠ .settledNoReplay := by
  unfold absentVerdict
  by_cases hreason : e.reason = some recordNotFound
  · by_cases hlease : (l.available && decide (l.health = some "ACTIVE") &&
        leaseMatches identity l) = true
    · simp [hreason, hlease]
    · simp [hreason, hlease]
  · simp [hreason]

variable {inputs : CockpitLaneInputs}

theorem laneVerdict_honest {accepted : Bool} {v : Verdict}
    (h : laneVerdict inputs accepted = .ok v) : Honest inputs v := by
  have huntrusted : ∀ blocker action, Honest inputs (untrusted blocker action) :=
    fun _ _ => ⟨fun h => by simp [untrusted] at h, fun h => by simp [untrusted] at h⟩
  unfold laneVerdict at h
  by_cases hcollision : inputs.activityCollision = true
  · rw [if_pos hcollision] at h
    cases h
    exact ⟨fun h => by simp at h, fun h => by simp at h⟩
  rw [if_neg hcollision] at h
  by_cases hprovenance : (inputs.execution.available &&
      decide (inputs.execution.provenance ≠ some durableExecutionRecord)) = true
  · rw [if_pos hprovenance] at h
    exact Except.ok.inj h ▸ huntrusted _ _
  rw [if_neg hprovenance] at h
  by_cases hmatches : (inputs.execution.available &&
      !executionMatches inputs.identity inputs.execution.toExecutionFields) = true
  · rw [if_pos hmatches] at h
    exact Except.ok.inj h ▸ huntrusted _ _
  rw [if_neg hmatches] at h
  by_cases hlease : (inputs.lease.available &&
      !leaseMatches inputs.identity inputs.lease.toLeaseFields) = true
  · rw [if_pos hlease] at h
    exact Except.ok.inj h ▸ huntrusted _ _
  rw [if_neg hlease] at h
  by_cases hrejected : (inputs.activity.available && !accepted &&
      !inputs.execution.available) = true
  · rw [if_pos hrejected] at h
    exact Except.ok.inj h ▸ huntrusted _ _
  rw [if_neg hrejected] at h
  by_cases haccepted : accepted = true
  · rw [if_pos haccepted] at h
    cases hstate : inputs.activity.state with
    | none => simp [hstate] at h
    | some state =>
      simp only [hstate, Except.ok.injEq] at h
      have hactive := activityVerdict_active
        (if (inputs.lease.available && inputs.gitAvailable) = true then []
          else ["EVIDENCE_INCOMPLETE"])
        inputs.activity.toActivityFields inputs.execution.available state
      rw [h] at hactive
      exact ⟨fun h => absurd h hactive.1, fun h => absurd h hactive.2⟩
  rw [if_neg haccepted] at h
  by_cases havailable : inputs.execution.available = true
  · rw [if_neg (by simp [havailable])] at h
    have hv := Except.ok.inj h
    refine ⟨fun h => absurd h (hv ▸ executionVerdict_ne_idle _ _ _), fun h => ?_⟩
    have hsettled := executionVerdict_settled (hv ▸ h)
    refine ⟨⟨⟨havailable, by simpa [havailable] using hprovenance⟩, hsettled⟩, ?_⟩
    rcases hsettled.2 with ⟨hfailed, -⟩ | ⟨hsucceeded, -⟩
    · simp [inFlight, hfailed]
    · simp [inFlight, hsucceeded]
  · rw [if_pos (by simp [havailable])] at h
    have hv := Except.ok.inj h
    refine ⟨fun h => ⟨by simpa using havailable, ?_, absentVerdict_idle (hv ▸ h)⟩,
      fun h => absurd h (hv ▸ absentVerdict_ne_settled _ _ _ _)⟩
    simpa [havailable, haccepted] using hrejected

theorem projectCockpitLane_honest {clock : Clock}
    {generatedAt : Option String} {p : CockpitLaneProjection}
    (h : projectCockpitLane clock inputs generatedAt = .ok p) : Honest inputs p.toVerdict := by
  obtain ⟨accepted, -, h⟩ := bind_eq_ok.mp h
  obtain ⟨verdict, hverdict, h⟩ := bind_eq_ok.mp h
  cases h
  exact laneVerdict_honest hverdict

/-- Work in flight is never shown as idle or settled. The lanes are built when no execution has a
    blank identity and every path has a key. Then each available execution has one lane, in the
    order of the executions, and each worker at least one. A lane says that no execution is in
    flight only when the authority was readable and the lane is that of a worker of which no
    available execution was read, where an empty id names no worker. It says that nothing is to
    be replayed only of a durable execution that failed or succeeded with its terminal proof, and
    neither of an execution in flight, whatever the activities are. -/
theorem cockpit_shows_work (clock : Clock) (normPath : String → Option String) (o : Observations) :
    ((∃ lanes, buildObservedLaneInputs normPath o = .ok lanes) ↔
      (∀ e ∈ o.executions, e.available = true →
        Declarable e.workOrderRef ∧ Declarable e.jobId) ∧
      ∀ row ∈ o.workers, o.observed row.workerId = false →
        ∃ worktree, row.worktreeAnchor normPath = .ok worktree) ∧
    ∀ lanes, buildObservedLaneInputs normPath o = .ok lanes →
      (lanes.filter fun lane => lane.execution.available).map (fun lane => lane.execution) =
        o.executions.filter (fun e => e.available) ∧
      (∀ row ∈ o.workers, ∃ lane ∈ lanes,
        (lane.execution.available = true ∧ lane.execution.workerId = some row.workerId) ∨
          lane.identity.lane = some row.workerId) ∧
      ∀ lane ∈ lanes, ∀ generatedAt p, projectCockpitLane clock lane generatedAt = .ok p →
        (p.replaySafety = .noExecutionInFlight →
          o.executionAuthorityReadable = true ∧ lane.execution.available = false ∧
            ∃ row ∈ o.workers, lane.identity.lane = some row.workerId ∧
              (row.workerId ≠ "" → ∀ e ∈ o.executions, e.available = true →
                e.workerId ≠ some row.workerId)) ∧
        (p.replaySafety = .settledNoReplay →
          Settled lane.execution.toExecutionFields lane.gates) ∧
        (inFlight lane.execution.toExecutionFields = true →
          p.replaySafety ≠ .noExecutionInFlight ∧ p.replaySafety ≠ .settledNoReplay) := by
  refine ⟨buildObservedLaneInputs_returns, fun lanes h => ?_⟩
  have hbuilt := buildObservedLaneInputs_built h
  obtain ⟨executing, idle, hsplit, hexecuting, hidle⟩ := hbuilt.split
  have hmem : ∀ lane ∈ executing, lane.execution ∈ o.executions ∧
      lane.execution.available = true := fun lane hlane =>
    mem_filter.mp (hexecuting ▸ mem_map_of_mem hlane)
  have hunavailable : ∀ lane ∈ idle, lane.execution.available = false := fun lane hlane =>
    (hidle lane hlane).execution ▸ rfl
  refine ⟨?_, ?_, ?_⟩
  · have hkept : executing.filter (fun lane => lane.execution.available) = executing :=
      filter_eq_self.mpr fun lane hlane => (hmem lane hlane).2
    have hgone : idle.filter (fun lane => lane.execution.available) = [] :=
      filter_eq_nil_iff.mpr fun lane hlane => by simp [hunavailable lane hlane]
    rw [hsplit, filter_append, hkept, hgone, append_nil, hexecuting]
  · intro row hrow
    by_cases hobserved : o.observed row.workerId = true
    · obtain ⟨e, he, hof⟩ := any_eq_true.mp (Bool.and_eq_true_iff.mp hobserved).2
      obtain ⟨havailable, hworker⟩ := Bool.and_eq_true_iff.mp hof
      obtain ⟨lane, hlane, rfl⟩ := mem_map.mp
        (hexecuting ▸ mem_filter.mpr ⟨he, havailable⟩ :
          e ∈ executing.map fun lane => lane.execution)
      exact ⟨lane, hsplit ▸ mem_append_left _ hlane,
        .inl ⟨havailable, of_decide_eq_true hworker⟩⟩
    · obtain ⟨lane, hlane, hnames⟩ := hbuilt.worker row hrow (by simpa using hobserved)
      exact ⟨lane, hlane, .inr hnames⟩
  · intro lane hlane generatedAt p hp
    have hhonest := projectCockpitLane_honest hp
    refine ⟨fun hsays => ?_, fun hsays => (hhonest.settled hsays).1, fun hflight => ⟨?_, ?_⟩⟩
    · obtain ⟨hnone, hactivity, hreason⟩ := hhonest.idle hsays
      rw [hsplit] at hlane
      rcases mem_append.mp hlane with hlane | hlane
      · rw [(hmem lane hlane).2] at hnone
        cases hnone
      · have hreadable : o.executionAuthorityReadable = true := by
          rw [(hidle lane hlane).execution] at hreason
          by_contra hunreadable
          simp [Observations.unavailableExecution, CockpitExecutionObservation.unavailable,
            hunreadable, portUnavailable, recordNotFound] at hreason
        obtain ⟨row, hrow, hnames, hfree⟩ := (hidle lane hlane).worker hactivity
        refine ⟨hreadable, hnone, row, hrow, hnames, fun hnonempty e he havailable hworker => ?_⟩
        have hobserved : o.observed row.workerId = true := by
          simp only [Observations.observed, Bool.and_eq_true, any_eq_true,
            decide_eq_true_eq]
          exact ⟨hnonempty, e, he, havailable, hworker⟩
        rw [hobserved] at hfree
        cases hfree
    · intro hsays
      have hnone := (hhonest.idle hsays).1
      simp [inFlight, hnone] at hflight
    · intro hsays
      have hsettled := (hhonest.settled hsays).2
      rw [hflight] at hsettled
      cases hsettled

/-- A durable record of a running execution of a worker. -/
def runningOf (workerId workOrderRef : String) : CockpitExecutionObservation where
  available := true
  provenance := some durableExecutionRecord
  executionId := some "exec-1"
  jobId := some "job-1"
  workOrderRef := some workOrderRef
  workerId := some workerId
  transportState := some .connected
  executionState := some .running
  valid := rfl

/-- The observations of one worker with one running execution. -/
def oneRunning (workerId workOrderRef : String) : Observations where
  workers := [{ workerId }]
  executions := [runningOf workerId workOrderRef]
  leases := []
  executionAuthorityReadable := true
  leaseAuthorityReadable := true

/-- A clock on which no text is an instant. -/
def sampleClock : Clock := ⟨fun _ => .invalid, fun n micros => (n * 1000000 - micros).tdiv 1000000⟩

/-- With a blank work order the builder raises, and an empty worker id shows work in flight as
    idle. -/
theorem cockpit_hides_work :
    buildObservedLaneInputs some (oneRunning "worker-1" " ") =
        .error (.projection "LANE_IDENTITY_WORK_ORDER_REF_REQUIRED") ∧
      ∃ lanes, buildObservedLaneInputs some (oneRunning "" "WO-1") = .ok lanes ∧
        ∃ lane ∈ lanes, lane.identity.lane = some "" ∧
          ∃ p, projectCockpitLane sampleClock lane none = .ok p ∧
            p.replaySafety = .noExecutionInFlight ∧
            inFlight (runningOf "" "WO-1").toExecutionFields = true ∧
            (runningOf "" "WO-1").workerId = some "" := by
  refine ⟨by decide +kernel, _, rfl, _, mem_cons_of_mem _ mem_cons_self, rfl, _, rfl, ?_⟩
  decide +kernel

theorem cockpit_shows_work_sample :
    ∃ lanes, buildObservedLaneInputs some (oneRunning "worker-1" "WO-1") = .ok lanes ∧
      (lanes.filter fun lane => lane.execution.available).map (fun lane => lane.execution) =
        [runningOf "worker-1" "WO-1"] :=
  ⟨_, rfl, ((cockpit_shows_work sampleClock some (oneRunning "worker-1" "WO-1")).2 _ rfl).1⟩

end AConductor.Cockpit

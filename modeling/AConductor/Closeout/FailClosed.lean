import AConductor.Closeout.Plan

/-!
# Closing a goal: what a completion rests on

The executor completes the job of a plan that allows it, and records a checkpoint under the
reference of a plan that asks for one (`src/a_conductor/goal_closeout.py:716-795`).
-/

namespace AConductor.Closeout

open Job Except

/-- The plans after which the executor records a checkpoint. -/
def CloseoutDecision.asksCheckpoint (d : CloseoutDecision) : Bool :=
  d = .verifyCheckpointRequired || d = .foldRequired || d = .releaseRequired

/-- The reference can be computed, and it is among the completed ones. -/
def GoalCloseoutFacts.Recorded (f : GoalCloseoutFacts)
    (ref : Except CloseoutFault (Option String)) : Prop :=
  ∃ text, ref = .ok (some text) ∧ text ∈ f.completedCloseoutRefs

/-- The verification is one of this task and attempt. -/
def GoalCloseoutFacts.Bound (f : GoalCloseoutFacts) : Prop :=
  f.verification.ok = true ∧ f.verification.taskId = f.taskId ∧
    f.verification.attemptId = f.attemptId

/-- The obligations of a completion, the lease apart. -/
structure GoalCloseoutFacts.Met (f : GoalCloseoutFacts) : Prop where
  state : f.state = .reviewPending
  bound : f.Bound
  journal : ∃ version, f.verification.checkpointVersion = some version ∧
    ∀ mutation ∈ f.verification.mutationVersion, mutation ≤ version
  checkpoint : f.Recorded (verifyRef f)
  unblocked : f.blockingFindings = []
  ownership : f.ownership.known = true ∧ f.ownership.conflicting = false ∧
    f.ownership.transitionInProgress = false
  continuity : f.continuity = .fresh ∨ f.continuity = .mergedNotFolded
  review : f.review.required = true →
    f.review.passed = some true ∧ f.review.reviewedSha = f.currentCandidateSha
  merge : f.merge.required = true → f.merge.merged = some true ∧ f.merge.mergeCommit.isSome ∧
    f.merge.acceptedCandidateAncestor = some true ∧
    f.merge.acceptedCandidateSha = f.currentCandidateSha ∧
    (f.merge.postMainRequired = true → f.merge.postMainRunId.isSome ∧
      f.merge.postMainSuccess = some true ∧ f.merge.postMainMergeCommit = f.merge.mergeCommit)
  fold : if f.foldDue then f.Recorded (foldRef f) ∧ f.fold.completed = some true ∧ f.foldIdentityOk
    else Text.isBlank (f.fold.notRequiredReason.getD "") = false

/-- No lease is given, or it is released with the checkpoint of exactly this lease. -/
def GoalCloseoutFacts.Released (f : GoalCloseoutFacts) : Prop :=
  f.lease.leaseId.isSome → f.lease.state = some .released ∧ f.Recorded (releaseRef f)

/-- What a closeout is to keep. -/
structure FailClosed (f : GoalCloseoutFacts) : Prop where
  complete : ∀ plan, planGoalCloseout f = .ok plan → plan.decision = .completeAllowed →
    f.Met ∧ f.Released
  checkpoint : ∀ plan, planGoalCloseout f = .ok plan → plan.decision.asksCheckpoint = true →
    plan.checkpointRef.isSome

/-- A lease of the caller whose state is not known. -/
def GoalCloseoutFacts.LeaseUnknown (f : GoalCloseoutFacts) : Prop :=
  f.lease.leaseId.isSome ∧ f.lease.ownerOk = true ∧ f.lease.state = none

/-- A verification that is not journalled, of a candidate that is not known. -/
def GoalCloseoutFacts.CandidateUnknown (f : GoalCloseoutFacts) : Prop :=
  TaskState.terminal f.state = false ∧ f.Bound ∧ f.verification.checkpointVersion = none ∧
    f.currentCandidateSha = none

variable {α : Type} {f : GoalCloseoutFacts}

theorem isSome_of_mapM {x : Option String} {g : String → Except CloseoutFault α} {ref : Option α}
    (h : x.mapM g = .ok ref) (hx : x ≠ none) : ref.isSome := by
  obtain ⟨sha, rfl⟩ := Option.ne_none_iff_exists'.mp hx
  obtain ⟨text, -, h⟩ := bind_eq_ok.mp h
  cases h
  rfl

/-- A reference of a known candidate is recorded when it is computed and found. -/
theorem recorded_iff {ref : Except CloseoutFault (Option String)} :
    f.Recorded ref ↔ ∃ r, raising ref = .ok r ∧ f.hasRef r = true := by
  unfold GoalCloseoutFacts.Recorded raising
  constructor
  · rintro ⟨text, rfl, hmem⟩
    exact ⟨some text, rfl, by simpa [GoalCloseoutFacts.hasRef] using hmem⟩
  · rintro ⟨r, hr, hhas⟩
    cases r with
    | none => cases hhas
    | some text =>
      exact ⟨text, mapError_eq_ok.mp hr, by simpa [GoalCloseoutFacts.hasRef] using hhas⟩

theorem terminalGate_ok : terminalGate f = .ok () ↔ TaskState.terminal f.state = false := by
  unfold terminalGate
  cases f.state <;> decide

theorem verificationGate_ok : verificationGate f = .ok () ↔ f.Bound ∧
    (∃ version, f.verification.checkpointVersion = some version ∧
      ∀ mutation ∈ f.verification.mutationVersion, mutation ≤ version) ∧
    ∃ r, raising (verifyRef f) = .ok r ∧ (r.isSome → f.hasRef r = true) := by
  unfold verificationGate GoalCloseoutFacts.Bound
  cases hversion : f.verification.checkpointVersion with
  | none => simp [hversion, bind_eq_ok]
  | some version =>
    cases hmutation : f.verification.mutationVersion with
    | none => simp [hversion, hmutation, bind_eq_ok, and_assoc]
    | some mutation => simp [hversion, hmutation, bind_eq_ok, and_assoc]

theorem demanded_ok {condition : Prop} [Decidable condition] {x : Gate Unit} :
    (if condition then x else pure ()) = .ok () ↔ (condition → x = .ok ()) := by
  split
  · simp [*]
  · exact iff_of_true rfl fun h => absurd h ‹_›

theorem eq_some_true {x : Option Bool} : x = some true ↔ ¬ x = none ∧ ¬ x = some false := by
  rcases x with _ | _ | _ <;> simp

theorem reviewGate_ok : reviewGate f = .ok () ↔
    f.currentCandidateSha ≠ none ∧ (f.review.required = true →
      f.review.passed = some true ∧ f.review.reviewedSha = f.currentCandidateSha) := by
  unfold reviewGate
  simp only [check_bind_eq_ok, rejectIf_eq_ok, demanded_ok, ne_eq, eq_some_true]
  grind

theorem mergeGate_ok (hsha : f.currentCandidateSha ≠ none) :
    mergeGate f = .ok () ↔ (f.merge.required = true →
    f.merge.merged = some true ∧ f.merge.mergeCommit.isSome ∧
    f.merge.acceptedCandidateAncestor = some true ∧
    f.merge.acceptedCandidateSha = f.currentCandidateSha ∧
    (f.merge.postMainRequired = true → f.merge.postMainRunId.isSome ∧
      f.merge.postMainSuccess = some true ∧
      f.merge.postMainMergeCommit = f.merge.mergeCommit)) := by
  unfold mergeGate
  simp only [check_bind_eq_ok, rejectIf_eq_ok, demanded_ok, ne_eq, eq_some_true,
    Option.isSome_iff_ne_none]
  grind

theorem foldGate_ok : foldGate f = .ok () ↔
    if f.foldDue then f.Recorded (foldRef f) ∧ f.fold.completed = some true ∧ f.foldIdentityOk
    else Text.isBlank (f.fold.notRequiredReason.getD "") = false := by
  unfold foldGate
  split
  · rw [recorded_iff]
    unfold dueFoldGate
    simp only [bind_eq_ok]
    constructor
    · rintro ⟨r, hr, h⟩
      split at h
      · rename_i hhas
        simp only [check_bind_eq_ok, rejectIf_eq_ok, not_not, Bool.not_eq_false] at h
        exact ⟨⟨r, hr, hhas⟩, h⟩
      · split at h
        · simp [check_bind_eq_ok] at h
        · cases h
    · rintro ⟨⟨r, hr, hhas⟩, hcompleted, hidentity⟩
      exact ⟨r, hr, by simp [hhas, hcompleted, hidentity, check_bind_eq_ok]⟩
  · simp

theorem leaseGate_ok : leaseGate f = .ok () ↔
    (f.lease.leaseId.isSome → f.lease.ownerOk = true ∧ (f.lease.state = none ∨
      f.lease.state = some .released ∧ f.Recorded (releaseRef f))) := by
  unfold leaseGate
  cases f.lease.leaseId with
  | none => simp
  | some leaseId =>
    rw [recorded_iff]
    rcases f.lease.state with _ | _ | _ | _ | _ | _ <;>
      simp [bind_eq_ok]

theorem obligations_ok : obligations f = .ok () ↔ f.Met ∧ leaseGate f = .ok () := by
  simp only [obligations, check_bind_eq_ok, terminalGate_ok, verificationGate_ok,
    reviewGate_ok, foldGate_ok]
  constructor
  · rintro ⟨-, ⟨hbound, hjournal, r, hr, hhas⟩, howned, hcontinuity, ⟨hsha, hreview⟩, hmerge, hfold,
      hlease, hstate⟩
    have hcheckpoint : f.Recorded (verifyRef f) :=
      recorded_iff.mpr ⟨r, hr, hhas (isSome_of_mapM (mapError_eq_ok.mp hr) hsha)⟩
    simp only [ownershipGate, continuityGate, stateGate, check_bind_eq_ok,
      rejectIf_eq_ok] at howned hcontinuity hstate
    refine ⟨⟨not_not.mp hstate, hbound, hjournal, hcheckpoint, not_not.mp howned.1,
      by simpa using howned.2, ?_, hreview, (mergeGate_ok hsha).mp hmerge, hfold⟩, hlease⟩
    tauto
  · rintro ⟨hmet, hlease⟩
    obtain ⟨text, htext, -⟩ := hmet.checkpoint
    have hsha : f.currentCandidateSha ≠ none := fun hnone => by
      rw [verifyRef, hnone] at htext
      cases htext
    obtain ⟨r, hr, hhas⟩ := recorded_iff.mp hmet.checkpoint
    refine ⟨by rw [hmet.state]; decide, ⟨hmet.bound, hmet.journal, r, hr, fun _ => hhas⟩, ?_, ?_,
      ⟨hsha, hmet.review⟩, (mergeGate_ok hsha).mpr hmet.merge, hmet.fold, hlease, ?_⟩
    · simp [ownershipGate, check_bind_eq_ok, hmet.unblocked, hmet.ownership]
    · rcases hmet.continuity with hcontinuity | hcontinuity <;>
        simp [continuityGate, check_bind_eq_ok, hcontinuity]
    · simp [stateGate, hmet.state]

/-- A planning that ends early does not complete, and has the reference it asks for. -/
def Stops {α : Type} (g : Gate α) : Prop :=
  ∀ plan, g = .error (.planned plan) → plan.decision ≠ .completeAllowed ∧
    (plan.decision.asksCheckpoint = true → plan.checkpointRef.isSome)

theorem Stops.ok {a : α} : Stops (.ok a : Gate α) := fun _ h => by cases h

theorem Stops.planned {plan : GoalCloseoutPlan} (hdecision : plan.decision ≠ .completeAllowed)
    (href : plan.decision.asksCheckpoint = true → plan.checkpointRef.isSome) :
    Stops (.error (.planned plan) : Gate α) := by
  intro plan' h
  cases h
  exact ⟨hdecision, href⟩

theorem Stops.raising {x : Except CloseoutFault α} : Stops (raising x) := by
  intro plan h
  cases x <;> cases h

theorem Stops.bind {α β : Type} {x : Gate α} {g : α → Gate β} (hx : Stops x)
    (hg : ∀ a, x = .ok a → Stops (g a)) : Stops (x >>= g) := by
  intro plan h
  rcases bind_eq_error.mp h with h | ⟨a, ha, h⟩
  · exact hx plan h
  · exact hg a ha plan h

theorem Stops.reject {condition : Prop} [Decidable condition] {stop : PlanStop}
    (h : condition → Stops (.error stop : Gate Unit)) : Stops (rejectIf condition stop) := by
  unfold rejectIf
  split
  · exact h ‹_›
  · exact .ok

theorem Stops.blocked {condition : Prop} [Decidable condition] {stage : CloseoutStage}
    {code detail : String} : Stops (rejectIf condition (blockedBy stage code detail)) :=
  .reject fun _ => .planned nofun nofun

theorem Stops.recovery {condition : Prop} [Decidable condition] {stage : CloseoutStage}
    {code detail : String} {ref : Option String} :
    Stops (rejectIf condition (recoveryFor stage code detail ref)) :=
  .reject fun _ => .planned nofun nofun

theorem stops_terminalGate : Stops (terminalGate f) := by
  unfold terminalGate
  split
  · exact .planned nofun nofun
  · split
    · exact .planned nofun nofun
    · exact .ok

theorem stops_verificationGate
    (h : f.Bound → f.verification.checkpointVersion = none → f.currentCandidateSha ≠ none) :
    Stops (verificationGate f) := by
  unfold verificationGate
  refine .bind .blocked fun _ hok => .bind .blocked fun _ hids => ?_
  rw [rejectIf_eq_ok] at hok hids
  split
  · rename_i hversion
    have hsha := h ⟨by simpa using hok, by simpa [not_or] using hids⟩ hversion
    exact .bind .raising fun ref href =>
      .planned nofun fun _ => isSome_of_mapM (mapError_eq_ok.mp href) hsha
  · exact .bind .recovery fun _ _ => .bind .raising fun ref _ =>
      .reject fun hmissing => .planned nofun fun _ => hmissing.1

theorem stops_reviewGate : Stops (reviewGate f) := by
  unfold reviewGate
  refine .bind .blocked fun _ _ => ?_
  split
  · exact .bind .blocked fun _ _ => .bind .blocked fun _ _ => .blocked
  · exact .ok

theorem stops_mergeGate : Stops (mergeGate f) := by
  unfold mergeGate
  dsimp only
  split
  · refine .bind .blocked fun _ _ => .bind .blocked fun _ _ => .bind .blocked fun _ _ => ?_
    split
    · exact .bind .blocked fun _ _ => .bind .blocked fun _ _ => .bind .blocked fun _ _ => .blocked
    · exact .ok
  · exact .ok

theorem stops_foldGate (hsha : f.currentCandidateSha ≠ none) : Stops (foldGate f) := by
  unfold foldGate dueFoldGate
  split
  · refine .bind .raising fun ref href => ?_
    split
    · exact .bind .recovery fun _ _ => .recovery
    · split
      · exact .bind .blocked fun _ _ => .planned (by simp) (fun h => by cases h)
      · exact .planned (by simp) fun _ => isSome_of_mapM (mapError_eq_ok.mp href) hsha
  · exact .blocked

theorem stops_leaseGate (hsha : f.currentCandidateSha ≠ none) : Stops (leaseGate f) := by
  unfold leaseGate
  split
  · exact .ok
  · rename_i leaseId hlease
    refine .bind .blocked fun _ _ => .bind .recovery fun _ _ => .bind .recovery fun _ _ => ?_
    split
    · refine .bind .raising fun ref href => .bind .recovery fun _ _ => .planned (by simp) fun _ => ?_
      have href := mapError_eq_ok.mp href
      rw [releaseRef, hlease] at href
      exact isSome_of_mapM href hsha
    · split
      · exact .bind .raising fun ref _ => .recovery
      · exact .ok

theorem stops_obligations (h : ¬ f.CandidateUnknown) : Stops (obligations f) := by
  refine .bind stops_terminalGate fun _ hterminal => .bind ?_ fun _ _ => .bind ?_ fun _ _ =>
    .bind ?_ fun _ _ => .bind stops_reviewGate fun _ hreview => .bind stops_mergeGate fun _ _ =>
    .bind (stops_foldGate ?_) fun _ _ => .bind (stops_leaseGate ?_) fun _ _ => .blocked
  · exact stops_verificationGate fun hbound hversion hsha =>
      h ⟨terminalGate_ok.mp hterminal, hbound, hversion, hsha⟩
  · exact .bind .blocked fun _ _ => .bind .blocked fun _ _ => .bind .blocked fun _ _ => .blocked
  · exact .bind .recovery fun _ _ => .blocked
  · exact (reviewGate_ok.mp hreview).1
  · exact (reviewGate_ok.mp hreview).1

/-- What a checkpoint of the verification can name, the completion can. -/
theorem completeRef_ok (h : f.Recorded (verifyRef f)) : ∃ ref, completeRef f = .ok ref := by
  obtain ⟨text, htext, -⟩ := h
  unfold verifyRef at htext
  unfold completeRef
  cases hsha : f.currentCandidateSha with
  | none => exact ⟨none, rfl⟩
  | some sha =>
    rw [hsha] at htext
    obtain ⟨_, href, -⟩ := bind_eq_ok.mp htext
    obtain ⟨task, htask, href⟩ := bind_eq_ok.mp href
    obtain ⟨candidate, hcandidate, -⟩ := bind_eq_ok.mp href
    simp [closeoutCheckpointRef, htask, hcandidate, ok_bind]

/-- A closeout fails closed unless the caller's lease has no known state where everything else is
    met, or the verification of an unknown candidate is not journalled. -/
theorem failClosed_iff : FailClosed f ↔ ¬ (f.Met ∧ f.LeaseUnknown) ∧ ¬ f.CandidateUnknown := by
  constructor
  · refine fun h => ⟨fun ⟨hmet, hid, howner, hstate⟩ => ?_, fun ⟨hstate, hbound, hversion, hsha⟩ => ?_⟩
    · have hok := obligations_ok.mpr ⟨hmet, leaseGate_ok.mpr fun _ => ⟨howner, .inl hstate⟩⟩
      obtain ⟨ref, href⟩ := completeRef_ok hmet.checkpoint
      have hplan : planGoalCloseout f = .ok ⟨.completeAllowed, .complete, [], ref⟩ := by
        rw [planGoalCloseout, hok, href]
        rfl
      have hreleased := (h.complete _ hplan rfl).2 hid
      simp [hstate] at hreleased
    · have hgate : verificationGate f =
          .error (.planned ⟨.verifyCheckpointRequired, .verifyCheckpoint, [], none⟩) := by
        unfold verificationGate
        dsimp only
        rw [rejectIf_neg (by simp [hbound.1]), ok_bind,
          rejectIf_neg (by simp [hbound.2]), ok_bind, hversion, verifyRef, hsha]
        rfl
      have hplan : planGoalCloseout f =
          .ok ⟨.verifyCheckpointRequired, .verifyCheckpoint, [], none⟩ := by
        unfold planGoalCloseout obligations
        rw [terminalGate_ok.mpr hstate, ok_bind, hgate]
        rfl
      exact absurd (h.checkpoint _ hplan rfl) nofun
  · rintro ⟨hlease, hcandidate⟩
    have hstops := stops_obligations hcandidate
    constructor
    · intro plan hplan hdecision
      unfold planGoalCloseout at hplan
      split at hplan
      · cases hplan
      · rename_i planned hplanned
        cases hplan
        exact absurd hdecision (hstops _ hplanned).1
      · rename_i hok
        obtain ⟨hmet, hgate⟩ := obligations_ok.mp hok
        refine ⟨hmet, fun hid => ?_⟩
        obtain ⟨howner, hstate | hreleased⟩ := leaseGate_ok.mp hgate hid
        · exact absurd ⟨hmet, hid, howner, hstate⟩ hlease
        · exact hreleased
    · intro plan hplan hasks
      unfold planGoalCloseout at hplan
      split at hplan
      · cases hplan
      · rename_i planned hplanned
        cases hplan
        exact (hstops _ hplanned).2 hasks
      · obtain ⟨ref, -, rfl⟩ := map_eq_ok.mp hplan
        cases hasks

/-- A job under review with one lease, whose obligations are all met. -/
def metFacts : GoalCloseoutFacts where
  jobId := "job-1"
  taskId := "task-1"
  attemptId := "attempt-1"
  state := .reviewPending
  version := 1
  verification := ⟨"task-1", "attempt-1", true, none, none, some 1⟩
  blockingFindings := []
  continuity := .fresh
  currentCandidateSha := some "abcdef1"
  review := ⟨false, none, none⟩
  merge := ⟨false, none, none, none, none, false, none, none, none⟩
  fold := ⟨.notRequired, some "no fold", none, none, none⟩
  lease := ⟨some "lease-1", none, true⟩
  ownership := ⟨true, false, false⟩
  completedCloseoutRefs := ["closeout:verify:task-1:abcdef1:attempt-1"]

/-- The lease has no known state, and the job may complete; without a candidate the checkpoint
    that is asked for has no reference. -/
theorem unknown_lease_completes :
    (metFacts.make = .ok metFacts ∧ LeaseEvidence.make id (some "lease-1") none true =
      .ok metFacts.lease ∧ (planGoalCloseout metFacts).map (·.decision) = .ok .completeAllowed) ∧
    (planGoalCloseout { metFacts with
      verification := { metFacts.verification with checkpointVersion := none }
      currentCandidateSha := none }).map (fun p => (p.decision, p.checkpointRef)) =
      .ok (.verifyCheckpointRequired, none) := by
  decide +kernel

end AConductor.Closeout

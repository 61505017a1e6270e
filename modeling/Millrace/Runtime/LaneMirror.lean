import Mathlib.Tactic.Common
import Millrace.Action
import Millrace.Runs
import Millrace.Runtime.Ownership

/-! # Lane state beside the plane map: which operations keep the two alike -/

set_option autoImplicit false

namespace Millrace.Runtime

open Millrace.Text Millrace.Contracts Millrace.Action

/-! ## Operations -/

inductive LaneOpError where
  | noActiveRun (plane : Plane)
  | json (error : RuntimeJsonError)
deriving DecidableEq, Repr

def saved (s : LaneSnapshot) : Except LaneOpError LaneSnapshot :=
  s.save.mapError .json

def setNextStageForPlane (plane : Plane) (stage : StageName) (nodeId stageKindId now : String) (s : LaneSnapshot) :
    Except LaneOpError LaneSnapshot :=
  match s.activeRunsByPlane plane with
  | none => .error (.noActiveRun plane)
  | some run =>
    let run := { run with stage, nodeId, stageKindId, activeSince := now, runningStatusMarker := none }
    saved { s with activeRunsByPlane := Function.update s.activeRunsByPlane plane (some run) }

/-- The run that the post-stage recovery starts from where the plane has lost its own. -/
def runOfStageResult (result : StageResultEnvelope) (now : String) : ScheduledRun :=
  { plane := result.plane, stage := result.stage, nodeId := result.nodeId, stageKindId := result.stageKindId
    runId := result.runId
    requestKind := if result.workItemKind = .learningRequest then .learningRequest else .activeWorkItem
    workItemKind := some result.workItemKind, workItemId := some result.workItemId
    closureTargetRootSpecId := none, activeSince := now
    laneId := defaultLaneIdForPlane result.plane
    workItemFamilyId := some (StringEnum.asStr result.workItemKind)
    closureTargetRootIdeaId := none, runningStatusMarker := none }

def setRecoveryStageForPlane (result : StageResultEnvelope) (repairStage : StageName)
    (repairNodeId repairStageKindId now : String) (s : LaneSnapshot) : LaneSnapshot :=
  let run := (s.activeRunsByPlane result.plane).getD (runOfStageResult result now)
  snapshotWithActiveRun s
    { run with
      stage := repairStage, nodeId := repairNodeId, stageKindId := repairStageKindId
      activeSince := now, runningStatusMarker := none }

/-- Of the lane snapshot it clears the plane map. -/
def resetRuntimeToIdle (s : LaneSnapshot) : LaneSnapshot :=
  { s with activeRunsByPlane := fun _ => none }

def clearRetryActivePlane (plane : Plane) (s : LaneSnapshot) : LaneSnapshot :=
  let s := { s with activeRunsByPlane := Function.update s.activeRunsByPlane plane none }
  if (activeRuns s).isEmpty then resetRuntimeToIdle s else s

/-- The run that a retry takes: that of the plane it names, or the only one. -/
def activeRunForRetry (scope : Option Plane) (s : LaneSnapshot) : Option ScheduledRun :=
  match scope with
  | some plane => s.activeRunsByPlane plane
  | none => match activeRuns s with
    | [run] => some run
    | _ => none

/-- The run a retry drops: it works on a queue item, and the item went back to its queue. -/
def retriedRun (scope : Option Plane) (requeued : Bool) (s : LaneSnapshot) : Option ScheduledRun :=
  (activeRunForRetry scope s).filter fun run => run.workItemKind.isSome && run.workItemId.isSome && requeued

def retryActive (scope : Option Plane) (requeued : Bool) (s : LaneSnapshot) : Except LaneOpError LaneSnapshot :=
  match retriedRun scope requeued s with
  | none => .ok s
  | some run => saved (clearRetryActivePlane run.plane s)

def guardStageWorkItemOwnershipForPlane (plane : Plane) (s : LaneSnapshot) : Except LaneOpError LaneSnapshot :=
  match ownershipViolation s plane with
  | none => .ok s
  | some _ => saved (resetRuntimeToIdle s)

/-- `ensure_snapshot_lanes` for one declared lane. -/
def ensureLane (s : LaneSnapshot) (laneId : String) (plane : Plane) : LaneSnapshot :=
  let runs := (activeRuns s).filter (·.lane = laneId)
  let lane :=
    if !runs.isEmpty then laneStateForActiveRuns laneId plane runs
    else
      let lane := (s.lanesById.lookup laneId).getD
        { laneId, plane, status := .idle, activeRunIds := [], activeWorkRefs := [],
          lastClaimAttemptAt := none, lastTerminalOutcome := none }
      { lane with
        plane
        status := if lane.status = .active then .idle else lane.status
        activeRunIds := []
        activeWorkRefs := [] }
  { s with lanesById := s.lanesById.insert laneId lane }

/-- The lanes of the plan are declared anew at startup and on a reload. -/
def ensureSnapshotLanes (declared : List (String × Plane)) (s : LaneSnapshot) : LaneSnapshot :=
  declared.foldl (fun s lane => ensureLane s lane.1 lane.2) s

inductive LaneOp where
  | activate (policy : Option WorkflowPlaneSchedulerPolicyDefinition) (run : ScheduledRun)
  | advance (plane : Plane) (stage : StageName) (nodeId stageKindId now : String)
  | terminal (plane : Plane) (now : String)
  | recover (result : StageResultEnvelope) (repairStage : StageName) (repairNodeId repairStageKindId now : String)
  | retryActive (scope : Option Plane) (requeued : Bool)
  | clearStale
  | guardOwnership (plane : Plane)
  | stop
  | ensureLanes (declared : List (String × Plane))

def LaneOp.attempt (s : LaneSnapshot) : LaneOp → Except LaneOpError LaneSnapshot
  | .activate policy run => (activateRun policy run s).mapError .json
  | .advance plane stage nodeId stageKindId now => setNextStageForPlane plane stage nodeId stageKindId now s
  | .terminal plane now => saved (clearActivePlane plane now s)
  | .recover result repairStage repairNodeId repairStageKindId now =>
    saved (setRecoveryStageForPlane result repairStage repairNodeId repairStageKindId now s)
  | .retryActive scope requeued => Runtime.retryActive scope requeued s
  | .clearStale | .stop => saved (resetRuntimeToIdle s)
  | .guardOwnership plane => guardStageWorkItemOwnershipForPlane plane s
  | .ensureLanes declared => saved (ensureSnapshotLanes declared s)

/-- The saved snapshot after an operation; one that fails leaves the last one. -/
def LaneOp.apply (s : LaneSnapshot) (op : LaneOp) : LaneSnapshot :=
  match op.attempt s with
  | .ok s' => s'
  | .error _ => s

/-! ## The mirror -/

/-- The lane lists the runs that are kept under it, and is active exactly when it lists one. -/
structure LaneSnapshot.MirrorsAt (s : LaneSnapshot) (laneId : String) : Prop where
  listed : ∀ runId, (∃ lane, s.lanesById.lookup laneId = some lane ∧ runId ∈ lane.activeRunIds) ↔
    ∃ plane run, s.activeRunsByPlane plane = some run ∧ run.lane = laneId ∧ run.runId = runId
  active : ∀ lane, s.lanesById.lookup laneId = some lane → (lane.status = .active ↔ lane.activeRunIds ≠ [])

def LaneSnapshot.Mirrors (s : LaneSnapshot) : Prop := ∀ laneId, s.MirrorsAt laneId

/-- The operation takes no active run out of the plane map behind the lanes' back. -/
def LaneOp.DropsNoRun (s : LaneSnapshot) : LaneOp → Prop
  | .retryActive scope requeued => retriedRun scope requeued s = none
  | .clearStale | .stop => ∀ plane, s.activeRunsByPlane plane = none
  | .guardOwnership plane => ownershipViolation s plane = none
  | .activate .. | .advance .. | .terminal .. | .recover .. | .ensureLanes .. => True

/-! ## What a saved snapshot has been checked for -/

theorem require_eq_ok {condition : Bool} {message : String} : require condition message = .ok () ↔ condition = true := by
  cases condition <;> simp [require]

theorem validate_eq_ok (s : LaneSnapshot) : s.validate = .ok () ↔
    (∀ plane run, s.activeRunsByPlane plane = some run → run.validate = .ok () ∧ plane = run.plane) ∧
      ∀ entry ∈ s.lanesById.entries, entry.2.validate = .ok () ∧ entry.1 = entry.2.laneId := by
  unfold LaneSnapshot.validate
  rw [bind_unit_eq_ok, forM_eq_ok, forM_eq_ok]
  refine and_congr ⟨fun checked plane run active => ?_, fun checked plane _ => ?_⟩ ?_
  · have here := optionForM_eq_ok.mp (checked plane (mem_dispatchOrder plane)) run active
    rw [bind_unit_eq_ok, require_eq_ok, decide_eq_true_eq] at here
    exact here
  · refine optionForM_eq_ok.mpr fun run active => ?_
    rw [bind_unit_eq_ok, require_eq_ok, decide_eq_true_eq]
    exact checked plane run active
  · refine forall₂_congr fun entry _ => ?_
    rw [bind_unit_eq_ok, require_eq_ok, decide_eq_true_eq]

theorem saved_eq_ok {s s' : LaneSnapshot} : saved s = .ok s' ↔ s.validate = .ok () ∧ s = s' := by
  rw [saved, mapError_eq_ok, LaneSnapshot.save, bind_unit_eq_ok, pure_eq_ok]

theorem namespacedBy_iff (plane : Plane) (laneId : String) :
    namespacedBy plane laneId = true ↔ (StringEnum.asStr plane ++ ".").toList <+: laneId.toList := by
  rw [namespacedBy, List.isPrefixOf_iff_prefix]

theorem namespacedBy_default (plane : Plane) : namespacedBy plane (defaultLaneIdForPlane plane) = true := by
  cases plane <;> decide

theorem plane_of_namespacedBy {a b : Plane} {laneId : String} (first : namespacedBy a laneId = true)
    (second : namespacedBy b laneId = true) : a = b := by
  have both := List.prefix_or_prefix_of_prefix ((namespacedBy_iff a laneId).mp first) ((namespacedBy_iff b laneId).mp second)
  cases a <;> cases b <;> first | rfl | exact absurd both (by decide)

section Valid
variable {s : LaneSnapshot}

theorem plane_of_valid (valid : s.validate = .ok ()) {plane : Plane} {run : ScheduledRun} (active : s.activeRunsByPlane plane = some run) :
    run.plane = plane :=
  (((validate_eq_ok s).mp valid).1 plane run active).2.symm

theorem namespaced_lane {run : ScheduledRun} (checked : run.validate = .ok ()) :
    namespacedBy run.plane run.lane = true := by
  have lane := require_eq_ok.mp (bind_unit_eq_ok.mp (bind_unit_eq_ok.mp checked).2).1
  unfold ScheduledRun.lane
  split
  next => exact namespacedBy_default run.plane
  next nonblank =>
    rw [Bool.or_eq_true, decide_eq_true_eq] at lane
    refine lane.resolve_left fun empty => nonblank ?_
    rw [empty]
    decide

theorem namespaced_of_valid (valid : s.validate = .ok ()) {plane : Plane} {run : ScheduledRun}
    (active : s.activeRunsByPlane plane = some run) :
    namespacedBy plane run.lane = true :=
  plane_of_valid valid active ▸ namespaced_lane (((validate_eq_ok s).mp valid).1 plane run active).1

/-- Two active runs in one lane are one run. -/
theorem same_plane_of_lane (valid : s.validate = .ok ()) {a b : Plane} {run other : ScheduledRun}
    (first : s.activeRunsByPlane a = some run)
    (second : s.activeRunsByPlane b = some other) (same : run.lane = other.lane) : a = b :=
  plane_of_namespacedBy (namespaced_of_valid valid first) (by
    rw [same]
    exact namespaced_of_valid valid second)

/-- Taking runs out of the plane map leaves the snapshot valid. -/
theorem validate_fewer (valid : s.validate = .ok ()) {runs : Plane → Option ScheduledRun}
    (fewer : ∀ plane run, runs plane = some run → s.activeRunsByPlane plane = some run) :
    LaneSnapshot.validate { s with activeRunsByPlane := runs } = .ok () := by
  obtain ⟨runsChecked, lanesChecked⟩ := (validate_eq_ok s).mp valid
  exact (validate_eq_ok _).mpr ⟨fun plane run active => runsChecked plane run (fewer plane run active), lanesChecked⟩

end Valid

/-! ## Lanes one by one -/

/-- Some active run with this id is kept under the lane. -/
def LaneSnapshot.RunIn (s : LaneSnapshot) (laneId runId : String) : Prop :=
  ∃ plane run, s.activeRunsByPlane plane = some run ∧ run.lane = laneId ∧ run.runId = runId

theorem mirrorsAt_of_lookup {s : LaneSnapshot} {laneId : String} {lane : LaneRuntimeState}
    (found : s.lanesById.lookup laneId = some lane) (listed : ∀ runId, runId ∈ lane.activeRunIds ↔ s.RunIn laneId runId)
    (active : lane.status = .active ↔ lane.activeRunIds ≠ []) : s.MirrorsAt laneId where
  listed runId := by
    rw [found]
    exact Iff.trans ⟨fun ⟨_, same, member⟩ => Option.some.inj same ▸ member, fun member => ⟨lane, rfl, member⟩⟩
      (listed runId)
  active other same := by
    rw [found] at same
    exact Option.some.inj same ▸ active

theorem LaneSnapshot.MirrorsAt.congr {s s' : LaneSnapshot} {laneId : String} (mirrors : s.MirrorsAt laneId)
    (lanes : s'.lanesById.lookup laneId = s.lanesById.lookup laneId)
    (runs : ∀ runId, s'.RunIn laneId runId ↔ s.RunIn laneId runId) : s'.MirrorsAt laneId where
  listed runId := by
    rw [lanes]
    exact (mirrors.listed runId).trans (runs runId).symm
  active lane found := mirrors.active lane (lanes ▸ found)

/-- Changing the run of one plane changes no lane but those of the old and the new run. -/
theorem runIn_update {s : LaneSnapshot} {lanes : LanesById} {plane : Plane} {new : Option ScheduledRun} {laneId : String}
    (old : ∀ run, s.activeRunsByPlane plane = some run → run.lane ≠ laneId)
    (fresh : ∀ run, new = some run → run.lane ≠ laneId) (runId : String) :
    LaneSnapshot.RunIn ⟨Function.update s.activeRunsByPlane plane new, lanes⟩ laneId runId ↔ s.RunIn laneId runId := by
  constructor
  · intro ⟨other, run, active, inLane, is⟩
    by_cases here : other = plane
    · subst here
      simp only [Function.update_self] at active
      exact absurd inLane (fresh run active)
    · simp only [Function.update_of_ne here] at active
      exact ⟨other, run, active, inLane, is⟩
  · intro ⟨other, run, active, inLane, is⟩
    by_cases here : other = plane
    · subst here
      exact absurd inLane (old run active)
    · exact ⟨other, run, by simpa only [Function.update_of_ne here] using active, inLane, is⟩

/-- In a lane that no other plane uses, the run of the plane is the only one. -/
theorem runIn_update_lane {s : LaneSnapshot} {lanes : LanesById} {plane : Plane} {new : Option ScheduledRun}
    {laneId : String} (apart : ∀ other run, s.activeRunsByPlane other = some run → run.lane = laneId → other = plane)
    (runId : String) :
    LaneSnapshot.RunIn ⟨Function.update s.activeRunsByPlane plane new, lanes⟩ laneId runId ↔
      ∃ run, new = some run ∧ run.lane = laneId ∧ run.runId = runId := by
  constructor
  · intro ⟨other, run, active, inLane, is⟩
    by_cases here : other = plane
    · subst here
      simp only [Function.update_self] at active
      exact ⟨run, active, inLane, is⟩
    · simp only [Function.update_of_ne here] at active
      exact absurd (apart other run active inLane) here
  · intro ⟨run, is, inLane, id⟩
    exact ⟨plane, run, by simp only [Function.update_self, is], inLane, id⟩

/-! ## What each operation does to the mirror -/

section Steps
variable {s : LaneSnapshot}

/-- The new run takes its plane, and its lane for itself alone: a lane that passed validation is named after its plane,
so no run of another plane is in it. -/
theorem mirrors_withActiveRun {run : ScheduledRun} (valid : s.validate = .ok ()) (mirrors : s.Mirrors)
    (checked : (snapshotWithActiveRun s run).validate = .ok ())
    (replaced : ∀ old, s.activeRunsByPlane run.plane = some old → old.lane = run.lane) :
    (snapshotWithActiveRun s run).Mirrors := by
  have taken : (snapshotWithActiveRun s run).activeRunsByPlane run.plane = some run := Function.update_self _ _ _
  have apart : ∀ other old, s.activeRunsByPlane other = some old → old.lane = run.lane → other = run.plane := by
    intro other old active inLane
    have named := namespaced_of_valid valid active
    rw [inLane] at named
    exact plane_of_namespacedBy named (namespaced_of_valid checked taken)
  intro laneId
  by_cases here : laneId = run.lane
  · subst here
    refine mirrorsAt_of_lookup (AList.lookup_insert _) (fun runId => ?_) (by simp [laneStateForActiveRuns])
    rw [snapshotWithActiveRun, snapshotWithLaneActiveRun, runIn_update_lane apart]
    simp [laneStateForActiveRuns, eq_comm]
  · refine (mirrors laneId).congr (AList.lookup_insert_ne here) fun runId => ?_
    exact runIn_update (fun old active inLane => here (inLane.symm.trans (replaced old active)))
      (fun new is inLane => here (inLane.symm.trans (by rw [Option.some.inj is]))) runId

theorem mirrors_activate (valid : s.validate = .ok ()) (mirrors : s.Mirrors)
    (policy : Option WorkflowPlaneSchedulerPolicyDefinition) (run : ScheduledRun) :
    (LaneOp.apply s (.activate policy run)).Mirrors := by
  unfold LaneOp.apply LaneOp.attempt activateRun
  split
  next s' ok =>
    rw [mapError_eq_ok] at ok
    split at ok
    next => exact Except.ok.inj ok ▸ mirrors
    next idle =>
      have idle : s.activeRunsByPlane run.plane = none := by simpa using idle
      rw [LaneSnapshot.save, bind_unit_eq_ok, pure_eq_ok] at ok
      obtain ⟨checked, rfl⟩ := ok
      exact mirrors_withActiveRun valid mirrors checked (by simp [idle])
  next => exact mirrors

theorem mirrors_advance (mirrors : s.Mirrors) (plane : Plane) (stage : StageName) (nodeId stageKindId now : String) :
    (LaneOp.apply s (.advance plane stage nodeId stageKindId now)).Mirrors := by
  unfold LaneOp.apply LaneOp.attempt
  split
  next s' ok =>
    unfold setNextStageForPlane at ok
    cases active : s.activeRunsByPlane plane with
    | none => simp [active] at ok
    | some run =>
      simp only [active, saved_eq_ok] at ok
      obtain ⟨-, rfl⟩ := ok
      -- The lane and the id of the run stay.
      intro laneId
      refine (mirrors laneId).congr rfl fun runId => ⟨?_, ?_⟩
      · intro ⟨other, new, is, inLane, id⟩
        by_cases here : other = plane
        · subst here
          simp only [Function.update_self] at is
          rw [← Option.some.inj is] at inLane id
          exact ⟨other, run, active, inLane, id⟩
        · simp only [Function.update_of_ne here] at is
          exact ⟨other, new, is, inLane, id⟩
      · intro ⟨other, old, is, inLane, id⟩
        by_cases here : other = plane
        · subst here
          rw [active] at is
          obtain rfl := Option.some.inj is
          exact ⟨other, _, Function.update_self _ _ _, inLane, id⟩
        · exact ⟨other, old, by simpa only [Function.update_of_ne here] using is, inLane, id⟩
  next => exact mirrors

theorem without_alone {lane : LaneRuntimeState} {runId : String} (alone : ∀ id ∈ lane.activeRunIds, id = runId)
    (now : String) (outcome : Option String) :
    (lane.without runId now outcome).activeRunIds = [] ∧ (lane.without runId now outcome).status = .idle := by
  have emptied : lane.activeRunIds.filter (· ≠ runId) = [] := by
    rw [List.filter_eq_nil_iff]
    intro id listed
    simpa using alone id listed
  unfold LaneRuntimeState.without
  rw [emptied]
  exact ⟨rfl, rfl⟩

/-- Ending a run clears its lane: it was the only run there. -/
theorem mirrors_clearActivePlane (valid : s.validate = .ok ()) (mirrors : s.Mirrors) (plane : Plane) (now : String) :
    (clearActivePlane plane now s).Mirrors := by
  unfold clearActivePlane
  split
  next => exact mirrors
  next run active =>
    have apart : ∀ other old, s.activeRunsByPlane other = some old → old.lane = run.lane → other = plane :=
      fun other old is inLane => same_plane_of_lane valid is active inLane
    obtain ⟨lane, found, member⟩ := ((mirrors run.lane).listed run.runId).mpr ⟨plane, run, active, rfl, rfl⟩
    have alone : ∀ id ∈ lane.activeRunIds, id = run.runId := by
      intro id listed
      obtain ⟨other, old, is, inLane, same⟩ := ((mirrors run.lane).listed id).mp ⟨lane, found, listed⟩
      rw [apart other old is inLane, active] at is
      rw [← same, Option.some.inj is]
    obtain ⟨emptied, idled⟩ := without_alone alone now none
    simp only [snapshotWithoutLaneActiveRun, found]
    intro laneId
    by_cases here : laneId = run.lane
    · subst here
      refine mirrorsAt_of_lookup (AList.lookup_insert _) (fun runId => ?_) (by simp [emptied, idled])
      rw [runIn_update_lane apart, emptied]
      simp
    · refine (mirrors laneId).congr (AList.lookup_insert_ne here) fun runId => ?_
      refine runIn_update (fun old is inLane => here ?_) (fun _ is => by cases is) runId
      rw [active] at is
      rw [← inLane, Option.some.inj is]

theorem mirrors_recover (valid : s.validate = .ok ()) (mirrors : s.Mirrors) {result : StageResultEnvelope}
    {stage : StageName} {nodeId stageKindId now : String}
    (checked : (setRecoveryStageForPlane result stage nodeId stageKindId now s).validate = .ok ()) :
    (setRecoveryStageForPlane result stage nodeId stageKindId now s).Mirrors := by
  refine mirrors_withActiveRun valid mirrors checked fun old is => ?_
  cases active : s.activeRunsByPlane result.plane with
  | none =>
    simp only [active, Option.getD_none, runOfStageResult] at is
    cases is
  | some run =>
    simp only [active, Option.getD_some, plane_of_valid valid active] at is ⊢
    simp only [ScheduledRun.lane, ← Option.some.inj is, plane_of_valid valid active]

/-- The lane of a declared id is set to the runs kept under it, whatever it listed before. -/
theorem mirrors_ensureLane (mirrors : s.Mirrors) (laneId : String) (plane : Plane) :
    (ensureLane s laneId plane).Mirrors := by
  have member : ∀ runId, (∃ run ∈ (activeRuns s).filter (·.lane = laneId), run.runId = runId) ↔ s.RunIn laneId runId := by
    intro runId
    simp only [activeRuns, List.mem_filter, List.mem_filterMap, mem_dispatchOrder, true_and, decide_eq_true_eq]
    constructor
    · intro ⟨run, ⟨⟨plane, active⟩, inLane⟩, id⟩
      exact ⟨plane, run, active, inLane, id⟩
    · intro ⟨plane, run, active, inLane, id⟩
      exact ⟨run, ⟨⟨plane, active⟩, inLane⟩, id⟩
  intro other
  by_cases here : other = laneId
  · subst here
    refine mirrorsAt_of_lookup (AList.lookup_insert _) (fun runId => ?_) ?_
    · refine Iff.trans ?_ (member runId)
      split
      next => simp [laneStateForActiveRuns]
      next none =>
        have none : (activeRuns s).filter (·.lane = other) = [] := by simpa using none
        simp [none]
    · split
      next some =>
        have some : (activeRuns s).filter (·.lane = other) ≠ [] := by simpa using some
        simp only [laneStateForActiveRuns, ne_eq, List.map_eq_nil_iff, true_iff]
        exact some
      next =>
        simp only [ne_eq, not_true_eq_false, iff_false]
        split <;> simp_all
  · exact (mirrors other).congr (AList.lookup_insert_ne here) fun _ => Iff.rfl

theorem mirrors_ensureSnapshotLanes (mirrors : s.Mirrors) (declared : List (String × Plane)) :
    (ensureSnapshotLanes declared s).Mirrors := by
  induction declared generalizing s with
  | nil => exact mirrors
  | cons lane declared ih => exact ih (mirrors_ensureLane mirrors lane.1 lane.2)

/-- Clearing the plane map leaves the mirror only where there was nothing to clear. -/
theorem mirrors_reset_iff (mirrors : s.Mirrors) :
    (resetRuntimeToIdle s).Mirrors ↔ ∀ plane, s.activeRunsByPlane plane = none := by
  constructor
  · intro kept plane
    cases active : s.activeRunsByPlane plane with
    | none => rfl
    | some run =>
      have listed := ((mirrors run.lane).listed run.runId).mpr ⟨plane, run, active, rfl, rfl⟩
      obtain ⟨_, _, is, _⟩ := ((kept run.lane).listed run.runId).mp listed
      cases is
  · intro idle laneId
    refine (mirrors laneId).congr rfl fun runId => ?_
    simp [LaneSnapshot.RunIn, resetRuntimeToIdle, idle]

theorem activeRuns_empty {runs : Plane → Option ScheduledRun} {lanes : LanesById}
    (empty : (activeRuns ⟨runs, lanes⟩).isEmpty = true) : runs = fun _ => none := by
  funext plane
  cases active : runs plane with
  | none => rfl
  | some run =>
    have member : run ∈ activeRuns ⟨runs, lanes⟩ := List.mem_filterMap.mpr ⟨plane, mem_dispatchOrder plane, active⟩
    rw [List.isEmpty_iff.mp empty] at member
    cases member

theorem clearRetryActivePlane_eq (plane : Plane) :
    clearRetryActivePlane plane s = { s with activeRunsByPlane := Function.update s.activeRunsByPlane plane none } := by
  unfold clearRetryActivePlane
  by_cases empty : (activeRuns ⟨Function.update s.activeRunsByPlane plane none, s.lanesById⟩).isEmpty = true
  · simp only [resetRuntimeToIdle, activeRuns_empty empty, ite_self]
  · simp only [empty, Bool.false_eq_true, if_false]

theorem retriedRun_active {scope : Option Plane} {requeued : Bool} {run : ScheduledRun}
    (retried : retriedRun scope requeued s = some run) : ∃ plane, s.activeRunsByPlane plane = some run := by
  obtain ⟨taken, -⟩ := Option.filter_eq_some_iff.mp retried
  unfold activeRunForRetry at taken
  split at taken
  next plane => exact ⟨plane, taken⟩
  next =>
    split at taken
    next only here =>
      have member : only ∈ activeRuns s := by simp [here]
      obtain ⟨plane, _, active⟩ := List.mem_filterMap.mp member
      exact ⟨plane, active.trans taken⟩
    next => cases taken

theorem mirrors_retryActive_iff (valid : s.validate = .ok ()) (mirrors : s.Mirrors) (scope : Option Plane)
    (requeued : Bool) :
    (LaneOp.apply s (.retryActive scope requeued)).Mirrors ↔ retriedRun scope requeued s = none := by
  cases retried : retriedRun scope requeued s with
  | none => simpa [LaneOp.apply, LaneOp.attempt, retryActive, retried] using mirrors
  | some run =>
    obtain ⟨plane, active⟩ := retriedRun_active retried
    have cleared : LaneOp.apply s (.retryActive scope requeued) =
        { s with activeRunsByPlane := Function.update s.activeRunsByPlane plane none } := by
      have checked : LaneSnapshot.validate
          { s with activeRunsByPlane := Function.update s.activeRunsByPlane plane none } = .ok () := by
        refine validate_fewer valid fun other old is => ?_
        by_cases here : other = plane
        · subst here
          simp only [Function.update_self] at is
          cases is
        · simpa only [Function.update_of_ne here] using is
      have ok := saved_eq_ok.mpr ⟨checked, rfl⟩
      simp only [LaneOp.apply, LaneOp.attempt, retryActive, retried, clearRetryActivePlane_eq,
        plane_of_valid valid active, ok]
    -- The lane goes on listing the run that has left the plane map.
    rw [cleared]
    refine iff_of_false (fun kept => ?_) (by simp)
    have listed := ((mirrors run.lane).listed run.runId).mpr ⟨plane, run, active, rfl, rfl⟩
    obtain ⟨_, is, _⟩ := (runIn_update_lane (fun other old found inLane =>
      same_plane_of_lane valid found active inLane) run.runId).mp (((kept run.lane).listed run.runId).mp listed)
    cases is

theorem saved_reset (valid : s.validate = .ok ()) : saved (resetRuntimeToIdle s) = .ok (resetRuntimeToIdle s) :=
  saved_eq_ok.mpr ⟨validate_fewer valid (fun _ _ active => by cases active), rfl⟩

/-- An operation keeps the mirror exactly when it drops no run from the plane map alone. -/
theorem mirrors_apply_iff (valid : s.validate = .ok ()) (mirrors : s.Mirrors) (op : LaneOp) :
    (op.apply s).Mirrors ↔ op.DropsNoRun s := by
  cases op with
  | activate policy run => exact iff_of_true (mirrors_activate valid mirrors policy run) trivial
  | advance plane stage nodeId stageKindId now =>
    exact iff_of_true (mirrors_advance mirrors plane stage nodeId stageKindId now) trivial
  | terminal plane now =>
    refine iff_of_true ?_ trivial
    unfold LaneOp.apply
    split
    next s' ok => exact (saved_eq_ok.mp ok).2 ▸ mirrors_clearActivePlane valid mirrors plane now
    next => exact mirrors
  | recover result stage nodeId stageKindId now =>
    refine iff_of_true ?_ trivial
    unfold LaneOp.apply
    split
    next s' ok =>
      obtain ⟨checked, rfl⟩ := saved_eq_ok.mp ok
      exact mirrors_recover valid mirrors checked
    next => exact mirrors
  | retryActive scope requeued => exact mirrors_retryActive_iff valid mirrors scope requeued
  | clearStale =>
    simp only [LaneOp.apply, LaneOp.attempt, saved_reset valid]
    exact mirrors_reset_iff mirrors
  | stop =>
    simp only [LaneOp.apply, LaneOp.attempt, saved_reset valid]
    exact mirrors_reset_iff mirrors
  | guardOwnership plane =>
    simp only [LaneOp.apply, LaneOp.attempt, guardStageWorkItemOwnershipForPlane, LaneOp.DropsNoRun]
    cases violated : ownershipViolation s plane with
    | none => exact iff_of_true mirrors rfl
    | some violation =>
      simp only [saved_reset valid]
      refine iff_of_false (fun kept => ?_) (by simp)
      simp [ownershipViolation, (mirrors_reset_iff mirrors).mp kept plane] at violated
  | ensureLanes declared =>
    refine iff_of_true ?_ trivial
    unfold LaneOp.apply
    split
    next s' ok => exact (saved_eq_ok.mp ok).2 ▸ mirrors_ensureSnapshotLanes mirrors declared
    next => exact mirrors

/-- What an operation saves has been validated. -/
theorem LaneOp.apply_valid (op : LaneOp) (valid : s.validate = .ok ()) : (op.apply s).validate = .ok () := by
  have kept : ∀ {x : LaneSnapshot} {s' : LaneSnapshot}, saved x = .ok s' → s'.validate = .ok () := by
    intro x s' ok
    obtain ⟨checked, rfl⟩ := saved_eq_ok.mp ok
    exact checked
  unfold LaneOp.apply
  split
  next s' ok =>
    cases op with
    | activate policy run =>
      simp only [LaneOp.attempt, activateRun, mapError_eq_ok] at ok
      split at ok
      next => exact Except.ok.inj ok ▸ valid
      next =>
        rw [LaneSnapshot.save, bind_unit_eq_ok, pure_eq_ok] at ok
        exact ok.2 ▸ ok.1
    | advance plane stage nodeId stageKindId now =>
      simp only [LaneOp.attempt, setNextStageForPlane] at ok
      split at ok
      next => cases ok
      next => exact kept ok
    | terminal plane now => exact kept ok
    | recover result stage nodeId stageKindId now => exact kept ok
    | retryActive scope requeued =>
      simp only [LaneOp.attempt, Runtime.retryActive] at ok
      split at ok
      next => exact Except.ok.inj ok ▸ valid
      next => exact kept ok
    | clearStale => exact kept ok
    | stop => exact kept ok
    | guardOwnership plane =>
      simp only [LaneOp.attempt, guardStageWorkItemOwnershipForPlane] at ok
      split at ok
      next => exact Except.ok.inj ok ▸ valid
      next => exact kept ok
    | ensureLanes declared => exact kept ok
  next => exact valid

end Steps

/-- From a saved snapshot whose lanes mirror the active runs, every snapshot of a run does so exactly when no step of it
drops a run by a retry or by a reset (clear-stale, the ownership guard, stop). -/
theorem lanes_mirror_iff (s : LaneSnapshot) (valid : s.validate = .ok ()) (mirrors : s.Mirrors) (ops : List LaneOp) :
    Runs.Throughout LaneOp.apply LaneSnapshot.Mirrors s ops ↔ Runs.Along LaneOp.apply LaneOp.DropsNoRun s ops :=
  Runs.throughout_iff_along (fun _ op valid => op.apply_valid valid)
    (fun _ op valid mirrors => mirrors_apply_iff valid mirrors op) valid mirrors

/-! ## A builder run that is stopped -/

def LaneSnapshot.empty : LaneSnapshot := { activeRunsByPlane := fun _ => none, lanesById := ∅ }

def scheduledBuilder : ScheduledRun :=
  { plane := .execution, stage := .builder, nodeId := "builder", stageKindId := "builder", runId := "run-1"
    requestKind := .activeWorkItem, workItemKind := some .task, workItemId := some "task-1"
    closureTargetRootSpecId := none, activeSince := "2026-01-01T00:00:00Z", laneId := ""
    workItemFamilyId := some "task", closureTargetRootIdeaId := none, runningStatusMarker := none }

theorem mirrors_empty : LaneSnapshot.empty.Mirrors := by
  intro laneId
  exact ⟨fun runId => by simp [LaneSnapshot.empty], fun lane found => by simp [LaneSnapshot.empty] at found⟩

theorem lanes_mirror_builder :
    Runs.Throughout LaneOp.apply LaneSnapshot.Mirrors .empty [.activate none scheduledBuilder, .terminal .execution "t"] ↔
      Runs.Along LaneOp.apply LaneOp.DropsNoRun .empty [.activate none scheduledBuilder, .terminal .execution "t"] :=
  lanes_mirror_iff .empty (by decide) mirrors_empty _

/-- The stop clears the plane map; the lane stays active with the run. -/
theorem lanes_list_stopped_builder :
    ¬ Runs.Throughout LaneOp.apply LaneSnapshot.Mirrors .empty [.activate none scheduledBuilder, .stop] := by
  intro throughout
  have last := throughout.last
  have listed : ∃ lane, (Runs.after LaneOp.apply .empty [.activate none scheduledBuilder, .stop]).lanesById.lookup
      "execution.main" = some lane ∧ "run-1" ∈ lane.activeRunIds :=
    ⟨laneStateForActiveRuns "execution.main" .execution [scheduledBuilder], by decide, by decide⟩
  obtain ⟨plane, _, active, _⟩ := ((last "execution.main").listed "run-1").mp listed
  have idle : (Runs.after LaneOp.apply .empty [.activate none scheduledBuilder, .stop]).activeRunsByPlane plane = none := by
    cases plane <;> decide
  rw [idle] at active
  cases active

end Millrace.Runtime

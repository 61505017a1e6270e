import Mathlib.Data.List.AList
import Mathlib.Logic.Function.Basic
import Millrace.Runtime.Router

/-! # Scheduler lanes: which runs may start beside which, and the lane state kept for them -/

set_option autoImplicit false

namespace Millrace.Runtime

open Millrace.Text Millrace.Contracts

/-! ## Policies -/

/-- A lane of the scheduler policy; its id has passed `validate_safe_identifier`. -/
structure WorkflowLaneDefinition where
  laneId : String
  plane : Plane
  maxActiveRuns : Nat
  safe : SafeIdentifier laneId

structure LaneConflictPolicyDefinition where
  laneIds : List String
  concurrentWithLaneIds : List String
  conflictScopes : List String
  lockAcquisitionOrder : List String

structure WorkflowPlaneSchedulerPolicyDefinition where
  lanes : List WorkflowLaneDefinition
  laneConflictPolicies : List LaneConflictPolicyDefinition

structure PlaneConcurrencyPolicyDefinition where
  mutuallyExclusivePlanes : List (List Plane)
  mayRunConcurrently : List (List Plane)

def pairInGroups (candidate activePlane : Plane) (groups : List (List Plane)) : Bool :=
  groups.any fun group =>
    group.contains candidate && group.contains activePlane && (candidate == activePlane || 2 ≤ group.length)

/-- Whether `candidate` may start beside the planes that have a run. -/
def canDispatchPlane (policy : Option PlaneConcurrencyPolicyDefinition) (activePlanes : List Plane)
    (candidate : Plane) : Bool :=
  let activePlaneSet := activePlanes.eraseDups
  if activePlaneSet.contains candidate then false
  else if activePlaneSet.isEmpty then true
  else match policy with
    | none => false
    | some policy => activePlaneSet.all fun activePlane =>
        !pairInGroups candidate activePlane policy.mutuallyExclusivePlanes &&
          pairInGroups candidate activePlane policy.mayRunConcurrently

def lanePolicyAllows (policy : WorkflowPlaneSchedulerPolicyDefinition) (firstLaneId secondLaneId : String) : Bool :=
  policy.laneConflictPolicies.any fun conflict =>
    conflict.laneIds.contains firstLaneId && conflict.concurrentWithLaneIds.contains secondLaneId &&
      (conflict.conflictScopes.isEmpty || conflict.laneIds.all (conflict.lockAcquisitionOrder.contains ·))

def WorkflowPlaneSchedulerPolicyDefinition.lane (policy : WorkflowPlaneSchedulerPolicyDefinition) (laneId : String) :
    Option WorkflowLaneDefinition :=
  policy.lanes.find? (·.laneId = laneId)

def trimmed (laneId : String) : String :=
  String.ofList (trim laneId.toList)

/-- Whether a run may start in the candidate lane beside the lanes of the active runs. -/
def canDispatchLane (schedulerPolicy : Option WorkflowPlaneSchedulerPolicyDefinition)
    (concurrencyPolicy : Option PlaneConcurrencyPolicyDefinition) (activeLaneIds : List String)
    (candidateLaneId : String) : Bool :=
  let activeIds := (activeLaneIds.map trimmed).filter (· ≠ "")
  match schedulerPolicy with
  | none => activeIds.isEmpty
  | some policy =>
    match policy.lane candidateLaneId with
    | none => false
    | some candidateLane =>
      if candidateLane.maxActiveRuns ≤ activeIds.countP (· = candidateLaneId) then false
      else
        let others := activeIds.filter (· ≠ candidateLaneId)
        others.all (fun laneId => (policy.lane laneId).isSome &&
            lanePolicyAllows policy candidateLaneId laneId && lanePolicyAllows policy laneId candidateLaneId) &&
          canDispatchPlane concurrencyPolicy ((others.filterMap policy.lane).map (·.plane)) candidateLane.plane

def defaultLaneIdForPlane (plane : Plane) : String :=
  StringEnum.asStr plane ++ ".main"

def laneIdForPlane (policy : Option WorkflowPlaneSchedulerPolicyDefinition) (plane : Plane) : String :=
  match policy.bind (·.lanes.find? (·.plane = plane)) with
  | some lane => lane.laneId
  | none => defaultLaneIdForPlane plane

/-! ## Lane state -/

inductive LaneRuntimeStatus where
  | idle | active | paused | draining | stopped | blocked
deriving DecidableEq, Repr

structure LaneRuntimeState where
  laneId : String
  plane : Plane
  status : LaneRuntimeStatus
  activeRunIds : List String
  activeWorkRefs : List String
  lastClaimAttemptAt : Option String
  lastTerminalOutcome : Option String
deriving DecidableEq, Repr

/-- An active run with its lane and its marker. -/
structure ScheduledRun extends ActiveRunState where
  laneId : String
  workItemFamilyId : Option String
  closureTargetRootIdeaId : Option String
  runningStatusMarker : Option String
deriving DecidableEq, Repr

abbrev LanesById := AList fun _ : String => LaneRuntimeState

/-- The snapshot fields that the scheduler reads and writes. -/
structure LaneSnapshot where
  activeRunsByPlane : Plane → Option ScheduledRun
  lanesById : LanesById

def dispatchOrder : List Plane := [.planning, .execution, .learning]

theorem mem_dispatchOrder (plane : Plane) : plane ∈ dispatchOrder := by
  cases plane <;> decide

theorem nodup_dispatchOrder : dispatchOrder.Nodup := by decide

def activeRuns (s : LaneSnapshot) : List ScheduledRun :=
  dispatchOrder.filterMap s.activeRunsByPlane

/-- The lane a run is kept under. -/
def ScheduledRun.lane (run : ScheduledRun) : String :=
  if trimmed run.laneId = "" then defaultLaneIdForPlane run.plane else run.laneId

def activeWorkRef (run : ScheduledRun) : String :=
  match run.workItemFamilyId, run.workItemId with
  | some familyId, some workItemId => familyId ++ ":" ++ workItemId
  | _, _ => match run.closureTargetRootSpecId with
    | some rootSpecId => "closure_target:" ++ rootSpecId
    | none => "run:" ++ run.runId

def laneStateForActiveRuns (laneId : String) (plane : Plane) (activeRuns : List ScheduledRun) : LaneRuntimeState :=
  { laneId, plane
    status := .active
    activeRunIds := activeRuns.map (·.runId)
    activeWorkRefs := activeRuns.map activeWorkRef
    lastClaimAttemptAt := none
    lastTerminalOutcome := none }

/-- The lane of the run is overwritten with a lane that holds this run alone. -/
def snapshotWithLaneActiveRun (s : LaneSnapshot) (run : ScheduledRun) : LaneSnapshot :=
  { s with lanesById := s.lanesById.insert run.lane (laneStateForActiveRuns run.lane run.plane [run]) }

def LaneRuntimeState.without (lane : LaneRuntimeState) (runId now : String) (terminalOutcome : Option String) :
    LaneRuntimeState :=
  let remaining := lane.activeRunIds.filter (· ≠ runId)
  { lane with
    activeRunIds := remaining
    status := if remaining.isEmpty then .idle else lane.status
    activeWorkRefs := if remaining.isEmpty then [] else lane.activeWorkRefs
    lastClaimAttemptAt := some now
    lastTerminalOutcome := terminalOutcome }

def snapshotWithoutLaneActiveRun (s : LaneSnapshot) (laneId runId now : String) (terminalOutcome : Option String) :
    LaneSnapshot :=
  match s.lanesById.lookup laneId with
  | none => s
  | some lane => { s with lanesById := s.lanesById.insert laneId (lane.without runId now terminalOutcome) }

/-! ## Validation -/

inductive RuntimeJsonError where
  | blankEntry (fieldName : String)
  | invalidDocument (message : String)
deriving DecidableEq, Repr

def requireNonBlankEntries (fieldName : String) (entries : List String) : Except RuntimeJsonError Unit :=
  if entries.any (trimmed · = "") then .error (.blankEntry fieldName) else .ok ()

def namespacedBy (plane : Plane) (laneId : String) : Bool :=
  (StringEnum.asStr plane ++ ".").toList.isPrefixOf laneId.toList

def require (condition : Bool) (message : String) : Except RuntimeJsonError Unit :=
  if condition then .ok () else .error (.invalidDocument message)

def LaneRuntimeState.validate (lane : LaneRuntimeState) : Except RuntimeJsonError Unit := do
  requireNonBlankEntries "lane_id" [lane.laneId]
  require (namespacedBy lane.plane lane.laneId) "lane_id must be namespaced by lane plane"
  requireNonBlankEntries "active_run_ids" lane.activeRunIds
  requireNonBlankEntries "active_work_refs" lane.activeWorkRefs
  require (lane.status ≠ .active || !lane.activeRunIds.isEmpty) "active lane runtime state requires active_run_ids"
  require (lane.status ≠ .idle || lane.activeRunIds.isEmpty) "idle lane runtime state cannot declare active_run_ids"

def ScheduledRun.validate (run : ScheduledRun) : Except RuntimeJsonError Unit := do
  require (stagePlane run.stage = run.plane) "active run stage must belong to active run plane"
  require (run.laneId = "" || namespacedBy run.plane run.laneId)
    "active run lane_id must be namespaced by active run plane"
  requireNonBlankEntries "node_id" [run.nodeId]
  requireNonBlankEntries "stage_kind_id" [run.stageKindId]
  requireNonBlankEntries "run_id" [run.runId]
  let hasFamily := run.workItemFamilyId.isSome || run.workItemKind.isSome
  let hasId := run.workItemId.isSome
  let hasRoot := run.closureTargetRootSpecId.isSome
  let hasIdea := run.closureTargetRootIdeaId.isSome
  require (hasFamily == hasId) "active run work_item_family_id and work_item_id must be set together"
  match run.requestKind with
  | .activeWorkItem =>
    require (hasFamily && hasId) "active_work_item active runs require work item identity"
    require (run.workItemFamilyId ≠ some "learning_request" && run.workItemKind ≠ some .learningRequest)
      "learning request active runs must use request_kind=learning_request"
    require (!(hasRoot || hasIdea)) "active_work_item active runs cannot declare closure target fields"
  | .learningRequest =>
    require (run.plane = .learning) "learning_request active runs must use plane=learning"
    require ((run.workItemFamilyId = some "learning_request" || run.workItemKind = some .learningRequest) && hasId)
      "learning_request active runs require learning_request work item identity"
    require (!(hasRoot || hasIdea)) "learning_request active runs cannot declare closure target fields"
  | .closureTarget =>
    require (run.plane = .planning) "closure_target active runs must use plane=planning"
    require (!(hasFamily || hasId)) "closure_target active runs cannot declare work item identity"
    require hasRoot "closure_target active runs require closure_target_root_spec_id"

/-- What `save_snapshot` checks of the active runs and the lanes. -/
def LaneSnapshot.validate (s : LaneSnapshot) : Except RuntimeJsonError Unit := do
  dispatchOrder.forM fun plane => (s.activeRunsByPlane plane).forM fun run => do
    run.validate
    require (plane = run.plane) "active_runs_by_plane key must match active run plane"
  s.lanesById.entries.forM fun entry => do
    entry.2.validate
    require (entry.1 = entry.2.laneId) "lanes_by_id key must match lane runtime state lane_id"

/-- `save_snapshot`: what fails validation is not written. -/
def LaneSnapshot.save (s : LaneSnapshot) : Except RuntimeJsonError LaneSnapshot := do
  s.validate
  return s

/-! ## Activation and its end -/

def snapshotWithActiveRun (s : LaneSnapshot) (run : ScheduledRun) : LaneSnapshot :=
  let s := snapshotWithLaneActiveRun s run
  { s with activeRunsByPlane := Function.update s.activeRunsByPlane run.plane (some run) }

/-- A claim or the closure stage becomes the active run of its plane, in the lane that the policy gives the plane. -/
def activateRun (policy : Option WorkflowPlaneSchedulerPolicyDefinition) (run : ScheduledRun) (s : LaneSnapshot) :
    Except RuntimeJsonError LaneSnapshot :=
  if (s.activeRunsByPlane run.plane).isSome then .ok s
  else (snapshotWithActiveRun s { run with laneId := laneIdForPlane policy run.plane }).save

def clearActivePlane (plane : Plane) (now : String) (s : LaneSnapshot) : LaneSnapshot :=
  match s.activeRunsByPlane plane with
  | none => s
  | some run => snapshotWithoutLaneActiveRun
      { s with activeRunsByPlane := Function.update s.activeRunsByPlane plane none } run.lane run.runId now none

end Millrace.Runtime

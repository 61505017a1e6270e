import Millrace.Runtime.Lanes

/-! # The guard on the work item a stage is started with -/

set_option autoImplicit false

namespace Millrace.Runtime

open Millrace.Text Millrace.Contracts

def allowedWorkItemKinds : StageName → List WorkItemKind
  | .builder | .integrator | .checker | .fixer | .doublechecker | .updater | .troubleshooter | .consultant => [.task]
  | .recon => [.probe]
  | .planner | .manager | .managerBlueprint | .mechanic => [.spec, .incident]
  | .contractorBlueprint | .evaluatorBlueprint => [.blueprintDraft]
  | .mechanicBlueprint => [.spec, .incident, .blueprintDraft]
  | .auditor => [.incident]
  | .arbiter => []
  | .analyst | .professor | .curator | .librarian => [.learningRequest]

def stageAllowsWorkItemKind (stage : StageName) (kind : WorkItemKind) : Bool :=
  (allowedWorkItemKinds stage).contains kind

structure StageWorkItemOwnershipViolation where
  reason : String
  expectedWorkItemKinds : List WorkItemKind
  message : String
deriving DecidableEq, Repr

def renderWorkItemKindList (kinds : List WorkItemKind) : String :=
  ", ".intercalate (kinds.map StringEnum.asStr)

def stageWorkItemOwnershipViolation (run : ScheduledRun) : Option StageWorkItemOwnershipViolation :=
  let expected := allowedWorkItemKinds run.stage
  let stage := StringEnum.asStr run.stage
  if run.requestKind = .closureTarget then none
  else match run.workItemKind with
  | none => some
    { reason := "missing_work_item_kind", expectedWorkItemKinds := expected
      message := "stage " ++ stage ++ " active run is missing work_item_kind" }
  | some kind =>
    if run.workItemId.elim true (· = "") then some
      { reason := "missing_work_item_id", expectedWorkItemKinds := expected
        message := "stage " ++ stage ++ " active run is missing work_item_id" }
    else if run.requestKind = .learningRequest && kind ≠ .learningRequest then some
      { reason := "learning_request_kind_mismatch", expectedWorkItemKinds := expected
        message := "learning_request active run for stage " ++ stage ++ " has work item kind " ++
          StringEnum.asStr kind }
    else if run.requestKind = .activeWorkItem && kind = .learningRequest then some
      { reason := "active_work_item_learning_request", expectedWorkItemKinds := expected
        message := "active_work_item run for stage " ++ stage ++ " has learning_request work item kind" }
    else if !stageAllowsWorkItemKind run.stage kind then some
      { reason := "stage_work_item_kind_mismatch", expectedWorkItemKinds := expected
        message :=
          if renderWorkItemKindList expected = "" then
            "stage " ++ stage ++ " does not allow active work items; got " ++ StringEnum.asStr kind
          else
            "stage " ++ stage ++ " cannot receive work item kind " ++ StringEnum.asStr kind ++
              "; expected one of: " ++ renderWorkItemKindList expected }
    else none

/-- The run whose plane the guard stops. -/
def ownershipViolation (s : LaneSnapshot) (plane : Plane) : Option StageWorkItemOwnershipViolation :=
  (s.activeRunsByPlane plane).bind stageWorkItemOwnershipViolation

end Millrace.Runtime

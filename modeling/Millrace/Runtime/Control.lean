import Millrace.Runtime.Pause
import Millrace.Runtime.Router
import Millrace.Workspace.QueueStore

/-! Operator control over a workspace: the direct path where no daemon holds it, and the mailbox path through a tick. -/

set_option autoImplicit false

namespace Millrace.Control
open Millrace.Text Millrace.Contracts Millrace.WorkDocuments Millrace.Runtime
open Millrace.Queue (World Environment StoreM enqueueTask enqueueProbe enqueueSpec requeueActiveItem requeueAllActiveItems)

variable [Rfc3339]

/-! ## State -/

/-- The saved snapshot with the files that control changes; no worker runs. -/
structure ControlState where
  snapshot : RuntimeSnapshot
  pause : PauseWorkspace
  stopRequested : Bool
  world : World

/-- Loading and saving a snapshot checks its pause fields. -/
def ControlState.normalized (s : ControlState) : ControlState := { s with pause := s.pause.normalizePauseSources }

inductive ControlCommand where
  | pause | resume | stop
  | retryActive (scope : Option Plane) (reason : String)
  | clearStaleState (reason : String)
  | addTask (document : TaskDocument)
  | addProbe (document : ProbeDocument)
  | addSpec (document : SpecDocument)

/-! ## Reasons -/

def normalizedReason (reason default : String) : String :=
  if isBlank reason then default else String.ofList (trim reason.toList)

/-- The reason in a command's payload. -/
def mailboxReason (payload default : String) : String :=
  if isBlank payload then default else String.ofList (trim payload.toList)

def defaultRetryReason : Option Plane → String
  | none => "operator requested retry"
  | some _ => "operator requested planning retry"

def defaultClearStaleReason : String := "operator requested stale-state clear"

/-! ## Active runs -/

/-- No plane is active and nothing has failed. -/
def idleSnapshot : RuntimeSnapshot where
  activePlane := none
  activeStage := none
  activeNodeId := none
  activeStageKindId := none
  activeRunId := none
  activeWorkItemKind := none
  activeWorkItemId := none
  activeSince := none
  activeRunsByPlane := fun _ => none
  currentFailureClass := none
  troubleshootAttemptCount := 0
  mechanicAttemptCount := 0
  fixCycleCount := 0
  consultantInvocations := 0

def resetRuntimeToIdle (clearStopRequested clearPaused : Bool) (s : ControlState) : ControlState where
  snapshot := idleSnapshot
  pause := if clearPaused then { s.pause with paused := false, pauseSources := [] } else s.pause
  stopRequested := if clearStopRequested then false else s.stopRequested
  world := s.world

def activePlanes (s : RuntimeSnapshot) : List Plane :=
  [.execution, .planning, .learning].filter fun plane => (s.activeRunsByPlane plane).isSome

def clearRetryActiveRun (plane : Plane) (s : ControlState) : ControlState :=
  let runs := Function.update s.snapshot.activeRunsByPlane plane none
  let cleared : RuntimeSnapshot := { s.snapshot with activeRunsByPlane := runs }
  if activePlanes cleared = [] then resetRuntimeToIdle false false s
  else { s with snapshot := { projectForegroundActiveRun cleared with currentFailureClass := none } }

/-- What the queue store wrote stays written where it fails. -/
def storing {α : Type} (operation : StoreM α) (s : ControlState) : ControlState :=
  match operation.run s.world with
  | .ok _ world | .error _ world => { s with world := world }

section Paths
variable (env : Environment)

/-- Once a run is selected, both paths move its item back before they clear the run. -/
def retryRun (reason : String) (run : ActiveRunState) (s : ControlState) : ControlState :=
  match run.workItemKind, run.workItemId with
  | some kind, some itemId =>
    match (requeueActiveItem env kind itemId reason).run s.world with
    | .ok _ world => clearRetryActiveRun run.plane { s with world := world }
    | .error _ world => { s with world := world }
  | _, _ => s

/-! ## The direct path -/

inductive RetryActiveRunSelection where
  | selected (run : ActiveRunState) | missing | multiple

def retryActiveRun (s : RuntimeSnapshot) (scope : Option Plane) : RetryActiveRunSelection :=
  match scope with
  | some plane =>
    match activeRunForPlane s plane with
    | some run => .selected run
    | none => .missing
  | none =>
    if 1 < (activePlanes s).length then .multiple
    else
      match (activePlanes s).head?.bind s.activeRunsByPlane with
      | some run => .selected run
      | none =>
        match s.activePlane.bind (activeRunForPlane s) with
        | some run => .selected run
        | none => .missing

def retryActiveDirect (scope : Option Plane) (reason : String) (s : ControlState) : ControlState :=
  match retryActiveRun s.snapshot scope with
  | .selected run => retryRun env reason run s
  | .missing | .multiple => s

def clearStaleDirect (reason : String) (s : ControlState) : ControlState :=
  match (requeueAllActiveItems env reason).run s.world with
  | .ok _ world => resetRuntimeToIdle true true { s with world := world }
  | .error _ world => { s with world := world }

def ControlCommand.direct (s : ControlState) : ControlCommand → ControlState
  | .pause => { s with pause := pauseDirect s.pause }
  | .resume => { s with pause := resumeDirect s.pause }
  | .stop => resetRuntimeToIdle true true s
  | .retryActive scope reason =>
    retryActiveDirect env scope (normalizedReason reason (defaultRetryReason scope)) s
  | .clearStaleState reason => clearStaleDirect env (normalizedReason reason defaultClearStaleReason) s
  | .addTask document => storing (enqueueTask env document) s
  | .addProbe document => storing (enqueueProbe env document) s
  | .addSpec document => storing (enqueueSpec env document) s

def executeDirectly (command : ControlCommand) (s : ControlState) : ControlState :=
  (command.direct env s.normalized).normalized

/-! ## The mailbox path -/

def activeRunForRetry (s : RuntimeSnapshot) (scope : Option Plane) : Option ActiveRunState :=
  match scope with
  | some plane => activeRunForPlane s plane
  | none =>
    if (activePlanes s).length = 1 then (activePlanes s).head?.bind s.activeRunsByPlane
    else if 1 < (activePlanes s).length then
      [Plane.planning, .execution, .learning].findSome? s.activeRunsByPlane
    else s.activePlane.bind (activeRunForPlane s)

def retryActiveFromMailbox (scope : Option Plane) (reason : String) (s : ControlState) : ControlState :=
  match activeRunForRetry s.snapshot scope with
  | none => s
  | some run =>
    if scope = none ∧ 1 < (activePlanes s.snapshot).length then s else retryRun env reason run s

def clearStaleFromMailbox (reason : String) (s : ControlState) : ControlState :=
  match (requeueAllActiveItems env reason).run s.world with
  | .ok _ world => resetRuntimeToIdle true true { s with world := world }
  | .error _ world => { s with world := world }

/-- The command as `enqueue_mailbox_command` wrote it: its payload holds the normalised reason. -/
def applyMailboxCommand (s : ControlState) : ControlCommand → ControlState
  | .pause => { s with pause := mailboxPause s.pause }
  | .resume => { s with pause := mailboxResume s.pause }
  | .stop => { s with stopRequested := true }
  | .retryActive scope reason =>
    retryActiveFromMailbox env scope
      (mailboxReason (normalizedReason reason (defaultRetryReason scope)) (defaultRetryReason none)) s
  | .clearStaleState reason =>
    clearStaleFromMailbox env
      (mailboxReason (normalizedReason reason defaultClearStaleReason) defaultClearStaleReason) s
  | .addTask document => storing (enqueueTask env document) s
  | .addProbe document => storing (enqueueProbe env document) s
  | .addSpec document => storing (enqueueSpec env document) s

/-- What the tick does before it dispatches: a requested stop ends it, otherwise usage governance is evaluated. -/
def finishIntake (config : UsageGovernanceConfig) (blockers : List UsageGovernanceBlocker) (session : ControlState) :
    ControlState :=
  if session.stopRequested then resetRuntimeToIdle true true session
  else { session with pause := evaluateAndApplyUsageGovernance config blockers session.pause }

/-- A daemon's session that holds the saved snapshot finds one command in its mailbox. -/
def processInTick (config : UsageGovernanceConfig) (blockers : List UsageGovernanceBlocker)
    (command : ControlCommand) (s : ControlState) : ControlState :=
  (finishIntake config blockers (applyMailboxCommand env s.normalized command)).normalized

end Paths

end Millrace.Control

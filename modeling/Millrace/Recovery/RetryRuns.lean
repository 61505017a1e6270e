import Millrace.Recovery.EveryCandidate
import Millrace.Recovery.Unblocking
import Millrace.Runs

/-! Runs of retries: what a stage, the idle daemon and the operator do to blocked tasks, step by step. -/

set_option autoImplicit false

namespace Millrace.Recovery
open Millrace.Text Millrace.Contracts Millrace.WorkDocuments Millrace.Action Millrace.Queue

section
variable [Rfc3339]

/-! ## A stage that is blocked -/

/-- What the result of a stage and the decision on it say of the task that they block. -/
structure BlockedStage where
  workItemId : TaskId
  completedAt : Timestamp
  metadataFailureClass : Option String
  decisionFailureClass : Option String
  autoRequeueCandidate : Bool
  activeWorkItemPath : Option DocumentPath
  runId : String
  plane : Plane
  stage : String
  terminalResult : String
  stageResultPath : String
  stdoutPath : Option String
  stderrPath : Option String

variable (env : Environment)

/-- The root idea and the root spec of the task, from the first of its files that can be read. -/
def blockedWorkItemLineage (w : Workspace) (stage : BlockedStage) : Option String × Option String :=
  let taskId := stage.workItemId
  let candidates := [taskPath .blocked taskId, taskPath .active taskId] ++ stage.activeWorkItemPath.toList
  match candidates.findSome? (readTaskDocumentOrNone env w) with
  | some task => (task.rootIdeaId, effectiveRootSpecTask task)
  | none => (none, none)

def BlockedStage.failureClass (stage : BlockedStage) : String :=
  (stage.metadataFailureClass.or stage.decisionFailureClass).getD "stage_declared_blocked"

def buildBlockedItemMetadata (w : Workspace) (stage : BlockedStage) : BlockedItemMetadata where
  workItemId := stage.workItemId
  rootSpecId := (blockedWorkItemLineage env w stage).2
  rootIdeaId := (blockedWorkItemLineage env w stage).1
  blockedAt := stage.completedAt
  failureClass := stage.failureClass
  autoRequeueCandidate := stage.autoRequeueCandidate && failureClassAllowsAutoRequeue stage.failureClass
  sourceRunId := some stage.runId
  sourcePlane := some (asStr stage.plane)
  sourceStage := some stage.stage
  terminalResult := some stage.terminalResult
  stageResultPath := some stage.stageResultPath
  stdoutPath := stage.stdoutPath
  stderrPath := stage.stderrPath

def blockedMetadataPath (taskId : String) : String := "millrace-agents/diagnostics/blocked/task-" ++ taskId ++ ".json"

def persistBlockedItemMetadata (stage : BlockedStage) : RecoveryM Unit := do
  let metadata := buildBlockedItemMetadata env (← get).workspace stage
  requireContract metadata.validateContract
  onQueues (fileOperation env (blockedMetadataPath stage.workItemId))
  modify fun s => { s with metadata := Function.update s.metadata stage.workItemId (some metadata) }

/-- The task is moved, then the files between are written, then the metadata. What follows changes neither the queues nor
the metadata. -/
def blockActiveTask (between : List String) (stage : BlockedStage) : RecoveryM Unit := do
  let _ ← onQueues (markTaskBlocked env stage.workItemId)
  between.forM fun relative => onQueues (fileOperation env relative)
  persistBlockedItemMetadata env stage

/-! ## The operator's retry -/

def runQueueRetryBlocked (taskId : TaskId) (reason : String) (rootSpecId : Option String) (force : Bool) :
    RecoveryM BlockedTaskRequeueResult :=
  retryBlockedTask env {
    taskId := taskId
    reason := reason
    actor := "operator"
    auto := false
    force := force
    rootSpecId := rootSpecId
    diagnosticsPath := none
    maxAutoRequeuesPerWorkItem := none }

/-! ## Steps -/

inductive RecoveryStep where
  | idleCycle (now : Timestamp)
  | stageBlocked (between : List String) (stage : BlockedStage)
  | retry (taskId : TaskId) (reason : String) (rootSpecId : Option String) (force : Bool)
  /-- Any other operation on the task queues. -/
  | queues (operation : TaskOperation) (leaves : LeavesBlocking operation)
  /-- A document is rewritten where it lies, as a lineage repair does. -/
  | rewrite (path : DocumentPath) (raw : String)
  /-- The daemon starts and ends runs, is paused, resumed or stopped. -/
  | control (snapshot : RecoverySnapshot)

def rewritten (w : Workspace) (path : DocumentPath) (raw : String) : Workspace :=
  if (w.file path).isSome then w.insert path raw else w

/-- The world after a step, whether it succeeded or failed. -/
def RecoveryStep.apply (config : AutoRecoveryConfig) (s : RecoveryWorld) : RecoveryStep → RecoveryWorld
  | .idleCycle now => after (attemptStrandedDependencyAutoRecovery env config now) s
  | .stageBlocked between stage => after (blockActiveTask env between stage) s
  | .retry taskId reason rootSpecId force => after (runQueueRetryBlocked env taskId reason rootSpecId force) s
  | .queues operation _ => { s with queue := operation.apply env s.queue }
  | .rewrite path raw => { s with queue := ⟨rewritten s.workspace path raw, s.queue.step⟩ }
  | .control snapshot => { s with snapshot := snapshot }

def isBlocked (s : RecoveryWorld) (taskId : String) : Bool := (s.workspace.file (taskPath .blocked taskId)).isSome

/-- The step takes the task out of the blocked ones. -/
def Frees (config : AutoRecoveryConfig) (s : RecoveryWorld) (step : RecoveryStep) (taskId : String) : Prop :=
  isBlocked s taskId ∧ ¬ isBlocked (step.apply env config s) taskId

/-- The step puts the task among the blocked ones. -/
def Blocks (config : AutoRecoveryConfig) (s : RecoveryWorld) (step : RecoveryStep) (taskId : String) : Prop :=
  ¬ isBlocked s taskId ∧ isBlocked (step.apply env config s) taskId

instance (config : AutoRecoveryConfig) (s : RecoveryWorld) (step : RecoveryStep) (taskId : String) :
    Decidable (Frees env config s step taskId) := inferInstanceAs (Decidable (_ ∧ _))

instance (config : AutoRecoveryConfig) (s : RecoveryWorld) (step : RecoveryStep) (taskId : String) :
    Decidable (Blocks env config s step taskId) := inferInstanceAs (Decidable (_ ∧ _))

/-! ## Histories -/

/-- The world, and of each task how often an idle cycle has requeued it and when a stage blocked it last. -/
structure RetryHistory where
  world : RecoveryWorld
  autoRequeued : String → Nat
  blockedAt : String → Option Timestamp

def RetryHistory.next (config : AutoRecoveryConfig) (h : RetryHistory) (step : RecoveryStep) : RetryHistory where
  world := step.apply env config h.world
  autoRequeued taskId := match step with
    | .idleCycle _ => h.autoRequeued taskId + if Frees env config h.world step taskId then 1 else 0
    | _ => h.autoRequeued taskId
  blockedAt taskId := match step with
    | .stageBlocked _ stage => if Blocks env config h.world step taskId then some stage.completedAt else h.blockedAt taskId
    | _ => h.blockedAt taskId

/-- What must hold where an idle cycle requeues a task. -/
structure Guarded (config : AutoRecoveryConfig) (h : RetryHistory) (now : Timestamp) (taskId : String) : Prop where
  idle : mayRecover config h.world.snapshot = true
  holdsUp : HoldsUp env h.world.workspace taskId
  allowed : ∃ metadata, loadBlockedTaskMetadata h.world taskId = some metadata ∧ metadata.allowsAutoRequeue = true
  cooled : ∃ blockedAt, h.blockedAt taskId = some blockedAt ∧
    ((cooldownFor config (h.autoRequeued taskId)).toNat : Int) ≤ secondsSince blockedAt now

def GuardedStep (config : AutoRecoveryConfig) (h : RetryHistory) : RecoveryStep → Prop
  | .idleCycle now => ∀ taskId, Frees env config h.world (.idleCycle now) taskId → Guarded env config h now taskId
  | _ => True

def WithinBudget (config : AutoRecoveryConfig) (h : RetryHistory) : Prop :=
  ∀ taskId, h.autoRequeued taskId ≤ config.maxAutoRequeuesPerWorkItem

/-- The logs and the metadata on disk agree with what has happened, and so far it has not happened too often. -/
structure Recorded (config : AutoRecoveryConfig) (h : RetryHistory) : Prop where
  counted : ∀ taskId, h.autoRequeued taskId = autoRequeues h.world.workspace taskId
  bounded : WithinBudget config h
  dated : ∀ taskId metadata, isBlocked h.world taskId → loadBlockedTaskMetadata h.world taskId = some metadata →
    h.blockedAt taskId = some metadata.blockedAt

/-- The strings of a stage result that its metadata needs are given. -/
structure BlockedStage.Given (stage : BlockedStage) : Prop where
  failureClass : isBlank stage.failureClass = false
  runId : isBlank stage.runId = false
  named : isBlank stage.stage = false
  terminalResult : isBlank stage.terminalResult = false
  stageResultPath : isBlank stage.stageResultPath = false
  stdoutPath : ∀ path, stage.stdoutPath = some path → isBlank path = false
  stderrPath : ∀ path, stage.stderrPath = some path → isBlank path = false

/-- Where a cycle may requeue a task, it can read the log of a task that was requeued before, the wait is a signed number,
and where the document moves the line is written. Where a stage moves its task, it also writes the metadata. -/
def Sound (config : AutoRecoveryConfig) (s : RecoveryWorld) : RecoveryStep → Prop
  | .idleCycle _ => ∀ taskId, HoldsUp env s.workspace taskId →
      (Passes env s.queue 2 ∨ autoRequeues s.workspace taskId = 0) ∧
      (cooldownFor config (autoRequeues s.workspace taskId)).toNat < 2 ^ 63 ∧
      (Passes env s.queue 5 → Passes env s.queue 6 → Passes env s.queue 7 ∧ Passes env s.queue 9)
  | .stageBlocked between stage => (s.workspace.file (taskPath .active stage.workItemId)).isSome →
      ¬ isBlocked s stage.workItemId → Passes env s.queue 0 → Passes env s.queue 1 →
        stage.Given ∧ ∀ n ≤ between.length, Passes env s.queue (n + 2)
  | _ => True

end

end Millrace.Recovery

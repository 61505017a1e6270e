import Millrace.Advance
import Millrace.Blueprints.Contracts
import Millrace.Sorting
import Millrace.Workspace.Requeue
import Millrace.Workspace.TaskClaims

/-! The retry of blocked tasks that hold up queued ones, by an operator and by an idle daemon. -/

set_option autoImplicit false

namespace Millrace.Recovery
open Millrace.Text Millrace.Contracts Millrace.WorkDocuments Millrace.Action Millrace.Queue
open Millrace.Blueprints (RuntimeJsonError validateLiteral validateId requireNonBlank)

/-! ## Failure classes -/

inductive RunnerFailureClass where
  | runnerTimeout | providerUnavailable | providerRateLimited | networkUnavailable | runnerBinaryMissing
  | authMissingOrInvalid | missingTerminalResult | illegalTerminalResult | conflictingTerminalResults
  | missingRequiredArtifact | capabilityGrantDenied | capabilityApprovalRequired | capabilityGrantUnsupported
  | capabilityEvidenceMissing | runnerTransportFailure
  deriving DecidableEq, Repr

instance : StringEnum RunnerFailureClass where
  enumName := "RunnerFailureClass"
  all := [.runnerTimeout, .providerUnavailable, .providerRateLimited, .networkUnavailable, .runnerBinaryMissing,
    .authMissingOrInvalid, .missingTerminalResult, .illegalTerminalResult, .conflictingTerminalResults,
    .missingRequiredArtifact, .capabilityGrantDenied, .capabilityApprovalRequired, .capabilityGrantUnsupported,
    .capabilityEvidenceMissing, .runnerTransportFailure]
  asStr
    | .runnerTimeout => "runner_timeout"
    | .providerUnavailable => "provider_unavailable"
    | .providerRateLimited => "provider_rate_limited"
    | .networkUnavailable => "network_unavailable"
    | .runnerBinaryMissing => "runner_binary_missing"
    | .authMissingOrInvalid => "auth_missing_or_invalid"
    | .missingTerminalResult => "missing_terminal_result"
    | .illegalTerminalResult => "illegal_terminal_result"
    | .conflictingTerminalResults => "conflicting_terminal_results"
    | .missingRequiredArtifact => "missing_required_artifact"
    | .capabilityGrantDenied => "capability_grant_denied"
    | .capabilityApprovalRequired => "capability_approval_required"
    | .capabilityGrantUnsupported => "capability_grant_unsupported"
    | .capabilityEvidenceMissing => "capability_evidence_missing"
    | .runnerTransportFailure => "runner_transport_failure"
  find_asStr a := by cases a <;> decide
  solid a := by cases a <;> decide

def autoRequeueCandidates : List RunnerFailureClass :=
  [.networkUnavailable, .providerUnavailable, .providerRateLimited, .runnerTimeout]

def RunnerFailureClass.isAutoRequeueCandidate (failureClass : RunnerFailureClass) : Bool :=
  autoRequeueCandidates.contains failureClass

def failureClassAllowsAutoRequeue (failureClass : String) : Bool :=
  match fromValue (α := RunnerFailureClass) (trimmed failureClass) with
  | .ok known => known.isAutoRequeueCandidate
  | .error _ => false

section
variable [Rfc3339]

/-! ## Records -/

/-- The fields of the metadata that a retry reads or checks. -/
structure BlockedItemMetadata where
  workItemId : String
  rootSpecId : Option String
  rootIdeaId : Option String
  blockedAt : Timestamp
  failureClass : String
  autoRequeueCandidate : Bool
  sourceRunId : Option String
  sourcePlane : Option String
  sourceStage : Option String
  terminalResult : Option String
  stageResultPath : Option String
  stdoutPath : Option String
  stderrPath : Option String
  deriving DecidableEq

def BlockedItemMetadata.allowsAutoRequeue (metadata : BlockedItemMetadata) : Bool :=
  metadata.autoRequeueCandidate && failureClassAllowsAutoRequeue metadata.failureClass

def requireOptionalNonBlank (fieldName : String) (value : Option String) : Except RuntimeJsonError Unit :=
  value.forM (requireNonBlank fieldName)

def BlockedItemMetadata.validateContract (metadata : BlockedItemMetadata) : Except RuntimeJsonError Unit := do
  validateId "work_item_id" metadata.workItemId
  requireNonBlank "failure_class" metadata.failureClass
  requireOptionalNonBlank "root_spec_id" metadata.rootSpecId
  requireOptionalNonBlank "root_idea_id" metadata.rootIdeaId
  requireOptionalNonBlank "source_run_id" metadata.sourceRunId
  requireOptionalNonBlank "source_plane" metadata.sourcePlane
  requireOptionalNonBlank "source_stage" metadata.sourceStage
  requireOptionalNonBlank "terminal_result" metadata.terminalResult
  requireOptionalNonBlank "stage_result_path" metadata.stageResultPath
  requireOptionalNonBlank "stdout_path" metadata.stdoutPath
  requireOptionalNonBlank "stderr_path" metadata.stderrPath

structure StrandedBlockedDependency where
  blockedTaskId : String
  queuedDependentIds : List String
  rootSpecId : Option String
  metadata : Option BlockedItemMetadata
  deriving DecidableEq

def validateDependents : List String → List String → Except RuntimeJsonError Unit
  | _, [] => .ok ()
  | seen, dependentId :: rest => do
    validateId "queued_dependent_ids" dependentId
    if dependentId ∈ seen then
      throw (.invalidField "queued_dependent_ids" ("duplicate queued dependent id `" ++ dependentId ++ "`"))
    validateDependents (dependentId :: seen) rest

def StrandedBlockedDependency.validateContract (dependency : StrandedBlockedDependency) :
    Except RuntimeJsonError Unit := do
  validateId "blocked_task_id" dependency.blockedTaskId
  if dependency.queuedDependentIds.isEmpty then throw (.invalidField "queued_dependent_ids" "must not be empty")
  validateDependents [] dependency.queuedDependentIds
  requireOptionalNonBlank "root_spec_id" dependency.rootSpecId
  dependency.metadata.forM BlockedItemMetadata.validateContract

/-- What the daemon knows of its runs when it is idle. -/
structure RecoverySnapshot where
  paused : Bool
  stopRequested : Bool
  activeRunsByPlane : List Plane
  queueDepthExecution : Nat
  queueDepthPlanning : Nat
  queueDepthLearning : Nat
  deriving DecidableEq

structure BlockedDependencyAutoRecoveryDiagnostic where
  schemaVersion : String
  kind : String
  decision : String
  reason : String
  createdAt : Timestamp
  blockedTaskId : String
  queuedDependentIds : List String
  rootSpecId : Option String
  autoAttemptNumber : Nat
  metadata : Option BlockedItemMetadata
  preRecoverySnapshot : RecoverySnapshot
  deriving DecidableEq

def validateActivePlanes : List String → List String → Except RuntimeJsonError Unit
  | _, [] => .ok ()
  | seen, plane :: rest => do
    requireNonBlank "active_runs_by_plane" plane
    if plane ∈ seen then
      throw (.invalidField "active_runs_by_plane" ("duplicate active plane `" ++ plane ++ "`"))
    validateActivePlanes (plane :: seen) rest

def BlockedDependencyAutoRecoveryDiagnostic.validateContract (diagnostic : BlockedDependencyAutoRecoveryDiagnostic) :
    Except RuntimeJsonError Unit := do
  validateLiteral "schema_version" diagnostic.schemaVersion "1.0"
  validateLiteral "kind" diagnostic.kind "blocked_dependency_auto_recovery"
  requireNonBlank "decision" diagnostic.decision
  requireNonBlank "reason" diagnostic.reason
  validateId "blocked_task_id" diagnostic.blockedTaskId
  if diagnostic.queuedDependentIds.isEmpty then throw (.invalidField "queued_dependent_ids" "must not be empty")
  validateDependents [] diagnostic.queuedDependentIds
  requireOptionalNonBlank "root_spec_id" diagnostic.rootSpecId
  if diagnostic.autoAttemptNumber = 0 then throw (.invalidField "auto_attempt_number" "must be >= 1")
  diagnostic.metadata.forM BlockedItemMetadata.validateContract
  validateActivePlanes [] (diagnostic.preRecoverySnapshot.activeRunsByPlane.map asStr)

structure BlockedTaskRequeueResult where
  taskId : String
  sourcePath : String
  destinationPath : String
  sourceState : String
  destinationState : String
  actor : String
  auto : Bool
  reason : String
  failureClass : Option String
  attemptNumber : Nat
  diagnosticsPath : Option String
  deriving DecidableEq

def BlockedTaskRequeueResult.validateContract (result : BlockedTaskRequeueResult) : Except RuntimeJsonError Unit := do
  validateId "task_id" result.taskId
  requireNonBlank "source_path" result.sourcePath
  requireNonBlank "destination_path" result.destinationPath
  validateLiteral "source_state" result.sourceState "blocked"
  validateLiteral "destination_state" result.destinationState "queue"
  requireNonBlank "actor" result.actor
  requireNonBlank "reason" result.reason
  requireOptionalNonBlank "failure_class" result.failureClass
  requireOptionalNonBlank "diagnostics_path" result.diagnosticsPath
  if result.attemptNumber = 0 then throw (.invalidField "attempt_number" "must be >= 1")

structure AutoRecoveryConfig where
  enabled : Bool
  blockedDependencyRetryEnabled : Bool
  maxAutoRequeuesPerWorkItem : Nat
  cooldownSeconds : List UInt64
  deriving DecidableEq

def AutoRecoveryConfig.standard : AutoRecoveryConfig where
  enabled := true
  blockedDependencyRetryEnabled := true
  maxAutoRequeuesPerWorkItem := 3
  cooldownSeconds := [300, 900, 3600]

/-- The events of a retry, with what they name. -/
inductive RecoveryEvent where
  | blockedTaskRequeued (result : BlockedTaskRequeueResult)
  | blockedDependencyAutoRequeued (dependency : StrandedBlockedDependency) (failureClass diagnosticsPath : String)
    (attemptNumber : Nat)
  | blockedDependencyAutoRequeueSkipped (dependency : StrandedBlockedDependency) (reason diagnosticsPath : String)
  | blockedLineageRequiresOperatorReview (dependency : StrandedBlockedDependency) (reason diagnosticsPath : String)
  deriving DecidableEq

/-! ## The world of a retry -/

/-- The queues, the metadata files by task, the snapshot of the daemon and the one on disk, and what a retry reports. A
metadata file that cannot be read as metadata counts as absent. -/
structure RecoveryWorld where
  queue : World
  metadata : String → Option BlockedItemMetadata
  snapshot : RecoverySnapshot
  saved : Option RecoverySnapshot
  diagnostics : List (String × BlockedDependencyAutoRecoveryDiagnostic)
  events : List RecoveryEvent

abbrev RecoveryM (α : Type) := EStateM QueueStoreError RecoveryWorld α

def RecoveryWorld.workspace (s : RecoveryWorld) : Workspace := s.queue.workspace

def onQueues {α : Type} : StoreM α → RecoveryM α := onPart RecoveryWorld.queue fun s queue => { s with queue := queue }

def refuse (condition : Prop) [Decidable condition] (message : String) : RecoveryM Unit :=
  if condition then throw (.invalidState message) else return ()

def requireContract : Except RuntimeJsonError Unit → RecoveryM Unit
  | .ok () => return ()
  | .error error => throw (.invalidState error.display)

/-! ## Reading -/

variable (env : Environment)

def readTaskDocument (w : Workspace) (path : DocumentPath) : Except QueueStoreError TaskDocument :=
  match w.file path with
  | none => .error (notFound env path)
  | some raw =>
    (parseTaskDocumentWithSource raw (absolute env path.relative)).mapError (.workDocument (absolute env path.relative))

def readTaskDocumentOrNone (w : Workspace) (path : DocumentPath) : Option TaskDocument :=
  (readTaskDocument env w path).toOption

def loadBlockedTaskMetadata (s : RecoveryWorld) (taskId : String) : Option BlockedItemMetadata :=
  (s.metadata taskId).filter fun metadata => metadata.validateContract.isOk

def LogLine.isAutoRequeue : LogLine → Bool
  | .blockedRequeue _ _ auto _ _ _ => auto
  | _ => false

def requeueLogOf (taskId : String) : String := requeueLog ⟨.task, .queue, none⟩ taskId

/-- The automatic requeues that the log of a task tells of. -/
def autoRequeues (w : Workspace) (taskId : String) : Nat :=
  w.log.countP fun entry => entry.1 = requeueLogOf taskId && LogLine.isAutoRequeue entry.2

/-- A log that cannot be read counts as empty. -/
def countAutoRequeues (taskId : String) : RecoveryM Nat := do
  match (← onQueues (reading env)).fault with
  | some _ => return 0
  | none => return autoRequeues (← get).workspace taskId

def countMarkdownFiles (w : Workspace) (d : Directory) : Nat := (w.markdownFiles d).length

def RecoverySnapshot.refreshed (snapshot : RecoverySnapshot) (w : Workspace) : RecoverySnapshot :=
  { snapshot with
    queueDepthExecution := countMarkdownFiles w ⟨.task, .queue, none⟩
    queueDepthPlanning := countMarkdownFiles w ⟨.spec, .queue, none⟩ + countMarkdownFiles w ⟨.probe, .queue, none⟩ +
      countMarkdownFiles w ⟨.incident, .queue, none⟩
    queueDepthLearning := countMarkdownFiles w ⟨.learningRequest, .queue, none⟩ }

/-- The depths on disk are brought up to date where this is possible. -/
def refreshSnapshotQueueDepths : RecoveryM Unit := do
  match (← onQueues (reading env)).fault with
  | some _ => return ()
  | none => modify fun s => { s with saved := s.saved.map fun saved => saved.refreshed s.workspace }

def snapshotFile : String := "millrace-agents/state/runtime_snapshot.json"

def refreshSnapshotQueueDepthsInPlace : RecoveryM Unit := do
  modify fun s => { s with snapshot := s.snapshot.refreshed s.workspace }
  onQueues (fileOperation env snapshotFile)
  modify fun s => { s with saved := some s.snapshot }

def writeRuntimeEvent (event : RecoveryEvent) : RecoveryM Unit := do
  onQueues (fileOperation env logsDir)
  onQueues (fileOperation env (logsDir ++ "/runtime_events.jsonl"))
  modify fun s => { s with events := s.events ++ [event] }

/-! ## Retrying a blocked task -/

structure RetryBlockedTaskRequest where
  taskId : String
  reason : String
  actor : String
  auto : Bool
  force : Bool
  rootSpecId : Option String
  diagnosticsPath : Option String
  maxAutoRequeuesPerWorkItem : Option Nat

def defaultMaxAutoRequeuesPerWorkItem : Nat := 3

def autoRecoveryActor : String := "runtime-daemon"

def autoRecoveryReason : String := "transient blocked dependency auto-recovery"

def validateBlockedTaskLocations (taskId : String) : RecoveryM Unit := do
  let w := (← get).workspace
  refuse (w.file (taskPath .blocked taskId)).isNone ("task " ++ taskId ++ " is not blocked")
  refuse (w.file (taskPath .queue taskId)).isSome ("task " ++ taskId ++ " is already queue")
  refuse (w.file (taskPath .active taskId)).isSome ("task " ++ taskId ++ " is already active")
  refuse (w.file (taskPath .done taskId)).isSome ("task " ++ taskId ++ " is already done")

/-- The requeue of the queue store, which its callers give checked ids. -/
def requeueTask (taskId reason actor : String) (auto : Bool) (failureClass : Option String) (attemptNumber : Nat) :
    RecoveryM Unit :=
  if safe : SafeIdentifier taskId then do
    let _ ← onQueues (requeueBlockedTask env ⟨taskId, safe⟩ reason actor auto failureClass (some attemptNumber))
  else
    requireContract (validateId "task_id" taskId)

def retryBlockedTask (request : RetryBlockedTaskRequest) : RecoveryM BlockedTaskRequeueResult := do
  let cleanedReason := trimmed request.reason
  refuse (isBlank request.reason) "requeue reason is required"
  let taskId := request.taskId
  validateBlockedTaskLocations taskId
  match readTaskDocument env (← get).workspace (taskPath .blocked taskId) with
  | .error error => throw error
  | .ok task =>
    refuse (request.rootSpecId.isSome ∧ effectiveRootSpecTask task ≠ request.rootSpecId)
      ("blocked task " ++ taskId ++ " does not belong to root spec " ++ request.rootSpecId.getD "")
    let metadata := loadBlockedTaskMetadata (← get) taskId
    refuse (¬request.force ∧ ¬(metadata.any BlockedItemMetadata.allowsAutoRequeue))
      "blocked task is not retryable; rerun with --force to override"
    let autoAttempts ← countAutoRequeues env taskId
    refuse (¬request.force ∧ autoAttempts ≥ request.maxAutoRequeuesPerWorkItem.getD defaultMaxAutoRequeuesPerWorkItem)
      "blocked task retry budget is exhausted"
    let failureClass := metadata.map BlockedItemMetadata.failureClass
    requeueTask env taskId cleanedReason request.actor request.auto failureClass (autoAttempts + 1)
    refreshSnapshotQueueDepths env
    let result : BlockedTaskRequeueResult := {
      taskId := taskId
      sourcePath := absolute env (taskPath .blocked taskId).relative
      destinationPath := absolute env (taskPath .queue taskId).relative
      sourceState := "blocked"
      destinationState := "queue"
      actor := trimmed request.actor
      auto := request.auto
      reason := cleanedReason
      failureClass := failureClass
      attemptNumber := autoAttempts + 1
      diagnosticsPath := request.diagnosticsPath }
    requireContract result.validateContract
    writeRuntimeEvent env (.blockedTaskRequeued result)
    return result

/-! ## Finding a candidate -/

structure CandidateParts where
  blockedRootSpecId : Option String
  rootSpecId : Option String
  queuedDependentIds : List String
  deriving DecidableEq

/-- Tasks that hold up queued ones, each once and in no particular order. -/
abbrev Candidates := List (String × CandidateParts)

/-- The dependent joins those of the candidate, which is new where it has none. -/
def noteDependent (blockedId dependentId : String) (parts : CandidateParts) : Candidates → Candidates
  | [] => [(blockedId, { parts with queuedDependentIds := [dependentId] })]
  | (id, known) :: rest =>
    if id = blockedId then (id, { known with queuedDependentIds := known.queuedDependentIds.insert dependentId }) :: rest
    else (id, known) :: noteDependent blockedId dependentId parts rest

/-- The candidates of the same root as a dependent, or of an unknown one, and those of another root. -/
structure Stranded where
  compatible : Candidates
  incompatible : Candidates

def rootMismatch (queued blocked : TaskDocument) : Bool :=
  (effectiveRootSpecTask queued).isSome && (effectiveRootSpecTask blocked).isSome &&
    effectiveRootSpecTask queued != effectiveRootSpecTask blocked

/-- One round of the inner loop: a dependency that is not done. -/
def noteDependency (w : Workspace) (queued : TaskDocument) (found : Stranded) (dependencyId : String) : Stranded :=
  match readTaskDocumentOrNone env w (taskPath .blocked dependencyId) with
  | none => found
  | some blocked =>
    let blockedRoot := effectiveRootSpecTask blocked
    let parts := ⟨blockedRoot, blockedRoot.or (effectiveRootSpecTask queued), []⟩
    if rootMismatch queued blocked then
      { found with incompatible := noteDependent dependencyId queued.taskId parts found.incompatible }
    else { found with compatible := noteDependent dependencyId queued.taskId parts found.compatible }

def collectStranded (w : Workspace) (completed : List String) : List DocumentPath → Stranded → Stranded
  | [], found => found
  | path :: rest, found =>
    match readTaskDocumentOrNone env w path with
    | none => collectStranded w completed rest found
    | some queued =>
      let missing := queued.dependsOn.filter fun dependency => !completed.contains dependency
      collectStranded w completed rest (missing.foldl (noteDependency env w queued) found)

structure AutoRecoveryCandidate where
  dependency : StrandedBlockedDependency
  blockedRootSpecId : Option String
  lineageCompatible : Bool
  deriving DecidableEq

def idOrder (a b : String × CandidateParts) : Bool := decide (a.1 ≤ b.1)

/-- The candidate with the first id, if there is any. -/
def buildAutoRecoveryCandidate (candidates : Candidates) (lineageCompatible : Bool) :
    RecoveryM (Option AutoRecoveryCandidate) := do
  match Sorting.first idOrder candidates with
  | none => return none
  | some (blockedTaskId, parts) =>
    let dependency : StrandedBlockedDependency := {
      blockedTaskId := blockedTaskId
      queuedDependentIds := parts.queuedDependentIds.mergeSort fun a b => decide (a ≤ b)
      rootSpecId := parts.rootSpecId
      metadata := loadBlockedTaskMetadata (← get) blockedTaskId }
    requireContract dependency.validateContract
    return some ⟨dependency, parts.blockedRootSpecId, lineageCompatible⟩

def findAutoRecoveryCandidate : RecoveryM (Option AutoRecoveryCandidate) := do
  let completed ← onQueues (listMarkdownFiles env ⟨.task, .done, none⟩)
  let queued ← onQueues (listMarkdownFiles env ⟨.task, .queue, none⟩)
  let found := collectStranded env (← get).workspace (completed.map (·.stem)) queued ⟨[], []⟩
  match ← buildAutoRecoveryCandidate found.compatible true with
  | some candidate => return some candidate
  | none => buildAutoRecoveryCandidate found.incompatible false

/-! ## The cycle of an idle daemon -/

def nanosecondsPerSecond : Int := 1000000000

def wholeSeconds (nanoseconds : Int) : Int := nanoseconds.tdiv nanosecondsPerSecond

/-- The wait before the next attempt; the last one holds for all later attempts. -/
def cooldownFor (config : AutoRecoveryConfig) (autoAttempts : Nat) : UInt64 :=
  ((config.cooldownSeconds[autoAttempts]?).or config.cooldownSeconds.getLast?).getD 0

def secondsSince (blockedAt now : Timestamp) : Int :=
  wholeSeconds (now.instant.nanoseconds - blockedAt.instant.nanoseconds)

/-- The configured seconds are compared as signed ones. -/
def autoRecoveryCooldownActive (config : AutoRecoveryConfig) (metadata : BlockedItemMetadata) (autoAttempts : Nat)
    (now : Timestamp) : Bool :=
  decide (secondsSince metadata.blockedAt now < (cooldownFor config autoAttempts).toInt64.toInt)

def autoRecoveryDiagnosticsDir : String := "millrace-agents/diagnostics/auto-recovery"

def autoRecoveryDiagnosticsPath (now : Timestamp) (blockedTaskId : String) : String :=
  absolute env (autoRecoveryDiagnosticsDir ++ "/" ++ compactTimestamp now.instant ++ "-" ++ blockedTaskId ++ ".json")

def autoRecoveryDiagnostic (snapshot : RecoverySnapshot) (now : Timestamp) (candidate : StrandedBlockedDependency)
    (decision reason : String) (autoAttemptNumber : Nat) : BlockedDependencyAutoRecoveryDiagnostic where
  schemaVersion := "1.0"
  kind := "blocked_dependency_auto_recovery"
  decision := decision
  reason := reason
  createdAt := now
  blockedTaskId := candidate.blockedTaskId
  queuedDependentIds := candidate.queuedDependentIds
  rootSpecId := candidate.rootSpecId
  autoAttemptNumber := autoAttemptNumber
  metadata := candidate.metadata
  preRecoverySnapshot := snapshot

def writeAutoRecoveryDiagnostics (now : Timestamp) (candidate : StrandedBlockedDependency) (decision reason : String)
    (autoAttemptNumber : Nat) : RecoveryM String := do
  let path := autoRecoveryDiagnosticsPath env now candidate.blockedTaskId
  let diagnostic := autoRecoveryDiagnostic (← get).snapshot now candidate decision reason autoAttemptNumber
  requireContract diagnostic.validateContract
  onQueues (fileOperation env path)
  modify fun s => { s with diagnostics := s.diagnostics ++ [(path, diagnostic)] }
  return path

def writeAutoRecoverySkip (now : Timestamp) (candidate : StrandedBlockedDependency) (reason : String)
    (autoAttemptNumber : Nat) : RecoveryM Unit := do
  let diagnosticsPath ← writeAutoRecoveryDiagnostics env now candidate "skip" reason autoAttemptNumber
  writeRuntimeEvent env (.blockedDependencyAutoRequeueSkipped candidate reason diagnosticsPath)
  writeRuntimeEvent env (.blockedLineageRequiresOperatorReview candidate reason diagnosticsPath)

/-- The daemon may retry at all, and nothing runs. -/
def mayRecover (config : AutoRecoveryConfig) (snapshot : RecoverySnapshot) : Bool :=
  config.enabled && config.blockedDependencyRetryEnabled && !snapshot.paused && !snapshot.stopRequested &&
    snapshot.activeRunsByPlane.isEmpty

/-- The candidate goes back to its queue, or is left to the operator with a report. -/
def recoverCandidate (config : AutoRecoveryConfig) (now : Timestamp) (candidate : AutoRecoveryCandidate) :
    RecoveryM (Option BlockedTaskRequeueResult) := do
  let skip := fun reason attempt => do
    writeAutoRecoverySkip env now candidate.dependency reason attempt
    return none
  if ¬candidate.lineageCompatible then skip "root_spec_mismatch" 1 else
  match candidate.dependency.metadata with
  | none => skip "missing_or_invalid_metadata" 1
  | some metadata =>
    if ¬metadata.allowsAutoRequeue then skip "blocked_dependency_not_retryable" 1 else
    let autoAttempts ← countAutoRequeues env candidate.dependency.blockedTaskId
    if autoAttempts ≥ config.maxAutoRequeuesPerWorkItem then skip "retry_budget_exhausted" (autoAttempts + 1)
    else if autoRecoveryCooldownActive config metadata autoAttempts now then skip "cooldown_active" (autoAttempts + 1)
    else
      let diagnosticsPath ← writeAutoRecoveryDiagnostics env now candidate.dependency "requeue"
        "transient blocked dependency" (autoAttempts + 1)
      let result ← retryBlockedTask env {
        taskId := candidate.dependency.blockedTaskId
        reason := autoRecoveryReason
        actor := autoRecoveryActor
        auto := true
        force := false
        rootSpecId := candidate.blockedRootSpecId
        diagnosticsPath := some diagnosticsPath
        maxAutoRequeuesPerWorkItem := some config.maxAutoRequeuesPerWorkItem }
      refreshSnapshotQueueDepthsInPlace env
      writeRuntimeEvent env (.blockedDependencyAutoRequeued candidate.dependency metadata.failureClass diagnosticsPath
        result.attemptNumber)
      return some result

def attemptStrandedDependencyAutoRecovery (config : AutoRecoveryConfig) (now : Timestamp) :
    RecoveryM (Option BlockedTaskRequeueResult) := do
  let s ← get
  if ¬mayRecover config s.snapshot then return none else
  if s.snapshot.queueDepthExecution = 0 ∧ countMarkdownFiles s.workspace ⟨.task, .queue, none⟩ = 0 then return none else
  match ← findAutoRecoveryCandidate env with
  | none => return none
  | some candidate => recoverCandidate env config now candidate

end

end Millrace.Recovery

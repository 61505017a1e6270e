import Millrace.Closure.Targets
import Millrace.Runs

/-! The arbiter's results, the recovery of a failed application, and the steps of a workspace with closure targets. -/

set_option autoImplicit false

namespace Millrace.Closure
open Millrace.Text Millrace.Contracts Millrace.WorkDocuments Millrace.Action
open Millrace.Queue (ItemState DocumentPath)
open Millrace.Runtime (ActiveRunState ActiveRunRequestKind RouterAction RouterDecision StageResultEnvelope)

section Results
variable [Rfc3339]

/-- A result of the arbiter's run, the decision it is routed to, and what the application reads beside them. -/
structure ArbiterOutcome where
  result : StageResultEnvelope
  decision : RouterDecision
  summaryStatusMarker : String
  verdictPath : Option String
  reportPath : Option String
  repeatedRemediation : String → Bool
  notes : List String
  evidencePaths : List String
  relatedStageResult : String
  shortHash : String

variable (plan : ClosurePlan) (met : Meeting) (outcome : ArbiterOutcome)

def metadataString (result : StageResultEnvelope) (key : String) : Option String :=
  (result.metadataText key).filter fun value => !Runtime.isBlank value

/-- The result carries the identity that normalization takes from the request of this run. -/
def NormalizedFor (run : ActiveRunState) (result : StageResultEnvelope) : Prop :=
  run.requestKind = .closureTarget ∧ run.closureTargetRootSpecId = some result.workItemId ∧
    result.workItemKind = .spec ∧ result.runId = run.runId ∧ result.plane = run.plane ∧ result.stage = run.stage ∧
    result.nodeId = run.nodeId ∧ result.stageKindId = run.stageKindId ∧
    metadataString result "request_kind" = some "closure_target" ∧
    metadataString result "closure_target_root_spec_id" = some result.workItemId

instance (run : ActiveRunState) (result : StageResultEnvelope) : Decidable (NormalizedFor run result) := by
  unfold NormalizedFor
  infer_instance

/-! ## The application -/

def loadClosureTargetForStageResult (result : StageResultEnvelope) : ClosureM ClosureTargetState := do
  match metadataString result "closure_target_root_spec_id" with
  | none => throw (.invalidState "closure_target_root_spec_id is required")
  | some rootSpecId => loadClosureTargetState met rootSpecId

def handoffIncident : IncidentDocument :=
  let root := metadataString outcome.result "closure_target_root_spec_id"
  let spoken := root.getD outcome.result.workItemId
  { incidentId := "arbiter-gap-" ++ spoken ++ "-" ++ outcome.shortHash
    title := "Arbiter remediation for " ++ spoken
    summary := "Arbiter found parity gaps for root spec " ++ spoken ++ "; planning remediation required."
    rootIdeaId := metadataString outcome.result "closure_target_root_idea_id"
    rootSpecId := root
    rootIntakeKind := none
    rootIntakeId := none
    sourceTaskId := none
    sourceSpecId := root
    sourceStage := outcome.result.stage
    sourcePlane := outcome.result.plane
    failureClass := outcome.decision.failureClass.getD "arbiter_parity_gap"
    severity := .high
    needsPlanning := true
    triggerReason := outcome.decision.reason
    observedSymptoms := outcome.notes
    failedAttempts := []
    consultantDecision := .needsPlanning
    evidencePaths := outcome.evidencePaths
    relatedRunIds := [outcome.result.runId]
    relatedStageResults := [outcome.relatedStageResult]
    references := []
    openedAt := met.now
    openedBy := "runtime"
    updatedAt := none }

def LineageWork.addIncident (work : LineageWork) (document : IncidentDocument) : LineageWork :=
  { work with incidents := fun state =>
      if state = .queue then work.incidents state ++ [⟨document.incidentId, some document⟩] else work.incidents state }

def enqueueIncident (document : IncidentDocument) : ClosureM Unit := do
  match document.validate with
  | .error source => throw (.contract source)
  | .ok () => do
    let work := (← get).work
    refuse ([ItemState.queue, .active, .done, .blocked].any fun state =>
        (work.incidents state).any (·.stem = document.incidentId))
      ("incident " ++ document.incidentId ++ " already exists")
    fileOperation met
    modify fun s => { s with work := s.work.addIncident document }

def enqueueHandoffIncident : ClosureM Unit := do
  fileOperation met
  enqueueIncident met (handoffIncident met outcome)
  fileOperation met

def isRepeatedRemediationWithoutExecution (previousArbiterRunId : Option String) : ClosureM Bool := do
  match previousArbiterRunId with
  | none => return false
  | some runId => do
    fileOperation met
    return outcome.repeatedRemediation runId

def blockRepeatedClosureRemediation : ClosureM Unit := do
  fileOperation met
  modifySnapshot fun snapshot => clearActivePlane .planning (some "closure_repeated_remediation_without_execution")
    { snapshot with planningStatusMarker := "### BLOCKED" }
  fileOperation met
  saveSnapshot met
  fileOperation met

def setIdleStatusAfterTerminal : ClosureM Unit := do
  fileOperation met
  modifySnapshot fun snapshot => { snapshot with planningStatusMarker := "### IDLE" }

/-- The run of the plane ends; the snapshot is saved and the event written. -/
def endArbiterRun (failureClass : Option String) (status : ClosureM Unit) : ClosureM Unit := do
  modifySnapshot (clearActivePlane outcome.result.plane failureClass)
  status
  fileOperation met
  saveSnapshot met
  fileOperation met

def applyClosureTargetResult : ClosureM Unit := do
  let loaded ← loadClosureTargetForStageResult met outcome.result
  fileOperation met
  fileOperation met
  let target := { loaded with
    latestVerdictPath := outcome.verdictPath
    latestReportPath := outcome.reportPath
    lastArbiterRunId := some outcome.result.runId
    closureBlockedByLineageWork := false
    blockingWorkIds := [] }
  match outcome.decision.action with
  | .idle => do
    saveClosureTargetState met { target with closureOpen := false, closedAt := some met.now.text }
    endArbiterRun met outcome none (setIdleStatusAfterTerminal met)
  | .handoff => do
    saveClosureTargetState met { target with closureOpen := true, closedAt := none }
    if ← isRepeatedRemediationWithoutExecution met outcome loaded.lastArbiterRunId then
      blockRepeatedClosureRemediation met
    else do
      if outcome.decision.createIncident then enqueueHandoffIncident met outcome
      endArbiterRun met outcome outcome.decision.failureClass (pure ())
  | .blocked => do
    saveClosureTargetState met { target with closureOpen := true, closedAt := none }
    endArbiterRun met outcome outcome.decision.failureClass (pure ())
  | .runStage => throw (.invalidState "closure-target results cannot route to run_stage")

/-- The application of a dispatch: routing and artifacts, the snapshot updates, the decision, the traces. -/
def persistAndApplyDispatchResult : ClosureM Unit := do
  fileOperation met
  modifySnapshot fun snapshot => { snapshot with
    planningStatusMarker := outcome.summaryStatusMarker
    currentFailureClass := outcome.decision.failureClass }
  fileOperation met
  saveSnapshot met
  fileOperation met
  applyClosureTargetResult met outcome
  fileOperation met

/-! ## Recovery -/

def runOfStageResult (snapshot : ClosureSnapshot) : ActiveRunState :=
  ((snapshot.activeRunsByPlane outcome.result.plane).map (·.val)).getD {
    plane := outcome.result.plane
    stage := outcome.result.stage
    nodeId := outcome.result.nodeId
    stageKindId := outcome.result.stageKindId
    runId := outcome.result.runId
    requestKind := if outcome.result.workItemKind = .learningRequest then .learningRequest else .activeWorkItem
    workItemKind := some outcome.result.workItemKind
    workItemId := some outcome.result.workItemId
    closureTargetRootSpecId := none
    activeSince := met.now.text }

def setRecoveryStageForPlane (failureClass : String) (snapshot : ClosureSnapshot) : ClosureSnapshot :=
  { snapshotWithActiveRun { runOfStageResult met outcome snapshot with
      stage := plan.repairStage.stage
      nodeId := plan.repairStage.nodeId
      stageKindId := plan.repairStage.stageKindId
      activeSince := met.now.text } snapshot with
    currentFailureClass := some failureClass }

def schedulePostStageExceptionRecovery : ClosureM Unit := do
  fileOperation met
  modifySnapshot fun snapshot => setRecoveryStageForPlane plan met outcome "planning_post_stage_apply_failed"
    { snapshot with planningStatusMarker := "### BLOCKED" }
  fileOperation met
  saveSnapshot met
  fileOperation met

def applyArbiterOutcome : ClosureM Unit :=
  tryCatch (persistAndApplyDispatchResult met outcome) fun _ => schedulePostStageExceptionRecovery plan met outcome

/-! ## Steps -/

/-- One step of the runtime: a tick's activation, an arbiter's result, or a change that other code makes. -/
inductive ClosureStep where
  | serialTick (met : Meeting)
  | claimForPlane (plane : Plane) (met : Meeting)
  | completionStage (met : Meeting)
  | arbiterResult (outcome : ArbiterOutcome) (met : Meeting)
  | runs (snapshot : ClosureSnapshot)
  | queues (work : LineageWork)

/-- An error ends the process; the next one goes on from the saved snapshot. -/
def ClosureSession.run (s : ClosureSession) (x : ClosureM Unit) : ClosureSession :=
  match x { s with operations := 0 } with
  | .ok _ s' => s'
  | .error _ s' => { s' with snapshot := s'.saved }

/-- Results of other stages, claims on the other planes and commands end or advance runs, but start no arbiter's run;
intakes, claims, results and commands change the queues in any way. -/
def ClosureStep.apply (s : ClosureSession) : ClosureStep → ClosureSession
  | .serialTick met => if s.snapshot.idle then s.run (activateNextWorkOrCompletion plan met) else s
  | .claimForPlane plane met => s.run (activateNextClaimForPlane plan met plane)
  | .completionStage met => s.run (activateCompletionStageIfReady plan met)
  | .arbiterResult outcome met =>
    match s.snapshot.activeRunsByPlane .planning with
    | none => s
    | some run => if NormalizedFor run outcome.result then s.run (applyArbiterOutcome plan met outcome) else s
  | .runs snapshot =>
    if snapshot.arbiterRoot = none ∨ snapshot.arbiterRoot = s.snapshot.arbiterRoot then
      { s with snapshot, saved := snapshot }
    else s
  | .queues work => { s with work }

/-- A workspace with these targets and no run. -/
def ClosureSession.start (targets : List ClosureTargetState) (work : LineageWork) : ClosureSession where
  targets
  work
  snapshot := { activeRunsByPlane := fun _ => none, planningStatusMarker := "### IDLE", currentFailureClass := none }
  saved := { activeRunsByPlane := fun _ => none, planningStatusMarker := "### IDLE", currentFailureClass := none }
  operations := 0

end Results

end Millrace.Closure

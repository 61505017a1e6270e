import Millrace.Application.Session
import Millrace.Runs

/-! The dispatch application: the effect, the decision on the snapshot and the queue, and the recovery after a failure. -/

set_option autoImplicit false

namespace Millrace.Application
open Millrace.Text Millrace.Contracts Millrace.Action Millrace.Runtime
open Millrace.Queue (ItemState planeForBuiltinKind)

/-! ## The snapshot -/

def clearActivePlane (plane : Plane) (currentFailureClass : Option String) (snapshot : RuntimeSnapshot) :
    RuntimeSnapshot :=
  { projectForegroundActiveRun
      { snapshot with activeRunsByPlane := Function.update snapshot.activeRunsByPlane plane none } with
    currentFailureClass := currentFailureClass }

def resetSnapshotRouteCounters (snapshot : RuntimeSnapshot) : RuntimeSnapshot :=
  { snapshot with
    troubleshootAttemptCount := 0
    mechanicAttemptCount := 0
    fixCycleCount := 0
    consultantInvocations := 0 }

def snapshotWithActiveRun (run : ActiveRunState) (snapshot : RuntimeSnapshot) : RuntimeSnapshot :=
  projectForegroundActiveRun
    { snapshot with activeRunsByPlane := Function.update snapshot.activeRunsByPlane run.plane (some run) }

def setNextStageForPlane (plane : Plane) (stage : StageName) (nodeId stageKindId now : String)
    (currentFailureClass : Option String) : ApplicationM Unit := do
  match (← get).snapshot.activeRunsByPlane plane with
  | none => throw (.invalidState ("no active run for plane " ++ asStr plane))
  | some run => modifySnapshot fun snapshot =>
    { projectForegroundActiveRun { snapshot with
        activeRunsByPlane := Function.update snapshot.activeRunsByPlane plane
          (some { run with stage, nodeId, stageKindId, activeSince := now }) } with
      currentFailureClass := currentFailureClass }

/-! ## Route counters -/

inductive RecoveryCounterField where
  | troubleshootAttemptCount | mechanicAttemptCount | fixCycleCount | consultantInvocations
  deriving DecidableEq, Repr

def routeCounterField (decision : RouterDecision) (r : StageResultEnvelope) : Option RecoveryCounterField :=
  match decision.nextStage with
  | some .troubleshooter => some .troubleshootAttemptCount
  | some .mechanic => some .mechanicAttemptCount
  | some .consultant => some .consultantInvocations
  | _ => if r.outcome = "FIX_NEEDED" then some .fixCycleCount else none

def RecoveryCounterField.increment (e : RecoveryCounterEntry) : RecoveryCounterField → RecoveryCounterEntry
  | .troubleshootAttemptCount => { e with troubleshootAttemptCount := e.troubleshootAttemptCount + 1 }
  | .mechanicAttemptCount => { e with mechanicAttemptCount := e.mechanicAttemptCount + 1 }
  | .fixCycleCount => { e with fixCycleCount := e.fixCycleCount + 1 }
  | .consultantInvocations => { e with consultantInvocations := e.consultantInvocations + 1 }

def RecoveryCounterField.showIn (e : RecoveryCounterEntry) (snapshot : RuntimeSnapshot) :
    RecoveryCounterField → RuntimeSnapshot
  | .troubleshootAttemptCount => { snapshot with troubleshootAttemptCount := e.troubleshootAttemptCount }
  | .mechanicAttemptCount => { snapshot with mechanicAttemptCount := e.mechanicAttemptCount }
  | .fixCycleCount => { snapshot with fixCycleCount := e.fixCycleCount }
  | .consultantInvocations => { snapshot with consultantInvocations := e.consultantInvocations }

/-- The first entry with these very keys, or a new one at the end. -/
def recoveryCounterEntry (counters : RecoveryCounters) (failureClass : String) (kind : WorkItemKind) (id : String) :
    RecoveryCounterEntry :=
  (counters.find? fun e => e.failureClass = failureClass ∧ e.workItemKind = kind ∧ e.workItemId = id).getD
    ⟨failureClass, kind, id, 0, 0, 0, 0⟩

def putRecoveryCounterEntry (entry : RecoveryCounterEntry) : RecoveryCounters → RecoveryCounters
  | [] => [entry]
  | e :: rest =>
    if e.failureClass = entry.failureClass ∧ e.workItemKind = entry.workItemKind ∧ e.workItemId = entry.workItemId then
      entry :: rest
    else e :: putRecoveryCounterEntry entry rest

section Application
variable (app : AppliedResult)

def incrementCounterField (failureClass : String) (field : RecoveryCounterField) : ApplicationM Unit := do
  refuse (Runtime.isBlank failureClass) (.invalidState "failure_class is required")
  refuse (Runtime.isBlank app.result.workItemId) (.invalidState "work_item_id is required")
  fileStep app.fails .decision .loadRecoveryCounters
  let entry := field.increment
    (recoveryCounterEntry (← get).counters failureClass app.result.workItemKind app.result.workItemId)
  modifySnapshot fun snapshot => field.showIn entry snapshot
  fileStep app.fails .decision .saveRecoveryCounters
  modify fun s => { s with counters := putRecoveryCounterEntry entry s.counters }

def incrementRouteCounters (decision : RouterDecision) : ApplicationM Unit :=
  match routeCounterField decision app.result with
  | none => return ()
  | some field => incrementCounterField app
      (decision.failureClass.getD (if field = .fixCycleCount then "fix_cycle" else "recoverable_failure")) field

def resetForwardProgressCounters (phase : Phase) : ApplicationM Unit := do
  fileStep app.fails phase .loadRecoveryCounters
  fileStep app.fails phase .saveRecoveryCounters
  modify fun s => { s with counters := s.counters.filter fun e =>
    e.workItemKind ≠ app.result.workItemKind ∨ e.workItemId ≠ app.result.workItemId }

/-! ## The runtime effect -/

/-- The handler writes its documents before it answers. -/
def runHandler (rule : RuntimeEffectRule) : ApplicationM RuntimeEffectResult := do
  fileStep app.fails .effect .runHandler
  app.handlerDocuments.forM fun (kind, id) => modifyDocuments fun documents => documents.add kind .queue id
  return normalizeEffectFailurePhase (runPackagedHandler app.session app.result rule)

def missingCreatedPath (answer : RuntimeEffectResult) : Bool :=
  answer.createdPaths.any fun path => !app.session.pathExists path

def applyRuntimeEffectResult (answer : RuntimeEffectResult) : ApplicationM RuntimeEffectResult := do
  if missingCreatedPath app answer then do
    fileStep app.fails .effect .writeEvent
    return { answer with
      decision := .retryRecovery
      failureClass := some "runtime_effect_destination_missing" }
  else
    match answer.sourceLifecycleIntent with
    | none => return answer
    | some intent => do
      applyLifecycleIntent app.fails app.supersededDuplicate .effect .effectWritten intent
      return answer

/-- The rules of the plan that could have spawned the work that an answer created. -/
def destinationRules (answer : RuntimeEffectResult) : List RuntimeEffectRule :=
  app.session.effectRules.filter fun rule =>
    rule.handlerId == answer.handlerId && ruleMatchesStageResult app.result rule

def spawnedPathsForEffect (answer : RuntimeEffectResult) : ApplicationM Unit :=
  refuse (1 < (destinationRules app answer).length)
    (.invalidState ("multiple runtime effect rules matched spawned-work destination " ++ app.result.nodeId ++ "/" ++
      app.result.outcome ++ ": " ++ ", ".intercalate ((destinationRules app answer).map (·.ruleId))))

/-- The artifact of the answer, its event and the annotated stage result. -/
def recordEffect : ApplicationM Unit := do
  fileStep app.fails .effectWritten .writeEffectResult
  fileStep app.fails .effectWritten .writeEvent
  fileStep app.fails .effectWritten .writeStageResult

def liftEffect {α : Type} : EffectOutcome α → ApplicationM α
  | .ok value => return value
  | .error error => throw (.effect error)

def effectPolicy (answer : RuntimeEffectResult) (rule : RuntimeEffectRule) :
    Option RuntimeFailurePolicyInterpretation :=
  runtimeEffectFailurePolicyResolution app.session app.result answer rule

def applyEffectAnswer (answer : RuntimeEffectResult) (resolution : Option RuntimeFailurePolicyInterpretation)
    (routerDecision : RouterDecision) : ApplicationM RuntimeEffectApplication := do
  match resolution.filter (·.action == "route_to_node") with
  | some policy => do
    let routed ← liftEffect (routerDecisionForFailurePolicyRoute app.session app.result answer policy)
    recordEffect app
    return .unchanged (routed.getD routerDecision)
  | none => do
    let result ← applyRuntimeEffectResult app answer
    spawnedPathsForEffect app result
    match result.decision with
    | .continueRoute => do
      let decision ← liftEffect (routerDecisionForContinueRoute app.session app.result routerDecision)
      recordEffect app
      return .unchanged decision
    | .requestCompleteSource | .requestBlockSource => do
      recordEffect app
      return {
        routerDecision := routerDecisionForEffect result resolution
        sourceLifecycleApplied := result.sourceLifecycleIntent.isSome }
    | .retryRecovery =>
      throw (.effect (.recoveryRequested result.handlerId (result.failureClass.getD "runtime_effect_failed")))

def applyRuntimeEffectForStageResult (routerDecision : RouterDecision) : ApplicationM RuntimeEffectApplication := do
  match ← liftEffect (selectedRuntimeEffectRule app.session app.result) with
  | none => return .unchanged routerDecision
  | some rule => do
    fileStep app.fails .effect .writeEffectDecision
    let answer ← runHandler app rule
    applyEffectAnswer app answer (effectPolicy app answer rule) routerDecision

/-! ## The decision -/

def isClosureTargetStageResult (r : StageResultEnvelope) : Bool :=
  (r.metadataText "request_kind").filter (fun value => !Runtime.isBlank value) == some "closure_target"

def isReconStageResult (r : StageResultEnvelope) : Bool := r.stageKindId == "recon" && r.workItemKind == .probe

def clearRuntimeErrorContextIfConsumed : ApplicationM Unit :=
  if app.result.stage = .troubleshooter ∨ app.result.stage = .mechanic then
    fileStep app.fails .decision .clearRuntimeErrorContext
  else return ()

/-- The queue depths, and the snapshot on disk. -/
def concludeSnapshot (phase : Phase) : ApplicationM Unit := do
  fileStep app.fails phase .refreshQueueDepths
  saveSnapshot app.fails phase

def applyRunStageDecision (decision : RouterDecision) : ApplicationM Unit := do
  refuse (decision.nextPlane.getD app.result.plane ≠ app.result.plane)
    (.invalidState "run_stage decisions must stay on the source plane")
  match decision.nextStage with
  | none => throw (.invalidState "run_stage decision is missing next_stage")
  | some stage => do
    setNextStageForPlane app.result.plane stage (decision.nextNodeId.getD (asStr stage))
      (decision.nextStageKindId.getD (asStr stage)) app.completedAt decision.failureClass
    incrementRouteCounters app decision
    concludeSnapshot app .decision

/-- The end of a run whose item has been moved: its blocked metadata, the plane, the counters and the snapshot. -/
def endRun (phase : Phase) (failureClass : Option String) (status : Option FileStep) (counted : Bool) :
    ApplicationM Unit := do
  modifySnapshot fun snapshot =>
    resetSnapshotRouteCounters (clearActivePlane app.result.plane failureClass snapshot)
  status.forM (fileStep app.fails phase)
  if counted then resetForwardProgressCounters app phase
  concludeSnapshot app phase

def persistBlockedMetadataAndEvent (phase : Phase) : ApplicationM Unit := do
  fileStep app.fails phase .persistBlockedItemMetadata
  fileStep app.fails phase .writeEvent

def markActiveWorkItem (expected : SourceLifecycleAction) : ApplicationM Unit :=
  match compiledSourceLifecycleIntent app.plan app.result expected with
  | .error error => throw (.tick error)
  | .ok intent => applyLifecycleIntent app.fails app.supersededDuplicate .decision .ending intent

def applyIdleDecision : ApplicationM Unit := do
  markActiveWorkItem app .complete
  endRun app .ending none (some .setStatus) true

def applyRuntimeEffectIdleDecision : ApplicationM Unit := endRun app .ending none (some .setStatus) true

def enqueueHandoffIncident : ApplicationM Unit := do
  fileStep app.fails .decision .readDocument
  enqueueDocument app.fails .decision .incident app.incidentId
  fileStep app.fails .decision .writeEvent

def applyBlockedDecision (decision : RouterDecision) : ApplicationM Unit := do
  markActiveWorkItem app .block
  persistBlockedMetadataAndEvent app .ending
  endRun app .ending decision.failureClass none true

def applyHandoffDecision (decision : RouterDecision) : ApplicationM Unit := do
  if decision.createIncident then enqueueHandoffIncident app
  applyBlockedDecision app decision

def applyRuntimeEffectBlockedDecision (decision : RouterDecision) : ApplicationM Unit := do
  fileStep app.fails .ending .setStatus
  persistBlockedMetadataAndEvent app .ending
  endRun app .ending decision.failureClass none true

/-! ## Closure results -/

def endClosureRun (failureClass : Option String) (status : Option FileStep) : ApplicationM Unit := do
  endRun app .ending failureClass status false
  fileStep app.fails .ending .writeEvent

def blockRepeatedClosureRemediation : ApplicationM Unit := do
  fileStep app.fails .decision .setStatus
  modifySnapshot fun snapshot => resetSnapshotRouteCounters
    (clearActivePlane .planning (some "closure_repeated_remediation_without_execution") snapshot)
  concludeSnapshot app .ending
  fileStep app.fails .ending .writeEvent

/-- A closure target's result moves no work item. -/
def applyClosureTargetResult (decision : RouterDecision) : ApplicationM Unit := do
  fileStep app.fails .decision .loadClosureTarget
  fileStep app.fails .decision .canonicalizeArbiterReport
  match decision.action with
  | .idle => do
    fileStep app.fails .decision .saveClosureTarget
    endClosureRun app none (some .setStatus)
  | .handoff => do
    fileStep app.fails .decision .saveClosureTarget
    fileStep app.fails .decision .readEventLog
    if app.repeatedRemediation then blockRepeatedClosureRemediation app
    else do
      if decision.createIncident then enqueueHandoffIncident app
      endClosureRun app decision.failureClass none
  | .blocked => do
    fileStep app.fails .decision .saveClosureTarget
    endClosureRun app decision.failureClass none
  | .runStage => throw (.invalidState "closure-target results cannot route to run_stage")

/-! ## Recon results -/

def reconSucceeded : List String := ["RECON_TO_EXECUTION", "RECON_TO_PLANNING", "RECON_NOOP"]

def reconBlocked : List String := ["RECON_BLOCKED", "BLOCKED"]

/-- The packet of the run is validated and kept before the probe is moved. -/
def persistReconPacket : ApplicationM Unit := do
  fileStep app.fails .decision .readReconPacket
  fileStep app.fails .decision .persistReconPacket

def enqueueGenerated (kind : WorkItemKind) : ApplicationM Unit := do
  fileStep app.fails .decision .readGenerated
  enqueueDocument app.fails .decision kind app.generatedId

def applyReconRouterDecisionInner (decision : RouterDecision) : ApplicationM Unit := do
  if app.result.plane ≠ .planning then
    throw (.invalidState "recon stage results must use planning terminal results")
  else if app.result.outcome ∈ reconSucceeded then do
    refuse (decision.action ≠ .idle)
      (.invalidState "successful recon terminal results require an idle router decision")
    persistReconPacket app
    if app.result.outcome = "RECON_TO_EXECUTION" then enqueueGenerated app .task
    else if app.result.outcome = "RECON_TO_PLANNING" then enqueueGenerated app .spec
    applyIdleDecision app
  else if app.result.outcome ∈ reconBlocked then do
    refuse (decision.action ≠ .blocked)
      (.invalidState "blocked recon terminal results require a blocked router decision")
    persistReconPacket app
    applyBlockedDecision app decision
  else throw (.invalidState ("unsupported recon terminal result: " ++ app.result.outcome))

/-- A probe whose handoff is invalid is blocked. -/
def blockInvalidReconHandoff : ApplicationM Unit := do
  fileStep app.fails .fallback .writeRuntimeErrorReport
  fileStep app.fails .fallback .persistRuntimeErrorContext
  fileStep app.fails .fallback .setStatus
  applyLifecycleIntent app.fails app.supersededDuplicate .fallback .fallbackEnding
    ((SourceLifecycleIntent.forBuiltin "block_work_item" .block app.result.workItemKind app.result.workItemId).withReason
      "runtime-owned invalid handoff block")
  persistBlockedMetadataAndEvent app .fallbackEnding
  endRun app .fallbackEnding (some "recon_handoff_invalid") none true

def applyReconRouterDecision (decision : RouterDecision) : ApplicationM Unit :=
  tryCatch (applyReconRouterDecisionInner app decision) fun _ => blockInvalidReconHandoff app

/-! ## The application -/

def applyRouterDecision (decision : RouterDecision) : ApplicationM Unit := do
  clearRuntimeErrorContextIfConsumed app
  if isClosureTargetStageResult app.result then applyClosureTargetResult app decision
  else if isReconStageResult app.result then applyReconRouterDecision app decision
  else
    match decision.action with
    | .runStage => applyRunStageDecision app decision
    | .idle => applyIdleDecision app
    | .handoff => applyHandoffDecision app decision
    | .blocked => applyBlockedDecision app decision

def applyRouterDecisionAfterRuntimeEffect (application : RuntimeEffectApplication) : ApplicationM Unit := do
  if application.sourceLifecycleApplied then do
    clearRuntimeErrorContextIfConsumed app
    refuse (isClosureTargetStageResult app.result || isReconStageResult app.result)
      (.invalidState "runtime effects cannot pre-apply closure or recon source lifecycle")
    match application.routerDecision.action with
    | .idle => applyRuntimeEffectIdleDecision app
    | .blocked => applyRuntimeEffectBlockedDecision app application.routerDecision
    | .runStage | .handoff =>
      throw (.invalidState "runtime effect lifecycle was already applied before router action")
  else applyRouterDecision app application.routerDecision

def enqueueLearningRequests : ApplicationM Unit :=
  app.learningRequests.forM fun id => do
    enqueueDocument app.fails .publication .learningRequest id
    fileStep app.fails .publication .writeEvent

/-- The result's status marker and the decision's failure class, on disk before the decision is applied. -/
def persistDispatchSnapshotUpdates (decision : RouterDecision) : ApplicationM Unit := do
  fileStep app.fails .publication .setStatus
  modifySnapshot fun snapshot => { snapshot with currentFailureClass := decision.failureClass }
  concludeSnapshot app .publication

def liftTick {α : Type} : TickResult α → ApplicationM α
  | .ok value => return value
  | .error error => throw (.tick error)

def recordDecision (decision : RouterDecision) : ApplicationM Unit :=
  modify fun s => { s with routerDecision := some decision }

/-- What follows the effect. -/
def publishAndApply (application : RuntimeEffectApplication) : ApplicationM Unit := do
  recordDecision application.routerDecision
  fileStep app.fails .publication .writeStageResult
  enqueueLearningRequests app
  fileStep app.fails .publication .writeRouterDecision
  persistDispatchSnapshotUpdates app application.routerDecision
  fileStep app.fails .publication .writeEvent
  fileStep app.fails .publication .evaluateUsageGovernance
  fileStep app.fails .publication .writeEvent
  applyRouterDecisionAfterRuntimeEffect app application
  fileStep app.fails .closing .writeCuratorPromotion
  fileStep app.fails .closing .applyDeferredPromotions

def persistAndApplyDispatchResult : ApplicationM Unit := do
  fileStep app.fails .routing .loadRecoveryCounters
  let s ← get
  let routed ← liftTick (routeStageResultFromGraph app.plan s.snapshot app.result s.counters)
  recordDecision routed
  fileStep app.fails .routing .persistRuntimeErrorContext
  fileStep app.fails .routing .writeTerminalMarker
  fileStep app.fails .routing .writeStageResult
  let application ← applyRuntimeEffectForStageResult app routed
  publishAndApply app application

/-! ## Recovery -/

def runOfStageResult (now : String) (r : StageResultEnvelope) : ActiveRunState where
  plane := r.plane
  stage := r.stage
  nodeId := r.nodeId
  stageKindId := r.stageKindId
  runId := r.runId
  requestKind := if r.workItemKind = .learningRequest then .learningRequest else .activeWorkItem
  workItemKind := some r.workItemKind
  workItemId := some r.workItemId
  closureTargetRootSpecId := none
  activeSince := now

def setRecoveryStageForPlane (stage : StageName) (nodeId stageKindId failureClass : String)
    (snapshot : RuntimeSnapshot) : RuntimeSnapshot :=
  let run := (activeRunForPlane snapshot app.result.plane).getD (runOfStageResult app.completedAt app.result)
  { snapshotWithActiveRun { run with stage, nodeId, stageKindId, activeSince := app.completedAt } snapshot with
    currentFailureClass := some failureClass }

def compiledIdentityForStage (stage : StageName) : String × String :=
  match graphForPlane app.plan app.result.plane with
  | .error _ => (asStr stage, asStr stage)
  | .ok graph =>
    match graph.nodes.find? fun node => node.nodeId == asStr stage ||
        (stageNameForPlane app.result.plane node.stageKindId).toOption == some stage with
    | some node => (node.nodeId, node.stageKindId)
    | none => (asStr stage, asStr stage)

def repairStage : Plane → Option StageName
  | .execution => some .troubleshooter
  | .planning => some .mechanic
  | .learning => none

def completionConflict (error : ApplicationError) (decision : Option RouterDecision) : Bool :=
  (decision.any fun decision => decision.action = .idle) &&
    match error with
    | .queueState _ => true
    | .io _ | .invalidState _ | .tick _ | .effect _ => false

def postStageErrorCode (error : ApplicationError) (decision : Option RouterDecision) : String :=
  asStr app.result.plane ++
    if completionConflict error decision then "_work_item_completion_conflict" else "_post_stage_apply_failed"

def schedulePostStageExceptionRecovery (error : ApplicationError) : ApplicationM Unit :=
  match repairStage app.result.plane with
  | none => throw (.invalidState "learning post-stage recovery is unsupported")
  | some stage => do
    let code := postStageErrorCode app error (← get).routerDecision
    fileStep app.fails .recovery .writeRuntimeErrorReport
    fileStep app.fails .recovery .persistRuntimeErrorContext
    fileStep app.fails .recovery .setStatus
    modifySnapshot (setRecoveryStageForPlane app stage (compiledIdentityForStage app stage).1
      (compiledIdentityForStage app stage).2 code)
    concludeSnapshot app .recovery
    fileStep app.fails .recoveryWritten .writeEvent

def applyDispatchResult : ApplicationM Unit :=
  tryCatch (persistAndApplyDispatchResult app) (schedulePostStageExceptionRecovery app)

end Application

/-! ## Steps -/

/-- A queue document that a plane claims, with the run that is activated for it. -/
structure ClaimedRun where
  plane : Plane
  kind : WorkItemKind
  id : String
  stage : StageName
  nodeId : String
  stageKindId : String
  runId : String
  now : String
  ofPlane : planeForBuiltinKind kind = plane

def ClaimedRun.run (claimed : ClaimedRun) : ActiveRunState where
  plane := claimed.plane
  stage := claimed.stage
  nodeId := claimed.nodeId
  stageKindId := claimed.stageKindId
  runId := claimed.runId
  requestKind := if claimed.kind = .learningRequest then .learningRequest else .activeWorkItem
  workItemKind := some claimed.kind
  workItemId := some claimed.id
  closureTargetRootSpecId := none
  activeSince := claimed.now

def startRun (fails : Phase → FileStep → Option String) (run : ActiveRunState) : ApplicationM Unit := do
  modifySnapshot fun snapshot => { snapshotWithActiveRun run snapshot with currentFailureClass := none }
  saveSnapshot fails .transferred

/-- The claim moves the document to the active directory, the activation starts its run. -/
def activateClaim (fails : Phase → FileStep → Option String) (claimed : ClaimedRun) : ApplicationM Unit := do
  fileStep fails .transfer .renameDocument
  modifyDocuments fun documents =>
    (documents.remove claimed.kind .queue claimed.id).add claimed.kind .active claimed.id
  fileStep fails .transferred .readDocument
  startRun fails claimed.run

/-- A retry moves the document back to the queue and drops its run. -/
def requeueRun (fails : Phase → FileStep → Option String) (plane : Plane) (kind : WorkItemKind) (id : String) :
    ApplicationM Unit := do
  fileStep fails .transfer .renameDocument
  modifyDocuments fun documents => (documents.remove kind .active id).add kind .queue id
  modifySnapshot (clearActivePlane plane none)
  saveSnapshot fails .transferred

/-- The run that judges the closure of a root spec. -/
def completionRun (stage : StageName) (nodeId stageKindId runId rootSpecId now : String) : ActiveRunState where
  plane := .planning
  stage := stage
  nodeId := nodeId
  stageKindId := stageKindId
  runId := runId
  requestKind := .closureTarget
  workItemKind := none
  workItemId := none
  closureTargetRootSpecId := some rootSpecId
  activeSince := now

/-- The result carries the identity of the run, as normalization takes it from the request. -/
def ResultOf (run : ActiveRunState) (r : StageResultEnvelope) : Prop :=
  run.plane = r.plane ∧ (isClosureTargetStageResult r = true ↔ run.requestKind = .closureTarget) ∧
    (run.requestKind = .closureTarget → r.workItemKind = .spec) ∧
    (run.requestKind ≠ .closureTarget → run.workItemKind = some r.workItemKind ∧ run.workItemId = some r.workItemId)

instance (run : ActiveRunState) (r : StageResultEnvelope) : Decidable (ResultOf run r) := by
  unfold ResultOf
  infer_instance

/-- The queue work item of a run. -/
def queueItem (run : ActiveRunState) : Option (WorkItemKind × String) :=
  if run.requestKind = .closureTarget then none
  else run.workItemKind.bind fun kind => run.workItemId.map fun id => (kind, id)

inductive RuntimeStep where
  | claim (claimed : ClaimedRun) (fails : Phase → FileStep → Option String)
  | completion (stage : StageName) (nodeId stageKindId runId rootSpecId now : String)
    (fails : Phase → FileStep → Option String)
  | result (app : AppliedResult)
  | retry (plane : Plane) (fails : Phase → FileStep → Option String)
  /-- Every run is dropped; clearing stale state first moves the active documents back to the queue. -/
  | reset (requeued : Bool)
  | restart
  /-- Intakes, commands and pauses change what belongs to no run. -/
  | elsewhere (next : DispatchSession)

/-- An error that is not recovered from ends the process; the next one goes on from the saved snapshot. -/
def DispatchSession.run (s : DispatchSession) (x : ApplicationM Unit) : DispatchSession :=
  match x { s with routerDecision := none } with
  | .ok _ s' => s'
  | .error _ s' => { s' with snapshot := s'.saved }

def requeueAll (documents : Documents) : Documents := fun kind state =>
  match state with
  | .active => []
  | .queue => documents kind .queue ++ documents kind .active
  | .done | .blocked => documents kind state

def dropRuns (snapshot : RuntimeSnapshot) : RuntimeSnapshot :=
  { projectForegroundActiveRun { snapshot with activeRunsByPlane := fun _ => none } with currentFailureClass := none }

def DispatchSession.reset (s : DispatchSession) (requeued : Bool) : DispatchSession :=
  { s with
    snapshot := dropRuns s.snapshot
    saved := dropRuns s.snapshot
    documents := if requeued then requeueAll s.documents else s.documents }

/-- The state that another step leaves, with the runs and the active documents as they were. -/
def DispatchSession.elsewhere (s next : DispatchSession) : DispatchSession :=
  { next with
    snapshot := { next.snapshot with activeRunsByPlane := s.snapshot.activeRunsByPlane }
    saved := { next.saved with activeRunsByPlane := s.saved.activeRunsByPlane }
    documents := fun kind state => if state = .active then s.documents kind .active else next.documents kind state }

def RuntimeStep.apply (s : DispatchSession) : RuntimeStep → DispatchSession
  | .claim claimed fails =>
    if (s.snapshot.activeRunsByPlane claimed.plane).isNone ∧ claimed.id ∈ s.documents claimed.kind .queue then
      s.run (activateClaim fails claimed)
    else s
  | .completion stage nodeId stageKindId runId rootSpecId now fails =>
    if (s.snapshot.activeRunsByPlane .planning).isNone then
      s.run (startRun fails (completionRun stage nodeId stageKindId runId rootSpecId now))
    else s
  | .result app =>
    match s.snapshot.activeRunsByPlane app.result.plane with
    | none => s
    | some run => if ResultOf run app.result then s.run (applyDispatchResult app) else s
  | .retry plane fails =>
    match (s.snapshot.activeRunsByPlane plane).bind queueItem with
    | none => s
    | some (kind, id) => s.run (requeueRun fails plane kind id)
  | .reset requeued => s.reset requeued
  | .restart => { s with snapshot := s.saved }
  | .elsewhere next => s.elsewhere next

end Millrace.Application

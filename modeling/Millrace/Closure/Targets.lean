import Millrace.Closure.Lineage
import Millrace.Runtime.Router

/-! Closure targets: how the runtime opens, refreshes, blocks and closes them between its other steps. -/

set_option autoImplicit false

namespace Millrace.Closure
open Millrace.Text Millrace.Contracts Millrace.WorkDocuments Millrace.Action
open Millrace.Queue (ItemState DocumentPath)
open Millrace.Runtime (ActiveRunState ActiveRunRequestKind RouterDecision StageResultEnvelope)

/-! ## State -/

structure ClosureTargetState where
  rootSpecId : String
  rootIdeaId : String
  rootSpecPath : String
  rootIdeaPath : String
  rubricPath : String
  latestVerdictPath : Option String
  latestReportPath : Option String
  closureOpen : Bool
  closureBlockedByLineageWork : Bool
  blockingWorkIds : List String
  blockingWorkRefs : List ClosureBlockingWorkRef
  openedAt : String
  closedAt : Option String
  lastArbiterRunId : Option String
  deriving DecidableEq, Repr

def ClosureTargetState.validate (target : ClosureTargetState) : Except WorkDocumentError Unit := do
  validateIdentifier "root_spec_id" target.rootSpecId
  validateIdentifier "root_idea_id" target.rootIdeaId
  validateOptionalIdentifier "last_arbiter_run_id" target.lastArbiterRunId
  validateIdentifiers "blocking_work_ids" target.blockingWorkIds
  if target.closedAt.isSome && target.closureOpen then
    throw (.invalidDocument "closed closure target cannot remain open")
  if (target.blockingWorkIds ≠ [] ∨ target.blockingWorkRefs ≠ []) ∧ !target.closureBlockedByLineageWork then
    throw (.invalidDocument "blocking work requires closure_blocked_by_lineage_work=true")

def ClosureTargetState.actionable (target : ClosureTargetState) : Bool :=
  target.closureOpen && !target.closureBlockedByLineageWork

abbrev RunOf (plane : Plane) := { run : ActiveRunState // run.plane = plane }

/-- The snapshot fields that closure reads and writes. -/
structure ClosureSnapshot where
  activeRunsByPlane : (plane : Plane) → Option (RunOf plane)
  planningStatusMarker : String
  currentFailureClass : Option String

def ClosureSnapshot.idle (snapshot : ClosureSnapshot) : Bool :=
  [Plane.planning, .execution, .learning].all fun plane => (snapshot.activeRunsByPlane plane).isNone

/-- The root whose closure is under judgement: that of the closure-target run on the planning plane. -/
def ClosureSnapshot.arbiterRoot (snapshot : ClosureSnapshot) : Option String := do
  let run ← snapshot.activeRunsByPlane .planning
  if run.val.requestKind = .closureTarget then run.val.closureTargetRootSpecId else none

structure GraphActivationDecision where
  stage : StageName
  nodeId : String
  stageKindId : String

section State
variable [Rfc3339]

/-- A claimed item; of a spec also its document, where that can be read. -/
structure ClosureClaim where
  workItemKind : WorkItemKind
  workItemId : String
  spec : Option SpecDocument

/-- The plane of the graph that the item is activated in. -/
def ClosureClaim.plane (claim : ClosureClaim) : Plane :=
  match claim.workItemKind with
  | .task => .execution
  | .probe | .spec | .incident | .blueprintDraft => .planning
  | .learningRequest => .learning

/-- What the compiled plan says about activations, and the identity of the planning repair stage. -/
structure ClosurePlan where
  completionBehavior : Bool
  learningGraph : Bool
  completionEntry : Option GraphActivationDecision
  activationForClaim : ClosureClaim → Option GraphActivationDecision
  repairStage : GraphActivationDecision

/-- The files, the snapshot in memory and on disk, and the file operations of the current step so far. -/
structure ClosureSession where
  targets : List ClosureTargetState
  work : LineageWork
  snapshot : ClosureSnapshot
  saved : ClosureSnapshot
  operations : Nat

/-- What one step meets: the clock, a run id, the operations that fail, and what the queues hand out. -/
structure Meeting where
  now : Timestamp
  runId : String
  fault : Nat → Option String
  claim : (plane : Plane) → Option String → Option { claim : ClosureClaim // claim.plane = plane }
  rootIdeaFound : SpecDocument → Bool

abbrev ClosureM (α : Type) := EStateM ClosureError ClosureSession α

variable (plan : ClosurePlan) (met : Meeting)

/-! ## Files -/

/-- A file operation may fail; it then had no effect. -/
def fileOperation : ClosureM Unit := do
  let s ← get
  set { s with operations := s.operations + 1 }
  match met.fault s.operations with
  | some message => throw (.io message)
  | none => return ()

def refuse (condition : Bool) (message : String) : ClosureM Unit :=
  if condition then throw (.invalidState message) else return ()

def checkContract (target : ClosureTargetState) : ClosureM Unit :=
  match target.validate with
  | .ok () => return ()
  | .error source => throw (.contract source)

def findClosureTarget (rootSpecId : String) : ClosureM (Option ClosureTargetState) := do
  fileOperation met
  match (← get).targets.find? fun target => target.rootSpecId = rootSpecId with
  | none => return none
  | some target => do
    checkContract target
    return some target

def loadClosureTargetState (rootSpecId : String) : ClosureM ClosureTargetState := do
  match ← findClosureTarget met rootSpecId with
  | none => throw (.missingClosureTarget rootSpecId)
  | some target => return target

def writeTarget (target : ClosureTargetState) (targets : List ClosureTargetState) : List ClosureTargetState :=
  target :: targets.filter fun other => other.rootSpecId ≠ target.rootSpecId

def saveClosureTargetState (target : ClosureTargetState) : ClosureM Unit := do
  checkContract target
  fileOperation met
  modify fun s => { s with targets := writeTarget target s.targets }

def saveSnapshot : ClosureM Unit := do
  fileOperation met
  modify fun s => { s with saved := s.snapshot }

def modifySnapshot (f : ClosureSnapshot → ClosureSnapshot) : ClosureM Unit :=
  modify fun s => { s with snapshot := f s.snapshot }

def snapshotWithActiveRun (run : ActiveRunState) (snapshot : ClosureSnapshot) : ClosureSnapshot :=
  { snapshot with activeRunsByPlane := Function.update snapshot.activeRunsByPlane run.plane (some ⟨run, rfl⟩) }

def clearActivePlane (plane : Plane) (currentFailureClass : Option String) (snapshot : ClosureSnapshot) :
    ClosureSnapshot :=
  { snapshot with
    activeRunsByPlane := Function.update snapshot.activeRunsByPlane plane none
    currentFailureClass := currentFailureClass }

/-! ## Actionable targets -/

def openClosureTargets : ClosureM (List ClosureTargetState) := do
  fileOperation met
  let targets := (← get).targets
  targets.forM checkContract
  return (targets.filter (·.closureOpen)).mergeSort fun a b => decide (a.rootSpecId ≤ b.rootSpecId)

def actionableOpenClosureTargets (openTargets : List ClosureTargetState) : List ClosureTargetState :=
  openTargets.filter fun target => !target.closureBlockedByLineageWork

def multipleActionable : String := "multiple actionable open closure targets found"

def activeClosureTarget : ClosureM (Option ClosureTargetState) := do
  match actionableOpenClosureTargets (← openClosureTargets met) with
  | [] => return none
  | [target] => return some target
  | _ => throw (.invalidState multipleActionable)

/-! ## Readiness -/

/-- The last component of a path without its extension. -/
def fileStem (path : String) : String :=
  let name := (path.toList.reverse.takeWhile (· ≠ '/')).reverse
  match name.reverse.dropWhile (· ≠ '.') with
  | _ :: c :: stem => String.ofList (c :: stem).reverse
  | _ => String.ofList name

def safeBlueprintBlockingId (blocking : ClosureBlockingWorkRef) : Option String :=
  (blocking.workItemId.filter fun id => SafeIdentifier id).or
    ((blocking.artifactPath.map fileStem).filter fun id => SafeIdentifier id)

def addBlockingId (ids : List String) (blocking : ClosureBlockingWorkRef) : List String :=
  match safeBlueprintBlockingId blocking with
  | some id => if ids.contains id then ids else ids ++ [id]
  | none => ids

def ClosureTargetState.withReadiness (target : ClosureTargetState) (ids : List String)
    (refs : List ClosureBlockingWorkRef) : ClosureTargetState :=
  let blockingWorkIds := refs.foldl addBlockingId ids
  { target with
    closureBlockedByLineageWork := !blockingWorkIds.isEmpty || !refs.isEmpty
    blockingWorkIds
    blockingWorkRefs := refs }

def refreshClosureTargetReadiness (target : ClosureTargetState) : ClosureM ClosureTargetState := do
  fileOperation met
  let work := (← get).work
  match openLineageWorkIds work target.rootSpecId with
  | .error error => throw error
  | .ok ids => do
    let refreshed := target.withReadiness ids (listOpenBlueprintLineageWorkRefs work target.rootSpecId)
    saveClosureTargetState met refreshed
    return refreshed

def markCompletionBehaviorBlocked (failureClass : String) : ClosureM Unit := do
  let snapshot := (← get).snapshot
  if snapshot.planningStatusMarker = "### BLOCKED" ∧ snapshot.currentFailureClass = some failureClass then return ()
  else do
    modifySnapshot fun snapshot => { snapshot with currentFailureClass := some failureClass }
    fileOperation met
    modifySnapshot fun snapshot => { snapshot with planningStatusMarker := "### BLOCKED" }
    saveSnapshot met
    fileOperation met

def blockOnClosureLineageDriftIfPresent (target : ClosureTargetState) : ClosureM Bool := do
  fileOperation met
  match scanClosureLineageDrift (← get).work target.rootSpecId target.rootIdeaId with
  | [] => return false
  | findings => do
    fileOperation met
    saveClosureTargetState met { target with
      closureBlockedByLineageWork := true
      blockingWorkIds := findings.map (·.workItemId) }
    markCompletionBehaviorBlocked met "closure_lineage_drift"
    fileOperation met
    return true

/-- The run is put on its plane and the snapshot saved. -/
def startRun (run : ActiveRunState) : ClosureM Unit := do
  modifySnapshot fun snapshot => { snapshotWithActiveRun run snapshot with currentFailureClass := none }
  saveSnapshot met

def completionRun (activation : GraphActivationDecision) (rootSpecId : String) : ActiveRunState where
  plane := .planning
  stage := activation.stage
  nodeId := activation.nodeId
  stageKindId := activation.stageKindId
  runId := met.runId
  requestKind := .closureTarget
  workItemKind := none
  workItemId := none
  closureTargetRootSpecId := some rootSpecId
  activeSince := met.now.text

/-- The arbiter's run for a target that is open, drained and without drift. -/
def maybeActivateCompletionStage (target : ClosureTargetState) : ClosureM Unit := do
  if !target.closureOpen then return ()
  else do
    let target ← refreshClosureTargetReadiness met target
    if target.closureBlockedByLineageWork then return ()
    else if ← blockOnClosureLineageDriftIfPresent met target then return ()
    else
      match plan.completionEntry with
      | none => throw (.invalidState "compiled graph is missing closure_target completion entry")
      | some activation => startRun met (completionRun met activation target.rootSpecId)

/-! ## Creation and backfill -/

/-- A closure target is opened for a root spec only while no other target is actionable. -/
def createClosureTargetForRootSpec (spec : SpecDocument) : ClosureM (Option ClosureTargetState) := do
  match spec.rootSpecId, spec.rootIdeaId with
  | some rootSpecId, some rootIdeaId =>
    if spec.specId ≠ rootSpecId then return none
    else
      match ← findClosureTarget met rootSpecId with
      | some target => return some target
      | none => do
        let actionableTargets := actionableOpenClosureTargets (← openClosureTargets met)
        refuse (1 < actionableTargets.length) multipleActionable
        refuse (!actionableTargets.isEmpty) "cannot open closure target while another open closure target exists"
        fileOperation met
        if !met.rootIdeaFound spec then return none
        else do
          fileOperation met
          fileOperation met
          fileOperation met
          let target : ClosureTargetState := {
            rootSpecId
            rootIdeaId
            rootSpecPath := "millrace-agents/arbiter/contracts/root-specs/" ++ rootSpecId ++ ".md"
            rootIdeaPath := "millrace-agents/arbiter/contracts/ideas/" ++ rootIdeaId ++ ".md"
            rubricPath := "millrace-agents/arbiter/rubrics/" ++ rootSpecId ++ ".md"
            latestVerdictPath := none
            latestReportPath := none
            closureOpen := true
            closureBlockedByLineageWork := false
            blockingWorkIds := []
            blockingWorkRefs := []
            openedAt := met.now.text
            closedAt := none
            lastArbiterRunId := none }
          saveClosureTargetState met target
          return some target
  | _, _ => return none

def maybeCreateClosureTargetForClaim (claim : ClosureClaim) : ClosureM (Option ClosureTargetState) := do
  if claim.workItemKind ≠ .spec then return none
  else do
    fileOperation met
    match claim.spec with
    | none => throw (.workDocument claim.workItemId)
    | some spec => createClosureTargetForRootSpec met spec

def hasParentSpec (spec : SpecDocument) : Bool :=
  spec.parentSpecId.any fun parent => (trim parent.toList).map Char.toLower ≠ "none".toList

def isRootSpecCandidate (spec : SpecDocument) : Bool :=
  match spec.rootSpecId with
  | some rootSpecId => rootSpecId == spec.specId
  | none => rootedInItself spec.sourceType && !hasParentSpec spec

/-- The later of two root specs comes first, then the greater id, then the greater path. -/
def newerFirst (a b : String × SpecDocument) : Bool :=
  decide (b.2.createdAt.text < a.2.createdAt.text) ||
    (a.2.createdAt.text == b.2.createdAt.text && (decide (b.2.specId < a.2.specId) ||
      (a.2.specId == b.2.specId && decide (b.1 ≤ a.1))))

def latestRootSpecCandidate (work : LineageWork) : Option SpecDocument :=
  let candidates := [ItemState.active, .done, .queue, .blocked].flatMap fun state =>
    (work.specs state).filterMap fun file => (file.document.filter fun spec => isRootSpecCandidate spec).map
      fun spec => (DocumentPath.relative ⟨⟨.spec, state, none⟩, file.stem⟩, spec)
  (candidates.mergeSort newerFirst).head?.map (·.2)

def recoverOrBackfillMissingClosureTarget : ClosureM (Option ClosureTargetState) := do
  if !plan.completionBehavior then return none
  else do
    fileOperation met
    match latestRootSpecCandidate (← get).work with
    | none => return none
    | some spec =>
      match spec.rootSpecId, spec.rootIdeaId with
      | some rootSpecId, some _ =>
        match ← findClosureTarget met rootSpecId with
        | some target => return if target.closureOpen then some target else none
        | none =>
          match ← createClosureTargetForRootSpec met spec with
          | none => do
            markCompletionBehaviorBlocked met "missing_root_idea_source"
            fileOperation met
            return none
          | some target => do
            fileOperation met
            return some target
      | _, _ => do
        markCompletionBehaviorBlocked met "missing_root_lineage"
        return none

/-! ## Activation -/

def claimRun (activation : GraphActivationDecision) (claim : ClosureClaim) : ActiveRunState where
  plane := claim.plane
  stage := activation.stage
  nodeId := activation.nodeId
  stageKindId := activation.stageKindId
  runId := met.runId
  requestKind := if claim.workItemKind = .learningRequest then .learningRequest else .activeWorkItem
  workItemKind := some claim.workItemKind
  workItemId := some claim.workItemId
  closureTargetRootSpecId := none
  activeSince := met.now.text

def activateClaim (claim : ClosureClaim) : ClosureM Unit := do
  let _ ← maybeCreateClosureTargetForClaim met claim
  match plan.activationForClaim claim with
  | none => throw (.invalidState "compiled graph is missing the activation entry")
  | some activation => startRun met (claimRun met activation claim)

/-- A claim moves its document; the move belongs to the steps of the queues. -/
def claimNext (plane : Plane) (rootSpecId : Option String) :
    ClosureM (Option { claim : ClosureClaim // claim.plane = plane }) := do
  fileOperation met
  return met.claim plane rootSpecId

def claimNextLearningRequest : ClosureM (Option { claim : ClosureClaim // claim.plane = .learning }) :=
  if plan.learningGraph then claimNext met .learning none else return none

/-- The serial tick's activation, once no stage is active. -/
def activateNextWorkOrCompletion : ClosureM Unit := do
  match ← activeClosureTarget met with
  | some target =>
    match ← claimNext met .execution (some target.rootSpecId) with
    | some claim => activateClaim plan met claim
    | none =>
      match ← claimNext met .planning (some target.rootSpecId) with
      | some claim => activateClaim plan met claim
      | none => maybeActivateCompletionStage plan met target
  | none =>
    match ← claimNext met .planning none with
    | some claim => activateClaim plan met claim
    | none =>
      match ← claimNext met .execution none with
      | some claim => activateClaim plan met claim
      | none =>
        match ← claimNextLearningRequest plan met with
        | some claim => activateClaim plan met claim
        | none =>
          match ← recoverOrBackfillMissingClosureTarget plan met with
          | some target => maybeActivateCompletionStage plan met target
          | none => return ()

/-- The daemon's claim for one plane. -/
def activateNextClaimForPlane (plane : Plane) : ClosureM Unit := do
  if ((← get).snapshot.activeRunsByPlane plane).isSome then return ()
  else do
    let target ← activeClosureTarget met
    match plane with
    | .learning =>
      match ← claimNextLearningRequest plan met with
      | some claim => activateClaim plan met claim
      | none => return ()
    | plane =>
      match ← claimNext met plane (target.map (·.rootSpecId)) with
      | some claim => activateClaim plan met claim
      | none => return ()

def activateCompletionStageIfReady : ClosureM Unit := do
  if ((← get).snapshot.activeRunsByPlane .planning).isSome then return ()
  else
    match ← activeClosureTarget met with
    | some target => maybeActivateCompletionStage plan met target
    | none =>
      match ← recoverOrBackfillMissingClosureTarget plan met with
      | some target => maybeActivateCompletionStage plan met target
      | none => return ()

end State

end Millrace.Closure

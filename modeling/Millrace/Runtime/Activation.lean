import Millrace.Closure.Opening
import Millrace.Planning.Order
import Millrace.Runtime.Entries

/-! Claiming the next item of a plane and activating its run. -/

set_option autoImplicit false

namespace Millrace.Activation
open Millrace.Text Millrace.Contracts Millrace.WorkDocuments Millrace.Action Millrace.Queue Millrace.Blueprints
open Millrace.Planning (Selector PlanningClaim activePath)
open Millrace.Closure (ClosureM ClosureError ClosureSession ClosureSnapshot ClosureClaim ClosureTargetState Meeting
  GraphActivationDecision)
open Millrace.Runtime (EntryPlan FrozenGraphPlanePlan entryPlane entryKeyForWorkItem)

section
variable [Rfc3339] [json : SerdeJson]

/-! ## Claims -/

def learningRequestSelector : Selector where
  kind := .learningRequest
  fieldName := "learning_request_id"
  read raw sourceName := (parseLearningRequestDocumentWithSource raw sourceName).map fun document =>
    ⟨document.createdAt, document.learningRequestId, none⟩

section Claims
variable (env : DraftEnvironment)

def claimNextLearningRequest : StoreM (Option QueueClaim) := do
  let active ← listMarkdownFiles env.toEnvironment ⟨.learningRequest, .active, none⟩
  refuseIf (active.length > 1) (.invalidState "multiple active learning requests found")
  if active ≠ [] then return none else
  match ← learningRequestSelector.selectOldest env.toEnvironment none with
  | none => return none
  | some candidate =>
    let destination : DocumentPath := activePath .learningRequest candidate.path.stem
    -- there is one process: the selected file cannot vanish before the rename
    rename env.toEnvironment candidate.path destination
    return some { QueueClaim.forBuiltin .learningRequest candidate.itemId destination with
      sourceState := some "queue"
      sourcePath := some candidate.path
      claimPolicyId := some "learning.default"
      claimOrder := some 0 }

/-- The queue's claim for a plane. A task or a learning request is a document claim as well. -/
def claimForPlane (plan : EntryPlan) (plane : Plane) (rootSpecId : Option String) : DraftM (Option PlanningClaim) :=
  match plane with
  | .execution => do return (← onQueue (claimNextExecutionTask env.toEnvironment rootSpecId)).map .document
  | .planning => Planning.claimNextPlanningItem env rootSpecId
  | .learning =>
    if plan.learningGraph.isNone then return none
    else do return (← onQueue (claimNextLearningRequest env)).map .document

end Claims

def kindOf : PlanningClaim → WorkItemKind
  | .document claim => claim.workItemKind
  | .draft claim => claim.workItemKind

def itemIdOf : PlanningClaim → String
  | .document claim => claim.workItemId
  | .draft claim => claim.workItemId

/-! ## The session -/

structure ActivationSession where
  files : DraftWorld
  closure : ClosureSession

inductive ActivationError where
  | queue (error : QueueStoreError)
  | closure (error : ClosureError)
  | workDocument (path : DocumentPath) (source : WorkDocumentError)
  | contract (source : ContractError)
  | invalidState (message : String)

abbrev ActivationM (α : Type) := EStateM ActivationError ActivationSession α

def onFiles {α : Type} (x : DraftM α) : ActivationM α :=
  adapt .queue (onPart ActivationSession.files (fun s files => { s with files }) x)

def onClosure {α : Type} (x : ClosureM α) : ActivationM α :=
  adapt .closure (onPart ActivationSession.closure (fun s closure => { s with closure }) x)

/-! ## The entry of an item -/

section Entry
variable (plan : EntryPlan)

def missingLearningPlane : String := "compiled graph is missing learning plane"

def graphForKind (kind : WorkItemKind) : Except ActivationError FrozenGraphPlanePlan :=
  match plan.graph (entryPlane kind) with
  | none => .error (.invalidState missingLearningPlane)
  | some graph => .ok graph

/-- Each graph of a plan is of its own plane. -/
def stageOf (kind : WorkItemKind) (stageKindId : String) : Except ActivationError StageName :=
  (stageNameForPlane (entryPlane kind) stageKindId).mapError .contract

def activationFromEntry (kind : WorkItemKind) : Except ActivationError GraphActivationDecision :=
  match (plan.compiledEntries (entryPlane kind)).find? fun entry => entry.entryKey == entryKeyForWorkItem kind with
  | none => .error (.invalidState ("compiled graph is missing `" ++ (entryKeyForWorkItem kind).asStr ++
      "` activation entry"))
  | some entry => do
    let stage ← stageOf kind entry.stageKindId
    return ⟨stage, entry.nodeId, entry.stageKindId⟩

def workItemActivationForGraph (kind : WorkItemKind) : Except ActivationError GraphActivationDecision := do
  let _ ← graphForKind plan kind
  activationFromEntry plan kind

def activationFromNode (graph : FrozenGraphPlanePlan) (nodeId : String) : Except ActivationError GraphActivationDecision :=
  match graph.nodes.find? fun node => node.nodeId == nodeId with
  | none => .error (.invalidState ("compiled graph is missing `" ++ nodeId ++ "` node"))
  | some node => do
    let stage ← stageOf .learningRequest node.stageKindId
    return ⟨stage, node.nodeId, node.stageKindId⟩

def learningStageActivationForGraph (target : StageName) : Except ActivationError GraphActivationDecision := do
  let graph ← graphForKind plan .learningRequest
  match graph.nodes.find? fun node => (stageNameForPlane .learning node.stageKindId).toOption == some target with
  | none => .error (.invalidState ("compiled graph is missing learning stage kind `" ++ asStr target ++ "`"))
  | some node => activationFromNode graph node.nodeId

end Entry

def stageOfLearning : LearningStageName → StageName
  | .analyst => .analyst
  | .professor => .professor
  | .curator => .curator
  | .librarian => .librarian

/-! ## Activation -/

section Activate
variable (env : DraftEnvironment) (plan : EntryPlan) (met : Meeting)

/-- What closure is told of a claim: of a spec also its document. -/
def closureClaim (claim : PlanningClaim) (files : DraftWorld) : ClosureClaim where
  workItemKind := kindOf claim
  workItemId := itemIdOf claim
  spec :=
    match claim with
    | .document claim => (files.world.workspace.file claim.path).bind fun raw =>
        (parseSpecDocumentWithSource raw (absolute env.toEnvironment claim.path.relative)).toOption
    | .draft _ => none

def readLearningRequest (path : DocumentPath) : ActivationM LearningRequestDocument := do
  let raw ← onFiles (onQueue (readToString env.toEnvironment path))
  match parseLearningRequestDocumentWithSource raw (absolute env.toEnvironment path.relative) with
  | .error source => throw (.workDocument path source)
  | .ok document => return document

def activationForClaim (claim : PlanningClaim) : ActivationM GraphActivationDecision := do
  match claim with
  | .document claim =>
    if claim.workItemKind = .learningRequest then do
      let document ← readLearningRequest env claim.path
      match document.targetStage with
      | some target => ofExcept (learningStageActivationForGraph plan (stageOfLearning target))
      | none => ofExcept (workItemActivationForGraph plan claim.workItemKind)
    else ofExcept (workItemActivationForGraph plan claim.workItemKind)
  | .draft claim => ofExcept (workItemActivationForGraph plan claim.workItemKind)

def activateClaim (claim : PlanningClaim) : ActivationM Unit := do
  let given := closureClaim env claim (← get).files
  let _ ← onClosure (Closure.maybeCreateClosureTargetForClaim met given)
  let activation ← activationForClaim env plan claim
  onClosure (Closure.startRun met (Closure.claimRun met activation given))

def activateNextClaimForPlane (plane : Plane) : ActivationM Bool := do
  if ((← get).closure.snapshot.activeRunsByPlane plane).isSome then return false
  else do
    let target ← onClosure (Closure.activeClosureTarget met)
    let closureRoot := if plane = .learning then none else target.map (·.rootSpecId)
    match ← onFiles (claimForPlane env plan plane closureRoot) with
    | none => return false
    | some claim => do
      activateClaim env plan met claim
      return true

end Activate

end

end Millrace.Activation

import Mathlib.Data.List.Sort
import Mathlib.Data.List.ReduceOption
import Millrace.Action
import Millrace.Runners.Outcomes

/-! The outcome tables of stage kinds and compiled nodes, and the stage requests that are built from them. -/

set_option autoImplicit false

namespace Millrace.Runners
open Millrace.Text Millrace.Contracts Millrace.Action

/-! ## Stage kinds -/

inductive CompilerContractError where
  | invalidField (fieldName message : String)
  | invalidDocument (message : String)
  deriving DecidableEq, Repr

def toAsciiUpper (c : Char) : Char := if isAsciiLower c then Char.ofNat (c.toNat - 32) else c

def isStatus : List Char → Bool
  | [] => false
  | first :: rest => isAsciiUpper first && rest.all fun c => isAsciiUpper c || isAsciiDigit c || c == '_'

def normalizeStatus (fieldName value : String) : Except CompilerContractError String :=
  let normalized := (trim value.toList).map toAsciiUpper
  if isStatus normalized then .ok (String.ofList normalized)
  else .error (.invalidField fieldName "must use uppercase status tokens")

def normalizeStatusValues (fieldName : String) (requireValues : Bool) (values : List String) :
    Except CompilerContractError (List String) := do
  let normalized ← values.mapM (normalizeStatus fieldName)
  if requireValues && normalized.isEmpty then throw (.invalidField fieldName "must not be empty")
  return normalized.eraseDups

/-- A map from outcomes to result classes, as its entries. -/
abbrev ResultClassTable := List (String × List ResultClass)

def normalizeEntry (entry : String × List ResultClass) : Except CompilerContractError (String × List ResultClass) := do
  let outcome ← normalizeStatus "allowed_result_classes_by_outcome" entry.1
  return (outcome, entry.2.eraseDups)

def normalizeAllowedResultClasses (mapping : ResultClassTable) : Except CompilerContractError ResultClassTable :=
  if mapping.isEmpty then .error (.invalidField "allowed_result_classes_by_outcome" "must not be empty")
  else do
    let normalized ← mapping.mapM normalizeEntry
    if (normalized.map (·.1)).Nodup then return normalized
    else throw (.invalidDocument "allowed_result_classes_by_outcome may not declare duplicate normalized outcomes")

/-- The fields of a stage kind that its outcomes depend on. -/
structure RegisteredStageKindDefinition where
  stageKindId : String
  plane : Plane
  legalOutcomes : List String
  successOutcomes : List String
  failureOutcomes : List String
  allowedResultClassesByOutcome : ResultClassTable
  deriving DecidableEq, Repr

def validateOutcomeClasses (entry : String × List ResultClass) : Except CompilerContractError Unit :=
  if entry.2.isEmpty then
    .error (.invalidDocument "allowed_result_classes_by_outcome entries must declare at least one result class")
  else if entry.1 = "BLOCKED" then
    if entry.2.all fun resultClass => resultClass = .blocked ∨ resultClass = .recoverableFailure then .ok ()
    else .error (.invalidDocument "BLOCKED outcome may only allow blocked or recoverable_failure result classes")
  else if entry.2.length ≠ 1 then
    .error (.invalidDocument "non-BLOCKED outcomes must map to exactly one allowed result class")
  else .ok ()

def classesOf (table : ResultClassTable) (outcome : String) : List ResultClass := (table.lookup outcome).getD []

def RegisteredStageKindDefinition.validateOutcomeSets (k : RegisteredStageKindDefinition) :
    Except CompilerContractError Unit := do
  k.successOutcomes.forM fun outcome =>
    if outcome ∈ k.legalOutcomes then .ok ()
    else .error (.invalidDocument "success_outcomes must be a subset of legal_outcomes")
  k.failureOutcomes.forM fun outcome =>
    if outcome ∈ k.legalOutcomes then .ok ()
    else .error (.invalidDocument "failure_outcomes must be a subset of legal_outcomes")
  let keys := k.allowedResultClassesByOutcome.map (·.1)
  if keys.all (· ∈ k.legalOutcomes) && k.legalOutcomes.all (· ∈ keys) then pure ()
  else throw (.invalidDocument "allowed_result_classes_by_outcome must define one entry for every legal outcome")
  k.allowedResultClassesByOutcome.forM validateOutcomeClasses
  k.successOutcomes.forM fun outcome =>
    if .success ∈ classesOf k.allowedResultClassesByOutcome outcome then .ok ()
    else .error (.invalidDocument "success outcomes must allow result class success")
  k.failureOutcomes.forM fun outcome =>
    if .success ∈ classesOf k.allowedResultClassesByOutcome outcome then
      .error (.invalidDocument "failure outcomes may not allow result class success")
    else .ok ()

def validateStagePlane (k : RegisteredStageKindDefinition) : Except CompilerContractError Unit :=
  match stageNameForValue k.stageKindId with
  | .ok stage =>
    if stagePlane stage = k.plane then .ok ()
    else .error (.invalidDocument "stage_kind_id stage must belong to stage-kind plane")
  | .error _ => .ok ()

def RegisteredStageKindDefinition.validate (k : RegisteredStageKindDefinition) :
    Except CompilerContractError RegisteredStageKindDefinition := do
  validateStagePlane k
  let legalOutcomes ← normalizeStatusValues "legal_outcomes" true k.legalOutcomes
  let successOutcomes ← normalizeStatusValues "success_outcomes" false k.successOutcomes
  let failureOutcomes ← normalizeStatusValues "failure_outcomes" false k.failureOutcomes
  let allowed ← normalizeAllowedResultClasses k.allowedResultClassesByOutcome
  let normalized := { k with
    legalOutcomes := legalOutcomes
    successOutcomes := successOutcomes
    failureOutcomes := failureOutcomes
    allowedResultClassesByOutcome := allowed }
  normalized.validateOutcomeSets
  return normalized

/-! ## Compiled nodes -/

structure MaterializedGraphNodePlan where
  nodeId : String
  stageKindId : String
  plane : Plane
  allowedResultClassesByOutcome : ResultClassTable
  deriving DecidableEq, Repr

/-- The compiled node of a stage kind that is valid. -/
def materializeNodePlan (nodeId : String) (k : RegisteredStageKindDefinition) :
    Except CompilerContractError MaterializedGraphNodePlan := do
  let allowed ← normalizeAllowedResultClasses k.allowedResultClassesByOutcome
  return ⟨nodeId, k.stageKindId, k.plane, allowed⟩

/-! ## Requests -/

/-- The entries in order, one for each outcome. -/
abbrev AllowedResultClassesByOutcome := List (String × List ResultClass)

def forStage (stage : StageName) : AllowedResultClassesByOutcome :=
  (allowedResultClassesByOutcome stage).map fun entry => (entry.1.asStr, entry.2)

def markersOf (entries : AllowedResultClassesByOutcome) : List String := entries.map fun entry => "### " ++ entry.1

/-- The stage's own outcomes with the classes of the compiled node, or the stage's where the node leaves one out. -/
def policyForStagePlan (stage : StageName) (plan : MaterializedGraphNodePlan) : AllowedResultClassesByOutcome :=
  let defaultPolicy := forStage stage
  if plan.allowedResultClassesByOutcome.isEmpty then defaultPolicy
  else
    let outcomes := (legalTerminalMarkers stage).filterMap stripMarker
    let entries := outcomes.filterMap fun outcome =>
      ((plan.allowedResultClassesByOutcome.lookup outcome).or (defaultPolicy.lookup outcome)).map (outcome, ·)
    let leftover := (plan.allowedResultClassesByOutcome.filter (·.1 ∉ outcomes)).insertionSort
      fun left right => left.1 ≤ right.1
    entries ++ leftover

inductive RequestKind where
  | activeWorkItem | closureTarget | learningRequest
  deriving DecidableEq, Repr

structure StageRunRequest where
  requestId : String
  runId : String
  plane : Plane
  stage : StageName
  requestKind : RequestKind
  nodeId : String
  stageKindId : String
  legalTerminalMarkers : List String
  allowedResultClassesByOutcome : AllowedResultClassesByOutcome
  activeWorkItemKind : Option WorkItemKind
  activeWorkItemId : Option String
  activeWorkItemPath : Option String
  closureTargetPath : Option String
  closureTargetRootSpecId : Option String
  closureTargetRootIdeaId : Option String
  canonicalRootSpecPath : Option String
  canonicalSeedIdeaPath : Option String
  preferredRubricPath : Option String
  preferredVerdictPath : Option String
  preferredReportPath : Option String
  runDir : String
  preferredTroubleshootReportPath : Option String
  contextBundlePath : Option String
  renderedPromptContextPath : Option String
  deriving DecidableEq, Repr

inductive StageRunRequestError where
  | invalidField (fieldName message : String)
  | invalidDocument (message : String)
  | unknownTerminalResult (plane : Plane) (value : String)
  deriving DecidableEq, Repr

def isBlankText (value : String) : Bool := trim value.toList = []

def requireNonBlank (fieldName value : String) : Except StageRunRequestError Unit :=
  if isBlankText value then .error (.invalidField fieldName "is required") else .ok ()

def validateEntries (plane : Plane) : List String → AllowedResultClassesByOutcome → Except StageRunRequestError Unit
  | _, [] => .ok ()
  | seen, (outcome, resultClasses) :: rest => do
    requireNonBlank "allowed_result_classes_by_outcome" outcome
    if outcome ∈ seen then
      throw (.invalidDocument ("allowed_result_classes_by_outcome contains duplicate outcome " ++ outcome))
    if (terminalResultForPlane plane outcome).isNone then throw (.unknownTerminalResult plane outcome)
    if resultClasses.isEmpty then
      throw (.invalidDocument ("allowed_result_classes_by_outcome." ++ outcome ++ " must not be empty"))
    validateEntries plane (outcome :: seen) rest

/-- The entries in the order of the markers, if the markers name each entry once. -/
def reorderToLegalMarkers : List String → AllowedResultClassesByOutcome → Option AllowedResultClassesByOutcome
  | [], remaining => if remaining.isEmpty then some [] else none
  | legalMarker :: rest, remaining => do
    let outcome ← stripMarker legalMarker
    let entry ← remaining.find? (·.1 = outcome)
    let reordered ← reorderToLegalMarkers rest (remaining.eraseP (·.1 = outcome))
    return entry :: reordered

def matchMarkers (legalMarkers : List String) (entries : AllowedResultClassesByOutcome) :
    Except StageRunRequestError AllowedResultClassesByOutcome :=
  if legalMarkers = markersOf entries then .ok entries
  else
    match reorderToLegalMarkers legalMarkers entries with
    | some reordered => .ok reordered
    | none =>
      .error (.invalidDocument "legal_terminal_markers must match allowed_result_classes_by_outcome keys")

def allowedWorkItemKinds : StageName → List WorkItemKind
  | .builder | .integrator | .checker | .fixer | .doublechecker | .updater | .troubleshooter | .consultant => [.task]
  | .recon => [.probe]
  | .planner | .manager | .managerBlueprint | .mechanic => [.spec, .incident]
  | .contractorBlueprint | .evaluatorBlueprint => [.blueprintDraft]
  | .mechanicBlueprint => [.spec, .incident, .blueprintDraft]
  | .auditor => [.incident]
  | .arbiter => []
  | .analyst | .professor | .curator | .librarian => [.learningRequest]

def formatStageWorkItemMismatch (stage : StageName) (kind : WorkItemKind) : String :=
  let expected := String.intercalate ", " ((allowedWorkItemKinds stage).map asStr)
  if expected = "" then
    "stage " ++ asStr stage ++ " does not allow active work items; got " ++ asStr kind
  else
    "stage " ++ asStr stage ++ " does not allow active_work_item_kind " ++ asStr kind ++ "; expected one of: " ++
      expected

namespace StageRunRequest

def closureFields (r : StageRunRequest) : List (Option String) :=
  [r.closureTargetPath, r.closureTargetRootSpecId, r.closureTargetRootIdeaId, r.canonicalRootSpecPath,
    r.canonicalSeedIdeaPath, r.preferredRubricPath, r.preferredVerdictPath, r.preferredReportPath]

def hasAnyClosureField (r : StageRunRequest) : Bool := r.closureFields.any Option.isSome
def hasAllClosureFields (r : StageRunRequest) : Bool := r.closureFields.all Option.isSome

def validateWorkItem (r : StageRunRequest) : Except StageRunRequestError Unit :=
  match r.activeWorkItemKind with
  | none => .error (.invalidDocument "active_work_item requests require active work item fields")
  | some kind =>
    if r.activeWorkItemPath.isNone then
      .error (.invalidDocument "active_work_item requests require active work item fields")
    else if kind = .learningRequest then
      .error (.invalidDocument "learning_request work items must use request_kind=learning_request")
    else if kind ∉ allowedWorkItemKinds r.stage then
      .error (.invalidDocument (formatStageWorkItemMismatch r.stage kind))
    else if r.hasAnyClosureField then
      .error (.invalidDocument "active_work_item requests cannot declare closure target fields")
    else .ok ()

def validateClosureTarget (r : StageRunRequest) : Except StageRunRequestError Unit :=
  if r.activeWorkItemKind.isSome ∨ r.activeWorkItemPath.isSome then
    .error (.invalidDocument "closure_target requests cannot declare active work item fields")
  else if r.hasAllClosureFields then .ok ()
  else .error (.invalidDocument "closure_target requests require closure target fields")

def validateLearningRequest (r : StageRunRequest) : Except StageRunRequestError Unit :=
  if r.plane ≠ .learning then
    .error (.invalidDocument "learning_request requests must run on the learning plane")
  else if r.activeWorkItemKind ≠ some .learningRequest then
    .error (.invalidDocument "learning_request requests require learning_request work item kind")
  else if r.activeWorkItemPath.isNone then
    .error (.invalidDocument "learning_request requests require active_work_item_path")
  else if r.hasAnyClosureField then
    .error (.invalidDocument "learning_request requests cannot declare closure target fields")
  else if .learningRequest ∉ allowedWorkItemKinds r.stage then
    .error (.invalidDocument (formatStageWorkItemMismatch r.stage .learningRequest))
  else .ok ()

def validateKind (r : StageRunRequest) : Except StageRunRequestError Unit :=
  if r.activeWorkItemKind.isSome ≠ r.activeWorkItemId.isSome then
    .error (.invalidDocument "active_work_item_kind and active_work_item_id must be set together")
  else
    match r.requestKind with
    | .activeWorkItem => r.validateWorkItem
    | .closureTarget => r.validateClosureTarget
    | .learningRequest => r.validateLearningRequest

/-- The request with its defaults filled in. -/
def withDefaults (r : StageRunRequest) : StageRunRequest :=
  { r with
    nodeId := if r.nodeId = "" then asStr r.stage else r.nodeId
    stageKindId := if r.stageKindId = "" then asStr r.stage else r.stageKindId
    allowedResultClassesByOutcome :=
      if r.allowedResultClassesByOutcome.isEmpty then forStage r.stage else r.allowedResultClassesByOutcome
    legalTerminalMarkers :=
      if r.legalTerminalMarkers.isEmpty then Runners.legalTerminalMarkers r.stage else r.legalTerminalMarkers }

def validate (r : StageRunRequest) : Except StageRunRequestError StageRunRequest := do
  requireNonBlank "request_id" r.requestId
  requireNonBlank "run_id" r.runId
  requireNonBlank "run_dir" r.runDir
  if stagePlane r.stage ≠ r.plane then throw (.invalidDocument "stage must belong to plane")
  let filled := r.withDefaults
  requireNonBlank "node_id" filled.nodeId
  requireNonBlank "stage_kind_id" filled.stageKindId
  validateEntries r.plane [] filled.allowedResultClassesByOutcome
  let entries ← matchMarkers filled.legalTerminalMarkers filled.allowedResultClassesByOutcome
  filled.validateKind
  return { filled with allowedResultClassesByOutcome := entries }

end StageRunRequest

/-- A request that the runtime builds for a compiled node: the markers are left to the defaults. -/
def BuiltFor (plan : MaterializedGraphNodePlan) (r : StageRunRequest) : Prop :=
  stageNameForPlane plan.plane plan.stageKindId = .ok r.stage ∧ r.plane = plan.plane ∧ r.nodeId = plan.nodeId ∧
    r.stageKindId = plan.stageKindId ∧ r.legalTerminalMarkers = [] ∧
    r.allowedResultClassesByOutcome = policyForStagePlan r.stage plan

end Millrace.Runners

import Millrace.Closure.Lineage

/-! Lineage repair: the scan of a workspace for drift, the plan of changes and its application file by file. -/

set_option autoImplicit false

namespace Millrace.Closure.Repair
open Millrace.Text Millrace.Contracts Millrace.WorkDocuments Millrace.Action
open Millrace.Queue (ItemState Directory DocumentPath Workspace World StoreM QueueStoreError Environment absolute)

section
variable [Rfc3339]

/-! ## Findings and plans -/

/-- What repair reads of the closure target; both ids were checked when the target was loaded. -/
structure RepairTarget where
  rootSpecId : { id : String // SafeIdentifier id }
  rootIdeaId : String

/-- One work document attached to the wrong root spec for an open closure target. -/
structure LineageDriftFinding where
  workItemKind : WorkItemKind
  workItemId : String
  state : ItemState
  path : String
  expectedRootSpecId : String
  actualRootSpecId : Option String
  rootIdeaId : Option String
  specId : Option String
  diagnosticReason : LineageDiagnosticReason
  deriving DecidableEq, Repr

/-- One field-level lineage repair that can be previewed or applied. -/
structure LineageRepairChange where
  workItemKind : WorkItemKind
  workItemId : String
  state : ItemState
  path : String
  fieldName : String
  oldValue : Option String
  newValue : String
  deriving DecidableEq, Repr

structure LineageRepairPlan where
  rootSpecId : String
  rootIdeaId : String
  changes : List LineageRepairChange
  skippedFindings : List LineageDriftFinding
  deriving DecidableEq, Repr

inductive LineageRepairError where
  | io (path message : String)
  | workDocument (path : String) (source : WorkDocumentError)
  deriving DecidableEq, Repr

/-- What it wrote before it failed stays written. -/
abbrev RepairM (α : Type) := EStateM LineageRepairError World α

def ofFile : QueueStoreError → LineageRepairError
  | .io path message => .io path message
  | .workDocument path source => .workDocument path source
  | .invalidState message => .io "" message

/-- An operation on the files, with the errors of repair. -/
def onFiles {α : Type} (x : StoreM α) : RepairM α := adapt ofFile x

def workspaceRelativePath (path : DocumentPath) : String :=
  String.ofList (path.relative.toList.map fun c => if c = '\\' then '/' else c)

/-! ## The scan -/

def lineageSurfaces : List Directory := [
  ⟨.task, .queue, none⟩, ⟨.task, .active, none⟩, ⟨.task, .blocked, none⟩,
  ⟨.spec, .queue, none⟩, ⟨.spec, .active, none⟩, ⟨.spec, .blocked, none⟩,
  ⟨.incident, .queue, none⟩, ⟨.incident, .active, none⟩, ⟨.incident, .blocked, none⟩]

/-- The document of a surface; one that does not parse is passed over. -/
def surfaceDocument (kind : WorkItemKind) (raw sourceName : String) : Option SurfaceDocument :=
  match kind with
  | .task => (parseTaskDocumentWithSource raw sourceName).toOption.map .task
  | .spec => (parseSpecDocumentWithSource raw sourceName).toOption.map .spec
  | .incident => (parseIncidentDocumentWithSource raw sourceName).toOption.map .incident
  | _ => none

/-- The finding of a document under another root than the target's. -/
def driftFinding (target : RepairTarget) (path : DocumentPath) (document : SurfaceDocument) : Option LineageDriftFinding :=
  if document.effectiveRootSpecId = some target.rootSpecId.val then none
  else (driftReason document target.rootSpecId.val target.rootIdeaId).map fun reason => {
    workItemKind := path.directory.kind
    workItemId := document.itemId
    state := path.directory.state
    path := workspaceRelativePath path
    expectedRootSpecId := target.rootSpecId.val
    actualRootSpecId := document.effectiveRootSpecId
    rootIdeaId := document.rootIdeaId
    specId := document.documentSpecId
    diagnosticReason := reason }

section Steps
variable (env : Environment)

def scanFile (target : RepairTarget) (path : DocumentPath) : RepairM (Option LineageDriftFinding) := do
  match ← onFiles (Queue.readIfPresent env path) with
  | none => return none
  | some raw =>
    return (surfaceDocument path.directory.kind raw (absolute env path.relative)).bind (driftFinding target path)

def scanFiles (target : RepairTarget) : List DocumentPath → RepairM (List LineageDriftFinding)
  | [] => return []
  | path :: rest => do
    let finding ← scanFile env target path
    let findings ← scanFiles target rest
    return finding.toList ++ findings

def scanSurfaces (target : RepairTarget) : List Directory → RepairM (List LineageDriftFinding)
  | [] => return []
  | surface :: rest => do
    let paths ← onFiles (Queue.listMarkdownFiles env surface)
    let findings ← scanFiles env target paths
    let later ← scanSurfaces target rest
    return findings ++ later

def LineageDriftFinding.before (a b : LineageDriftFinding) : Bool :=
  decide (a.path < b.path) || (a.path == b.path && decide (a.workItemId ≤ b.workItemId))

/-- Find queued, active and blocked work tied to a target but attached to the wrong root. -/
def scanClosureLineageDrift (target : RepairTarget) : RepairM (List LineageDriftFinding) := do
  let findings ← scanSurfaces env target lineageSurfaces
  return findings.mergeSort LineageDriftFinding.before

end Steps

/-! ## The plan -/

def LineageDriftFinding.change (finding : LineageDriftFinding) (fieldName : String) (oldValue : Option String)
    (target : RepairTarget) : LineageRepairChange where
  workItemKind := finding.workItemKind
  workItemId := finding.workItemId
  state := finding.state
  path := finding.path
  fieldName
  oldValue
  newValue := target.rootSpecId.val

def taskRepairChanges (finding : LineageDriftFinding) (target : RepairTarget) : List LineageRepairChange :=
  let aliases := knownRootSpecAliases target.rootSpecId.val
  finding.change "root_spec_id" finding.actualRootSpecId target ::
    if finding.specId.any fun specId => finding.actualRootSpecId == some specId || aliases.contains specId then
      [finding.change "spec_id" finding.specId target]
    else []

def incidentRepairChanges (finding : LineageDriftFinding) (target : RepairTarget) : List LineageRepairChange :=
  [finding.change "root_spec_id" finding.actualRootSpecId target]

/-- The changes to a document that is queued or blocked; nothing for a finding that is skipped. -/
def repairChanges (target : RepairTarget) (finding : LineageDriftFinding) : Option (List LineageRepairChange) :=
  if finding.state = .queue ∨ finding.state = .blocked then
    match finding.workItemKind with
    | .task => some (taskRepairChanges finding target)
    | .incident => some (incidentRepairChanges finding target)
    | _ => none
  else none

/-- A preview of the changes to queued and blocked documents. -/
def planOf (target : RepairTarget) (findings : List LineageDriftFinding) : LineageRepairPlan where
  rootSpecId := target.rootSpecId.val
  rootIdeaId := target.rootIdeaId
  changes := findings.flatMap fun finding => (repairChanges target finding).getD []
  skippedFindings := findings.filter fun finding => (repairChanges target finding).isNone

def buildLineageRepairPlan (env : Environment) (target : RepairTarget) : RepairM LineageRepairPlan := do
  let findings ← scanClosureLineageDrift env target
  return planOf target findings

/-! ## The application -/

def TaskDocument.repaired (d : TaskDocument) (changes : List LineageRepairChange) : TaskDocument :=
  changes.foldl (fun d change =>
    match change.fieldName with
    | "root_spec_id" => { d with rootSpecId := some change.newValue }
    | "spec_id" => { d with specId := some change.newValue }
    | _ => d) d

def IncidentDocument.repaired (d : IncidentDocument) (changes : List LineageRepairChange) : IncidentDocument :=
  changes.foldl (fun d change =>
    if change.fieldName = "root_spec_id" then { d with rootSpecId := some change.newValue } else d) d

section Apply
variable (env : Environment)

/-- The document that a relative path names. -/
def documentAt (w : Workspace) (relative : String) : Option DocumentPath :=
  (lineageSurfaces.flatMap w.markdownFiles).find? fun path => path.relative = relative

/-- The file of a change, as it is read and as it is parsed. -/
def readNamed {α : Type} (parse : String → String → Except WorkDocumentError α) (relative : String) :
    RepairM (DocumentPath × α) := do
  onFiles (Queue.fileOperation env relative)
  let w ← onFiles Queue.currentWorkspace
  match (documentAt w relative).bind fun path => (w.file path).map fun raw => (path, raw) with
  | none => throw (.io (absolute env relative) "No such file or directory (os error 2)")
  | some (path, raw) =>
    match parse raw (absolute env relative) with
    | .error source => throw (.workDocument (absolute env relative) source)
    | .ok document => return (path, document)

/-- All changes of one file, which is written once. -/
def repairFile (relative : String) (changes : List LineageRepairChange) : RepairM Nat := do
  match changes.head?.map LineageRepairChange.workItemKind with
  | some .task =>
    let (path, document) ← readNamed env parseTaskDocumentWithSource relative
    onFiles (Queue.writeDocument env path (renderTaskDocument (TaskDocument.repaired document changes)))
    return 1
  | some .incident =>
    let (path, document) ← readNamed env parseIncidentDocumentWithSource relative
    onFiles (Queue.writeDocument env path (renderIncidentDocument (IncidentDocument.repaired document changes)))
    return 1
  | _ => return 0

def repairFiles (changes : List LineageRepairChange) : List String → RepairM Nat
  | [] => return 0
  | relative :: rest => do
    let first ← repairFile env relative (changes.filter fun change => change.path = relative)
    let later ← repairFiles changes rest
    return first + later

/-- Apply a safe queued and blocked lineage repair plan, in the order of the paths. -/
def applyLineageRepairPlan (plan : LineageRepairPlan) : RepairM Nat :=
  repairFiles env plan.changes (sortedUnique (plan.changes.map (·.path)))

end Apply

end

end Millrace.Closure.Repair

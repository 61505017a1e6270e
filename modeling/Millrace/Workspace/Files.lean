import Mathlib
import Millrace.Action
import Millrace.WorkDocuments.Documents

/-! The queue directories of a workspace, and the file operations that the queue store performs on them. -/

set_option autoImplicit false

namespace Millrace.Queue
open Millrace.Text Millrace.Contracts Millrace.WorkDocuments Millrace.Action

/-- The lifecycle directories every markdown family has. -/
inductive ItemState where
  | queue | active | done | blocked
  deriving DecidableEq, Repr

def ItemState.name : WorkItemKind → ItemState → String
  | .incident, .queue => "incoming"
  | .incident, .done => "resolved"
  | _, .queue => "queue"
  | _, .active => "active"
  | _, .done => "done"
  | _, .blocked => "blocked"

def familyDirectory : WorkItemKind → String
  | .task => "tasks"
  | .probe => "probes"
  | .spec => "specs"
  | .incident => "incidents"
  | .learningRequest => "learning/requests"
  | .blueprintDraft => "blueprints/drafts"

/-- A lifecycle directory of a family, or an archive directory inside one. -/
structure Directory where
  kind : WorkItemKind
  state : ItemState
  archive : Option String
  deriving DecidableEq, Repr

/-- The path from the workspace root. -/
def Directory.relative (d : Directory) : String :=
  "millrace-agents/" ++ familyDirectory d.kind ++ "/" ++ d.state.name d.kind ++
    match d.archive with
    | none => ""
    | some name => "/" ++ name

/-- A markdown document of a directory. -/
structure DocumentPath where
  directory : Directory
  stem : String
  deriving DecidableEq, Repr

def DocumentPath.relative (path : DocumentPath) : String := path.directory.relative ++ "/" ++ path.stem ++ ".md"

def taskPath (state : ItemState) (taskId : String) : DocumentPath := ⟨⟨.task, state, none⟩, taskId⟩

@[simp] theorem taskPath_inj {state state' : ItemState} {taskId taskId' : String} :
    taskPath state taskId = taskPath state' taskId' ↔ state = state' ∧ taskId = taskId' := by
  simp [taskPath]

/-- The markdown files of one directory: their stems and contents. -/
abbrev Documents := Std.ExtTreeMap String String compare

section Records
variable [Rfc3339]

inductive OperatorInterventionAction where
  | cancel | archiveBlockedTask | supersede | retargetDependency | resolveIncident | cancelIncident
  | archiveInvalidIncident
  deriving DecidableEq, Repr

def OperatorInterventionAction.asStr : OperatorInterventionAction → String
  | .cancel => "cancel"
  | .archiveBlockedTask => "archive_blocked_task"
  | .supersede => "supersede"
  | .retargetDependency => "retarget_dependency"
  | .resolveIncident => "resolve_incident"
  | .cancelIncident => "cancel_incident"
  | .archiveInvalidIncident => "archive_invalid_incident"

structure OperatorInterventionRecord where
  schemaVersion : String
  kind : String
  action : String
  actor : String
  reason : String
  issuedAt : Timestamp
  appliedAt : Timestamp
  workItemKind : WorkItemKind
  workItemId : String
  sourceState : String
  destinationState : String
  sourcePath : String
  destinationPath : String
  replacementWorkItemId : Option String
  affectedDependents : List String
  deriving DecidableEq

/-- The lines that the queue store appends to its logs. -/
inductive LogLine where
  | requeue (recordedAt : Timestamp) (kind : WorkItemKind) (reason : String)
  | blockedRequeue (recordedAt : Timestamp) (actor : String) (auto : Bool) (reason : String)
    (failureClass : Option String) (attemptNumber : Option Nat)
  | invalidArtifact (recordedAt : Timestamp) (error quarantineName sourceName : String)
  | intervention (record : OperatorInterventionRecord)
  | runtimeEvent (eventType : String) (record : OperatorInterventionRecord)
  | retirement (archivePath : String) (archivedAt : Timestamp) (rootSpecId sourcePath taskId : String)
  deriving DecidableEq

/-- A file renamed out of the way: `<stem>.md.invalid`, and from the second one on with its number. -/
structure Quarantined where
  path : DocumentPath
  index : Nat
  raw : String
  deriving DecidableEq

def Quarantined.name (stem : String) : Nat → String
  | 0 => stem ++ ".md.invalid"
  | index => stem ++ ".md.invalid." ++ toString index

structure Workspace where
  files : Directory → Documents
  quarantined : List Quarantined
  log : List (String × LogLine)

namespace Workspace

def empty : Workspace := ⟨fun _ => ∅, [], []⟩

def file (w : Workspace) (path : DocumentPath) : Option String := (w.files path.directory)[path.stem]?

def insert (w : Workspace) (path : DocumentPath) (raw : String) : Workspace :=
  { w with files := fun d =>
      if d = path.directory then (w.files path.directory).insert path.stem raw else w.files d }

def erase (w : Workspace) (path : DocumentPath) : Workspace :=
  { w with files := fun d => if d = path.directory then (w.files path.directory).erase path.stem else w.files d }

@[simp] theorem file_empty (path : DocumentPath) : empty.file path = none := by
  simp [file, empty]

theorem file_insert (w : Workspace) (path path' : DocumentPath) (raw : String) :
    (w.insert path raw).file path' = if path' = path then some raw else w.file path' := by
  obtain ⟨d, stem⟩ := path
  obtain ⟨d', stem'⟩ := path'
  by_cases same : d' = d
  · subst same
    simp [file, insert, Std.ExtTreeMap.getElem?_insert, eq_comm (a := stem')]
  · simp [file, insert, same]

theorem file_erase (w : Workspace) (path path' : DocumentPath) :
    (w.erase path).file path' = if path' = path then none else w.file path' := by
  obtain ⟨d, stem⟩ := path
  obtain ⟨d', stem'⟩ := path'
  by_cases same : d' = d
  · subst same
    simp [file, erase, Std.ExtTreeMap.getElem?_erase, eq_comm (a := stem')]
  · simp [file, erase, same]

theorem file_insert_task (w : Workspace) (state state' : ItemState) (taskId taskId' raw : String) :
    (w.insert (taskPath state taskId) raw).file (taskPath state' taskId') =
      if state' = state ∧ taskId' = taskId then some raw else w.file (taskPath state' taskId') := by
  simp [file_insert]

theorem file_erase_task (w : Workspace) (state state' : ItemState) (taskId taskId' : String) :
    (w.erase (taskPath state taskId)).file (taskPath state' taskId') =
      if state' = state ∧ taskId' = taskId then none else w.file (taskPath state' taskId') := by
  simp [file_erase]

/-- The documents of a directory in the order of their file names. -/
def markdownFiles (w : Workspace) (d : Directory) : List DocumentPath :=
  ((w.files d).keys.mergeSort fun a b => decide (a ++ ".md" ≤ b ++ ".md")).map (⟨d, ·⟩)

theorem mem_markdownFiles (w : Workspace) (d : Directory) (path : DocumentPath) :
    path ∈ w.markdownFiles d ↔ path.directory = d ∧ (w.file path).isSome := by
  obtain ⟨d', stem⟩ := path
  simp only [markdownFiles, List.mem_map, List.mem_mergeSort, Std.ExtTreeMap.mem_keys, DocumentPath.mk.injEq,
    file, Std.ExtTreeMap.isSome_getElem?_eq_contains, Std.ExtTreeMap.contains_iff_mem]
  grind

theorem nodup_markdownFiles (w : Workspace) (d : Directory) : (w.markdownFiles d).Nodup := by
  have distinct : (w.files d).keys.Nodup :=
    Std.ExtTreeMap.distinct_keys.imp fun different => by simpa using different
  exact ((List.mergeSort_perm _ _).nodup_iff.mpr distinct).map fun a b same => by simpa using same

end Workspace

/-! ## Primitive operations -/

/-- What the world outside answers to one operation: the clock, a suffix, and a failure where it fails. -/
structure Reading where
  now : Timestamp
  suffix : Nat
  fault : Option String

/-- A workspace root and the answers to the operations, in their order. -/
structure Environment where
  root : String
  reading : Nat → Reading

structure World where
  workspace : Workspace
  step : Nat

inductive QueueStoreError where
  | io (path message : String)
  | workDocument (path : String) (source : WorkDocumentError)
  | invalidState (message : String)
  deriving DecidableEq, Repr

/-- A queue-store operation; what it wrote before it failed stays written. -/
abbrev StoreM (α : Type) := EStateM QueueStoreError World α

section Primitives
variable (env : Environment)

def absolute (relative : String) : String := env.root ++ "/" ++ relative

def reading : StoreM Reading := do
  let world ← get
  set { world with step := world.step + 1 }
  return env.reading world.step

def currentTimestamp : StoreM Timestamp := return (← reading env).now

/-- A file operation on the given path may fail; it then had no effect. -/
def fileOperation (relative : String) : StoreM Unit := do
  match (← reading env).fault with
  | some message => throw (.io (absolute env relative) message)
  | none => return ()

def refuseIf (condition : Prop) [Decidable condition] (error : QueueStoreError) : StoreM Unit :=
  if condition then throw error else return ()

/-- The part of the world that a file operation reads. -/
def currentWorkspace : StoreM Workspace := return (← get).workspace

def modifyWorkspace (f : Workspace → Workspace) : StoreM Unit :=
  modify fun world => { world with workspace := f world.workspace }

def isFile (path : DocumentPath) : StoreM Bool := return ((← currentWorkspace).file path).isSome

def listMarkdownFiles (d : Directory) : StoreM (List DocumentPath) := do
  fileOperation env d.relative
  return (← currentWorkspace).markdownFiles d

/-- The content of a file, or nothing where the file is not there. -/
def readIfPresent (path : DocumentPath) : StoreM (Option String) := do
  fileOperation env path.relative
  return (← currentWorkspace).file path

def notFound (path : DocumentPath) : QueueStoreError :=
  .io (absolute env path.relative) "No such file or directory (os error 2)"

def readToString (path : DocumentPath) : StoreM String := do
  match ← readIfPresent env path with
  | some raw => return raw
  | none => throw (notFound env path)

/-- The content of a file where it can be read. -/
def readOrSkip (path : DocumentPath) : StoreM (Option String) := do
  match (← reading env).fault with
  | some _ => return none
  | none => return (← currentWorkspace).file path

def createDirAll (d : Directory) : StoreM Unit := fileOperation env d.relative

def rename (source destination : DocumentPath) : StoreM Unit := do
  fileOperation env source.relative
  match (← currentWorkspace).file source with
  | none => throw (notFound env source)
  | some raw => modifyWorkspace fun w => (w.erase source).insert destination raw

def writeDocument (destination : DocumentPath) (raw : String) : StoreM Unit := do
  createDirAll env destination.directory
  fileOperation env destination.relative
  modifyWorkspace fun w => w.insert destination raw

def appendLine (relative : String) (line : LogLine) : StoreM Unit := do
  fileOperation env relative
  modifyWorkspace fun w => { w with log := w.log ++ [(relative, line)] }

end Primitives
end Records

end Millrace.Queue

import Millrace.Workspace.Files

/-! The operations of the queue store on tasks. -/

set_option autoImplicit false

namespace Millrace.Queue
open Millrace.Text Millrace.Contracts Millrace.WorkDocuments

/-! ## Names of archived files -/

def padded (width : Nat) (digits : List Char) : String :=
  String.ofList (List.replicate (width - digits.length) '0' ++ digits)

def decimal (width n : Nat) : String := padded width (Nat.toDigits 10 n)

def hexadecimal (width n : Nat) : String := padded width (Nat.toDigits 16 n)

def compactTimestamp (value : OffsetDateTime) : String :=
  decimal 4 value.year ++ decimal 2 value.month ++ decimal 2 value.day ++ "T" ++
    decimal 2 value.hour ++ decimal 2 value.minute ++ decimal 2 value.second ++ "Z"

section
variable [Rfc3339]

/-- An id that every caller has checked, or read from the name of a queued file. -/
abbrev TaskId := { taskId : String // SafeIdentifier taskId }

structure QueueClaim where
  workItemKind : WorkItemKind
  familyId : String
  plane : Plane
  workItemId : String
  path : DocumentPath
  sourceState : Option String
  sourcePath : Option DocumentPath
  claimPolicyId : Option String
  claimOrder : Option Nat
  deriving DecidableEq

def planeForBuiltinKind : WorkItemKind → Plane
  | .task => .execution
  | .probe | .spec | .incident | .blueprintDraft => .planning
  | .learningRequest => .learning

def QueueClaim.forBuiltin (kind : WorkItemKind) (workItemId : String) (path : DocumentPath) : QueueClaim where
  workItemKind := kind
  familyId := asStr kind
  plane := planeForBuiltinKind kind
  workItemId := workItemId
  path := path
  sourceState := none
  sourcePath := none
  claimPolicyId := none
  claimOrder := none

structure OperatorInterventionContext where
  actor : String
  issuedAt : Option Timestamp
  appliedAt : Option Timestamp

structure OperatorInterventionResult where
  action : OperatorInterventionAction
  workItemKind : WorkItemKind
  workItemId : String
  sourceState : String
  destinationState : String
  sourcePath : DocumentPath
  destinationPath : DocumentPath
  eventType : String
  replacementWorkItemId : Option String
  affectedDependents : List String
  record : OperatorInterventionRecord

inductive MailboxSupersedeCascade where
  | none | retarget | cancel
  deriving DecidableEq, Repr

variable (env : Environment)

/-! ## Selecting a task -/

def invalidArtifactsLog (d : Directory) : String := d.relative ++ "/invalid-artifacts.jsonl"

/-- The first number under which no file of this name lies in quarantine. -/
def quarantineIndex (quarantined : List Quarantined) (path : DocumentPath) : Nat :=
  let taken := fun index => quarantined.any fun q => q.path = path ∧ q.index = index
  ((List.range (quarantined.length + 1)).find? fun index => !taken index).getD 0

def quarantineInvalidArtifact (path : DocumentPath) (error : String) : StoreM Unit := do
  fileOperation env path.relative
  let w ← currentWorkspace
  match w.file path with
  | none => return ()
  | some raw =>
    let index := quarantineIndex w.quarantined path
    modifyWorkspace fun w => { w.erase path with quarantined := w.quarantined ++ [⟨path, index, raw⟩] }
    let recordedAt ← currentTimestamp env
    appendLine env (invalidArtifactsLog path.directory)
      (.invalidArtifact recordedAt error (Quarantined.name path.stem index) (path.stem ++ ".md"))

def effectiveRootSpecTask (document : TaskDocument) : Option String := document.rootSpecId.or document.specId

def isEligible (completed : List String) (rootSpecId : Option String) (document : TaskDocument) : Bool :=
  (match rootSpecId with
    | none => true
    | some expected => effectiveRootSpecTask document == some expected) &&
  document.dependsOn.all fun dependency => completed.contains dependency

structure Candidate where
  createdAt : String
  taskId : String
  path : DocumentPath
  deriving DecidableEq

def Candidate.before (a b : Candidate) : Bool :=
  decide (a.createdAt < b.createdAt) || (a.createdAt == b.createdAt && decide (a.taskId ≤ b.taskId))

/-- One round of the selection loop: what cannot be read as this task goes to quarantine. -/
def candidateAt (completed : List String) (rootSpecId : Option String) (path : DocumentPath) :
    StoreM (Option Candidate) := do
  match ← readIfPresent env path with
  | none => return none
  | some raw =>
    match parseTaskDocumentWithSource raw (absolute env path.relative) with
    | .error error =>
      quarantineInvalidArtifact env path error.display
      return none
    | .ok document =>
      if path.stem ≠ document.taskId then
        quarantineInvalidArtifact env path
          ("filename stem does not match task_id: expected " ++ document.taskId ++ ", found " ++ path.stem)
        return none
      else if isEligible completed rootSpecId document then
        return some ⟨document.createdAt.text, document.taskId, path⟩
      else return none

def collectCandidates (completed : List String) (rootSpecId : Option String) :
    List DocumentPath → StoreM (List Candidate)
  | [] => return []
  | path :: rest => do
    let candidate ← candidateAt env completed rootSpecId path
    let others ← collectCandidates completed rootSpecId rest
    return candidate.toList ++ others

def selectOldestEligibleTask (rootSpecId : Option String) : StoreM (Option Candidate) := do
  let completed ← listMarkdownFiles env ⟨.task, .done, none⟩
  let queued ← listMarkdownFiles env ⟨.task, .queue, none⟩
  let candidates ← collectCandidates env (completed.map (·.stem)) rootSpecId queued
  return (candidates.mergeSort Candidate.before).head?

/-! ## Moving a task -/

/-- The file operations of `move_item_from_state`, between two lifecycle directories of a family. -/
def moveItemFromState (kind : WorkItemKind) (source destination : ItemState) (itemId sourceState : String) :
    StoreM DocumentPath := do
  let sourcePath : DocumentPath := ⟨⟨kind, source, none⟩, itemId⟩
  let destinationPath : DocumentPath := ⟨⟨kind, destination, none⟩, itemId⟩
  refuseIf (¬(← isFile sourcePath)) (.invalidState (asStr kind ++ " " ++ itemId ++ " is not " ++ sourceState))
  createDirAll env destinationPath.directory
  refuseIf (← isFile destinationPath)
    (.invalidState (asStr kind ++ " " ++ itemId ++ " already exists at destination"))
  rename env sourcePath destinationPath
  return destinationPath

def moveItem (kind : WorkItemKind) (source destination : ItemState) (itemId : String) : StoreM DocumentPath :=
  moveItemFromState env kind source destination itemId "active"

def ensureUniqueId (kind : WorkItemKind) (itemId : String) : List ItemState → StoreM Unit
  | [] => return ()
  | state :: rest => do
    refuseIf (← isFile ⟨⟨kind, state, none⟩, itemId⟩)
      (.invalidState (asStr kind ++ " " ++ itemId ++ " already exists"))
    ensureUniqueId kind itemId rest

def requeueLog (d : Directory) (itemId : String) : String := d.relative ++ "/" ++ itemId ++ ".requeue.jsonl"

def isBlank (text : String) : Bool := trim text.toList == []

def trimmed (text : String) : String := String.ofList (trim text.toList)

def appendRequeueReason (d : Directory) (itemId : String) (kind : WorkItemKind) (reason : String) : StoreM Unit := do
  refuseIf (isBlank reason) (.invalidState "requeue reason is required")
  createDirAll env d
  let recordedAt ← currentTimestamp env
  appendLine env (requeueLog d itemId) (.requeue recordedAt kind (trimmed reason))

def validateBlockedRequeueAudit (reason actor : String) (attemptNumber : Option Nat) : StoreM Unit := do
  refuseIf (isBlank reason) (.invalidState "requeue reason is required")
  refuseIf (isBlank actor) (.invalidState "requeue actor is required")
  refuseIf (attemptNumber = some 0) (.invalidState "requeue attempt_number must be >= 1")

def appendBlockedRequeueAudit (d : Directory) (taskId reason actor : String) (auto : Bool)
    (failureClass : Option String) (attemptNumber : Option Nat) : StoreM Unit := do
  validateBlockedRequeueAudit reason actor attemptNumber
  createDirAll env d
  let recordedAt ← currentTimestamp env
  appendLine env (requeueLog d taskId)
    (.blockedRequeue recordedAt (trimmed actor) auto (trimmed reason)
      ((failureClass.filter fun value => !isBlank value).map trimmed) attemptNumber)

/-! ## Retiring a blocked duplicate -/

def readTaskDocumentOrNone (path : DocumentPath) : StoreM (Option TaskDocument) := do
  match ← readOrSkip env path with
  | none => return none
  | some raw =>
    match parseTaskDocumentWithSource raw (absolute env path.relative) with
    | .ok document => return some document
    | .error _ => return none

def supersededArchive : Directory := ⟨.task, .blocked, some "superseded"⟩

def supersededTaskPath (taskId timestamp : String) : Nat → StoreM DocumentPath
  | 0 => return ⟨supersededArchive, taskId ++ "." ++ timestamp ++ "." ++
      hexadecimal 8 (← reading env).suffix ++ ".blocked"⟩
  | tries + 1 => do
    let candidate : DocumentPath := ⟨supersededArchive, taskId ++ "." ++ timestamp ++ "." ++
      hexadecimal 8 (← reading env).suffix ++ ".blocked"⟩
    if ← isFile candidate then supersededTaskPath taskId timestamp tries else return candidate

def retireStaleBlockedTaskDuplicateAfterDone (taskId : String) : StoreM (Option DocumentPath) := do
  let blockedPath := taskPath .blocked taskId
  let donePath := taskPath .done taskId
  if ¬(← isFile blockedPath) ∨ ¬(← isFile donePath) then return none else
  match ← readTaskDocumentOrNone env blockedPath with
  | none => return none
  | some blockedDocument =>
  match ← readTaskDocumentOrNone env donePath with
  | none => return none
  | some doneDocument =>
  match effectiveRootSpecTask blockedDocument with
  | none => return none
  | some blockedRoot =>
    if effectiveRootSpecTask doneDocument ≠ some blockedRoot then return none else
    createDirAll env supersededArchive
    let archivedAt ← currentTimestamp env
    let archivePath ← supersededTaskPath env taskId (compactTimestamp archivedAt.instant) 100
    rename env blockedPath archivePath
    appendLine env (supersededArchive.relative ++ "/retirements.jsonl")
      (.retirement archivePath.relative archivedAt blockedRoot blockedPath.relative taskId)
    return some archivePath

/-! ## Interventions of an operator -/

structure LocatedInterventionItem where
  workItemKind : WorkItemKind
  workItemId : String
  state : String
  path : DocumentPath
  deriving DecidableEq

structure ArchiveLocatedOptions where
  action : OperatorInterventionAction
  destinationState : String
  archiveName : String
  eventType : String
  reason : String
  context : OperatorInterventionContext
  replacementWorkItemId : Option String
  affectedDependents : List String

def cleanReason (reason : String) : StoreM String := do
  refuseIf (isBlank reason) (.invalidState "reason is required")
  return trimmed reason

def cleanActor (actor : String) : StoreM String := do
  refuseIf (isBlank actor) (.invalidState "actor is required")
  return trimmed actor

/-- When the intervention was issued and when it is applied. -/
def interventionTimes (context : OperatorInterventionContext) : StoreM (Timestamp × Timestamp) := do
  let now ← currentTimestamp env
  let appliedAt := context.appliedAt.getD now
  return (context.issuedAt.getD appliedAt, appliedAt)

def buildInterventionRecord (action : OperatorInterventionAction) (kind : WorkItemKind)
    (workItemId sourceState destinationState : String) (sourcePath destinationPath : DocumentPath) (reason : String)
    (context : OperatorInterventionContext) (issuedAt appliedAt : Timestamp) (replacementWorkItemId : Option String)
    (affectedDependents : List String) : StoreM OperatorInterventionRecord := do
  let actor ← cleanActor context.actor
  return {
    schemaVersion := "1.0"
    kind := "operator_intervention"
    action := action.asStr
    actor := actor
    reason := reason
    issuedAt := issuedAt
    appliedAt := appliedAt
    workItemKind := kind
    workItemId := workItemId
    sourceState := sourceState
    destinationState := destinationState
    sourcePath := sourcePath.relative
    destinationPath := destinationPath.relative
    replacementWorkItemId := replacementWorkItemId
    affectedDependents := affectedDependents }

def appendInterventionRecord (d : Directory) (record : OperatorInterventionRecord) : StoreM Unit := do
  createDirAll env d
  appendLine env (d.relative ++ "/interventions.jsonl") (.intervention record)

def logsDir : String := "millrace-agents/logs"

def writeOperatorRuntimeEvent (eventType : String) (record : OperatorInterventionRecord) : StoreM Unit := do
  fileOperation env logsDir
  appendLine env (logsDir ++ "/runtime_events.jsonl") (.runtimeEvent eventType record)

def archiveLocatedItem (located : LocatedInterventionItem) (options : ArchiveLocatedOptions) :
    StoreM OperatorInterventionResult := do
  let reason ← cleanReason options.reason
  let (issuedAt, appliedAt) ← interventionTimes env options.context
  let archiveDir := { located.path.directory with archive := some options.archiveName }
  createDirAll env archiveDir
  let suffix := (← reading env).suffix
  let destination : DocumentPath := ⟨archiveDir, located.workItemId ++ "." ++ compactTimestamp appliedAt.instant ++
    "." ++ hexadecimal 8 suffix ++ "." ++ located.state⟩
  refuseIf (← isFile destination)
    (.invalidState ("archive destination already exists: " ++ absolute env destination.relative))
  rename env located.path destination
  let record ← buildInterventionRecord options.action located.workItemKind located.workItemId located.state
    options.destinationState located.path destination reason options.context issuedAt appliedAt
    options.replacementWorkItemId options.affectedDependents
  appendInterventionRecord env archiveDir record
  writeOperatorRuntimeEvent env options.eventType record
  return {
    action := options.action
    workItemKind := located.workItemKind
    workItemId := located.workItemId
    sourceState := located.state
    destinationState := options.destinationState
    sourcePath := located.path
    destinationPath := destination
    eventType := options.eventType
    replacementWorkItemId := options.replacementWorkItemId
    affectedDependents := options.affectedDependents
    record := record }

def locateCancelableForKind (w : Workspace) (workItemId : String) (kind : WorkItemKind) :
    List LocatedInterventionItem :=
  let states : List ItemState := match kind with
    | .task | .probe | .spec | .incident => [.queue, .blocked]
    | .learningRequest | .blueprintDraft => []
  states.filterMap fun state =>
    let path : DocumentPath := ⟨⟨kind, state, none⟩, workItemId⟩
    if (w.file path).isSome then some ⟨kind, workItemId, state.name kind, path⟩ else none

def locateCancelableWorkItem (workItemId : String) (kind : Option WorkItemKind) :
    StoreM LocatedInterventionItem := do
  let w ← currentWorkspace
  let kinds := match kind with
    | some kind => [kind]
    | none => [.task, .probe, .spec, .incident]
  match kinds.flatMap (locateCancelableForKind w workItemId) with
  | [] => throw (.invalidState ("cancelable work item not found: " ++ workItemId))
  | [located] => return located
  | _ => throw (.invalidState ("work item id is ambiguous; pass --kind for " ++ workItemId))

def locateExactTask (taskId : String) (states : List ItemState) : StoreM LocatedInterventionItem := do
  let w ← currentWorkspace
  let candidates := states.filterMap fun state =>
    if (w.file (taskPath state taskId)).isSome then
      some ⟨.task, taskId, state.name .task, taskPath state taskId⟩
    else none
  match candidates with
  | [] => throw (.invalidState ("task " ++ taskId ++ " is not in an allowed state: " ++
      ", ".intercalate (states.map (ItemState.name .task))))
  | [located] => return located
  | _ => throw (.invalidState ("task " ++ taskId ++ " exists in multiple states"))

def requireReplacementTask (taskId : String) : StoreM Unit := do
  let w ← currentWorkspace
  refuseIf (∀ state ∈ [ItemState.queue, .active, .done], (w.file (taskPath state taskId)).isNone)
    (.invalidState ("replacement task is not queued, active, or done: " ++ taskId))

/-- The queued tasks that depend on the given one, by the ids they are written with. -/
def dependentsAmong (oldTaskId : String) : List DocumentPath → StoreM (List String)
  | [] => return []
  | path :: rest => do
    let document ← readTaskDocumentOrNone env path
    let others ← dependentsAmong oldTaskId rest
    return (document.filter fun task => task.dependsOn.contains oldTaskId).toList.map (·.taskId) ++ others

def queuedDependents (oldTaskId : String) : StoreM (List String) := do
  let queued ← listMarkdownFiles env ⟨.task, .queue, none⟩
  dependentsAmong env oldTaskId queued

def requireIdentifier (value fieldName : String) : StoreM Unit :=
  match validateSafeIdentifier value fieldName with
  | .ok () => return ()
  | .error error => throw (.invalidState error.display)

/-! ## The operations -/

def enqueueTask (document : TaskDocument) : StoreM DocumentPath := do
  let destination := taskPath .queue document.taskId
  match document.validate with
  | .error source => throw (.workDocument (absolute env destination.relative) source)
  | .ok () =>
    ensureUniqueId .task document.taskId [.queue, .active, .done, .blocked]
    writeDocument env destination (renderTaskDocument document)
    return destination

def claimNextExecutionTask (rootSpecId : Option String) : StoreM (Option QueueClaim) := do
  let active ← listMarkdownFiles env ⟨.task, .active, none⟩
  refuseIf (active.length > 1) (.invalidState "multiple active execution tasks found")
  if active ≠ [] then return none else
  match ← selectOldestEligibleTask env rootSpecId with
  | none => return none
  | some candidate =>
    let destination := taskPath .active candidate.path.stem
    -- the queue has one process: the selected file cannot vanish before the rename
    rename env candidate.path destination
    return some { QueueClaim.forBuiltin .task candidate.taskId destination with
      sourceState := some "queue"
      sourcePath := some candidate.path
      claimPolicyId := some "execution.default"
      claimOrder := some 0 }

def markTaskDone (taskId : TaskId) : StoreM DocumentPath := do
  let destination ← moveItem env .task .active .done taskId
  let _ ← retireStaleBlockedTaskDuplicateAfterDone env taskId
  return destination

def markTaskBlocked (taskId : TaskId) : StoreM DocumentPath := moveItem env .task .active .blocked taskId

def requeueTask (taskId : TaskId) (reason : String) : StoreM DocumentPath := do
  let destination ← moveItem env .task .active .queue taskId
  appendRequeueReason env ⟨.task, .queue, none⟩ taskId .task reason
  return destination

def requeueBlockedTask (taskId : TaskId) (reason actor : String) (auto : Bool) (failureClass : Option String)
    (attemptNumber : Option Nat) : StoreM DocumentPath := do
  validateBlockedRequeueAudit reason actor attemptNumber
  let destination ← moveItemFromState env .task .blocked .queue taskId "blocked"
  appendBlockedRequeueAudit env ⟨.task, .queue, none⟩ taskId reason actor auto failureClass attemptNumber
  return destination

def cancelWorkItem (workItemId : String) (kind : Option WorkItemKind) (reason : String)
    (context : OperatorInterventionContext) : StoreM OperatorInterventionResult := do
  requireIdentifier workItemId "work_item_id"
  let located ← locateCancelableWorkItem workItemId kind
  archiveLocatedItem env located {
    action := .cancel
    destinationState := "cancelled"
    archiveName := "cancelled"
    eventType := "work_item_cancelled"
    reason := reason
    context := context
    replacementWorkItemId := none
    affectedDependents := [] }

def archiveBlockedTask (taskId reason : String) (context : OperatorInterventionContext) :
    StoreM OperatorInterventionResult := do
  requireIdentifier taskId "task_id"
  let located ← locateExactTask taskId [.blocked]
  archiveLocatedItem env located {
    action := .archiveBlockedTask
    destinationState := "cancelled"
    archiveName := "cancelled"
    eventType := "blocked_task_archived"
    reason := reason
    context := context
    replacementWorkItemId := none
    affectedDependents := [] }

def retargetQueuedTaskDependency (taskId oldDependencyId newDependencyId reason : String)
    (context : OperatorInterventionContext) : StoreM OperatorInterventionResult := do
  requireIdentifier taskId "task_id"
  requireIdentifier oldDependencyId "old_dependency_id"
  requireIdentifier newDependencyId "new_dependency_id"
  let cleanedReason ← cleanReason reason
  let (issuedAt, appliedAt) ← interventionTimes env context
  let path := taskPath .queue taskId
  refuseIf (¬(← isFile path)) (.invalidState ("task " ++ taskId ++ " is not queued"))
  requireReplacementTask newDependencyId
  let raw ← readToString env path
  match parseTaskDocumentWithSource raw (absolute env path.relative) with
  | .error error => throw (.workDocument (absolute env path.relative) error)
  | .ok task =>
    let oldCount := task.dependsOn.count oldDependencyId
    refuseIf (oldCount = 0) (.invalidState ("task " ++ taskId ++ " does not depend on " ++ oldDependencyId))
    refuseIf (oldCount > 1) (.invalidState ("task " ++ taskId ++ " has duplicate dependency " ++ oldDependencyId))
    let updated := { task with
      dependsOn := task.dependsOn.map fun dependency =>
        if dependency = oldDependencyId then newDependencyId else dependency
      updatedAt := some appliedAt }
    writeDocument env path (renderTaskDocument updated)
    let record ← buildInterventionRecord .retargetDependency .task taskId "queue" "queue" path path cleanedReason
      context issuedAt appliedAt (some newDependencyId) [taskId]
    appendInterventionRecord env path.directory record
    writeOperatorRuntimeEvent env "task_dependency_retargeted" record
    return {
      action := .retargetDependency
      workItemKind := .task
      workItemId := taskId
      sourceState := "queue"
      destinationState := "queue"
      sourcePath := path
      destinationPath := path
      eventType := "task_dependency_retargeted"
      replacementWorkItemId := some newDependencyId
      affectedDependents := [taskId]
      record := record }

/-- What happens to the queued dependents of a superseded task. -/
def cascadeTo (oldTaskId replacementTaskId reason : String) (cascade : MailboxSupersedeCascade)
    (context : OperatorInterventionContext) (dependent : String) : StoreM PUnit :=
  match cascade with
  | .none => return ⟨⟩
  | .retarget => do
    let _ ← retargetQueuedTaskDependency env dependent oldTaskId replacementTaskId reason context
  | .cancel => do
    let _ ← cancelWorkItem env dependent (some .task) reason context

def supersedeTask (oldTaskId replacementTaskId reason : String) (cascade : MailboxSupersedeCascade)
    (context : OperatorInterventionContext) : StoreM OperatorInterventionResult := do
  requireIdentifier oldTaskId "old_task_id"
  requireIdentifier replacementTaskId "replacement_task_id"
  refuseIf (oldTaskId = replacementTaskId)
    (.invalidState "replacement task must be different from superseded task")
  let located ← locateExactTask oldTaskId [.blocked, .queue]
  requireReplacementTask replacementTaskId
  let affectedDependents ← queuedDependents env oldTaskId
  let result ← archiveLocatedItem env located {
    action := .supersede
    destinationState := "superseded"
    archiveName := "superseded"
    eventType := "task_superseded"
    reason := reason
    context := context
    replacementWorkItemId := some replacementTaskId
    affectedDependents := affectedDependents }
  affectedDependents.forM (cascadeTo env oldTaskId replacementTaskId reason cascade context)
  return result

/-! ## Interventions on incidents -/

/-- Archives under the given directory instead of the document's own. -/
def archiveLocatedItemUnder (explicitArchiveParent : Option Directory) (located : LocatedInterventionItem)
    (options : ArchiveLocatedOptions) : StoreM OperatorInterventionResult := do
  let reason ← cleanReason options.reason
  let (issuedAt, appliedAt) ← interventionTimes env options.context
  let archiveParent := explicitArchiveParent.getD located.path.directory
  let archiveDir := { archiveParent with archive := some options.archiveName }
  createDirAll env archiveDir
  let suffix := (← reading env).suffix
  let destination : DocumentPath := ⟨archiveDir, located.workItemId ++ "." ++ compactTimestamp appliedAt.instant ++
    "." ++ hexadecimal 8 suffix ++ "." ++ located.state⟩
  refuseIf (← isFile destination)
    (.invalidState ("archive destination already exists: " ++ absolute env destination.relative))
  rename env located.path destination
  let record ← buildInterventionRecord options.action located.workItemKind located.workItemId located.state
    options.destinationState located.path destination reason options.context issuedAt appliedAt
    options.replacementWorkItemId options.affectedDependents
  appendInterventionRecord env archiveDir record
  writeOperatorRuntimeEvent env options.eventType record
  return {
    action := options.action
    workItemKind := located.workItemKind
    workItemId := located.workItemId
    sourceState := located.state
    destinationState := options.destinationState
    sourcePath := located.path
    destinationPath := destination
    eventType := options.eventType
    replacementWorkItemId := options.replacementWorkItemId
    affectedDependents := options.affectedDependents
    record := record }

theorem archiveLocatedItem_eq (located : LocatedInterventionItem) (options : ArchiveLocatedOptions) :
    archiveLocatedItem env located options = archiveLocatedItemUnder env none located options := rfl

def locateIncident (incidentId : String) (states : List ItemState) : StoreM LocatedInterventionItem := do
  let w ← currentWorkspace
  let candidates := states.filterMap fun state =>
    let path : DocumentPath := ⟨⟨.incident, state, none⟩, incidentId⟩
    if (w.file path).isSome then some ⟨.incident, incidentId, state.name .incident, path⟩ else none
  match candidates with
  | [] => throw (.invalidState ("incident " ++ incidentId ++ " is not in an allowed state: " ++
      ", ".intercalate (states.map (ItemState.name .incident))))
  | [located] => return located
  | _ => throw (.invalidState ("incident " ++ incidentId ++ " exists in multiple states"))

def resolveIncidentByOperator (incidentId reason : String) (context : OperatorInterventionContext) :
    StoreM OperatorInterventionResult := do
  requireIdentifier incidentId "incident_id"
  let located ← locateIncident incidentId [.queue, .active, .blocked]
  archiveLocatedItemUnder env (some ⟨.incident, .done, none⟩) located {
    action := .resolveIncident
    destinationState := "resolved"
    archiveName := "operator"
    eventType := "incident_resolved_by_operator"
    reason := reason
    context := context
    replacementWorkItemId := none
    affectedDependents := [] }

def cancelIncident (incidentId reason : String) (context : OperatorInterventionContext) :
    StoreM OperatorInterventionResult := do
  requireIdentifier incidentId "incident_id"
  let located ← locateIncident incidentId [.queue, .active, .blocked]
  archiveLocatedItem env located {
    action := .cancelIncident
    destinationState := "cancelled"
    archiveName := "cancelled"
    eventType := "incident_cancelled"
    reason := reason
    context := context
    replacementWorkItemId := none
    affectedDependents := [] }

/-! ## The other families -/

/-- `enqueue_spec`, `enqueue_probe` and the other families that check a new id in the directories where items end. -/
def enqueueDocument (kind : WorkItemKind) (itemId : String) (validated : Except WorkDocumentError Unit)
    (rendered : String) : StoreM DocumentPath := do
  let destination : DocumentPath := ⟨⟨kind, .queue, none⟩, itemId⟩
  match validated with
  | .error source => throw (.workDocument (absolute env destination.relative) source)
  | .ok () =>
    ensureUniqueId kind itemId [.queue, .active, .done, .blocked]
    writeDocument env destination rendered
    return destination

def enqueueSpec (document : SpecDocument) : StoreM DocumentPath :=
  enqueueDocument env .spec document.specId document.validate (renderSpecDocument document)

def enqueueProbe (document : ProbeDocument) : StoreM DocumentPath :=
  enqueueDocument env .probe document.probeId document.validate (renderProbeDocument document)

/-- `requeue_task`, `requeue_spec`, `requeue_probe`, `requeue_incident` and `requeue_learning_request`. -/
def requeueItem (kind : WorkItemKind) (itemId reason : String) : StoreM DocumentPath := do
  let destination ← moveItem env kind .active .queue itemId
  appendRequeueReason env ⟨kind, .queue, none⟩ itemId kind reason
  return destination

/-- Blueprint drafts are not in the queue store. -/
def requeueActiveItem (kind : WorkItemKind) (itemId reason : String) : StoreM DocumentPath :=
  match kind with
  | .blueprintDraft => throw (.invalidState "blueprint_draft requeue is not backed by QueueStore")
  | .task | .probe | .spec | .incident | .learningRequest => requeueItem env kind itemId reason

theorem requeueTask_eq (taskId : TaskId) (reason : String) :
    requeueTask env taskId reason = requeueItem env .task taskId reason := rfl

def ignoreInvalidState (operation : StoreM DocumentPath) : StoreM Bool :=
  tryCatch (do let _ ← operation; return true) fun
    | .invalidState _ => return false
    | error => throw error

def requeueActiveDirectory (reason : String) (kind : WorkItemKind) : StoreM Nat := do
  let active ← listMarkdownFiles env ⟨kind, .active, none⟩
  active.foldlM (fun count path => do
    let requeued ← ignoreInvalidState (requeueItem env kind path.stem reason)
    return if requeued then count + 1 else count) 0

def requeueAllActiveItems (reason : String) : StoreM Nat := do
  let counts ← [WorkItemKind.task, .spec, .probe, .incident, .learningRequest].mapM (requeueActiveDirectory env reason)
  return counts.sum

end

end Millrace.Queue

import Millrace.Blueprints.Drafts
import Millrace.Runtime.Lifecycle

/-! The interpreter of source lifecycle intents, for the built-in families and for those that a plan declares. -/

set_option autoImplicit false

namespace Millrace.Queue
open Millrace.Text Millrace.Contracts Millrace.WorkDocuments Millrace.Action
open Millrace.Blueprints (DraftWorld DraftEnvironment DraftM DraftPath BlueprintDraftDocument onQueue
  approveActiveBlueprintDraft blockActiveBlueprintDraft requeueActiveBlueprintDraft)
open Millrace.Runtime (SourceLifecycleIntent SourceLifecycleAction)

section
variable [Rfc3339]

/-! ## Requeueing one family -/

section Families
variable (env : Environment)

def requeueProbe (probeId reason : String) : StoreM DocumentPath := requeueItem env .probe probeId reason

def requeueSpec (specId reason : String) : StoreM DocumentPath := requeueItem env .spec specId reason

def requeueIncident (incidentId reason : String) : StoreM DocumentPath := requeueItem env .incident incidentId reason

def requeueLearningRequest (learningRequestId reason : String) : StoreM DocumentPath :=
  requeueItem env .learningRequest learningRequestId reason

end Families

/-! ## The workspace with the families of a plan -/

structure WorkItemQueueDirs where
  queue : String
  active : String
  done : String
  blocked : String
  deriving DecidableEq, Repr

structure WorkItemFamilyDefinition where
  familyId : String
  fileExtension : String
  queueDirs : WorkItemQueueDirs
  deriving DecidableEq, Repr

structure FamilyRequeueLine where
  recordedAt : Timestamp
  familyId : String
  reason : String
  deriving DecidableEq

/-- The built-in families, and the files of all others by their paths under the runtime root. -/
structure LifecycleWorld where
  drafts : DraftWorld
  generic : Std.ExtTreeMap String String compare
  familyLog : List (String × FamilyRequeueLine)

inductive LifecyclePath where
  | document (path : DocumentPath)
  | draft (path : DraftPath)
  | generic (path : String)
  deriving DecidableEq

inductive LifecycleFile where
  | text (raw : String)
  | draft (draft : BlueprintDraftDocument)

namespace LifecycleWorld

def queue (s : LifecycleWorld) : World := s.drafts.world

def setQueue (s : LifecycleWorld) (world : World) : LifecycleWorld :=
  { s with drafts := { s.drafts with world := world } }

def file (s : LifecycleWorld) : LifecyclePath → Option LifecycleFile
  | .document path => (s.queue.workspace.file path).map .text
  | .draft path => (s.drafts.file path).map .draft
  | .generic path => s.generic[path]?.map .text

/-- A file of a declared family gets another path. -/
def moveGeneric (s : LifecycleWorld) (source destination raw : String) : LifecycleWorld :=
  { s with generic := (s.generic.erase source).insert destination raw }

end LifecycleWorld

abbrev LifecycleM (α : Type) := EStateM QueueStoreError LifecycleWorld α

def onDraftWorld {α : Type} : DraftM α → LifecycleM α := onPart LifecycleWorld.drafts fun s drafts => { s with drafts := drafts }

def onQueueWorld {α : Type} : StoreM α → LifecycleM α := onPart LifecycleWorld.queue LifecycleWorld.setQueue

/-! ## What an intent names -/

def validateIntent (intent : SourceLifecycleIntent) : Except ContractError Unit := do
  validateSafeIdentifier intent.lifecyclePlanId "lifecycle_plan_id"
  validateSafeIdentifier intent.workItemId "work_item_id"
  intent.workItemFamilyId.forM (validateSafeIdentifier · "work_item_family_id")

def legacyWorkItemKindForFamilyId (familyId : String) : Option WorkItemKind :=
  (fromValue familyId : Except ContractError WorkItemKind).toOption

/-- The family and the kind, each taken from the other where it is not given. -/
def coerceFamilyAndKind (familyId : Option String) (workItemKind : Option WorkItemKind) :
    Except ContractError (Option String × Option WorkItemKind) :=
  match familyId with
  | none => .ok (workItemKind.map asStr, workItemKind)
  | some family => do
    validateSafeIdentifier family "work_item_family_id"
    match workItemKind.or (legacyWorkItemKindForFamilyId family) with
    | none => return (some family, none)
    | some kind =>
      if family ≠ asStr kind then throw (.unsafeIdentifier "work_item_family_id" family .invalidCharacters)
      return (some family, some kind)

inductive IntentTarget where
  | builtin (kind : WorkItemKind)
  | family (family : WorkItemFamilyDefinition)
  deriving DecidableEq, Repr

def intentTarget (families : List WorkItemFamilyDefinition) (intent : SourceLifecycleIntent) :
    Except QueueStoreError IntentTarget := do
  (validateIntent intent).mapError fun error => .invalidState error.display
  let coerced ← (coerceFamilyAndKind intent.workItemFamilyId intent.workItemKind).mapError fun error =>
    .invalidState error.display
  match coerced with
  | (_, some kind) => return .builtin kind
  | (none, none) =>
    throw (.invalidState "source lifecycle intent requires work_item_family_id or work_item_kind")
  | (some familyId, none) =>
    match families.find? fun family => family.familyId == familyId with
    | none => throw (.invalidState ("unsupported active work item family: " ++ familyId))
    | some family => return .family family

def requiredReason (intent : SourceLifecycleIntent) : Except QueueStoreError String :=
  match (intent.reason.map trimmed).filter fun reason => !isBlank reason with
  | some reason => .ok reason
  | none => .error (.invalidState "requeue reason is required")

/-! ## Applying an intent -/

section Apply
variable (env : DraftEnvironment)

/-- The id of an intent has been checked. -/
def markIntentTaskDone (intent : SourceLifecycleIntent) : StoreM DocumentPath :=
  if safe : SafeIdentifier intent.workItemId then markTaskDone env.toEnvironment ⟨intent.workItemId, safe⟩
  else throw (.invalidState "work_item_id is invalid")

/-- `mark_task_done`, `mark_spec_done`, `mark_incident_resolved` and so on. -/
def completeBuiltin (kind : WorkItemKind) (intent : SourceLifecycleIntent) : StoreM DocumentPath :=
  match kind with
  | .task => markIntentTaskDone env intent
  | _ => moveItem env.toEnvironment kind .active .done intent.workItemId

def requeueBuiltin (kind : WorkItemKind) (itemId reason : String) : StoreM DocumentPath :=
  match kind with
  | .probe => requeueProbe env.toEnvironment itemId reason
  | .spec => requeueSpec env.toEnvironment itemId reason
  | .incident => requeueIncident env.toEnvironment itemId reason
  | .learningRequest => requeueLearningRequest env.toEnvironment itemId reason
  | .task | .blueprintDraft => requeueItem env.toEnvironment kind itemId reason

def applyDraft (intent : SourceLifecycleIntent) : LifecycleM DraftPath :=
  match intent.action with
  | .complete => onDraftWorld (approveActiveBlueprintDraft env intent.workItemId)
  | .block => onDraftWorld (blockActiveBlueprintDraft env intent.workItemId)
  | .requeue => do
    let _ ← ofExcept (requiredReason intent)
    onDraftWorld (requeueActiveBlueprintDraft env intent.workItemId)

def applyDocument (kind : WorkItemKind) (intent : SourceLifecycleIntent) : LifecycleM DocumentPath :=
  match intent.action with
  | .complete => onQueueWorld (completeBuiltin env kind intent)
  | .block => onQueueWorld (moveItem env.toEnvironment kind .active .blocked intent.workItemId)
  | .requeue => do
    let reason ← ofExcept (requiredReason intent)
    onQueueWorld (requeueBuiltin env kind intent.workItemId reason)

def applyBuiltin (kind : WorkItemKind) (intent : SourceLifecycleIntent) : LifecycleM LifecyclePath :=
  if kind = .blueprintDraft then .draft <$> applyDraft env intent else .document <$> applyDocument env kind intent

def familyFile (family : WorkItemFamilyDefinition) (directory workItemId : String) : String :=
  directory ++ "/" ++ workItemId ++ family.fileExtension

def familyRequeueLog (family : WorkItemFamilyDefinition) (workItemId : String) : String :=
  family.queueDirs.queue ++ "/" ++ workItemId ++ ".requeue.jsonl"

def familyTargetDir (family : WorkItemFamilyDefinition) : SourceLifecycleAction → String
  | .complete => family.queueDirs.done
  | .block => family.queueDirs.blocked
  | .requeue => family.queueDirs.queue

def familyOperation (path : String) : LifecycleM Unit :=
  onQueueWorld (fileOperation env.toEnvironment ("millrace-agents/" ++ path))

def appendFamilyRequeueReason (family : WorkItemFamilyDefinition) (workItemId reason : String) : LifecycleM Unit := do
  if isBlank reason then throw (.invalidState "requeue reason is required")
  let recordedAt ← onQueueWorld (currentTimestamp env.toEnvironment)
  familyOperation env (familyRequeueLog family workItemId)
  modify fun s => { s with
    familyLog := s.familyLog ++ [(familyRequeueLog family workItemId, ⟨recordedAt, family.familyId, trimmed reason⟩)] }

/-- The reason of a requeue is looked at once the file has its new name. -/
def recordFamilyMove (family : WorkItemFamilyDefinition) (intent : SourceLifecycleIntent) : LifecycleM Unit :=
  if intent.action = .requeue then do
    let reason ← ofExcept (requiredReason intent)
    appendFamilyRequeueReason env family intent.workItemId reason
  else return ()

def moveGenericActiveFamily (family : WorkItemFamilyDefinition) (intent : SourceLifecycleIntent) :
    LifecycleM LifecyclePath := do
  let source := familyFile family family.queueDirs.active intent.workItemId
  let destination := familyFile family (familyTargetDir family intent.action) intent.workItemId
  let s ← get
  match s.generic[source]? with
  | none => throw (.invalidState (family.familyId ++ " " ++ intent.workItemId ++ " is not active"))
  | some raw =>
    if (s.generic[destination]?).isSome then
      throw (.invalidState (family.familyId ++ " " ++ intent.workItemId ++ " already exists at destination"))
    familyOperation env (familyTargetDir family intent.action)
    familyOperation env source
    modify (·.moveGeneric source destination raw)
    recordFamilyMove env family intent
    return .generic destination

/-- `QueueLifecycleInterpreter::apply`. -/
def applyIntent (families : List WorkItemFamilyDefinition) (intent : SourceLifecycleIntent) :
    LifecycleM LifecyclePath := do
  match ← ofExcept (intentTarget families intent) with
  | .builtin kind => applyBuiltin env kind intent
  | .family family => moveGenericActiveFamily env family intent

end Apply
end
end Millrace.Queue

import Millrace.Advance
import Millrace.Blueprints.EffectHandlers

/-! The effect of the manager of the Blueprint loop, and the dispatch to the four effects. -/

set_option autoImplicit false

namespace Millrace.Blueprints
open Millrace.Text Millrace.Contracts Millrace.WorkDocuments Millrace.Action Millrace.Queue Millrace.Runtime
open Millrace.Application (blueprintFailure blueprintSuccess completeLifecyclePlanId managerHandlerId
  contractorHandlerId approvalHandlerId rejectionHandlerId)

section
variable [Rfc3339]

/-! ## The manager's artifacts -/

def readManagerJsonModel {α : Type} (validateContract : α → Except RuntimeJsonError Unit)
    (fileName missingClass parseClass schemaClass : String) : ArtifactFile α → Except BlueprintEffectError α
  | .missing => .error ⟨missingClass, "required Blueprint artifact is missing: " ++ fileName⟩
  | .unreadable message =>
    .error ⟨missingClass, "required Blueprint artifact could not be read: " ++ fileName ++ ": " ++ message⟩
  | .malformed message => .error ⟨parseClass, fileName ++ " failed schema validation: " ++ message⟩
  | .document document =>
    match validateContract document with
    | .error error => .error ⟨schemaClass, fileName ++ " failed schema validation: " ++ error.display⟩
    | .ok () => .ok document

def readManagerJsonModelList {α : Type} (validateContract : α → Except RuntimeJsonError Unit)
    (fileName missingClass parseClass schemaClass : String) : ArtifactListFile α → Except BlueprintEffectError (List α)
  | .missing => .error ⟨missingClass, "required Blueprint artifact is missing: " ++ fileName⟩
  | .unreadable message =>
    .error ⟨missingClass, "required Blueprint artifact could not be read: " ++ fileName ++ ": " ++ message⟩
  | .malformed message => .error ⟨parseClass, fileName ++ " is not valid JSON: " ++ message⟩
  | .notList => .error ⟨schemaClass, fileName ++ " must be a JSON list"⟩
  | .documents documents => documents.mapM fun element => do
    let failed := fun message => BlueprintEffectError.mk schemaClass (fileName ++ " failed schema validation: " ++ message)
    let document ← element.mapError failed
    (validateContract document).mapError fun error => failed error.display
    return document

def ensureDraftMatchesManifest (draft : BlueprintDraftDocument) (manifest : BlueprintManifestDocument) :
    Except String Unit := do
  if draft.manifestId ≠ manifest.manifestId then throw "draft manifest_id does not match manifest"
  if draft.rootSpecId ≠ manifest.rootSpecId then throw "draft root_spec_id does not match manifest"
  if draft.rootIdeaId ≠ manifest.rootIdeaId then throw "draft root_idea_id does not match manifest"
  if draft.sourceSpecId ≠ manifest.sourceSpecId then throw "draft source_spec_id does not match manifest"

/-- The drafts from an index on, after those of the previous ids, the last of which comes first. -/
def validateDraftSequence (manifest : BlueprintManifestDocument) : Nat → List String → List BlueprintDraftDocument →
    Except String Unit
  | _, _, [] => .ok ()
  | index, previous, draft :: rest => do
    if draft.draftIndex ≠ index then throw "draft indexes must be contiguous starting at 1"
    ensureDraftMatchesManifest draft manifest
    if draft.draftIndex = 1 ∧ draft.dependsOnDraftIds ≠ [] then
      throw "first Blueprint draft cannot declare dependencies"
    if 1 < draft.draftIndex ∧ draft.dependsOnDraftIds ≠ [previous.head?.getD ""] then
      throw "strict Blueprint sequence requires dependency on previous draft"
    if !draft.dependsOnDraftIds.all previous.contains then
      throw "Blueprint draft dependencies must refer to earlier drafts"
    validateDraftSequence manifest (index + 1) (draft.draftId :: previous) rest

def expectedSourceKind : WorkItemKind → Option BlueprintSourceWorkItemKind
  | .spec => some .spec
  | .incident => some .incident
  | _ => none

def validateManagerOutput (r : StageResultEnvelope) (manifest : BlueprintManifestDocument)
    (drafts : List BlueprintDraftDocument) : Except String Unit := do
  if expectedSourceKind r.workItemKind ≠ some manifest.sourceWorkItemKind then
    throw "manifest source_work_item_kind does not match active source"
  if manifest.sourceWorkItemId ≠ r.workItemId then
    throw "manifest source_work_item_id does not match active source"
  if drafts.map (·.draftId) ≠ manifest.draftIds then throw "draft order must match manifest draft_ids"
  if drafts.length ≠ manifest.draftCount then throw "draft count must match manifest"
  validateDraftSequence manifest 1 [] drafts

/-! ## Manifests and drafts that exist already -/

abbrev ManifestEntry := String × BlueprintManifestDocument

section Existing
variable (env : DraftEnvironment)

def manifestPath (stem : String) : String := manifestsDirectory.relative ++ "/" ++ stem ++ ".json"

def readManifestFile (stem : String) (manifest : BlueprintManifestDocument) :
    EffectM QueueStoreError BlueprintManifestDocument := do
  effectOperation env (manifestPath stem)
  match manifest.validateContract with
  | .error error => throw (.invalidState
      ("Blueprint artifact " ++ absolute env.toEnvironment (manifestPath stem) ++ " is invalid: " ++ error.display))
  | .ok () => return manifest

/-- A file that cannot be read is passed over, unless it has the name of the manifest. -/
def otherManifestEntries (manifestId : String) : List (String × BlueprintManifestDocument) →
    EffectM QueueStoreError (List ManifestEntry)
  | [] => return []
  | (stem, file) :: rest => do
    let read ← attempt (readManifestFile env stem file)
    let later ← otherManifestEntries manifestId rest
    match read.toOption.filter (·.manifestId == manifestId) with
    | some manifest => return (stem, manifest) :: later
    | none => return later

def canonicalManifestEntry (manifestId : String) : EffectM QueueStoreError (List ManifestEntry) := do
  let s ← get
  match s.store.manifests[manifestId]? with
  | none => return []
  | some file => do
    let manifest ← readManifestFile env manifestId file
    return if manifest.manifestId = manifestId then [(manifestId, manifest)] else []

def blueprintManifestEntriesForId (manifestId : String) : EffectM QueueStoreError (List ManifestEntry) := do
  match validateSafeIdentifier manifestId "manifest_id" with
  | .error error => throw (.invalidState error.display)
  | .ok () =>
    let canonical ← canonicalManifestEntry env manifestId
    effectOperation env manifestsDirectory.relative
    let s ← get
    let listed := s.store.manifests.toList.mergeSort fun a b => decide (a.1 ++ ".json" ≤ b.1 ++ ".json")
    let others ← otherManifestEntries env manifestId (listed.filter fun entry => entry.1 ≠ manifestId)
    return canonical ++ others

def duplicateManifestMessage (manifestId : String) (entries : List ManifestEntry) : String :=
  "blueprint_manifest_duplicate: manifest_id=" ++ manifestId ++ " has divergent content in " ++
    ", ".intercalate (entries.map fun entry => absolute env.toEnvironment (manifestPath entry.1))

/-- Two manifests have the same normal JSON text when they are the same document. -/
def resolveBlueprintManifestEntry (manifestId : String) (entries : List ManifestEntry) :
    Except QueueStoreError ManifestEntry :=
  if 1 < (entries.map (·.2)).dedup.length then .error (.invalidState (duplicateManifestMessage env manifestId entries))
  else
    match (entries.find? fun entry => entry.1 == manifestId).or entries.head? with
    | some entry => .ok entry
    | none => .error (.invalidState ("blueprint_manifest_missing: " ++ manifestId))

def readBlueprintManifest (manifestId : String) : EffectM QueueStoreError BlueprintManifestDocument := do
  let entries ← blueprintManifestEntriesForId env manifestId
  match entries with
  | [] => throw (.invalidState ("blueprint_manifest_missing: " ++ manifestId))
  | _ :: _ => do
    let entry ← ofExcept (resolveBlueprintManifestEntry env manifestId entries)
    return entry.2

def writeBlueprintManifest (manifest : BlueprintManifestDocument) : EffectM QueueStoreError String := do
  ofExcept (manifest.validateContract.mapError fun error => .invalidState error.display)
  let entries ← blueprintManifestEntriesForId env manifest.manifestId
  match entries with
  | [] => manifestsDirectory.writeUnique env manifest.manifestId manifest
  | _ :: _ => do
    let _ ← ofExcept (resolveBlueprintManifestEntry env manifest.manifestId entries)
    if entries.any fun entry => entry.2 ≠ manifest then
      throw (.invalidState (duplicateManifestMessage env manifest.manifestId entries))
    let s ← get
    if (s.store.manifests[manifest.manifestId]?).isSome then return manifestPath manifest.manifestId
    else manifestsDirectory.writeUnique env manifest.manifestId manifest

def managerManifestExistsEquivalent (manifest : BlueprintManifestDocument) : EffectM BlueprintEffectError Bool := do
  match ← attempt (readBlueprintManifest env manifest.manifestId) with
  | .ok existing =>
    if existing = manifest then return true
    else throw ⟨"blueprint_manifest_duplicate", "blueprint_manifest_duplicate: manifest_id=" ++ manifest.manifestId⟩
  | .error error =>
    let message := queueStoreErrorDisplay error
    if containsText message "blueprint_manifest_missing" then return false
    else throw ⟨"blueprint_manifest_duplicate", message⟩

/-- The draft without the fields that its life changes. -/
def normalizedDraftIdentity (draft : BlueprintDraftDocument) : BlueprintDraftDocument :=
  { draft with
    status := .queued
    currentRevision := 0
    latestBlueprintId := none
    latestCritiqueId := none
    updatedAt := none }

/-- The files of the draft among these states; each has to be the same draft. -/
def equivalentDraftFiles (draft : BlueprintDraftDocument) : List DraftState →
    EffectM BlueprintEffectError (List DraftPath)
  | [] => return []
  | state :: rest => do
    let path : DraftPath := ⟨state, draft.draftId⟩
    let s ← get
    if (s.store.drafts.file path).isNone then equivalentDraftFiles draft rest
    else do
      let existing ← adapt (fun error => BlueprintEffectError.mk "blueprint_draft_duplicate"
        ("existing draft " ++ draft.draftId ++ " cannot be validated: " ++ queueStoreErrorDisplay error))
        (onDrafts (readBlueprintDraft env path))
      if normalizedDraftIdentity existing ≠ normalizedDraftIdentity draft then
        throw ⟨"blueprint_draft_duplicate", "blueprint_draft_duplicate: draft_id=" ++ draft.draftId⟩
      let later ← equivalentDraftFiles draft rest
      return path :: later

def managerDraftExistsEquivalent (draft : BlueprintDraftDocument) : EffectM BlueprintEffectError Bool := do
  let entries ← equivalentDraftFiles env draft [.queue, .active, .approved, .blocked, .canceled, .superseded]
  if 1 < entries.length then
    throw ⟨"blueprint_draft_duplicate", "blueprint_draft_duplicate: draft_id=" ++ draft.draftId ++ " in " ++
      ", ".intercalate (entries.map fun path => absolute env.toEnvironment path.relative)⟩
  return !entries.isEmpty

def existingDraftIds : List BlueprintDraftDocument → EffectM BlueprintEffectError (List String)
  | [] => return []
  | draft :: rest => do
    let there ← managerDraftExistsEquivalent env draft
    let later ← existingDraftIds rest
    return if there then draft.draftId :: later else later

end Existing

/-! ## The handler -/

inductive SourceState where
  | active | target | invalid
  deriving DecidableEq, Repr

/-- The done specs, or the resolved incidents, are where a source goes. -/
def sourceStateOf (w : Workspace) (kind : WorkItemKind) (itemId : String) : SourceState :=
  if kind = .spec ∨ kind = .incident then
    if (w.file ⟨⟨kind, .active, none⟩, itemId⟩).isSome then .active
    else if (w.file ⟨⟨kind, .done, none⟩, itemId⟩).isSome then .target
    else .invalid
  else .invalid

/-- A failure of the manager, with whether it blocks its source. -/
structure ManagerFailure where
  failureClass : String
  message : String
  blocksSource : Bool
  deriving DecidableEq, Repr

def BlueprintEffectError.managerFailure (error : BlueprintEffectError) : ManagerFailure :=
  ⟨error.failureClass, error.message, true⟩

def managerWriteFailureClass (message : String) (created : List String) : String :=
  if created ≠ [] then "blueprint_partial_mutation"
  else if containsText message "blueprint_manifest_duplicate" ∨
      (containsText message "Blueprint artifact already exists" ∧ containsText message "manifests") then
    "blueprint_manifest_duplicate"
  else if (containsText message "blueprint draft" ∧ containsText message "already exists") ∨
      containsText message "blueprint_draft_duplicate" then
    "blueprint_draft_duplicate"
  else "blueprint_partial_mutation"

def managerSourceLifecycleState (r : StageResultEnvelope) : EffectM ManagerFailure SourceState :=
  return sourceStateOf (← get).store.drafts.world.workspace r.workItemKind r.workItemId

def sourceNotActive (r : StageResultEnvelope) : ManagerFailure :=
  ⟨"blueprint_source_lifecycle_invalid", "source work item is not active: " ++ r.workItemId, false⟩

section Manager
variable (env : DraftEnvironment) (r : StageResultEnvelope) (run : RunArtifacts)

/-- One write of the manager; the path is recorded once the file is there. -/
def managerWrite (write : EffectM QueueStoreError String) : EffectM ManagerFailure Unit := do
  let s ← get
  let path ← adapt (fun error =>
    let message := queueStoreErrorDisplay error
    ManagerFailure.mk (managerWriteFailureClass message s.created) message true) write
  pushCreated path

def enqueueMissingDrafts (existing : List String) (drafts : List BlueprintDraftDocument) :
    EffectM ManagerFailure Unit :=
  (drafts.filter fun draft => !existing.contains draft.draftId).forM fun draft =>
    managerWrite (DraftPath.relative <$> onDrafts (enqueueBlueprintDraft env draft))

def managerWrites (manifest : BlueprintManifestDocument) (manifestExists : Bool) (existing : List String)
    (drafts : List BlueprintDraftDocument) : EffectM ManagerFailure Unit := do
  if manifestExists then enqueueMissingDrafts env existing drafts
  else
    managerWrite (writeBlueprintManifest env manifest)
    enqueueMissingDrafts env existing drafts

def completionIntent : SourceLifecycleIntent :=
  sourceLifecycleIntentForEffect r (completeLifecyclePlanId r.workItemKind) .complete

def queuedMessage (drafts : List BlueprintDraftDocument) : String :=
  "queued " ++ toString drafts.length ++ " blueprint draft(s)"

def managerSteps : EffectM ManagerFailure (Option SourceLifecycleIntent × String) := do
  let manifest ← ofExcept ((readManagerJsonModel BlueprintManifestDocument.validateContract "blueprint_manifest.json"
    "blueprint_manifest_missing" "blueprint_manifest_parse_error" "blueprint_manifest_schema_invalid"
    run.manifest).mapError BlueprintEffectError.managerFailure)
  let drafts ← ofExcept ((readManagerJsonModelList BlueprintDraftDocument.validateContract "blueprint_drafts.json"
    "blueprint_drafts_missing" "blueprint_drafts_parse_error" "blueprint_drafts_schema_invalid"
    run.drafts).mapError BlueprintEffectError.managerFailure)
  ofExcept ((validateManagerOutput r manifest drafts).mapError fun message =>
    ⟨"blueprint_manifest_draft_mismatch", message, true⟩)
  let manifestExists ← adapt BlueprintEffectError.managerFailure (managerManifestExistsEquivalent env manifest)
  let existing ← adapt BlueprintEffectError.managerFailure (existingDraftIds env drafts)
  match manifestExists && existing.dedup.length == drafts.length, ← managerSourceLifecycleState r with
  | true, .active => return (some (completionIntent r), queuedMessage drafts)
  | true, .target => return (none, "blueprint draft output already exists for " ++ manifest.manifestId)
  | false, .active => do
    managerWrites env manifest manifestExists existing drafts
    return (some (completionIntent r), queuedMessage drafts)
  | _, _ => throw (sourceNotActive r)

def managerBlueprintManifestToBlueprintDrafts (s : BlueprintStore) : RuntimeEffectResult × BlueprintStore :=
  match managerSteps env r run ⟨s.restart, []⟩ with
  | .ok (intent, message) t =>
    (blueprintSuccess managerHandlerId .requestCompleteSource t.created intent message, t.store)
  | .error failure t =>
    (blueprintFailure r managerHandlerId failure.failureClass failure.message t.created failure.blocksSource, t.store)

def runBlueprintEffectHandler (handlerId : String) (s : BlueprintStore) :
    Option (RuntimeEffectResult × BlueprintStore) :=
  if handlerId = managerHandlerId then some (managerBlueprintManifestToBlueprintDrafts env r run s)
  else if handlerId = contractorHandlerId then some (contractorBlueprintCandidatePersist env r run s)
  else if handlerId = approvalHandlerId then some (evaluatorBlueprintApprovedToTask env r run s)
  else if handlerId = rejectionHandlerId then some (evaluatorBlueprintRejectedToDraftRevision env r run s)
  else none

end Manager
end
end Millrace.Blueprints

import Millrace.Blueprints.Contracts
import Millrace.Workspace.QueueStore

/-! The directories of Blueprint drafts, and the operations that move drafts between them. -/

set_option autoImplicit false

namespace Millrace.Blueprints
open Millrace.Text Millrace.Contracts Millrace.WorkDocuments Millrace.Action Millrace.Queue

/-! ## Directories -/

inductive DraftState where
  | queue | active | approved | blocked | canceled | superseded
  deriving DecidableEq, Repr

def DraftState.name : DraftState → String
  | .queue => "queue"
  | .active => "active"
  | .approved => "approved"
  | .blocked => "blocked"
  | .canceled => "canceled"
  | .superseded => "superseded"

/-- The file of a draft: `<stem>.json` in the directory of a state. -/
structure DraftPath where
  state : DraftState
  stem : String
  deriving DecidableEq, Repr

def draftsDir (state : DraftState) : String := "millrace-agents/blueprints/drafts/" ++ state.name

def DraftPath.relative (path : DraftPath) : String := draftsDir path.state ++ "/" ++ path.stem ++ ".json"

section
variable [Rfc3339]

abbrev DraftFiles := Std.ExtTreeMap String BlueprintDraftDocument compare

/-- The queue, the drafts of each state, and how many files were asked to be removed so far. -/
structure DraftWorld where
  world : World
  drafts : DraftState → DraftFiles
  removals : Nat

/-- Removals have answers of their own: a file is removed only after its content was written elsewhere. -/
structure DraftEnvironment extends Environment where
  removal : Nat → Option String

namespace DraftWorld

def empty : DraftWorld := ⟨⟨Workspace.empty, 0⟩, fun _ => ∅, 0⟩

def file (s : DraftWorld) (path : DraftPath) : Option BlueprintDraftDocument := (s.drafts path.state)[path.stem]?

def insert (s : DraftWorld) (path : DraftPath) (draft : BlueprintDraftDocument) : DraftWorld :=
  { s with drafts := fun state =>
      if state = path.state then (s.drafts path.state).insert path.stem draft else s.drafts state }

def erase (s : DraftWorld) (path : DraftPath) : DraftWorld :=
  { s with drafts := fun state =>
      if state = path.state then (s.drafts path.state).erase path.stem else s.drafts state }

@[simp] theorem file_empty (path : DraftPath) : empty.file path = none := by
  simp [file, empty]

theorem file_insert (s : DraftWorld) (path path' : DraftPath) (draft : BlueprintDraftDocument) :
    (s.insert path draft).file path' = if path' = path then some draft else s.file path' := by
  obtain ⟨state, stem⟩ := path
  obtain ⟨state', stem'⟩ := path'
  by_cases same : state' = state
  · subst same
    simp [file, insert, Std.ExtTreeMap.getElem?_insert, eq_comm (a := stem')]
  · simp [file, insert, same]

theorem file_erase (s : DraftWorld) (path path' : DraftPath) :
    (s.erase path).file path' = if path' = path then none else s.file path' := by
  obtain ⟨state, stem⟩ := path
  obtain ⟨state', stem'⟩ := path'
  by_cases same : state' = state
  · subst same
    simp [file, erase, Std.ExtTreeMap.getElem?_erase, eq_comm (a := stem')]
  · simp [file, erase, same]

/-- The JSON files of a directory in the order of their names. -/
def jsonFiles (s : DraftWorld) (state : DraftState) : List DraftPath :=
  ((s.drafts state).keys.mergeSort fun a b => decide (a ++ ".json" ≤ b ++ ".json")).map (⟨state, ·⟩)

theorem mem_jsonFiles (s : DraftWorld) (state : DraftState) (path : DraftPath) :
    path ∈ s.jsonFiles state ↔ path.state = state ∧ (s.file path).isSome := by
  obtain ⟨state', stem⟩ := path
  simp only [jsonFiles, List.mem_map, List.mem_mergeSort, Std.ExtTreeMap.mem_keys, DraftPath.mk.injEq,
    file, Std.ExtTreeMap.isSome_getElem?_eq_contains, Std.ExtTreeMap.contains_iff_mem]
  grind

end DraftWorld

/-! ## File operations -/

abbrev DraftM (α : Type) := EStateM QueueStoreError DraftWorld α

def onQueue {α : Type} : StoreM α → DraftM α := onPart DraftWorld.world fun s world => { s with world := world }

section Files
variable (env : DraftEnvironment)

def draftExists (path : DraftPath) : DraftM Bool := return ((← get).file path).isSome

def listJsonFiles (state : DraftState) : DraftM (List DraftPath) := do
  onQueue (fileOperation env.toEnvironment (draftsDir state))
  return (← get).jsonFiles state

def readBlueprintDraft (path : DraftPath) : DraftM BlueprintDraftDocument := do
  onQueue (fileOperation env.toEnvironment path.relative)
  match (← get).file path with
  | none => throw (.io (absolute env.toEnvironment path.relative) "No such file or directory (os error 2)")
  | some draft =>
    match draft.validateContract with
    | .error error => throw (.invalidState
        ("Blueprint artifact " ++ absolute env.toEnvironment path.relative ++ " is invalid: " ++ error.display))
    | .ok () => return draft

/-- The text is written under another name first, which no listing shows. -/
def writeJsonDocument (path : DraftPath) (draft : BlueprintDraftDocument) : DraftM DraftPath := do
  match draft.validateContract with
  | .error error => throw (.invalidState error.display)
  | .ok () =>
    onQueue (fileOperation env.toEnvironment (draftsDir path.state))
    onQueue (fileOperation env.toEnvironment (draftsDir path.state ++ "/." ++ path.stem ++ ".json.tmp"))
    onQueue (fileOperation env.toEnvironment path.relative)
    modify (·.insert path draft)
    return path

def writeUniqueJsonDocument (path : DraftPath) (draft : BlueprintDraftDocument) : DraftM DraftPath := do
  if ← draftExists path then
    throw (.invalidState ("Blueprint artifact already exists: " ++ absolute env.toEnvironment path.relative))
  else writeJsonDocument env path draft

def removeFile (path : DraftPath) : DraftM Unit := do
  let s ← get
  set { s with removals := s.removals + 1 }
  match env.removal s.removals with
  | some message => throw (.io (absolute env.toEnvironment path.relative) message)
  | none => modify (·.erase path)

/-! ## Enqueueing and claiming -/

def ensureUniqueBlueprintDraft (draftId : String) : DraftM Unit := do
  match validateSafeIdentifier draftId "draft_id" with
  | .error error => throw (.invalidState error.display)
  | .ok () =>
    let s ← get
    if [DraftState.queue, .active, .approved, .blocked, .canceled, .superseded].any fun state =>
        (s.file ⟨state, draftId⟩).isSome then
      throw (.invalidState ("blueprint draft " ++ draftId ++ " already exists"))

def enqueueBlueprintDraft (draft : BlueprintDraftDocument) : DraftM DraftPath := do
  ensureUniqueBlueprintDraft draft.draftId
  writeUniqueJsonDocument env ⟨.queue, draft.draftId⟩ { draft with status := .queued }

/-- The stems of the drafts that others may depend on. -/
def completedDependencyDraftIds : DraftM (List String) := do
  let approved ← listJsonFiles env .approved
  let canceled ← listJsonFiles env .canceled
  let superseded ← listJsonFiles env .superseded
  return (approved ++ canceled ++ superseded).map (·.stem)

structure DraftCandidate where
  draft : BlueprintDraftDocument
  path : DraftPath
  deriving DecidableEq

/-- The order of the draft index, the text of the creation time, and the id. -/
def DraftCandidate.before (a b : DraftCandidate) : Bool :=
  a.draft.draftIndex < b.draft.draftIndex || (a.draft.draftIndex == b.draft.draftIndex &&
    (a.draft.createdAt.text < b.draft.createdAt.text || (a.draft.createdAt.text == b.draft.createdAt.text &&
      a.draft.draftId ≤ b.draft.draftId)))

def isEligibleDraft (completed : List String) (rootSpecId : Option String) (draft : BlueprintDraftDocument) : Bool :=
  rootSpecId.all (draft.rootSpecId == ·) && draft.dependsOnDraftIds.all completed.contains

def collectDraftCandidates (completed : List String) (rootSpecId : Option String) :
    List DraftPath → DraftM (List DraftCandidate)
  | [] => return []
  | path :: rest => do
    let draft ← readBlueprintDraft env path
    if path.stem ≠ draft.draftId then
      throw (.invalidState ("filename stem does not match draft_id: expected " ++ draft.draftId ++ ", found " ++
        path.stem))
    let later ← collectDraftCandidates completed rootSpecId rest
    return if isEligibleDraft completed rootSpecId draft then ⟨draft, path⟩ :: later else later

def selectNextEligibleDraft (rootSpecId : Option String) : DraftM (Option DraftCandidate) := do
  let completed ← completedDependencyDraftIds env
  let queued ← listJsonFiles env .queue
  let candidates ← collectDraftCandidates env completed rootSpecId queued
  return (candidates.mergeSort DraftCandidate.before).head?

structure DraftClaim where
  workItemKind : WorkItemKind
  workItemId : String
  path : DraftPath
  sourceState : String
  sourcePath : DraftPath
  claimPolicyId : String
  claimOrder : Nat
  deriving DecidableEq

/-- There is one process: the selected file cannot vanish, and its place among the active ones cannot be taken. -/
def claimNextBlueprintDraft (rootSpecId : Option String) : DraftM (Option DraftClaim) := do
  let active ← listJsonFiles env .active
  if active.length > 1 then throw (.invalidState "multiple active blueprint drafts found")
  if active ≠ [] then return none
  match ← selectNextEligibleDraft env rootSpecId with
  | none => return none
  | some ⟨draft, source⟩ =>
    let path ← writeUniqueJsonDocument env ⟨.active, source.stem⟩ { draft with status := .active }
    removeFile env source
    return some {
      workItemKind := .blueprintDraft
      workItemId := draft.draftId
      path := path
      sourceState := "queue"
      sourcePath := source
      claimPolicyId := "planning.default"
      claimOrder := 1 }

/-! ## Moving drafts -/

def moveBlueprintDraft (draftId : String) (sourceState targetState : DraftState) (status : BlueprintDraftStatus) :
    DraftM DraftPath := do
  let source : DraftPath := ⟨sourceState, draftId⟩
  let destination : DraftPath := ⟨targetState, draftId⟩
  if !(← draftExists source) then throw (.invalidState ("active blueprint draft " ++ draftId ++ " not found"))
  if ← draftExists destination then throw (.invalidState ("blueprint draft " ++ draftId ++ " already exists"))
  let draft ← readBlueprintDraft env source
  let _ ← writeUniqueJsonDocument env destination { draft with status := status }
  removeFile env source
  return destination

def approveActiveBlueprintDraft (draftId : String) : DraftM DraftPath :=
  moveBlueprintDraft env draftId .active .approved .approved

def blockActiveBlueprintDraft (draftId : String) : DraftM DraftPath :=
  moveBlueprintDraft env draftId .active .blocked .blocked

def requeueActiveBlueprintDraft (draftId : String) : DraftM DraftPath :=
  moveBlueprintDraft env draftId .active .queue .queued

def cancelBlueprintDraft (draftId : String) : DraftM DraftPath := do
  let s ← get
  match [DraftState.queue, .active, .blocked].find? fun state => (s.file ⟨state, draftId⟩).isSome with
  | some state => moveBlueprintDraft env draftId state .canceled .canceled
  | none => throw (.invalidState ("blueprint draft " ++ draftId ++ " not found"))

def updateActiveBlueprintDraft (draft : BlueprintDraftDocument) : DraftM DraftPath := do
  let destination : DraftPath := ⟨.active, draft.draftId⟩
  if !(← draftExists destination) then
    throw (.invalidState ("active blueprint draft " ++ draft.draftId ++ " not found"))
  writeJsonDocument env destination { draft with status := .active }

end Files

end
end Millrace.Blueprints

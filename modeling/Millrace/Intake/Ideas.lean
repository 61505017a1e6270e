import Millrace.Advance
import Millrace.Runtime.PollWatcher
import Millrace.Workspace.QueueStore

/-! Intake of ideas: a file that the watcher saw in the inbox becomes a source artifact and a queued spec. -/

set_option autoImplicit false

namespace Millrace.Intake
open Millrace.Text Millrace.Contracts Millrace.WorkDocuments Millrace.Action
open Millrace.Queue (ItemState Directory DocumentPath Workspace World StoreM QueueStoreError Environment absolute)
open Millrace.Runtime.PollWatcher (PathBuf)

/-! ## Names -/

/-- The name without its last extension. -/
def fileStem (p : PathBuf) : Option PathBuf :=
  let name := p.fileName
  if name = [] ∨ name = Runtime.PollWatcher.path ['.', '.'] then none
  else
    match name.reverse.dropWhile (· ≠ .char '.') with
    | _ :: before :: rest => some (before :: rest).reverse
    | _ => some name

/-- The text by which a file is called. -/
def ideaStem (p : PathBuf) : List Char := ((fileStem p).bind PathBuf.toStr).getD "idea".toList

/-- Each run of other characters becomes one dash. -/
def replaced : Bool → List Char → List Char
  | _, [] => []
  | previousWasReplacement, c :: rest =>
    if isIdentifierTail c then c :: replaced false rest
    else if previousWasReplacement then replaced true rest
    else '-' :: replaced true rest

def isEdge (c : Char) : Bool := c == '-' || c == '.'

def trimEdges (s : List Char) : List Char := (s.dropWhile isEdge).rdropWhile isEdge

def ideaMark : List Char := "idea-".toList

def orIdea (normalized : List Char) : List Char := if normalized = [] then "idea".toList else normalized

def markIdea (normalized : List Char) : List Char :=
  if ideaMark.isPrefixOf normalized then normalized else ideaMark ++ normalized

/-- The spec id that a stem stands for. -/
def specIdOfStem (stem : List Char) : List Char := markIdea (orIdea (trimEdges (replaced false stem)))

def safeSpecIdFromIdeaPath (p : PathBuf) : String := String.ofList (specIdOfStem (ideaStem p))

/-- A path of the workspace as text. -/
def workspaceRelative (p : PathBuf) : String :=
  String.ofList (p.toStringLossy.map fun c => if c = '\\' then '/' else c)

/-! ## Documents -/

def headingText (line : List Char) : List Char := trim (line.dropWhile (· == '#'))

def ideaLines (content : String) : List (List Char) := ((lines content.toList).map trim).filter (· ≠ [])

/-- The first heading with a text, else the first line, else the name of the file. -/
def ideaTitle (content : String) (fallback : List Char) : List Char :=
  let ls := ideaLines content
  let title := (ls.findSome? fun line =>
    if line.head? = some '#' ∧ headingText line ≠ [] then some (headingText line) else none).getD fallback
  if title = fallback then ls.headD title else title

/-- The first line that says something else than the title. -/
def ideaSummary (content : String) (fallback : List Char) : List Char :=
  ((ideaLines content).findSome? fun line =>
    if headingText line ≠ [] ∧ headingText line ≠ ideaTitle content fallback then some (headingText line) else none).getD
      ("Idea captured from ".toList ++ fallback)

def sourceArtifactPath (specId : String) : String := "millrace-agents/intake/ideas/" ++ specId ++ ".md"

def ideaReferences (durable transient : String) : List String :=
  if durable = transient then [durable] else [durable, transient]

section
variable [Rfc3339]

/-- The spec of an idea. -/
def ideaDocument (ideaPath : PathBuf) (content : String) (now : Timestamp) : SpecDocument :=
  let specId := safeSpecIdFromIdeaPath ideaPath
  let fallback := ideaStem ideaPath
  let summary := String.ofList (ideaSummary content fallback)
  { specId
    title := String.ofList (ideaTitle content fallback)
    summary
    sourceType := .idea
    sourceId := some specId
    parentSpecId := none
    rootIdeaId := some specId
    rootSpecId := some specId
    rootIntakeKind := none
    rootIntakeId := none
    goals := [summary]
    nonGoals := []
    scope := []
    constraints := ["generated from ideas/inbox watcher event"]
    assumptions := []
    risks := []
    targetPaths := []
    entrypoints := []
    requiredSkills := []
    decompositionHints := []
    acceptance := ["planner processes this idea-derived spec"]
    references := ideaReferences (sourceArtifactPath specId) (workspaceRelative ideaPath)
    createdAt := now
    createdBy := "watcher"
    updatedAt := none }

/-- A spec that stands for an idea: by its id, its root idea or a reference. -/
def represents (specId ideaReference : String) (document : SpecDocument) : Bool :=
  document.specId = specId || document.rootIdeaId = some specId || document.references.contains ideaReference

/-! ## The workspace -/

/-- What is found at a path of the inbox. -/
inductive InboxEntry where
  | absent
  | unreadable (message : String)
  | file (content : String)
  deriving DecidableEq

inductive IdeaEvent where
  | sourceArtifactWriteFailed (ideaPath specId : String) (error : QueueStoreError)
  | normalizationSkipped (ideaPath specId reason : String)
  | normalizedToSpec (ideaPath sourceArtifact specId specPath : String)
  deriving DecidableEq

/-- The work documents, the source artifacts by their root idea, and the runtime events. -/
structure IdeaWorld where
  queue : World
  artifacts : String → Option String
  events : List IdeaEvent

/-- What it wrote before it failed stays written. -/
abbrev IdeaM (α : Type) := EStateM QueueStoreError IdeaWorld α

def onQueue {α : Type} (x : StoreM α) : IdeaM α := onPart IdeaWorld.queue (fun s queue => { s with queue }) x

section Steps
variable (env : Environment)

def writeRuntimeEvent (event : IdeaEvent) : IdeaM Unit := do
  onQueue (Queue.fileOperation env "millrace-agents/logs/runtime_events.jsonl")
  modify fun s => { s with events := s.events ++ [event] }

def writeIdeaSourceArtifact (rootIdeaId content : String) : IdeaM Unit := do
  match validateSafeIdentifier rootIdeaId "root_idea_id" with
  | .error error => throw (.workDocument rootIdeaId (.contract error))
  | .ok () =>
    onQueue (Queue.fileOperation env "millrace-agents/intake/ideas")
    onQueue (Queue.fileOperation env (sourceArtifactPath rootIdeaId))
    modify fun s => { s with artifacts := fun id => if id = rootIdeaId then some content else s.artifacts id }

/-- A spec file that cannot be read or parsed stands for nothing. -/
def readSpec (path : DocumentPath) : StoreM (Option SpecDocument) := do
  let read : Except QueueStoreError (Option String) ← attempt (Queue.readIfPresent env path)
  return (read.toOption.bind id).bind fun raw =>
    (parseSpecDocumentWithSource raw (absolute env path.relative)).toOption

def anyRepresents (specId ideaReference : String) : List DocumentPath → StoreM Bool
  | [] => return false
  | path :: rest => do
    let document ← readSpec env path
    if document.any (represents specId ideaReference) then return true
    else anyRepresents specId ideaReference rest

def specStates : List ItemState := [.queue, .active, .done, .blocked]

def representedIn (specId ideaReference : String) : List ItemState → StoreM Bool
  | [] => return false
  | state :: rest => do
    let found ← anyRepresents env specId ideaReference (← Queue.listMarkdownFiles env ⟨.spec, state, none⟩)
    if found then return true else representedIn specId ideaReference rest

def ideaAlreadyRepresented (specId ideaReference : String) : StoreM Bool := representedIn env specId ideaReference specStates

def isAlreadyExists : QueueStoreError → Bool
  | .invalidState message => decide ("already exists".toList <:+: message.toList)
  | _ => false

/-- `normalize_idea_watch_event`: whether the event is handled. -/
def normalizeIdeaWatchEvent (inbox : PathBuf → InboxEntry) (ideaPath : PathBuf) (now : Timestamp) : IdeaM Bool :=
  match inbox ideaPath with
  | .absent => return false
  | .unreadable message => throw (.io (workspaceRelative ideaPath) message)
  | .file content => do
    let specId := safeSpecIdFromIdeaPath ideaPath
    let ideaReference := workspaceRelative ideaPath
    let skip : IdeaM Bool := do
      writeRuntimeEvent env (.normalizationSkipped ideaReference specId "already_represented")
      return true
    match ← attempt (writeIdeaSourceArtifact env specId content) with
    | .error error => do
      writeRuntimeEvent env (.sourceArtifactWriteFailed ideaReference specId error)
      return false
    | .ok () => do
      if ← onQueue (ideaAlreadyRepresented env specId ideaReference) then skip
      else do
        match ← attempt (onQueue (Queue.enqueueSpec env (ideaDocument ideaPath content now))) with
        | .error error => if isAlreadyExists error then skip else throw error
        | .ok destination => do
          writeRuntimeEvent env
            (.normalizedToSpec ideaReference (sourceArtifactPath specId) specId destination.relative)
          return true

end Steps
end

end Millrace.Intake

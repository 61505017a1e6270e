import Millrace.Workspace.Files

/-! The work of a root lineage: the scans that closure readiness rests on, and the lineage drift. -/

set_option autoImplicit false

namespace Millrace.Closure
open Millrace.Text Millrace.Contracts Millrace.WorkDocuments Millrace.Action
open Millrace.Queue (ItemState Directory DocumentPath)

/-! ## Work files -/

/-- A file of a work directory; no document where it cannot be read as one. -/
structure WorkFile (α : Type) where
  stem : String
  document : Option α

structure BlueprintDraftDocument where
  draftId : String
  rootSpecId : String
  rootIdeaId : String

structure BlueprintPacketDocument where
  blueprintId : String
  rootSpecId : String
  rootIdeaId : String

structure BlueprintPromotionRecord where
  promotionId : String
  blueprintId : String
  rootSpecId : String
  rootIdeaId : String
  generatedTaskId : String

inductive ClosureError where
  | io (message : String)
  | workDocument (stem : String)
  | missingClosureTarget (rootSpecId : String)
  | contract (source : WorkDocumentError)
  | invalidState (message : String)
  deriving DecidableEq, Repr

/-- A set of strings in its order. -/
def sortedUnique (values : List String) : List String := values.dedup.mergeSort

theorem mem_sortedUnique {values : List String} {value : String} : value ∈ sortedUnique values ↔ value ∈ values := by
  rw [sortedUnique, List.mem_mergeSort, List.mem_dedup]

theorem sortedUnique_eq_nil {values : List String} (empty : sortedUnique values = []) : values = [] := by
  apply List.eq_nil_iff_forall_not_mem.mpr
  intro value member
  have there := mem_sortedUnique.mpr member
  rw [empty] at there
  cases there

/-! ## References to open Blueprint work -/

structure ClosureBlockingWorkRef where
  blockerType : String
  reason : String
  workItemFamilyId : Option String
  workItemKind : Option WorkItemKind
  workItemId : Option String
  state : Option String
  rootSpecId : Option String
  rootIdeaId : Option String
  artifactPath : Option String
  detail : Option String
  deriving DecidableEq, Repr

def blueprintsPath (directory stem : String) : String := "blueprints/" ++ directory ++ "/" ++ stem ++ ".json"

def invalidRef (path : String) : ClosureBlockingWorkRef where
  blockerType := "blueprint_invalid"
  reason := "invalid_artifact"
  workItemFamilyId := none
  workItemKind := none
  workItemId := none
  state := none
  rootSpecId := none
  rootIdeaId := none
  artifactPath := some path
  detail := none

/-- What one Blueprint artifact contributes: a reference where it is of the root, or cannot be read at all. -/
def artifactRef {α : Type} (rootSpecId directory : String) (rootOf : α → String)
    (reference : String → α → Option ClosureBlockingWorkRef) (file : WorkFile α) : Option ClosureBlockingWorkRef :=
  let path := blueprintsPath directory file.stem
  match file.document with
  | none => some (invalidRef path)
  | some document => if rootOf document = rootSpecId then reference path document else none

def draftRef (state : ItemState) (path : String) (draft : BlueprintDraftDocument) : ClosureBlockingWorkRef where
  blockerType := "blueprint_draft"
  reason := "open_blueprint_draft"
  workItemFamilyId := some "blueprint_draft"
  workItemKind := some .blueprintDraft
  workItemId := some draft.draftId
  state := some (state.name .blueprintDraft)
  rootSpecId := some draft.rootSpecId
  rootIdeaId := some draft.rootIdeaId
  artifactPath := some path
  detail := none

def candidateRef (path : String) (packet : BlueprintPacketDocument) : ClosureBlockingWorkRef where
  blockerType := "blueprint_candidate"
  reason := "candidate_packet"
  workItemFamilyId := some "blueprint_packet"
  workItemKind := none
  workItemId := some packet.blueprintId
  state := some "candidates"
  rootSpecId := some packet.rootSpecId
  rootIdeaId := some packet.rootIdeaId
  artifactPath := some path
  detail := none

def approvedRef (rootSpecId path : String) (packet : BlueprintPacketDocument) : ClosureBlockingWorkRef where
  blockerType := "blueprint_approved"
  reason := "missing_promotion"
  workItemFamilyId := some "blueprint_packet"
  workItemKind := none
  workItemId := some packet.blueprintId
  state := some "approved"
  rootSpecId := some rootSpecId
  rootIdeaId := some packet.rootIdeaId
  artifactPath := some path
  detail := none

/-- The documents of these files that are of the root. -/
def documentsUnder {α : Type} (rootOf : α → String) (rootSpecId : String) (files : List (WorkFile α)) : List (String × α) :=
  files.filterMap fun file =>
    (file.document.filter fun document => rootOf document = rootSpecId).map fun document => (file.stem, document)

theorem artifactRef_none {α : Type} {rootSpecId directory : String} {rootOf : α → String}
    {reference : String → α → Option ClosureBlockingWorkRef} {files : List (WorkFile α)}
    (none : files.filterMap (artifactRef rootSpecId directory rootOf reference) = []) {file : WorkFile α}
    (listed : file ∈ files) {document : α} (reads : file.document = some document) (root : rootOf document = rootSpecId) :
    reference (blueprintsPath directory file.stem) document = Option.none := by
  have unlisted := List.filterMap_eq_nil_iff.mp none file listed
  simpa [artifactRef, reads, root] using unlisted

def ClosureBlockingWorkRef.key (reference : ClosureBlockingWorkRef) :
    String × Option String × String × Option String :=
  (reference.blockerType, reference.workItemId, reference.reason, reference.artifactPath)

def pushUniqueRef (refs : List ClosureBlockingWorkRef) (reference : ClosureBlockingWorkRef) :
    List ClosureBlockingWorkRef :=
  if refs.any fun earlier => earlier.key == reference.key then refs else refs ++ [reference]

theorem pushUniqueRef_ne_nil (refs : List ClosureBlockingWorkRef) (reference : ClosureBlockingWorkRef) :
    pushUniqueRef refs reference ≠ [] := by
  unfold pushUniqueRef
  split
  next seen =>
    obtain ⟨earlier, member, _⟩ := List.any_eq_true.mp seen
    exact List.ne_nil_of_mem member
  next => simp

theorem foldl_pushUniqueRef_ne_nil {l refs : List ClosureBlockingWorkRef} (some : refs ≠ []) :
    l.foldl pushUniqueRef refs ≠ [] := by
  induction l generalizing refs with
  | nil => exact some
  | cons reference rest ih => exact ih (pushUniqueRef_ne_nil refs reference)

/-! ## The work of a workspace -/

section Files
variable [Rfc3339]

/-- The directories that closure looks into. A probe names no root spec, so its directories hold no work of a root. -/
structure LineageWork where
  tasks : ItemState → List (WorkFile TaskDocument)
  specs : ItemState → List (WorkFile SpecDocument)
  incidents : ItemState → List (WorkFile IncidentDocument)
  drafts : ItemState → List (WorkFile BlueprintDraftDocument)
  approved : List (WorkFile BlueprintPacketDocument)
  candidates : List (WorkFile BlueprintPacketDocument)
  promotions : List (WorkFile BlueprintPromotionRecord)

def LineageWork.empty : LineageWork where
  tasks _ := []
  specs _ := []
  incidents _ := []
  drafts _ := []
  approved := []
  candidates := []
  promotions := []

inductive SurfaceDocument where
  | task (document : TaskDocument)
  | spec (document : SpecDocument)
  | incident (document : IncidentDocument)

def rootedInItself (sourceType : SpecSourceType) : Bool :=
  sourceType == .idea || sourceType == .manual

def SurfaceDocument.effectiveRootSpecId : SurfaceDocument → Option String
  | .task document => document.rootSpecId.or document.specId
  | .spec document => document.rootSpecId.or (if rootedInItself document.sourceType then some document.specId else none)
  | .incident document => document.rootSpecId.or document.sourceSpecId

def SurfaceDocument.itemId : SurfaceDocument → String
  | .task document => document.taskId
  | .spec document => document.specId
  | .incident document => document.incidentId

def SurfaceDocument.rootIdeaId : SurfaceDocument → Option String
  | .task document => document.rootIdeaId
  | .spec document => document.rootIdeaId
  | .incident document => document.rootIdeaId

def SurfaceDocument.documentSpecId : SurfaceDocument → Option String
  | .task document => document.specId
  | .spec document => some document.specId
  | .incident document => document.sourceSpecId

/-! ## Open lineage work -/

def openStates : List ItemState := [.queue, .active, .blocked]

/-- The ids of the documents under the root; a file that cannot be read fails the scan. -/
def collectLineageIds {α : Type} (surface : α → SurfaceDocument) (rootSpecId : String) :
    List (WorkFile α) → Except ClosureError (List String)
  | [] => return []
  | file :: rest =>
    match file.document with
    | none => throw (.workDocument file.stem)
    | some document => do
      let ids ← collectLineageIds surface rootSpecId rest
      return if (surface document).effectiveRootSpecId = some rootSpecId then (surface document).itemId :: ids else ids

def collectTaskLineageIds (rootSpecId : String) (files : List (WorkFile TaskDocument)) :
    Except ClosureError (List String) := collectLineageIds .task rootSpecId files

def collectSpecLineageIds (rootSpecId : String) (files : List (WorkFile SpecDocument)) :
    Except ClosureError (List String) := collectLineageIds .spec rootSpecId files

def collectIncidentLineageIds (rootSpecId : String) (files : List (WorkFile IncidentDocument)) :
    Except ClosureError (List String) := collectLineageIds .incident rootSpecId files

def openLineageWorkIds (w : LineageWork) (rootSpecId : String) : Except ClosureError (List String) := do
  let tasks ← collectTaskLineageIds rootSpecId (openStates.flatMap w.tasks)
  let specs ← collectSpecLineageIds rootSpecId (openStates.flatMap w.specs)
  let incidents ← collectIncidentLineageIds rootSpecId (openStates.flatMap w.incidents)
  return sortedUnique (tasks ++ specs ++ incidents)

/-! ## Open Blueprint work -/

def generatedTaskDone (w : LineageWork) (taskId : String) : Bool :=
  (w.tasks .done).any (·.stem = taskId)

def generatedTaskOpen (w : LineageWork) (taskId : String) : Bool :=
  openStates.any fun state => (w.tasks state).any (·.stem = taskId)

/-- A promotion whose task is nowhere to be found. -/
def promotionRef (w : LineageWork) (path : String) (promotion : BlueprintPromotionRecord) :
    Option ClosureBlockingWorkRef :=
  if generatedTaskDone w promotion.generatedTaskId || generatedTaskOpen w promotion.generatedTaskId then none
  else some {
    blockerType := "blueprint_promotion"
    reason := "missing_generated_task"
    workItemFamilyId := some "blueprint_promotion"
    workItemKind := none
    workItemId := some promotion.promotionId
    state := some "promoted"
    rootSpecId := some promotion.rootSpecId
    rootIdeaId := some promotion.rootIdeaId
    artifactPath := some path
    detail := some ("generated_task_id=" ++ promotion.generatedTaskId) }

def promotedBlueprintIds (w : LineageWork) (rootSpecId : String) : List String :=
  (documentsUnder BlueprintPromotionRecord.rootSpecId rootSpecId w.promotions).map fun entry => entry.2.blueprintId

/-- The approved packets without a promotion, by blueprint id; of two packets with one id the later file stands. -/
def unpromotedRefs (w : LineageWork) (rootSpecId : String) : List ClosureBlockingWorkRef :=
  let approved := documentsUnder BlueprintPacketDocument.rootSpecId rootSpecId w.approved
  let ids := sortedUnique (approved.map fun entry => entry.2.blueprintId)
  (ids.filter fun id => !(promotedBlueprintIds w rootSpecId).contains id).filterMap fun id =>
    (approved.reverse.find? fun entry => entry.2.blueprintId = id).map fun entry =>
      approvedRef rootSpecId (blueprintsPath "packets/approved" entry.1) entry.2

/-- The references in the order they are found. -/
def blueprintRefs (w : LineageWork) (rootSpecId : String) : List ClosureBlockingWorkRef :=
  ([ItemState.active, .queue, .blocked].flatMap fun state =>
      (w.drafts state).filterMap (artifactRef rootSpecId ("drafts/" ++ state.name .blueprintDraft)
        BlueprintDraftDocument.rootSpecId fun path draft => some (draftRef state path draft))) ++
    w.approved.filterMap (artifactRef rootSpecId "packets/approved" BlueprintPacketDocument.rootSpecId fun _ _ => none) ++
    w.promotions.filterMap
      (artifactRef rootSpecId "promotions" BlueprintPromotionRecord.rootSpecId (promotionRef w)) ++
    unpromotedRefs w rootSpecId ++
    w.candidates.filterMap (artifactRef rootSpecId "packets/candidates" BlueprintPacketDocument.rootSpecId
      fun path packet => some (candidateRef path packet))

def listOpenBlueprintLineageWorkRefs (w : LineageWork) (rootSpecId : String) : List ClosureBlockingWorkRef :=
  (blueprintRefs w rootSpecId).foldl pushUniqueRef []

/-! ## What the scans rule out -/

/-- Work of the root that is queued, incoming, active or blocked, or a Blueprint artifact that waits. -/
inductive OpenWork (w : LineageWork) (rootSpecId : String) : Prop
  | task {state : ItemState} {file : WorkFile TaskDocument} {document : TaskDocument} (isOpen : state ∈ openStates)
    (listed : file ∈ w.tasks state) (reads : file.document = some document)
    (root : (SurfaceDocument.task document).effectiveRootSpecId = some rootSpecId)
  | spec {state : ItemState} {file : WorkFile SpecDocument} {document : SpecDocument} (isOpen : state ∈ openStates)
    (listed : file ∈ w.specs state) (reads : file.document = some document)
    (root : (SurfaceDocument.spec document).effectiveRootSpecId = some rootSpecId)
  | incident {state : ItemState} {file : WorkFile IncidentDocument} {document : IncidentDocument}
    (isOpen : state ∈ openStates) (listed : file ∈ w.incidents state) (reads : file.document = some document)
    (root : (SurfaceDocument.incident document).effectiveRootSpecId = some rootSpecId)
  | draft {state : ItemState} {file : WorkFile BlueprintDraftDocument} {draft : BlueprintDraftDocument}
    (isOpen : state ∈ openStates) (listed : file ∈ w.drafts state) (reads : file.document = some draft)
    (root : draft.rootSpecId = rootSpecId)
  | candidate {file : WorkFile BlueprintPacketDocument} {packet : BlueprintPacketDocument}
    (listed : file ∈ w.candidates) (reads : file.document = some packet) (root : packet.rootSpecId = rootSpecId)
  | approved {file : WorkFile BlueprintPacketDocument} {packet : BlueprintPacketDocument}
    (listed : file ∈ w.approved) (reads : file.document = some packet) (root : packet.rootSpecId = rootSpecId)
    (unpromoted : packet.blueprintId ∉ promotedBlueprintIds w rootSpecId)
  | promotion {file : WorkFile BlueprintPromotionRecord} {promotion : BlueprintPromotionRecord}
    (listed : file ∈ w.promotions) (reads : file.document = some promotion) (root : promotion.rootSpecId = rootSpecId)
    (notDone : generatedTaskDone w promotion.generatedTaskId = false)
    (notOpen : generatedTaskOpen w promotion.generatedTaskId = false)

theorem collectLineageIds_nil {α : Type} {surface : α → SurfaceDocument} {rootSpecId : String}
    {files : List (WorkFile α)} (none : collectLineageIds surface rootSpecId files = .ok []) {file : WorkFile α}
    (listed : file ∈ files) {document : α} (reads : file.document = some document) :
    (surface document).effectiveRootSpecId ≠ some rootSpecId := by
  induction files with
  | nil => cases listed
  | cons first rest ih =>
    cases content : first.document with
    | none => simp only [collectLineageIds, content] at none; cases none
    | some head =>
      simp only [collectLineageIds, content] at none
      obtain ⟨ids, collected, rest_none⟩ := bind_eq_ok.mp none
      have shown := pure_eq_ok.mp rest_none
      by_cases same : (surface head).effectiveRootSpecId = some rootSpecId
      · rw [if_pos same] at shown
        cases shown
      · rw [if_neg same] at shown
        subst shown
        rcases List.mem_cons.mp listed with here | later
        · subst here
          rw [content] at reads
          cases reads
          exact same
        · exact ih collected later

theorem blueprintRefs_nil {w : LineageWork} {rootSpecId : String}
    (none : listOpenBlueprintLineageWorkRefs w rootSpecId = []) : blueprintRefs w rootSpecId = [] := by
  unfold listOpenBlueprintLineageWorkRefs at none
  cases found : blueprintRefs w rootSpecId with
  | nil => rfl
  | cons reference rest =>
    rw [found] at none
    exact absurd none (foldl_pushUniqueRef_ne_nil (l := rest) (pushUniqueRef_ne_nil [] reference))

theorem unpromotedRefs_nil {w : LineageWork} {rootSpecId : String} (none : unpromotedRefs w rootSpecId = [])
    {file : WorkFile BlueprintPacketDocument} (listed : file ∈ w.approved) {packet : BlueprintPacketDocument}
    (reads : file.document = some packet) (root : packet.rootSpecId = rootSpecId) :
    packet.blueprintId ∈ promotedBlueprintIds w rootSpecId := by
  by_contra unpromoted
  have entry : (file.stem, packet) ∈ documentsUnder BlueprintPacketDocument.rootSpecId rootSpecId w.approved := by
    rw [documentsUnder, List.mem_filterMap]
    exact ⟨file, listed, by simp [reads, root]⟩
  have kept : packet.blueprintId ∈ (sortedUnique ((documentsUnder BlueprintPacketDocument.rootSpecId rootSpecId
      w.approved).map fun entry => entry.2.blueprintId)).filter
        fun id => !(promotedBlueprintIds w rootSpecId).contains id := by
    rw [List.mem_filter, mem_sortedUnique, List.mem_map]
    exact ⟨⟨_, entry, rfl⟩, by simpa using unpromoted⟩
  have dropped := List.filterMap_eq_nil_iff.mp none _ kept
  rw [Option.map_eq_none_iff, List.find?_eq_none] at dropped
  exact dropped (file.stem, packet) (List.mem_reverse.mpr entry) (by simp)

/-- Where both scans come back empty, no work of the root is open. -/
theorem no_openWork {w : LineageWork} {rootSpecId : String} (documents : openLineageWorkIds w rootSpecId = .ok [])
    (blueprints : listOpenBlueprintLineageWorkRefs w rootSpecId = []) : ¬ OpenWork w rootSpecId := by
  obtain ⟨tasks, tasksRead, documents⟩ := bind_eq_ok.mp documents
  obtain ⟨specs, specsRead, documents⟩ := bind_eq_ok.mp documents
  obtain ⟨incidents, incidentsRead, documents⟩ := bind_eq_ok.mp documents
  have none := sortedUnique_eq_nil (pure_eq_ok.mp documents)
  simp only [List.append_eq_nil_iff] at none
  obtain ⟨⟨rfl, rfl⟩, rfl⟩ := none
  have refs := blueprintRefs_nil blueprints
  simp only [blueprintRefs, List.append_eq_nil_iff] at refs
  obtain ⟨⟨⟨⟨drafts, _⟩, promotions⟩, unpromoted⟩, candidates⟩ := refs
  intro work
  cases work with
  | task isOpen listed reads root =>
    exact collectLineageIds_nil tasksRead (List.mem_flatMap.mpr ⟨_, isOpen, listed⟩) reads root
  | spec isOpen listed reads root =>
    exact collectLineageIds_nil specsRead (List.mem_flatMap.mpr ⟨_, isOpen, listed⟩) reads root
  | incident isOpen listed reads root =>
    exact collectLineageIds_nil incidentsRead (List.mem_flatMap.mpr ⟨_, isOpen, listed⟩) reads root
  | @draft state file draft isOpen listed reads root =>
    have scanned : state ∈ [ItemState.active, .queue, .blocked] := by
      revert isOpen
      cases state <;> decide
    have noDraft := List.flatMap_eq_nil_iff.mp drafts state scanned
    cases artifactRef_none noDraft listed reads root
  | candidate listed reads root => cases artifactRef_none candidates listed reads root
  | approved listed reads root waits => exact waits (unpromotedRefs_nil unpromoted listed reads root)
  | promotion listed reads root notDone notOpen =>
    have missing := artifactRef_none promotions listed reads root
    simp [promotionRef, notDone, notOpen] at missing

end Files

section Drift
variable [Rfc3339]

/-! ## Lineage drift -/

/-- The alias of a root id that the watcher derived twice from the name of an idea. -/
def knownRootSpecAliases (rootSpecId : String) : List String :=
  match rootSpecId.toList.dropPrefix? "idea-idea-".toList with
  | some rest =>
    let spelling := "idea-" ++ String.ofList rest
    if spelling ≠ rootSpecId then [spelling] else []
  | none => []

inductive LineageDiagnosticReason where
  | sameRootIdeaDifferentRootSpec | knownRootSpecAlias
  deriving DecidableEq, Repr

def driftReason (document : SurfaceDocument) (rootSpecId rootIdeaId : String) : Option LineageDiagnosticReason :=
  let aliases := knownRootSpecAliases rootSpecId
  if document.rootIdeaId = some rootIdeaId then some .sameRootIdeaDifferentRootSpec
  else if document.effectiveRootSpecId.any aliases.contains then some .knownRootSpecAlias
  else if document.documentSpecId.any aliases.contains then some .knownRootSpecAlias
  else none

structure LineageDriftFinding where
  path : String
  workItemId : String
  diagnosticReason : LineageDiagnosticReason
  deriving DecidableEq, Repr

def driftFinding (directory : Directory) (rootSpecId rootIdeaId : String) (stem : String)
    (document : SurfaceDocument) : Option LineageDriftFinding :=
  if document.effectiveRootSpecId = some rootSpecId then none
  else (driftReason document rootSpecId rootIdeaId).map fun reason => {
    path := DocumentPath.relative ⟨directory, stem⟩
    workItemId := document.itemId
    diagnosticReason := reason }

/-- The findings of one family's open directories; what cannot be read is passed over. -/
def familyFindings {α : Type} (surface : α → SurfaceDocument) (kind : WorkItemKind) (rootSpecId rootIdeaId : String)
    (files : ItemState → List (WorkFile α)) : List LineageDriftFinding :=
  openStates.flatMap fun state => (files state).filterMap fun file =>
    file.document.bind fun document => driftFinding ⟨kind, state, none⟩ rootSpecId rootIdeaId file.stem (surface document)

def LineageDriftFinding.before (a b : LineageDriftFinding) : Bool :=
  decide (a.path < b.path) || (a.path == b.path && decide (a.workItemId ≤ b.workItemId))

def scanClosureLineageDrift (w : LineageWork) (rootSpecId rootIdeaId : String) : List LineageDriftFinding :=
  (familyFindings .task .task rootSpecId rootIdeaId w.tasks ++
    familyFindings .spec .spec rootSpecId rootIdeaId w.specs ++
    familyFindings .incident .incident rootSpecId rootIdeaId w.incidents).mergeSort LineageDriftFinding.before

end Drift

end Millrace.Closure

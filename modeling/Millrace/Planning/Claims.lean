import Millrace.Blueprints.Drafts
import Millrace.Sorting

/-! The claim of the next planning item: an incident, else a Blueprint draft, else a probe or a spec. -/

set_option autoImplicit false

namespace Millrace.Planning
open Millrace.Text Millrace.Contracts Millrace.WorkDocuments Millrace.Action Millrace.Queue Millrace.Blueprints

section
variable [Rfc3339]

/-! ## Selectors -/

def effectiveRootSpecSpec (document : SpecDocument) : Option String :=
  document.rootSpecId.or
    (if document.sourceType = .idea ∨ document.sourceType = .manual then some document.specId else none)

def effectiveRootSpecIncident (document : IncidentDocument) : Option String :=
  document.rootSpecId.or document.sourceSpecId

/-- What a selector reads off a queued document. -/
structure Queued where
  timestamp : Timestamp
  itemId : String
  root : Option String
  deriving DecidableEq

/-- The selectors do the same for each family: they differ in the reader and in the name of the id's field. -/
structure Selector where
  kind : WorkItemKind
  fieldName : String
  read : String → String → Except WorkDocumentError Queued

def incidentSelector : Selector where
  kind := .incident
  fieldName := "incident_id"
  read raw sourceName := (parseIncidentDocumentWithSource raw sourceName).map fun document =>
    ⟨document.openedAt, document.incidentId, effectiveRootSpecIncident document⟩

def specSelector : Selector where
  kind := .spec
  fieldName := "spec_id"
  read raw sourceName := (parseSpecDocumentWithSource raw sourceName).map fun document =>
    ⟨document.createdAt, document.specId, effectiveRootSpecSpec document⟩

def probeSelector : Selector where
  kind := .probe
  fieldName := "probe_id"
  read raw sourceName := (parseProbeDocumentWithSource raw sourceName).map fun document =>
    ⟨document.createdAt, document.probeId, none⟩

/-- The timestamp is the text of the document. -/
structure PlanningCandidate where
  timestamp : String
  kind : WorkItemKind
  itemId : String
  path : DocumentPath
  deriving DecidableEq

def Selector.directory (selector : Selector) : Directory := ⟨selector.kind, .queue, none⟩

def belongs (rootSpecId root : Option String) : Bool := rootSpecId.all fun expected => root == some expected

section Selection
variable (env : Environment)

/-- One round of the selection loop: what cannot be read as this document goes to quarantine. -/
def Selector.candidateAt (selector : Selector) (rootSpecId : Option String) (path : DocumentPath) :
    StoreM (Option PlanningCandidate) := do
  match ← readIfPresent env path with
  | none => return none
  | some raw =>
    match selector.read raw (absolute env path.relative) with
    | .error error =>
      quarantineInvalidArtifact env path error.display
      return none
    | .ok queued =>
      if path.stem ≠ queued.itemId then
        quarantineInvalidArtifact env path ("filename stem does not match " ++ selector.fieldName ++ ": expected " ++
          queued.itemId ++ ", found " ++ path.stem)
        return none
      else if belongs rootSpecId queued.root then
        return some ⟨queued.timestamp.text, selector.kind, queued.itemId, path⟩
      else return none

def Selector.collect (selector : Selector) (rootSpecId : Option String) :
    List DocumentPath → StoreM (List PlanningCandidate)
  | [] => return []
  | path :: rest => do
    let candidate ← selector.candidateAt env rootSpecId path
    let others ← selector.collect rootSpecId rest
    return candidate.toList ++ others

def Selector.selectOldest (selector : Selector) (rootSpecId : Option String) : StoreM (Option PlanningCandidate) := do
  let queued ← listMarkdownFiles env selector.directory
  let candidates ← selector.collect env rootSpecId queued
  return Sorting.first (Sorting.byKeys PlanningCandidate.timestamp PlanningCandidate.itemId) candidates

def selectOldestIncident (rootSpecId : Option String) : StoreM (Option PlanningCandidate) :=
  incidentSelector.selectOldest env rootSpecId

def selectOldestSpecCandidate (rootSpecId : Option String) : StoreM (Option PlanningCandidate) :=
  specSelector.selectOldest env rootSpecId

def selectOldestProbeCandidate : StoreM (Option PlanningCandidate) := probeSelector.selectOldest env none

/-- A probe belongs to no root. -/
def selectOldestProbeWithoutRoot : Option String → StoreM (Option PlanningCandidate)
  | none => selectOldestProbeCandidate env
  | some _ => return none

/-- The two candidates are of different kinds, so that their paths never decide. -/
def selectOldestProbeOrSpec (rootSpecId : Option String) : StoreM (Option PlanningCandidate) := do
  let probe ← selectOldestProbeWithoutRoot env rootSpecId
  let spec ← selectOldestSpecCandidate env rootSpecId
  return Sorting.first (Sorting.byKeys PlanningCandidate.timestamp fun candidate => asStr candidate.kind)
    (probe.toList ++ spec.toList)

end Selection

/-! ## The claim -/

inductive PlanningClaim where
  | document (claim : QueueClaim)
  | draft (claim : DraftClaim)
  deriving DecidableEq

section Claim
variable (env : DraftEnvironment)

def claimSelected (candidate : PlanningCandidate) (sourceState : String) (claimOrder : Nat) : StoreM QueueClaim := do
  let destination : DocumentPath := ⟨⟨candidate.kind, .active, none⟩, candidate.path.stem⟩
  -- there is one process: the selected file cannot vanish before the rename
  rename env.toEnvironment candidate.path destination
  return { QueueClaim.forBuiltin candidate.kind candidate.itemId destination with
    sourceState := some sourceState
    sourcePath := some candidate.path
    claimPolicyId := some "planning.default"
    claimOrder := some claimOrder }

def claimProbeOrSpec (rootSpecId : Option String) : StoreM (Option QueueClaim) := do
  match ← selectOldestProbeOrSpec env.toEnvironment rootSpecId with
  | none => return none
  | some candidate =>
    match candidate.kind with
    | .probe => return some (← claimSelected env candidate "queue" 2)
    | .spec => return some (← claimSelected env candidate "queue" 3)
    | .task | .incident | .learningRequest | .blueprintDraft =>
      throw (.invalidState "planning probe/spec selector returned unsupported work item kind")

def claimIncident (rootSpecId : Option String) : StoreM (Option QueueClaim) := do
  match ← selectOldestIncident env.toEnvironment rootSpecId with
  | none => return none
  | some candidate => return some (← claimSelected env candidate "incoming" 0)

def activePlanningFiles (kind : WorkItemKind) : DraftM (List DocumentPath) :=
  onQueue (listMarkdownFiles env.toEnvironment ⟨kind, .active, none⟩)

def claimNextPlanningItem (rootSpecId : Option String) : DraftM (Option PlanningClaim) := do
  let activeSpecs ← activePlanningFiles env .spec
  let activeProbes ← activePlanningFiles env .probe
  let activeIncidents ← activePlanningFiles env .incident
  let activeBlueprintDrafts ← listJsonFiles env .active
  if activeSpecs.length + activeProbes.length + activeIncidents.length + activeBlueprintDrafts.length > 1 then
    throw (.invalidState "multiple active planning items found")
  if activeSpecs ≠ [] ∨ activeProbes ≠ [] ∨ activeIncidents ≠ [] ∨ activeBlueprintDrafts ≠ [] then return none
  match ← onQueue (claimIncident env rootSpecId) with
  | some claim => return some (.document claim)
  | none =>
    match ← claimNextBlueprintDraft env rootSpecId with
    | some claim => return some (.draft claim)
    | none => return (← onQueue (claimProbeOrSpec env rootSpecId)).map .document

/-! ## The other operations -/

def enqueueIncident (document : IncidentDocument) : StoreM DocumentPath :=
  enqueueDocument env.toEnvironment .incident document.incidentId document.validate (renderIncidentDocument document)

def markSpecDone (specId : String) : StoreM DocumentPath := moveItem env.toEnvironment .spec .active .done specId

def markSpecBlocked (specId : String) : StoreM DocumentPath := moveItem env.toEnvironment .spec .active .blocked specId

def markProbeDone (probeId : String) : StoreM DocumentPath := moveItem env.toEnvironment .probe .active .done probeId

def markProbeBlocked (probeId : String) : StoreM DocumentPath :=
  moveItem env.toEnvironment .probe .active .blocked probeId

def markIncidentResolved (incidentId : String) : StoreM DocumentPath :=
  moveItem env.toEnvironment .incident .active .done incidentId

def markIncidentBlocked (incidentId : String) : StoreM DocumentPath :=
  moveItem env.toEnvironment .incident .active .blocked incidentId

def requeueSpec (specId reason : String) : StoreM DocumentPath := requeueItem env.toEnvironment .spec specId reason

def requeueProbe (probeId reason : String) : StoreM DocumentPath := requeueItem env.toEnvironment .probe probeId reason

def requeueIncident (incidentId reason : String) : StoreM DocumentPath :=
  requeueItem env.toEnvironment .incident incidentId reason

inductive PlanningOperation where
  | claimNextPlanningItem (rootSpecId : Option String)
  | enqueueIncident (document : IncidentDocument)
  | enqueueSpec (document : SpecDocument)
  | enqueueProbe (document : ProbeDocument)
  | enqueueBlueprintDraft (draft : BlueprintDraftDocument)
  | markSpecDone (specId : String)
  | markSpecBlocked (specId : String)
  | markProbeDone (probeId : String)
  | markProbeBlocked (probeId : String)
  | markIncidentResolved (incidentId : String)
  | markIncidentBlocked (incidentId : String)
  | requeueSpec (specId reason : String)
  | requeueProbe (probeId reason : String)
  | requeueIncident (incidentId reason : String)
  | updateActiveBlueprintDraft (draft : BlueprintDraftDocument)
  | approveActiveBlueprintDraft (draftId : String)
  | blockActiveBlueprintDraft (draftId : String)
  | requeueActiveBlueprintDraft (draftId : String)
  | cancelBlueprintDraft (draftId : String)
  | cancelWorkItem (workItemId : String) (kind : Option WorkItemKind) (reason : String)
    (context : OperatorInterventionContext)
  | cancelIncident (incidentId reason : String) (context : OperatorInterventionContext)
  | resolveIncidentByOperator (incidentId reason : String) (context : OperatorInterventionContext)

/-- The files after the operation, whether it succeeded or failed. -/
def PlanningOperation.step (s : DraftWorld) : PlanningOperation → DraftWorld
  | .claimNextPlanningItem rootSpecId => after (Planning.claimNextPlanningItem env rootSpecId) s
  | .enqueueIncident document => after (onQueue (Planning.enqueueIncident env document)) s
  | .enqueueSpec document => after (onQueue (Queue.enqueueSpec env.toEnvironment document)) s
  | .enqueueProbe document => after (onQueue (Queue.enqueueProbe env.toEnvironment document)) s
  | .enqueueBlueprintDraft draft => after (Blueprints.enqueueBlueprintDraft env draft) s
  | .markSpecDone specId => after (onQueue (Planning.markSpecDone env specId)) s
  | .markSpecBlocked specId => after (onQueue (Planning.markSpecBlocked env specId)) s
  | .markProbeDone probeId => after (onQueue (Planning.markProbeDone env probeId)) s
  | .markProbeBlocked probeId => after (onQueue (Planning.markProbeBlocked env probeId)) s
  | .markIncidentResolved incidentId => after (onQueue (Planning.markIncidentResolved env incidentId)) s
  | .markIncidentBlocked incidentId => after (onQueue (Planning.markIncidentBlocked env incidentId)) s
  | .requeueSpec specId reason => after (onQueue (Planning.requeueSpec env specId reason)) s
  | .requeueProbe probeId reason => after (onQueue (Planning.requeueProbe env probeId reason)) s
  | .requeueIncident incidentId reason => after (onQueue (Planning.requeueIncident env incidentId reason)) s
  | .updateActiveBlueprintDraft draft => after (Blueprints.updateActiveBlueprintDraft env draft) s
  | .approveActiveBlueprintDraft draftId => after (Blueprints.approveActiveBlueprintDraft env draftId) s
  | .blockActiveBlueprintDraft draftId => after (Blueprints.blockActiveBlueprintDraft env draftId) s
  | .requeueActiveBlueprintDraft draftId => after (Blueprints.requeueActiveBlueprintDraft env draftId) s
  | .cancelBlueprintDraft draftId => after (Blueprints.cancelBlueprintDraft env draftId) s
  | .cancelWorkItem workItemId kind reason context =>
    after (onQueue (Queue.cancelWorkItem env.toEnvironment workItemId kind reason context)) s
  | .cancelIncident incidentId reason context =>
    after (onQueue (Queue.cancelIncident env.toEnvironment incidentId reason context)) s
  | .resolveIncidentByOperator incidentId reason context =>
    after (onQueue (Queue.resolveIncidentByOperator env.toEnvironment incidentId reason context)) s

end Claim

end
end Millrace.Planning

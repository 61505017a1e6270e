import Millrace.Application.Session
import Millrace.Blueprints.Drafts
import Millrace.Blueprints.Packets

/-! The effects of the contractor and of the evaluator of the Blueprint loop. -/

set_option autoImplicit false

namespace Millrace.Blueprints
open Millrace.Text Millrace.Contracts Millrace.WorkDocuments Millrace.Action Millrace.Queue Millrace.Runtime
open Millrace.Application (blueprintFailure blueprintSuccess contractorHandlerId approvalHandlerId rejectionHandlerId)

/-! ## Files -/

inductive PacketState where
  | candidates | approved | rejected
  deriving DecidableEq, Repr

def PacketState.name : PacketState → String
  | .candidates => "candidates"
  | .approved => "approved"
  | .rejected => "rejected"

def packetsDir (state : PacketState) : String := "millrace-agents/blueprints/packets/" ++ state.name

def packetPath (state : PacketState) (blueprintId : String) : String := packetsDir state ++ "/" ++ blueprintId ++ ".json"

def markdownPath (state : PacketState) (blueprintId : String) : String := packetsDir state ++ "/" ++ blueprintId ++ ".md"

abbrev JsonFiles (α : Type) := Std.ExtTreeMap String α compare

section
variable [Rfc3339]

/-- The drafts with the queue, and the other artifacts of the Blueprint loop; the critiques are those under `open`. -/
structure BlueprintStore where
  drafts : DraftWorld
  manifests : JsonFiles BlueprintManifestDocument
  packets : PacketState → JsonFiles BlueprintPacketDocument
  markdown : PacketState → JsonFiles String
  critiques : JsonFiles BlueprintCritiqueDocument
  evaluations : JsonFiles BlueprintEvaluationDocument
  promotions : JsonFiles BlueprintPromotionRecord

/-- The files, and the paths that the effect has created so far. -/
structure EffectState where
  store : BlueprintStore
  created : List String

structure BlueprintEffectError where
  failureClass : String
  message : String
  deriving DecidableEq, Repr

def BlueprintEffectError.display (error : BlueprintEffectError) : String := error.failureClass ++ ": " ++ error.message

def queueStoreErrorDisplay : QueueStoreError → String
  | .io path message => "queue filesystem error at " ++ path ++ ": " ++ message
  | .workDocument path source => "queue document error at " ++ path ++ ": " ++ source.display
  | .invalidState message => message

def BlueprintEffectError.ofStore (error : QueueStoreError) : BlueprintEffectError :=
  ⟨"blueprint_state_error", queueStoreErrorDisplay error⟩

abbrev EffectM (ε α : Type) := EStateM ε EffectState α

def onStore {ε α : Type} : EStateM ε BlueprintStore α → EffectM ε α :=
  onPart EffectState.store fun s store => { s with store := store }

def onDrafts {α : Type} : DraftM α → EffectM QueueStoreError α := fun x =>
  onStore (onPart BlueprintStore.drafts (fun s drafts => { s with drafts := drafts }) x)

def modifyStore {ε : Type} (f : BlueprintStore → BlueprintStore) : EffectM ε Unit :=
  modify fun s => { s with store := f s.store }

def pushCreated {ε : Type} (path : String) : EffectM ε Unit := modify fun s => { s with created := s.created ++ [path] }

/-- The files of one directory of JSON artifacts. -/
structure JsonDirectory (α : Type) where
  relative : String
  files : BlueprintStore → JsonFiles α
  put : BlueprintStore → JsonFiles α → BlueprintStore
  validateContract : α → Except RuntimeJsonError Unit

def packetsDirectory (state : PacketState) : JsonDirectory BlueprintPacketDocument where
  relative := packetsDir state
  files s := s.packets state
  put s files := { s with packets := Function.update s.packets state files }
  validateContract := BlueprintPacketDocument.validateContract

def critiquesDirectory : JsonDirectory BlueprintCritiqueDocument where
  relative := "millrace-agents/blueprints/critiques/open"
  files := BlueprintStore.critiques
  put s files := { s with critiques := files }
  validateContract := BlueprintCritiqueDocument.validateContract

def evaluationsDirectory : JsonDirectory BlueprintEvaluationDocument where
  relative := "millrace-agents/blueprints/evaluations"
  files := BlueprintStore.evaluations
  put s files := { s with evaluations := files }
  validateContract := BlueprintEvaluationDocument.validateContract

def manifestsDirectory : JsonDirectory BlueprintManifestDocument where
  relative := "millrace-agents/blueprints/manifests"
  files := BlueprintStore.manifests
  put s files := { s with manifests := files }
  validateContract := BlueprintManifestDocument.validateContract

def promotionsDirectory : JsonDirectory BlueprintPromotionRecord where
  relative := "millrace-agents/blueprints/promotions"
  files := BlueprintStore.promotions
  put s files := { s with promotions := files }
  validateContract := BlueprintPromotionRecord.validateContract

section Files
variable (env : DraftEnvironment)

def effectOperation (relative : String) : EffectM QueueStoreError Unit :=
  onDrafts (onQueue (fileOperation env.toEnvironment relative))

/-- `write_unique_json_document` in one directory. -/
def JsonDirectory.writeUnique {α : Type} (directory : JsonDirectory α) (stem : String) (document : α) :
    EffectM QueueStoreError String := do
  let path := directory.relative ++ "/" ++ stem ++ ".json"
  let s ← get
  if ((directory.files s.store)[stem]?).isSome then
    throw (.invalidState ("Blueprint artifact already exists: " ++ absolute env.toEnvironment path))
  match directory.validateContract document with
  | .error error => throw (.invalidState error.display)
  | .ok () =>
    effectOperation env directory.relative
    effectOperation env (directory.relative ++ "/." ++ stem ++ ".json.tmp")
    effectOperation env path
    modifyStore fun store => directory.put store ((directory.files store).insert stem document)
    return path

def persistBlueprintPacket (packet : BlueprintPacketDocument) (state : PacketState) : EffectM QueueStoreError String :=
  (packetsDirectory state).writeUnique env packet.blueprintId packet

def persistBlueprintCritique (critique : BlueprintCritiqueDocument) : EffectM QueueStoreError String :=
  critiquesDirectory.writeUnique env critique.critiqueId critique

def persistBlueprintEvaluation (evaluation : BlueprintEvaluationDocument) : EffectM QueueStoreError String :=
  evaluationsDirectory.writeUnique env evaluation.evaluationId evaluation

def persistBlueprintPromotion (promotion : BlueprintPromotionRecord) : EffectM QueueStoreError String :=
  promotionsDirectory.writeUnique env promotion.promotionId promotion

/-- The file of this name goes from the candidates to another directory. -/
def moveFile {α : Type} (files : PacketState → JsonFiles α) (blueprintId : String) (target : PacketState) (a : α) :
    PacketState → JsonFiles α :=
  let without := Function.update files .candidates ((files .candidates).erase blueprintId)
  Function.update without target ((without target).insert blueprintId a)

def moveCandidateBlueprintPacket (blueprintId : String) (target : PacketState) : EffectM QueueStoreError String := do
  let s ← get
  match (s.store.packets .candidates)[blueprintId]? with
  | none => throw (.invalidState ("candidate blueprint packet " ++ blueprintId ++ " not found"))
  | some packet =>
    if ((s.store.packets target)[blueprintId]?).isSome then
      throw (.invalidState ("Blueprint artifact already exists: " ++
        absolute env.toEnvironment (packetPath target blueprintId)))
    effectOperation env (packetsDir target)
    effectOperation env (packetPath .candidates blueprintId)
    modifyStore fun store => { store with packets := moveFile store.packets blueprintId target packet }
    return packetPath target blueprintId

def moveCandidateMarkdown (blueprintId : String) (target : PacketState) : EffectM QueueStoreError (Option String) := do
  let s ← get
  match (s.store.markdown .candidates)[blueprintId]? with
  | none => return none
  | some text =>
    if ((s.store.markdown target)[blueprintId]?).isSome then
      throw (.invalidState ("blueprint markdown " ++ blueprintId ++ " already exists at destination"))
    effectOperation env (packetsDir target)
    effectOperation env (markdownPath .candidates blueprintId)
    modifyStore fun store => { store with markdown := moveFile store.markdown blueprintId target text }
    return some (markdownPath target blueprintId)

end Files

/-! ## What an effect reads -/

/-- A JSON artifact of a run directory. -/
inductive ArtifactFile (α : Type) where
  | missing
  | unreadable (message : String)
  | malformed (message : String)
  | document (document : α)

def readJsonModel {α : Type} (validateContract : α → Except RuntimeJsonError Unit) (fileName path : String) :
    ArtifactFile α → Except BlueprintEffectError α
  | .missing => .error ⟨"artifact_missing", "required Blueprint artifact is missing: " ++ fileName⟩
  | .unreadable message => .error ⟨"artifact_missing", path ++ ": " ++ message⟩
  | .malformed message => .error ⟨"json_model_parse", message⟩
  | .document document =>
    match validateContract document with
    | .error error => .error ⟨"json_model_parse", error.display⟩
    | .ok () => .ok document

/-- A list of JSON artifacts in one file of a run directory; an element may be of the wrong shape. -/
inductive ArtifactListFile (α : Type) where
  | missing
  | unreadable (message : String)
  | malformed (message : String)
  | notList
  | documents (documents : List (Except String α))

/-- The run directory as the handlers read it; the plan's artifact contracts lead to the critique and the task. -/
structure RunArtifacts where
  directory : String
  manifest : ArtifactFile BlueprintManifestDocument
  drafts : ArtifactListFile BlueprintDraftDocument
  packet : ArtifactFile BlueprintPacketDocument
  markdown : Option String
  evaluation : ArtifactFile BlueprintEvaluationDocument
  critique : Except BlueprintEffectError (ArtifactFile BlueprintCritiqueDocument)
  critiquePath : String
  generatedTask : Except BlueprintEffectError TaskDocument

section Reading
variable (env : DraftEnvironment)

def activeDraftForStageResult (r : StageResultEnvelope) : EffectM QueueStoreError BlueprintDraftDocument :=
  if r.workItemKind ≠ .blueprintDraft then
    throw (.invalidState ("Blueprint handler requires blueprint_draft source, got " ++ asStr r.workItemKind))
  else onDrafts (readBlueprintDraft env ⟨.active, r.workItemId⟩)

def validatePacketCritiqueReference (draft : BlueprintDraftDocument) (packet : BlueprintPacketDocument) :
    Except String Unit :=
  match draft.latestCritiqueId with
  | none => .ok ()
  | some critiqueId =>
    if packet.references.any fun reference => containsText reference critiqueId then .ok ()
    else .error "candidate Blueprint must reference latest open critique"

/-- The candidate as it lies in its directory; the read may fail. -/
def candidateFile (blueprintId : String) : EffectM BlueprintEffectError (ArtifactFile BlueprintPacketDocument) := do
  let s ← get
  match (s.store.packets .candidates)[blueprintId]? with
  | none => return .missing
  | some packet =>
    let answer ← onStore (onPart (fun store => store.drafts.world)
      (fun store world => { store with drafts := { store.drafts with world := world } }) (fun world =>
        .ok (env.reading world.step) { world with step := world.step + 1 }))
    match answer.fault with
    | some message => return .unreadable message
    | none => return .document packet

def candidatePacketForDraft (draft : BlueprintDraftDocument) : EffectM BlueprintEffectError BlueprintPacketDocument := do
  match draft.latestBlueprintId with
  | none => throw ⟨"blueprint_evaluation_invalid", "active draft has no latest candidate blueprint"⟩
  | some blueprintId =>
    let file ← candidateFile env blueprintId
    let packet ← ofExcept (readJsonModel BlueprintPacketDocument.validateContract (blueprintId ++ ".json")
      (absolute env.toEnvironment (packetPath .candidates blueprintId)) file)
    ofExcept ((packet.ensureMatchesDraft draft).mapError fun error => ⟨"blueprint_evaluation_invalid", error.display⟩)
    return packet

end Reading

def validateApproval (evaluation : BlueprintEvaluationDocument) (packet : BlueprintPacketDocument) :
    Except String Unit := do
  if evaluation.decision ≠ .approved then throw "approval handler requires decision=approved"
  (evaluation.ensureMatchesPacket packet).mapError RuntimeJsonError.display

def validateRejection (evaluation : BlueprintEvaluationDocument) (critique : BlueprintCritiqueDocument)
    (packet : BlueprintPacketDocument) : Except BlueprintEffectError Unit := do
  let invalid := BlueprintEffectError.mk "blueprint_critique_invalid"
  if evaluation.decision ≠ .rejected then throw (invalid "rejection handler requires decision=rejected")
  (evaluation.ensureMatchesPacket packet).mapError fun error => invalid error.display
  (critique.ensureMatchesPacket packet).mapError fun error => invalid error.display
  if evaluation.critiqueId ≠ some critique.critiqueId then
    throw (invalid "evaluation critique_id must match critique packet")

def ensureContainsAll (actual expected : List String) (fieldName : String) : Except BlueprintEffectError Unit :=
  match expected.filter fun item => !actual.contains item with
  | [] => .ok ()
  | missing => .error ⟨"generated_task_invalid", fieldName ++ " missing Blueprint item(s): " ++
      ", ".intercalate missing⟩

def validateGeneratedTask (task : TaskDocument) (draft : BlueprintDraftDocument) (packet : BlueprintPacketDocument) :
    Except BlueprintEffectError Unit := do
  let invalid := BlueprintEffectError.mk "generated_task_invalid"
  if task.rootSpecId ≠ some draft.rootSpecId then
    throw (invalid "generated task root_spec_id must match Blueprint draft")
  if task.rootIdeaId ≠ some draft.rootIdeaId then
    throw (invalid "generated task root_idea_id must match Blueprint draft")
  if task.specId ≠ some draft.sourceSpecId then
    throw (invalid "generated task spec_id must match Blueprint source spec")
  ensureContainsAll task.acceptance packet.taskAcceptance "generated task acceptance"
  ensureContainsAll task.requiredChecks packet.requiredChecks "generated task required checks"
  if task.targetPaths.all fun path => (packet.intendedFiles ++ draft.targetPaths).contains path then return ()
  else throw (invalid "generated task target_paths must stay within Blueprint scope")

def ensureTaskIdUnused (taskId : String) : EffectM BlueprintEffectError Unit := do
  let s ← get
  if [ItemState.queue, .active, .done, .blocked].any fun state =>
      (s.store.drafts.world.workspace.file (taskPath state taskId)).isSome then
    throw ⟨"blueprint_task_duplicate", "task " ++ taskId ++ " already exists"⟩

def promotionId (evaluationId : String) : String := "promotion-" ++ evaluationId

def ensurePromotionIdUnused (evaluationId : String) : EffectM BlueprintEffectError Unit := do
  let s ← get
  if (s.store.promotions[promotionId evaluationId]?).isSome then
    throw ⟨"blueprint_evaluation_invalid", "Blueprint promotion already exists for evaluation " ++ evaluationId⟩

def addUniqueRef (references : List String) (reference : String) : List String :=
  if references.contains reference then references else references ++ [reference]

/-! ## The handlers -/

section Handlers
variable (env : DraftEnvironment) (r : StageResultEnvelope) (run : RunArtifacts)

/-- An input/output error is shown without its path. -/
def ioErrorDisplay : QueueStoreError → String
  | .io _ message => message
  | .workDocument _ source => source.display
  | .invalidState message => message

def persistCandidateMarkdown (blueprintId : String) : EffectM QueueStoreError String := do
  match run.markdown with
  | none => throw (.invalidState "required Blueprint artifact is missing: blueprint.md")
  | some text =>
    let s ← get
    if ((s.store.markdown .candidates)[blueprintId]?).isSome then
      throw (.invalidState ("Blueprint artifact already exists: " ++
        absolute env.toEnvironment (markdownPath .candidates blueprintId)))
    effectOperation env (packetsDir .candidates)
    effectOperation env (packetsDir .candidates ++ "/." ++ blueprintId ++ ".md.tmp")
    effectOperation env (markdownPath .candidates blueprintId)
    modifyStore fun store => { store with
      markdown := Function.update store.markdown .candidates ((store.markdown .candidates).insert blueprintId text) }
    return markdownPath .candidates blueprintId

def contractorSteps : EffectM String String := do
  let draft ← adapt queueStoreErrorDisplay (activeDraftForStageResult env r)
  let packet ← ofExcept ((readJsonModel BlueprintPacketDocument.validateContract "blueprint_packet.json"
    (run.directory ++ "/blueprint_packet.json") run.packet).mapError BlueprintEffectError.display)
  ofExcept ((packet.ensureMatchesDraft draft).mapError RuntimeJsonError.display)
  ofExcept (validatePacketCritiqueReference draft packet)
  let packetPath ← adapt queueStoreErrorDisplay (persistBlueprintPacket env packet .candidates)
  pushCreated packetPath
  let markdownPath ← adapt ioErrorDisplay (persistCandidateMarkdown env run packet.blueprintId)
  pushCreated markdownPath
  let _ ← adapt queueStoreErrorDisplay
    (onDrafts (updateActiveBlueprintDraft env { draft with latestBlueprintId := some packet.blueprintId }))
  return "persisted candidate blueprint " ++ packet.blueprintId

/-- What both handlers of the evaluator read first. -/
def evaluatedPacket (failureClass : String) :
    EffectM BlueprintEffectError (BlueprintDraftDocument × BlueprintPacketDocument × BlueprintEvaluationDocument) := do
  let draft ← adapt (fun error => ⟨failureClass, queueStoreErrorDisplay error⟩) (activeDraftForStageResult env r)
  let packet ← adapt (fun error => ⟨failureClass, error.display⟩) (candidatePacketForDraft env draft)
  let evaluation ← ofExcept ((readJsonModel BlueprintEvaluationDocument.validateContract "blueprint_evaluation.json"
    (run.directory ++ "/blueprint_evaluation.json") run.evaluation).mapError fun error => ⟨failureClass, error.display⟩)
  return (draft, packet, evaluation)

/-- What both handlers of the evaluator write first: the evaluation, then the packet and its markdown under another
directory. -/
def recordEvaluation (evaluation : BlueprintEvaluationDocument) (packet : BlueprintPacketDocument)
    (target : PacketState) : EffectM BlueprintEffectError (String × String) := do
  let evaluationPath ← adapt .ofStore (persistBlueprintEvaluation env evaluation)
  pushCreated evaluationPath
  let packetPath ← adapt .ofStore (moveCandidateBlueprintPacket env packet.blueprintId target)
  pushCreated packetPath
  match ← adapt .ofStore (moveCandidateMarkdown env packet.blueprintId target) with
  | none => return (evaluationPath, packetPath)
  | some markdownPath =>
    pushCreated markdownPath
    return (evaluationPath, packetPath)

def promotionOf (draft : BlueprintDraftDocument) (packet : BlueprintPacketDocument)
    (evaluation : BlueprintEvaluationDocument) (task : TaskDocument)
    (taskPath packetPath evaluationPath : String) : BlueprintPromotionRecord where
  schemaVersion := "1.0"
  kind := "blueprint_promotion"
  promotionId := promotionId evaluation.evaluationId
  blueprintId := packet.blueprintId
  evaluationId := evaluation.evaluationId
  draftId := draft.draftId
  manifestId := draft.manifestId
  rootSpecId := draft.rootSpecId
  rootIdeaId := draft.rootIdeaId
  generatedTaskId := task.taskId
  generatedTaskPath := taskPath
  approvedBlueprintPath := packetPath
  evaluationPath := evaluationPath
  promotedAt := evaluation.createdAt
  promotedBy := "runtime"

def approvalSteps : EffectM BlueprintEffectError (String × String) := do
  let (draft, packet, evaluation) ← evaluatedPacket env r run "blueprint_evaluation_invalid"
  ofExcept ((validateApproval evaluation packet).mapError fun message => ⟨"blueprint_evaluation_invalid", message⟩)
  let generated ← ofExcept run.generatedTask
  ofExcept (validateGeneratedTask generated draft packet)
  ensureTaskIdUnused generated.taskId
  ensurePromotionIdUnused evaluation.evaluationId
  let (evaluationPath, packetPath) ← recordEvaluation env evaluation packet .approved
  let task := { generated with
    references := addUniqueRef (addUniqueRef generated.references packetPath) evaluationPath }
  let taskPath ← adapt .ofStore (onDrafts (onQueue (enqueueTask env.toEnvironment task)))
  pushCreated taskPath.relative
  let promotionPath ← adapt .ofStore (persistBlueprintPromotion env
    (promotionOf draft packet evaluation task taskPath.relative packetPath evaluationPath))
  pushCreated promotionPath
  return (draft.draftId, "promoted blueprint " ++ packet.blueprintId ++ " to task " ++ task.taskId)

def rejectionSteps : EffectM BlueprintEffectError String := do
  let (draft, packet, evaluation) ← evaluatedPacket env r run "blueprint_critique_invalid"
  let file ← ofExcept run.critique
  let critique ← ofExcept ((readJsonModel BlueprintCritiqueDocument.validateContract "blueprint_critique.json"
    run.critiquePath file).mapError fun error => ⟨"blueprint_critique_invalid", error.message⟩)
  ofExcept (validateRejection evaluation critique packet)
  let _ ← recordEvaluation env evaluation packet .rejected
  let critiquePath ← adapt .ofStore (persistBlueprintCritique env critique)
  pushCreated critiquePath
  let _ ← adapt .ofStore (onDrafts (updateActiveBlueprintDraft env { draft with
    currentRevision := packet.revision
    latestCritiqueId := some critique.critiqueId
    latestBlueprintId := some packet.blueprintId
    updatedAt := some evaluation.createdAt }))
  return "recorded rejection critique " ++ critique.critiqueId

/-- The answers to the operations of an effect are numbered from its start. -/
def BlueprintStore.restart (s : BlueprintStore) : BlueprintStore :=
  { s with drafts := { s.drafts with world := { s.drafts.world with step := 0 } } }

def contractorBlueprintCandidatePersist (s : BlueprintStore) : RuntimeEffectResult × BlueprintStore :=
  match contractorSteps env r run ⟨s.restart, []⟩ with
  | .ok message t => (blueprintSuccess contractorHandlerId .continueRoute t.created none message, t.store)
  | .error message t =>
    (blueprintFailure r contractorHandlerId
      (if t.created = [] then "blueprint_candidate_invalid" else "blueprint_partial_mutation") message t.created true,
      t.store)

def approvalFailureClass (error : BlueprintEffectError) (created : List String) : String :=
  if created ≠ [] then "blueprint_partial_mutation"
  else if error.failureClass = "generated_task_missing" then "generated_task_missing"
  else if error.failureClass = "generated_task_invalid" then "generated_task_invalid"
  else if error.failureClass = "blueprint_task_duplicate" then "blueprint_task_duplicate"
  else if containsText error.message "generated task" then "generated_task_invalid"
  else "blueprint_evaluation_invalid"

def evaluatorBlueprintApprovedToTask (s : BlueprintStore) : RuntimeEffectResult × BlueprintStore :=
  match approvalSteps env r run ⟨s.restart, []⟩ with
  | .ok (draftId, message) t =>
    (blueprintSuccess approvalHandlerId .requestCompleteSource t.created
      (some (SourceLifecycleIntent.forBuiltin "approve_blueprint_draft_after_effect" .complete .blueprintDraft draftId))
      message, t.store)
  | .error error t =>
    (blueprintFailure r approvalHandlerId (approvalFailureClass error t.created) error.message t.created true, t.store)

def evaluatorBlueprintRejectedToDraftRevision (s : BlueprintStore) : RuntimeEffectResult × BlueprintStore :=
  match rejectionSteps env r run ⟨s.restart, []⟩ with
  | .ok message t => (blueprintSuccess rejectionHandlerId .continueRoute t.created none message, t.store)
  | .error error t =>
    (blueprintFailure r rejectionHandlerId
      (if t.created = [] then error.failureClass else "blueprint_partial_mutation") error.message t.created true,
      t.store)

end Handlers

end
end Millrace.Blueprints

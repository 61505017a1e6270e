import Millrace.Runtime.Effects
import Millrace.Workspace.QueueStore

/-! The state that the application of a stage result changes, and the file operations it may fail at. -/

set_option autoImplicit false

namespace Millrace.Application
open Millrace.Text Millrace.Contracts Millrace.Action Millrace.Runtime
open Millrace.Queue (ItemState planeForBuiltinKind)

/-! ## State -/

/-- The work items in each lifecycle directory of each family. -/
abbrev Documents := WorkItemKind → ItemState → List String

namespace Documents

def add (documents : Documents) (kind : WorkItemKind) (state : ItemState) (id : String) : Documents :=
  fun kind' state' => if kind' = kind ∧ state' = state then documents kind' state' ++ [id] else documents kind' state'

def remove (documents : Documents) (kind : WorkItemKind) (state : ItemState) (id : String) : Documents :=
  fun kind' state' =>
    if kind' = kind ∧ state' = state then (documents kind' state').filter (· ≠ id) else documents kind' state'

variable {documents : Documents} {kind kind' : WorkItemKind} {state state' : ItemState} {id id' : String}

@[simp] theorem mem_add : id' ∈ documents.add kind state id kind' state' ↔
    id' ∈ documents kind' state' ∨ (kind' = kind ∧ state' = state ∧ id' = id) := by
  unfold add
  split
  next here => simp [here]
  next elsewhere => simp; tauto

@[simp] theorem mem_remove : id' ∈ documents.remove kind state id kind' state' ↔
    id' ∈ documents kind' state' ∧ ¬ (kind' = kind ∧ state' = state ∧ id' = id) := by
  unfold remove
  split
  next here => simp [here]
  next elsewhere => simp; tauto

end Documents

/-- The snapshot in memory and on disk, the counters file, the queue directories, and the decision of the application
under way. -/
structure DispatchSession where
  snapshot : RuntimeSnapshot
  saved : RuntimeSnapshot
  counters : RecoveryCounters
  documents : Documents
  routerDecision : Option RouterDecision

/-- The parts of an application, in the order in which they come, and those of a transfer; what follows the move of an
item is apart from what leads to it. -/
inductive Phase where
  | routing | effect | effectWritten | publication | decision | ending | fallback | fallbackEnding | closing | recovery
  | recoveryWritten | transfer | transferred
  deriving DecidableEq, Repr

inductive FileStep where
  | loadRecoveryCounters | saveRecoveryCounters | persistRuntimeErrorContext | clearRuntimeErrorContext
  | writeRuntimeErrorReport | writeTerminalMarker | writeStageResult
  | writeEffectDecision | runHandler | writeEffectResult | writeRouterDecision | writeEvent | refreshQueueDepths
  | saveSnapshot | setStatus | evaluateUsageGovernance | persistBlockedItemMetadata
  | readDocument | enqueueDocument | createDirectory | renameDocument | writeDraft | removeDraft | retireDuplicate
  | appendRequeueReason | readReconPacket | persistReconPacket | readGenerated
  | loadClosureTarget | canonicalizeArbiterReport | saveClosureTarget | readEventLog
  | writeCuratorPromotion | applyDeferredPromotions
  deriving DecidableEq, Repr

inductive ApplicationError where
  | io (message : String)
  | queueState (message : String)
  | invalidState (message : String)
  | tick (error : RuntimeTickError)
  | effect (error : RuntimeEffectError)
  deriving DecidableEq, Repr

abbrev ApplicationM (α : Type) := EStateM ApplicationError DispatchSession α

/-! ## The Blueprint handlers -/

/-- The answers of the Blueprint handlers, with what they wrote. -/
inductive BlueprintAnswer where
  | draftsQueued (createdPaths : List String) (message : String) (sourceActive : Bool)
  | draftsRefused (failureClass message : String) (createdPaths : List String) (sourceKnown : Bool)
  | candidatePersisted (createdPaths : List String) (message : String)
  | approved (createdPaths : List String) (message : String)
  | rejectionRecorded (createdPaths : List String) (message : String)
  | refused (handlerId failureClass message : String) (createdPaths : List String)
  deriving DecidableEq, Repr

def completeLifecyclePlanId : WorkItemKind → String
  | .spec => "complete_spec_source_after_blueprint_effect"
  | .incident => "complete_incident_source_after_blueprint_effect"
  | .blueprintDraft => "approve_blueprint_draft_after_effect"
  | .task | .probe | .learningRequest => "complete_source_after_effect"

def blockLifecyclePlanId : WorkItemKind → String
  | .spec => "block_spec_source_after_blueprint_effect"
  | .incident => "block_incident_source_after_blueprint_effect"
  | .blueprintDraft => "block_blueprint_draft_after_effect"
  | .task | .probe | .learningRequest => "block_source_after_effect"

def managerHandlerId : String := "manager_blueprint_manifest_to_blueprint_drafts"
def contractorHandlerId : String := "contractor_blueprint_candidate_persist"
def approvalHandlerId : String := "evaluator_blueprint_approved_to_task"
def rejectionHandlerId : String := "evaluator_blueprint_rejected_to_draft_revision"

def blueprintFailure (r : StageResultEnvelope) (handlerId failureClass message : String) (createdPaths : List String)
    (sourceKnown : Bool) : RuntimeEffectResult where
  handlerId := handlerId
  decision := .requestBlockSource
  createdPaths := createdPaths
  sourceLifecycleIntent :=
    if sourceKnown then some (sourceLifecycleIntentForEffect r (blockLifecyclePlanId r.workItemKind) .block) else none
  failureClass := some failureClass
  message := some message
  mutationPhase := if createdPaths = [] then .preMutation else .partialMutation

def blueprintSuccess (handlerId : String) (decision : RuntimeEffectDecision) (createdPaths : List String)
    (intent : Option SourceLifecycleIntent) (message : String) : RuntimeEffectResult where
  handlerId := handlerId
  decision := decision
  createdPaths := createdPaths
  sourceLifecycleIntent := intent
  failureClass := none
  message := some message
  mutationPhase := .unknown

/-- The source of an approval is the active draft that the result names. -/
def BlueprintAnswer.result (r : StageResultEnvelope) : BlueprintAnswer → RuntimeEffectResult
  | .draftsQueued createdPaths message sourceActive =>
    blueprintSuccess managerHandlerId .requestCompleteSource createdPaths
      (if sourceActive then some (sourceLifecycleIntentForEffect r (completeLifecyclePlanId r.workItemKind) .complete)
        else none) message
  | .draftsRefused failureClass message createdPaths sourceKnown =>
    blueprintFailure r managerHandlerId failureClass message createdPaths sourceKnown
  | .candidatePersisted createdPaths message =>
    blueprintSuccess contractorHandlerId .continueRoute createdPaths none message
  | .approved createdPaths message =>
    if r.workItemKind ≠ .blueprintDraft then
      blueprintFailure r approvalHandlerId "blueprint_evaluation_invalid"
        ("Blueprint handler requires blueprint_draft source, got " ++ asStr r.workItemKind) [] true
    else
      blueprintSuccess approvalHandlerId .requestCompleteSource createdPaths
        (some (SourceLifecycleIntent.forBuiltin "approve_blueprint_draft_after_effect" .complete .blueprintDraft
          r.workItemId)) message
  | .rejectionRecorded createdPaths message =>
    blueprintSuccess rejectionHandlerId .continueRoute createdPaths none message
  | .refused handlerId failureClass message createdPaths =>
    blueprintFailure r handlerId failureClass message createdPaths true

/-! ## What an application meets -/

/-- A stage result to apply, with the operations that fail and what the application reads beside the session. No
handler writes learning requests. -/
structure AppliedResult where
  result : StageResultEnvelope
  effects : EffectSession
  blueprint : RuntimeEffectRule → Option BlueprintAnswer
  fails : Phase → FileStep → Option String
  handlerDocuments : List (WorkItemKind × String)
  learningRequests : List String
  incidentId : String
  generatedId : String
  supersededDuplicate : Bool
  repeatedRemediation : Bool
  completedAt : String
  noLearningRequest : ∀ document ∈ handlerDocuments, document.1 ≠ .learningRequest

/-- The effect session whose Blueprint handlers give these answers. -/
def AppliedResult.session (app : AppliedResult) : EffectSession :=
  { app.effects with blueprintHandler := fun r rule => (app.blueprint rule).map (·.result r) }

def AppliedResult.plan (app : AppliedResult) : CompiledRunPlan := app.effects.compiledPlan

variable (fails : Phase → FileStep → Option String)

/-- A file operation may fail; it then had no effect. -/
def fileStep (phase : Phase) (step : FileStep) : ApplicationM Unit :=
  match fails phase step with
  | some message => throw (.io message)
  | none => return ()

def refuse (condition : Bool) (error : ApplicationError) : ApplicationM Unit :=
  if condition then throw error else return ()

def modifySnapshot (f : RuntimeSnapshot → RuntimeSnapshot) : ApplicationM Unit :=
  modify fun s => { s with snapshot := f s.snapshot }

def modifyDocuments (f : Documents → Documents) : ApplicationM Unit :=
  modify fun s => { s with documents := f s.documents }

def saveSnapshot (phase : Phase) : ApplicationM Unit := do
  fileStep fails phase .saveSnapshot
  modify fun s => { s with saved := s.snapshot }

/-! ## The queue -/

def enqueueDocument (phase : Phase) (kind : WorkItemKind) (id : String) : ApplicationM Unit := do
  let documents := (← get).documents
  refuse ([ItemState.queue, .active, .done, .blocked].any fun state => (documents kind state).contains id)
    (.queueState (asStr kind ++ " " ++ id ++ " already exists"))
  fileStep fails phase .enqueueDocument
  modifyDocuments fun documents => documents.add kind .queue id

/-- The family of the item that an intent moves. Every intent of a stage result names a builtin kind. -/
def builtinKind (intent : SourceLifecycleIntent) : Except String WorkItemKind := do
  (validateSafeIdentifier intent.lifecyclePlanId "lifecycle_plan_id").mapError ContractError.display
  (validateSafeIdentifier intent.workItemId "work_item_id").mapError ContractError.display
  intent.workItemFamilyId.forM fun family =>
    (validateSafeIdentifier family "work_item_family_id").mapError ContractError.display
  match intent.workItemKind with
  | none => throw "unsupported active work item family"
  | some kind =>
    if intent.workItemFamilyId.any (· ≠ asStr kind) then throw "work_item_family_id does not match work_item_kind"
    else return kind

def lifecycleDestination : SourceLifecycleAction → ItemState
  | .complete => .done
  | .block => .blocked
  | .requeue => .queue

/-- A blocked duplicate of a task that is done goes to the archive, where both have one root. -/
def retireStaleBlockedTaskDuplicateAfterDone (supersededDuplicate : Bool) (phase : Phase) (id : String) :
    ApplicationM Unit := do
  if supersededDuplicate && ((← get).documents .task .blocked).contains id then do
    fileStep fails phase .retireDuplicate
    modifyDocuments fun documents => documents.remove .task .blocked id
  else return ()

/-- The document of a draft is written anew and then removed, that of another family renamed. -/
def moveActiveItem (supersededDuplicate : Bool) (phase after : Phase) (kind : WorkItemKind)
    (action : SourceLifecycleAction) (id : String) : ApplicationM Unit := do
  let documents := (← get).documents
  let destination := lifecycleDestination action
  refuse (!(documents kind .active).contains id) (.queueState (asStr kind ++ " " ++ id ++ " is not active"))
  if kind = .blueprintDraft then do
    refuse ((documents kind destination).contains id) (.queueState ("blueprint draft " ++ id ++ " already exists"))
    fileStep fails phase .writeDraft
    modifyDocuments fun documents => documents.add kind destination id
    fileStep fails phase .removeDraft
    modifyDocuments fun documents => documents.remove kind .active id
  else do
    fileStep fails phase .createDirectory
    refuse ((documents kind destination).contains id)
      (.queueState (asStr kind ++ " " ++ id ++ " already exists at destination"))
    fileStep fails phase .renameDocument
    modifyDocuments fun documents => (documents.remove kind .active id).add kind destination id
    if kind = .task ∧ action = .complete then
      retireStaleBlockedTaskDuplicateAfterDone fails supersededDuplicate after id
    else if action = .requeue then fileStep fails after .appendRequeueReason
    else return ()

/-- The queue lifecycle interpreter. -/
def applyLifecycleIntent (supersededDuplicate : Bool) (phase after : Phase) (intent : SourceLifecycleIntent) :
    ApplicationM Unit := do
  match builtinKind intent with
  | .error message => throw (.queueState message)
  | .ok kind => do
    refuse (intent.action == .requeue && (intent.reason.filter fun reason => !Runtime.isBlank reason).isNone)
      (.queueState "requeue reason is required")
    moveActiveItem fails supersededDuplicate phase after kind intent.action intent.workItemId

end Millrace.Application

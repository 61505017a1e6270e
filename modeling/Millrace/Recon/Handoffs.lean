import Millrace.Application.Handoffs
import Millrace.Recon.Packets

/-! The handoff of a recon run: its packet, the task or spec it emits, and the blocking of its probe. -/

set_option autoImplicit false

namespace Millrace.Recon
open Millrace.Text Millrace.Contracts Millrace.Action Millrace.Runtime Millrace.Application
open Millrace.WorkDocuments (TaskDocument SpecDocument WorkDocumentError Rfc3339 renderTaskDocument
  renderSpecDocument parseTaskDocument parseSpecDocument)
open Millrace.Queue (ItemState)

/-! ## State -/

/-- The session of the application, the files of the recon packets and the texts of the queued documents. -/
structure ReconSession where
  session : DispatchSession
  packets : String → Option String
  queued : WorkItemKind → String → Option String

inductive HandoffError where
  | application (error : ApplicationError)
  | unreadablePacket
  | packet (error : ReconPacketError)
  | workDocument (error : WorkDocumentError)
  deriving DecidableEq, Repr

abbrev HandoffM (α : Type) := EStateM HandoffError ReconSession α

def invalidState (message : String) : HandoffError := .application (.invalidState message)

def onSession {α : Type} (x : ApplicationM α) : HandoffM α :=
  onPart (·.session) (fun s session => { s with session }) (adapt HandoffError.application x)

section Handoff
variable [Rfc3339]

/-- A recon result with its decision, the files of its run directory, where `none` cannot be read, and the readers of
documents that are written as JSON. -/
structure ReconHandoff where
  app : AppliedResult
  decision : RouterDecision
  packetFile : Option String
  taskFile : Option String
  specFile : Option String
  parseTaskJsonImport : String → Except WorkDocumentError TaskDocument
  parseSpecJsonImport : String → Except WorkDocumentError SpecDocument
  recon : isReconStageResult app.result = true

/-! ## The packet -/

def reconDecisionForTerminal : PlanningTerminalResult → Except HandoffError ReconDecision
  | .reconToExecution => .ok .toExecution
  | .reconToPlanning => .ok .toPlanning
  | .reconNoop => .ok .noop
  | .reconBlocked | .blocked => .ok .blocked
  | terminal => .error (invalidState ("unsupported recon terminal result: " ++ terminal.asStr))

def validateReconPacketForStageResult (packet : ReconPacketDocument) (r : StageResultEnvelope)
    (terminal : PlanningTerminalResult) : Except HandoffError Unit := do
  if packet.probeId ≠ r.workItemId then throw (invalidState "recon packet probe_id must match active probe")
  let expected ← reconDecisionForTerminal terminal
  if packet.decision ≠ expected then throw (invalidState "recon packet decision must match terminal result")

def readReconPacket : Option String → Except HandoffError ReconPacketDocument
  | none => .error .unreadablePacket
  | some raw => (parseReconPacket raw).mapError .packet

def readAndValidateReconPacket (h : ReconHandoff) (terminal : PlanningTerminalResult) :
    Except HandoffError ReconPacketDocument := do
  let packet ← readReconPacket h.packetFile
  validateReconPacketForStageResult packet h.app.result terminal
  return packet

/-- The decision that a terminal result comes with. -/
def requireRouterAction (decision : RouterDecision) : PlanningTerminalResult → Except HandoffError Unit
  | .reconToExecution | .reconToPlanning | .reconNoop =>
    if decision.action = .idle then .ok ()
    else .error (invalidState "successful recon terminal results require an idle router decision")
  | .reconBlocked | .blocked =>
    if decision.action = .blocked then .ok ()
    else .error (invalidState "blocked recon terminal results require a blocked router decision")
  | terminal => .error (invalidState ("unsupported recon terminal result: " ++ terminal.asStr))

/-- A packet is kept under its id, once. -/
def persistReconPacket (app : AppliedResult) (packet : ReconPacketDocument) : HandoffM Unit := do
  if ((← get).packets packet.reconPacketId).isSome then
    throw (invalidState ("recon packet already exists: " ++ packet.reconPacketId))
  onSession (fileStep app.fails .decision .persistReconPacket)
  modify fun s =>
    { s with packets := Function.update s.packets packet.reconPacketId (some (renderReconPacket packet)) }

/-! ## The emitted documents -/

def readGeneratedArtifact {α : Type} (file : Option String) (parseJson parse : String → Except WorkDocumentError α) :
    Except HandoffError α :=
  match file with
  | none => .error (.application (.io "No such file or directory"))
  | some raw =>
    (if (trimStart raw.toList).head? = some '\x7b' then parseJson raw else parse raw).mapError .workDocument

def appendRequiredReconReferences (references : List String) (packet : ReconPacketDocument) : List String :=
  ["millrace-agents/probes/active/" ++ packet.probeId ++ ".md",
    "millrace-agents/recon/packets/" ++ packet.reconPacketId ++ ".md"].foldl
    (fun references reference => if reference ∈ references then references else references ++ [reference]) references

def applyProbeTaskLineage (task : TaskDocument) (packet : ReconPacketDocument) : TaskDocument :=
  { task with
    rootIntakeKind := some .probe
    rootIntakeId := some packet.probeId
    references := appendRequiredReconReferences task.references packet }

def applyProbeSpecLineage (spec : SpecDocument) (packet : ReconPacketDocument) : SpecDocument :=
  { spec with
    sourceType := .probe
    sourceId := some packet.probeId
    rootIntakeKind := some .probe
    rootIntakeId := some packet.probeId
    rootSpecId := spec.rootSpecId.or (some spec.specId)
    references := appendRequiredReconReferences spec.references packet }

def generatedReconTask (h : ReconHandoff) (packet : ReconPacketDocument) : Except HandoffError TaskDocument :=
  match packet.emittedTaskId with
  | none => .error (invalidState "recon execution route requires emitted_task_id")
  | some emittedTaskId => do
    let task ← readGeneratedArtifact h.taskFile h.parseTaskJsonImport parseTaskDocument
    if task.taskId ≠ emittedTaskId then
      throw (invalidState "generated task id must match recon packet emitted_task_id")
    return applyProbeTaskLineage task packet

def generatedReconSpec (h : ReconHandoff) (packet : ReconPacketDocument) : Except HandoffError SpecDocument :=
  match packet.emittedSpecId with
  | none => .error (invalidState "recon planning route requires emitted_spec_id")
  | some emittedSpecId => do
    let spec ← readGeneratedArtifact h.specFile h.parseSpecJsonImport parseSpecDocument
    if spec.specId ≠ emittedSpecId then
      throw (invalidState "generated spec id must match recon packet emitted_spec_id")
    return applyProbeSpecLineage spec packet

def enqueueText (app : AppliedResult) (kind : WorkItemKind) (id text : String) : HandoffM Unit := do
  onSession (enqueueDocument app.fails .decision kind id)
  modify fun s => { s with queued := Function.update s.queued kind (Function.update (s.queued kind) id (some text)) }

def enqueueTask (app : AppliedResult) (task : TaskDocument) : HandoffM Unit := do
  ofExcept (task.validate.mapError .workDocument)
  enqueueText app .task task.taskId (renderTaskDocument task)

def enqueueSpec (app : AppliedResult) (spec : SpecDocument) : HandoffM Unit := do
  ofExcept (spec.validate.mapError .workDocument)
  enqueueText app .spec spec.specId (renderSpecDocument spec)

/-! ## The handoff -/

/-- What a terminal result does once its packet is kept. -/
def finishReconHandoff (h : ReconHandoff) (packet : ReconPacketDocument) : PlanningTerminalResult → HandoffM Unit
  | .reconToExecution => do
    enqueueTask h.app (← ofExcept (generatedReconTask h packet))
    onSession (applyIdleDecision h.app)
  | .reconToPlanning => do
    enqueueSpec h.app (← ofExcept (generatedReconSpec h packet))
    onSession (applyIdleDecision h.app)
  | .reconNoop => onSession (applyIdleDecision h.app)
  | _ => onSession (applyBlockedDecision h.app h.decision)

def applyReconRouterDecisionInner (h : ReconHandoff) : HandoffM Unit :=
  match h.app.result.terminalResult with
  | .planning terminal => do
    ofExcept (requireRouterAction h.decision terminal)
    let packet ← ofExcept (readAndValidateReconPacket h terminal)
    persistReconPacket h.app packet
    finishReconHandoff h packet terminal
  | _ => throw (invalidState "recon stage results must use planning terminal results")

def applyReconRouterDecision (h : ReconHandoff) : HandoffM Unit :=
  tryCatch (applyReconRouterDecisionInner h) fun _ => onSession (blockInvalidReconHandoff h.app)

end Handoff
end Millrace.Recon

import Mathlib.Data.List.Sort
import Mathlib.Data.Prod.Lex
import Millrace.Runtime.Router
import Millrace.Workspace.TaskClaims

/-! The trace of a run: one node for each stage result, one edge for each router decision. -/

set_option autoImplicit false

namespace Millrace.Runtime.RunTraces
open Millrace.Text Millrace.Contracts Millrace.WorkDocuments

/-! ## Contracts -/

inductive RuntimeJsonError where
  | invalidLiteral (fieldName expected actual : String)
  | invalidField (fieldName message : String)
  | invalidDocument (message : String)
  deriving DecidableEq, Repr

def validateLiteral (fieldName actual expected : String) : Except RuntimeJsonError Unit :=
  if actual = expected then .ok () else .error (.invalidLiteral fieldName expected actual)

def requireNonBlank (fieldName value : String) : Except RuntimeJsonError Unit :=
  if isBlank value then .error (.invalidField fieldName "is required") else .ok ()

def requireOptionalNonBlank (fieldName : String) : Option String → Except RuntimeJsonError Unit
  | none => .ok ()
  | some value => requireNonBlank fieldName value

inductive RunTraceSpawnedWorkKind where
  | task | spec | incident | learningRequest
  deriving DecidableEq, Repr

inductive RunTraceStatus where
  | active | complete | blocked | handoff | incomplete | malformed
  deriving DecidableEq, Repr

/-- Artifact reference attached to one trace node. -/
structure RunTraceArtifactRef where
  path : String
  kind : String
  sizeBytes : Option Nat
  sha256 : Option String
  deriving DecidableEq, Repr

def RunTraceArtifactRef.validate (a : RunTraceArtifactRef) : Except RuntimeJsonError Unit := do
  requireNonBlank "artifact.path" a.path
  requireNonBlank "artifact.kind" a.kind
  requireOptionalNonBlank "artifact.sha256" a.sha256

/-- Work item spawned as evidence from one routed trace edge. -/
structure RunTraceSpawnedWorkRef where
  kind : RunTraceSpawnedWorkKind
  itemId : String
  path : Option String
  reason : Option String
  sourceStageNodeId : Option String
  sourceTerminalResult : Option String
  deriving DecidableEq, Repr

def RunTraceSpawnedWorkRef.validate (r : RunTraceSpawnedWorkRef) : Except RuntimeJsonError Unit := do
  requireNonBlank "spawned_work.item_id" r.itemId
  requireOptionalNonBlank "spawned_work.path" r.path
  requireOptionalNonBlank "spawned_work.reason" r.reason
  requireOptionalNonBlank "spawned_work.source_stage_node_id" r.sourceStageNodeId
  requireOptionalNonBlank "spawned_work.source_terminal_result" r.sourceTerminalResult

section Trace
variable [Rfc3339]

def Timestamp.moment (t : Timestamp) : Int := t.instant.nanoseconds

/-- One stage result represented as a run-trace node. -/
structure RunTraceNode where
  traceNodeId : String
  runId : String
  requestId : String
  plane : Plane
  stage : String
  nodeId : String
  stageKindId : String
  compiledPlanId : Option String
  modeId : Option String
  requestKind : Option String
  workItemKind : Option String
  workItemId : Option String
  closureTargetRootSpecId : Option String
  terminalResult : String
  resultClass : ResultClass
  failureClass : Option String
  runnerName : Option String
  modelName : Option String
  thinkingLevel : Option String
  modelReasoningEffort : Option String
  startedAt : Timestamp
  completedAt : Timestamp
  artifacts : List RunTraceArtifactRef
  deriving DecidableEq

def RunTraceNode.validate (n : RunTraceNode) : Except RuntimeJsonError Unit := do
  requireNonBlank "trace_node_id" n.traceNodeId
  requireNonBlank "run_id" n.runId
  requireNonBlank "request_id" n.requestId
  requireNonBlank "stage" n.stage
  requireNonBlank "node_id" n.nodeId
  requireNonBlank "stage_kind_id" n.stageKindId
  requireOptionalNonBlank "compiled_plan_id" n.compiledPlanId
  requireOptionalNonBlank "mode_id" n.modeId
  requireOptionalNonBlank "request_kind" n.requestKind
  requireOptionalNonBlank "work_item_kind" n.workItemKind
  requireOptionalNonBlank "work_item_id" n.workItemId
  requireOptionalNonBlank "closure_target_root_spec_id" n.closureTargetRootSpecId
  requireNonBlank "terminal_result" n.terminalResult
  requireOptionalNonBlank "failure_class" n.failureClass
  requireOptionalNonBlank "runner_name" n.runnerName
  requireOptionalNonBlank "model_name" n.modelName
  requireOptionalNonBlank "thinking_level" n.thinkingLevel
  requireOptionalNonBlank "model_reasoning_effort" n.modelReasoningEffort
  if Timestamp.moment n.completedAt < Timestamp.moment n.startedAt then
    throw (.invalidDocument "run trace node completed_at cannot precede started_at")
  n.artifacts.forM RunTraceArtifactRef.validate

/-- One graph-authoritative router decision represented as a trace edge. -/
structure RunTraceEdge where
  traceEdgeId : String
  sourceTraceNodeId : String
  outcome : String
  edgeKind : String
  targetNodeId : Option String
  targetTraceNodeId : Option String
  terminalStateId : Option String
  spawnedWork : List RunTraceSpawnedWorkRef
  decisionReason : Option String
  decidedAt : Timestamp
  deriving DecidableEq

def RunTraceEdge.validate (e : RunTraceEdge) : Except RuntimeJsonError Unit := do
  requireNonBlank "trace_edge_id" e.traceEdgeId
  requireNonBlank "source_trace_node_id" e.sourceTraceNodeId
  requireNonBlank "outcome" e.outcome
  requireNonBlank "edge_kind" e.edgeKind
  requireOptionalNonBlank "target_node_id" e.targetNodeId
  requireOptionalNonBlank "target_trace_node_id" e.targetTraceNodeId
  requireOptionalNonBlank "terminal_state_id" e.terminalStateId
  requireOptionalNonBlank "decision_reason" e.decisionReason
  e.spawnedWork.forM RunTraceSpawnedWorkRef.validate

/-- Persisted run-trace graph for one runtime run directory. -/
structure RunTraceGraph where
  schemaVersion : String
  kind : String
  runId : String
  runDir : String
  compiledPlanId : Option String
  modeId : Option String
  requestKind : Option String
  workItemKind : Option String
  workItemId : Option String
  closureTargetRootSpecId : Option String
  status : RunTraceStatus
  startedAt : Option Timestamp
  completedAt : Option Timestamp
  nodes : List RunTraceNode
  edges : List RunTraceEdge
  notes : List String
  generatedAt : Timestamp
  deriving DecidableEq

/-- The nodes that an edge names are nodes of the trace. -/
def validateEdgeNodes (nodes : List RunTraceNode) (e : RunTraceEdge) : Except RuntimeJsonError Unit := do
  e.validate
  if nodes.all fun node => node.traceNodeId ≠ e.sourceTraceNodeId then
    throw (.invalidDocument "run trace edge source_trace_node_id must reference a node")
  e.targetTraceNodeId.forM fun target =>
    if nodes.all fun node => node.traceNodeId ≠ target then
      .error (.invalidDocument "run trace edge target_trace_node_id must reference a node")
    else .ok ()

def validateTimes : Option Timestamp → Option Timestamp → Except RuntimeJsonError Unit
  | some startedAt, some completedAt =>
    if Timestamp.moment completedAt < Timestamp.moment startedAt then
      .error (.invalidDocument "run trace completed_at cannot precede started_at")
    else .ok ()
  | _, _ => .ok ()

def RunTraceGraph.validateContract (g : RunTraceGraph) : Except RuntimeJsonError Unit := do
  validateLiteral "schema_version" g.schemaVersion "1.0"
  validateLiteral "kind" g.kind "run_trace_graph"
  requireNonBlank "run_id" g.runId
  requireNonBlank "run_dir" g.runDir
  requireOptionalNonBlank "compiled_plan_id" g.compiledPlanId
  requireOptionalNonBlank "mode_id" g.modeId
  requireOptionalNonBlank "request_kind" g.requestKind
  requireOptionalNonBlank "work_item_kind" g.workItemKind
  requireOptionalNonBlank "work_item_id" g.workItemId
  requireOptionalNonBlank "closure_target_root_spec_id" g.closureTargetRootSpecId
  validateTimes g.startedAt g.completedAt
  g.notes.forM (requireNonBlank "notes")
  g.nodes.forM RunTraceNode.validate
  g.edges.forM (validateEdgeNodes g.nodes)

/-! ## The run directory -/

/-- A stage result with what its trace node shows of it. -/
structure TracedStageResult extends StageResultEnvelope where
  resultClass : ResultClass
  runnerName : Option String
  modelName : Option String
  thinkingLevel : Option String
  modelReasoningEffort : Option String
  startedAt : Timestamp
  completedAt : Timestamp
  /-- The artifacts of the stage as they are found on disk. -/
  artifacts : List RunTraceArtifactRef
  deriving DecidableEq

inductive TraceFile where
  | absent
  | malformed
  | holds (trace : RunTraceGraph)
  deriving DecidableEq

structure RunDirectory where
  name : String
  path : String
  /-- The stage results by file name, or why one of them cannot be read. -/
  stageResults : List (String × Except String TracedStageResult)
  trace : TraceFile

/-! ## Nodes and edges -/

def zeroPadded (index : Nat) : String := String.ofList (List.leftpad 4 '0' (toString index).toList)

def asciiLower (text : String) : String := String.ofList (text.toList.map toAsciiLower)

def traceNodeId (r : TracedStageResult) (fallbackIndex : Option Nat) : String :=
  match r.metadataText "request_id" with
  | some requestId => requestId
  | none =>
    match fallbackIndex with
    | some index => "stage-result-" ++ zeroPadded index
    | none => asStr r.stage ++ "-" ++ asciiLower r.outcome

def nodeFromStageResult (r : TracedStageResult) (fallbackIndex : Option Nat) : RunTraceNode where
  traceNodeId := traceNodeId r fallbackIndex
  runId := r.runId
  requestId := traceNodeId r fallbackIndex
  plane := r.plane
  stage := asStr r.stage
  nodeId := r.nodeId
  stageKindId := r.stageKindId
  compiledPlanId := r.metadataText "compiled_plan_id"
  modeId := r.metadataText "mode_id"
  requestKind := r.metadataText "request_kind"
  workItemKind := some (asStr r.workItemKind)
  workItemId := some r.workItemId
  closureTargetRootSpecId := r.metadataText "closure_target_root_spec_id"
  terminalResult := r.outcome
  resultClass := r.resultClass
  failureClass := r.metadataText "failure_class"
  runnerName := r.runnerName
  modelName := r.modelName
  thinkingLevel := r.thinkingLevel
  modelReasoningEffort := r.modelReasoningEffort
  startedAt := r.startedAt
  completedAt := r.completedAt
  artifacts := r.artifacts

def routerActionText : RouterAction → String
  | .runStage => "run_stage"
  | .idle => "idle"
  | .handoff => "handoff"
  | .blocked => "blocked"

def terminalStateId (r : TracedStageResult) (decision : RouterDecision) : String :=
  if decision.action = .blocked then "blocked" else asciiLower r.outcome

def edgeFromDecision (r : TracedStageResult) (decision : RouterDecision) (sourceTraceNodeId : String)
    (spawnedWork : List RunTraceSpawnedWorkRef) : RunTraceEdge :=
  let targetNodeId := if decision.action = .runStage then decision.nextNodeId else none
  let terminal := if targetNodeId.isNone then some (terminalStateId r decision) else none
  let targetOrTerminal := targetNodeId.getD ("terminal:" ++ terminal.getD "none")
  { traceEdgeId := sourceTraceNodeId ++ "--" ++ r.outcome ++ "--" ++ targetOrTerminal
    sourceTraceNodeId := sourceTraceNodeId
    outcome := r.outcome
    edgeKind := routerActionText decision.action
    targetNodeId := targetNodeId
    targetTraceNodeId := none
    terminalStateId := terminal
    spawnedWork := spawnedWork
    decisionReason := some decision.reason
    decidedAt := r.completedAt }

def statusFromDecision (decision : RouterDecision) : RunTraceStatus :=
  match decision.action with
  | .runStage => .active
  | .handoff => .handoff
  | .blocked => .blocked
  | .idle => .complete

def linkEdgeTarget (node : RunTraceNode) (e : RunTraceEdge) : RunTraceEdge :=
  if e.targetNodeId = some node.nodeId ∧ e.targetTraceNodeId = none then
    { e with targetTraceNodeId := some node.traceNodeId }
  else e

/-- The links that lead to a node, counted up to the given number. -/
def walkDepth (edges : List RunTraceEdge) : Nat → String → Nat
  | 0, _ => 0
  | fuel + 1, current =>
    match edges.find? fun e => e.targetTraceNodeId = some current with
    | none => 0
    | some parent => walkDepth edges fuel parent.sourceTraceNodeId + 1

def traceNodeDepth (edges : List RunTraceEdge) (node : RunTraceNode) : Nat :=
  walkDepth edges edges.length node.traceNodeId

abbrev TextOrder := String ×ₗ String ×ₗ String

def textOrder (node : RunTraceNode) : TextOrder :=
  toLex (node.startedAt.text, toLex (node.completedAt.text, node.traceNodeId))

def traceOrder (edges : List RunTraceEdge) (node : RunTraceNode) : Nat ×ₗ TextOrder :=
  toLex (traceNodeDepth edges node, textOrder node)

def sortTraceNodes (nodes : List RunTraceNode) (edges : List RunTraceEdge) : List RunTraceNode :=
  nodes.insertionSort fun left right => traceOrder edges left ≤ traceOrder edges right

/-! ## Updates -/

def derivedNote : String := "derived from stage result artifacts"

def withoutDerivedNote (notes : List String) : List String := notes.filter (· ≠ derivedNote)

def stageResultNote (file error : String) : String := file ++ ": invalid stage result: " ++ error

/-- The nodes of the stage result files in the order of their names; files that cannot be read are noted. -/
def deriveNodes (files : List (String × Except String TracedStageResult)) : List RunTraceNode × List String :=
  let sorted := files.insertionSort fun left right => left.1 ≤ right.1
  (sorted.zipIdx.filterMap fun (file, index) =>
      match file.2 with
      | .ok r => some (nodeFromStageResult r (some (index + 1)))
      | .error _ => none,
    sorted.filterMap fun file =>
      match file.2 with
      | .ok _ => none
      | .error error => some (stageResultNote file.1 error))

def derivedTrace (dir : RunDirectory) (status : RunTraceStatus) (notes : List String) (generatedAt : Timestamp) :
    RunTraceGraph :=
  let (nodes, unreadable) := deriveNodes dir.stageResults
  let latest := nodes.getLast?
  { schemaVersion := "1.0"
    kind := "run_trace_graph"
    runId := dir.name
    runDir := dir.path
    compiledPlanId := latest.bind (·.compiledPlanId)
    modeId := latest.bind (·.modeId)
    requestKind := latest.bind (·.requestKind)
    workItemKind := latest.bind (·.workItemKind)
    workItemId := latest.bind (·.workItemId)
    closureTargetRootSpecId := latest.bind (·.closureTargetRootSpecId)
    status := status
    startedAt := nodes.head?.map (·.startedAt)
    completedAt := latest.map (·.completedAt)
    nodes := nodes
    edges := []
    notes := notes ++ unreadable
    generatedAt := generatedAt }

/-- A fallback trace of the persisted stage results. -/
def deriveRunTraceFromStageResults (dir : RunDirectory) (status : RunTraceStatus) (notes : List String)
    (generatedAt : Timestamp) : Except RuntimeJsonError RunTraceGraph := do
  let graph := derivedTrace dir status notes generatedAt
  graph.validateContract
  return graph

def loadOrDeriveForUpdate (dir : RunDirectory) (generatedAt : Timestamp) : Except RuntimeJsonError RunTraceGraph :=
  match dir.trace with
  | .holds trace => .ok trace
  | .malformed =>
    deriveRunTraceFromStageResults dir .malformed
      ["run_trace.json malformed; regenerated from stage result artifacts"] generatedAt
  | .absent => deriveRunTraceFromStageResults dir .incomplete [derivedNote] generatedAt

def headerUpdated (trace : RunTraceGraph) (r : TracedStageResult) (status : RunTraceStatus) (notes : List String)
    (generatedAt : Timestamp) : RunTraceGraph :=
  { trace with
    compiledPlanId := (r.metadataText "compiled_plan_id").or trace.compiledPlanId
    modeId := (r.metadataText "mode_id").or trace.modeId
    requestKind := (r.metadataText "request_kind").or trace.requestKind
    workItemKind := some (asStr r.workItemKind)
    workItemId := some r.workItemId
    closureTargetRootSpecId := (r.metadataText "closure_target_root_spec_id").or trace.closureTargetRootSpecId
    status := status
    startedAt := trace.nodes.head?.map (·.startedAt)
    completedAt := trace.nodes.getLast?.map (·.completedAt)
    notes := notes
    generatedAt := generatedAt }

def updateTraceHeader (trace : RunTraceGraph) (r : TracedStageResult) (status : RunTraceStatus) (notes : List String)
    (generatedAt : Timestamp) : Except RuntimeJsonError RunTraceGraph := do
  let trace := headerUpdated trace r status notes generatedAt
  trace.validateContract
  return trace

/-- The clock and the disk during one update of the trace. -/
structure TraceWrite where
  derivedAt : Timestamp
  generatedAt : Timestamp
  written : Bool

def tryUpsertStageResultTraceNode (dir : RunDirectory) (r : TracedStageResult) (write : TraceWrite) :
    Except RuntimeJsonError RunTraceGraph := do
  let trace ← loadOrDeriveForUpdate dir write.derivedAt
  let node := nodeFromStageResult r none
  let nodes := (trace.nodes.filter (·.traceNodeId ≠ node.traceNodeId) ++ [node]).insertionSort
    fun left right => textOrder left ≤ textOrder right
  let edges := trace.edges.map (linkEdgeTarget node)
  let nodes := sortTraceNodes nodes edges
  updateTraceHeader { trace with nodes := nodes, edges := edges } r .active (withoutDerivedNote trace.notes)
    write.generatedAt

def tryRecordRouterDecisionTrace (dir : RunDirectory) (r : TracedStageResult) (decision : RouterDecision)
    (spawnedWork : List RunTraceSpawnedWorkRef) (write : TraceWrite) : Except RuntimeJsonError RunTraceGraph := do
  let trace ← loadOrDeriveForUpdate dir write.derivedAt
  let edge := edgeFromDecision r decision (traceNodeId r none) spawnedWork
  let edges := trace.edges.filter (·.traceEdgeId ≠ edge.traceEdgeId) ++ [edge]
  let nodes := sortTraceNodes trace.nodes edges
  updateTraceHeader { trace with nodes := nodes, edges := edges } r (statusFromDecision decision)
    (withoutDerivedNote trace.notes) write.generatedAt

/-- An update that fails, or cannot be written, leaves the trace as it was. -/
def writeTrace (dir : RunDirectory) (write : TraceWrite) (updated : Except RuntimeJsonError RunTraceGraph) : RunDirectory :=
  match updated with
  | .error _ => dir
  | .ok trace => if write.written then { dir with trace := .holds trace } else dir

/-- Best-effort trace-node update after stage-result persistence. -/
def upsertStageResultTraceNode (dir : RunDirectory) (r : TracedStageResult) (write : TraceWrite) : RunDirectory :=
  writeTrace dir write (tryUpsertStageResultTraceNode dir r write)

/-- Best-effort trace-edge update after authoritative routing has been applied. -/
def recordRouterDecisionTrace (dir : RunDirectory) (r : TracedStageResult) (decision : RouterDecision)
    (spawnedWork : List RunTraceSpawnedWorkRef) (write : TraceWrite) : RunDirectory :=
  writeTrace dir write (tryRecordRouterDecisionTrace dir r decision spawnedWork write)

end Trace

end Millrace.Runtime.RunTraces

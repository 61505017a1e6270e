import Mathlib.Data.List.Chain
import Millrace.Action
import Millrace.Runtime.RunTraces

/-! The order of the nodes in the trace of a run, and when it is the order in which the stages ran. -/

set_option autoImplicit false

namespace Millrace.Runtime.RunTraces
open Millrace.Text Millrace.Contracts Millrace.WorkDocuments Millrace.Action

/-- Sorting a rearrangement of a list whose keys increase gives that list. -/
theorem insertionSort_of_increasing {α κ : Type} [LinearOrder κ] (key : α → κ) {l ordered : List α}
    (rearranged : l.Perm ordered) (increasing : ordered.Pairwise fun a b => key a < key b) :
    l.insertionSort (fun a b => key a ≤ key b) = ordered := by
  have distinct : (ordered.map key).Nodup := List.pairwise_map.2 (increasing.imp ne_of_lt)
  have permuted := (List.perm_insertionSort (fun a b => key a ≤ key b) l).trans rearranged
  have : IsTrans α fun a b => key a ≤ key b := ⟨fun _ _ _ => le_trans⟩
  have : Std.Total fun a b => key a ≤ key b := ⟨fun a b => le_total (key a) (key b)⟩
  have sorted := List.pairwise_insertionSort (fun a b => key a ≤ key b) l
  apply List.Perm.eq_of_pairwise _ sorted (increasing.imp le_of_lt) permuted
  intro a b amongSorted among ab ba
  exact List.inj_on_of_nodup_map distinct (permuted.subset amongSorted) among (le_antisymm ab ba)

theorem find_only {α : Type} {l : List α} {p : α → Bool} {a : α} (among : a ∈ l) (holds : p a = true)
    (only : ∀ b ∈ l, p b = true → b = a) : l.find? p = some a := by
  cases found : l.find? p with
  | none => exact absurd holds (by simpa using List.find?_eq_none.1 found a among)
  | some b => rw [only b (List.mem_of_find?_eq_some found) (List.find?_some found)]

theorem consecutive_places {α : Type} {l : List α} {a b : α} (consecutive : [a, b] <:+: l) :
    ∃ i, ∃ next : i + 1 < l.length, l[i] = a ∧ l[i + 1] = b := by
  obtain ⟨earlier, later, rfl⟩ := consecutive
  exact ⟨earlier.length, by simp, by simp, by simp⟩

theorem requireNonBlank_iff {fieldName value : String} :
    requireNonBlank fieldName value = .ok () ↔ isBlank value = false := by
  unfold requireNonBlank
  cases isBlank value <;> simp

theorem validateLiteral_iff {fieldName actual expected : String} :
    validateLiteral fieldName actual expected = .ok () ↔ actual = expected := by
  unfold validateLiteral
  split
  next same => simp [same]
  next differs => simp [differs]

theorem requireOptionalNonBlank_or {fieldName : String} {first second : Option String}
    (firstOk : requireOptionalNonBlank fieldName first = .ok ())
    (secondOk : requireOptionalNonBlank fieldName second = .ok ()) :
    requireOptionalNonBlank fieldName (first.or second) = .ok () := by
  cases first with
  | none => exact secondOk
  | some value => exact firstOk

theorem derivedNote_named : isBlank derivedNote = false := by decide +kernel

section
variable [Rfc3339]

/-! ## Runs -/

/-- How far the application of a stage result comes before an error ends it, with the updates it makes. -/
inductive Application where
  | unstored
  | stored
  | traced (node : TraceWrite)
  | decided (node : TraceWrite) (decision : RouterDecision) (spawnedWork : List RunTraceSpawnedWorkRef)
      (edge : TraceWrite)

/-- One stage of a run; the result repeats the id of the request. -/
structure ExecutedStage where
  requestId : String
  result : TracedStageResult
  identified : result.metadataText "request_id" = some requestId
  application : Application

def storeStageResult (dir : RunDirectory) (s : ExecutedStage) : RunDirectory :=
  let file := s.requestId ++ ".json"
  { dir with stageResults := dir.stageResults.filter (·.1 ≠ file) ++ [(file, .ok s.result)] }

/-- What the application of one stage result leaves in the run directory. -/
def applyStage (dir : RunDirectory) (s : ExecutedStage) : RunDirectory :=
  match s.application with
  | .unstored => dir
  | .stored => storeStageResult dir s
  | .traced node => upsertStageResultTraceNode (storeStageResult dir s) s.result node
  | .decided node decision spawnedWork edge =>
    recordRouterDecisionTrace (upsertStageResultTraceNode (storeStageResult dir s) s.result node) s.result decision
      spawnedWork edge

/-- The directory of a run before its first stage. -/
def RunDirectory.created (name path : String) : RunDirectory := ⟨name, path, [], .absent⟩

def execute (dir : RunDirectory) (stages : List ExecutedStage) : RunDirectory := stages.foldl applyStage dir

theorem execute_snoc (dir : RunDirectory) (stages : List ExecutedStage) (s : ExecutedStage) :
    execute dir (stages ++ [s]) = applyStage (execute dir stages) s := by
  simp [execute]

def ExecutedStage.node (s : ExecutedStage) : RunTraceNode := nodeFromStageResult s.result none

/-- The edge of the decision on a stage, if the application came to it. -/
def ExecutedStage.edges (s : ExecutedStage) : List RunTraceEdge :=
  match s.application with
  | .decided _ decision spawnedWork _ => [edgeFromDecision s.result decision s.requestId spawnedWork]
  | _ => []

/-- The trace follows the execution of these stages. -/
structure Follows (stages : List ExecutedStage) (trace : RunTraceGraph) : Prop where
  nodes : trace.nodes = stages.map (·.node)
  edges : ∀ edge ∈ trace.edges, edge.edgeKind = "run_stage" → ∀ stage next, [stage, next] <:+: stages →
    edge.sourceTraceNodeId = stage.node.traceNodeId →
    edge.targetNodeId = some next.node.nodeId ∧ edge.targetTraceNodeId = some next.node.traceNodeId
  startedAt : trace.startedAt = stages.head?.map (·.result.startedAt)
  completedAt : trace.completedAt = stages.getLast?.map (·.result.completedAt)

/-! ## Runs that are traced in order -/

/-- The node of a stage is recorded. -/
def ExecutedStage.Recorded (s : ExecutedStage) : Prop :=
  s.node.validate = .ok () ∧
    match s.application with
    | .traced node => node.written = true
    | .decided node _ _ _ => node.written = true
    | _ => False

/-- The decision on a stage is recorded and leads to the next one. -/
def Leads (s next : ExecutedStage) : Prop :=
  ∃ node decision spawnedWork edge, s.application = .decided node decision spawnedWork edge ∧
    edge.written = true ∧ (edgeFromDecision s.result decision s.requestId spawnedWork).validate = .ok () ∧
    decision.action = .runStage ∧ decision.nextNodeId = some next.result.nodeId

/-- Neither request id goes on from the other one, or from the other one and `--`. -/
def Apart (s other : ExecutedStage) : Prop :=
  ¬(s.requestId ++ "--").toList <+: (other.requestId ++ "--").toList ∧
    ¬(other.requestId ++ "--").toList <+: (s.requestId ++ "--").toList

/-- Every stage but the last hands on to the next by a recorded decision, and the clock does not run backwards. -/
structure Unbroken (name path : String) (stages : List ExecutedStage) : Prop where
  named : isBlank name = false
  located : isBlank path = false
  recorded : ∀ s ∈ stages, s.Recorded
  leads : stages.IsChain Leads
  apart : stages.Pairwise Apart
  onTime : ∀ first ∈ stages.head?, ∀ s ∈ stages,
    Timestamp.moment first.result.startedAt ≤ Timestamp.moment s.result.completedAt

theorem Apart.ids_ne {s other : ExecutedStage} (apart : Apart s other) : s.requestId ≠ other.requestId := by
  intro same
  apply apart.1
  rw [same]

theorem Unbroken.init {name path : String} {stages : List ExecutedStage} {s : ExecutedStage}
    (unbroken : Unbroken name path (stages ++ [s])) : Unbroken name path stages where
  named := unbroken.named
  located := unbroken.located
  recorded t among := unbroken.recorded t (List.mem_append_left _ among)
  leads := unbroken.leads.left_of_append
  apart := (List.pairwise_append.1 unbroken.apart).1
  onTime first among t later := by
    cases stages with
    | nil => simp at among
    | cons a rest => exact unbroken.onTime first among t (List.mem_append_left _ later)

theorem Unbroken.ids_nodup {name path : String} {stages : List ExecutedStage} (unbroken : Unbroken name path stages) :
    (stages.map (·.requestId)).Nodup :=
  List.pairwise_map.2 (unbroken.apart.imp Apart.ids_ne)

@[simp] theorem traceNodeId_identified (s : ExecutedStage) (fallbackIndex : Option Nat) :
    traceNodeId s.result fallbackIndex = s.requestId := by
  simp [traceNodeId, s.identified]

@[simp] theorem node_traceNodeId (s : ExecutedStage) : s.node.traceNodeId = s.requestId :=
  traceNodeId_identified s none

@[simp] theorem node_startedAt (s : ExecutedStage) : s.node.startedAt = s.result.startedAt := rfl
@[simp] theorem node_completedAt (s : ExecutedStage) : s.node.completedAt = s.result.completedAt := rfl

theorem nodeFromStageResult_identified (s : ExecutedStage) (fallbackIndex : Option Nat) :
    nodeFromStageResult s.result fallbackIndex = s.node := by
  simp [ExecutedStage.node, nodeFromStageResult]

/-! ## The order of the nodes -/

/-- Along edges that lead from each node to the next, a node lies as deep as its place. -/
theorem walkDepth_of_path {ids : List String} {edges : List RunTraceEdge}
    (root : ∀ first ∈ ids.head?, edges.find? (fun e => e.targetTraceNodeId = some first) = none)
    (parent : ∀ i (next : i + 1 < ids.length), ∃ e,
      edges.find? (fun e => e.targetTraceNodeId = some ids[i + 1]) = some e ∧ e.sourceTraceNodeId = ids[i]) :
    ∀ i (there : i < ids.length) fuel, i ≤ fuel → walkDepth edges fuel ids[i] = i := by
  intro i
  induction i with
  | zero =>
    intro there fuel enough
    cases fuel with
    | zero => rfl
    | succ fuel =>
      have none := root ids[0] (by simp [List.head?_eq_getElem?, List.getElem?_eq_getElem there])
      simp only [walkDepth, none]
  | succ i ih =>
    intro there fuel enough
    obtain ⟨fuel, rfl⟩ : ∃ n, fuel = n + 1 := ⟨fuel - 1, by omega⟩
    obtain ⟨e, found, source⟩ := parent i there
    simp only [walkDepth, found, source]
    rw [ih (by omega) fuel (by omega)]

/-! ## The edges of a run -/

def pointedAt (next : ExecutedStage) (e : RunTraceEdge) : RunTraceEdge :=
  { e with targetTraceNodeId := some next.requestId }

/-- The edges of all stages but the last, each linked to the next node. -/
def chain : List ExecutedStage → List RunTraceEdge
  | s :: next :: rest => s.edges.map (pointedAt next) ++ chain (next :: rest)
  | _ => []

theorem mem_chain {stages : List ExecutedStage} {e : RunTraceEdge} :
    e ∈ chain stages ↔ ∃ i, ∃ next : i + 1 < stages.length, e ∈ stages[i].edges.map (pointedAt stages[i + 1]) := by
  induction stages with
  | nil => simp [chain]
  | cons s rest ih =>
    cases rest with
    | nil => simp [chain]
    | cons next rest =>
      rw [chain, List.mem_append, ih]
      constructor
      · intro among
        cases among with
        | inl first => exact ⟨0, by simp, first⟩
        | inr later =>
          obtain ⟨i, there, among⟩ := later
          exact ⟨i + 1, by simpa using there, among⟩
      · intro among
        obtain ⟨i, there, among⟩ := among
        cases i with
        | zero => exact Or.inl among
        | succ i => exact Or.inr ⟨i, by simpa using there, among⟩

theorem chain_snoc (stages : List ExecutedStage) (s next : ExecutedStage) :
    chain (stages ++ [s, next]) = chain (stages ++ [s]) ++ s.edges.map (pointedAt next) := by
  induction stages with
  | nil => simp [chain]
  | cons first rest ih =>
    cases rest with
    | nil => simp [chain]
    | cons second rest => simpa [chain] using ih

theorem Leads.edges {s next : ExecutedStage} (leads : Leads s next) :
    ∃ e, s.edges = [e] ∧ e.validate = .ok () ∧ e.sourceTraceNodeId = s.requestId ∧
      e.targetNodeId = some next.result.nodeId ∧ e.targetTraceNodeId = none := by
  obtain ⟨node, decision, spawnedWork, edge, decided, -, valid, action, target⟩ := leads
  refine ⟨edgeFromDecision s.result decision s.requestId spawnedWork, by simp [ExecutedStage.edges, decided], valid,
    rfl, ?_, rfl⟩
  simp [edgeFromDecision, action, target]

theorem source_of_edges {s : ExecutedStage} {e : RunTraceEdge} (among : e ∈ s.edges) :
    e.sourceTraceNodeId = s.requestId ∧ e.targetTraceNodeId = none ∧
      (s.requestId ++ "--").toList <+: e.traceEdgeId.toList := by
  unfold ExecutedStage.edges at among
  split at among
  next node decision spawnedWork edge decided =>
    rw [List.mem_singleton] at among
    subst among
    refine ⟨rfl, rfl, ?_⟩
    simp only [edgeFromDecision, String.toList_append, List.append_assoc]
    simp
  next => simp at among

theorem chain_length {stages : List ExecutedStage} (leads : stages.IsChain Leads) :
    stages.length ≤ (chain stages).length + 1 := by
  induction stages with
  | nil => simp
  | cons s rest ih =>
    cases rest with
    | nil => simp [chain]
    | cons next rest =>
      obtain ⟨first, later⟩ := List.isChain_cons_cons.1 leads
      obtain ⟨e, only, -⟩ := first.edges
      have := ih later
      simp only [chain, only, List.map_cons, List.map_nil, List.length_append, List.length_cons, List.length_nil] at this ⊢
      omega

section Path
variable {stages : List ExecutedStage} {own : List RunTraceEdge}

theorem ids_inj (ids : (stages.map (·.requestId)).Nodup) {i j : Nat} (hi : i < stages.length) (hj : j < stages.length)
    (same : stages[i].requestId = stages[j].requestId) : i = j :=
  (List.getElem?_inj (by simpa using hi) ids).1 (by simp [hi, hj, same])

theorem find_root (ids : (stages.map (·.requestId)).Nodup) (unlinked : ∀ e ∈ own, e.targetTraceNodeId = none) :
    ∀ first ∈ (stages.map (·.requestId)).head?,
      (chain stages ++ own).find? (fun e => e.targetTraceNodeId = some first) = none := by
  intro first atHead
  rw [List.find?_eq_none]
  intro e among
  rw [List.mem_append] at among
  cases among with
  | inl linked =>
    -- A linked edge leads to a stage that is not the first.
    obtain ⟨i, there, linked⟩ := mem_chain.1 linked
    obtain ⟨e', -, rfl⟩ := List.mem_map.1 linked
    have nonempty : 0 < stages.length := by omega
    have atZero : first = stages[0].requestId := by
      rw [List.head?_eq_getElem?, List.getElem?_map, List.getElem?_eq_getElem (by omega)] at atHead
      simpa using atHead.symm
    have differs : stages[i + 1].requestId ≠ stages[0].requestId := by
      intro same
      have := ids_inj ids there (by omega) same
      omega
    simpa [pointedAt, atZero] using differs
  | inr pending => simp [unlinked e pending]

theorem find_parent (ids : (stages.map (·.requestId)).Nodup) (leads : stages.IsChain Leads)
    (unlinked : ∀ e ∈ own, e.targetTraceNodeId = none) (i : Nat)
    (next : i + 1 < (stages.map (·.requestId)).length) : ∃ e,
    (chain stages ++ own).find? (fun e => e.targetTraceNodeId = some (stages.map (·.requestId))[i + 1]) = some e ∧
      e.sourceTraceNodeId = (stages.map (·.requestId))[i] := by
  have there : i + 1 < stages.length := by simpa using next
  obtain ⟨e, only, -, source, -⟩ := (List.isChain_iff_getElem.1 leads i there).edges
  refine ⟨pointedAt stages[i + 1] e, find_only ?_ (by simp [pointedAt]) ?_, by simpa [pointedAt] using source⟩
  · exact List.mem_append_left _ (mem_chain.2 ⟨i, there, by simp [only]⟩)
  · intro e' among leadsThere
    rw [List.mem_append] at among
    cases among with
    | inl linked =>
      obtain ⟨j, reached, linked⟩ := mem_chain.1 linked
      obtain ⟨source', among, rfl⟩ := List.mem_map.1 linked
      have same : j + 1 = i + 1 := ids_inj ids reached there (by simpa [pointedAt] using leadsThere)
      obtain rfl : j = i := by omega
      rw [only, List.mem_singleton] at among
      rw [among]
    | inr pending => simp [unlinked e' pending] at leadsThere

/-- In an unbroken run a node lies as deep as its stage comes late. -/
theorem depth_of_place (ids : (stages.map (·.requestId)).Nodup) (leads : stages.IsChain Leads)
    (unlinked : ∀ e ∈ own, e.targetTraceNodeId = none) (i : Nat) (there : i < stages.length) :
    traceNodeDepth (chain stages ++ own) stages[i].node = i := by
  have enough := chain_length leads
  have depth := walkDepth_of_path (find_root ids unlinked) (find_parent ids leads unlinked) i (by simpa using there)
    (chain stages ++ own).length (by rw [List.length_append]; omega)
  simpa [traceNodeDepth] using depth

theorem sortTraceNodes_of_run (ids : (stages.map (·.requestId)).Nodup) (leads : stages.IsChain Leads)
    (unlinked : ∀ e ∈ own, e.targetTraceNodeId = none) {nodes : List RunTraceNode}
    (rearranged : nodes.Perm (stages.map (·.node))) :
    sortTraceNodes nodes (chain stages ++ own) = stages.map (·.node) := by
  apply insertionSort_of_increasing (traceOrder (chain stages ++ own)) rearranged
  rw [List.pairwise_map, List.pairwise_iff_getElem]
  intro i j hi hj before
  rw [traceOrder, traceOrder, Prod.Lex.toLex_lt_toLex]
  left
  rw [depth_of_place ids leads unlinked i hi, depth_of_place ids leads unlinked j hj]
  exact before

end Path

/-! ## Valid traces -/

/-- What the contract asks of the fields above the nodes. -/
structure RunTraceGraph.Headed (g : RunTraceGraph) : Prop where
  schemaVersion : g.schemaVersion = "1.0"
  kind : g.kind = "run_trace_graph"
  runId : requireNonBlank "run_id" g.runId = .ok ()
  runDir : requireNonBlank "run_dir" g.runDir = .ok ()
  compiledPlanId : requireOptionalNonBlank "compiled_plan_id" g.compiledPlanId = .ok ()
  modeId : requireOptionalNonBlank "mode_id" g.modeId = .ok ()
  requestKind : requireOptionalNonBlank "request_kind" g.requestKind = .ok ()
  workItemKind : requireOptionalNonBlank "work_item_kind" g.workItemKind = .ok ()
  workItemId : requireOptionalNonBlank "work_item_id" g.workItemId = .ok ()
  closureTargetRootSpecId :
    requireOptionalNonBlank "closure_target_root_spec_id" g.closureTargetRootSpecId = .ok ()
  notes : ∀ note ∈ g.notes, requireNonBlank "notes" note = .ok ()

theorem validateContract_of_headed {g : RunTraceGraph} (headed : g.Headed)
    (times : validateTimes g.startedAt g.completedAt = .ok ()) (nodes : ∀ n ∈ g.nodes, n.validate = .ok ())
    (edges : ∀ e ∈ g.edges, validateEdgeNodes g.nodes e = .ok ()) : g.validateContract = .ok () := by
  simp only [RunTraceGraph.validateContract, bind_unit_eq_ok, forM_eq_ok, validateLiteral_iff]
  exact ⟨headed.schemaVersion, headed.kind, headed.runId, headed.runDir, headed.compiledPlanId, headed.modeId,
    headed.requestKind, headed.workItemKind, headed.workItemId, headed.closureTargetRootSpecId, times, headed.notes,
    nodes, edges⟩

/-- What a valid node says about the fields it shares with the heading. -/
theorem RunTraceNode.validate_fields {n : RunTraceNode} (valid : n.validate = .ok ()) :
    isBlank n.traceNodeId = false ∧
    requireOptionalNonBlank "compiled_plan_id" n.compiledPlanId = .ok () ∧
    requireOptionalNonBlank "mode_id" n.modeId = .ok () ∧
    requireOptionalNonBlank "request_kind" n.requestKind = .ok () ∧
    requireOptionalNonBlank "work_item_kind" n.workItemKind = .ok () ∧
    requireOptionalNonBlank "work_item_id" n.workItemId = .ok () ∧
    requireOptionalNonBlank "closure_target_root_spec_id" n.closureTargetRootSpecId = .ok () := by
  simp only [RunTraceNode.validate, bind_unit_eq_ok] at valid
  obtain ⟨id, -, -, -, -, -, plan, mode, request, kind, item, root, -⟩ := valid
  exact ⟨requireNonBlank_iff.1 id, plan, mode, request, kind, item, root⟩

theorem pointedAt_validate {next : ExecutedStage} {e : RunTraceEdge} (valid : e.validate = .ok ())
    (named : isBlank next.requestId = false) : (pointedAt next e).validate = .ok () := by
  simp only [RunTraceEdge.validate, bind_unit_eq_ok, pointedAt, requireOptionalNonBlank, requireNonBlank_iff, named,
    true_and] at valid ⊢
  obtain ⟨id, source, outcome, kind, target, -, rest⟩ := valid
  exact ⟨id, source, outcome, kind, target, rest⟩

theorem validateEdgeNodes_of_named {nodes : List RunTraceNode} {e : RunTraceEdge} (valid : e.validate = .ok ())
    (source : ∃ n ∈ nodes, n.traceNodeId = e.sourceTraceNodeId)
    (target : ∀ id, e.targetTraceNodeId = some id → ∃ n ∈ nodes, n.traceNodeId = id) :
    validateEdgeNodes nodes e = .ok () := by
  have unnamed_false : ∀ id, (∃ n ∈ nodes, n.traceNodeId = id) →
      (nodes.all fun node => node.traceNodeId ≠ id) = false := by
    intro id named
    obtain ⟨n, among, same⟩ := named
    rw [List.all_eq_false]
    exact ⟨n, among, by simp [same]⟩
  rw [validateEdgeNodes, bind_unit_eq_ok, unnamed_false _ source]
  refine ⟨valid, optionForM_eq_ok.2 ?_⟩
  intro id named
  rw [unnamed_false id (target id named)]
  rfl

/-! ## Updates of the trace -/

/-- The trace holds these stages in order; the last one has the given edges. -/
structure Tracks (stages : List ExecutedStage) (own : List RunTraceEdge) (trace : RunTraceGraph) : Prop where
  headed : trace.Headed
  nodes : trace.nodes = stages.map (·.node)
  edges : trace.edges = chain stages ++ own
  startedAt : trace.startedAt = stages.head?.map (·.result.startedAt)
  completedAt : trace.completedAt = stages.getLast?.map (·.result.completedAt)

theorem chain_valid {name path : String} {stages : List ExecutedStage} (unbroken : Unbroken name path stages) :
    ∀ e ∈ chain stages, validateEdgeNodes (stages.map (·.node)) e = .ok () := by
  intro e linked
  obtain ⟨i, there, linked⟩ := mem_chain.1 linked
  obtain ⟨e', only, valid, source, -⟩ := (List.isChain_iff_getElem.1 unbroken.leads i there).edges
  rw [only, List.map_singleton, List.mem_singleton] at linked
  subst linked
  have next := unbroken.recorded stages[i + 1] (List.getElem_mem there)
  have named := (RunTraceNode.validate_fields next.1).1
  rw [node_traceNodeId] at named
  apply validateEdgeNodes_of_named (pointedAt_validate valid named)
  · exact ⟨stages[i].node, List.mem_map_of_mem (List.getElem_mem _), by simpa [pointedAt] using source.symm⟩
  · intro id target
    refine ⟨stages[i + 1].node, List.mem_map_of_mem (List.getElem_mem _), ?_⟩
    simpa [pointedAt] using target

theorem headerUpdated_headed {trace : RunTraceGraph} {s : ExecutedStage} (headed : trace.Headed) (recorded : s.Recorded)
    (status : RunTraceStatus) (generatedAt : Timestamp) :
    (headerUpdated trace s.result status (withoutDerivedNote trace.notes) generatedAt).Headed := by
  obtain ⟨-, plan, mode, request, kind, item, root⟩ := RunTraceNode.validate_fields recorded.1
  exact {
    schemaVersion := headed.schemaVersion
    kind := headed.kind
    runId := headed.runId
    runDir := headed.runDir
    compiledPlanId := requireOptionalNonBlank_or plan headed.compiledPlanId
    modeId := requireOptionalNonBlank_or mode headed.modeId
    requestKind := requireOptionalNonBlank_or request headed.requestKind
    workItemKind := kind
    workItemId := item
    closureTargetRootSpecId := requireOptionalNonBlank_or root headed.closureTargetRootSpecId
    notes := fun note among => headed.notes note (List.mem_of_mem_filter among) }

theorem Unbroken.times {name path : String} {stages : List ExecutedStage} (unbroken : Unbroken name path stages) :
    validateTimes (stages.head?.map (·.result.startedAt)) (stages.getLast?.map (·.result.completedAt)) = .ok () := by
  cases first : stages.head? with
  | none => rfl
  | some s =>
    cases last : stages.getLast? with
    | none => rfl
    | some t =>
      have inOrder := unbroken.onTime s first t (List.mem_of_getLast? last)
      simp only [Option.map_some, validateTimes]
      rw [if_neg (by omega)]

/-- With the nodes and edges of an unbroken run in place, the heading is updated to match. -/
theorem updateTraceHeader_tracks {name path : String} {stages : List ExecutedStage} {s : ExecutedStage}
    (unbroken : Unbroken name path (stages ++ [s])) {own : List RunTraceEdge} {trace : RunTraceGraph}
    (headed : trace.Headed) (nodes : trace.nodes = (stages ++ [s]).map (·.node))
    (edges : trace.edges = chain (stages ++ [s]) ++ own)
    (pending : ∀ e ∈ own, validateEdgeNodes ((stages ++ [s]).map (·.node)) e = .ok ())
    (status : RunTraceStatus) (generatedAt : Timestamp) :
    ∃ updated, updateTraceHeader trace s.result status (withoutDerivedNote trace.notes) generatedAt = .ok updated ∧
      Tracks (stages ++ [s]) own updated := by
  have valid : ∀ n ∈ trace.nodes, n.validate = .ok () := by
    intro n among
    rw [nodes] at among
    obtain ⟨t, ran, rfl⟩ := List.mem_map.1 among
    exact (unbroken.recorded t ran).1
  have linksValid : ∀ e ∈ trace.edges, validateEdgeNodes trace.nodes e = .ok () := by
    intro e among
    rw [edges, List.mem_append] at among
    rw [nodes]
    cases among with
    | inl linked => exact chain_valid unbroken e linked
    | inr own => exact pending e own
  have starts : trace.nodes.head?.map (·.startedAt) = (stages ++ [s]).head?.map (·.result.startedAt) := by
    rw [nodes, List.head?_map, Option.map_map]
    rfl
  have ends : trace.nodes.getLast?.map (·.completedAt) = (stages ++ [s]).getLast?.map (·.result.completedAt) := by
    rw [nodes, List.getLast?_map, Option.map_map]
    rfl
  have inOrder : validateTimes (trace.nodes.head?.map (·.startedAt)) (trace.nodes.getLast?.map (·.completedAt)) =
      .ok () := by
    rw [starts, ends]
    exact unbroken.times
  have headed := headerUpdated_headed headed (unbroken.recorded s (by simp)) status generatedAt
  refine ⟨_, bind_unit_eq_ok.2 ⟨validateContract_of_headed headed inOrder valid linksValid, rfl⟩, ?_⟩
  exact { headed, nodes, edges, startedAt := starts, completedAt := ends }

theorem perm_insertionSort_snoc {stages : List ExecutedStage} {s : ExecutedStage} {nodes : List RunTraceNode}
    (others : nodes.filter (·.traceNodeId ≠ s.node.traceNodeId) = stages.map (·.node)) :
    ((nodes.filter (·.traceNodeId ≠ s.node.traceNodeId) ++ [s.node]).insertionSort
      fun left right => textOrder left ≤ textOrder right).Perm ((stages ++ [s]).map (·.node)) := by
  have sorted := List.perm_insertionSort (fun left right => textOrder left ≤ textOrder right)
    (nodes.filter (·.traceNodeId ≠ s.node.traceNodeId) ++ [s.node])
  rw [others] at sorted ⊢
  simpa using sorted

/-- A stage result adds its node at the end and links the edge that leads to it. -/
theorem upsert_tracks {name path : String} {stages : List ExecutedStage} {s : ExecutedStage}
    (unbroken : Unbroken name path (stages ++ [s])) {dir : RunDirectory} {write : TraceWrite} {trace : RunTraceGraph}
    (loaded : loadOrDeriveForUpdate dir write.derivedAt = .ok trace) (headed : trace.Headed)
    (others : trace.nodes.filter (·.traceNodeId ≠ s.node.traceNodeId) = stages.map (·.node))
    (links : trace.edges.map (linkEdgeTarget s.node) = chain (stages ++ [s])) :
    ∃ updated, tryUpsertStageResultTraceNode dir s.result write = .ok updated ∧ Tracks (stages ++ [s]) [] updated := by
  have unlinked : ∀ e ∈ ([] : List RunTraceEdge), e.targetTraceNodeId = none := by simp
  have sorted := sortTraceNodes_of_run unbroken.ids_nodup unbroken.leads unlinked (perm_insertionSort_snoc others)
  rw [List.append_nil] at sorted
  unfold tryUpsertStageResultTraceNode
  rw [loaded]
  have pending : ∀ e ∈ ([] : List RunTraceEdge),
      validateEdgeNodes ((stages ++ [s]).map (·.node)) e = .ok () := by simp
  refine updateTraceHeader_tracks unbroken ?_ ?_ ?_ pending _ _
  · exact ⟨headed.schemaVersion, headed.kind, headed.runId, headed.runDir, headed.compiledPlanId, headed.modeId,
      headed.requestKind, headed.workItemKind, headed.workItemId, headed.closureTargetRootSpecId, headed.notes⟩
  · change sortTraceNodes _ (trace.edges.map (linkEdgeTarget s.node)) = _
    rw [links]
    exact sorted
  · rw [List.append_nil]
    exact links

/-- The edge of the last decision does not replace an earlier one. -/
theorem edge_id_fresh {name path : String} {stages : List ExecutedStage} {s : ExecutedStage}
    (unbroken : Unbroken name path (stages ++ [s])) {earlier own : RunTraceEdge}
    (linked : earlier ∈ chain (stages ++ [s])) (among : own ∈ s.edges) : earlier.traceEdgeId ≠ own.traceEdgeId := by
  obtain ⟨i, there, linked⟩ := mem_chain.1 linked
  obtain ⟨e, ofEarlier, rfl⟩ := List.mem_map.1 linked
  have before : i < stages.length := by simpa using there
  have place : (stages ++ [s])[i] = stages[i] := List.getElem_append_left before
  rw [place] at ofEarlier
  have apart : Apart stages[i] s :=
    (List.pairwise_append.1 unbroken.apart).2.2 _ (List.getElem_mem before) s (List.mem_singleton_self s)
  intro same
  have first : (stages[i].requestId ++ "--").toList <+: own.traceEdgeId.toList := by
    rw [← same]
    exact (source_of_edges ofEarlier).2.2
  cases List.prefix_or_prefix_of_prefix first (source_of_edges among).2.2 with
  | inl shorter => exact apart.1 shorter
  | inr longer => exact apart.2 longer

/-- A decision adds its edge at the end. -/
theorem record_tracks {name path : String} {stages : List ExecutedStage} {s : ExecutedStage} (write : TraceWrite)
    (unbroken : Unbroken name path (stages ++ [s])) {dir : RunDirectory} {trace : RunTraceGraph}
    (holds : dir.trace = .holds trace) (tracks : Tracks (stages ++ [s]) [] trace) {decision : RouterDecision}
    {spawnedWork : List RunTraceSpawnedWorkRef}
    (decided : s.edges = [edgeFromDecision s.result decision s.requestId spawnedWork])
    (valid : (edgeFromDecision s.result decision s.requestId spawnedWork).validate = .ok ()) :
    ∃ updated, tryRecordRouterDecisionTrace dir s.result decision spawnedWork write = .ok updated ∧
      Tracks (stages ++ [s]) s.edges updated := by
  have loaded : loadOrDeriveForUpdate dir write.derivedAt = .ok trace := by
    unfold loadOrDeriveForUpdate
    rw [holds]
  have edgesBefore : trace.edges = chain (stages ++ [s]) := by simpa using tracks.edges
  have noneReplaced : trace.edges.filter
      (·.traceEdgeId ≠ (edgeFromDecision s.result decision s.requestId spawnedWork).traceEdgeId) = trace.edges := by
    rw [List.filter_eq_self, edgesBefore]
    intro e linked
    exact decide_eq_true (edge_id_fresh unbroken linked (by rw [decided]; exact List.mem_singleton_self _))
  have unlinked : ∀ e ∈ s.edges, e.targetTraceNodeId = none := fun e among => (source_of_edges among).2.1
  unfold tryRecordRouterDecisionTrace
  rw [loaded]
  simp only [traceNodeId_identified]
  have pending : ∀ e ∈ s.edges, validateEdgeNodes ((stages ++ [s]).map (·.node)) e = .ok () := by
    intro e among
    rw [decided, List.mem_singleton] at among
    subst among
    apply validateEdgeNodes_of_named valid
    · exact ⟨s.node, by simp, by simp [edgeFromDecision]⟩
    · intro id target
      simp [edgeFromDecision] at target
  refine updateTraceHeader_tracks unbroken ?_ ?_ ?_ pending _ _
  · exact ⟨tracks.headed.schemaVersion, tracks.headed.kind, tracks.headed.runId, tracks.headed.runDir,
      tracks.headed.compiledPlanId, tracks.headed.modeId, tracks.headed.requestKind, tracks.headed.workItemKind,
      tracks.headed.workItemId, tracks.headed.closureTargetRootSpecId, tracks.headed.notes⟩
  · change sortTraceNodes trace.nodes (List.filter _ trace.edges ++ [_]) = _
    rw [noneReplaced, edgesBefore, ← decided, tracks.nodes]
    exact sortTraceNodes_of_run unbroken.ids_nodup unbroken.leads unlinked (List.Perm.refl _)
  · change List.filter _ trace.edges ++ [_] = _
    rw [noneReplaced, edgesBefore, decided]

theorem linkEdgeTarget_chain (stages : List ExecutedStage) (node : RunTraceNode) :
    (chain stages).map (linkEdgeTarget node) = chain stages := by
  have unchanged : ∀ e ∈ chain stages, linkEdgeTarget node e = id e := by
    intro e linked
    obtain ⟨i, there, linked⟩ := mem_chain.1 linked
    obtain ⟨e', -, rfl⟩ := List.mem_map.1 linked
    simp [linkEdgeTarget, pointedAt]
  rw [List.map_congr_left unchanged, List.map_id]

theorem linkEdgeTarget_edges {s next : ExecutedStage} (leads : Leads s next) :
    s.edges.map (linkEdgeTarget next.node) = s.edges.map (pointedAt next) := by
  obtain ⟨e, only, -, -, target, unlinked⟩ := leads.edges
  have same : next.node.nodeId = next.result.nodeId := rfl
  simp [only, linkEdgeTarget, pointedAt, target, unlinked, same]

/-! ## Unbroken runs -/

/-- The trace on disk holds the stages so far; the edge of the last one is there if it leads on. -/
def Held (dir : RunDirectory) (stages : List ExecutedStage) (s : ExecutedStage) : Prop :=
  ∃ trace own, dir.trace = .holds trace ∧ Tracks (stages ++ [s]) own trace ∧ (own = [] ∨ own = s.edges) ∧
    ∀ next, Leads s next → own = s.edges

theorem upsert_held {name path : String} {stages : List ExecutedStage} {s : ExecutedStage}
    (unbroken : Unbroken name path (stages ++ [s])) {dir : RunDirectory} {write : TraceWrite}
    (written : write.written = true) {trace : RunTraceGraph}
    (loaded : loadOrDeriveForUpdate dir write.derivedAt = .ok trace) (headed : trace.Headed)
    (others : trace.nodes.filter (·.traceNodeId ≠ s.node.traceNodeId) = stages.map (·.node))
    (links : trace.edges.map (linkEdgeTarget s.node) = chain (stages ++ [s])) :
    ∃ updated, (upsertStageResultTraceNode dir s.result write).trace = .holds updated ∧
      Tracks (stages ++ [s]) [] updated := by
  obtain ⟨updated, done, tracks⟩ := upsert_tracks unbroken loaded headed others links
  refine ⟨updated, ?_, tracks⟩
  simp [upsertStageResultTraceNode, writeTrace, done, written]

theorem recorded_valid {dir : RunDirectory} {r : TracedStageResult} {decision : RouterDecision}
    {spawnedWork : List RunTraceSpawnedWorkRef} {write : TraceWrite} {updated : RunTraceGraph}
    (attempt : tryRecordRouterDecisionTrace dir r decision spawnedWork write = .ok updated) :
    (edgeFromDecision r decision (traceNodeId r none) spawnedWork).validate = .ok () := by
  unfold tryRecordRouterDecisionTrace at attempt
  obtain ⟨trace, -, attempt⟩ := bind_eq_ok.1 attempt
  obtain ⟨valid, -⟩ := bind_unit_eq_ok.1 attempt
  simp only [RunTraceGraph.validateContract, bind_unit_eq_ok, forM_eq_ok] at valid
  obtain ⟨-, -, -, -, -, -, -, -, -, -, -, -, -, edges⟩ := valid
  have own := edges (edgeFromDecision r decision (traceNodeId r none) spawnedWork) (by simp [headerUpdated])
  exact (bind_unit_eq_ok.1 own).1

/-- An edge that fails its own check is not recorded, and neither is one that cannot be written. -/
theorem record_held {name path : String} {stages : List ExecutedStage} {s : ExecutedStage}
    (unbroken : Unbroken name path (stages ++ [s])) {dir : RunDirectory} {node edge : TraceWrite}
    {decision : RouterDecision} {spawnedWork : List RunTraceSpawnedWorkRef} {trace : RunTraceGraph}
    (decided : s.application = .decided node decision spawnedWork edge)
    (holds : dir.trace = .holds trace) (tracks : Tracks (stages ++ [s]) [] trace) :
    Held (recordRouterDecisionTrace dir s.result decision spawnedWork edge) stages s := by
  have own : s.edges = [edgeFromDecision s.result decision s.requestId spawnedWork] := by
    simp [ExecutedStage.edges, decided]
  by_cases recorded : edge.written = true ∧
      (edgeFromDecision s.result decision s.requestId spawnedWork).validate = .ok ()
  · obtain ⟨updated, done, tracks⟩ := record_tracks edge unbroken holds tracks own recorded.2
    exact ⟨updated, s.edges, by simp [recordRouterDecisionTrace, writeTrace, done, recorded.1], tracks, Or.inr rfl,
      fun _ _ => rfl⟩
  · have kept : (recordRouterDecisionTrace dir s.result decision spawnedWork edge).trace = .holds trace := by
      unfold recordRouterDecisionTrace writeTrace
      cases attempt : tryRecordRouterDecisionTrace dir s.result decision spawnedWork edge with
      | error error => exact holds
      | ok updated =>
        have valid := recorded_valid attempt
        rw [traceNodeId_identified] at valid
        have unwritten : edge.written = false := by simpa [valid] using recorded
        simpa [unwritten] using holds
    refine ⟨trace, [], kept, tracks, Or.inl rfl, ?_⟩
    intro next leads
    obtain ⟨node', decision', spawnedWork', edge', again, written, valid, -⟩ := leads
    rw [decided] at again
    cases again
    exact absurd ⟨written, valid⟩ recorded

/-- The run of the last stage, where the trace can be loaded and its last edge leads to that stage. -/
theorem applyStage_held {name path : String} {stages : List ExecutedStage} {s : ExecutedStage}
    (unbroken : Unbroken name path (stages ++ [s])) {dir : RunDirectory}
    (loads : ∀ derivedAt, ∃ trace, loadOrDeriveForUpdate (storeStageResult dir s) derivedAt = .ok trace ∧
      trace.Headed ∧ trace.nodes.filter (·.traceNodeId ≠ s.node.traceNodeId) = stages.map (·.node) ∧
      trace.edges.map (linkEdgeTarget s.node) = chain (stages ++ [s])) :
    Held (applyStage dir s) stages s := by
  have recorded := (unbroken.recorded s (by simp)).2
  unfold applyStage
  cases application : s.application with
  | unstored => simp [application] at recorded
  | stored => simp [application] at recorded
  | traced node =>
    rw [application] at recorded
    obtain ⟨trace, loaded, headed, others, links⟩ := loads node.derivedAt
    obtain ⟨updated, holds, tracks⟩ := upsert_held unbroken recorded loaded headed others links
    refine ⟨updated, [], holds, tracks, Or.inl rfl, ?_⟩
    intro next leads
    obtain ⟨_, _, _, _, decided, -⟩ := leads
    simp [application] at decided
  | decided node decision spawnedWork edge =>
    rw [application] at recorded
    obtain ⟨trace, loaded, headed, others, links⟩ := loads node.derivedAt
    obtain ⟨updated, holds, tracks⟩ := upsert_held unbroken recorded loaded headed others links
    exact record_held unbroken application holds tracks

/-- The trace of the first stage result is derived from its file. -/
theorem first_loads {name path : String} {s : ExecutedStage} (unbroken : Unbroken name path [s])
    (derivedAt : Timestamp) :
    ∃ trace, loadOrDeriveForUpdate (storeStageResult (RunDirectory.created name path) s) derivedAt = .ok trace ∧
      trace.Headed ∧ trace.nodes = [s.node] ∧ trace.edges = [] := by
  have valid := (unbroken.recorded s (by simp)).1
  obtain ⟨-, plan, mode, request, kind, item, root⟩ := RunTraceNode.validate_fields valid
  have derived : deriveNodes (storeStageResult (RunDirectory.created name path) s).stageResults = ([s.node], []) := by
    simp [deriveNodes, storeStageResult, RunDirectory.created, nodeFromStageResult_identified]
  let trace := derivedTrace (storeStageResult (RunDirectory.created name path) s) .incomplete [derivedNote] derivedAt
  have nodes : trace.nodes = [s.node] := by simp [trace, derivedTrace, derived]
  have headed : trace.Headed := {
    schemaVersion := rfl
    kind := rfl
    runId := requireNonBlank_iff.2 unbroken.named
    runDir := requireNonBlank_iff.2 unbroken.located
    compiledPlanId := by simpa [trace, derivedTrace, derived] using plan
    modeId := by simpa [trace, derivedTrace, derived] using mode
    requestKind := by simpa [trace, derivedTrace, derived] using request
    workItemKind := by simpa [trace, derivedTrace, derived] using kind
    workItemId := by simpa [trace, derivedTrace, derived] using item
    closureTargetRootSpecId := by simpa [trace, derivedTrace, derived] using root
    notes := by simp [trace, derivedTrace, derived, requireNonBlank_iff, derivedNote_named] }
  have times : validateTimes trace.startedAt trace.completedAt = .ok () := by
    simpa [trace, derivedTrace, derived] using unbroken.times
  have accepted : trace.validateContract = .ok () :=
    validateContract_of_headed headed times (by simpa [nodes] using valid) (by simp [trace, derivedTrace])
  exact ⟨trace, bind_unit_eq_ok.2 ⟨accepted, rfl⟩, headed, nodes, rfl⟩

theorem execute_held {name path : String} {stages : List ExecutedStage} {s : ExecutedStage}
    (unbroken : Unbroken name path (stages ++ [s])) :
    Held (execute (RunDirectory.created name path) (stages ++ [s])) stages s := by
  induction stages using List.reverseRecOn generalizing s with
  | nil =>
    change Held (applyStage (RunDirectory.created name path) s) [] s
    apply applyStage_held unbroken
    intro derivedAt
    obtain ⟨trace, loaded, headed, nodes, edges⟩ := first_loads unbroken derivedAt
    exact ⟨trace, loaded, headed, by simp [nodes], by simp [edges, chain]⟩
  | append_singleton earlier last ih =>
    rw [execute_snoc]
    apply applyStage_held unbroken
    intro derivedAt
    obtain ⟨trace, own, holds, tracks, -, complete⟩ := ih unbroken.init
    have leads : Leads last s := by
      have := unbroken.leads
      rw [List.append_assoc, List.singleton_append, List.isChain_append_cons_cons] at this
      exact this.2.1
    refine ⟨trace, ?_, tracks.headed, ?_, ?_⟩
    · unfold loadOrDeriveForUpdate storeStageResult
      rw [holds]
    · rw [tracks.nodes, List.filter_eq_self]
      intro n among
      obtain ⟨t, ran, rfl⟩ := List.mem_map.1 among
      have apart := (List.pairwise_append.1 unbroken.apart).2.2 t ran s (List.mem_singleton_self s)
      simpa using apart.ids_ne
    · rw [tracks.edges, complete s leads, List.map_append, linkEdgeTarget_chain, linkEdgeTarget_edges leads,
        List.append_assoc earlier, List.singleton_append, chain_snoc]

theorem Unbroken.upTo {name path : String} {stages ran : List ExecutedStage} (unbroken : Unbroken name path stages)
    (upTo : ran <+: stages) : Unbroken name path ran := by
  obtain ⟨rest, rfl⟩ := upTo
  induction rest using List.reverseRecOn with
  | nil => simpa using unbroken
  | append_singleton rest last ih =>
    rw [← List.append_assoc] at unbroken
    exact ih unbroken.init

theorem Tracks.follows {name path : String} {stages : List ExecutedStage} {s : ExecutedStage}
    {own : List RunTraceEdge} {trace : RunTraceGraph} (unbroken : Unbroken name path (stages ++ [s]))
    (tracks : Tracks (stages ++ [s]) own trace) (ofLast : own = [] ∨ own = s.edges) :
    Follows (stages ++ [s]) trace where
  nodes := tracks.nodes
  startedAt := tracks.startedAt
  completedAt := tracks.completedAt
  edges := by
    intro e among _ stage next consecutive source
    obtain ⟨i, there, rfl, rfl⟩ := consecutive_places consecutive
    rw [node_traceNodeId] at source
    rw [tracks.edges, List.mem_append] at among
    cases among with
    | inl linked =>
      obtain ⟨j, reached, linked⟩ := mem_chain.1 linked
      obtain ⟨e', only, -, source', target, -⟩ := (List.isChain_iff_getElem.1 unbroken.leads j reached).edges
      rw [only, List.map_singleton, List.mem_singleton] at linked
      subst linked
      obtain rfl : j = i := ids_inj unbroken.ids_nodup (by omega) (by omega) (source'.symm.trans source)
      exact ⟨target, by simp [pointedAt]⟩
    | inr pending =>
      -- The last stage has no next one.
      have ofLast : e ∈ s.edges := by
        cases ofLast with
        | inl none => simp [none] at pending
        | inr all => rwa [all] at pending
      have atEnd : stages.length < (stages ++ [s]).length := by simp
      have last : (stages ++ [s])[stages.length] = s := by simp
      have same : i = stages.length := by
        apply ids_inj unbroken.ids_nodup (by omega) atEnd
        rw [last, ← source, (source_of_edges ofLast).1]
      simp at there
      omega

/-- In an unbroken run the trace follows the execution after every stage. -/
theorem unbroken_run_followed (name path : String) (stages : List ExecutedStage) (unbroken : Unbroken name path stages) :
    ∀ ran, ran <+: stages → ran ≠ [] →
      ∃ trace, (execute (RunDirectory.created name path) ran).trace = .holds trace ∧ Follows ran trace := by
  intro ran upTo nonempty
  obtain ⟨earlier, last, rfl⟩ : ∃ earlier last, ran = earlier ++ [last] :=
    ⟨ran.dropLast, ran.getLast nonempty, (List.dropLast_append_getLast nonempty).symm⟩
  have unbroken := unbroken.upTo upTo
  obtain ⟨trace, own, holds, tracks, ofLast, -⟩ := execute_held unbroken
  exact ⟨trace, holds, tracks.follows unbroken ofLast⟩

end

/-! ## A run that recovers -/

section Concrete
local instance zonesOfTraces : Rfc3339 := Queue.twoZones

theorem execution_plane (terminal : ExecutionTerminalResult) : (TerminalResult.execution terminal).plane = .execution :=
  rfl

/-- A stage of one run on a task, with the node of its own name. -/
def taskStage (requestId : String) (stage : StageName) (terminal : ExecutionTerminalResult)
    (application : Application) : ExecutedStage where
  requestId := requestId
  result := {
    runId := "run-1"
    plane := .execution
    stage := stage
    nodeId := asStr stage
    stageKindId := asStr stage
    workItemKind := .task
    workItemId := "task-1"
    terminalResult := .execution terminal
    metadata := [("request_id", .text requestId)]
    ofPlane := execution_plane terminal
    resultClass := .success
    runnerName := none
    modelName := none
    thinkingLevel := none
    modelReasoningEffort := none
    startedAt := Queue.inLondon
    completedAt := Queue.inLondon
    artifacts := [] }
  identified := rfl
  application := application

def written : TraceWrite := ⟨Queue.inLondon, Queue.inLondon, true⟩

def runStage (nodeId : String) : RouterDecision :=
  ⟨.runStage, some .execution, none, "edge", some nodeId, some nodeId, none, none, false⟩

/-- The builder hands on to the checker, whose decision cannot be applied; the troubleshooter runs next. -/
def recovering : List ExecutedStage :=
  [taskStage "a" .builder .builderComplete (.decided written (runStage "checker") [] written),
    taskStage "b" .checker .checkerPass (.traced written),
    taskStage "c" .troubleshooter .troubleshootComplete (.traced written)]

def TraceFile.nodeIds : TraceFile → List String
  | .holds trace => trace.nodes.map (·.traceNodeId)
  | _ => []

theorem recovering_nodes :
    (execute (RunDirectory.created "run-1" "/runs/run-1") recovering).trace.nodeIds = ["a", "c", "b"] := by
  decide +kernel

/-- The troubleshooter's node stands before that of the checker, whose run it follows. -/
theorem recovering_not_followed :
    ¬∃ trace, (execute (RunDirectory.created "run-1" "/runs/run-1") recovering).trace = .holds trace ∧
      Follows recovering trace := by
  rintro ⟨trace, holds, follows⟩
  have ids := recovering_nodes
  rw [holds, TraceFile.nodeIds, follows.nodes] at ids
  revert ids
  decide

theorem handingOn_unbroken : Unbroken "run-1" "/runs/run-1" (recovering.take 2) where
  named := by decide +kernel
  located := by decide +kernel
  recorded := by
    intro s among
    simp only [recovering, List.take, List.mem_cons, List.not_mem_nil, or_false] at among
    rcases among with rfl | rfl
    · exact ⟨by decide +kernel, rfl⟩
    · exact ⟨by decide +kernel, rfl⟩
  leads := by
    apply List.isChain_pair.2
    exact ⟨_, _, _, _, rfl, rfl, by decide +kernel, rfl, rfl⟩
  apart := List.pairwise_pair.2 ⟨by decide +kernel, by decide +kernel⟩
  onTime := by
    intro first atHead s among
    simp [recovering] at atHead among
    rcases among with rfl | rfl <;> subst atHead <;> exact le_refl _

theorem handingOn_followed :
    ∃ trace, (execute (RunDirectory.created "run-1" "/runs/run-1") (recovering.take 2)).trace = .holds trace ∧
      Follows (recovering.take 2) trace :=
  unbroken_run_followed _ _ _ handingOn_unbroken _ (List.prefix_refl _) (by simp [recovering])

end Concrete

end Millrace.Runtime.RunTraces

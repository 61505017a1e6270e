import Millrace.Runtime.Router

/-! The entries of a compiled plan: the nodes at which the runs of work items start. -/

set_option autoImplicit false

namespace Millrace.Runtime
open Millrace.Text Millrace.Contracts

inductive GraphLoopEntryKey where
  | task | probe | spec | incident | blueprintDraft | closureTarget | learningRequest
  deriving DecidableEq, Repr

def GraphLoopEntryKey.asStr : GraphLoopEntryKey → String
  | .task => "task"
  | .probe => "probe"
  | .spec => "spec"
  | .incident => "incident"
  | .blueprintDraft => "blueprint_draft"
  | .closureTarget => "closure_target"
  | .learningRequest => "learning_request"

structure CompiledGraphEntryPlan where
  entryKey : GraphLoopEntryKey
  nodeId : String
  stageKindId : String
  deriving DecidableEq, Repr

/-- A plan with the entries of each of its graphs. -/
structure EntryPlan extends CompiledRunPlan where
  compiledEntries : Plane → List CompiledGraphEntryPlan

def entryKeyForWorkItem : WorkItemKind → GraphLoopEntryKey
  | .task => .task
  | .probe => .probe
  | .spec => .spec
  | .incident => .incident
  | .blueprintDraft => .blueprintDraft
  | .learningRequest => .learningRequest

def entryPlane : WorkItemKind → Plane
  | .task => .execution
  | .probe | .spec | .incident | .blueprintDraft => .planning
  | .learningRequest => .learning

def EntryPlan.graph (plan : EntryPlan) : Plane → Option FrozenGraphPlanePlan
  | .execution => some plan.executionGraph
  | .planning => some plan.planningGraph
  | .learning => plan.learningGraph

def compiledEntryNodeForWorkItem (plan : EntryPlan) (kind : WorkItemKind) : Option MaterializedGraphNodePlan := do
  let graph ← plan.graph (entryPlane kind)
  let entry ← (plan.compiledEntries (entryPlane kind)).find? fun entry => entry.entryKey == entryKeyForWorkItem kind
  graph.nodes.find? fun node => node.nodeId == entry.nodeId

end Millrace.Runtime

import Mathlib.Data.List.Dedup
import Mathlib.Data.List.Sort
import Millrace.Contracts.Enums

/-! The compiled run plan as the runtime reads it, and the part of the compiler that fills in what a terminal outcome
does to its source item. -/

set_option autoImplicit false

namespace Millrace.Runtime
open Millrace.Text Millrace.Contracts

/-! ## Graphs -/

inductive GraphLoopTerminalClass where
  | success | noOp | followupNeeded | blocked | escalatePlanning
  deriving DecidableEq, Repr

def GraphLoopTerminalClass.asStr : GraphLoopTerminalClass → String
  | .success => "success"
  | .noOp => "no_op"
  | .followupNeeded => "followup_needed"
  | .blocked => "blocked"
  | .escalatePlanning => "escalate_planning"

inductive GraphLoopCounterName where
  | fixCycleCount | troubleshootAttemptCount | mechanicAttemptCount
  deriving DecidableEq, Repr

structure GraphLoopTerminalStateDefinition where
  terminalStateId : String
  terminalClass : GraphLoopTerminalClass
  deriving DecidableEq, Repr

/-- A transition to another node, or to a terminal state. -/
structure CompiledGraphTransitionPlan where
  sourceNodeId : String
  outcome : String
  targetNodeId : Option String
  terminalStateId : Option String
  priority : Int
  deriving DecidableEq, Repr

/-- An edge as a graph declares it, for several outcomes at once. -/
structure GraphLoopEdgeDefinition where
  fromNodeId : String
  toNodeId : Option String
  terminalStateId : Option String
  onOutcomes : List String
  priority : Int
  deriving DecidableEq, Repr

def compileGraphTransitions (edges : List GraphLoopEdgeDefinition) : List CompiledGraphTransitionPlan :=
  edges.flatMap fun edge => edge.onOutcomes.map fun outcome =>
    { sourceNodeId := edge.fromNodeId
      outcome := outcome
      targetNodeId := edge.toNodeId
      terminalStateId := edge.terminalStateId
      priority := edge.priority }

structure CompiledGraphResumePolicyPlan where
  sourceNodeId : String
  onOutcome : String
  defaultTargetNodeId : String
  metadataStageKeys : List String
  disallowedTargetNodeIds : List String
  deriving DecidableEq, Repr

structure CompiledGraphThresholdPolicyPlan where
  sourceNodeIds : List String
  onOutcome : String
  counterName : GraphLoopCounterName
  threshold : Nat
  exhaustedTargetNodeId : Option String
  exhaustedTerminalStateId : Option String
  positive : 0 < threshold
  oneTarget : exhaustedTargetNodeId.isSome ≠ exhaustedTerminalStateId.isSome
  deriving DecidableEq

structure MaterializedGraphNodePlan where
  nodeId : String
  stageKindId : String
  terminalActionMappings : List (String × String)
  deriving DecidableEq, Repr

/-- A graph whose edges and threshold policies start at nodes that it has. -/
structure FrozenGraphPlanePlan where
  plane : Plane
  nodes : List MaterializedGraphNodePlan
  compiledTransitions : List CompiledGraphTransitionPlan
  compiledResumePolicies : List CompiledGraphResumePolicyPlan
  compiledThresholdPolicies : List CompiledGraphThresholdPolicyPlan
  terminalStates : List GraphLoopTerminalStateDefinition
  knownSources : ∀ transition ∈ compiledTransitions, ∃ node ∈ nodes, node.nodeId = transition.sourceNodeId
  knownPolicySources : ∀ policy ∈ compiledThresholdPolicies, ∀ nodeId ∈ policy.sourceNodeIds,
    ∃ node ∈ nodes, node.nodeId = nodeId
  deriving DecidableEq

/-! ## Workflow primitives -/

structure TerminalActionDefinition where
  terminalActionId : String
  terminalClass : String
  lifecycleMutationPlanId : Option String
  nonMutating : Bool
  deriving DecidableEq, Repr

inductive SourceLifecycleAction where
  | complete | block | requeue
  deriving DecidableEq, Repr

def SourceLifecycleAction.asStr : SourceLifecycleAction → String
  | .complete => "complete"
  | .block => "block"
  | .requeue => "requeue"

structure LifecycleMutationPlanDefinition where
  planId : String
  lifecycleActionId : Option String
  deriving DecidableEq, Repr

structure RuntimeEffectRuleDefinition where
  ruleId : String
  sourceNodeId : String
  onOutcomes : List String
  lifecycleMutationPlanId : Option String
  deriving DecidableEq, Repr

structure CompiledWorkflowPrimitiveBundle where
  terminalActions : List TerminalActionDefinition
  lifecycleMutationPlans : List LifecycleMutationPlanDefinition
  runtimeEffectRules : List RuntimeEffectRuleDefinition
  deriving DecidableEq, Repr

def terminalActionForLifecyclePlan (primitives : CompiledWorkflowPrimitiveBundle) (planId : String) : Option String :=
  (primitives.terminalActions.find? fun action => action.lifecycleMutationPlanId == some planId).map
    (·.terminalActionId)

def terminalActionForClass (primitives : CompiledWorkflowPrimitiveBundle) (terminalClass : String) : Option String :=
  (primitives.terminalActions.find? fun action => action.terminalClass == terminalClass).map (·.terminalActionId)

/-- What the compiler refuses a plan for while it fills in the terminal action mappings. -/
inductive CompilerContractError where
  | ruleWithoutTerminalAction (ruleId planId : String)
  | terminalStateWithoutTerminalAction (terminalStateId terminalClass : String)
  deriving DecidableEq, Repr

def CompilerContractError.display : CompilerContractError → String
  | .ruleWithoutTerminalAction ruleId planId =>
    "runtime effect rule " ++ ruleId ++ " has no terminal action for lifecycle plan " ++ planId
  | .terminalStateWithoutTerminalAction terminalStateId terminalClass =>
    "terminal state " ++ terminalStateId ++ " has no terminal action for class " ++ terminalClass

/-- Writes an outcome's action over an earlier one. -/
def insertMapping (mappings : List (String × String)) (outcome actionId : String) : List (String × String) :=
  (outcome, actionId) :: mappings.filter fun entry => entry.1 ≠ outcome

section Mappings
variable (primitives : CompiledWorkflowPrimitiveBundle) (nodeId : String)

/-- The outcomes that effect rules name for a node, each once and in order. -/
def ruleOutcomes : List String :=
  ((primitives.runtimeEffectRules.filter fun rule => rule.sourceNodeId == nodeId).flatMap
    (·.onOutcomes)).dedup.insertionSort (· ≤ ·)

def rulesFor (outcome : String) : List RuntimeEffectRuleDefinition :=
  primitives.runtimeEffectRules.filter fun rule => rule.sourceNodeId == nodeId && rule.onOutcomes.contains outcome

def mapOutcome (outcome : String) (mappings : List (String × String)) :
    List RuntimeEffectRuleDefinition → Except CompilerContractError (List (String × String))
  | [] => .ok mappings
  | rule :: rest =>
    match rule.lifecycleMutationPlanId with
    | none => mapOutcome outcome mappings rest
    | some planId =>
      match terminalActionForLifecyclePlan primitives planId with
      | none => .error (.ruleWithoutTerminalAction rule.ruleId planId)
      | some actionId => mapOutcome outcome (insertMapping mappings outcome actionId) rest

def mapRules (mappings : List (String × String)) :
    List String → Except CompilerContractError (List (String × String))
  | [] => .ok mappings
  | outcome :: rest => do
    let mapped ← mapOutcome primitives outcome mappings (rulesFor primitives nodeId outcome)
    mapRules mapped rest

def terminalClassById (terminalStates : List GraphLoopTerminalStateDefinition) (terminalStateId : String) :
    Option GraphLoopTerminalClass :=
  (terminalStates.find? fun state => state.terminalStateId == terminalStateId).map (·.terminalClass)

def mapTransitions (terminalStates : List GraphLoopTerminalStateDefinition) (mappings : List (String × String)) :
    List CompiledGraphTransitionPlan → Except CompilerContractError (List (String × String))
  | [] => .ok mappings
  | transition :: rest =>
    if transition.sourceNodeId ≠ nodeId ∨ (mappings.lookup transition.outcome).isSome then
      mapTransitions terminalStates mappings rest
    else match transition.terminalStateId with
      | none => mapTransitions terminalStates mappings rest
      | some terminalStateId =>
        match terminalClassById terminalStates terminalStateId with
        | none => mapTransitions terminalStates mappings rest
        | some terminalClass =>
          match terminalActionForClass primitives terminalClass.asStr with
          | none => .error (.terminalStateWithoutTerminalAction terminalStateId terminalClass.asStr)
          | some actionId => mapTransitions terminalStates (insertMapping mappings transition.outcome actionId) rest

def terminalActionMappingsForNode (terminalStates : List GraphLoopTerminalStateDefinition)
    (transitions : List CompiledGraphTransitionPlan) : Except CompilerContractError (List (String × String)) := do
  let mappings ← mapRules primitives nodeId [] (ruleOutcomes primitives nodeId)
  mapTransitions primitives nodeId terminalStates mappings transitions

end Mappings

/-- A plan as the compiler leaves it: every node carries the mappings computed for it. -/
structure CompiledRunPlan where
  executionGraph : FrozenGraphPlanePlan
  planningGraph : FrozenGraphPlanePlan
  learningGraph : Option FrozenGraphPlanePlan
  workflowPrimitives : CompiledWorkflowPrimitiveBundle
  mapped : ∀ graph ∈ executionGraph :: planningGraph :: learningGraph.toList, ∀ node ∈ graph.nodes,
    terminalActionMappingsForNode workflowPrimitives node.nodeId graph.terminalStates graph.compiledTransitions =
      .ok node.terminalActionMappings

end Millrace.Runtime

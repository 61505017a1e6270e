import Millrace.Runtime.Plan

/-! The routing of a stage result over the compiled graph. -/

set_option autoImplicit false

namespace Millrace.Runtime
open Millrace.Text Millrace.Contracts

/-! ## Runtime state -/

inductive ActiveRunRequestKind where
  | activeWorkItem | closureTarget | learningRequest
  deriving DecidableEq, Repr

structure ActiveRunState where
  plane : Plane
  stage : StageName
  nodeId : String
  stageKindId : String
  runId : String
  requestKind : ActiveRunRequestKind
  workItemKind : Option WorkItemKind
  workItemId : Option String
  closureTargetRootSpecId : Option String
  activeSince : String
  deriving DecidableEq, Repr

/-- The snapshot fields that routing reads; the active ones show one active run, the foreground run. -/
structure RuntimeSnapshot where
  activePlane : Option Plane
  activeStage : Option StageName
  activeNodeId : Option String
  activeStageKindId : Option String
  activeRunId : Option String
  activeWorkItemKind : Option WorkItemKind
  activeWorkItemId : Option String
  activeSince : Option String
  activeRunsByPlane : Plane → Option ActiveRunState
  currentFailureClass : Option String
  troubleshootAttemptCount : Nat
  mechanicAttemptCount : Nat
  fixCycleCount : Nat
  consultantInvocations : Nat

structure RecoveryCounterEntry where
  failureClass : String
  workItemKind : WorkItemKind
  workItemId : String
  troubleshootAttemptCount : Nat
  mechanicAttemptCount : Nat
  fixCycleCount : Nat
  consultantInvocations : Nat
  deriving DecidableEq, Repr

abbrev RecoveryCounters := List RecoveryCounterEntry

inductive MetadataValue where
  | text (value : String)
  | other
  deriving DecidableEq, Repr

structure StageResultEnvelope where
  runId : String
  plane : Plane
  stage : StageName
  nodeId : String
  stageKindId : String
  workItemKind : WorkItemKind
  workItemId : String
  terminalResult : TerminalResult
  metadata : List (String × MetadataValue)
  ofPlane : terminalResult.plane = plane
  deriving DecidableEq

def StageResultEnvelope.outcome (r : StageResultEnvelope) : String := r.terminalResult.asStr

def StageResultEnvelope.metadataText (r : StageResultEnvelope) (key : String) : Option String :=
  match r.metadata.lookup key with
  | some (.text value) => some value
  | _ => none

inductive RouterAction where
  | runStage | idle | handoff | blocked
  deriving DecidableEq, Repr

structure RouterDecision where
  action : RouterAction
  nextPlane : Option Plane
  nextStage : Option StageName
  reason : String
  nextNodeId : Option String
  nextStageKindId : Option String
  failureClass : Option String
  counterKey : Option String
  createIncident : Bool
  deriving DecidableEq, Repr

/-- The invalid states that routing reports. -/
inductive RuntimeTickError where
  | noActiveRun
  | stageMismatch
  | nodeMismatch
  | stageKindMismatch
  | closureTargetMismatch
  | workItemMismatch
  | missingLearningPlane
  | missingTransition (nodeId outcome : String)
  | missingNode (nodeId : String)
  | missingTerminalState (terminalStateId : String)
  | missingExhaustedTarget
  | unsupportedThresholdClass (terminalClass : GraphLoopTerminalClass)
  | unsupportedResumeSource (stageKindId : String)
  | unsupportedExecutionTerminal (stageKindId outcome : String)
  | unsupportedPlanningTerminal (stageKindId outcome : String)
  | emptyFailureClass
  | missingStagePlan (plane : Plane) (stage : StageName)
  | missingTerminalAction (nodeId outcome : String)
  | unknownTerminalAction (actionId : String)
  | nonMutatingAction (actionId workItemId : String)
  | actionWithoutLifecyclePlan (actionId : String)
  | unknownLifecyclePlan (actionId planId : String)
  | unsupportedLifecycleAction (action planId : String)
  | missingLifecycleAction (planId : String)
  | unexpectedLifecycleAction (selected expected : SourceLifecycleAction)
  | contract (error : ContractError)
  deriving DecidableEq, Repr

def RuntimeTickError.display : RuntimeTickError → String
  | .noActiveRun => "stage result has no active run for its plane"
  | .stageMismatch => "stage result stage does not match active run"
  | .nodeMismatch => "stage result node_id does not match active run"
  | .stageKindMismatch => "stage result stage_kind_id does not match active run"
  | .closureTargetMismatch => "closure target stage result does not match active root spec"
  | .workItemMismatch => "stage result work item identity does not match active run"
  | .missingLearningPlane => "compiled graph is missing learning plane"
  | .missingTransition nodeId outcome => "compiled graph is missing transition for " ++ nodeId ++ ":" ++ outcome
  | .missingNode nodeId => "compiled graph is missing `" ++ nodeId ++ "` node"
  | .missingTerminalState terminalStateId => "compiled graph is missing terminal state `" ++ terminalStateId ++ "`"
  | .missingExhaustedTarget => "threshold policy is missing exhausted target"
  | .unsupportedThresholdClass terminalClass => "unsupported threshold terminal class: " ++ terminalClass.asStr
  | .unsupportedResumeSource stageKindId => "unsupported resume-policy source stage: " ++ stageKindId
  | .unsupportedExecutionTerminal stageKindId outcome =>
    "unsupported execution terminal transition for " ++ stageKindId ++ ":" ++ outcome
  | .unsupportedPlanningTerminal stageKindId outcome =>
    "unsupported planning terminal transition for " ++ stageKindId ++ ":" ++ outcome
  | .emptyFailureClass => "failure_class cannot be empty"
  | .missingStagePlan plane stage => "no compiled graph node plan for " ++ Contracts.asStr plane ++ ":" ++
    Contracts.asStr stage
  | .missingTerminalAction nodeId outcome =>
    "compiled node " ++ nodeId ++ " is missing terminal action mapping for " ++ outcome
  | .unknownTerminalAction actionId => "compiled terminal action mapping references unknown action " ++ actionId
  | .nonMutatingAction actionId workItemId =>
    "terminal action " ++ actionId ++ " is non-mutating for active source " ++ workItemId
  | .actionWithoutLifecyclePlan actionId => "terminal action " ++ actionId ++ " is missing lifecycle mutation plan"
  | .unknownLifecyclePlan actionId planId =>
    "terminal action " ++ actionId ++ " references unknown lifecycle mutation plan " ++ planId
  | .unsupportedLifecycleAction action planId =>
    "unsupported lifecycle action id " ++ action ++ " in plan " ++ planId
  | .missingLifecycleAction planId => "lifecycle mutation plan " ++ planId ++ " is missing lifecycle_action_id"
  | .unexpectedLifecycleAction selected expected =>
    "compiled terminal action selected lifecycle action " ++ selected.asStr ++ ", expected " ++ expected.asStr
  | .contract error => error.display

abbrev TickResult (α : Type) := Except RuntimeTickError α

/-! ## Active runs -/

/-- The run that the snapshot's active fields show. -/
def foregroundActiveRun (s : RuntimeSnapshot) : Option ActiveRunState :=
  (s.activeRunsByPlane .planning).or ((s.activeRunsByPlane .execution).or (s.activeRunsByPlane .learning))

def projectForegroundActiveRun (s : RuntimeSnapshot) : RuntimeSnapshot :=
  match foregroundActiveRun s with
  | some run => { s with
      activePlane := some run.plane
      activeStage := some run.stage
      activeNodeId := some run.nodeId
      activeStageKindId := some run.stageKindId
      activeRunId := some run.runId
      activeWorkItemKind := run.workItemKind
      activeWorkItemId := run.workItemId
      activeSince := some run.activeSince }
  | none => { s with
      activePlane := none
      activeStage := none
      activeNodeId := none
      activeStageKindId := none
      activeRunId := none
      activeWorkItemKind := none
      activeWorkItemId := none
      activeSince := none }

def legacyActiveRunForPlane (s : RuntimeSnapshot) (plane : Plane) : Option ActiveRunState :=
  if s.activePlane ≠ some plane then none else do
    let stage ← s.activeStage
    let runId ← s.activeRunId
    let since ← s.activeSince
    let workItemKind ← s.activeWorkItemKind
    let workItemId ← s.activeWorkItemId
    return {
      plane := plane
      stage := stage
      nodeId := s.activeNodeId.getD (asStr stage)
      stageKindId := s.activeStageKindId.getD (asStr stage)
      runId := runId
      requestKind := if workItemKind = .learningRequest then .learningRequest else .activeWorkItem
      workItemKind := some workItemKind
      workItemId := some workItemId
      closureTargetRootSpecId := none
      activeSince := since }

def activeRunForPlane (s : RuntimeSnapshot) (plane : Plane) : Option ActiveRunState :=
  (s.activeRunsByPlane plane).or (legacyActiveRunForPlane s plane)

def validateStageResultMatchesSnapshot (s : RuntimeSnapshot) (r : StageResultEnvelope) : TickResult Unit :=
  match activeRunForPlane s r.plane with
  | none => .error .noActiveRun
  | some run =>
    if run.stage ≠ r.stage then .error .stageMismatch
    else if run.nodeId ≠ r.nodeId then .error .nodeMismatch
    else if run.stageKindId ≠ r.stageKindId then .error .stageKindMismatch
    else match run.requestKind with
      | .closureTarget =>
        if run.closureTargetRootSpecId ≠ some r.workItemId then .error .closureTargetMismatch else .ok ()
      | .activeWorkItem | .learningRequest =>
        if run.workItemKind ≠ some r.workItemKind ∨ run.workItemId ≠ some r.workItemId then .error .workItemMismatch
        else .ok ()

/-! ## Failure classes and counters -/

/-- Letters and digits in lower case, every run of other characters as one separator. -/
def normalizeFrom : Bool → List Char → List Char
  | _, [] => []
  | afterSeparator, c :: rest =>
    if isAsciiAlphanumeric c then toAsciiLower c :: normalizeFrom false rest
    else if afterSeparator then normalizeFrom true rest
    else '_' :: normalizeFrom true rest

def normalizeFailureClass (value : String) : TickResult String :=
  match (normalizeFrom true (trim value.toList)).rdropWhile (· == '_') with
  | [] => .error .emptyFailureClass
  | c :: rest => .ok (String.ofList (c :: rest))

def isBlank (text : String) : Bool := trim text.toList == []

def failureClassFromStageResult (r : StageResultEnvelope) : Option String :=
  (r.metadataText "failure_class").filter fun value => !isBlank value

def resolveFailureClass (s : RuntimeSnapshot) (r : StageResultEnvelope) (default : String) : TickResult String :=
  match failureClassFromStageResult r with
  | some failureClass => normalizeFailureClass failureClass
  | none =>
    match s.currentFailureClass.filter fun value => !isBlank value with
    | some failureClass => normalizeFailureClass failureClass
    | none => normalizeFailureClass default

/-- The work item of the foreground run, whatever plane it runs on. -/
def activeWorkItem (s : RuntimeSnapshot) : Option (WorkItemKind × String) :=
  match s.activeWorkItemKind, s.activeWorkItemId with
  | some kind, some id => some (kind, id)
  | _, _ => none

def RecoveryCounterEntry.counts (e : RecoveryCounterEntry) (item : WorkItemKind × String) (failureClass : String) :
    Bool :=
  e.workItemKind = item.1 && e.workItemId = item.2 &&
    match normalizeFailureClass e.failureClass with
    | .ok normalized => normalized == failureClass
    | .error _ => false

def RecoveryCounterEntry.attempts (e : RecoveryCounterEntry) : Plane → Nat
  | .execution => e.troubleshootAttemptCount
  | .planning | .learning => e.mechanicAttemptCount

def counterAttempts (s : RuntimeSnapshot) (counters : RecoveryCounters) (failureClass : String) (plane : Plane) :
    TickResult Nat :=
  match activeWorkItem s with
  | none => .ok 0
  | some item => do
    let normalized ← normalizeFailureClass failureClass
    return ((counters.find? (·.counts item normalized)).map (·.attempts plane)).getD 0

def counterKeyFromSnapshot (s : RuntimeSnapshot) (failureClass : String) : TickResult (Option String) :=
  match activeWorkItem s with
  | none => .ok none
  | some item => do
    let normalized ← normalizeFailureClass failureClass
    return some (asStr item.1 ++ ":" ++ String.ofList (trim item.2.toList) ++ ":" ++ normalized)

/-! ## Looking the graph up -/

section Graph
variable (graph : FrozenGraphPlanePlan)

def leastPriority : List CompiledGraphTransitionPlan → Option CompiledGraphTransitionPlan
  | [] => none
  | transition :: rest =>
    match leastPriority rest with
    | none => some transition
    | some best => if transition.priority ≤ best.priority then some transition else some best

def transitionForSource (nodeId outcome : String) : TickResult CompiledGraphTransitionPlan :=
  match leastPriority (graph.compiledTransitions.filter fun t => t.sourceNodeId == nodeId && t.outcome == outcome) with
  | some transition => .ok transition
  | none => .error (.missingTransition nodeId outcome)

def resumePolicyForSource (nodeId outcome : String) : Option CompiledGraphResumePolicyPlan :=
  graph.compiledResumePolicies.find? fun policy => policy.sourceNodeId == nodeId && policy.onOutcome == outcome

def thresholdPolicyForSource (nodeId outcome : String) (counterName : GraphLoopCounterName) :
    Option CompiledGraphThresholdPolicyPlan :=
  graph.compiledThresholdPolicies.find? fun policy =>
    policy.sourceNodeIds.contains nodeId && policy.onOutcome == outcome && policy.counterName == counterName

def terminalStateById (terminalStateId : String) : TickResult GraphLoopTerminalStateDefinition :=
  match graph.terminalStates.find? fun state => state.terminalStateId == terminalStateId with
  | some state => .ok state
  | none => .error (.missingTerminalState terminalStateId)

def nodePlanById (nodeId : String) : TickResult MaterializedGraphNodePlan :=
  match graph.nodes.find? fun node => node.nodeId == nodeId with
  | some node => .ok node
  | none => .error (.missingNode nodeId)

/-! ## Decisions -/

def runStageDecision (targetNodeId reason : String) (failureClass counterKey : Option String) :
    TickResult RouterDecision := do
  let node ← nodePlanById graph targetNodeId
  let stage ← (stageNameForPlane graph.plane node.stageKindId).mapError .contract
  return {
    action := .runStage
    nextPlane := some graph.plane
    nextStage := some stage
    reason := reason
    nextNodeId := some node.nodeId
    nextStageKindId := some node.stageKindId
    failureClass := failureClass
    counterKey := counterKey
    createIncident := false }

def endingDecision (action : RouterAction) (reason : String) (failureClass counterKey : Option String) :
    RouterDecision where
  action := action
  nextPlane := none
  nextStage := none
  reason := reason
  nextNodeId := none
  nextStageKindId := none
  failureClass := failureClass
  counterKey := counterKey
  createIncident := false

def idleDecision (reason : String) : RouterDecision := endingDecision .idle reason none none

def blockedDecision (reason : String) (failureClass counterKey : Option String) : RouterDecision :=
  endingDecision .blocked reason failureClass counterKey

def handoffDecision (reason : String) (failureClass : Option String) : RouterDecision where
  action := .handoff
  nextPlane := some .planning
  nextStage := some .auditor
  reason := reason
  nextNodeId := none
  nextStageKindId := none
  failureClass := failureClass
  counterKey := none
  createIncident := true

def resumeTarget (r : StageResultEnvelope) (policy : CompiledGraphResumePolicyPlan) : List String → String
  | [] => policy.defaultTargetNodeId
  | key :: rest =>
    match r.metadataText key with
    | none => resumeTarget r policy rest
    | some candidate =>
      let normalized := String.ofList ((trim candidate.toList).map toAsciiLower)
      if normalized = "" ∨ normalized ∈ policy.disallowedTargetNodeIds ∨
          ∀ node ∈ graph.nodes, node.nodeId ≠ normalized then
        resumeTarget r policy rest
      else normalized

def decisionFromResumePolicy (r : StageResultEnvelope) (policy : CompiledGraphResumePolicyPlan) :
    TickResult RouterDecision :=
  let target := resumeTarget graph r policy policy.metadataStageKeys
  if r.stageKindId = "troubleshooter" then runStageDecision graph target "troubleshoot_complete" none none
  else if r.stageKindId = "consultant" then runStageDecision graph target "consultant_local_recovery" none none
  else if r.stageKindId = "mechanic" then runStageDecision graph target "mechanic_complete" none none
  else .error (.unsupportedResumeSource r.stageKindId)

def decisionFromThresholdResolution (s : RuntimeSnapshot) (policy : CompiledGraphThresholdPolicyPlan)
    (failureClass reason : String) : TickResult RouterDecision := do
  let counterKey ← counterKeyFromSnapshot s failureClass
  match policy.exhaustedTargetNodeId with
  | some target => runStageDecision graph target reason (some failureClass) counterKey
  | none =>
    match policy.exhaustedTerminalStateId with
    | none => throw .missingExhaustedTarget
    | some terminalStateId =>
      let state ← terminalStateById graph terminalStateId
      if state.terminalClass ≠ .blocked then throw (.unsupportedThresholdClass state.terminalClass)
      else return blockedDecision (reason ++ ":mechanic_attempts_exhausted") (some failureClass) counterKey

/-! ## Routing on each plane -/

variable (s : RuntimeSnapshot) (r : StageResultEnvelope) (counters : RecoveryCounters)

def blockedReason : String := r.stageKindId ++ "_blocked"

def executionTerminalDecision : TickResult RouterDecision :=
  if r.stageKindId = "updater" ∧ r.outcome = "UPDATE_COMPLETE" then .ok (idleDecision "updater_complete")
  else if r.stageKindId = "consultant" ∧ r.outcome = "NEEDS_PLANNING" then
    .ok (handoffDecision "consultant_needs_planning" none)
  else if r.stageKindId = "consultant" ∧ r.outcome = "BLOCKED" then
    .ok (blockedDecision "consultant_blocked" (resolveFailureClass s r "consultant_blocked").toOption none)
  else .error (.unsupportedExecutionTerminal r.stageKindId r.outcome)

def planningTerminalDecision : TickResult RouterDecision :=
  if r.stageKindId = "recon" ∧ r.outcome = "RECON_TO_EXECUTION" then .ok (idleDecision "recon_to_execution")
  else if r.stageKindId = "recon" ∧ r.outcome = "RECON_TO_PLANNING" then .ok (idleDecision "recon_to_planning")
  else if r.stageKindId = "recon" ∧ r.outcome = "RECON_NOOP" then .ok (idleDecision "recon_noop")
  else if r.stageKindId = "recon" ∧ (r.outcome = "RECON_BLOCKED" ∨ r.outcome = "BLOCKED") then
    .ok (blockedDecision "recon_blocked" (resolveFailureClass s r "recon_blocked").toOption none)
  else if r.stageKindId = "manager" ∧ r.outcome = "MANAGER_COMPLETE" then .ok (idleDecision "manager_complete")
  else if r.stageKindId = "manager_blueprint" ∧ r.outcome = "MANAGER_BLUEPRINT_COMPLETE" then
    .ok (idleDecision "manager_blueprint_complete")
  else if r.stageKindId = "evaluator_blueprint" ∧ r.outcome = "BLUEPRINT_APPROVED" then
    .ok (idleDecision "blueprint_approved")
  else if r.stageKindId = "arbiter" ∧ r.outcome = "ARBITER_COMPLETE" then .ok (idleDecision "arbiter_complete")
  else if r.stageKindId = "arbiter" ∧ r.outcome = "REMEDIATION_NEEDED" then
    .ok (handoffDecision "arbiter_remediation_needed" (some "arbiter_parity_gap"))
  else if r.stageKindId = "arbiter" ∧ r.outcome = "BLOCKED" then
    .ok (blockedDecision "arbiter_blocked" (resolveFailureClass s r "arbiter_blocked").toOption none)
  else .error (.unsupportedPlanningTerminal r.stageKindId r.outcome)

/-- A recovery edge names the failure class and the counter of the attempt. -/
def recoveryEdgeDecision (target : String) : TickResult RouterDecision := do
  let failureClass ← resolveFailureClass s r (blockedReason r)
  let counterKey ← counterKeyFromSnapshot s failureClass
  runStageDecision graph target (blockedReason r) (some failureClass) counterKey

/-- What the execution router does once no threshold is exhausted. -/
def routeExecutionWithinThresholds : TickResult RouterDecision :=
  match resumePolicyForSource graph r.nodeId r.outcome with
  | some policy => decisionFromResumePolicy graph r policy
  | none => do
    let transition ← transitionForSource graph r.nodeId r.outcome
    match transition.targetNodeId with
    | some target =>
      if r.outcome = "FIX_NEEDED" then runStageDecision graph target "fix_needed" none none
      else if r.outcome = "BLOCKED" then recoveryEdgeDecision graph s r target
      else runStageDecision graph target (r.stageKindId ++ ":" ++ r.outcome) none none
    | none => executionTerminalDecision s r

/-- The policy whose threshold the fix cycles have reached. -/
def exhaustedFixCycles : Option CompiledGraphThresholdPolicyPlan :=
  if r.outcome = "FIX_NEEDED" then
    (thresholdPolicyForSource graph r.nodeId r.outcome .fixCycleCount).filter fun policy =>
      policy.threshold ≤ s.fixCycleCount
  else none

/-- The policy whose threshold the attempts of this failure class have reached. -/
def exhaustedAttempts (plane : Plane) (counterName : GraphLoopCounterName) (failureClass : String) :
    TickResult (Option CompiledGraphThresholdPolicyPlan) :=
  match thresholdPolicyForSource graph r.nodeId r.outcome counterName with
  | none => .ok none
  | some policy => do
    let attempts ← counterAttempts s counters failureClass plane
    return if policy.threshold ≤ attempts then some policy else none

def routeExecutionStageResult : TickResult RouterDecision :=
  match exhaustedFixCycles graph s r with
  | some policy => do
    let failureClass ← resolveFailureClass s r "fix_cycle_exhausted"
    decisionFromThresholdResolution graph s policy failureClass "fix_cycle_exhausted"
  | none =>
    if r.outcome = "BLOCKED" ∧ r.stageKindId ≠ "consultant" then do
      let failureClass ← resolveFailureClass s r (blockedReason r)
      match ← exhaustedAttempts graph s r counters .execution .troubleshootAttemptCount failureClass with
      | some policy => decisionFromThresholdResolution graph s policy failureClass (blockedReason r)
      | none => routeExecutionWithinThresholds graph s r
    else routeExecutionWithinThresholds graph s r

def routePlanningWithinThresholds : TickResult RouterDecision :=
  match resumePolicyForSource graph r.nodeId r.outcome with
  | some policy => decisionFromResumePolicy graph r policy
  | none => do
    let transition ← transitionForSource graph r.nodeId r.outcome
    match transition.targetNodeId with
    | some target =>
      if r.outcome = "BLOCKED" then recoveryEdgeDecision graph s r target
      else runStageDecision graph target (r.stageKindId ++ ":" ++ r.outcome) none none
    | none => planningTerminalDecision s r

def routePlanningStageResult : TickResult RouterDecision :=
  if r.outcome = "BLOCKED" then do
    let failureClass ← resolveFailureClass s r (blockedReason r)
    match ← exhaustedAttempts graph s r counters .planning .mechanicAttemptCount failureClass with
    | some policy => decisionFromThresholdResolution graph s policy failureClass (blockedReason r)
    | none => routePlanningWithinThresholds graph s r
  else routePlanningWithinThresholds graph s r

def routeLearningStageResult : TickResult RouterDecision := do
  let transition ← transitionForSource graph r.nodeId r.outcome
  match transition.targetNodeId with
  | some target => runStageDecision graph target (r.stageKindId ++ ":" ++ r.outcome) none none
  | none =>
    if r.outcome = "BLOCKED" then return blockedDecision (blockedReason r) none none
    else return idleDecision (r.stageKindId ++ ":" ++ r.outcome)

end Graph

def graphForPlane (plan : CompiledRunPlan) : Plane → TickResult FrozenGraphPlanePlan
  | .execution => .ok plan.executionGraph
  | .planning => .ok plan.planningGraph
  | .learning =>
    match plan.learningGraph with
    | some graph => .ok graph
    | none => .error .missingLearningPlane

def routeStageResultFromGraph (plan : CompiledRunPlan) (s : RuntimeSnapshot) (r : StageResultEnvelope)
    (counters : RecoveryCounters) : TickResult RouterDecision := do
  validateStageResultMatchesSnapshot s r
  let graph ← graphForPlane plan r.plane
  match r.plane with
  | .execution => routeExecutionStageResult graph s r counters
  | .planning => routePlanningStageResult graph s r counters
  | .learning => routeLearningStageResult graph r

end Millrace.Runtime

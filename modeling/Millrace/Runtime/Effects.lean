import Millrace.Runtime.Lifecycle

/-! The runtime effects that a compiled plan selects for a stage result: the handler's answer, the failure policies and
the decision that replaces the router's. -/

set_option autoImplicit false

namespace Millrace.Runtime
open Millrace.Text Millrace.Contracts Millrace.Action

/-! ## Rules, answers and policies -/

/-- A rule with the handler it names. -/
structure RuntimeEffectRule extends RuntimeEffectRuleDefinition where
  handlerId : String
  deriving DecidableEq, Repr

/-- The rules of the plan, all with one handler. -/
theorem handledBy_ofPlan (plan : CompiledRunPlan) (handlerId : String) :
    (plan.workflowPrimitives.runtimeEffectRules.map fun rule => (⟨rule, handlerId⟩ : RuntimeEffectRule)).map
      (·.toRuntimeEffectRuleDefinition) = plan.workflowPrimitives.runtimeEffectRules := by
  rw [List.map_map]
  exact List.map_id _

inductive RuntimeEffectDecision where
  | continueRoute | requestCompleteSource | requestBlockSource | retryRecovery
  deriving DecidableEq, Repr

inductive RuntimeEffectMutationPhase where
  | preMutation | partialMutation | unknown
  deriving DecidableEq, Repr

structure RuntimeEffectResult where
  handlerId : String
  decision : RuntimeEffectDecision
  createdPaths : List String
  sourceLifecycleIntent : Option SourceLifecycleIntent
  failureClass : Option String
  message : Option String
  mutationPhase : RuntimeEffectMutationPhase
  deriving DecidableEq, Repr

structure RuntimeFailurePolicyDefinition where
  policyId : String
  action : String
  appliesToOrigins : List String
  appliesToPlanes : List Plane
  appliesToFamilies : List String
  appliesToFailureClasses : List String
  appliesToMutationPhases : List RuntimeEffectMutationPhase
  appliesToHandlerIds : List String
  appliesToSourceNodeIds : List String
  appliesToSourceTerminalStateIds : List String
  targetNodeId : Option String
  deriving DecidableEq, Repr

structure RuntimeEffectFailurePolicyInput where
  failureClass : Option String
  mutationPhase : RuntimeEffectMutationPhase
  handlerId : Option String
  sourceNodeId : Option String
  sourceTerminalStateId : Option String
  sourcePlane : Option Plane
  sourceFamilyId : Option String
  deriving DecidableEq, Repr

structure RuntimeFailurePolicyInterpretation where
  policyId : String
  action : String
  failureClass : String
  targetNodeId : Option String
  deriving DecidableEq, Repr

/-- The invalid states that effects report, and those of the layers they call. -/
inductive RuntimeEffectError where
  | missingResultNode (nodeId : String)
  | unknownRule (nodeId ruleId : String)
  | multipleRules (nodeId outcome : String) (ruleIds : List String)
  | unknownHandler (handlerId : String)
  | unpackagedHandler (handlerId : String)
  | unknownPolicyTarget (policyId nodeId : String)
  | unknownContinueTarget (nodeId : String)
  | recoveryRequested (handlerId failureClass : String)
  | lifecycleRefused
  | tick (error : RuntimeTickError)
  deriving DecidableEq, Repr

def RuntimeEffectError.display : RuntimeEffectError → String
  | .missingResultNode nodeId => "compiled graph is missing stage result node " ++ nodeId
  | .unknownRule nodeId ruleId => "compiled node " ++ nodeId ++ " selected unknown runtime effect rule " ++ ruleId
  | .multipleRules nodeId outcome ruleIds =>
    "multiple runtime effect rules matched " ++ nodeId ++ "/" ++ outcome ++ ": " ++ ", ".intercalate ruleIds
  | .unknownHandler handlerId => "runtime effect rule references unknown handler " ++ handlerId
  | .unpackagedHandler handlerId =>
    "runtime effect handler " ++ handlerId ++ " has no packaged Rust implementation"
  | .unknownPolicyTarget policyId nodeId =>
    "runtime failure policy " ++ policyId ++ " targets unknown node " ++ nodeId
  | .unknownContinueTarget nodeId => "runtime effect continue_route targets unknown node " ++ nodeId
  | .recoveryRequested handlerId failureClass =>
    handlerId ++ " requested runtime effect recovery: " ++ failureClass
  | .lifecycleRefused => "queue lifecycle interpreter refused the source lifecycle intent"
  | .tick error => error.display

abbrev EffectOutcome (α : Type) := Except RuntimeEffectError α

/-! ## The planner's disposition -/

structure PlannerDispositionDocument where
  schemaVersion : String
  kind : String
  sourceWorkItemFamilyId : String
  sourceWorkItemId : String
  disposition : String
  emittedSpecIds : List String
  recommendedNextAction : String
  createdBy : String
  deriving DecidableEq, Repr

def PlannerDispositionDocument.validate (d : PlannerDispositionDocument) : Except String Unit := do
  if d.schemaVersion ≠ "1.0" then throw "schema_version must be 1.0"
  if d.kind ≠ "planner_disposition" then throw "kind must be planner_disposition"
  if d.sourceWorkItemFamilyId ≠ "spec" ∧ d.sourceWorkItemFamilyId ≠ "incident" then
    throw "source_work_item_family_id must be spec or incident"
  (validateSafeIdentifier d.sourceWorkItemId "source_work_item_id").mapError ContractError.display
  d.emittedSpecIds.forM fun specId =>
    (validateSafeIdentifier specId "emitted_spec_ids").mapError ContractError.display
  if d.emittedSpecIds.dedup.length ≠ d.emittedSpecIds.length then throw "emitted_spec_ids must be unique"
  if d.disposition ∉ ["active_source_ready_for_manager", "emitted_child_specs", "blocked"] then
    throw "disposition has an unsupported value"
  if isBlank d.recommendedNextAction then throw "recommended_next_action is required"
  if d.createdBy ≠ "planner" then throw "created_by must be planner"
  if d.disposition = "emitted_child_specs" ∧ d.emittedSpecIds = [] then
    throw "emitted_child_specs requires emitted_spec_ids"
  if d.disposition ≠ "emitted_child_specs" ∧ d.emittedSpecIds ≠ [] then
    throw "emitted_spec_ids are only valid for emitted_child_specs"

/-- What the run directory holds where the planner leaves its disposition. -/
inductive PlannerDispositionArtifact where
  | missing
  | unreadable (message : String)
  | parsed (document : PlannerDispositionDocument)

/-! ## The session -/

/-- What an effect reads besides the stage result. The Blueprint handlers may answer anything: they are a function of
the result and the rule, none for a handler that is not theirs. -/
structure EffectSession where
  compiledPlan : CompiledRunPlan
  effectRules : List RuntimeEffectRule
  effectHandlers : List String
  failurePolicies : List RuntimeFailurePolicyDefinition
  plannerDisposition : PlannerDispositionArtifact
  blueprintHandler : StageResultEnvelope → RuntimeEffectRule → Option RuntimeEffectResult
  pathExists : String → Bool
  specQueued : String → Bool
  lifecycleAccepts : SourceLifecycleIntent → Bool
  ofPlan : effectRules.map (·.toRuntimeEffectRuleDefinition) = compiledPlan.workflowPrimitives.runtimeEffectRules

section Session
variable (session : EffectSession) (r : StageResultEnvelope)

/-! ## Selecting a rule -/

def effectGraph : EffectOutcome FrozenGraphPlanePlan :=
  (graphForPlane session.compiledPlan r.plane).mapError .tick

def stagePlanForResult : EffectOutcome MaterializedGraphNodePlan := do
  let graph ← effectGraph session r
  match (graph.nodes.find? fun node => node.nodeId == r.nodeId && node.stageKindId == r.stageKindId).or
      (graph.nodes.find? fun node => node.nodeId == r.nodeId) with
  | some node => return node
  | none => throw (.missingResultNode r.nodeId)

/-- The rules that the compiler selects for a node. -/
def runtimeEffectRuleSelections (nodeId : String) : List String :=
  (session.effectRules.filter fun rule => rule.sourceNodeId == nodeId).map (·.ruleId)

def ruleMatchesStageResult (rule : RuntimeEffectRule) : Bool :=
  (rule.sourceNodeId == r.nodeId || rule.sourceNodeId == r.stageKindId) && rule.onOutcomes.contains r.outcome

def ruleById (nodeId ruleId : String) : EffectOutcome RuntimeEffectRule :=
  match session.effectRules.find? fun rule => rule.ruleId == ruleId with
  | some rule => .ok rule
  | none => .error (.unknownRule nodeId ruleId)

def packagedHandlers : List String := [
  "planner_disposition",
  "manager_blueprint_manifest_to_blueprint_drafts",
  "contractor_blueprint_candidate_persist",
  "evaluator_blueprint_approved_to_task",
  "evaluator_blueprint_rejected_to_draft_revision"]

def ensurePackagedHandler (handlerId : String) : EffectOutcome Unit :=
  if handlerId ∉ session.effectHandlers then .error (.unknownHandler handlerId)
  else if handlerId ∉ packagedHandlers then .error (.unpackagedHandler handlerId)
  else .ok ()

def selectedRuntimeEffectRule : EffectOutcome (Option RuntimeEffectRule) := do
  let stagePlan ← stagePlanForResult session r
  let selected ← (runtimeEffectRuleSelections session stagePlan.nodeId).mapM (ruleById session stagePlan.nodeId)
  match selected.filter (ruleMatchesStageResult r) with
  | [] => return none
  | [rule] => do
    ensurePackagedHandler session rule.handlerId
    return some rule
  | rules => throw (.multipleRules r.nodeId r.outcome (rules.map (·.ruleId)))

/-! ## Running the handler -/

def sourceWorkItemFamilyId : String :=
  match (r.metadataText "active_work_item_family_id").filter fun value => !isBlank value with
  | some value => String.ofList (trim value.toList)
  | none => asStr r.workItemKind

def sourceLifecycleIntentForEffect (lifecyclePlanId : String) (action : SourceLifecycleAction) :
    SourceLifecycleIntent where
  lifecyclePlanId := lifecyclePlanId
  action := action
  workItemFamilyId := some (sourceWorkItemFamilyId r)
  workItemKind := some r.workItemKind
  workItemId := r.workItemId
  reason := some ("runtime effect for " ++ r.outcome)

/-- A handler asks to block the source before it has written anything. -/
def blockSourceResult (handlerId : String) (rule : RuntimeEffectRule) (failureClass message : String) :
    RuntimeEffectResult where
  handlerId := handlerId
  decision := .requestBlockSource
  createdPaths := []
  sourceLifecycleIntent := some (sourceLifecycleIntentForEffect r
    (rule.lifecycleMutationPlanId.getD "block_source_after_effect") .block)
  failureClass := some failureClass
  message := some message
  mutationPhase := .preMutation

def plannerFailureResult (rule : RuntimeEffectRule) (failureClass message : String) : RuntimeEffectResult :=
  blockSourceResult r "planner_disposition" rule failureClass message

def plannerContinues (message : String) : RuntimeEffectResult where
  handlerId := "planner_disposition"
  decision := .continueRoute
  createdPaths := []
  sourceLifecycleIntent := none
  failureClass := none
  message := some message
  mutationPhase := .unknown

def sourceMismatch (d : PlannerDispositionDocument) : Except String Unit :=
  if sourceWorkItemFamilyId r ≠ d.sourceWorkItemFamilyId then
    .error ("planner disposition source family mismatch: " ++ d.sourceWorkItemFamilyId ++ " != " ++
      sourceWorkItemFamilyId r)
  else if r.workItemId ≠ d.sourceWorkItemId then
    .error ("planner disposition source id mismatch: " ++ d.sourceWorkItemId ++ " != " ++ r.workItemId)
  else .ok ()

def emittedChildSpecs (rule : RuntimeEffectRule) (emittedSpecIds : List String) : RuntimeEffectResult :=
  if r.outcome ≠ "PLANNER_COMPLETE" then
    plannerFailureResult r rule "planner_disposition_terminal_mismatch" "emitted_child_specs requires PLANNER_COMPLETE"
  else
    match emittedSpecIds.filter fun specId => !session.specQueued specId with
    | [] => {
        handlerId := "planner_disposition"
        decision := .requestCompleteSource
        createdPaths := emittedSpecIds.map fun specId => "millrace-agents/specs/queue/" ++ specId ++ ".md"
        sourceLifecycleIntent := some (sourceLifecycleIntentForEffect r
          (rule.lifecycleMutationPlanId.getD "complete_source_after_effect") .complete)
        failureClass := none
        message := some ("Planner disposition resolved active source after emitting child specs: " ++
          ", ".intercalate emittedSpecIds)
        mutationPhase := .preMutation }
    | missing => plannerFailureResult r rule "planner_disposition_child_spec_missing"
        ("Planner emitted child spec ids that are not queued: " ++ ", ".intercalate missing)

/-- The answer to a disposition that names the result's source. -/
def plannerAnswer (rule : RuntimeEffectRule) (d : PlannerDispositionDocument) : RuntimeEffectResult :=
  if d.disposition = "active_source_ready_for_manager" then
    if r.outcome ≠ "PLANNER_COMPLETE" then
      plannerFailureResult r rule "planner_disposition_terminal_mismatch"
        "active_source_ready_for_manager requires PLANNER_COMPLETE"
    else plannerContinues "Planner disposition keeps active source on the Manager route"
  else if d.disposition = "blocked" then
    if r.outcome = "BLOCKED" then plannerContinues "Planner disposition preserves graph-declared blocked recovery"
    else plannerFailureResult r rule "planner_disposition_blocked"
      "blocked disposition requires the BLOCKED terminal result"
  else if d.disposition = "emitted_child_specs" then emittedChildSpecs session r rule d.emittedSpecIds
  else plannerFailureResult r rule "planner_disposition_invalid" "unsupported planner disposition value"

def plannerDisposition (rule : RuntimeEffectRule) : RuntimeEffectResult :=
  match session.plannerDisposition with
  | .missing => plannerFailureResult r rule "planner_disposition_missing"
      "required Planner artifact is missing: planner_disposition.json"
  | .unreadable message => plannerFailureResult r rule "planner_disposition_invalid" message
  | .parsed document =>
    match document.validate with
    | .error message => plannerFailureResult r rule "planner_disposition_invalid" message
    | .ok _ =>
      match sourceMismatch r document with
      | .error message => plannerFailureResult r rule "planner_disposition_source_mismatch" message
      | .ok _ => plannerAnswer session r rule document

def runPackagedHandler (rule : RuntimeEffectRule) : RuntimeEffectResult :=
  match session.blueprintHandler r rule with
  | some result => result
  | none =>
    if rule.handlerId = "planner_disposition" then plannerDisposition session r rule
    else blockSourceResult r rule.handlerId rule "runtime_effect_handler_not_implemented"
      ("runtime effect handler " ++ rule.handlerId ++ " is reserved for the Blueprint runtime slice")

def normalizeEffectFailurePhase (result : RuntimeEffectResult) : RuntimeEffectResult :=
  if result.decision = .requestBlockSource ∧ result.mutationPhase = .preMutation ∧ result.createdPaths ≠ [] then
    { result with mutationPhase := .partialMutation }
  else result

/-! ## Failure policies -/

def stringListMatchesOptional (values : List String) (candidate : Option String) : Bool :=
  values.isEmpty || candidate.any values.contains

def policyMatchesEffectFailure (policy : RuntimeFailurePolicyDefinition)
    (failure : RuntimeEffectFailurePolicyInput) : Bool :=
  policy.appliesToOrigins.contains "runtime_effect" &&
  failure.sourcePlane.any policy.appliesToPlanes.contains &&
  stringListMatchesOptional policy.appliesToFamilies failure.sourceFamilyId &&
  stringListMatchesOptional policy.appliesToFailureClasses failure.failureClass &&
  (policy.appliesToMutationPhases.isEmpty || policy.appliesToMutationPhases.contains failure.mutationPhase) &&
  stringListMatchesOptional policy.appliesToHandlerIds failure.handlerId &&
  stringListMatchesOptional policy.appliesToSourceNodeIds failure.sourceNodeId &&
  stringListMatchesOptional policy.appliesToSourceTerminalStateIds failure.sourceTerminalStateId

/-- The first policy that matches; one that routes to a node is passed over once something was written. -/
def interpretRuntimeEffectFailurePolicy (policies : List RuntimeFailurePolicyDefinition)
    (failure : RuntimeEffectFailurePolicyInput) : Option RuntimeFailurePolicyInterpretation := do
  let failureClass ← failure.failureClass.filter fun value => !isBlank value
  let _ ← failure.handlerId.filter fun value => !isBlank value
  let _ ← failure.sourceNodeId.filter fun value => !isBlank value
  let _ ← failure.sourcePlane
  let _ ← failure.sourceFamilyId.filter fun value => !isBlank value
  let policy ← policies.find? fun policy =>
    policyMatchesEffectFailure policy failure &&
      !(failure.mutationPhase == .partialMutation && policy.action == "route_to_node")
  return {
    policyId := policy.policyId
    action := policy.action
    failureClass := String.ofList (trim failureClass.toList)
    targetNodeId := policy.targetNodeId }

def sourceTerminalStateIdForEffect (rule : RuntimeEffectRule) : Option String := do
  let graph ← (effectGraph session r).toOption
  let transition ← graph.compiledTransitions.find? fun t =>
    t.outcome == r.outcome && (t.sourceNodeId == r.nodeId || t.sourceNodeId == rule.sourceNodeId)
  transition.terminalStateId

def runtimeEffectFailurePolicyResolution (result : RuntimeEffectResult) (rule : RuntimeEffectRule) :
    Option RuntimeFailurePolicyInterpretation :=
  if result.decision ≠ .requestBlockSource then none
  else interpretRuntimeEffectFailurePolicy session.failurePolicies {
    failureClass := result.failureClass
    mutationPhase := result.mutationPhase
    handlerId := some result.handlerId
    sourceNodeId := some r.nodeId
    sourceTerminalStateId := sourceTerminalStateIdForEffect session r rule
    sourcePlane := some r.plane
    sourceFamilyId := some (sourceWorkItemFamilyId r) }

/-! ## The decision that is applied -/

/-- A decision to run a node of the result's graph, on the grounds that another decision gives. -/
def runNodeDecision (graph : FrozenGraphPlanePlan) (target : String) (unknown : RuntimeEffectError)
    (grounds : RouterDecision) : EffectOutcome RouterDecision := do
  match graph.nodes.find? fun node => node.nodeId == target with
  | none => throw unknown
  | some node => do
    let stage ← (stageNameForPlane graph.plane node.stageKindId).mapError fun error => .tick (.contract error)
    return { grounds with
      action := .runStage
      nextPlane := some graph.plane
      nextStage := some stage
      nextNodeId := some node.nodeId
      nextStageKindId := some node.stageKindId }

def routerDecisionForFailurePolicyRoute (result : RuntimeEffectResult)
    (resolution : RuntimeFailurePolicyInterpretation) : EffectOutcome (Option RouterDecision) :=
  match resolution.targetNodeId with
  | none => return none
  | some target => do
    let graph ← effectGraph session r
    let decision ← runNodeDecision graph target (.unknownPolicyTarget resolution.policyId target)
      (endingDecision .runStage
        ("runtime_effect_failure:" ++ result.handlerId ++ ":" ++ resolution.failureClass)
        (some resolution.failureClass) none)
    return some decision

/-- The first transition for the outcome that leads to a node, whatever its priority. -/
def continueTransition (graph : FrozenGraphPlanePlan) : Option CompiledGraphTransitionPlan :=
  graph.compiledTransitions.find? fun t =>
    t.outcome == r.outcome && (t.sourceNodeId == r.nodeId || t.sourceNodeId == r.stageKindId) &&
      t.targetNodeId.isSome

def routerDecisionForContinueRoute (fallback : RouterDecision) : EffectOutcome RouterDecision := do
  let graph ← effectGraph session r
  match (continueTransition r graph).bind (·.targetNodeId) with
  | none => return fallback
  | some target =>
    runNodeDecision graph target (.unknownContinueTarget target)
      { fallback with
        reason := if fallback.reason = "" then r.stageKindId ++ ":" ++ r.outcome else fallback.reason }

def routerDecisionForEffect (result : RuntimeEffectResult)
    (resolution : Option RuntimeFailurePolicyInterpretation) : RouterDecision :=
  match result.decision with
  | .requestCompleteSource => idleDecision result.handlerId
  | .requestBlockSource =>
    let failureClass := result.failureClass.or (resolution.map (·.failureClass))
    let reason :=
      if resolution.any (·.action == "require_operator") then
        "runtime_effect_requires_operator:" ++ result.handlerId ++ ":" ++ failureClass.getD "runtime_effect_failed"
      else result.handlerId
    blockedDecision reason failureClass none
  | .continueRoute | .retryRecovery => blockedDecision result.handlerId result.failureClass none

/-- The queue takes the lifecycle intent, unless a path that the handler says it created is not there. -/
def applyRuntimeEffectResult (result : RuntimeEffectResult) : EffectOutcome RuntimeEffectResult :=
  if result.createdPaths.any fun path => !session.pathExists path then
    .ok { result with
      decision := .retryRecovery
      failureClass := some "runtime_effect_destination_missing" }
  else
    match result.sourceLifecycleIntent with
    | none => .ok result
    | some intent => if session.lifecycleAccepts intent then .ok result else .error .lifecycleRefused

structure RuntimeEffectApplication where
  routerDecision : RouterDecision
  sourceLifecycleApplied : Bool
  deriving DecidableEq, Repr

def RuntimeEffectApplication.unchanged (routerDecision : RouterDecision) : RuntimeEffectApplication where
  routerDecision := routerDecision
  sourceLifecycleApplied := false

/-- What follows from a handler's answer, once its failure policy is known. -/
def applyEffectAnswer (answer : RuntimeEffectResult) (resolution : Option RuntimeFailurePolicyInterpretation)
    (routerDecision : RouterDecision) : EffectOutcome RuntimeEffectApplication :=
  match resolution.filter (·.action == "route_to_node") with
  | some policy => do
    let routed ← routerDecisionForFailurePolicyRoute session r answer policy
    return .unchanged (routed.getD routerDecision)
  | none => do
    let result ← applyRuntimeEffectResult session answer
    match result.decision with
    | .continueRoute => do
      let decision ← routerDecisionForContinueRoute session r routerDecision
      return .unchanged decision
    | .requestCompleteSource | .requestBlockSource =>
      return {
        routerDecision := routerDecisionForEffect result resolution
        sourceLifecycleApplied := result.sourceLifecycleIntent.isSome }
    | .retryRecovery =>
      throw (.recoveryRequested result.handlerId (result.failureClass.getD "runtime_effect_failed"))

def applyRuntimeEffectForStageResult (routerDecision : RouterDecision) :
    EffectOutcome RuntimeEffectApplication := do
  match ← selectedRuntimeEffectRule session r with
  | none => return .unchanged routerDecision
  | some rule =>
    let answer := normalizeEffectFailurePhase (runPackagedHandler session r rule)
    applyEffectAnswer session r answer (runtimeEffectFailurePolicyResolution session r answer rule) routerDecision

end Session

end Millrace.Runtime

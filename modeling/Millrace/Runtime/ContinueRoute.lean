import Millrace.Runtime.Effects

/-! When an effect that continues the route keeps the decision of the router. -/

set_option autoImplicit false

namespace Millrace.Runtime
open Millrace.Text Millrace.Contracts Millrace.Action

/-! ## The node that the router's rules name -/

/-- The decision runs this node. -/
def RouterDecision.Runs (d : RouterDecision) (target : String) : Prop :=
  d.action = .runStage ∧ d.nextNodeId = some target

section Router
variable (graph : FrozenGraphPlanePlan) (s : RuntimeSnapshot) (r : StageResultEnvelope) (counters : RecoveryCounters)

/-- Without an exhausted threshold, a resume policy or else the least priority leads the router to this node. -/
def WithinThresholdsLeadsTo (resumes : Option CompiledGraphResumePolicyPlan) (target : String) : Prop :=
  match resumes with
  | some policy => resumeTarget graph r policy policy.metadataStageKeys = target
  | none => ∃ transition, transitionForSource graph r.nodeId r.outcome = .ok transition ∧
      transition.targetNodeId = some target

/-- The thresholds, resume policies and priorities of the plan lead the router to this node. -/
def RouterLeadsTo (target : String) : Prop :=
  match exhaustedPolicy graph s r counters with
  | .error _ => False
  | .ok (some policy) => policy.exhaustedTargetNodeId = some target
  | .ok none =>
    WithinThresholdsLeadsTo graph r
      (if r.plane = .learning then none else resumePolicyForSource graph r.nodeId r.outcome) target

/-! ## The router follows its rules -/

variable {graph s r counters} {target next reason : String} {failureClass counterKey : Option String}
  {d : RouterDecision}

theorem nodePlanById_ok {node : MaterializedGraphNodePlan} (ok : nodePlanById graph next = .ok node) :
    graph.nodes.find? (fun node => node.nodeId == next) = some node ∧ node.nodeId = next := by
  unfold nodePlanById at ok
  cases found : graph.nodes.find? fun node => node.nodeId == next with
  | none => simp [found] at ok
  | some other =>
    simp only [found, Except.ok.injEq] at ok
    subst ok
    exact ⟨rfl, by simpa using List.find?_some found⟩

theorem runStageDecision_runs (ok : runStageDecision graph next reason failureClass counterKey = .ok d) :
    d.Runs target ↔ next = target := by
  obtain ⟨found, at_, rfl⟩ := runStageDecision_ok.mp ok
  unfold stageAt at at_
  obtain ⟨node, named, rest⟩ := bind_eq_ok.mp at_
  obtain ⟨stage, -, same⟩ := bind_eq_ok.mp rest
  obtain rfl := pure_eq_ok.mp same
  simp [RouterDecision.Runs, stageDecision, (nodePlanById_ok named).2]

theorem endingDecision_runs {action : RouterAction} (ends : action ≠ .runStage) :
    ¬ (endingDecision action reason failureClass counterKey).Runs target :=
  fun runs => ends runs.1

theorem handoffDecision_runs : ¬ (handoffDecision reason failureClass).Runs target := by
  intro runs
  cases runs.1

/-- A terminal transition runs nothing, on either plane that has them. -/
theorem executionTerminalDecision_runs (ok : executionTerminalDecision s r = .ok d) : ¬ d.Runs target := by
  unfold executionTerminalDecision at ok
  split_ifs at ok
  all_goals first
    | (obtain rfl := Except.ok.inj ok; exact handoffDecision_runs)
    | (obtain rfl := Except.ok.inj ok; exact endingDecision_runs (by decide))

theorem planningTerminalDecision_runs (ok : planningTerminalDecision s r = .ok d) : ¬ d.Runs target := by
  unfold planningTerminalDecision at ok
  split_ifs at ok
  all_goals first
    | (obtain rfl := Except.ok.inj ok; exact handoffDecision_runs)
    | (obtain rfl := Except.ok.inj ok; exact endingDecision_runs (by decide))

theorem recoveryEdgeDecision_runs (ok : recoveryEdgeDecision graph s r next = .ok d) :
    d.Runs target ↔ next = target := by
  unfold recoveryEdgeDecision at ok
  obtain ⟨failureClass, -, rest⟩ := bind_eq_ok.mp ok
  obtain ⟨key, -, ran⟩ := bind_eq_ok.mp rest
  exact runStageDecision_runs ran

theorem decisionFromResumePolicy_runs {policy : CompiledGraphResumePolicyPlan}
    (ok : decisionFromResumePolicy graph r policy = .ok d) :
    d.Runs target ↔ resumeTarget graph r policy policy.metadataStageKeys = target := by
  unfold decisionFromResumePolicy at ok
  simp only at ok
  split_ifs at ok
  all_goals exact runStageDecision_runs ok

theorem decisionFromThresholdResolution_runs {policy : CompiledGraphThresholdPolicyPlan} {failure : String}
    (ok : decisionFromThresholdResolution graph s policy failure reason = .ok d) :
    d.Runs target ↔ policy.exhaustedTargetNodeId = some target := by
  unfold decisionFromThresholdResolution at ok
  obtain ⟨key, -, rest⟩ := bind_eq_ok.mp ok
  cases exhausted : policy.exhaustedTargetNodeId with
  | some next =>
    simp only [exhausted] at rest
    rw [runStageDecision_runs rest, Option.some.injEq]
  | none =>
    simp only [exhausted] at rest
    cases terminal : policy.exhaustedTerminalStateId with
    | none => simp [terminal, throw, throwThe, MonadExceptOf.throw] at rest
    | some terminalStateId =>
      simp only [terminal] at rest
      obtain ⟨state, -, rest⟩ := bind_eq_ok.mp rest
      split_ifs at rest
      obtain rfl := pure_eq_ok.mp rest
      simp [endingDecision_runs, blockedDecision]

/-- A transition's target is run, whatever reason the plane gives; its own terminal decision runs nothing. -/
theorem executionWithin_runs (ok : routeExecutionWithinThresholds graph s r = .ok d) :
    d.Runs target ↔ WithinThresholdsLeadsTo graph r (resumePolicyForSource graph r.nodeId r.outcome) target := by
  unfold routeExecutionWithinThresholds at ok
  unfold WithinThresholdsLeadsTo
  cases resumes : resumePolicyForSource graph r.nodeId r.outcome with
  | some policy =>
    simp only [resumes] at ok
    exact decisionFromResumePolicy_runs ok
  | none =>
    simp only [resumes] at ok
    obtain ⟨transition, chosen, rest⟩ := bind_eq_ok.mp ok
    simp only [chosen, Except.ok.injEq, exists_eq_left']
    cases leads : transition.targetNodeId with
    | none =>
      simp only [leads] at rest
      simp [executionTerminalDecision_runs rest]
    | some next =>
      simp only [leads] at rest
      rw [Option.some.injEq]
      split_ifs at rest
      · exact runStageDecision_runs rest
      · exact recoveryEdgeDecision_runs rest
      · exact runStageDecision_runs rest

theorem planningWithin_runs (ok : routePlanningWithinThresholds graph s r = .ok d) :
    d.Runs target ↔ WithinThresholdsLeadsTo graph r (resumePolicyForSource graph r.nodeId r.outcome) target := by
  unfold routePlanningWithinThresholds at ok
  unfold WithinThresholdsLeadsTo
  cases resumes : resumePolicyForSource graph r.nodeId r.outcome with
  | some policy =>
    simp only [resumes] at ok
    exact decisionFromResumePolicy_runs ok
  | none =>
    simp only [resumes] at ok
    obtain ⟨transition, chosen, rest⟩ := bind_eq_ok.mp ok
    simp only [chosen, Except.ok.injEq, exists_eq_left']
    cases leads : transition.targetNodeId with
    | none =>
      simp only [leads] at rest
      simp [planningTerminalDecision_runs rest]
    | some next =>
      simp only [leads] at rest
      rw [Option.some.injEq]
      split_ifs at rest
      · exact recoveryEdgeDecision_runs rest
      · exact runStageDecision_runs rest

theorem execution_runs (plane : r.plane = .execution) (ok : routeExecutionStageResult graph s r counters = .ok d) :
    d.Runs target ↔ RouterLeadsTo graph s r counters target := by
  unfold routeExecutionStageResult at ok
  unfold RouterLeadsTo exhaustedPolicy
  simp only [plane, reduceCtorEq, if_false]
  cases cycles : exhaustedFixCycles graph s r with
  | some policy =>
    simp only [cycles] at ok
    obtain ⟨failure, resolved, rest⟩ := bind_eq_ok.mp ok
    simp only [resolved, ok_bind, pure, Except.pure]
    exact decisionFromThresholdResolution_runs rest
  | none =>
    simp only [cycles] at ok
    by_cases counted : r.outcome = "BLOCKED" ∧ r.stageKindId ≠ "consultant"
    · rw [if_pos counted] at ok
      obtain ⟨failure, resolved, rest⟩ := bind_eq_ok.mp ok
      obtain ⟨reached, attempts, rest⟩ := bind_eq_ok.mp rest
      simp only [if_pos counted, resolved, ok_bind, attempts]
      cases reached with
      | some policy => exact decisionFromThresholdResolution_runs rest
      | none => exact executionWithin_runs rest
    · rw [if_neg counted] at ok
      simp only [if_neg counted, pure, Except.pure]
      exact executionWithin_runs ok

theorem planning_runs (plane : r.plane = .planning) (ok : routePlanningStageResult graph s r counters = .ok d) :
    d.Runs target ↔ RouterLeadsTo graph s r counters target := by
  unfold routePlanningStageResult at ok
  unfold RouterLeadsTo exhaustedPolicy
  simp only [plane, reduceCtorEq, if_false]
  by_cases blocked : r.outcome = "BLOCKED"
  · rw [if_pos blocked] at ok
    obtain ⟨failure, resolved, rest⟩ := bind_eq_ok.mp ok
    obtain ⟨reached, attempts, rest⟩ := bind_eq_ok.mp rest
    simp only [if_pos blocked, resolved, ok_bind, attempts]
    cases reached with
    | some policy => exact decisionFromThresholdResolution_runs rest
    | none => exact planningWithin_runs rest
  · rw [if_neg blocked] at ok
    simp only [if_neg blocked, pure, Except.pure]
    exact planningWithin_runs ok

theorem learning_runs (plane : r.plane = .learning) (ok : routeLearningStageResult graph r = .ok d) :
    d.Runs target ↔ RouterLeadsTo graph s r counters target := by
  unfold routeLearningStageResult at ok
  unfold RouterLeadsTo exhaustedPolicy WithinThresholdsLeadsTo
  obtain ⟨transition, chosen, rest⟩ := bind_eq_ok.mp ok
  simp only [plane, if_true, pure, Except.pure, chosen, Except.ok.injEq, exists_eq_left']
  cases leads : transition.targetNodeId with
  | some next =>
    simp only [leads] at rest
    rw [Option.some.injEq]
    exact runStageDecision_runs rest
  | none =>
    simp only [leads] at rest
    simp only [reduceCtorEq, iff_false]
    split_ifs at rest
    all_goals
      obtain rfl := pure_eq_ok.mp rest
      exact endingDecision_runs (by decide)

end Router

theorem route_runs {plan : CompiledRunPlan} {graph : FrozenGraphPlanePlan} {s : RuntimeSnapshot}
    {r : StageResultEnvelope} {counters : RecoveryCounters} {d : RouterDecision} {target : String}
    (graphOf : graphForPlane plan r.plane = .ok graph)
    (routed : routeStageResultFromGraph plan s r counters = .ok d) :
    d.Runs target ↔ RouterLeadsTo graph s r counters target := by
  obtain ⟨_, -, rest⟩ := bind_eq_ok.mp routed
  rw [graphOf, ok_bind] at rest
  cases plane : r.plane with
  | execution => exact execution_runs plane (by simpa only [plane] using rest)
  | planning => exact planning_runs plane (by simpa only [plane] using rest)
  | learning => exact learning_runs plane (by simpa only [plane] using rest)


/-! ## What an effect that continues the route applies -/

section Session
variable {session : EffectSession} {s : RuntimeSnapshot} {r : StageResultEnvelope} {counters : RecoveryCounters}
  {rule : RuntimeEffectRule} {decision applied : RouterDecision} {application : RuntimeEffectApplication}

theorem normalizeEffectFailurePhase_continues {result : RuntimeEffectResult}
    (continues : result.decision = .continueRoute) : normalizeEffectFailurePhase result = result :=
  if_neg fun ⟨blocks, _⟩ => by rw [continues] at blocks; cases blocks

/-- An answer whose created paths are missing is not applied at all, so the others end in the search for an edge. -/
theorem application_continues (selected : selectedRuntimeEffectRule session r = .ok (some rule))
    (continues : (runPackagedHandler session r rule).decision = .continueRoute)
    (ok : applyRuntimeEffectForStageResult session r decision = .ok application) :
    routerDecisionForContinueRoute session r decision = .ok application.routerDecision := by
  unfold applyRuntimeEffectForStageResult at ok
  simp only [selected, ok_bind, normalizeEffectFailurePhase_continues continues] at ok
  have unresolved : runtimeEffectFailurePolicyResolution session r (runPackagedHandler session r rule) rule = none := by
    unfold runtimeEffectFailurePolicyResolution
    rw [continues, if_pos (by decide)]
  unfold applyEffectAnswer applyRuntimeEffectResult at ok
  rw [unresolved, Option.filter_none] at ok
  obtain ⟨result, resolved, rest⟩ := bind_eq_ok.mp ok
  split_ifs at resolved with missing
  · obtain rfl := Except.ok.inj resolved
    cases rest
  · have same : runPackagedHandler session r rule = result := by
      cases intent : (runPackagedHandler session r rule).sourceLifecycleIntent with
      | none => simpa [intent] using resolved
      | some intent' =>
        simp only [intent] at resolved
        split_ifs at resolved
        exact Except.ok.inj resolved
    subst same
    simp only [continues] at rest
    obtain ⟨followed, searched, same⟩ := bind_eq_ok.mp rest
    obtain rfl := pure_eq_ok.mp same
    exact searched

theorem runNodeDecision_ok {graph : FrozenGraphPlanePlan} {target : String} {unknown : RuntimeEffectError}
    (ok : runNodeDecision graph target unknown decision = .ok applied) :
    applied.Runs target ∧ applied.failureClass = decision.failureClass := by
  unfold runNodeDecision at ok
  cases found : graph.nodes.find? fun node => node.nodeId == target with
  | none => simp [found, throw, throwThe, MonadExceptOf.throw] at ok
  | some node =>
    simp only [found] at ok
    obtain ⟨stage, -, same⟩ := bind_eq_ok.mp ok
    obtain rfl := pure_eq_ok.mp same
    exact ⟨⟨rfl, congrArg some (by simpa using List.find?_some found)⟩, rfl⟩

theorem continueRoute_keeps_iff {graph : FrozenGraphPlanePlan}
    (graphOf : graphForPlane session.compiledPlan r.plane = .ok graph)
    (ok : routerDecisionForContinueRoute session r decision = .ok applied) :
    (applied.action = decision.action ∧ applied.nextNodeId = decision.nextNodeId ∧
      applied.failureClass = decision.failureClass) ↔
    ∀ edge target, continueTransition r graph = some edge → edge.targetNodeId = some target →
      decision.Runs target := by
  unfold routerDecisionForContinueRoute effectGraph at ok
  simp only [graphOf, Except.mapError, ok_bind] at ok
  cases searched : (continueTransition r graph).bind (·.targetNodeId) with
  | none =>
    simp only [searched] at ok
    obtain rfl := pure_eq_ok.mp ok
    refine iff_of_true ⟨rfl, rfl, rfl⟩ fun edge target followed leads => ?_
    simp [followed, leads] at searched
  | some target =>
    simp only [searched] at ok
    obtain ⟨edge, followed, leads⟩ := Option.bind_eq_some_iff.mp searched
    obtain ⟨⟨runs, node⟩, class_⟩ := runNodeDecision_ok ok
    constructor
    · rintro ⟨action, next, -⟩ edge' target' followed' leads'
      obtain rfl := Option.some.inj (followed.symm.trans followed')
      obtain rfl := Option.some.inj (leads.symm.trans leads')
      exact ⟨action ▸ runs, next ▸ node⟩
    · intro agrees
      obtain ⟨action, next⟩ := agrees edge target followed leads
      exact ⟨runs.trans action.symm, node.trans next.symm, class_⟩

/-- A route that an effect continues is the router's unless the first edge for the outcome leads to another node than
the plan's thresholds, resume policies and priorities do. -/
theorem continued_route_kept_iff (session : EffectSession) (s : RuntimeSnapshot) (r : StageResultEnvelope)
    (counters : RecoveryCounters) (decision : RouterDecision) (rule : RuntimeEffectRule)
    (application : RuntimeEffectApplication)
    (routed : routeStageResultFromGraph session.compiledPlan s r counters = .ok decision)
    (selected : selectedRuntimeEffectRule session r = .ok (some rule))
    (continues : (runPackagedHandler session r rule).decision = .continueRoute)
    (applied : applyRuntimeEffectForStageResult session r decision = .ok application) :
    (application.routerDecision.action = decision.action ∧
      application.routerDecision.nextNodeId = decision.nextNodeId ∧
      application.routerDecision.failureClass = decision.failureClass) ↔
    ∀ graph edge target, graphForPlane session.compiledPlan r.plane = .ok graph →
      continueTransition r graph = some edge → edge.targetNodeId = some target →
      RouterLeadsTo graph s r counters target := by
  obtain ⟨_, -, rest⟩ := bind_eq_ok.mp routed
  obtain ⟨graph, graphOf, -⟩ := bind_eq_ok.mp rest
  rw [continueRoute_keeps_iff graphOf (application_continues selected continues applied)]
  constructor
  · intro agrees graph' edge target graphOf' followed leads
    obtain rfl := Except.ok.inj (graphOf.symm.trans graphOf')
    exact (route_runs graphOf routed).mp (agrees edge target followed leads)
  · intro agrees edge target followed leads
    exact (route_runs graphOf routed).mpr (agrees graph edge target graphOf followed leads)

end Session

/-! ## A planner that is blocked once more -/

def plannerRun : ActiveRunState where
  plane := .planning
  stage := .planner
  nodeId := "planner"
  stageKindId := "planner"
  runId := "run-planning"
  requestKind := .activeWorkItem
  workItemKind := some .spec
  workItemId := some "spec-1"
  closureTargetRootSpecId := none
  activeSince := "2026-01-01T00:00:00Z"

def plannerResult (outcome : PlanningTerminalResult) : StageResultEnvelope where
  runId := "run-planning"
  plane := .planning
  stage := .planner
  nodeId := "planner"
  stageKindId := "planner"
  workItemKind := .spec
  workItemId := "spec-1"
  terminalResult := .planning outcome
  metadata := [("failure_class", .text "missing_context")]
  ofPlane := rfl

def dispositionDocument (disposition : String) : PlannerDispositionDocument where
  schemaVersion := "1.0"
  kind := "planner_disposition"
  sourceWorkItemFamilyId := "spec"
  sourceWorkItemId := "spec-1"
  disposition := disposition
  emittedSpecIds := []
  recommendedNextAction := "continue_to_manager"
  createdBy := "planner"

/-- The standard plan with the planner's artifact in the run directory. -/
def plannerSession (disposition : String) : EffectSession where
  compiledPlan := standardPlan
  effectRules := standardPlan.workflowPrimitives.runtimeEffectRules.map fun rule => ⟨rule, "planner_disposition"⟩
  effectHandlers := ["planner_disposition"]
  failurePolicies := []
  plannerDisposition := .parsed (dispositionDocument disposition)
  blueprintHandler := fun _ _ => none
  pathExists := fun _ => true
  specQueued := fun _ => false
  lifecycleAccepts := fun _ => true
  ofPlan := handledBy_ofPlan standardPlan "planner_disposition"

def plannerSnapshot : RuntimeSnapshot :=
  .started fun plane => if plane = .planning then some plannerRun else none

def plannerRule (ruleId outcome lifecyclePlanId : String) : RuntimeEffectRule where
  ruleId := ruleId
  sourceNodeId := "planner"
  onOutcomes := [outcome]
  lifecycleMutationPlanId := some lifecyclePlanId
  handlerId := "planner_disposition"

def plannerToManager : RouterDecision where
  action := .runStage
  nextPlane := some .planning
  nextStage := some .manager
  reason := "planner:PLANNER_COMPLETE"
  nextNodeId := some "manager"
  nextStageKindId := some "manager"
  failureClass := none
  counterKey := none
  createIncident := false

/-- A planner that is done goes on to the manager, where the router's own rules lead. -/
theorem router_leads_planner_to_manager :
    RouterLeadsTo standardPlanningGraph plannerSnapshot (plannerResult .plannerComplete) [] "manager" :=
  (continued_route_kept_iff (plannerSession "active_source_ready_for_manager") plannerSnapshot
    (plannerResult .plannerComplete) [] plannerToManager
    (plannerRule "planner_disposition_on_complete" "PLANNER_COMPLETE" "complete_source_after_effect")
    (.unchanged plannerToManager) (by decide +kernel) (by decide +kernel) (by decide +kernel)
    (by decide +kernel)).mp ⟨rfl, rfl, rfl⟩ standardPlanningGraph
    ⟨"planner", "PLANNER_COMPLETE", some "manager", none, 100⟩ "manager" rfl (by decide +kernel) rfl

def plannerStopped : RouterDecision :=
  blockedDecision "planner_blocked:mechanic_attempts_exhausted" (some "missing_context")
    (some "spec:spec-1:missing_context")

/-- The router stops a planner whose mechanic has been tried twice, and the effect sends the spec to the mechanic again. -/
theorem exhausted_planner_sent_to_mechanic :
    ¬ ∀ (session : EffectSession) (s : RuntimeSnapshot) (r : StageResultEnvelope) (counters : RecoveryCounters)
      (decision : RouterDecision) (rule : RuntimeEffectRule) (application : RuntimeEffectApplication),
      routeStageResultFromGraph session.compiledPlan s r counters = .ok decision →
      selectedRuntimeEffectRule session r = .ok (some rule) →
      (runPackagedHandler session r rule).decision = .continueRoute →
      applyRuntimeEffectForStageResult session r decision = .ok application →
      application.routerDecision.action = decision.action ∧
        application.routerDecision.nextNodeId = decision.nextNodeId ∧
        application.routerDecision.failureClass = decision.failureClass := by
  intro kept
  have action := (kept (plannerSession "blocked") plannerSnapshot (plannerResult .blocked)
    [attemptedEntry (.spec, "spec-1") "missing_context" 2] plannerStopped
    (plannerRule "planner_disposition_on_blocked" "BLOCKED" "block_source_after_effect")
    (.unchanged { plannerStopped with
      action := .runStage
      nextPlane := some .planning
      nextStage := some .mechanic
      nextNodeId := some "mechanic"
      nextStageKindId := some "mechanic" })
    (by decide +kernel) (by decide +kernel) (by decide +kernel) (by decide +kernel)).1
  cases action

end Millrace.Runtime

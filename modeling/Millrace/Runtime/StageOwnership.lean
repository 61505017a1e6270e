import Millrace.Runtime.ContinueRoute
import Millrace.Runtime.Ownership

/-! Which work items a stage may own, and where routing keeps to that. -/

set_option autoImplicit false

namespace Millrace.Runtime
open Millrace.Text Millrace.Contracts Millrace.Action

/-! ## The next run -/

/-- `apply_run_stage_decision` on the plane's run: all but the stage stays. -/
def advanceRun (run : ScheduledRun) (r : StageResultEnvelope) (d : RouterDecision) (now : String) :
    Option ScheduledRun :=
  if d.nextPlane.getD r.plane ≠ r.plane then none
  else d.nextStage.map fun stage => { run with
    stage := stage
    nodeId := d.nextNodeId.getD (asStr stage)
    stageKindId := d.nextStageKindId.getD (asStr stage)
    activeSince := now
    runningStatusMarker := none }

/-- The run has a work item that its stage may own. -/
structure OwnsWorkItem (run : ScheduledRun) (kind : WorkItemKind) : Prop where
  kindOf : run.workItemKind = some kind
  item : run.requestKind ≠ .closureTarget
  unviolated : stageWorkItemOwnershipViolation run = none

/-- With the item of a run that passes the guard, another stage passes it exactly when it may own the kind. -/
theorem OwnsWorkItem.violation_iff {run next : ScheduledRun} {kind : WorkItemKind} (owns : OwnsWorkItem run kind)
    (sameKind : next.workItemKind = run.workItemKind) (sameId : next.workItemId = run.workItemId)
    (sameRequest : next.requestKind = run.requestKind) :
    stageWorkItemOwnershipViolation next = none ↔ stageAllowsWorkItemKind next.stage kind = true := by
  have passed := owns.unviolated
  unfold stageWorkItemOwnershipViolation at passed ⊢
  simp only [sameKind, sameId, sameRequest, owns.kindOf, owns.item, if_false] at passed ⊢
  split_ifs at passed
  grind

/-! ## Where routing leads -/

section Routing
variable (graph : FrozenGraphPlanePlan) (s : RuntimeSnapshot) (r : StageResultEnvelope) (counters : RecoveryCounters)

/-- The node that metadata names, where the policy takes it. -/
def namedTarget (policy : CompiledGraphResumePolicyPlan) (value : String) : Option String :=
  let normalized := String.ofList ((trim value.toList).map toAsciiLower)
  if normalized = "" ∨ normalized ∈ policy.disallowedTargetNodeIds ∨ ∀ node ∈ graph.nodes, node.nodeId ≠ normalized
  then none else some normalized

/-- The first of the policy's metadata keys under which an eligible node is named. -/
def metadataTarget (policy : CompiledGraphResumePolicyPlan) : Option String :=
  policy.metadataStageKeys.findSome? fun key => (r.metadataText key).bind (namedTarget graph policy)

/-- The resume policy that the router asks once no threshold is exhausted. -/
def resumesBy : Option CompiledGraphResumePolicyPlan :=
  match exhaustedPolicy graph s r counters with
  | .ok none => if r.plane = .learning then none else resumePolicyForSource graph r.nodeId r.outcome
  | .ok (some _) | .error _ => none

/-- The stage at this node may own the kind. -/
def Suits (kind : WorkItemKind) (target : String) : Prop :=
  ∀ found, stageAt graph target = .ok found → stageAllowsWorkItemKind found.2 kind = true

/-- The node that an exhausted threshold, the metadata, the policy's default or an edge names is suitable. -/
def Suited (kind : WorkItemKind) : Prop :=
  match exhaustedPolicy graph s r counters with
  | .error _ => True
  | .ok (some policy) => ∀ target, policy.exhaustedTargetNodeId = some target → Suits graph kind target
  | .ok none =>
    match if r.plane = .learning then none else resumePolicyForSource graph r.nodeId r.outcome with
    | some policy =>
      match metadataTarget graph r policy with
      | some target => Suits graph kind target
      | none => policy.defaultTargetNodeId ∉ policy.disallowedTargetNodeIds ∧
          Suits graph kind policy.defaultTargetNodeId
    | none => ∀ transition, transitionForSource graph r.nodeId r.outcome = .ok transition →
        ∀ target, transition.targetNodeId = some target → Suits graph kind target

variable {graph s r counters} {kind : WorkItemKind} {d : RouterDecision}

theorem resumeTarget_eq (policy : CompiledGraphResumePolicyPlan) (keys : List String) :
    resumeTarget graph r policy keys =
      (keys.findSome? fun key => (r.metadataText key).bind (namedTarget graph policy)).getD
        policy.defaultTargetNodeId := by
  induction keys with
  | nil => rfl
  | cons key rest ih =>
    unfold resumeTarget
    cases text : r.metadataText key with
    | none => simp [ih, text]
    | some candidate =>
      simp only [List.findSome?_cons, text, Option.bind_some]
      by_cases passed : String.ofList ((trim candidate.toList).map toAsciiLower) = "" ∨
          String.ofList ((trim candidate.toList).map toAsciiLower) ∈ policy.disallowedTargetNodeIds ∨
          ∀ node ∈ graph.nodes, node.nodeId ≠ String.ofList ((trim candidate.toList).map toAsciiLower)
      · simp only [namedTarget, if_pos passed, ih]
      · simp only [namedTarget, if_neg passed, Option.getD_some]

theorem metadataTarget_allowed {policy : CompiledGraphResumePolicyPlan} {target : String}
    (named : metadataTarget graph r policy = some target) : target ∉ policy.disallowedTargetNodeIds := by
  obtain ⟨key, -, found⟩ := List.exists_of_findSome?_eq_some named
  obtain ⟨value, -, taken⟩ := Option.bind_eq_some_iff.mp found
  unfold namedTarget at taken
  dsimp only at taken
  split_ifs at taken with passed
  obtain rfl := Option.some.inj taken
  exact fun disallowed => passed (.inr (.inl disallowed))

/-- The condition, said of every node that the plan leads to. -/
theorem suited_iff : Suited graph s r counters kind ↔ ∀ target, RouterLeadsTo graph s r counters target →
    Suits graph kind target ∧ ∀ policy, resumesBy graph s r counters = some policy →
      target ∉ policy.disallowedTargetNodeIds := by
  unfold Suited RouterLeadsTo resumesBy WithinThresholdsLeadsTo
  cases exhausted : exhaustedPolicy graph s r counters with
  | error e => simp
  | ok exceeded =>
    cases exceeded with
    | some policy => simp
    | none =>
      dsimp only
      cases resumes : if r.plane = .learning then none else resumePolicyForSource graph r.nodeId r.outcome with
      | none =>
        exact ⟨fun all target ⟨transition, ok, leads⟩ => ⟨all transition ok target leads, nofun⟩,
          fun all transition ok target leads => (all target ⟨transition, ok, leads⟩).1⟩
      | some policy =>
        dsimp only
        rw [resumeTarget_eq]
        change _ ↔ ∀ target, (metadataTarget graph r policy).getD policy.defaultTargetNodeId = target → _
        cases named : metadataTarget graph r policy with
        | none => simp [and_comm]
        | some target => simp [metadataTarget_allowed named]

/-- Where the decision runs a stage, it is that of a node of the graph. -/
def Dispatches (graph : FrozenGraphPlanePlan) (d : RouterDecision) : Prop :=
  d.action = .runStage → ∃ target found, stageAt graph target = .ok found ∧
    d.nextNodeId = some target ∧ d.nextStage = some found.2

section Dispatches
variable {reason : String} {failureClass counterKey : Option String}

theorem runStageDecision_dispatches {target : String}
    (ok : runStageDecision graph target reason failureClass counterKey = .ok d) : Dispatches graph d := by
  intro _
  have runs : d.Runs target := (runStageDecision_runs ok).mpr rfl
  obtain ⟨found, at_, rfl⟩ := runStageDecision_ok.mp ok
  exact ⟨target, found, at_, runs.2, rfl⟩

theorem dispatches_of_ends {action : RouterAction} (ends : action ≠ .runStage) :
    Dispatches graph (endingDecision action reason failureClass counterKey) := fun runs => absurd runs ends

theorem handoffDecision_dispatches : Dispatches graph (handoffDecision reason failureClass) := fun runs => by cases runs

theorem executionTerminalDecision_dispatches (ok : executionTerminalDecision s r = .ok d) : Dispatches graph d := by
  unfold executionTerminalDecision at ok
  split_ifs at ok
  all_goals first
    | (obtain rfl := Except.ok.inj ok; exact handoffDecision_dispatches)
    | (obtain rfl := Except.ok.inj ok; exact dispatches_of_ends (by decide))

theorem planningTerminalDecision_dispatches (ok : planningTerminalDecision s r = .ok d) : Dispatches graph d := by
  unfold planningTerminalDecision at ok
  split_ifs at ok
  all_goals first
    | (obtain rfl := Except.ok.inj ok; exact handoffDecision_dispatches)
    | (obtain rfl := Except.ok.inj ok; exact dispatches_of_ends (by decide))

theorem recoveryEdgeDecision_dispatches {target : String} (ok : recoveryEdgeDecision graph s r target = .ok d) :
    Dispatches graph d := by
  unfold recoveryEdgeDecision at ok
  obtain ⟨_, -, rest⟩ := bind_eq_ok.mp ok
  obtain ⟨_, -, ran⟩ := bind_eq_ok.mp rest
  exact runStageDecision_dispatches ran

theorem decisionFromResumePolicy_dispatches {policy : CompiledGraphResumePolicyPlan}
    (ok : decisionFromResumePolicy graph r policy = .ok d) : Dispatches graph d := by
  unfold decisionFromResumePolicy at ok
  simp only at ok
  split_ifs at ok
  all_goals exact runStageDecision_dispatches ok

theorem decisionFromThresholdResolution_dispatches {policy : CompiledGraphThresholdPolicyPlan} {failure : String}
    (ok : decisionFromThresholdResolution graph s policy failure reason = .ok d) : Dispatches graph d := by
  unfold decisionFromThresholdResolution at ok
  obtain ⟨key, -, rest⟩ := bind_eq_ok.mp ok
  cases exhausted : policy.exhaustedTargetNodeId with
  | some next =>
    simp only [exhausted] at rest
    exact runStageDecision_dispatches rest
  | none =>
    simp only [exhausted] at rest
    cases terminal : policy.exhaustedTerminalStateId with
    | none => simp [terminal, throw, throwThe, MonadExceptOf.throw] at rest
    | some terminalStateId =>
      simp only [terminal] at rest
      obtain ⟨state, -, rest⟩ := bind_eq_ok.mp rest
      split_ifs at rest
      obtain rfl := pure_eq_ok.mp rest
      exact dispatches_of_ends (by decide)

theorem executionWithin_dispatches (ok : routeExecutionWithinThresholds graph s r = .ok d) : Dispatches graph d := by
  unfold routeExecutionWithinThresholds at ok
  split at ok
  · exact decisionFromResumePolicy_dispatches ok
  · obtain ⟨transition, -, rest⟩ := bind_eq_ok.mp ok
    split at rest
    · split_ifs at rest
      · exact runStageDecision_dispatches rest
      · exact recoveryEdgeDecision_dispatches rest
      · exact runStageDecision_dispatches rest
    · exact executionTerminalDecision_dispatches rest

theorem planningWithin_dispatches (ok : routePlanningWithinThresholds graph s r = .ok d) : Dispatches graph d := by
  unfold routePlanningWithinThresholds at ok
  split at ok
  · exact decisionFromResumePolicy_dispatches ok
  · obtain ⟨transition, -, rest⟩ := bind_eq_ok.mp ok
    split at rest
    · split_ifs at rest
      · exact recoveryEdgeDecision_dispatches rest
      · exact runStageDecision_dispatches rest
    · exact planningTerminalDecision_dispatches rest

theorem execution_dispatches (ok : routeExecutionStageResult graph s r counters = .ok d) : Dispatches graph d := by
  unfold routeExecutionStageResult at ok
  split at ok
  · obtain ⟨failure, -, rest⟩ := bind_eq_ok.mp ok
    exact decisionFromThresholdResolution_dispatches rest
  · split_ifs at ok
    · obtain ⟨failure, -, rest⟩ := bind_eq_ok.mp ok
      obtain ⟨reached, -, rest⟩ := bind_eq_ok.mp rest
      cases reached with
      | some policy => exact decisionFromThresholdResolution_dispatches rest
      | none => exact executionWithin_dispatches rest
    · exact executionWithin_dispatches ok

theorem planning_dispatches (ok : routePlanningStageResult graph s r counters = .ok d) : Dispatches graph d := by
  unfold routePlanningStageResult at ok
  split_ifs at ok
  · obtain ⟨failure, -, rest⟩ := bind_eq_ok.mp ok
    obtain ⟨reached, -, rest⟩ := bind_eq_ok.mp rest
    cases reached with
    | some policy => exact decisionFromThresholdResolution_dispatches rest
    | none => exact planningWithin_dispatches rest
  · exact planningWithin_dispatches ok

theorem learning_dispatches (ok : routeLearningStageResult graph r = .ok d) : Dispatches graph d := by
  unfold routeLearningStageResult at ok
  obtain ⟨transition, -, rest⟩ := bind_eq_ok.mp ok
  split at rest
  · exact runStageDecision_dispatches rest
  · split_ifs at rest
    all_goals
      obtain rfl := pure_eq_ok.mp rest
      exact dispatches_of_ends (by decide)

theorem route_dispatches {plan : CompiledRunPlan} (graphOf : graphForPlane plan r.plane = .ok graph)
    (routed : routeStageResultFromGraph plan s r counters = .ok d) : Dispatches graph d := by
  obtain ⟨_, -, rest⟩ := bind_eq_ok.mp routed
  rw [graphOf, ok_bind] at rest
  split at rest
  · exact execution_dispatches rest
  · exact planning_dispatches rest
  · exact learning_dispatches rest

end Dispatches

end Routing

/-! ## Ownership -/

/-- A stage that routing runs is at a node of the graph that the resume policy allows, and may own the run's item, so
that the guard lets the next run through. -/
def OwnershipPreserved (graph : FrozenGraphPlanePlan) (s : RuntimeSnapshot) (r : StageResultEnvelope)
    (counters : RecoveryCounters) (run : ScheduledRun) (kind : WorkItemKind) (d : RouterDecision) : Prop :=
  d.action = .runStage → ∃ node ∈ graph.nodes, ∃ stage,
    d.nextNodeId = some node.nodeId ∧ d.nextStage = some stage ∧
    (∀ policy, resumesBy graph s r counters = some policy → node.nodeId ∉ policy.disallowedTargetNodeIds) ∧
    stageAllowsWorkItemKind stage kind = true ∧
    ∀ now next, advanceRun run r d now = some next → stageWorkItemOwnershipViolation next = none

/-- Routing preserves the ownership of a run's item exactly when the node that it is led to is suitable. -/
theorem routing_preserves_ownership_iff {plan : CompiledRunPlan} {graph : FrozenGraphPlanePlan} {s : RuntimeSnapshot}
    {r : StageResultEnvelope} {counters : RecoveryCounters} {run : ScheduledRun} {kind : WorkItemKind}
    {d : RouterDecision} (owns : OwnsWorkItem run kind) (graphOf : graphForPlane plan r.plane = .ok graph)
    (routed : routeStageResultFromGraph plan s r counters = .ok d) :
    OwnershipPreserved graph s r counters run kind d ↔ Suited graph s r counters kind := by
  have dispatched := route_dispatches graphOf routed
  have leads : ∀ target, d.Runs target ↔ RouterLeadsTo graph s r counters target :=
    fun target => route_runs graphOf routed
  rw [suited_iff]
  simp only [← leads]
  constructor
  · rintro preserved target ⟨runs, named⟩
    obtain ⟨node, member, stage, isNode, isStage, allowed, owned, -⟩ := preserved runs
    obtain ⟨_, found, at_, isTarget, nextStage⟩ := dispatched runs
    obtain rfl := Option.some.inj (named.symm.trans isNode)
    obtain rfl := Option.some.inj (named.symm.trans isTarget)
    refine ⟨fun other again => ?_, allowed⟩
    obtain rfl := Except.ok.inj (at_.symm.trans again)
    obtain rfl := Option.some.inj (isStage.symm.trans nextStage)
    exact owned
  · intro suited runs
    obtain ⟨target, found, at_, isTarget, nextStage⟩ := dispatched runs
    obtain ⟨suits, allowed⟩ := suited target ⟨runs, isTarget⟩
    have owned := suits found at_
    unfold stageAt at at_
    obtain ⟨node, looked, rest⟩ := bind_eq_ok.mp at_
    obtain ⟨stage, -, same⟩ := bind_eq_ok.mp rest
    obtain rfl := pure_eq_ok.mp same
    obtain ⟨first, rfl⟩ := nodePlanById_ok looked
    refine ⟨node, List.mem_of_find?_eq_some first, stage, isTarget, nextStage, allowed, owned, ?_⟩
    intro now next advanced
    unfold advanceRun at advanced
    split_ifs at advanced
    rw [nextStage] at advanced
    obtain rfl := Option.some.inj advanced
    apply (owns.violation_iff _ _ _).mpr owned
    all_goals rfl

/-! ## The standard mode -/

def onPlanningLane (run : ActiveRunState) : ScheduledRun where
  toActiveRunState := run
  laneId := "planning.main"
  workItemFamilyId := some "spec"
  closureTargetRootIdeaId := none
  runningStatusMarker := none

/-- A spec that its planner finished passes on to the manager. -/
theorem planner_ownership_preserved : OwnershipPreserved standardPlanningGraph plannerSnapshot
    (plannerResult .plannerComplete) [] (onPlanningLane plannerRun) .spec plannerToManager ↔
      Suited standardPlanningGraph plannerSnapshot (plannerResult .plannerComplete) [] .spec :=
  @routing_preserves_ownership_iff standardPlan _ _ _ _ _ _ _ ⟨rfl, by decide, by decide⟩ rfl (by decide +kernel)

def mechanicRun : ActiveRunState where
  plane := .planning
  stage := .mechanic
  nodeId := "mechanic"
  stageKindId := "mechanic"
  runId := "run-planning"
  requestKind := .activeWorkItem
  workItemKind := some .spec
  workItemId := some "spec-1"
  closureTargetRootSpecId := none
  activeSince := "2026-01-01T00:00:00Z"

/-- A mechanic asks to resume a spec at the stage for probes. -/
def resumeAtRecon : StageResultEnvelope where
  runId := "run-planning"
  plane := .planning
  stage := .mechanic
  nodeId := "mechanic"
  stageKindId := "mechanic"
  workItemKind := .spec
  workItemId := "spec-1"
  terminalResult := .planning .mechanicComplete
  metadata := [("resume_stage", .text "recon")]
  ofPlane := rfl

def toRecon : RouterDecision where
  action := .runStage
  nextPlane := some .planning
  nextStage := some .recon
  reason := "mechanic_complete"
  nextNodeId := some "recon"
  nextStageKindId := some "recon"
  failureClass := none
  counterKey := none
  createIncident := false

def mechanicSnapshot : RuntimeSnapshot :=
  .started fun plane => if plane = .planning then some mechanicRun else none

theorem spec_routed_to_recon : ¬∀ (plan : CompiledRunPlan) (graph : FrozenGraphPlanePlan) (s : RuntimeSnapshot)
    (r : StageResultEnvelope) (counters : RecoveryCounters) (run : ScheduledRun) (kind : WorkItemKind)
    (d : RouterDecision), activeRunForPlane s r.plane = some run.toActiveRunState → OwnsWorkItem run kind →
    graphForPlane plan r.plane = .ok graph → routeStageResultFromGraph plan s r counters = .ok d →
    OwnershipPreserved graph s r counters run kind d := by
  intro preserves
  have routed : routeStageResultFromGraph standardPlan mechanicSnapshot resumeAtRecon [] = .ok toRecon := by
    decide +kernel
  have preserved := preserves standardPlan standardPlanningGraph mechanicSnapshot resumeAtRecon []
    (onPlanningLane mechanicRun) .spec toRecon (by decide) ⟨rfl, by decide, by decide⟩ rfl routed
  obtain ⟨node, -, stage, -, isRecon, -, owned, -⟩ := preserved rfl
  obtain rfl := Option.some.inj isRecon
  exact absurd owned (by decide)

end Millrace.Runtime

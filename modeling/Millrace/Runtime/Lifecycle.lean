import Millrace.Runtime.Decisions
import Millrace.Runtime.Standard

/-! What a terminal decision does to its source item: the lifecycle intent that the compiled plan gives, and when it is
the one that the decision needs. -/

set_option autoImplicit false

namespace Millrace.Runtime
open Millrace.Text Millrace.Contracts Millrace.Action

/-! ## The intent -/

structure SourceLifecycleIntent where
  lifecyclePlanId : String
  action : SourceLifecycleAction
  workItemFamilyId : Option String
  workItemKind : Option WorkItemKind
  workItemId : String
  reason : Option String
  deriving DecidableEq, Repr

def SourceLifecycleIntent.forBuiltin (lifecyclePlanId : String) (action : SourceLifecycleAction)
    (workItemKind : WorkItemKind) (workItemId : String) : SourceLifecycleIntent where
  lifecyclePlanId := lifecyclePlanId
  action := action
  workItemFamilyId := some (asStr workItemKind)
  workItemKind := some workItemKind
  workItemId := workItemId
  reason := none

def SourceLifecycleIntent.withReason (intent : SourceLifecycleIntent) (reason : String) : SourceLifecycleIntent :=
  { intent with reason := some reason }

def stagePlanForActiveState (plan : CompiledRunPlan) (plane : Plane) (stage : StageName) (nodeId : Option String) :
    TickResult MaterializedGraphNodePlan := do
  let graph ← graphForPlane plan plane
  match nodeId.bind fun id => graph.nodes.find? fun node => node.nodeId == id with
  | some node => return node
  | none =>
    match graph.nodes.find? fun node => (stageNameForPlane plane node.stageKindId).toOption == some stage with
    | some node => return node
    | none => throw (.missingStagePlan plane stage)

def lifecycleActionOf : String → Option SourceLifecycleAction
  | "complete" => some .complete
  | "block" => some .block
  | "requeue" => some .requeue
  | _ => none

def sourceLifecycleIntentForStageResult (plan : CompiledRunPlan) (r : StageResultEnvelope) :
    TickResult SourceLifecycleIntent := do
  let stagePlan ← stagePlanForActiveState plan r.plane r.stage (some r.nodeId)
  match stagePlan.terminalActionMappings.lookup r.outcome with
  | none => throw (.missingTerminalAction stagePlan.nodeId r.outcome)
  | some actionId =>
    match plan.workflowPrimitives.terminalActions.find? fun action => action.terminalActionId == actionId with
    | none => throw (.unknownTerminalAction actionId)
    | some terminalAction =>
      if terminalAction.nonMutating then throw (.nonMutatingAction actionId r.workItemId)
      else match terminalAction.lifecycleMutationPlanId with
        | none => throw (.actionWithoutLifecyclePlan actionId)
        | some lifecyclePlanId =>
          match plan.workflowPrimitives.lifecycleMutationPlans.find? fun p => p.planId == lifecyclePlanId with
          | none => throw (.unknownLifecyclePlan actionId lifecyclePlanId)
          | some lifecyclePlan =>
            match lifecyclePlan.lifecycleActionId with
            | none => throw (.missingLifecycleAction lifecyclePlanId)
            | some lifecycleActionId =>
              match lifecycleActionOf lifecycleActionId with
              | none => throw (.unsupportedLifecycleAction lifecycleActionId lifecyclePlanId)
              | some action =>
                return (SourceLifecycleIntent.forBuiltin lifecyclePlanId action r.workItemKind r.workItemId).withReason
                  ("runtime terminal action " ++ actionId ++ " for " ++ r.outcome)

/-- The intent that applying a decision hands to the queue, which has to be the decision's own. -/
def compiledSourceLifecycleIntent (plan : CompiledRunPlan) (r : StageResultEnvelope)
    (expected : SourceLifecycleAction) : TickResult SourceLifecycleIntent := do
  let intent ← sourceLifecycleIntentForStageResult plan r
  if intent.action ≠ expected then throw (.unexpectedLifecycleAction intent.action expected)
  return intent

/-- What applying a decision does to the source item; a run of another stage leaves it active. -/
def RouterAction.lifecycle : RouterAction → Option SourceLifecycleAction
  | .runStage => none
  | .idle => some .complete
  | .handoff | .blocked => some .block

/-! ## What the compiler's mappings hold -/

section Mappings
variable (primitives : CompiledWorkflowPrimitiveBundle) (nodeId : String)

/-- The lifecycle plan of the last effect rule that has one. -/
def lastPlan (rules : List RuntimeEffectRuleDefinition) : Option String :=
  (rules.filterMap (·.lifecycleMutationPlanId)).getLast?

/-- The class of the first edge of an outcome that leads to a terminal state. -/
def firstTerminalClass (terminalStates : List GraphLoopTerminalStateDefinition) (outcome : String)
    (transitions : List CompiledGraphTransitionPlan) : Option GraphLoopTerminalClass :=
  transitions.findSome? fun transition =>
    if transition.sourceNodeId = nodeId ∧ transition.outcome = outcome then
      transition.terminalStateId.bind (terminalClassById terminalStates)
    else none

/-- The action of an outcome by the plan's tables: the effect rules first, then the terminal edges. -/
def terminalActionFor (terminalStates : List GraphLoopTerminalStateDefinition)
    (transitions : List CompiledGraphTransitionPlan) (outcome : String) : Option String :=
  match lastPlan (rulesFor primitives nodeId outcome) with
  | some planId => terminalActionForLifecyclePlan primitives planId
  | none =>
    (firstTerminalClass nodeId terminalStates outcome transitions).bind fun terminalClass =>
      terminalActionForClass primitives terminalClass.asStr

variable {primitives nodeId} {mappings mapped : List (String × String)}

theorem lookup_insertMapping (mappings : List (String × String)) (outcome actionId other : String) :
    (insertMapping mappings outcome actionId).lookup other =
      if other = outcome then some actionId else mappings.lookup other := by
  unfold insertMapping
  rw [List.lookup_cons]
  by_cases same : other = outcome
  · simp [same]
  · simp only [beq_eq_false_iff_ne.mpr same, if_neg same]
    induction mappings with
    | nil => rfl
    | cons entry rest ih =>
      obtain ⟨key, actionId'⟩ := entry
      by_cases kept : key = outcome
      · have skipped : (other == key) = false := by simpa [kept] using same
        rw [List.filter_cons_of_neg (by simpa using kept), ih, List.lookup_cons, skipped]
      · rw [List.filter_cons_of_pos (by simpa using kept), List.lookup_cons, List.lookup_cons, ih]

theorem lookup_mapOutcome {outcome : String} {rules : List RuntimeEffectRuleDefinition}
    (ok : mapOutcome primitives outcome mappings rules = .ok mapped) (other : String) :
    mapped.lookup other =
      if other = outcome then (lastPlan rules).elim (mappings.lookup other) (terminalActionForLifecyclePlan primitives)
      else mappings.lookup other := by
  induction rules generalizing mappings with
  | nil =>
    obtain rfl := Except.ok.inj ok
    simp [lastPlan]
  | cons rule rest ih =>
    unfold mapOutcome at ok
    split at ok
    next none =>
      rw [ih ok]
      simp [lastPlan, none]
    next planId some =>
      split at ok
      · cases ok
      next actionId found =>
        rw [ih ok, lookup_insertMapping]
        by_cases same : other = outcome
        · simp only [same, if_true, lastPlan, List.filterMap_cons, some, List.getLast?_cons, Option.elim_some]
          cases (rest.filterMap (·.lifecycleMutationPlanId)).getLast? with
          | none => simp [found]
          | some later => rfl
        · simp [same]

theorem lookup_mapRules {outcomes : List String} (ok : mapRules primitives nodeId mappings outcomes = .ok mapped)
    (other : String) :
    mapped.lookup other =
      if other ∈ outcomes then
        (lastPlan (rulesFor primitives nodeId other)).elim (mappings.lookup other)
          (terminalActionForLifecyclePlan primitives)
      else mappings.lookup other := by
  induction outcomes generalizing mappings with
  | nil =>
    obtain rfl := Except.ok.inj ok
    simp
  | cons outcome rest ih =>
    obtain ⟨first, ok, later⟩ := bind_eq_ok.mp ok
    rw [ih later, lookup_mapOutcome ok]
    by_cases same : other = outcome
    · subst same
      simp only [if_true, List.mem_cons, true_or]
      cases lastPlan (rulesFor primitives nodeId other) with
      | none => simp
      | some planId => simp
    · simp [same]

/-- The compiler refuses a rule whose lifecycle plan has no terminal action. -/
theorem mapOutcome_action {outcome : String} {rules : List RuntimeEffectRuleDefinition}
    (ok : mapOutcome primitives outcome mappings rules = .ok mapped) {rule : RuntimeEffectRuleDefinition}
    (member : rule ∈ rules) {planId : String} (has : rule.lifecycleMutationPlanId = some planId) :
    ∃ actionId, terminalActionForLifecyclePlan primitives planId = some actionId := by
  induction rules generalizing mappings with
  | nil => cases member
  | cons first rest ih =>
    unfold mapOutcome at ok
    split at ok
    next none =>
      obtain rfl | later := List.mem_cons.mp member
      · simp [has] at none
      · exact ih ok later
    next planId' some =>
      split at ok
      · cases ok
      next actionId found =>
        obtain rfl | later := List.mem_cons.mp member
        · rw [has] at some
          obtain rfl := Option.some.inj some
          exact ⟨actionId, found⟩
        · exact ih ok later

theorem mapRules_action {outcomes : List String} (ok : mapRules primitives nodeId mappings outcomes = .ok mapped)
    {outcome planId : String} (member : outcome ∈ outcomes)
    (last : lastPlan (rulesFor primitives nodeId outcome) = some planId) :
    ∃ actionId, terminalActionForLifecyclePlan primitives planId = some actionId := by
  induction outcomes generalizing mappings with
  | nil => cases member
  | cons first rest ih =>
    obtain ⟨between, ok, later⟩ := bind_eq_ok.mp ok
    obtain rfl | later' := List.mem_cons.mp member
    · obtain ⟨rule, member, has⟩ := List.mem_filterMap.mp (List.mem_of_getLast? last)
      exact mapOutcome_action ok member has
    · exact ih later later'

theorem firstTerminalClass_cons (terminalStates : List GraphLoopTerminalStateDefinition) (outcome : String)
    (transition : CompiledGraphTransitionPlan) (rest : List CompiledGraphTransitionPlan) :
    firstTerminalClass nodeId terminalStates outcome (transition :: rest) =
      if transition.sourceNodeId = nodeId ∧ transition.outcome = outcome then
        (transition.terminalStateId.bind (terminalClassById terminalStates)).or
          (firstTerminalClass nodeId terminalStates outcome rest)
      else firstTerminalClass nodeId terminalStates outcome rest := by
  by_cases leaves : transition.sourceNodeId = nodeId ∧ transition.outcome = outcome
  · simp only [firstTerminalClass, List.findSome?_cons, if_pos leaves]
    cases transition.terminalStateId.bind (terminalClassById terminalStates) <;> rfl
  · simp only [firstTerminalClass, List.findSome?_cons, if_neg leaves]

theorem lookup_mapTransitions {terminalStates : List GraphLoopTerminalStateDefinition}
    {transitions : List CompiledGraphTransitionPlan}
    (ok : mapTransitions primitives nodeId terminalStates mappings transitions = .ok mapped) (outcome : String) :
    mapped.lookup outcome = (mappings.lookup outcome).or
      ((firstTerminalClass nodeId terminalStates outcome transitions).bind fun terminalClass =>
        terminalActionForClass primitives terminalClass.asStr) := by
  induction transitions generalizing mappings with
  | nil =>
    obtain rfl := Except.ok.inj ok
    simp [firstTerminalClass]
  | cons transition rest ih =>
    unfold mapTransitions at ok
    rw [firstTerminalClass_cons]
    split at ok
    next passed =>
      rw [ih ok]
      cases here : mappings.lookup outcome with
      | some actionId => rfl
      | none =>
        have other : ¬(transition.sourceNodeId = nodeId ∧ transition.outcome = outcome) := by
          rintro ⟨source, same⟩
          obtain away | mapped := passed
          · exact away source
          · simp [same, here] at mapped
        rw [if_neg other]
    next taken =>
      obtain ⟨source, unmapped⟩ := not_or.mp taken
      simp only [not_not] at source
      rw [Bool.not_eq_true, Option.isSome_eq_false_iff, Option.isNone_iff_eq_none] at unmapped
      split at ok
      next none =>
        rw [ih ok]
        simp [none]
      next terminalStateId some =>
        split at ok
        next none =>
          rw [ih ok]
          simp [some, none]
        next terminalClass classOf =>
          split at ok
          · cases ok
          next actionId found =>
            rw [ih ok, lookup_insertMapping]
            by_cases same : outcome = transition.outcome
            · subst same
              simp [unmapped, source, some, classOf, found]
            · simp [same, Ne.symm same]

theorem lastPlan_outside {outcome : String} (outside : outcome ∉ ruleOutcomes primitives nodeId) :
    lastPlan (rulesFor primitives nodeId outcome) = none := by
  have empty : rulesFor primitives nodeId outcome = [] := by
    refine List.filter_eq_nil_iff.mpr fun rule member names => outside ?_
    simp only [Bool.and_eq_true, beq_iff_eq, List.contains_eq_mem, decide_eq_true_eq] at names
    simp only [ruleOutcomes, List.mem_insertionSort, List.mem_dedup, List.mem_flatMap, List.mem_filter, beq_iff_eq]
    exact ⟨rule, ⟨member, names.1⟩, names.2⟩
  rw [empty]
  rfl

theorem lookup_terminalActionMappings {terminalStates : List GraphLoopTerminalStateDefinition}
    {transitions : List CompiledGraphTransitionPlan}
    (ok : terminalActionMappingsForNode primitives nodeId terminalStates transitions = .ok mappings)
    (outcome : String) :
    mappings.lookup outcome = terminalActionFor primitives nodeId terminalStates transitions outcome := by
  obtain ⟨byRules, ok, edges⟩ := bind_eq_ok.mp ok
  have rules : byRules.lookup outcome =
      (lastPlan (rulesFor primitives nodeId outcome)).bind (terminalActionForLifecyclePlan primitives) := by
    rw [lookup_mapRules ok]
    by_cases member : outcome ∈ ruleOutcomes primitives nodeId
    · rw [if_pos member]
      cases lastPlan (rulesFor primitives nodeId outcome) <;> rfl
    · rw [if_neg member, lastPlan_outside member]
      rfl
  rw [lookup_mapTransitions edges, rules, terminalActionFor]
  cases last : lastPlan (rulesFor primitives nodeId outcome) with
  | none => rfl
  | some planId =>
    have member : outcome ∈ ruleOutcomes primitives nodeId := by
      by_contra outside
      simp [lastPlan_outside outside] at last
    obtain ⟨actionId, found⟩ := mapRules_action ok member last
    simp [found]

end Mappings

/-! ## What the plan does to the source item -/

def lifecycleOfAction (primitives : CompiledWorkflowPrimitiveBundle) (actionId : String) :
    Option SourceLifecycleAction := do
  let action ← primitives.terminalActions.find? fun action => action.terminalActionId == actionId
  guard (action.nonMutating = false)
  let planId ← action.lifecycleMutationPlanId
  let plan ← primitives.lifecycleMutationPlans.find? fun plan => plan.planId == planId
  lifecycleActionOf (← plan.lifecycleActionId)

/-- The lifecycle action that the effect rules and the terminal edges select for an outcome of a node. -/
def lifecycleFor (primitives : CompiledWorkflowPrimitiveBundle) (graph : FrozenGraphPlanePlan)
    (nodeId outcome : String) : Option SourceLifecycleAction :=
  (terminalActionFor primitives nodeId graph.terminalStates graph.compiledTransitions outcome).bind
    (lifecycleOfAction primitives)

section Intent
variable {plan : CompiledRunPlan} {r : StageResultEnvelope} {graph : FrozenGraphPlanePlan}

theorem graphForPlane_mem {plane : Plane} (graphOf : graphForPlane plan plane = .ok graph) :
    graph ∈ plan.executionGraph :: plan.planningGraph :: plan.learningGraph.toList := by
  unfold graphForPlane at graphOf
  split at graphOf
  · obtain rfl := Except.ok.inj graphOf
    simp
  · obtain rfl := Except.ok.inj graphOf
    simp
  · split at graphOf
    next learning is =>
      obtain rfl := Except.ok.inj graphOf
      simp [is]
    next => cases graphOf

theorem stagePlan_known (graphOf : graphForPlane plan r.plane = .ok graph)
    (known : ∃ node ∈ graph.nodes, node.nodeId = r.nodeId) :
    ∃ node ∈ graph.nodes, node.nodeId = r.nodeId ∧
      stagePlanForActiveState plan r.plane r.stage (some r.nodeId) = .ok node := by
  obtain ⟨candidate, member, same⟩ := known
  cases found : graph.nodes.find? fun node => node.nodeId == r.nodeId with
  | none => exact absurd (List.find?_eq_none.mp found candidate member) (by simp [same])
  | some node =>
    refine ⟨node, List.mem_of_find?_eq_some found, by simpa using List.find?_some found, ?_⟩
    simp [stagePlanForActiveState, graphOf, found, pure, Except.pure]

theorem intent_iff (graphOf : graphForPlane plan r.plane = .ok graph)
    (known : ∃ node ∈ graph.nodes, node.nodeId = r.nodeId) (action : SourceLifecycleAction) :
    (∃ intent, sourceLifecycleIntentForStageResult plan r = .ok intent ∧ intent.action = action) ↔
      lifecycleFor plan.workflowPrimitives graph r.nodeId r.outcome = some action := by
  obtain ⟨node, member, named, placed⟩ := stagePlan_known graphOf known
  have mapped := lookup_terminalActionMappings (plan.mapped graph (graphForPlane_mem graphOf) node member) r.outcome
  rw [named] at mapped
  rw [lifecycleFor, ← mapped, sourceLifecycleIntentForStageResult, placed, ok_bind]
  cases node.terminalActionMappings.lookup r.outcome with
  | none => simp [throw, throwThe, MonadExceptOf.throw]
  | some actionId =>
    simp only [Option.bind_some, lifecycleOfAction]
    cases plan.workflowPrimitives.terminalActions.find? fun action => action.terminalActionId == actionId with
    | none => simp [throw, throwThe, MonadExceptOf.throw]
    | some terminalAction =>
      simp only [Option.bind_eq_bind, Option.bind_some]
      by_cases inert : terminalAction.nonMutating = true
      · simp [inert, throw, throwThe, MonadExceptOf.throw]
      · simp only [Bool.not_eq_true] at inert
        simp only [inert, guard_true, Option.pure_def, Option.bind_some]
        cases terminalAction.lifecycleMutationPlanId with
        | none => simp [throw, throwThe, MonadExceptOf.throw]
        | some planId =>
          simp only [Option.bind_some]
          cases plan.workflowPrimitives.lifecycleMutationPlans.find? fun p => p.planId == planId with
          | none => simp [throw, throwThe, MonadExceptOf.throw]
          | some lifecyclePlan =>
            simp only [Option.bind_some]
            cases lifecyclePlan.lifecycleActionId with
            | none => simp [throw, throwThe, MonadExceptOf.throw]
            | some lifecycleActionId =>
              simp only [Option.bind_some]
              cases lifecycleActionOf lifecycleActionId with
              | none => simp [throw, throwThe, MonadExceptOf.throw]
              | some action =>
                simp [pure, Except.pure, SourceLifecycleIntent.forBuiltin, SourceLifecycleIntent.withReason]

end Intent

/-! ## What the decision needs -/

section Need
variable (graph : FrozenGraphPlanePlan) (s : RuntimeSnapshot) (r : StageResultEnvelope) (counters : RecoveryCounters)

/-- The threshold policy that the state has exhausted for this result. -/
def exhaustedPolicy : TickResult (Option CompiledGraphThresholdPolicyPlan) :=
  match r.plane with
  | .execution =>
    match exhaustedFixCycles graph s r with
    | some policy => do
      let _ ← resolveFailureClass s r "fix_cycle_exhausted"
      return some policy
    | none =>
      if r.outcome = "BLOCKED" ∧ r.stageKindId ≠ "consultant" then do
        let failureClass ← resolveFailureClass s r (blockedReason r)
        exhaustedAttempts graph s r counters .execution .troubleshootAttemptCount failureClass
      else return none
  | .planning =>
    if r.outcome = "BLOCKED" then do
      let failureClass ← resolveFailureClass s r (blockedReason r)
      exhaustedAttempts graph s r counters .planning .mechanicAttemptCount failureClass
    else return none
  | .learning => return none

/-- An exhausted policy that ends at a terminal state blocks the item. -/
def exhaustedNeed (policy : CompiledGraphThresholdPolicyPlan) : Option SourceLifecycleAction :=
  match policy.exhaustedTargetNodeId with
  | some _ => none
  | none =>
    match policy.exhaustedTerminalStateId.bind fun id => (terminalStateById graph id).toOption with
    | some state => if state.terminalClass = .blocked then some .block else none
    | none => none

/-- What the end of a stage kind's own outcome does to the item. -/
def endNeed : Option SourceLifecycleAction :=
  match r.plane with
  | .execution =>
    if r.stageKindId = "updater" ∧ r.outcome = "UPDATE_COMPLETE" then some .complete
    else if r.stageKindId = "consultant" ∧ (r.outcome = "NEEDS_PLANNING" ∨ r.outcome = "BLOCKED") then some .block
    else none
  | .planning =>
    if r.stageKindId = "recon" then
      if r.outcome ∈ ["RECON_TO_EXECUTION", "RECON_TO_PLANNING", "RECON_NOOP"] then some .complete
      else if r.outcome ∈ ["RECON_BLOCKED", "BLOCKED"] then some .block
      else none
    else if r.stageKindId = "arbiter" then
      if r.outcome = "ARBITER_COMPLETE" then some .complete
      else if r.outcome ∈ ["REMEDIATION_NEEDED", "BLOCKED"] then some .block
      else none
    else if (r.stageKindId, r.outcome) ∈ [("manager", "MANAGER_COMPLETE"),
        ("manager_blueprint", "MANAGER_BLUEPRINT_COMPLETE"), ("evaluator_blueprint", "BLUEPRINT_APPROVED")] then
      some .complete
    else none
  | .learning => if r.outcome = "BLOCKED" then some .block else some .complete

/-- A terminal edge of the node ends the stage kind's outcome; a learning graph has no resume policies. -/
def edgeNeed : Option SourceLifecycleAction :=
  if r.plane ≠ .learning ∧ (resumePolicyForSource graph r.nodeId r.outcome).isSome then none
  else match transitionForSource graph r.nodeId r.outcome with
    | .ok transition => if transition.targetNodeId = none then endNeed r else none
    | .error _ => none

def terminalNeed (reached : Option CompiledGraphThresholdPolicyPlan) : Option SourceLifecycleAction :=
  reached.elim (edgeNeed graph r) (exhaustedNeed graph)

end Need

/-! ## The decisions that end a run -/

/-- The routing gives a decision that ends the run with this action on its source item. -/
def Ends (routed : TickResult RouterDecision) (action : SourceLifecycleAction) : Prop :=
  ∃ d, routed = .ok d ∧ d.action.lifecycle = some action

section Ends
variable {graph : FrozenGraphPlanePlan} {s : RuntimeSnapshot} {r : StageResultEnvelope} {counters : RecoveryCounters}
variable {action : SourceLifecycleAction}

@[simp] theorem ends_ok {d : RouterDecision} : Ends (.ok d) action ↔ d.action.lifecycle = some action := by
  simp [Ends]

@[simp] theorem ends_error {e : RuntimeTickError} : ¬Ends (.error e) action := by
  simp [Ends]

theorem ends_bind {α : Type} {x : TickResult α} {f : α → TickResult RouterDecision} :
    Ends (x >>= f) action ↔ ∃ a, x = .ok a ∧ Ends (f a) action := by
  cases x with
  | error e => simp
  | ok a => simp

@[simp] theorem ends_runStage {target reason : String} {failureClass counterKey : Option String} :
    ¬Ends (runStageDecision graph target reason failureClass counterKey) action := by
  rintro ⟨d, ok, ends⟩
  obtain ⟨found, -, rfl⟩ := runStageDecision_ok.mp ok
  simp [stageDecision, RouterAction.lifecycle] at ends

@[simp] theorem ends_resume {policy : CompiledGraphResumePolicyPlan} :
    ¬Ends (decisionFromResumePolicy graph r policy) action := by
  unfold decisionFromResumePolicy
  simp only
  split
  · simp
  · split
    · simp
    · split
      · simp
      · simp

@[simp] theorem ends_recoveryEdge {target : String} : ¬Ends (recoveryEdgeDecision graph s r target) action := by
  intro ends
  obtain ⟨failureClass, -, ends⟩ := ends_bind.mp ends
  obtain ⟨key, -, ends⟩ := ends_bind.mp ends
  exact ends_runStage ends

@[simp] theorem lifecycle_idle (reason : String) : (idleDecision reason).action.lifecycle = some .complete := rfl

@[simp] theorem lifecycle_blocked (reason : String) (failureClass counterKey : Option String) :
    (blockedDecision reason failureClass counterKey).action.lifecycle = some .block := rfl

@[simp] theorem lifecycle_handoff (reason : String) (failureClass : Option String) :
    (handoffDecision reason failureClass).action.lifecycle = some .block := rfl

theorem ends_exhausted {policy : CompiledGraphThresholdPolicyPlan} {failureClass reason : String}
    {key : Option String} :
    Ends (exhaustedDecision graph policy failureClass reason key) action ↔
      exhaustedNeed graph policy = some action := by
  unfold exhaustedDecision exhaustedNeed
  cases policy.exhaustedTargetNodeId with
  | some target => simp
  | none =>
    cases policy.exhaustedTerminalStateId with
    | none => simp
    | some terminalStateId =>
      simp only [Option.bind_some]
      cases terminalStateById graph terminalStateId with
      | error e => simp [Except.toOption]
      | ok state =>
        simp only [Except.toOption]
        split
        next => simp_all
        next blocked =>
          rw [not_not] at blocked
          simp [blocked]

theorem ends_threshold {policy : CompiledGraphThresholdPolicyPlan} {failureClass reason : String}
    (normal : normalizeFailureClass failureClass = .ok failureClass) :
    Ends (decisionFromThresholdResolution graph s policy failureClass reason) action ↔
      exhaustedNeed graph policy = some action := by
  rw [decisionFromThresholdResolution_eq s normal, ends_exhausted]

theorem ends_executionTerminal (plane : r.plane = .execution) :
    Ends (executionTerminalDecision s r) action ↔ endNeed r = some action := by
  unfold executionTerminalDecision endNeed
  rw [plane]
  simp only
  by_cases updated : r.stageKindId = "updater" ∧ r.outcome = "UPDATE_COMPLETE"
  · simp [updated]
  · rw [if_neg updated, if_neg updated]
    by_cases planning : r.stageKindId = "consultant" ∧ r.outcome = "NEEDS_PLANNING"
    · simp [planning]
    · rw [if_neg planning]
      by_cases blocked : r.stageKindId = "consultant" ∧ r.outcome = "BLOCKED"
      · simp [blocked]
      · rw [if_neg blocked, if_neg (by tauto)]
        simp

theorem ends_planningTerminal (plane : r.plane = .planning) :
    Ends (planningTerminalDecision s r) action ↔ endNeed r = some action := by
  unfold planningTerminalDecision endNeed
  rw [plane]
  by_cases recon : r.stageKindId = "recon"
  · simp only [recon, true_and, if_true, List.mem_cons, List.not_mem_nil, or_false]
    by_cases ended : r.outcome = "RECON_TO_EXECUTION" ∨ r.outcome = "RECON_TO_PLANNING" ∨ r.outcome = "RECON_NOOP"
    · obtain is | is | is := ended <;> simp [is]
    · obtain ⟨toExecution, toPlanning, noop⟩ : _ ∧ _ ∧ _ := by simpa [not_or] using ended
      by_cases blocked : r.outcome = "RECON_BLOCKED" ∨ r.outcome = "BLOCKED"
      · simp [toExecution, toPlanning, noop, blocked]
      · simp [toExecution, toPlanning, noop, blocked]
  · by_cases arbiter : r.stageKindId = "arbiter"
    · by_cases complete : r.outcome = "ARBITER_COMPLETE"
      · simp [arbiter, complete]
      · by_cases remediation : r.outcome = "REMEDIATION_NEEDED"
        · simp [arbiter, remediation]
        · by_cases blocked : r.outcome = "BLOCKED"
          · simp [arbiter, blocked]
          · simp [arbiter, complete, remediation, blocked]
    · simp only [recon, arbiter, false_and, if_false, List.mem_cons, Prod.mk.injEq, List.not_mem_nil, or_false]
      split
      next manager => simp [manager]
      next notManager =>
        split
        next blueprint => simp [blueprint]
        next notBlueprint =>
          split
          next approved => simp [approved]
          next notApproved => simp [notManager, notBlueprint, notApproved]

theorem ends_executionWithin (plane : r.plane = .execution) :
    Ends (routeExecutionWithinThresholds graph s r) action ↔ edgeNeed graph r = some action := by
  unfold routeExecutionWithinThresholds edgeNeed
  cases resumePolicyForSource graph r.nodeId r.outcome with
  | some policy => simp [plane]
  | none =>
    cases transitionForSource graph r.nodeId r.outcome with
    | error e => simp
    | ok transition =>
      cases leads : transition.targetNodeId with
      | none => simp [leads, ends_executionTerminal plane]
      | some target =>
        refine iff_of_false ?_ (by simp [leads])
        simp only [ok_bind, leads]
        repeat' split
        all_goals simp

theorem ends_planningWithin (plane : r.plane = .planning) :
    Ends (routePlanningWithinThresholds graph s r) action ↔ edgeNeed graph r = some action := by
  unfold routePlanningWithinThresholds edgeNeed
  cases resumePolicyForSource graph r.nodeId r.outcome with
  | some policy => simp [plane]
  | none =>
    cases transitionForSource graph r.nodeId r.outcome with
    | error e => simp
    | ok transition =>
      cases leads : transition.targetNodeId with
      | none => simp [leads, ends_planningTerminal plane]
      | some target =>
        refine iff_of_false ?_ (by simp [leads])
        simp only [ok_bind, leads]
        repeat' split
        all_goals simp

theorem ends_execution (plane : r.plane = .execution) :
    Ends (routeExecutionStageResult graph s r counters) action ↔
      ∃ reached, exhaustedPolicy graph s r counters = .ok reached ∧ terminalNeed graph r reached = some action := by
  unfold routeExecutionStageResult exhaustedPolicy
  rw [plane]
  cases exhaustedFixCycles graph s r with
  | some policy =>
    cases resolved : resolveFailureClass s r "fix_cycle_exhausted" with
    | error e => simp
    | ok failureClass =>
      simp [ends_threshold (resolveFailureClass_normal resolved), terminalNeed, pure, Except.pure]
  | none =>
    by_cases counted : r.outcome = "BLOCKED" ∧ r.stageKindId ≠ "consultant"
    · simp only [if_pos counted]
      cases resolved : resolveFailureClass s r (blockedReason r) with
      | error e => simp
      | ok failureClass =>
        have normal := resolveFailureClass_normal resolved
        simp only [ok_bind, exhaustedAttempts_eq _ _ _ _ _ _ normal]
        cases Option.filter _ (thresholdPolicyForSource graph r.nodeId r.outcome .troubleshootAttemptCount) with
        | none => simp [ends_executionWithin plane, terminalNeed]
        | some policy => simp [ends_threshold normal, terminalNeed]
    · simp [if_neg counted, ends_executionWithin plane, terminalNeed, pure, Except.pure]

theorem ends_planning (plane : r.plane = .planning) :
    Ends (routePlanningStageResult graph s r counters) action ↔
      ∃ reached, exhaustedPolicy graph s r counters = .ok reached ∧ terminalNeed graph r reached = some action := by
  unfold routePlanningStageResult exhaustedPolicy
  rw [plane]
  by_cases blocked : r.outcome = "BLOCKED"
  · simp only [if_pos blocked]
    cases resolved : resolveFailureClass s r (blockedReason r) with
    | error e => simp
    | ok failureClass =>
      have normal := resolveFailureClass_normal resolved
      simp only [ok_bind, exhaustedAttempts_eq _ _ _ _ _ _ normal]
      cases Option.filter _ (thresholdPolicyForSource graph r.nodeId r.outcome .mechanicAttemptCount) with
      | none => simp [ends_planningWithin plane, terminalNeed]
      | some policy => simp [ends_threshold normal, terminalNeed]
  · simp [if_neg blocked, ends_planningWithin plane, terminalNeed, pure, Except.pure]

theorem ends_learning (plane : r.plane = .learning) :
    Ends (routeLearningStageResult graph r) action ↔
      ∃ reached, exhaustedPolicy graph s r counters = .ok reached ∧ terminalNeed graph r reached = some action := by
  unfold routeLearningStageResult exhaustedPolicy terminalNeed edgeNeed endNeed
  rw [plane]
  cases transitionForSource graph r.nodeId r.outcome with
  | error e => simp [pure, Except.pure]
  | ok transition =>
    cases leads : transition.targetNodeId with
    | some target => simp [leads, pure, Except.pure]
    | none =>
      by_cases blocked : r.outcome = "BLOCKED"
      · simp [leads, blocked, pure, Except.pure]
      · simp [leads, blocked, pure, Except.pure]

end Ends

/-! ## The router and the lifecycle -/

section Agreement
variable {plan : CompiledRunPlan} {graph : FrozenGraphPlanePlan} {s : RuntimeSnapshot} {r : StageResultEnvelope}
variable {counters : RecoveryCounters} {action : SourceLifecycleAction}

theorem ends_route (graphOf : graphForPlane plan r.plane = .ok graph)
    (valid : validateStageResultMatchesSnapshot s r = .ok ()) :
    Ends (routeStageResultFromGraph plan s r counters) action ↔
      ∃ reached, exhaustedPolicy graph s r counters = .ok reached ∧ terminalNeed graph r reached = some action := by
  rw [routeStageResultFromGraph, valid, ok_bind, graphOf, ok_bind]
  cases plane : r.plane with
  | execution => exact ends_execution plane
  | planning => exact ends_planning plane
  | learning => exact ends_learning plane

theorem leastPriority_mem {transitions : List CompiledGraphTransitionPlan} {transition : CompiledGraphTransitionPlan}
    (least : leastPriority transitions = some transition) : transition ∈ transitions := by
  induction transitions generalizing transition with
  | nil => cases least
  | cons first rest ih =>
    unfold leastPriority at least
    split at least
    next => exact Option.some.inj least ▸ List.mem_cons_self
    next best found =>
      split at least
      · exact Option.some.inj least ▸ List.mem_cons_self
      · exact Option.some.inj least ▸ List.mem_cons_of_mem _ (ih found)

theorem transitionForSource_mem {nodeId outcome : String} {transition : CompiledGraphTransitionPlan}
    (found : transitionForSource graph nodeId outcome = .ok transition) :
    transition ∈ graph.compiledTransitions ∧ transition.sourceNodeId = nodeId ∧ transition.outcome = outcome := by
  unfold transitionForSource at found
  split at found
  next least =>
    obtain rfl := Except.ok.inj found
    simpa using List.mem_filter.mp (leastPriority_mem least)
  next => cases found

theorem thresholdPolicyForSource_mem {nodeId outcome : String} {counterName : GraphLoopCounterName}
    {policy : CompiledGraphThresholdPolicyPlan}
    (found : thresholdPolicyForSource graph nodeId outcome counterName = some policy) :
    policy ∈ graph.compiledThresholdPolicies ∧ nodeId ∈ policy.sourceNodeIds := by
  have holds := List.find?_some found
  simp only [Bool.and_eq_true, List.contains_eq_mem, decide_eq_true_eq] at holds
  exact ⟨List.mem_of_find?_eq_some found, holds.1.1⟩

theorem exhaustedAttempts_found {plane : Plane} {counterName : GraphLoopCounterName} {failureClass : String}
    {policy : CompiledGraphThresholdPolicyPlan}
    (exhausted : exhaustedAttempts graph s r counters plane counterName failureClass = .ok (some policy)) :
    thresholdPolicyForSource graph r.nodeId r.outcome counterName = some policy := by
  unfold exhaustedAttempts at exhausted
  split at exhausted
  · cases exhausted
  next found =>
    obtain ⟨attempts, -, reached⟩ := bind_eq_ok.mp exhausted
    rw [pure_eq_ok] at reached
    split at reached
    · rw [found, reached]
    · cases reached

theorem exhaustedPolicy_found {policy : CompiledGraphThresholdPolicyPlan}
    (exhausted : exhaustedPolicy graph s r counters = .ok (some policy)) :
    ∃ counterName, thresholdPolicyForSource graph r.nodeId r.outcome counterName = some policy := by
  unfold exhaustedPolicy at exhausted
  split at exhausted
  · split at exhausted
    next cycles =>
      obtain ⟨_, -, same⟩ := bind_eq_ok.mp exhausted
      obtain rfl := Option.some.inj (pure_eq_ok.mp same)
      unfold exhaustedFixCycles at cycles
      split at cycles
      · exact ⟨_, (Option.filter_eq_some_iff.mp cycles).1⟩
      · cases cycles
    next =>
      split at exhausted
      · obtain ⟨_, -, attempts⟩ := bind_eq_ok.mp exhausted
        exact ⟨_, exhaustedAttempts_found attempts⟩
      · cases exhausted
  · split at exhausted
    · obtain ⟨_, -, attempts⟩ := bind_eq_ok.mp exhausted
      exact ⟨_, exhaustedAttempts_found attempts⟩
    · cases exhausted
  · cases exhausted

/-- A result that needs something of its source item comes from a node of the graph. -/
theorem terminalNeed_known {reached : Option CompiledGraphThresholdPolicyPlan}
    (exhausted : exhaustedPolicy graph s r counters = .ok reached)
    (need : terminalNeed graph r reached = some action) : ∃ node ∈ graph.nodes, node.nodeId = r.nodeId := by
  cases reached with
  | some policy =>
    obtain ⟨_, found⟩ := exhaustedPolicy_found exhausted
    obtain ⟨member, source⟩ := thresholdPolicyForSource_mem found
    exact graph.knownPolicySources policy member r.nodeId source
  | none =>
    simp only [terminalNeed, Option.elim_none, edgeNeed] at need
    split at need
    · cases need
    · split at need
      next transition found =>
        obtain ⟨member, source, -⟩ := transitionForSource_mem found
        exact source ▸ graph.knownSources transition member
      next => cases need

/-- The tables of the plan give the action that the ending of this result needs. -/
def TablesAgree (plan : CompiledRunPlan) (graph : FrozenGraphPlanePlan) (s : RuntimeSnapshot)
    (r : StageResultEnvelope) (counters : RecoveryCounters) : Prop :=
  ∀ reached, exhaustedPolicy graph s r counters = .ok reached →
    ∀ action, terminalNeed graph r reached = some action →
      lifecycleFor plan.workflowPrimitives graph r.nodeId r.outcome = some action

/-- A terminal decision finds its lifecycle intent exactly where the effect rules and terminal edges of the plan give
the action that the exhausted threshold or the ended stage needs. -/
theorem router_lifecycle_agree_iff (plan : CompiledRunPlan) (s : RuntimeSnapshot) (r : StageResultEnvelope)
    (counters : RecoveryCounters) :
    (∀ d, routeStageResultFromGraph plan s r counters = .ok d → ∀ action, d.action.lifecycle = some action →
      ∃ intent, sourceLifecycleIntentForStageResult plan r = .ok intent ∧ intent.action = action) ↔
    (validateStageResultMatchesSnapshot s r = .ok () →
      ∀ graph, graphForPlane plan r.plane = .ok graph → TablesAgree plan graph s r counters) := by
  constructor
  · intro agree valid graph graphOf reached exhausted action need
    obtain ⟨d, routed, ends⟩ := (ends_route graphOf valid).mpr ⟨reached, exhausted, need⟩
    exact (intent_iff graphOf (terminalNeed_known exhausted need) action).mp (agree d routed action ends)
  · intro tables d routed action ends
    obtain ⟨valid, graph, graphOf, -⟩ : validateStageResultMatchesSnapshot s r = .ok () ∧
        ∃ graph, graphForPlane plan r.plane = .ok graph ∧ True := by
      obtain ⟨_, valid, rest⟩ := bind_eq_ok.mp routed
      obtain ⟨graph, graphOf, -⟩ := bind_eq_ok.mp rest
      exact ⟨valid, graph, graphOf, trivial⟩
    obtain ⟨reached, exhausted, need⟩ := (ends_route graphOf valid).mp ⟨d, routed, ends⟩
    exact (intent_iff graphOf (terminalNeed_known exhausted need) action).mpr
      (tables valid graph graphOf reached exhausted action need)

end Agreement

/-! ## A manager that is blocked for good -/

def managerRun : ActiveRunState where
  plane := .planning
  stage := .manager
  nodeId := "manager"
  stageKindId := "manager"
  runId := "run-planning"
  requestKind := .activeWorkItem
  workItemKind := some .spec
  workItemId := some "spec-1"
  closureTargetRootSpecId := none
  activeSince := "2026-01-01T00:00:00Z"

def managerBlocked : StageResultEnvelope where
  runId := "run-planning"
  plane := .planning
  stage := .manager
  nodeId := "manager"
  stageKindId := "manager"
  workItemKind := .spec
  workItemId := "spec-1"
  terminalResult := .planning .blocked
  metadata := [("failure_class", .text "missing_context")]
  ofPlane := rfl

/-- After two attempts of the mechanic the manager's result is to block its spec, and the plan has no action for it. -/
theorem manager_blocked_without_action :
    (routeStageResultFromGraph standardPlan (.started fun plane => if plane = .planning then some managerRun else none)
      managerBlocked [attemptedEntry (.spec, "spec-1") "missing_context" 2]).map (·.action) = .ok .blocked ∧
    sourceLifecycleIntentForStageResult standardPlan managerBlocked = .error (.missingTerminalAction "manager" "BLOCKED") := by
  refine ⟨?_, ?_⟩
  · decide +kernel
  · decide +kernel

end Millrace.Runtime

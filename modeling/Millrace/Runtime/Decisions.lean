import Millrace.Action
import Millrace.Runtime.FailureClass

/-! What the router's decisions are made of: the node they dispatch, the failure class and the counter they name. -/

set_option autoImplicit false

namespace Millrace.Runtime
open Millrace.Text Millrace.Contracts Millrace.Action

section Graph
variable (graph : FrozenGraphPlanePlan)

/-! ## Dispatching a node -/

/-- The node that a decision dispatches, with its stage; a node whose kind is no stage of the plane has none. -/
def stageAt (target : String) : TickResult (MaterializedGraphNodePlan × StageName) := do
  let node ← nodePlanById graph target
  let stage ← (stageNameForPlane graph.plane node.stageKindId).mapError .contract
  return (node, stage)

def stageDecision (found : MaterializedGraphNodePlan × StageName) (reason : String)
    (failureClass counterKey : Option String) : RouterDecision where
  action := .runStage
  nextPlane := some graph.plane
  nextStage := some found.2
  reason := reason
  nextNodeId := some found.1.nodeId
  nextStageKindId := some found.1.stageKindId
  failureClass := failureClass
  counterKey := counterKey
  createIncident := false

variable {graph} {target reason : String} {failureClass counterKey : Option String}

theorem runStageDecision_eq : runStageDecision graph target reason failureClass counterKey =
    (stageAt graph target).map fun found => stageDecision graph found reason failureClass counterKey := by
  unfold runStageDecision stageAt
  cases nodePlanById graph target with
  | error e => rfl
  | ok node =>
    simp only [ok_bind]
    cases (stageNameForPlane graph.plane node.stageKindId).mapError RuntimeTickError.contract with
    | error e => rfl
    | ok stage => rfl

theorem runStageDecision_error {e : RuntimeTickError} :
    runStageDecision graph target reason failureClass counterKey = .error e ↔ stageAt graph target = .error e := by
  rw [runStageDecision_eq]
  cases stageAt graph target with
  | error e' => simp [Except.map]
  | ok found => simp [Except.map]

theorem runStageDecision_ok {d : RouterDecision} :
    runStageDecision graph target reason failureClass counterKey = .ok d ↔
      ∃ found, stageAt graph target = .ok found ∧ stageDecision graph found reason failureClass counterKey = d := by
  rw [runStageDecision_eq, map_eq_ok]

theorem stageAt_error {e : RuntimeTickError} (failed : stageAt graph target = .error e) :
    (∃ nodeId, e = .missingNode nodeId) ∨ ∃ error, e = .contract error := by
  unfold stageAt nodePlanById at failed
  split at failed
  next node found =>
    cases named : stageNameForPlane graph.plane node.stageKindId with
    | error error => exact .inr ⟨error, by simpa [named, Except.mapError] using failed.symm⟩
    | ok stage => simp [named, Except.mapError, pure, Except.pure] at failed
  next => exact .inl ⟨target, by simpa using failed.symm⟩

end Graph

/-! ## The failure class -/

section FailureClass
variable {s : RuntimeSnapshot} {r : StageResultEnvelope}

/-- The failure class that the stage result itself states. -/
def statedClass (r : StageResultEnvelope) : Option (TickResult String) :=
  (failureClassFromStageResult r).map normalizeFailureClass

theorem resolveFailureClass_stated {stated : TickResult String} (is : statedClass r = some stated)
    (default : String) : resolveFailureClass s r default = stated := by
  obtain ⟨value, found, rfl⟩ := Option.map_eq_some_iff.mp is
  simp [resolveFailureClass, found]

theorem resolveFailureClass_default (unstated : statedClass r = none) (fresh : s.currentFailureClass = none)
    (default : String) : resolveFailureClass s r default = normalizeFailureClass default := by
  have absent : failureClassFromStageResult r = none := by simpa [statedClass] using unstated
  simp [resolveFailureClass, absent, fresh]

/-- A failure class left by another stage result that has no letter or digit fails every routing that needs one. -/
theorem resolveFailureClass_dash (unstated : statedClass r = none) (left : s.currentFailureClass = some "-")
    (default : String) : resolveFailureClass s r default = .error .emptyFailureClass := by
  have absent : failureClassFromStageResult r = none := by simpa [statedClass] using unstated
  have shown : isBlank "-" = false := by decide
  have empty : normalizeFailureClass "-" = .error .emptyFailureClass := by decide
  simp [resolveFailureClass, absent, left, Option.filter_some, shown, empty]

theorem resolveFailureClass_normal {default failureClass : String}
    (ok : resolveFailureClass s r default = .ok failureClass) :
    normalizeFailureClass failureClass = .ok failureClass := by
  unfold resolveFailureClass at ok
  split at ok
  · exact normalizeFailureClass_idem ok
  · split at ok
    · exact normalizeFailureClass_idem ok
    · exact normalizeFailureClass_idem ok

theorem resolveFailureClass_error {default : String} {e : RuntimeTickError}
    (failed : resolveFailureClass s r default = .error e) : e = .emptyFailureClass := by
  unfold resolveFailureClass at failed
  split at failed
  · exact normalizeFailureClass_error failed
  · split at failed
    · exact normalizeFailureClass_error failed
    · exact normalizeFailureClass_error failed

theorem statedClass_normal {failureClass : String} (stated : statedClass r = some (.ok failureClass)) :
    normalizeFailureClass failureClass = .ok failureClass := by
  obtain ⟨value, -, normal⟩ := Option.map_eq_some_iff.mp stated
  exact normalizeFailureClass_idem normal

theorem statedClass_error {e : RuntimeTickError} (stated : statedClass r = some (.error e)) :
    e = .emptyFailureClass := by
  obtain ⟨value, -, failed⟩ := Option.map_eq_some_iff.mp stated
  exact normalizeFailureClass_error failed

end FailureClass

/-! ## The counter -/

def counterKey (item : WorkItemKind × String) (failureClass : String) : String :=
  asStr item.1 ++ ":" ++ String.ofList (trim item.2.toList) ++ ":" ++ failureClass

section Counter
variable {s : RuntimeSnapshot} {failureClass : String}

theorem counterKeyFromSnapshot_eq (normal : normalizeFailureClass failureClass = .ok failureClass) :
    counterKeyFromSnapshot s failureClass = .ok ((activeWorkItem s).map (counterKey · failureClass)) := by
  unfold counterKeyFromSnapshot
  cases activeWorkItem s with
  | none => rfl
  | some item => simp [normal, counterKey, pure, Except.pure]

/-- The attempts that the counters hold for a work item and a failure class. -/
def attemptsFor (counters : RecoveryCounters) (item : WorkItemKind × String) (failureClass : String)
    (plane : Plane) : Nat :=
  ((counters.find? (·.counts item failureClass)).map (·.attempts plane)).getD 0

theorem counterAttempts_eq (counters : RecoveryCounters) (plane : Plane)
    (normal : normalizeFailureClass failureClass = .ok failureClass) :
    counterAttempts s counters failureClass plane =
      .ok ((activeWorkItem s).elim 0 (attemptsFor counters · failureClass plane)) := by
  unfold counterAttempts
  cases activeWorkItem s with
  | none => rfl
  | some item => simp [normal, attemptsFor, pure, Except.pure]

theorem recoveryEdgeDecision_eq {graph : FrozenGraphPlanePlan} {r : StageResultEnvelope} {target : String}
    (resolved : resolveFailureClass s r (blockedReason r) = .ok failureClass) :
    recoveryEdgeDecision graph s r target = runStageDecision graph target (blockedReason r) (some failureClass)
      ((activeWorkItem s).map (counterKey · failureClass)) := by
  rw [recoveryEdgeDecision, resolved, ok_bind, counterKeyFromSnapshot_eq (resolveFailureClass_normal resolved), ok_bind]

end Counter

/-! ## The exhausted threshold -/

/-- The decision of an exhausted threshold, with the counter it names. -/
def exhaustedDecision (graph : FrozenGraphPlanePlan) (policy : CompiledGraphThresholdPolicyPlan)
    (failureClass reason : String) (counterKey : Option String) : TickResult RouterDecision :=
  match policy.exhaustedTargetNodeId with
  | some target => runStageDecision graph target reason (some failureClass) counterKey
  | none =>
    match policy.exhaustedTerminalStateId with
    | none => .error .missingExhaustedTarget
    | some terminalStateId =>
      match terminalStateById graph terminalStateId with
      | .error e => .error e
      | .ok state =>
        if state.terminalClass ≠ .blocked then .error (.unsupportedThresholdClass state.terminalClass)
        else .ok (blockedDecision (reason ++ ":mechanic_attempts_exhausted") (some failureClass) counterKey)

section Exhausted
variable {graph : FrozenGraphPlanePlan} {policy : CompiledGraphThresholdPolicyPlan} {failureClass reason : String}
variable {key : Option String}

theorem decisionFromThresholdResolution_eq (s : RuntimeSnapshot)
    (normal : normalizeFailureClass failureClass = .ok failureClass) :
    decisionFromThresholdResolution graph s policy failureClass reason =
      exhaustedDecision graph policy failureClass reason ((activeWorkItem s).map (counterKey · failureClass)) := by
  unfold decisionFromThresholdResolution exhaustedDecision
  rw [counterKeyFromSnapshot_eq normal, ok_bind]
  cases policy.exhaustedTargetNodeId with
  | some target => rfl
  | none =>
    cases policy.exhaustedTerminalStateId with
    | none => rfl
    | some terminalStateId =>
      simp only
      cases terminalStateById graph terminalStateId with
      | error e => rfl
      | ok state => rfl

theorem exhaustedDecision_error {e : RuntimeTickError}
    (failed : exhaustedDecision graph policy failureClass reason key = .error e) :
    (∃ target, policy.exhaustedTargetNodeId = some target ∧ stageAt graph target = .error e) ∨
      e = .missingExhaustedTarget ∨ (∃ id, e = .missingTerminalState id) ∨ ∃ c, e = .unsupportedThresholdClass c := by
  unfold exhaustedDecision at failed
  split at failed
  next target is => exact .inl ⟨target, is, runStageDecision_error.mp failed⟩
  next =>
    split at failed
    next => exact .inr (.inl (Except.error.inj failed).symm)
    next terminalStateId _ =>
      split at failed
      next e' missing =>
        obtain rfl := Except.error.inj failed
        unfold terminalStateById at missing
        split at missing
        · cases missing
        · exact .inr (.inr (.inl ⟨terminalStateId, (Except.error.inj missing).symm⟩))
      next state _ =>
        split at failed
        · exact .inr (.inr (.inr ⟨state.terminalClass, (Except.error.inj failed).symm⟩))
        · cases failed

theorem exhaustedDecision_ok {d : RouterDecision}
    (ok : exhaustedDecision graph policy failureClass reason key = .ok d) :
    d.failureClass = some failureClass ∧ d.counterKey = key := by
  unfold exhaustedDecision at ok
  split at ok
  next =>
    obtain ⟨found, -, rfl⟩ := runStageDecision_ok.mp ok
    exact ⟨rfl, rfl⟩
  next =>
    split at ok
    · cases ok
    · split at ok
      · cases ok
      · split at ok
        · cases ok
        · obtain rfl := Except.ok.inj ok
          exact ⟨rfl, rfl⟩

/-- The attempts that the router counts are those of the foreground work item. -/
theorem exhaustedAttempts_eq (graph : FrozenGraphPlanePlan) (s : RuntimeSnapshot) (r : StageResultEnvelope)
    (counters : RecoveryCounters) (plane : Plane) (counterName : GraphLoopCounterName)
    (normal : normalizeFailureClass failureClass = .ok failureClass) :
    exhaustedAttempts graph s r counters plane counterName failureClass =
      .ok ((thresholdPolicyForSource graph r.nodeId r.outcome counterName).filter fun policy =>
        policy.threshold ≤ (activeWorkItem s).elim 0 (attemptsFor counters · failureClass plane)) := by
  unfold exhaustedAttempts
  cases thresholdPolicyForSource graph r.nodeId r.outcome counterName with
  | none => rfl
  | some policy => simp [counterAttempts_eq counters plane normal, Option.filter_some, pure, Except.pure]

end Exhausted

/-! ## States with given runs and counters -/

/-- A snapshot with these runs, before anything has failed. -/
def RuntimeSnapshot.started (runs : Plane → Option ActiveRunState) : RuntimeSnapshot :=
  projectForegroundActiveRun {
    activePlane := none
    activeStage := none
    activeNodeId := none
    activeStageKindId := none
    activeRunId := none
    activeWorkItemKind := none
    activeWorkItemId := none
    activeSince := none
    activeRunsByPlane := runs
    currentFailureClass := none
    troubleshootAttemptCount := 0
    mechanicAttemptCount := 0
    fixCycleCount := 0
    consultantInvocations := 0 }

/-- A recovery counter entry that has reached this many attempts. -/
def attemptedEntry (item : WorkItemKind × String) (failureClass : String) (attempts : Nat) :
    RecoveryCounterEntry where
  failureClass := failureClass
  workItemKind := item.1
  workItemId := item.2
  troubleshootAttemptCount := attempts
  mechanicAttemptCount := attempts
  fixCycleCount := 0
  consultantInvocations := 0

end Millrace.Runtime

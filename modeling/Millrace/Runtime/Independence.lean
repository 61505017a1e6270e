import Millrace.Runtime.Decisions

/-! What the routing of one plane takes from the other planes. -/

set_option autoImplicit false

namespace Millrace.Runtime
open Millrace.Text Millrace.Contracts Millrace.Action

/-! ## States and their agreement -/

/-- A snapshot as the runtime keeps it: runs lie under their planes, and the active fields show the foreground run. -/
structure RuntimeSnapshot.WellFormed (s : RuntimeSnapshot) : Prop where
  projected : projectForegroundActiveRun s = s
  keyed : ∀ plane run, s.activeRunsByPlane plane = some run → run.plane = plane

def runWorkItem (run : ActiveRunState) : Option (WorkItemKind × String) :=
  match run.workItemKind, run.workItemId with
  | some kind, some id => some (kind, id)
  | _, _ => none

def RecoveryCounterEntry.ofItem (item : WorkItemKind × String) (e : RecoveryCounterEntry) : Bool :=
  e.workItemKind = item.1 && e.workItemId = item.2

/-- Two states with the same run on a plane and the same counters for its work item. -/
structure AgreeOn (plane : Plane) (s s' : RuntimeSnapshot) (counters counters' : RecoveryCounters) : Prop where
  run : s'.activeRunsByPlane plane = s.activeRunsByPlane plane
  entries : ∀ run, s.activeRunsByPlane plane = some run → ∀ item, runWorkItem run = some item →
    counters'.filter (·.ofItem item) = counters.filter (·.ofItem item)

theorem foreground_some {s : RuntimeSnapshot} {run : ActiveRunState} (found : foregroundActiveRun s = some run) :
    ∃ plane, s.activeRunsByPlane plane = some run := by
  unfold foregroundActiveRun at found
  rcases Option.or_eq_some_iff.mp found with planning | ⟨-, rest⟩
  · exact ⟨_, planning⟩
  · rcases Option.or_eq_some_iff.mp rest with execution | ⟨-, learning⟩
    · exact ⟨_, execution⟩
    · exact ⟨_, learning⟩

namespace RuntimeSnapshot.WellFormed
variable {s : RuntimeSnapshot} (wf : s.WellFormed)
include wf

theorem activePlane_eq : s.activePlane = (foregroundActiveRun s).map (·.plane) := by
  have shown := congrArg RuntimeSnapshot.activePlane wf.projected
  cases found : foregroundActiveRun s with
  | none => simpa [projectForegroundActiveRun, found] using shown.symm
  | some run => simpa [projectForegroundActiveRun, found] using shown.symm

theorem activeWorkItem_eq : activeWorkItem s = (foregroundActiveRun s).bind runWorkItem := by
  have kind := congrArg RuntimeSnapshot.activeWorkItemKind wf.projected
  have id := congrArg RuntimeSnapshot.activeWorkItemId wf.projected
  cases found : foregroundActiveRun s with
  | none =>
    simp only [projectForegroundActiveRun, found] at kind id
    simp [activeWorkItem, ← kind, ← id]
  | some run =>
    simp only [projectForegroundActiveRun, found] at kind id
    rw [activeWorkItem, ← kind, ← id]
    cases isKind : run.workItemKind <;> cases isId : run.workItemId <;> simp [runWorkItem, isKind, isId]

/-- In a well-formed snapshot the older single-run fields add nothing. -/
theorem activeRunForPlane_eq (plane : Plane) : activeRunForPlane s plane = s.activeRunsByPlane plane := by
  unfold activeRunForPlane
  cases found : s.activeRunsByPlane plane with
  | some run => rfl
  | none =>
    have other : s.activePlane ≠ some plane := by
      rw [wf.activePlane_eq]
      intro same
      obtain ⟨run, foreground, rfl⟩ := Option.map_eq_some_iff.mp same
      obtain ⟨key, there⟩ := foreground_some foreground
      rw [wf.keyed key run there, there] at found
      cases found
    simp [legacyActiveRunForPlane, other]

end RuntimeSnapshot.WellFormed

theorem AgreeOn.validate {s s' : RuntimeSnapshot} {counters counters' : RecoveryCounters} {r : StageResultEnvelope}
    (wf : s.WellFormed) (wf' : s'.WellFormed) (agree : AgreeOn r.plane s s' counters counters') :
    validateStageResultMatchesSnapshot s' r = validateStageResultMatchesSnapshot s r := by
  unfold validateStageResultMatchesSnapshot
  rw [wf.activeRunForPlane_eq, wf'.activeRunForPlane_eq, agree.run]

theorem validate_run {s : RuntimeSnapshot} {r : StageResultEnvelope} (wf : s.WellFormed)
    (valid : validateStageResultMatchesSnapshot s r = .ok ()) : ∃ run, s.activeRunsByPlane r.plane = some run := by
  unfold validateStageResultMatchesSnapshot at valid
  rw [wf.activeRunForPlane_eq] at valid
  cases found : s.activeRunsByPlane r.plane with
  | none => simp [found] at valid
  | some run => exact ⟨run, rfl⟩

/-! ## What a result can be routed by -/

section Graph
variable (graph : FrozenGraphPlanePlan) (r : StageResultEnvelope)

/-- The node that the edge of an outcome leads to. -/
def edgeTarget : Option String := (transitionForSource graph r.nodeId r.outcome).toOption.bind (·.targetNodeId)

/-- The node that the execution router dispatches while no threshold is exhausted. -/
def withinTarget : Option String :=
  match resumePolicyForSource graph r.nodeId r.outcome with
  | some policy =>
    if r.stageKindId ∈ ["troubleshooter", "consultant", "mechanic"] then
      some (resumeTarget graph r policy policy.metadataStageKeys)
    else none
  | none => edgeTarget graph r

/-- The exhausted threshold and the ordinary route lead to nodes that fail to dispatch in the same way. -/
def StuckAlike (policy : CompiledGraphThresholdPolicyPlan) : Prop :=
  ∃ target other error, policy.exhaustedTargetNodeId = some target ∧ withinTarget graph r = some other ∧
    stageAt graph target = .error error ∧ stageAt graph other = .error error

/-- The routing of a result on the execution plane that nothing on another plane can change. -/
def IsolatedExecution : Prop :=
  (r.outcome = "FIX_NEEDED" → ∀ policy, thresholdPolicyForSource graph r.nodeId r.outcome .fixCycleCount = some policy →
    (∃ failureClass, statedClass r = some (.ok failureClass)) ∧ StuckAlike graph r policy) ∧
  (r.outcome = "BLOCKED" → match statedClass r with
    | none => r.stageKindId = "consultant" ∧ ((resumePolicyForSource graph r.nodeId r.outcome).isSome ∨
        (transitionForSource graph r.nodeId r.outcome).toOption = none)
    | some (.error _) => True
    | some (.ok _) =>
      (resumePolicyForSource graph r.nodeId r.outcome = none → ∀ target, edgeTarget graph r = some target →
        (stageAt graph target).toOption = none) ∧
      (r.stageKindId ≠ "consultant" → ∀ policy,
        thresholdPolicyForSource graph r.nodeId r.outcome .troubleshootAttemptCount = some policy →
          StuckAlike graph r policy))

/-- A recon result that ends blocked at a terminal state. -/
def EndsReconBlocked : Prop :=
  r.stageKindId = "recon" ∧ r.outcome = "RECON_BLOCKED" ∧ resumePolicyForSource graph r.nodeId r.outcome = none ∧
    ∃ transition, transitionForSource graph r.nodeId r.outcome = .ok transition ∧ transition.targetNodeId = none

/-- On the planning plane, whose run is always the foreground run, only the failure class can come from elsewhere. -/
def IsolatedPlanning : Prop :=
  r.outcome = "BLOCKED" ∨ EndsReconBlocked graph r → (statedClass r).isSome

variable {graph r} {s s' : RuntimeSnapshot} {counters counters' : RecoveryCounters}
variable {policy : CompiledGraphThresholdPolicyPlan}

theorem edgeTarget_eq {transition : CompiledGraphTransitionPlan}
    (found : transitionForSource graph r.nodeId r.outcome = .ok transition) :
    edgeTarget graph r = transition.targetNodeId := by
  simp [edgeTarget, found, Except.toOption]

/-- The recovery edge is all that the ordinary execution route takes from the state. -/
theorem routeExecutionWithinThresholds_congr
    (edges : r.outcome = "BLOCKED" → resumePolicyForSource graph r.nodeId r.outcome = none →
      ∀ transition, transitionForSource graph r.nodeId r.outcome = .ok transition →
        ∃ stated, statedClass r = some stated ∧
          ∀ target, transition.targetNodeId = some target →
            (∃ e, stated = .error e) ∨ ∃ e, stageAt graph target = .error e) :
    routeExecutionWithinThresholds graph s r = routeExecutionWithinThresholds graph s' r := by
  unfold routeExecutionWithinThresholds
  cases resumes : resumePolicyForSource graph r.nodeId r.outcome with
  | some policy => rfl
  | none =>
    cases found : transitionForSource graph r.nodeId r.outcome with
    | error e => rfl
    | ok transition =>
      simp only [ok_bind]
      by_cases blocked : r.outcome = "BLOCKED"
      · obtain ⟨stated, is, targets⟩ := edges blocked resumes transition found
        cases leads : transition.targetNodeId with
        | none => simp [executionTerminalDecision, resolveFailureClass_stated is]
        | some target =>
          simp only [blocked, if_neg (show ¬("BLOCKED" = "FIX_NEEDED") by decide), if_true, recoveryEdgeDecision,
            resolveFailureClass_stated is]
          cases stated with
          | error e => rfl
          | ok failureClass =>
            have normal := statedClass_normal is
            obtain ⟨e, impossible⟩ | ⟨e, stuck⟩ := targets target leads
            · cases impossible
            · simp [counterKeyFromSnapshot_eq normal, runStageDecision_error.mpr stuck]
      · cases transition.targetNodeId with
        | some target => simp [blocked]
        | none => simp [executionTerminalDecision, blocked]

theorem StuckAlike.routes (stuck : StuckAlike graph r policy)
    (stated : r.outcome = "BLOCKED" → ∃ failureClass, statedClass r = some (.ok failureClass)) :
    ∃ error, routeExecutionWithinThresholds graph s r = .error error ∧
      ∀ failureClass reason key, exhaustedDecision graph policy failureClass reason key = .error error := by
  obtain ⟨target, other, error, exhausted, within, fails, alike⟩ := stuck
  refine ⟨error, ?_, fun failureClass reason key => ?_⟩
  · unfold withinTarget at within
    unfold routeExecutionWithinThresholds
    cases resumes : resumePolicyForSource graph r.nodeId r.outcome with
    | some policy =>
      simp only [resumes] at within
      split at within
      next kinds =>
        obtain rfl := Option.some.inj within
        unfold decisionFromResumePolicy
        simp only [List.mem_cons, List.not_mem_nil, or_false] at kinds
        obtain kind | kind | kind := kinds <;> simp [kind, runStageDecision_error.mpr alike]
      next => cases within
    | none =>
      simp only [resumes] at within
      cases found : transitionForSource graph r.nodeId r.outcome with
      | error e => simp [edgeTarget, found, Except.toOption] at within
      | ok transition =>
        rw [edgeTarget_eq found] at within
        simp only [ok_bind, within]
        by_cases blocked : r.outcome = "BLOCKED"
        · obtain ⟨failureClass, is⟩ := stated blocked
          simp [blocked, recoveryEdgeDecision, resolveFailureClass_stated is,
            counterKeyFromSnapshot_eq (statedClass_normal is), runStageDecision_error.mpr alike]
        · simp [blocked, runStageDecision_error.mpr alike]
  · simp [exhaustedDecision, exhausted, runStageDecision_error.mpr fails]

theorem IsolatedExecution.route_within (isolated : IsolatedExecution graph r)
    (usable : r.outcome = "BLOCKED" → r.stageKindId ≠ "consultant" →
      ∃ failureClass, statedClass r = some (.ok failureClass)) :
    routeExecutionStageResult graph s r counters = routeExecutionWithinThresholds graph s r := by
  unfold routeExecutionStageResult
  cases exhausted : exhaustedFixCycles graph s r with
  | some policy =>
    unfold exhaustedFixCycles at exhausted
    split at exhausted
    next fix =>
      obtain ⟨found, -⟩ := Option.filter_eq_some_iff.mp exhausted
      obtain ⟨⟨failureClass, stated⟩, stuck⟩ := isolated.1 fix policy found
      have notBlocked : r.outcome ≠ "BLOCKED" := by simp [fix]
      obtain ⟨error, within, fails⟩ := stuck.routes (s := s) fun blocked => absurd blocked notBlocked
      simp [resolveFailureClass_stated stated, decisionFromThresholdResolution_eq s (statedClass_normal stated),
        within, fails]
    next => cases exhausted
  | none =>
    simp only
    split
    next counted =>
      obtain ⟨blocked, kind⟩ := counted
      obtain ⟨failureClass, stated⟩ := usable blocked kind
      have normal := statedClass_normal stated
      have edges := isolated.2 blocked
      simp only [stated] at edges
      rw [resolveFailureClass_stated stated, ok_bind, exhaustedAttempts_eq graph s r counters _ _ normal, ok_bind]
      cases reached : (thresholdPolicyForSource graph r.nodeId r.outcome .troubleshootAttemptCount).filter _ with
      | none => rfl
      | some policy =>
        obtain ⟨found, -⟩ := Option.filter_eq_some_iff.mp reached
        obtain ⟨error, within, fails⟩ := (edges.2 kind policy found).routes (s := s) fun _ => ⟨failureClass, stated⟩
        simp [decisionFromThresholdResolution_eq s normal, within, fails]
    next => rfl

theorem IsolatedExecution.route_eq (isolated : IsolatedExecution graph r) :
    routeExecutionStageResult graph s' r counters' = routeExecutionStageResult graph s r counters := by
  by_cases unusable : r.outcome = "BLOCKED" ∧ r.stageKindId ≠ "consultant" ∧ ∃ e, statedClass r = some (.error e)
  · obtain ⟨blocked, kind, e, stated⟩ := unusable
    simp [routeExecutionStageResult, exhaustedFixCycles, blocked, kind, resolveFailureClass_stated stated]
  · have usable : r.outcome = "BLOCKED" → r.stageKindId ≠ "consultant" →
        ∃ failureClass, statedClass r = some (.ok failureClass) := by
      intro blocked kind
      have edges := isolated.2 blocked
      cases stated : statedClass r with
      | none => exact absurd (by simpa [stated] using edges) (fun h : _ ∧ _ => kind h.1)
      | some given =>
        cases given with
        | ok failureClass => exact ⟨failureClass, rfl⟩
        | error e => exact absurd ⟨blocked, kind, e, stated⟩ unusable
    rw [isolated.route_within usable, isolated.route_within usable]
    refine routeExecutionWithinThresholds_congr fun blocked resumes transition found => ?_
    have edges := isolated.2 blocked
    cases stated : statedClass r with
    | none =>
      obtain ⟨-, resumed | missing⟩ : _ ∧ _ := by simpa [stated] using edges
      · simp [resumes] at resumed
      · simp [found, Except.toOption] at missing
    | some given =>
      refine ⟨given, rfl, fun target leads => ?_⟩
      cases given with
      | error e => exact .inl ⟨e, rfl⟩
      | ok failureClass =>
        simp only [stated] at edges
        have stuck := edges.1 resumes target (by rw [edgeTarget_eq found, leads])
        cases placed : stageAt graph target with
        | ok node => simp [placed, Except.toOption] at stuck
        | error e => exact .inr ⟨e, rfl⟩

/-! ## Planning -/

theorem foreground_planning {run : ActiveRunState} (running : s.activeRunsByPlane .planning = some run) :
    foregroundActiveRun s = some run := by
  simp [foregroundActiveRun, running]

theorem AgreeOn.activeWorkItem_eq {run : ActiveRunState} (agree : AgreeOn .planning s s' counters counters')
    (wf : s.WellFormed) (wf' : s'.WellFormed) (running : s.activeRunsByPlane .planning = some run) :
    activeWorkItem s' = activeWorkItem s := by
  rw [wf.activeWorkItem_eq, wf'.activeWorkItem_eq, foreground_planning running,
    foreground_planning (agree.run.trans running)]

theorem attemptsFor_filter (counters : RecoveryCounters) (item : WorkItemKind × String) (failureClass : String)
    (plane : Plane) :
    attemptsFor (counters.filter (·.ofItem item)) item failureClass plane =
      attemptsFor counters item failureClass plane := by
  unfold attemptsFor
  rw [List.find?_filter]
  congr 3
  funext e
  simp [RecoveryCounterEntry.ofItem, RecoveryCounterEntry.counts]

theorem AgreeOn.attempts_eq {run : ActiveRunState} (agree : AgreeOn .planning s s' counters counters')
    (wf : s.WellFormed) (running : s.activeRunsByPlane .planning = some run) (failureClass : String) (plane : Plane) :
    (activeWorkItem s).elim 0 (attemptsFor counters' · failureClass plane) =
      (activeWorkItem s).elim 0 (attemptsFor counters · failureClass plane) := by
  rw [wf.activeWorkItem_eq, foreground_planning running, Option.bind_some]
  cases itemOf : runWorkItem run with
  | none => rfl
  | some item =>
    simp only [Option.elim_some]
    rw [← attemptsFor_filter counters', ← attemptsFor_filter counters, agree.entries run running item itemOf]

theorem routePlanningWithinThresholds_congr (item : activeWorkItem s' = activeWorkItem s)
    (isolated : IsolatedPlanning graph r) :
    routePlanningWithinThresholds graph s' r = routePlanningWithinThresholds graph s r := by
  unfold routePlanningWithinThresholds
  cases resumes : resumePolicyForSource graph r.nodeId r.outcome with
  | some policy => rfl
  | none =>
    cases found : transitionForSource graph r.nodeId r.outcome with
    | error e => rfl
    | ok transition =>
      simp only [ok_bind]
      cases leads : transition.targetNodeId with
      | some target =>
        by_cases blocked : r.outcome = "BLOCKED"
        · obtain ⟨stated, is⟩ := Option.isSome_iff_exists.mp (isolated (.inl blocked))
          simp [blocked, recoveryEdgeDecision, resolveFailureClass_stated is, counterKeyFromSnapshot, item]
        · simp [blocked]
      | none =>
        by_cases blocked : r.outcome = "BLOCKED"
        · obtain ⟨stated, is⟩ := Option.isSome_iff_exists.mp (isolated (.inl blocked))
          simp [planningTerminalDecision, resolveFailureClass_stated is]
        · by_cases recon : r.stageKindId = "recon" ∧ r.outcome = "RECON_BLOCKED"
          · have ends : EndsReconBlocked graph r := ⟨recon.1, recon.2, resumes, transition, found, leads⟩
            obtain ⟨stated, is⟩ := Option.isSome_iff_exists.mp (isolated (.inr ends))
            simp [planningTerminalDecision, resolveFailureClass_stated is]
          · simp [planningTerminalDecision, blocked, recon]

theorem IsolatedPlanning.route_eq {run : ActiveRunState} (isolated : IsolatedPlanning graph r) (wf : s.WellFormed)
    (wf' : s'.WellFormed) (agree : AgreeOn .planning s s' counters counters')
    (running : s.activeRunsByPlane .planning = some run) :
    routePlanningStageResult graph s' r counters' = routePlanningStageResult graph s r counters := by
  have item := agree.activeWorkItem_eq wf wf' running
  have within := routePlanningWithinThresholds_congr item isolated
  unfold routePlanningStageResult
  by_cases blocked : r.outcome = "BLOCKED"
  · obtain ⟨stated, is⟩ := Option.isSome_iff_exists.mp (isolated (.inl blocked))
    rw [if_pos blocked, if_pos blocked, resolveFailureClass_stated is, resolveFailureClass_stated is]
    cases stated with
    | error e => rfl
    | ok failureClass =>
      have normal := statedClass_normal is
      simp only [ok_bind, exhaustedAttempts_eq _ _ _ _ _ _ normal, decisionFromThresholdResolution_eq _ normal, item,
        agree.attempts_eq wf running, within]
  · rw [if_neg blocked, if_neg blocked, within]

end Graph

end Millrace.Runtime

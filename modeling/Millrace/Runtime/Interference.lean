import Millrace.Runtime.Independence
import Millrace.Runtime.Standard

/-! How a run on another plane changes the routing of a result, and exactly when none can. -/

set_option autoImplicit false

namespace Millrace.Runtime
open Millrace.Text Millrace.Contracts Millrace.Action

/-! ## States that differ on the other planes -/

theorem runs_project (s : RuntimeSnapshot) :
    (projectForegroundActiveRun s).activeRunsByPlane = s.activeRunsByPlane := by
  unfold projectForegroundActiveRun
  cases foregroundActiveRun s with
  | none => rfl
  | some run => rfl

theorem foreground_project (s : RuntimeSnapshot) :
    foregroundActiveRun (projectForegroundActiveRun s) = foregroundActiveRun s := by
  simp only [foregroundActiveRun, runs_project]

theorem wellFormed_project {s : RuntimeSnapshot}
    (keyed : ∀ plane run, s.activeRunsByPlane plane = some run → run.plane = plane) :
    (projectForegroundActiveRun s).WellFormed where
  projected := by
    rw [projectForegroundActiveRun, foreground_project, projectForegroundActiveRun]
    cases foregroundActiveRun s with
    | none => rfl
    | some run => rfl
  keyed := by rwa [runs_project]

/-- The snapshot with this run on the planning plane, and with the failure class and the fix cycles of other results. -/
def beside (s : RuntimeSnapshot) (planning : Option ActiveRunState) (failureClass : Option String) (cycles : Nat) :
    RuntimeSnapshot :=
  projectForegroundActiveRun { s with
    activeRunsByPlane := fun plane => if plane = .planning then planning else s.activeRunsByPlane plane
    currentFailureClass := failureClass
    fixCycleCount := cycles }

section Beside
variable (s : RuntimeSnapshot) (planning : Option ActiveRunState) (failureClass : Option String) (cycles : Nat)

theorem beside_runs (plane : Plane) : (beside s planning failureClass cycles).activeRunsByPlane plane =
    if plane = .planning then planning else s.activeRunsByPlane plane := by
  rw [beside, runs_project]

@[simp] theorem beside_failureClass :
    (beside s planning failureClass cycles).currentFailureClass = failureClass := by
  unfold beside projectForegroundActiveRun
  split <;> rfl

@[simp] theorem beside_cycles : (beside s planning failureClass cycles).fixCycleCount = cycles := by
  unfold beside projectForegroundActiveRun
  split <;> rfl

variable {s planning}

theorem beside_wellFormed (wf : s.WellFormed) (planned : ∀ run, planning = some run → run.plane = .planning) :
    (beside s planning failureClass cycles).WellFormed := by
  refine wellFormed_project fun plane run found => ?_
  simp only at found
  split at found
  next same => exact same ▸ planned run found
  next => exact wf.keyed plane run found

theorem beside_same_runs (wf : s.WellFormed) (plane : Plane) (counters : RecoveryCounters) :
    (beside s (s.activeRunsByPlane .planning) failureClass cycles).WellFormed ∧
      AgreeOn plane s (beside s (s.activeRunsByPlane .planning) failureClass cycles) counters counters := by
  refine ⟨beside_wellFormed _ _ wf (wf.keyed .planning), ⟨?_, fun _ _ _ _ => rfl⟩⟩
  rw [beside_runs]
  split
  next same => rw [same]
  next => rfl

end Beside

/-- A run on the planning plane for a work item of its own. -/
def planningRun (item : WorkItemKind × String) : ActiveRunState where
  plane := .planning
  stage := .planner
  nodeId := "planner"
  stageKindId := "planner"
  runId := "run-planning"
  requestKind := .activeWorkItem
  workItemKind := some item.1
  workItemId := some item.2
  closureTargetRootSpecId := none
  activeSince := "2026-01-01T00:00:00Z"

def ownItem (s : RuntimeSnapshot) (plane : Plane) : Option (WorkItemKind × String) :=
  (s.activeRunsByPlane plane).bind runWorkItem

/-- Only the entries of the plane's own work item. -/
def ownEntries (s : RuntimeSnapshot) (plane : Plane) (counters : RecoveryCounters) : RecoveryCounters :=
  match ownItem s plane with
  | none => []
  | some item => counters.filter (·.ofItem item)

/-- A work item that is not the plane's own. -/
def foreignItem (s : RuntimeSnapshot) (plane : Plane) (kind : WorkItemKind) : WorkItemKind × String :=
  (kind, ((ownItem s plane).map (·.2)).getD "" ++ "x")

section Foreign
variable {s : RuntimeSnapshot} {plane : Plane} {kind : WorkItemKind} {counters : RecoveryCounters}

theorem foreignItem_ne (kind : WorkItemKind) {item : WorkItemKind × String} (own : ownItem s plane = some item) :
    foreignItem s plane kind ≠ item := by
  intro same
  have ids := congrArg (fun i : WorkItemKind × String => i.2.length) same
  simp [foreignItem, own] at ids

theorem mem_ownEntries {e : RecoveryCounterEntry} (member : e ∈ ownEntries s plane counters) :
    ∃ item, ownItem s plane = some item ∧ e.ofItem item = true := by
  unfold ownEntries at member
  cases own : ownItem s plane with
  | none => simp [own] at member
  | some item => exact ⟨item, rfl, by simpa [own] using (List.mem_filter.mp (by simpa [own] using member)).2⟩

theorem ofItem_unique {e : RecoveryCounterEntry} {item item' : WorkItemKind × String} (of : e.ofItem item = true)
    (of' : e.ofItem item' = true) : item = item' := by
  simp only [RecoveryCounterEntry.ofItem, Bool.and_eq_true, decide_eq_true_eq] at of of'
  exact Prod.ext (of.1.symm.trans of'.1) (of.2.symm.trans of'.2)

theorem ofItem_of_counts {e : RecoveryCounterEntry} {item : WorkItemKind × String} {failureClass : String}
    (counts : e.counts item failureClass = true) : e.ofItem item = true := by
  simp only [RecoveryCounterEntry.counts, Bool.and_eq_true] at counts
  simpa [RecoveryCounterEntry.ofItem] using counts.1

theorem attemptsFor_foreign (failureClass : String) (on : Plane) :
    attemptsFor (ownEntries s plane counters) (foreignItem s plane kind) failureClass on = 0 := by
  have none : (ownEntries s plane counters).find? (·.counts (foreignItem s plane kind) failureClass) = none := by
    refine List.find?_eq_none.mpr fun e member counts => ?_
    obtain ⟨item, own, of⟩ := mem_ownEntries member
    exact foreignItem_ne kind own (ofItem_unique (ofItem_of_counts counts) of)
  simp [attemptsFor, none]

theorem attemptsFor_attempted {item : WorkItemKind × String} {failureClass : String} (attempts : Nat)
    (normal : normalizeFailureClass failureClass = .ok failureClass) (rest : RecoveryCounters) :
    attemptsFor (attemptedEntry item failureClass attempts :: rest) item failureClass .execution = attempts := by
  have counts : (attemptedEntry item failureClass attempts).counts item failureClass = true := by
    simp [RecoveryCounterEntry.counts, attemptedEntry, normal]
  rw [attemptsFor, List.find?_cons, counts]
  rfl

theorem agree_foreign (counters : RecoveryCounters) (wf : s.WellFormed) (failureClass : Option String) (cycles : Nat) (kind : WorkItemKind)
    (extra : RecoveryCounters) (foreign : ∀ e ∈ extra, e.ofItem (foreignItem s .execution kind) = true) :
    (beside s (some (planningRun (foreignItem s .execution kind))) failureClass cycles).WellFormed ∧
      AgreeOn .execution s (beside s (some (planningRun (foreignItem s .execution kind))) failureClass cycles)
        counters (extra ++ ownEntries s .execution counters) := by
  refine ⟨beside_wellFormed _ _ wf (by simp [planningRun]), ⟨by simp [beside_runs], ?_⟩⟩
  intro run running item itemOf
  have own : ownItem s .execution = some item := by simp [ownItem, running, itemOf]
  have none : extra.filter (·.ofItem item) = [] := by
    refine List.filter_eq_nil_iff.mpr fun e member of => foreignItem_ne kind own ?_
    exact ofItem_unique (foreign e member) of
  simp [List.filter_append, none, ownEntries, own]

theorem activeWorkItem_foreign (wf : s.WellFormed) (failureClass : Option String) (cycles : Nat) :
    activeWorkItem (beside s (some (planningRun (foreignItem s .execution kind))) failureClass cycles) =
      some (foreignItem s .execution kind) := by
  have wf' : (beside s (some (planningRun (foreignItem s .execution kind))) failureClass cycles).WellFormed :=
    beside_wellFormed failureClass cycles wf (by simp [planningRun])
  have running : (beside s (some (planningRun (foreignItem s .execution kind))) failureClass cycles).activeRunsByPlane
      .planning = some (planningRun (foreignItem s .execution kind)) := by
    simp [beside_runs]
  rw [wf'.activeWorkItem_eq, foreground_planning running]
  rfl

theorem counterKey_kind_ne {id id' failureClass failureClass' : String} :
    counterKey (.spec, id) failureClass ≠ counterKey (.incident, id') failureClass' := by
  intro same
  have firsts := congrArg (fun key : String => key.toList.head?) same
  have spec : (asStr WorkItemKind.spec).toList = ['s', 'p', 'e', 'c'] := by decide
  have incident : (asStr WorkItemKind.incident).toList = ['i', 'n', 'c', 'i', 'd', 'e', 'n', 't'] := by decide
  simp [counterKey, String.toList_append, spec, incident] at firsts

end Foreign

/-! ## The execution router -/

section Execution
variable {graph : FrozenGraphPlanePlan} {r : StageResultEnvelope} {s : RuntimeSnapshot} {counters : RecoveryCounters}
variable {policy : CompiledGraphThresholdPolicyPlan}

theorem routeExecutionWithinThresholds_error {e : RuntimeTickError}
    (failed : routeExecutionWithinThresholds graph s r = .error e) :
    (∃ target, withinTarget graph r = some target ∧ stageAt graph target = .error e) ∨
      e = .unsupportedResumeSource r.stageKindId ∨ e = .missingTransition r.nodeId r.outcome ∨
      e = .unsupportedExecutionTerminal r.stageKindId r.outcome ∨
      (r.outcome = "BLOCKED" ∧ resolveFailureClass s r (blockedReason r) = .error e) := by
  unfold routeExecutionWithinThresholds at failed
  cases resumes : resumePolicyForSource graph r.nodeId r.outcome with
  | some policy =>
    simp only [resumes, decisionFromResumePolicy] at failed
    simp only [withinTarget, resumes]
    split at failed
    next kind => exact .inl ⟨_, by simp [kind], runStageDecision_error.mp failed⟩
    next =>
      split at failed
      next kind => exact .inl ⟨_, by simp [kind], runStageDecision_error.mp failed⟩
      next =>
        split at failed
        next kind => exact .inl ⟨_, by simp [kind], runStageDecision_error.mp failed⟩
        next => exact .inr (.inl (Except.error.inj failed).symm)
  | none =>
    simp only [resumes] at failed
    cases found : transitionForSource graph r.nodeId r.outcome with
    | error e' =>
      obtain rfl : e' = e := by simpa [found] using failed
      unfold transitionForSource at found
      split at found
      · cases found
      · exact .inr (.inr (.inl (Except.error.inj found).symm))
    | ok transition =>
      simp only [found, ok_bind] at failed
      cases leads : transition.targetNodeId with
      | none =>
        simp only [leads, executionTerminalDecision] at failed
        split at failed
        · cases failed
        · split at failed
          · cases failed
          · split at failed
            · cases failed
            · exact .inr (.inr (.inr (.inl (Except.error.inj failed).symm)))
      | some target =>
        have within : withinTarget graph r = some target := by simp [withinTarget, resumes, edgeTarget_eq found, leads]
        simp only [leads] at failed
        split at failed
        · exact .inl ⟨target, within, runStageDecision_error.mp failed⟩
        · split at failed
          next blocked =>
            cases resolved : resolveFailureClass s r (blockedReason r) with
            | error e' =>
              obtain rfl : e' = e := by simpa [recoveryEdgeDecision, resolved] using failed
              exact .inr (.inr (.inr (.inr ⟨blocked, rfl⟩)))
            | ok failureClass =>
              have normal := resolveFailureClass_normal resolved
              simp only [recoveryEdgeDecision, resolved, ok_bind, counterKeyFromSnapshot_eq normal] at failed
              exact .inl ⟨target, within, runStageDecision_error.mp failed⟩
          next => exact .inl ⟨target, within, runStageDecision_error.mp failed⟩

theorem within_not_emptyFailureClass
    (resolved : r.outcome = "BLOCKED" → ∃ failureClass, resolveFailureClass s r (blockedReason r) = .ok failureClass) :
    routeExecutionWithinThresholds graph s r ≠ .error .emptyFailureClass := by
  intro failed
  obtain ⟨target, -, stuck⟩ | impossible | impossible | impossible | ⟨blocked, failed⟩ :=
    routeExecutionWithinThresholds_error failed
  · obtain ⟨_, impossible⟩ | ⟨_, impossible⟩ := stageAt_error stuck <;> cases impossible
  · cases impossible
  · cases impossible
  · cases impossible
  · obtain ⟨failureClass, ok⟩ := resolved blocked
    rw [ok] at failed
    cases failed

theorem exhausted_not_emptyFailureClass {failureClass reason : String} {key : Option String} :
    exhaustedDecision graph policy failureClass reason key ≠ .error .emptyFailureClass := by
  intro failed
  obtain ⟨target, -, stuck⟩ | impossible | ⟨_, impossible⟩ | ⟨_, impossible⟩ := exhaustedDecision_error failed
  · obtain ⟨_, impossible⟩ | ⟨_, impossible⟩ := stageAt_error stuck <;> cases impossible
  · cases impossible
  · cases impossible
  · cases impossible

/-- Both routes end in the same error only where they lead to nodes that fail alike. -/
theorem StuckAlike.of_errors {e : RuntimeTickError} {failureClass reason : String} {key : Option String}
    (exhausted : exhaustedDecision graph policy failureClass reason key = .error e)
    (within : routeExecutionWithinThresholds graph s r = .error e) : StuckAlike graph r policy := by
  obtain ⟨target, leads, stuck⟩ | rfl | ⟨_, rfl⟩ | ⟨_, rfl⟩ := exhaustedDecision_error exhausted
  · obtain ⟨other, within, alike⟩ | rfl | rfl | rfl | ⟨-, failed⟩ := routeExecutionWithinThresholds_error within
    · exact ⟨target, other, e, leads, within, stuck, alike⟩
    · obtain ⟨_, impossible⟩ | ⟨_, impossible⟩ := stageAt_error stuck <;> cases impossible
    · obtain ⟨_, impossible⟩ | ⟨_, impossible⟩ := stageAt_error stuck <;> cases impossible
    · obtain ⟨_, impossible⟩ | ⟨_, impossible⟩ := stageAt_error stuck <;> cases impossible
    · obtain rfl := resolveFailureClass_error failed
      exact absurd exhausted exhausted_not_emptyFailureClass
  all_goals
    obtain ⟨other, -, alike⟩ | impossible | impossible | impossible | ⟨-, failed⟩ :=
      routeExecutionWithinThresholds_error within
    · obtain ⟨_, impossible⟩ | ⟨_, impossible⟩ := stageAt_error alike <;> cases impossible
    · cases impossible
    · cases impossible
    · cases impossible
    · exact absurd (resolveFailureClass_error failed) (by simp)

theorem routeExecution_fix_fresh (graph : FrozenGraphPlanePlan) (counters : RecoveryCounters) (fix : r.outcome = "FIX_NEEDED") (cycles : s.fixCycleCount = 0) :
    routeExecutionStageResult graph s r counters = routeExecutionWithinThresholds graph s r := by
  have none : exhaustedFixCycles graph s r = none := by
    rw [exhaustedFixCycles, if_pos fix, Option.filter_eq_none_iff]
    intro policy _
    have positive := policy.positive
    simp only [cycles, decide_eq_true_eq]
    omega
  simp [routeExecutionStageResult, none, fix]

theorem routeExecution_fix_exhausted (counters : RecoveryCounters) (fix : r.outcome = "FIX_NEEDED")
    (found : thresholdPolicyForSource graph r.nodeId r.outcome .fixCycleCount = some policy)
    (reached : policy.threshold ≤ s.fixCycleCount) :
    routeExecutionStageResult graph s r counters =
      (resolveFailureClass s r "fix_cycle_exhausted" >>= fun failureClass =>
        decisionFromThresholdResolution graph s policy failureClass "fix_cycle_exhausted") := by
  have exhausted : exhaustedFixCycles graph s r = some policy := by
    rw [exhaustedFixCycles, if_pos fix, found, Option.filter_some_pos (by simpa using reached)]
  simp only [routeExecutionStageResult, exhausted]

theorem routeExecution_blocked (graph : FrozenGraphPlanePlan) (counters : RecoveryCounters) {failureClass : String}
    (blocked : r.outcome = "BLOCKED")
    (kind : r.stageKindId ≠ "consultant") (resolved : resolveFailureClass s r (blockedReason r) = .ok failureClass) :
    routeExecutionStageResult graph s r counters =
      match (thresholdPolicyForSource graph r.nodeId r.outcome .troubleshootAttemptCount).filter fun policy =>
          policy.threshold ≤ (activeWorkItem s).elim 0 (attemptsFor counters · failureClass .execution) with
      | some policy => exhaustedDecision graph policy failureClass (blockedReason r)
          ((activeWorkItem s).map (counterKey · failureClass))
      | none => routeExecutionWithinThresholds graph s r := by
  have none : exhaustedFixCycles graph s r = none := by simp [exhaustedFixCycles, blocked]
  have normal := resolveFailureClass_normal resolved
  have counted := And.intro blocked kind
  cases spent : (thresholdPolicyForSource graph r.nodeId r.outcome .troubleshootAttemptCount).filter fun policy =>
      policy.threshold ≤ (activeWorkItem s).elim 0 (attemptsFor counters · failureClass .execution) <;>
    simp only [routeExecutionStageResult, none, if_pos counted, resolved, ok_bind,
      exhaustedAttempts_eq _ _ _ _ _ _ normal, decisionFromThresholdResolution_eq _ normal, spent]

theorem within_fix_failureClass {d : RouterDecision} (fix : r.outcome = "FIX_NEEDED")
    (ok : routeExecutionWithinThresholds graph s r = .ok d) : d.failureClass = none := by
  unfold routeExecutionWithinThresholds at ok
  cases resumes : resumePolicyForSource graph r.nodeId r.outcome with
  | some policy =>
    simp only [resumes, decisionFromResumePolicy] at ok
    split at ok
    · obtain ⟨found, -, rfl⟩ := runStageDecision_ok.mp ok
      rfl
    · split at ok
      · obtain ⟨found, -, rfl⟩ := runStageDecision_ok.mp ok
        rfl
      · split at ok
        · obtain ⟨found, -, rfl⟩ := runStageDecision_ok.mp ok
          rfl
        · cases ok
  | none =>
    simp only [resumes] at ok
    obtain ⟨transition, -, ok⟩ := bind_eq_ok.mp ok
    cases leads : transition.targetNodeId with
    | some target =>
      simp only [leads, if_pos fix] at ok
      obtain ⟨found, -, rfl⟩ := runStageDecision_ok.mp ok
      rfl
    | none => simp [leads, executionTerminalDecision, fix] at ok

section Edges
variable {transition : CompiledGraphTransitionPlan} (noResume : resumePolicyForSource graph r.nodeId r.outcome = none)
  (found : transitionForSource graph r.nodeId r.outcome = .ok transition)
include noResume found

theorem within_blocked_edge {target : String} (blocked : r.outcome = "BLOCKED")
    (leads : transition.targetNodeId = some target) :
    routeExecutionWithinThresholds graph s r = recoveryEdgeDecision graph s r target := by
  rw [routeExecutionWithinThresholds, noResume, found]
  simp [leads, blocked]

theorem within_terminal (leads : transition.targetNodeId = none) :
    routeExecutionWithinThresholds graph s r = executionTerminalDecision s r := by
  rw [routeExecutionWithinThresholds, noResume, found]
  simp [leads]

end Edges

/-- The two states of the runtime that are compared cannot be told apart by the router. -/
def Undisturbed (graph : FrozenGraphPlanePlan) (r : StageResultEnvelope) (s : RuntimeSnapshot)
    (counters : RecoveryCounters) : Prop :=
  ∀ s' counters', s'.WellFormed → AgreeOn .execution s s' counters counters' →
    routeExecutionStageResult graph s' r counters' = routeExecutionStageResult graph s r counters

section Undisturbed
variable (wf : s.WellFormed) (undisturbed : Undisturbed graph r s counters)
include wf undisturbed

theorem Undisturbed.beside (failureClass : Option String) (cycles : Nat) :
    routeExecutionStageResult graph (beside s (s.activeRunsByPlane .planning) failureClass cycles) r counters =
      routeExecutionStageResult graph s r counters :=
  have agreeing := beside_same_runs failureClass cycles wf .execution counters
  undisturbed _ _ agreeing.1 agreeing.2

theorem Undisturbed.fix (fix : r.outcome = "FIX_NEEDED")
    (found : thresholdPolicyForSource graph r.nodeId r.outcome .fixCycleCount = some policy) :
    (∃ failureClass, statedClass r = some (.ok failureClass)) ∧ StuckAlike graph r policy := by
  have fresh := routeExecution_fix_fresh graph counters fix
    (beside_cycles s (s.activeRunsByPlane .planning) none 0)
  have exhausted := routeExecution_fix_exhausted counters fix found
    (beside_cycles s (s.activeRunsByPlane .planning) (some "-") policy.threshold).ge
  rw [undisturbed.beside wf] at fresh exhausted
  rw [fresh] at exhausted
  have empty : resolveFailureClass (Runtime.beside s (s.activeRunsByPlane .planning) (some "-") policy.threshold) r
      "fix_cycle_exhausted" ≠ .error .emptyFailureClass := by
    intro failed
    rw [failed, error_bind] at exhausted
    exact within_not_emptyFailureClass (by simp [fix]) exhausted
  cases stated : statedClass r with
  | none => exact absurd (resolveFailureClass_dash stated (beside_failureClass ..) _) empty
  | some given =>
    rw [resolveFailureClass_stated stated] at empty exhausted
    cases given with
    | error e => exact absurd (congrArg Except.error (statedClass_error stated)) empty
    | ok failureClass =>
      refine ⟨⟨failureClass, rfl⟩, ?_⟩
      rw [ok_bind, decisionFromThresholdResolution_eq _ (statedClass_normal stated)] at exhausted
      cases routed : routeExecutionWithinThresholds graph (Runtime.beside s (s.activeRunsByPlane .planning) none 0) r with
      | error e => exact .of_errors (exhausted.symm.trans routed) routed
      | ok d =>
        have named := (exhaustedDecision_ok (exhausted.symm.trans routed)).1
        rw [within_fix_failureClass fix routed] at named
        cases named

/-- A blocked result takes its failure class from whatever result came before it. -/
theorem Undisturbed.unstated (blocked : r.outcome = "BLOCKED") (unstated : statedClass r = none) :
    r.stageKindId = "consultant" ∧ ((resumePolicyForSource graph r.nodeId r.outcome).isSome ∨
      (transitionForSource graph r.nodeId r.outcome).toOption = none) := by
  have fresh := undisturbed.beside wf none 0
  have dashed := undisturbed.beside wf (some "-") 0
  have same := dashed.trans fresh.symm
  have failed := resolveFailureClass_dash (s := Runtime.beside s (s.activeRunsByPlane .planning) (some "-") 0) unstated
    (beside_failureClass ..) (blockedReason r)
  obtain ⟨failureClass, normal⟩ := normalizeFailureClass_blocked r.stageKindId
  have resolved : resolveFailureClass (Runtime.beside s (s.activeRunsByPlane .planning) none 0) r (blockedReason r) =
      .ok failureClass := (resolveFailureClass_default unstated (beside_failureClass ..) _).trans normal
  by_cases kind : r.stageKindId = "consultant"
  · refine ⟨kind, ?_⟩
    have routed : ∀ s', routeExecutionStageResult graph s' r counters = routeExecutionWithinThresholds graph s' r := by
      intro s'
      simp [routeExecutionStageResult, exhaustedFixCycles, blocked, kind]
    rw [routed, routed] at same
    by_contra neither
    obtain ⟨noResume, found⟩ := not_or.mp neither
    rw [Bool.not_eq_true, Option.isSome_eq_false_iff, Option.isNone_iff_eq_none] at noResume
    cases found' : transitionForSource graph r.nodeId r.outcome with
    | error e => simp [found', Except.toOption] at found
    | ok transition =>
      cases leads : transition.targetNodeId with
      | none =>
        -- the consultant ends blocked under the failure class, or under none where it fails
        rw [within_terminal noResume found' leads, within_terminal noResume found' leads] at same
        rw [blockedReason, kind, show "consultant" ++ "_blocked" = "consultant_blocked" from rfl] at failed resolved
        simp [executionTerminalDecision, kind, blocked, failed, resolved, Except.toOption, blockedDecision,
          endingDecision] at same
      | some target =>
        have fails : routeExecutionWithinThresholds graph
            (Runtime.beside s (s.activeRunsByPlane .planning) (some "-") 0) r = .error .emptyFailureClass := by
          rw [within_blocked_edge noResume found' blocked leads, recoveryEdgeDecision, failed, error_bind]
        exact absurd (same.symm.trans fails) (within_not_emptyFailureClass fun _ => ⟨failureClass, resolved⟩)
  · have fails : routeExecutionStageResult graph (Runtime.beside s (s.activeRunsByPlane .planning) (some "-") 0) r
        counters = .error .emptyFailureClass := by
      simp [routeExecutionStageResult, exhaustedFixCycles, blocked, kind, failed]
    have routed := routeExecution_blocked graph counters blocked kind resolved
    rw [← same, fails] at routed
    split at routed
    · exact absurd routed.symm exhausted_not_emptyFailureClass
    · exact absurd routed.symm (within_not_emptyFailureClass fun _ => ⟨failureClass, resolved⟩)

theorem Undisturbed.foreign (kind : WorkItemKind) (extra : RecoveryCounters)
    (foreign : ∀ e ∈ extra, e.ofItem (foreignItem s .execution kind) = true) :
    routeExecutionStageResult graph (Runtime.beside s (some (planningRun (foreignItem s .execution kind))) none 0) r
      (extra ++ ownEntries s .execution counters) = routeExecutionStageResult graph s r counters :=
  have agreeing := agree_foreign counters wf none 0 kind extra foreign
  undisturbed _ _ agreeing.1 agreeing.2

theorem Undisturbed.within {failureClass : String} (blocked : r.outcome = "BLOCKED")
    (stated : statedClass r = some (.ok failureClass)) (kind : WorkItemKind) :
    routeExecutionWithinThresholds graph
      (Runtime.beside s (some (planningRun (foreignItem s .execution kind))) none 0) r =
        routeExecutionStageResult graph s r counters := by
  rw [← undisturbed.foreign wf kind [] (by simp), List.nil_append]
  by_cases consultant : r.stageKindId = "consultant"
  · simp [routeExecutionStageResult, exhaustedFixCycles, blocked, consultant]
  · rw [routeExecution_blocked _ _ blocked consultant (resolveFailureClass_stated stated _)]
    have unreached : (thresholdPolicyForSource graph r.nodeId r.outcome .troubleshootAttemptCount).filter
        (fun policy => policy.threshold ≤ (some (foreignItem s .execution kind)).elim 0
          (attemptsFor (ownEntries s .execution counters) · failureClass .execution)) = none := by
      refine Option.filter_eq_none_iff.mpr fun policy _ reached => ?_
      have positive := policy.positive
      simp only [Option.elim_some, attemptsFor_foreign, decide_eq_true_eq] at reached
      omega
    rw [activeWorkItem_foreign wf, unreached]

theorem Undisturbed.edge {failureClass : String} (blocked : r.outcome = "BLOCKED")
    (stated : statedClass r = some (.ok failureClass))
    (noResume : resumePolicyForSource graph r.nodeId r.outcome = none) {target : String}
    (leads : edgeTarget graph r = some target) : (stageAt graph target).toOption = none := by
  have same := (undisturbed.within wf blocked stated .spec).trans (undisturbed.within wf blocked stated .incident).symm
  cases found : transitionForSource graph r.nodeId r.outcome with
  | error e => simp [edgeTarget, found, Except.toOption] at leads
  | ok transition =>
    rw [edgeTarget_eq found] at leads
    rw [within_blocked_edge noResume found blocked leads, within_blocked_edge noResume found blocked leads,
      recoveryEdgeDecision_eq (resolveFailureClass_stated stated _),
      recoveryEdgeDecision_eq (resolveFailureClass_stated stated _), activeWorkItem_foreign wf,
      activeWorkItem_foreign wf, runStageDecision_eq, runStageDecision_eq] at same
    cases placed : stageAt graph target with
    | error e => rfl
    | ok node =>
      rw [placed] at same
      have keys := congrArg RouterDecision.counterKey (Except.ok.inj same)
      exact absurd (Option.some.inj keys) counterKey_kind_ne

theorem Undisturbed.threshold {failureClass : String} (blocked : r.outcome = "BLOCKED")
    (stated : statedClass r = some (.ok failureClass)) (kind : r.stageKindId ≠ "consultant")
    (found : thresholdPolicyForSource graph r.nodeId r.outcome .troubleshootAttemptCount = some policy) :
    StuckAlike graph r policy := by
  have normal := statedClass_normal stated
  have exhausted : ∀ itemKind, exhaustedDecision graph policy failureClass (blockedReason r)
      (some (counterKey (foreignItem s .execution itemKind) failureClass)) =
        routeExecutionStageResult graph s r counters := by
    intro itemKind
    have routed := undisturbed.foreign wf itemKind
      [attemptedEntry (foreignItem s .execution itemKind) failureClass policy.threshold]
      (by simp [RecoveryCounterEntry.ofItem, attemptedEntry])
    rw [routeExecution_blocked _ _ blocked kind (resolveFailureClass_stated stated _), activeWorkItem_foreign wf,
      List.singleton_append, found, Option.filter_some_pos (by simp [attemptsFor_attempted _ normal])] at routed
    exact routed
  cases outcome : routeExecutionStageResult graph s r counters with
  | error e => exact .of_errors ((exhausted .spec).trans outcome) ((undisturbed.within wf blocked stated .spec).trans outcome)
  | ok d =>
    have spec := (exhaustedDecision_ok ((exhausted .spec).trans outcome)).2
    have incident := (exhaustedDecision_ok ((exhausted .incident).trans outcome)).2
    exact absurd (Option.some.inj (spec.symm.trans incident)) counterKey_kind_ne

/-- The execution router is undisturbed only on results whose route takes nothing from the shared state. -/
theorem Undisturbed.isolated : IsolatedExecution graph r := by
  refine ⟨fun fix policy found => undisturbed.fix wf fix found, fun blocked => ?_⟩
  cases stated : statedClass r with
  | none => exact undisturbed.unstated wf blocked stated
  | some given =>
    cases given with
    | error e => trivial
    | ok failureClass =>
      exact ⟨fun noResume target leads => undisturbed.edge wf blocked stated noResume leads,
        fun kind policy found => undisturbed.threshold wf blocked stated kind found⟩

end Undisturbed

end Execution

/-! ## The planning router -/

section Planning
variable {graph : FrozenGraphPlanePlan} {r : StageResultEnvelope} {s : RuntimeSnapshot} {counters : RecoveryCounters}

theorem planningWithin_not_emptyFailureClass {failureClass : String}
    (resolved : resolveFailureClass s r (blockedReason r) = .ok failureClass) :
    routePlanningWithinThresholds graph s r ≠ .error .emptyFailureClass := by
  have dispatched : ∀ target reason fc key, runStageDecision graph target reason fc key ≠ .error .emptyFailureClass := by
    intro target reason fc key failed
    obtain ⟨_, impossible⟩ | ⟨_, impossible⟩ := stageAt_error (runStageDecision_error.mp failed) <;> cases impossible
  unfold routePlanningWithinThresholds
  cases resumePolicyForSource graph r.nodeId r.outcome with
  | some policy =>
    simp only [decisionFromResumePolicy]
    split
    · exact dispatched _ _ _ _
    · split
      · exact dispatched _ _ _ _
      · split
        · exact dispatched _ _ _ _
        · simp
  | none =>
    cases found : transitionForSource graph r.nodeId r.outcome with
    | error e =>
      unfold transitionForSource at found
      split at found
      · cases found
      · obtain rfl := Except.error.inj found
        simp
    | ok transition =>
      simp only [ok_bind]
      cases transition.targetNodeId with
      | some target =>
        simp only [recoveryEdgeDecision_eq resolved]
        split
        · exact dispatched _ _ _ _
        · exact dispatched _ _ _ _
      | none =>
        simp only [planningTerminalDecision]
        repeat' split
        all_goals simp

/-- On the planning plane only a result that names its failure class is routed the same from every agreeing state. -/
theorem IsolatedPlanning.of_same (wf : s.WellFormed)
    (same : ∀ s' counters', s'.WellFormed → AgreeOn .planning s s' counters counters' →
      routePlanningStageResult graph s' r counters' = routePlanningStageResult graph s r counters) :
    IsolatedPlanning graph r := by
  intro needs
  by_contra none
  have unstated : statedClass r = Option.none := by simpa using none
  have beside := fun failureClass =>
    have agreeing := beside_same_runs failureClass 0 wf .planning counters
    same _ _ agreeing.1 agreeing.2
  have equal := (beside (some "-")).trans (beside Option.none).symm
  by_cases blocked : r.outcome = "BLOCKED"
  · obtain ⟨failureClass, normal⟩ := normalizeFailureClass_blocked r.stageKindId
    have resolved := (resolveFailureClass_default unstated
      (beside_failureClass s (s.activeRunsByPlane .planning) Option.none 0) (blockedReason r)).trans normal
    have failed := resolveFailureClass_dash unstated
      (beside_failureClass s (s.activeRunsByPlane .planning) (some "-") 0) (blockedReason r)
    rw [routePlanningStageResult, routePlanningStageResult, if_pos blocked, if_pos blocked, failed, resolved, error_bind,
      ok_bind, exhaustedAttempts_eq _ _ _ _ _ _ (normalizeFailureClass_idem normal), ok_bind] at equal
    split at equal
    · rw [decisionFromThresholdResolution_eq _ (normalizeFailureClass_idem normal)] at equal
      exact exhausted_not_emptyFailureClass equal.symm
    · exact planningWithin_not_emptyFailureClass resolved equal.symm
  · obtain ⟨kind, outcome, noResume, transition, found, ends⟩ := needs.resolve_left blocked
    have routed : ∀ s', routePlanningStageResult graph s' r counters =
        .ok (blockedDecision "recon_blocked" (resolveFailureClass s' r "recon_blocked").toOption Option.none) := by
      intro s'
      rw [routePlanningStageResult, if_neg blocked, routePlanningWithinThresholds, noResume, found]
      simp [ends, planningTerminalDecision, kind, outcome]
    obtain ⟨failureClass, normal⟩ := normalizeFailureClass_blocked "recon"
    rw [routed, routed, resolveFailureClass_default unstated (beside_failureClass ..),
      resolveFailureClass_dash unstated (beside_failureClass ..),
      show "recon_blocked" = "recon" ++ "_blocked" from rfl, normal] at equal
    simp [Except.toOption, blockedDecision, endingDecision] at equal

end Planning

/-! ## The routers together -/

/-- Results whose routing takes nothing from the runs, failure classes and counters of other planes. -/
def Isolated (plan : CompiledRunPlan) (r : StageResultEnvelope) : Prop :=
  match r.plane with
  | .execution => IsolatedExecution plan.executionGraph r
  | .planning => IsolatedPlanning plan.planningGraph r
  | .learning => True

/-- Another state of the runtime with the same run, the same work item and the same counters on the result's plane is
routed alike exactly when the result names what the routing needs, or is refused. -/
theorem routing_independent_iff (plan : CompiledRunPlan) (s : RuntimeSnapshot) (r : StageResultEnvelope)
    (counters : RecoveryCounters) (wf : s.WellFormed) :
    (∀ s' counters', s'.WellFormed → AgreeOn r.plane s s' counters counters' →
      routeStageResultFromGraph plan s' r counters' = routeStageResultFromGraph plan s r counters) ↔
    (validateStageResultMatchesSnapshot s r ≠ .ok () ∨ Isolated plan r) := by
  cases valid : validateStageResultMatchesSnapshot s r with
  | error e =>
    refine iff_of_true (fun s' counters' wf' agree => ?_) (.inl (by simp))
    rw [routeStageResultFromGraph, routeStageResultFromGraph, agree.validate wf wf', valid]
    rfl
  | ok _ =>
    obtain ⟨run, running⟩ := validate_run wf valid
    have routed : ∀ {s' counters'}, s'.WellFormed → AgreeOn r.plane s s' counters counters' →
        routeStageResultFromGraph plan s' r counters' = (graphForPlane plan r.plane >>= fun graph =>
          match r.plane with
          | .execution => routeExecutionStageResult graph s' r counters'
          | .planning => routePlanningStageResult graph s' r counters'
          | .learning => routeLearningStageResult graph r) := by
      intro s' counters' wf' agree
      rw [routeStageResultFromGraph, agree.validate wf wf', valid]
      rfl
    have itself : AgreeOn r.plane s s counters counters := ⟨rfl, fun _ _ _ _ => rfl⟩
    have whole := routed wf itself
    unfold Isolated
    simp only [ne_eq, not_true_eq_false, false_or]
    cases on : r.plane with
    | execution =>
      simp only [on, graphForPlane, ok_bind] at routed whole
      constructor
      · intro same
        have undisturbed : Undisturbed plan.executionGraph r s counters := by
          intro s' counters' wf' agree
          rw [← whole, ← routed wf' agree]
          exact same s' counters' wf' agree
        exact undisturbed.isolated wf
      · intro isolated s' counters' wf' agree
        rw [routed wf' agree, whole]
        exact isolated.route_eq
    | planning =>
      simp only [on, graphForPlane, ok_bind] at routed whole running
      constructor
      · intro same
        have alike : ∀ s' counters', s'.WellFormed → AgreeOn .planning s s' counters counters' →
            routePlanningStageResult plan.planningGraph s' r counters' =
              routePlanningStageResult plan.planningGraph s r counters := by
          intro s' counters' wf' agree
          rw [← whole, ← routed wf' agree]
          exact same s' counters' wf' agree
        exact IsolatedPlanning.of_same wf alike
      · intro isolated s' counters' wf' agree
        rw [routed wf' agree, whole]
        exact isolated.route_eq wf wf' agree running
    | learning =>
      simp only [on] at routed whole
      refine iff_of_true (fun s' counters' wf' agree => ?_) trivial
      rw [routed wf' agree, whole]

/-! ## A builder that is blocked while the planner runs -/

def builderRun : ActiveRunState where
  plane := .execution
  stage := .builder
  nodeId := "builder"
  stageKindId := "builder"
  runId := "run-execution"
  requestKind := .activeWorkItem
  workItemKind := some .task
  workItemId := some "task-1"
  closureTargetRootSpecId := none
  activeSince := "2026-01-01T00:00:00Z"

def builderAlone : RuntimeSnapshot := .started fun plane => if plane = .execution then some builderRun else none

def builderBesidePlanner : RuntimeSnapshot := beside builderAlone (some (planningRun (.spec, "spec-1"))) none 0

def builderBlocked : StageResultEnvelope where
  runId := "run-execution"
  plane := .execution
  stage := .builder
  nodeId := "builder"
  stageKindId := "builder"
  workItemKind := .task
  workItemId := "task-1"
  terminalResult := .execution .blocked
  metadata := [("failure_class", .text "compile_error")]
  ofPlane := rfl

/-- The task has used up its two attempts. -/
def builderAttempts : RecoveryCounters := [attemptedEntry (.task, "task-1") "compile_error" 2]

theorem builderAlone_wellFormed : builderAlone.WellFormed := by
  unfold builderAlone RuntimeSnapshot.started
  refine wellFormed_project fun plane run found => ?_
  simp only at found
  split at found
  next same =>
    obtain rfl := Option.some.inj found
    exact same.symm
  next => cases found

/-- Alone the builder is escalated to the consultant; beside a planner's run it is sent to the troubleshooter again. -/
theorem builder_blocked_beside_planner :
    builderAlone.WellFormed ∧ builderBesidePlanner.WellFormed ∧
    AgreeOn .execution builderAlone builderBesidePlanner builderAttempts builderAttempts ∧
    (routeStageResultFromGraph standardPlan builderAlone builderBlocked builderAttempts).map (·.nextNodeId) =
      .ok (some "consultant") ∧
    (routeStageResultFromGraph standardPlan builderBesidePlanner builderBlocked builderAttempts).map (·.nextNodeId) =
      .ok (some "troubleshooter") := by
  refine ⟨builderAlone_wellFormed, beside_wellFormed _ _ builderAlone_wellFormed (by simp [planningRun]),
    ⟨rfl, fun _ _ _ _ => rfl⟩, ?_, ?_⟩
  · decide +kernel
  · decide +kernel

theorem builder_blocked_disturbed :
    ¬∀ s' counters', s'.WellFormed → AgreeOn builderBlocked.plane builderAlone s' builderAttempts counters' →
      routeStageResultFromGraph standardPlan s' builderBlocked counters' =
        routeStageResultFromGraph standardPlan builderAlone builderBlocked builderAttempts := by
  intro same
  obtain refused | isolated :=
    (routing_independent_iff standardPlan builderAlone builderBlocked builderAttempts builderAlone_wellFormed).mp same
  · exact refused (by decide +kernel)
  · have stated : statedClass builderBlocked = some (.ok "compile_error") := by decide +kernel
    have edges := isolated.2 rfl
    rw [stated] at edges
    exact absurd (edges.1 (by decide +kernel) "troubleshooter" (by decide +kernel)) (by decide +kernel)

end Millrace.Runtime

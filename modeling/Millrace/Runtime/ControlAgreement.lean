import Millrace.Runtime.Control

/-! When a command leaves the same state behind, executed directly or through the mailbox. -/

set_option autoImplicit false

namespace Millrace.Control
open Millrace.Text Millrace.Contracts Millrace.WorkDocuments Millrace.Runtime
open Millrace.Queue (World Environment Workspace StoreM requeueAllActiveItems)

/-! ## The pause sources after an evaluation -/

/-- The evaluation finds usage governance to pause the runtime, whose snapshot lists its source or not. -/
def governancePauses (config : UsageGovernanceConfig) (blockers : List UsageGovernanceBlocker) (listed : Bool) : Bool :=
  config.enabled && (!blockers.isEmpty || listed && !config.autoResume)

/-- The evaluation puts the sources in their order. -/
def reorders (config : UsageGovernanceConfig) (blockers : List UsageGovernanceBlocker) : Bool :=
  config.enabled && !blockers.isEmpty

/-- The flag is set exactly where there is a source. -/
def Flagged (w : PauseWorkspace) : Prop := w.paused = !w.pauseSources.isEmpty

section Sources
variable (config : UsageGovernanceConfig) (blockers : List UsageGovernanceBlocker)

def governedSources (sources : List PauseSource) : List PauseSource :=
  if reorders config blockers then orderedPauseSources (sources ++ [.usageGovernance])
  else if sources.contains .usageGovernance && !governancePauses config blockers true then
    orderedPauseSources (sources.filter (· ≠ .usageGovernance))
  else sources

variable {config blockers} {w w' : PauseWorkspace} {sources : List PauseSource}

theorem orderedPauseSources_append (sources : List PauseSource) :
    orderedPauseSources (if sources.contains .usageGovernance then sources else sources ++ [.usageGovernance]) =
      orderedPauseSources (sources ++ [.usageGovernance]) := by
  split
  next listed => simp [orderedPauseSources, List.contains_iff_mem.mp listed]
  next => rfl

theorem applyUsageGovernance_sources {state : UsageGovernanceState}
    (found : config.enabled = true → state.activeBlockers = blockers) :
    (applyUsageGovernance config state w).pauseSources = governedSources config blockers w.pauseSources := by
  unfold applyUsageGovernance governedSources reorders governancePauses hasGovernancePauseSource
  cases enabled : config.enabled with
  | false =>
    cases w.pauseSources.contains .usageGovernance with
    | false => rfl
    | true => rfl
  | true =>
    rw [found enabled]
    cases blockers with
    | cons blocker rest => exact orderedPauseSources_append _
    | nil =>
      cases listed : w.pauseSources.contains .usageGovernance with
      | false => rfl
      | true =>
        cases config.autoResume with
        | false => rfl
        | true => rfl

theorem evaluateUsageGovernance_blockers (enabled : config.enabled = true) (pausedByGovernance : Bool)
    (file : Option UsageGovernanceState) :
    (evaluateUsageGovernance config blockers pausedByGovernance file).1.activeBlockers = blockers := by
  unfold evaluateUsageGovernance
  rw [enabled]
  rfl

theorem evaluate_sources : (evaluateAndApplyUsageGovernance config blockers w).pauseSources =
    governedSources config blockers w.pauseSources := by
  unfold evaluateAndApplyUsageGovernance
  split
  next skipped =>
    obtain ⟨⟨disabled, -⟩, unlisted⟩ : (config.enabled = false ∧ w.usageGovernanceStateFile = none) ∧
        hasGovernancePauseSource w = false := by
      simpa [shouldEvaluateUsageGovernance] using skipped
    unfold hasGovernancePauseSource at unlisted
    unfold governedSources reorders
    rw [disabled, unlisted]
    rfl
  next =>
    have found : config.enabled = true → (evaluateUsageGovernance config blockers (hasGovernancePauseSource w)
        w.usageGovernanceStateFile).1.activeBlockers = blockers :=
      fun enabled => evaluateUsageGovernance_blockers enabled _ _
    revert found
    obtain ⟨state, file⟩ :=
      evaluateUsageGovernance config blockers (hasGovernancePauseSource w) w.usageGovernanceStateFile
    intro found
    exact (recordGovernancePause_fields _ _).sources.trans (applyUsageGovernance_sources found)

theorem addGovernancePauseSource_flagged : Flagged (addGovernancePauseSource w) := by
  have stopped : (addGovernancePauseSource w).pauseSources ≠ [] := by
    have listed := (mem_addGovernancePauseSource (w := w) PauseSource.usageGovernance).mpr (.inr rfl)
    exact ne_nil_of_mem listed
  exact ((Runtime.not_isEmpty_iff _).mpr stopped).symm

theorem evaluate_flagged (flagged : Flagged w) : Flagged (evaluateAndApplyUsageGovernance config blockers w) := by
  obtain same | same | ⟨-, same⟩ := evaluateAndApplyUsageGovernance_cases w config blockers
  · rwa [Flagged, same.paused, same.sources]
  · rw [Flagged, same.paused, same.sources]
    exact addGovernancePauseSource_flagged
  · rw [Flagged, same.paused, same.sources]
    rfl

/-! ## Saved pause fields -/

theorem normalizePauseSources_flagged (w : PauseWorkspace) : Flagged w.normalizePauseSources := by
  unfold PauseWorkspace.normalizePauseSources Flagged
  cases empty : (dedup w.pauseSources).isEmpty with
  | false => simp [empty]
  | true =>
    cases paused : w.paused with
    | false => simp [empty]
    | true => simp [List.isEmpty_iff.mp empty]

/-- What is saved of flagged pause fields is their list without equal neighbours. -/
theorem normalizePauseSources_of_flagged (flagged : Flagged w) :
    w.normalizePauseSources.paused = w.paused ∧ w.normalizePauseSources.pauseSources = dedup w.pauseSources := by
  unfold PauseWorkspace.normalizePauseSources
  unfold Flagged at flagged
  have emptied := dedup_eq_nil_iff w.pauseSources
  cases sources : w.pauseSources with
  | nil => simp [flagged, sources, dedup]
  | cons source rest =>
    rw [sources] at emptied
    have kept : (dedup (source :: rest)).isEmpty = false := by simpa using emptied
    simp [kept, flagged, sources]

theorem samePause_iff (flagged : Flagged w) (flagged' : Flagged w') :
    (w.normalizePauseSources.paused = w'.normalizePauseSources.paused ∧
      w.normalizePauseSources.pauseSources = w'.normalizePauseSources.pauseSources) ↔
    dedup w.pauseSources = dedup w'.pauseSources := by
  obtain ⟨paused, sources⟩ := normalizePauseSources_of_flagged flagged
  obtain ⟨paused', sources'⟩ := normalizePauseSources_of_flagged flagged'
  rw [paused, sources, paused', sources']
  refine ⟨And.right, fun same => ⟨?_, same⟩⟩
  have empty : w.pauseSources = [] ↔ w'.pauseSources = [] := by
    rw [← dedup_eq_nil_iff w.pauseSources, same, dedup_eq_nil_iff]
  rw [flagged, flagged', Bool.eq_iff_iff, Runtime.not_isEmpty_iff, Runtime.not_isEmpty_iff]
  exact not_congr empty

theorem normalizePauseSources_saved (w : PauseWorkspace) :
    dedup w.normalizePauseSources.pauseSources = w.normalizePauseSources.pauseSources := by
  unfold PauseWorkspace.normalizePauseSources
  cases empty : (dedup w.pauseSources).isEmpty with
  | false => simp [empty, dedup_dedup]
  | true =>
    have none : dedup w.pauseSources = [] := List.isEmpty_iff.mp empty
    cases w.paused with
    | false => simp [none, dedup]
    | true => simp [none, dedup]

/-! ## Lists of pause sources -/

theorem orderedPauseSources_of_mem {sources sources' : List PauseSource}
    (same : ∀ source, source ∈ sources ↔ source ∈ sources') :
    orderedPauseSources sources = orderedPauseSources sources' := by
  simp [orderedPauseSources, same]

theorem dedup_orderedPauseSources (sources : List PauseSource) :
    dedup (orderedPauseSources sources) = orderedPauseSources sources :=
  dedup_of_nodup (nodup_orderedPauseSources sources)

/-- Copies of one source are saved as that source. -/
theorem dedup_of_all {source : PauseSource} (filled : sources ≠ []) (all : ∀ other ∈ sources, other = source) :
    dedup sources = [source] := by
  induction sources with
  | nil => exact absurd rfl filled
  | cons first rest ih =>
    obtain rfl := all first List.mem_cons_self
    cases rest with
    | nil => rfl
    | cons second rest =>
      obtain rfl := all second (List.mem_cons_of_mem _ List.mem_cons_self)
      rw [dedup, if_pos rfl]
      exact ih (List.cons_ne_nil _ _) fun other member => all other (List.mem_cons_of_mem _ member)

theorem governancePauses_of_reorders (ordered : reorders config blockers = true) (listed : Bool) :
    governancePauses config blockers listed = true := by
  obtain ⟨enabled, blocked⟩ : config.enabled = true ∧ (!blockers.isEmpty) = true := by
    simpa only [reorders, Bool.and_eq_true] using ordered
  rw [governancePauses, enabled, blocked]
  rfl

theorem governancePauses_unlisted : governancePauses config blockers false = reorders config blockers := by
  simp [governancePauses, reorders]

theorem eq_operator {source : PauseSource} (other : source ≠ .usageGovernance) : source = .operator := by
  cases source with
  | operator => rfl
  | usageGovernance => exact absurd rfl other

theorem eq_usageGovernance {source : PauseSource} (other : source ≠ .operator) : source = .usageGovernance := by
  cases source with
  | operator => exact absurd rfl other
  | usageGovernance => rfl

theorem settled_sources_iff (saved : dedup sources = sources) :
    sources = dedup (governedSources config blockers sources) ↔
      governancePauses config blockers (sources.contains .usageGovernance) = sources.contains .usageGovernance ∧
        (reorders config blockers = true → orderedPauseSources sources = sources) := by
  unfold governedSources
  cases ordered : reorders config blockers with
  | true =>
    rw [if_pos rfl, dedup_orderedPauseSources, governancePauses_of_reorders ordered]
    cases listed : sources.contains .usageGovernance with
    | true =>
      have member := List.contains_iff_mem.mp listed
      rw [@orderedPauseSources_of_mem _ sources fun source => by aesop]
      simp [eq_comm]
    | false =>
      refine iff_of_false (fun same => ?_) (by simp)
      have absent : PauseSource.usageGovernance ∉ sources := by simpa using listed
      rw [same, mem_orderedPauseSources] at absent
      simp at absent
  | false =>
    cases listed : sources.contains .usageGovernance with
    | false => simp [governancePauses_unlisted, ordered, saved]
    | true =>
      cases pauses : governancePauses config blockers true with
      | true => simp [saved]
      | false =>
        refine iff_of_false (fun same => ?_) (by simp)
        have member := List.contains_iff_mem.mp listed
        rw [same] at member
        simp [dedup_orderedPauseSources] at member

theorem resumed_sources_iff (held : Bool) :
    (if held then [PauseSource.usageGovernance] else []) =
        dedup (governedSources config blockers (sources.filter (· ≠ .operator))) ↔
      governancePauses config blockers (sources.contains .usageGovernance) = held := by
  have kept : (sources.filter (· ≠ .operator)).contains .usageGovernance = sources.contains .usageGovernance := by
    simp
  unfold governedSources
  rw [kept]
  cases ordered : reorders config blockers with
  | true =>
    rw [if_pos rfl, dedup_orderedPauseSources, governancePauses_of_reorders ordered]
    cases held <;> simp [orderedPauseSources]
  | false =>
    cases listed : sources.contains .usageGovernance with
    | false =>
      have gone : sources.filter (· ≠ .operator) = [] := by
        rw [List.filter_eq_nil_iff]
        intro source member
        have absent : source ≠ .usageGovernance := fun same => by simp [← same, member] at listed
        simp [eq_operator absent]
      rw [gone, governancePauses_unlisted, ordered]
      cases held <;> simp [dedup]
    | true =>
      cases pauses : governancePauses config blockers true with
      | true =>
        have all : dedup (sources.filter (· ≠ .operator)) = [.usageGovernance] := by
          apply dedup_of_all
          · exact ne_nil_of_mem (List.contains_iff_mem.mp (kept.trans listed))
          · intro other member
            exact eq_usageGovernance (by simpa using (List.mem_filter.mp member).2)
        simp only [Bool.not_true, Bool.and_false, Bool.false_eq_true, if_false, all]
        cases held <;> simp
      | false =>
        simp [orderedPauseSources, dedup]

/-- The list of the mailbox's pause command. -/
def pushOperator (sources : List PauseSource) : List PauseSource :=
  if sources.contains .operator then sources else sources ++ [.operator]

theorem operator_mem_pushOperator (sources : List PauseSource) : .operator ∈ pushOperator sources := by
  unfold pushOperator
  split
  next listed => exact List.contains_iff_mem.mp listed
  next => simp

theorem contains_pushOperator (sources : List PauseSource) :
    (pushOperator sources).contains .usageGovernance = sources.contains .usageGovernance := by
  unfold pushOperator
  split
  · rfl
  · simp

/-- The mailbox leaves the operator's source behind the other, direct control puts it first. -/
theorem dedup_pushOperator (saved : dedup sources = sources) (listed : sources.contains .usageGovernance = true) :
    [PauseSource.operator, .usageGovernance] = dedup (pushOperator sources) ↔
      sources = [.operator, .usageGovernance] := by
  unfold pushOperator
  cases operator : sources.contains .operator with
  | true => rw [if_pos rfl, saved, eq_comm]
  | false =>
    have alone : sources = [.usageGovernance] := by
      rw [← saved]
      apply dedup_of_all
      · exact ne_nil_of_mem (List.contains_iff_mem.mp listed)
      · intro other member
        have absent : other ≠ .operator := fun same => by simp [← same, member] at operator
        exact eq_usageGovernance absent
    rw [alone]
    decide

theorem paused_sources_iff (saved : dedup sources = sources) :
    orderedPauseSources (sources ++ [.operator]) = dedup (governedSources config blockers (pushOperator sources)) ↔
      governancePauses config blockers (sources.contains .usageGovernance) = sources.contains .usageGovernance ∧
        (sources.contains .usageGovernance = true → reorders config blockers = true ∨
          sources = [.operator, .usageGovernance]) := by
  have direct : orderedPauseSources (sources ++ [.operator]) =
      .operator :: if sources.contains .usageGovernance then [.usageGovernance] else [] := by
    simp [orderedPauseSources]
  have operator := operator_mem_pushOperator sources
  unfold governedSources
  rw [contains_pushOperator, direct]
  cases ordered : reorders config blockers with
  | true =>
    have both : orderedPauseSources (pushOperator sources ++ [.usageGovernance]) =
        [.operator, .usageGovernance] := by
      simp [orderedPauseSources, operator]
    rw [if_pos rfl, both, governancePauses_of_reorders ordered]
    cases sources.contains .usageGovernance with
    | true => exact iff_of_true rfl ⟨rfl, fun _ => .inl rfl⟩
    | false => exact iff_of_false (by decide) (by simp)
  | false =>
    cases listed : sources.contains .usageGovernance with
    | false =>
      have alone : dedup (pushOperator sources) = [.operator] := by
        apply dedup_of_all (ne_nil_of_mem operator)
        intro other member
        apply eq_operator
        rintro rfl
        have again := (contains_pushOperator sources).symm.trans (List.contains_iff_mem.mpr member)
        rw [listed] at again
        cases again
      simp [alone, governancePauses_unlisted, ordered]
    | true =>
      cases pauses : governancePauses config blockers true with
      | true => simpa using dedup_pushOperator saved listed
      | false =>
        refine iff_of_false (fun same => ?_) (by simp)
        simp only [Bool.not_false, Bool.and_true, if_true, Bool.false_eq_true, if_false,
          dedup_orderedPauseSources] at same
        have member : PauseSource.usageGovernance ∈ [PauseSource.operator, .usageGovernance] := by decide
        rw [same] at member
        simp at member

theorem resumeDirect_sources (w : PauseWorkspace) :
    (resumeDirect w).pauseSources =
      if w.pauseSources.contains .usageGovernance || !(loadUsageGovernanceState w).activeBlockers.isEmpty then
        [.usageGovernance] else [] := by
  unfold resumeDirect
  simp only
  cases listed : w.pauseSources.contains .usageGovernance with
  | true => simp [orderedPauseSources]
  | false =>
    cases (loadUsageGovernanceState w).activeBlockers.isEmpty with
    | true =>
      have absent : PauseSource.usageGovernance ∉ w.pauseSources := by simpa using listed
      simp [orderedPauseSources, absent]
    | false => simp [orderedPauseSources]

end Sources

/-! ## One command on both paths -/

theorem mailboxReason_normalizedReason {reason default : String} (default' : String)
    (stated : isBlank default = false) (clean : trim default.toList = default.toList) :
    mailboxReason (normalizedReason reason default) default' = normalizedReason reason default := by
  unfold mailboxReason normalizedReason
  cases blank : isBlank reason with
  | true => simp [stated, clean]
  | false =>
    have kept : isBlank (String.ofList (trim reason.toList)) = false := by
      simpa [isBlank] using blank
    simp [kept]

theorem defaultRetryReason_clean (scope : Option Plane) : isBlank (defaultRetryReason scope) = false ∧
    trim (defaultRetryReason scope).toList = (defaultRetryReason scope).toList := by
  cases scope with
  | none => decide
  | some plane =>
    have clean : isBlank "operator requested planning retry" = false ∧
        trim "operator requested planning retry".toList = "operator requested planning retry".toList := by decide
    exact clean

theorem mem_activePlanes {plane : Plane} {s : RuntimeSnapshot} :
    plane ∈ activePlanes s ↔ ∃ run, s.activeRunsByPlane plane = some run := by
  rw [activePlanes, List.mem_filter, Option.isSome_iff_exists]
  refine and_iff_right ?_
  cases plane <;> decide

section Paths
variable [Rfc3339] (env : Environment)

/-- Both paths select the same run, or none. -/
theorem retryActive_agrees (scope : Option Plane) (reason : String) (s : ControlState) :
    retryActiveFromMailbox env scope reason s = retryActiveDirect env scope reason s := by
  unfold retryActiveFromMailbox retryActiveDirect activeRunForRetry retryActiveRun
  cases scope with
  | some plane =>
    cases found : activeRunForPlane s.snapshot plane with
    | none => simp [found]
    | some run => simp [found]
  | none =>
    by_cases several : 1 < (activePlanes s.snapshot).length
    · have notOne : (activePlanes s.snapshot).length ≠ 1 := by omega
      simp only [several, notOne, and_self, if_true, if_false]
      cases List.findSome? s.snapshot.activeRunsByPlane [Plane.planning, .execution, .learning] with
      | none => rfl
      | some run => rfl
    · simp only [several, and_false, if_false]
      cases planes : activePlanes s.snapshot with
      | nil =>
        simp only [List.length_nil, Nat.zero_ne_one, if_false, List.head?_nil, Option.bind_none]
        cases s.snapshot.activePlane.bind (activeRunForPlane s.snapshot) with
        | none => rfl
        | some run => rfl
      | cons plane rest =>
        have alone : rest = [] := by
          rw [planes, List.length_cons] at several
          exact List.length_eq_zero_iff.mp (by omega)
        subst alone
        have member : plane ∈ activePlanes s.snapshot := by simp [planes]
        obtain ⟨run, active⟩ := mem_activePlanes.mp member
        simp [active]

/-! ## What the claim compares -/

/-- The two states agree on the pause fields, the stop flag, the active runs and the queue directories. -/
structure SameControl (s s' : ControlState) : Prop where
  paused : s.pause.paused = s'.pause.paused
  pauseSources : s.pause.pauseSources = s'.pause.pauseSources
  stopRequested : s.stopRequested = s'.stopRequested
  activeRuns : s.snapshot.activeRunsByPlane = s'.snapshot.activeRunsByPlane
  workspace : s.world.workspace = s'.world.workspace

variable {config : UsageGovernanceConfig} {blockers : List UsageGovernanceBlocker} {direct session : ControlState}

/-- A command that does the same to runs, queues and the stop flag on both paths agrees where the tick is not stopped
and its evaluation ends at the direct path's sources. -/
theorem finishIntake_agrees_iff (flagged : Flagged direct.pause) (flagged' : Flagged session.pause)
    (stop : session.stopRequested = direct.stopRequested)
    (runs : session.snapshot.activeRunsByPlane = direct.snapshot.activeRunsByPlane)
    (world : session.world = direct.world) :
    SameControl direct.normalized (finishIntake config blockers session).normalized ↔
      direct.stopRequested = false ∧
        dedup direct.pause.pauseSources = dedup (governedSources config blockers session.pause.pauseSources) := by
  unfold finishIntake
  rw [stop]
  cases requested : direct.stopRequested with
  | true =>
    refine iff_of_false (fun same => ?_) (by simp)
    have stopped := same.stopRequested
    simp [ControlState.normalized, resetRuntimeToIdle, requested] at stopped
  | false =>
    simp only [Bool.false_eq_true, if_false, true_and]
    rw [← evaluate_sources, ← samePause_iff flagged (evaluate_flagged flagged')]
    constructor
    · intro same
      exact ⟨same.paused, same.pauseSources⟩
    · rintro ⟨paused, sources⟩
      exact ⟨paused, sources, requested, runs.symm, congrArg World.workspace world.symm⟩

/-! ## When the paths agree -/

/-- The tick has no stop to carry out, and its evaluation of usage governance leaves the pause sources as they are. -/
def Settled (config : UsageGovernanceConfig) (blockers : List UsageGovernanceBlocker) (s : ControlState) : Prop :=
  s.stopRequested = false ∧
    governancePauses config blockers (s.pause.pauseSources.contains .usageGovernance) =
      s.pause.pauseSources.contains .usageGovernance ∧
    (reorders config blockers = true → orderedPauseSources s.pause.pauseSources = s.pause.pauseSources)

/-- The queue store can move every active document back. -/
def requeuesAll (reason : String) (s : ControlState) : Bool :=
  match (requeueAllActiveItems env (normalizedReason reason defaultClearStaleReason)).run s.world with
  | .ok _ _ => true
  | .error _ _ => false

def PathsAgree (config : UsageGovernanceConfig) (blockers : List UsageGovernanceBlocker) (s : ControlState) :
    ControlCommand → Prop
  | .stop => True
  | .pause => s.stopRequested = false ∧
      governancePauses config blockers (s.pause.pauseSources.contains .usageGovernance) =
        s.pause.pauseSources.contains .usageGovernance ∧
      (s.pause.pauseSources.contains .usageGovernance = true →
        reorders config blockers = true ∨ s.pause.pauseSources = [.operator, .usageGovernance])
  | .resume => s.stopRequested = false ∧
      governancePauses config blockers (s.pause.pauseSources.contains .usageGovernance) =
        (s.pause.pauseSources.contains .usageGovernance ||
          !(loadUsageGovernanceState s.pause).activeBlockers.isEmpty)
  | .clearStaleState reason =>
    if requeuesAll env reason s then reorders config blockers = false else Settled config blockers s
  | .retryActive .. | .addTask _ | .addProbe _ | .addSpec _ => Settled config blockers s

variable {env} {s : ControlState}

/-- Commands that are the same on both paths and leave the pause fields and the stop flag alone. -/
theorem settled_iff (saved : dedup s.pause.pauseSources = s.pause.pauseSources) (flagged : Flagged s.pause)
    (pause : direct.pause = s.pause) (stop : direct.stopRequested = s.stopRequested) :
    SameControl direct.normalized (finishIntake config blockers direct).normalized ↔ Settled config blockers s := by
  rw [finishIntake_agrees_iff (pause ▸ flagged) (pause ▸ flagged) rfl rfl rfl, pause, stop, saved,
    settled_sources_iff saved]
  rfl

theorem clearRetryActiveRun_keeps (plane : Plane) (s : ControlState) :
    (clearRetryActiveRun plane s).pause = s.pause ∧ (clearRetryActiveRun plane s).stopRequested = s.stopRequested := by
  unfold clearRetryActiveRun
  simp only
  split
  · exact ⟨rfl, rfl⟩
  · exact ⟨rfl, rfl⟩

theorem retryRun_keeps (reason : String) (run : ActiveRunState) (s : ControlState) :
    (retryRun env reason run s).pause = s.pause ∧ (retryRun env reason run s).stopRequested = s.stopRequested := by
  unfold retryRun
  split
  · split
    · exact clearRetryActiveRun_keeps run.plane _
    · exact ⟨rfl, rfl⟩
  · exact ⟨rfl, rfl⟩

theorem retryActiveDirect_keeps (scope : Option Plane) (reason : String) (s : ControlState) :
    (retryActiveDirect env scope reason s).pause = s.pause ∧
      (retryActiveDirect env scope reason s).stopRequested = s.stopRequested := by
  unfold retryActiveDirect
  cases retryActiveRun s.snapshot scope with
  | missing => exact ⟨rfl, rfl⟩
  | multiple => exact ⟨rfl, rfl⟩
  | selected run => exact retryRun_keeps reason run s

theorem storing_keeps {α : Type} (operation : StoreM α) (s : ControlState) :
    (storing operation s).pause = s.pause ∧ (storing operation s).stopRequested = s.stopRequested := by
  unfold storing
  cases operation.run s.world with
  | ok _ world => exact ⟨rfl, rfl⟩
  | error _ world => exact ⟨rfl, rfl⟩

theorem pause_agrees_iff (saved : dedup s.pause.pauseSources = s.pause.pauseSources) :
    SameControl (ControlState.normalized { s with pause := pauseDirect s.pause })
      (finishIntake config blockers { s with pause := mailboxPause s.pause }).normalized ↔
    PathsAgree env config blockers s .pause := by
  have flagged : Flagged (pauseDirect s.pause) :=
    ((Runtime.not_isEmpty_iff _).mpr (ne_nil_of_mem (operator_mem_pauseDirect s.pause))).symm
  have flagged' : Flagged (mailboxPause s.pause) :=
    ((Runtime.not_isEmpty_iff _).mpr (ne_nil_of_mem (operator_mem_pushOperator s.pause.pauseSources))).symm
  refine (finishIntake_agrees_iff ?_ ?_ ?_ ?_ ?_).trans (and_congr_right fun _ => ?_)
  · exact flagged
  · exact flagged'
  · rfl
  · rfl
  · rfl
  · have direct := dedup_orderedPauseSources (s.pause.pauseSources ++ [.operator])
    exact direct.symm ▸ paused_sources_iff saved

theorem resume_agrees_iff :
    SameControl (ControlState.normalized { s with pause := resumeDirect s.pause })
      (finishIntake config blockers { s with pause := mailboxResume s.pause }).normalized ↔
    PathsAgree env config blockers s .resume := by
  refine (finishIntake_agrees_iff ?_ ?_ ?_ ?_ ?_).trans (and_congr_right fun _ => ?_)
  · rfl
  · rfl
  · rfl
  · rfl
  · rfl
  · have direct : dedup (resumeDirect s.pause).pauseSources = (resumeDirect s.pause).pauseSources :=
      dedup_of_nodup resumeDirect_consistent.nodup
    rw [direct, resumeDirect_sources]
    exact resumed_sources_iff _

theorem clearStale_agrees_iff (saved : dedup s.pause.pauseSources = s.pause.pauseSources) (flagged : Flagged s.pause)
    (reason : String) :
    SameControl (clearStaleDirect env (normalizedReason reason defaultClearStaleReason) s).normalized
      (finishIntake config blockers
        (clearStaleDirect env (normalizedReason reason defaultClearStaleReason) s)).normalized ↔
    PathsAgree env config blockers s (.clearStaleState reason) := by
  cases requeued : (requeueAllActiveItems env (normalizedReason reason defaultClearStaleReason)).run s.world with
  | error _ world =>
    simp only [clearStaleDirect, PathsAgree, requeuesAll, requeued, Bool.false_eq_true, if_false]
    exact settled_iff saved flagged rfl rfl
  | ok _ world =>
    simp only [clearStaleDirect, PathsAgree, requeuesAll, requeued, if_true]
    refine (finishIntake_agrees_iff ?_ ?_ rfl rfl rfl).trans ?_
    · rfl
    · rfl
    · simp only [resetRuntimeToIdle, if_true, true_and]
      unfold governedSources
      cases reorders config blockers with
      | true => simp [dedup, orderedPauseSources]
      | false => simp [dedup]

end Paths

/-- Direct control and one tick that finds the command in its mailbox leave the same pause fields, stop flag, active
runs and queue directories exactly when the loaded snapshot, the state file and the tick's evaluation agree. -/
theorem paths_agree_iff [Rfc3339] (env : Environment) (config : UsageGovernanceConfig)
    (blockers : List UsageGovernanceBlocker) (command : ControlCommand) (s : ControlState) :
    SameControl (executeDirectly env command s) (processInTick env config blockers command s) ↔
      PathsAgree env config blockers s.normalized command := by
  have flagged : Flagged s.normalized.pause := normalizePauseSources_flagged s.pause
  have saved : dedup s.normalized.pause.pauseSources = s.normalized.pause.pauseSources :=
    normalizePauseSources_saved s.pause
  unfold executeDirectly processInTick
  generalize s.normalized = loaded at flagged saved
  cases command with
  | pause => exact pause_agrees_iff saved
  | resume => exact resume_agrees_iff
  | stop => exact iff_of_true ⟨rfl, rfl, rfl, rfl, rfl⟩ trivial
  | retryActive scope reason =>
    have same : applyMailboxCommand env loaded (.retryActive scope reason) =
        ControlCommand.direct env loaded (.retryActive scope reason) := by
      unfold applyMailboxCommand ControlCommand.direct
      simp only
      rw [retryActive_agrees, mailboxReason_normalizedReason]
      · exact (defaultRetryReason_clean scope).1
      · exact (defaultRetryReason_clean scope).2
    rw [same]
    exact settled_iff saved flagged (retryActiveDirect_keeps _ _ _).1 (retryActiveDirect_keeps _ _ _).2
  | clearStaleState reason =>
    have same : applyMailboxCommand env loaded (.clearStaleState reason) =
        clearStaleDirect env (normalizedReason reason defaultClearStaleReason) loaded := by
      unfold applyMailboxCommand
      simp only
      rw [mailboxReason_normalizedReason _ (by decide) (by decide)]
      rfl
    rw [same]
    exact clearStale_agrees_iff saved flagged reason
  | addTask document => exact settled_iff saved flagged (storing_keeps _ _).1 (storing_keeps _ _).2
  | addProbe document => exact settled_iff saved flagged (storing_keeps _ _).1 (storing_keeps _ _).2
  | addSpec document => exact settled_iff saved flagged (storing_keeps _ _).1 (storing_keeps _ _).2

/-! ## A resume after the blockers are gone -/

/-- A time library that knows one moment. -/
local instance : Rfc3339 where
  parse text := if text = "2026-01-01T00:00:00Z" then .ok ⟨2026, 1, 1, 0, 0, 0, 0, 0⟩ else .error "unknown moment"

def newYear : Timestamp where
  text := "2026-01-01T00:00:00Z"
  trimmed := by decide +kernel
  nonempty := by decide
  parses := by decide +kernel

def quietEnvironment : Environment where
  root := "/workspace"
  reading _ := { now := newYear, suffix := 0, fault := none }

/-- Paused by the operator after a stop, with the blockers of the last evaluation still in the state file. -/
def stoppedWhileBlocked : ControlState where
  snapshot := idleSnapshot
  pause := {
    paused := true
    pauseSources := [.operator]
    usageGovernanceStateFile := some {
      autoResume := true
      activeBlockers := [⟨"tokens-per-hour", true⟩]
      pausedByGovernance := true } }
  stopRequested := false
  world := ⟨.empty, 0⟩

/-- Direct control takes the old blockers for active ones; the tick evaluates them away and the runtime resumes. -/
theorem resume_held_back_directly :
    (executeDirectly quietEnvironment .resume stoppedWhileBlocked).pause.pauseSources = [.usageGovernance] ∧
      (processInTick quietEnvironment ⟨true, true⟩ [] .resume stoppedWhileBlocked).pause.pauseSources = [] ∧
      ¬ SameControl (executeDirectly quietEnvironment .resume stoppedWhileBlocked)
        (processInTick quietEnvironment ⟨true, true⟩ [] .resume stoppedWhileBlocked) := by
  have direct : (executeDirectly quietEnvironment .resume stoppedWhileBlocked).pause.pauseSources =
      [.usageGovernance] := by decide
  have tick : (processInTick quietEnvironment ⟨true, true⟩ [] .resume stoppedWhileBlocked).pause.pauseSources = [] := by
    decide
  refine ⟨direct, tick, fun same => ?_⟩
  have sources := same.pauseSources
  rw [direct, tick] at sources
  cases sources

end Millrace.Control

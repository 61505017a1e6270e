import Millrace.Closure.Actionable

/-! When a closure target closes over drained work: the readiness found at activation has to last until the result. -/

set_option autoImplicit false

namespace Millrace.Closure
open Millrace.Text Millrace.Contracts Millrace.WorkDocuments Millrace.Action
open Millrace.Runtime (ActiveRunState ActiveRunRequestKind RouterDecision StageResultEnvelope)

/-- A target is left unblocked only where neither scan found anything. -/
theorem withReadiness_clear {target : ClosureTargetState} {ids : List String} {refs : List ClosureBlockingWorkRef}
    (clear : (target.withReadiness ids refs).closureBlockedByLineageWork = false) : ids = [] ∧ refs = [] := by
  simp only [ClosureTargetState.withReadiness, Bool.or_eq_false_iff, Bool.not_eq_false', List.isEmpty_iff] at clear
  obtain ⟨none, refsNone⟩ := clear
  rw [refsNone] at none
  exact ⟨none, refsNone⟩

section Drained
variable [Rfc3339]

def ClosureSession.IsOpen (s : ClosureSession) (root : String) : Prop :=
  ∃ target ∈ s.targets, target.rootSpecId = root ∧ target.closureOpen = true

/-- No target that the step closes has open work. -/
def ClosesDrained (plan : ClosurePlan) (s : ClosureSession) (step : ClosureStep) : Prop :=
  ∀ root, s.IsOpen root → ¬ (step.apply plan s).IsOpen root → ¬ OpenWork (step.apply plan s).work root

/-- While the arbiter judges a root, the queues get no open work of it; and no file operation fails while a remediation
incident is handed off. -/
def Undisturbed (s : ClosureSession) : ClosureStep → Prop
  | .queues work => ∀ root, s.snapshot.arbiterRoot = some root → OpenWork work root → OpenWork s.work root
  | .arbiterResult outcome met =>
    outcome.decision.action = .handoff → outcome.decision.createIncident = true → ∀ n, met.fault n = none
  | .serialTick _ | .claimForPlane _ _ | .completionStage _ | .runs _ => True

/-- What is under judgement, in memory or on disk, has no open work. -/
def Judged (s : ClosureSession) : Prop :=
  ∀ root, s.snapshot.arbiterRoot = some root ∨ s.saved.arbiterRoot = some root → ¬ OpenWork s.work root

theorem isOpen_write {s : ClosureSession} {root : String} (isOpen : s.IsOpen root) {target : ClosureTargetState}
    (kept : target.rootSpecId = root → target.closureOpen = true) :
    ClosureSession.IsOpen { s with targets := writeTarget target s.targets } root := by
  by_cases same : target.rootSpecId = root
  · exact ⟨target, List.mem_cons_self, same, kept same⟩
  · obtain ⟨other, member, named, still⟩ := isOpen
    refine ⟨other, List.mem_cons_of_mem _ (List.mem_filter.mpr ⟨member, ?_⟩), named, still⟩
    rw [named]
    exact decide_eq_true (Ne.symm same)

/-! ## Activation -/

/-- A property that writing an open target keeps as well. -/
structure Kept (P E : ClosureSession → Prop) : Prop extends Calm P E where
  write : ∀ s target, target.closureOpen = true → P s → P { s with targets := writeTarget target s.targets }

section Activation
variable {P E : ClosureSession → Prop} (kept : Kept P E) (plan : ClosurePlan) (met : Meeting)
include kept

/-- A target that comes back unblocked has no open work. -/
theorem refreshClosureTargetReadiness_kept {target : ClosureTargetState} (isOpen : target.closureOpen = true) :
    Holds P (refreshClosureTargetReadiness met target) (fun refreshed s => P s ∧
      (refreshed.closureOpen = true ∧ refreshed.rootSpecId = target.rootSpecId) ∧
      (refreshed.closureBlockedByLineageWork = false → ¬ OpenWork s.work target.rootSpecId)) fun _ => E := by
  refine .bind (fileOperation_holds kept.toCalm met) fun _ => getState_holds fun s => ?_
  dsimp only
  cases ids : openLineageWorkIds s.work target.rootSpecId with
  | error error => exact .throw fun s' holds => kept.fails s' holds.2
  | ok ids' =>
    have calm : Calm (fun s' => P s' ∧ s'.work = s.work) E := {
      fails := fun s' holds => kept.fails s' holds.1
      operations := fun s' n holds => ⟨kept.operations s' n holds.1, holds.2⟩
      status := fun s' marker failureClass holds => ⟨kept.status s' marker failureClass holds.1, holds.2⟩
      save := fun s' n holds => ⟨kept.save s' n holds.1, holds.2⟩ }
    refine .bind (Q := fun _ s' => P s' ∧ s'.work = s.work) ?_ fun _ => .pure fun s' ⟨holds, same⟩ =>
      ⟨holds, ⟨isOpen, rfl⟩, fun clear => ?_⟩
    · refine .given (A := fun s' => P s' ∧ s'.work = s.work) (fun s' ⟨same, holds⟩ => ⟨holds, same ▸ rfl⟩) ?_
      exact saveClosureTargetState_holds calm met fun s' holds => ⟨kept.write s' _ isOpen holds.1, holds.2⟩
    · obtain ⟨documents, blueprints⟩ := withReadiness_clear clear
      rw [same]
      exact no_openWork (documents ▸ ids) blueprints

theorem blockOnClosureLineageDriftIfPresent_kept {target : ClosureTargetState} (isOpen : target.closureOpen = true) :
    Holds P (blockOnClosureLineageDriftIfPresent met target) (fun _ => P) fun _ => E := by
  refine .bind (fileOperation_holds kept.toCalm met) fun _ => getState_holds fun s => ?_
  cases scanClosureLineageDrift s.work target.rootSpecId target.rootIdeaId with
  | nil => exact .pure fun _ holds => holds.2
  | cons finding findings =>
    refine .given (A := P) (fun _ holds => holds.2) ?_
    refine .bind (fileOperation_holds kept.toCalm met) fun _ => ?_
    refine .bind (saveClosureTargetState_holds kept.toCalm met fun s holds => kept.write s _ isOpen holds) fun _ => ?_
    refine .bind (markCompletionBehaviorBlocked_holds kept.toCalm met _) fun _ => ?_
    exact .bind (fileOperation_holds kept.toCalm met) fun _ => .pure fun _ holds => holds

theorem createClosureTargetForRootSpec_kept (spec : SpecDocument) :
    Holds P (createClosureTargetForRootSpec met spec) (fun _ => P) fun _ => E := by
  unfold createClosureTargetForRootSpec
  split
  case h_2 => exact .pure fun _ holds => holds
  case h_1 rootSpecId rootIdeaId _ _ =>
  refine .ite (fun _ => .pure fun _ holds => holds) fun _ => ?_
  refine .bind (findClosureTarget_holds kept.toCalm met rootSpecId) fun found => ?_
  refine .given (A := P) (fun _ holds => holds.1) ?_
  cases found with
  | some target => exact .pure fun _ holds => holds
  | none =>
    refine .bind (openClosureTargets_holds kept.toCalm met) fun targets => ?_
    refine .given (A := P) (fun _ holds => holds.1) ?_
    refine .bind (refuse_holds kept.fails _ _) fun _ => ?_
    refine .bind (refuse_holds (fun s holds => kept.fails s holds.2) _ _) fun _ => ?_
    refine .given (A := P) (fun _ holds => holds.2.2) ?_
    refine .bind (fileOperation_holds kept.toCalm met) fun _ => ?_
    refine .ite (fun _ => .pure fun _ holds => holds) fun _ => ?_
    refine .bind (fileOperation_holds kept.toCalm met) fun _ => ?_
    refine .bind (fileOperation_holds kept.toCalm met) fun _ => ?_
    refine .bind (fileOperation_holds kept.toCalm met) fun _ => ?_
    exact .bind (saveClosureTargetState_holds kept.toCalm met fun s holds => kept.write s _ rfl holds) fun _ =>
      .pure fun _ holds => holds

theorem recoverOrBackfillMissingClosureTarget_kept :
    Holds P (recoverOrBackfillMissingClosureTarget plan met) (fun _ => P) fun _ => E := by
  have calm := kept.toCalm
  refine .ite (fun _ => .pure fun _ holds => holds) fun _ => ?_
  refine .bind (fileOperation_holds calm met) fun _ => getState_holds fun s => ?_
  refine .given (A := P) (fun _ holds => holds.2) ?_
  cases latestRootSpecCandidate s.work with
  | none => exact .pure fun _ holds => holds
  | some spec =>
    dsimp only
    split
    case h_2 => exact .bind (markCompletionBehaviorBlocked_holds calm met _) fun _ => .pure fun _ holds => holds
    case h_1 rootSpecId _ _ _ =>
    refine .bind (findClosureTarget_holds calm met rootSpecId) fun found => ?_
    refine .given (A := P) (fun _ holds => holds.1) ?_
    cases found with
    | some target => exact .pure fun _ holds => holds
    | none =>
      refine .bind (createClosureTargetForRootSpec_kept kept met spec) fun created => ?_
      cases created with
      | none =>
        refine .bind (markCompletionBehaviorBlocked_holds calm met _) fun _ => ?_
        exact .bind (fileOperation_holds calm met) fun _ => .pure fun _ holds => holds
      | some target => exact .bind (fileOperation_holds calm met) fun _ => .pure fun _ holds => holds

theorem maybeCreateClosureTargetForClaim_kept (claim : ClosureClaim) :
    Holds P (maybeCreateClosureTargetForClaim met claim) (fun _ => P) fun _ => E := by
  refine .ite (fun _ => .pure fun _ holds => holds) fun _ => .bind (fileOperation_holds kept.toCalm met) fun _ => ?_
  cases claim.spec with
  | none => exact .throw kept.fails
  | some spec => exact createClosureTargetForRootSpec_kept kept met spec

end Activation

/-- Since the step began, the queues are as they were, open targets are open, and the same root is judged. -/
structure Since (s₀ : ClosureSession) (judging : Option String) (s : ClosureSession) : Prop where
  work : s.work = s₀.work
  opened : ∀ root, s₀.IsOpen root → s.IsOpen root
  judged : s.snapshot.arbiterRoot = judging
  judgedSaved : s.saved.arbiterRoot = judging

/-- What an activation may leave behind: another root may be judged, if its work is drained. -/
structure Followed (s₀ s : ClosureSession) : Prop where
  work : s.work = s₀.work
  opened : ∀ root, s₀.IsOpen root → s.IsOpen root
  judged : Judged s

variable {s₀ : ClosureSession} {judging : Option String}

theorem Since.followed {s : ClosureSession} (drained : ∀ root, judging = some root → ¬ OpenWork s₀.work root)
    (since : Since s₀ judging s) : Followed s₀ s where
  work := since.work
  opened := since.opened
  judged root judged := by
    rw [since.judged, since.judgedSaved, or_self] at judged
    rw [since.work]
    exact drained root judged

theorem kept_since (drained : ∀ root, judging = some root → ¬ OpenWork s₀.work root) :
    Kept (Since s₀ judging) (Followed s₀) where
  fails _ since := since.followed drained
  operations _ _ since := ⟨since.work, since.opened, since.judged, since.judgedSaved⟩
  status _ _ _ since := ⟨since.work, since.opened, since.judged, since.judgedSaved⟩
  save _ _ since := ⟨since.work, since.opened, since.judged, since.judged⟩
  write _ _ isOpen since :=
    ⟨since.work, fun root was => isOpen_write (since.opened root was) fun _ => isOpen, since.judged, since.judgedSaved⟩

theorem calm_followed : Calm (Followed s₀) (Followed s₀) where
  fails _ followed := followed
  operations _ _ followed := ⟨followed.work, followed.opened, followed.judged⟩
  status _ _ _ followed := ⟨followed.work, followed.opened, followed.judged⟩
  save _ _ followed := ⟨followed.work, followed.opened, fun root judged => followed.judged root (.inl (or_self_iff.mp judged))⟩

theorem unjudged : ∀ root, (none : Option String) = some root → ¬ OpenWork s₀.work root := nofun

variable (plan : ClosurePlan) (met : Meeting)

theorem startRun_followed {run : ActiveRunState} (drained : ∀ root, judging = some root → ¬ OpenWork s₀.work root)
    (judged : ∀ snapshot : ClosureSnapshot, snapshot.arbiterRoot = judging → ∀ root,
      (snapshotWithActiveRun run snapshot).arbiterRoot = some root → ¬ OpenWork s₀.work root) :
    Holds (Since s₀ judging) (startRun met run) (fun _ => Followed s₀) fun _ => Followed s₀ := by
  refine .bind (Q := fun _ => Followed s₀) (.modify fun s since => ⟨since.work, since.opened, ?_⟩) fun _ =>
    saveSnapshot_holds calm_followed met
  rintro root (now | before)
  · exact since.work ▸ judged s.snapshot since.judged root now
  · exact since.work ▸ drained root (since.judgedSaved.symm.trans before)

theorem activateClaim_followed (drained : ∀ root, judging = some root → ¬ OpenWork s₀.work root) (claim : ClosureClaim) :
    Holds (Since s₀ judging) (activateClaim plan met claim) (fun _ => Followed s₀) fun _ => Followed s₀ := by
  refine .bind (maybeCreateClosureTargetForClaim_kept (kept_since drained) met claim) fun _ => ?_
  cases plan.activationForClaim claim with
  | none => exact .throw (kept_since drained).fails
  | some activation =>
    refine startRun_followed met drained fun snapshot was root is => ?_
    rw [arbiterRoot_withActiveRun] at is
    by_cases planning : claim.plane = .planning
    · simp [claimRun, planning] at is
    · exact drained root (was ▸ by simpa [claimRun, planning] using is)

theorem maybeActivateCompletionStage_followed (target : ClosureTargetState) :
    Holds (Since s₀ none) (maybeActivateCompletionStage plan met target) (fun _ => Followed s₀) fun _ => Followed s₀ := by
  have kept : Kept (Since s₀ none) (Followed s₀) := kept_since unjudged
  refine .ite (fun _ => .pure kept.fails) fun isOpen => ?_
  refine .bind (refreshClosureTargetReadiness_kept kept met (by simpa using isOpen)) fun refreshed => ?_
  refine .assume (C := (refreshed.closureOpen = true ∧ refreshed.rootSpecId = target.rootSpecId) ∧
    (refreshed.closureBlockedByLineageWork = false → ¬ OpenWork s₀.work target.rootSpecId))
    (fun s holds => ⟨holds.2.1, holds.1.work ▸ holds.2.2⟩) fun ⟨⟨stillOpen, same⟩, clear⟩ => ?_
  refine .given (A := Since s₀ none) (fun _ holds => holds.1) ?_
  refine .ite (fun _ => .pure kept.fails) fun unblocked => ?_
  refine .bind (blockOnClosureLineageDriftIfPresent_kept kept met stillOpen) fun drifted => ?_
  refine .ite (fun _ => .pure kept.fails) fun _ => ?_
  cases plan.completionEntry with
  | none => exact .throw kept.fails
  | some activation =>
    refine startRun_followed met unjudged fun snapshot _ root is => ?_
    rw [arbiterRoot_withActiveRun] at is
    have named : refreshed.rootSpecId = root := by simpa [completionRun] using is
    rw [← named, same]
    exact clear (by simpa using unblocked)

theorem backfilled_followed : Holds (Since s₀ none)
    (recoverOrBackfillMissingClosureTarget plan met >>= fun found => match found with
      | some target => maybeActivateCompletionStage plan met target
      | none => return ()) (fun _ => Followed s₀) fun _ => Followed s₀ := by
  have kept : Kept (Since s₀ none) (Followed s₀) := kept_since unjudged
  refine .bind (recoverOrBackfillMissingClosureTarget_kept kept plan met) fun found => ?_
  cases found with
  | some target => exact maybeActivateCompletionStage_followed plan met target
  | none => exact .pure kept.fails

theorem claimNext_kept {P E : ClosureSession → Prop} (kept : Kept P E) (plane : Plane) (rootSpecId : Option String) :
    Holds P (claimNext met plane rootSpecId) (fun _ => P) fun _ => E :=
  .bind (fileOperation_holds kept.toCalm met) fun _ => .pure fun _ holds => holds

theorem claimNextLearningRequest_kept {P E : ClosureSession → Prop} (kept : Kept P E) :
    Holds P (claimNextLearningRequest plan met) (fun _ => P) fun _ => E :=
  .ite (fun _ => claimNext_kept met kept _ _) fun _ => .pure fun _ holds => holds

theorem activateNextWorkOrCompletion_followed : Holds (Since s₀ none) (activateNextWorkOrCompletion plan met)
    (fun _ => Followed s₀) fun _ => Followed s₀ := by
  have kept : Kept (Since s₀ none) (Followed s₀) := kept_since unjudged
  have claimed (claim : ClosureClaim) : Holds (Since s₀ none) (activateClaim plan met claim) (fun _ => Followed s₀)
      fun _ => Followed s₀ := activateClaim_followed plan met unjudged claim
  refine .bind (activeClosureTarget_holds kept.toCalm met) fun active => .given (A := Since s₀ none)
    (fun _ holds => holds.1) ?_
  cases active with
  | some target =>
    refine .bind (claimNext_kept met kept _ _) fun claim => ?_
    cases claim with
    | some claim => exact claimed claim
    | none =>
      refine .bind (claimNext_kept met kept _ _) fun claim => ?_
      cases claim with
      | some claim => exact claimed claim
      | none => exact maybeActivateCompletionStage_followed plan met target
  | none =>
    refine .bind (claimNext_kept met kept _ _) fun claim => ?_
    cases claim with
    | some claim => exact claimed claim
    | none =>
      refine .bind (claimNext_kept met kept _ _) fun claim => ?_
      cases claim with
      | some claim => exact claimed claim
      | none =>
        refine .bind (claimNextLearningRequest_kept plan met kept) fun claim => ?_
        cases claim with
        | some claim => exact claimed claim
        | none => exact backfilled_followed plan met

theorem activateNextClaimForPlane_followed (drained : ∀ root, judging = some root → ¬ OpenWork s₀.work root)
    (plane : Plane) : Holds (Since s₀ judging) (activateNextClaimForPlane plan met plane) (fun _ => Followed s₀)
      fun _ => Followed s₀ := by
  have kept := kept_since drained
  refine getState_holds fun s => .given (A := Since s₀ judging) (fun _ holds => holds.2) ?_
  refine .ite (fun _ => .pure kept.fails) fun _ => ?_
  refine .bind (activeClosureTarget_holds kept.toCalm met) fun active => .given (A := Since s₀ judging)
    (fun _ holds => holds.1) ?_
  cases plane with
  | learning =>
    refine .bind (claimNextLearningRequest_kept plan met kept) fun claim => ?_
    cases claim with
    | some claim => exact activateClaim_followed plan met drained claim
    | none => exact .pure kept.fails
  | planning | execution =>
    refine .bind (claimNext_kept met kept _ _) fun claim => ?_
    cases claim with
    | some claim => exact activateClaim_followed plan met drained claim
    | none => exact .pure kept.fails

theorem activateCompletionStageIfReady_followed (drained : ∀ root, judging = some root → ¬ OpenWork s₀.work root) :
    Holds (Since s₀ judging) (activateCompletionStageIfReady plan met) (fun _ => Followed s₀) fun _ => Followed s₀ := by
  have kept := kept_since drained
  refine getState_holds fun s => .ite (fun _ => .pure fun s' holds => kept.fails s' holds.2) fun idle => ?_
  have free : s.snapshot.activeRunsByPlane .planning = none := by simpa using idle
  refine .assume (C := judging = none) (fun s' ⟨same, since⟩ => ?_) fun unjudged => ?_
  · rw [← since.judged, ← same, arbiterRoot_none free]
  subst unjudged
  refine .given (A := Since s₀ none) (fun _ holds => holds.2) ?_
  refine .bind (activeClosureTarget_holds kept.toCalm met) fun active => .given (A := Since s₀ none)
    (fun _ holds => holds.1) ?_
  cases active with
  | some target => exact maybeActivateCompletionStage_followed plan met target
  | none => exact backfilled_followed plan met

/-! ## Results -/

/-- While a result is applied: no new work, no other root judged, and these targets still open. -/
structure Ruling (s₀ : ClosureSession) (root : String) (keeps : String → Prop) (s : ClosureSession) : Prop where
  opened : ∀ other, keeps other → s₀.IsOpen other → s.IsOpen other
  judged : ∀ other, s.snapshot.arbiterRoot = some other → other = root
  judgedSaved : ∀ other, s.saved.arbiterRoot = some other → other = root

def Pending (s₀ : ClosureSession) (root : String) (keeps : String → Prop) (s : ClosureSession) : Prop :=
  Ruling s₀ root keeps s ∧ s.work = s₀.work

/-- An incident is queued, and the run is over in memory and on disk. -/
structure HandedOff (s₀ s : ClosureSession) : Prop where
  opened : ∀ other, s₀.IsOpen other → s.IsOpen other
  judged : s.snapshot.arbiterRoot = none
  judgedSaved : s.saved.arbiterRoot = none

variable {root : String} {keeps : String → Prop} (outcome : ArbiterOutcome)

theorem calm_pending : Calm (Pending s₀ root keeps) (Pending s₀ root keeps) where
  fails _ pending := pending
  operations _ _ := fun ⟨ruling, same⟩ => ⟨⟨ruling.opened, ruling.judged, ruling.judgedSaved⟩, same⟩
  status _ _ _ := fun ⟨ruling, same⟩ => ⟨⟨ruling.opened, ruling.judged, ruling.judgedSaved⟩, same⟩
  save _ _ := fun ⟨ruling, same⟩ => ⟨⟨ruling.opened, ruling.judged, ruling.judged⟩, same⟩

/-- Every target stays open but the one that an idle decision closes. -/
def kept (outcome : ArbiterOutcome) (root other : String) : Prop := outcome.decision.action = .idle → other ≠ root

theorem pending_rules {Q : ClosureSession → Prop}
    (saved : ∀ s, Pending s₀ root (kept outcome root) s → Q s)
    (closing : Holds Q (fileOperation met) (fun _ => Q) fun _ => Pending s₀ root (kept outcome root)) :
    ResultRules plan met outcome root (Pending s₀ root (kept outcome root)) Q (Pending s₀ root (kept outcome root)) where
  calm := calm_pending
  write _ target own isOpen := fun ⟨ruling, same⟩ => by
    refine ⟨⟨fun other keep was => isOpen_write (ruling.opened other keep was) fun here => ?_, ruling.judged,
      ruling.judgedSaved⟩, same⟩
    exact isOpen fun idle => keep idle (here.symm.trans own)
  clear _ plane failureClass := fun ⟨ruling, same⟩ =>
    ⟨⟨ruling.opened, clearActivePlane_judged ruling.judged plane failureClass, ruling.judgedSaved⟩, same⟩
  recover _ failureClass := fun ⟨ruling, same⟩ =>
    ⟨⟨ruling.opened, setRecoveryStageForPlane_judged plan met outcome failureClass ruling.judged,
      ruling.judgedSaved⟩, same⟩
  saved s n pending := saved _ (calm_pending.save s n pending)
  closing := closing
  fails _ pending := pending

theorem applyArbiterOutcome_pending (named : metadataString outcome.result "closure_target_root_spec_id" = some root)
    (plain : outcome.decision.action = .handoff → outcome.decision.createIncident = false) :
    Holds (Pending s₀ root (kept outcome root)) (applyArbiterOutcome plan met outcome)
      (fun _ => Pending s₀ root (kept outcome root)) fun _ => Pending s₀ root (kept outcome root) := by
  have rules : ResultRules plan met outcome root (Pending s₀ root (kept outcome root))
      (Pending s₀ root (kept outcome root)) (Pending s₀ root (kept outcome root)) :=
    pending_rules plan met outcome (fun _ pending => pending) (fileOperation_holds calm_pending met)
  refine applyArbiterOutcome_holds rules (fun handoff create => ?_) named
  rw [plain handoff] at create
  cases create

theorem fileOperation_succeeds {P : ClosureSession → Prop} {E : ClosureError → ClosureSession → Prop}
    (sound : ∀ n, met.fault n = none) (operations : ∀ s n, P s → P { s with operations := n }) :
    Holds P (fileOperation met) (fun _ => P) E := by
  refine .bind (Q := fun s s' => s = s' ∧ P s) (.get fun s holds => ⟨rfl, holds⟩) fun before => ?_
  refine .bind (Q := fun _ => P) (fun s ⟨_, holds⟩ => operations before _ holds) fun _ => ?_
  rw [sound]
  exact .pure fun _ holds => holds

/-- A handover without a failing file operation ends the run once its incident is queued. -/
theorem handover_sound (sound : ∀ n, met.fault n = none) (planning : outcome.result.plane = .planning)
    (handoff : outcome.decision.action = .handoff) :
    Handover met outcome (Pending s₀ root (kept outcome root)) (Ruling s₀ root (kept outcome root))
      fun s => Pending s₀ root (kept outcome root) s ∨ HandedOff s₀ s where
  incident _ _ := fun ⟨ruling, _⟩ => ⟨ruling.opened, ruling.judged, ruling.judgedSaved⟩
  told := fileOperation_succeeds met sound fun _ _ ruling => ⟨ruling.opened, ruling.judged, ruling.judgedSaved⟩
  ended := by
    have all : ∀ other, kept outcome root other := fun other idle => by rw [handoff] at idle; cases idle
    have operations : ∀ s n, HandedOff s₀ s → HandedOff s₀ { s with operations := n } :=
      fun _ _ handed => ⟨handed.opened, handed.judged, handed.judgedSaved⟩
    refine .weaken (B := fun _ => HandedOff s₀) (A := Ruling s₀ root (kept outcome root)) ?_ (fun _ holds => holds)
      (fun _ _ handed => .inr handed) fun _ _ fails => fails
    refine .bind (Q := fun _ s => (∀ other, s₀.IsOpen other → s.IsOpen other) ∧ s.snapshot.arbiterRoot = none)
      (.modify fun s ruling => ⟨fun other was => ruling.opened other (all other) was,
        arbiterRoot_cleared planning _ _⟩) fun _ => ?_
    refine .bind (Q := fun _ s => (∀ other, s₀.IsOpen other → s.IsOpen other) ∧ s.snapshot.arbiterRoot = none)
      (.pure fun _ holds => holds) fun _ => ?_
    refine .bind (fileOperation_succeeds met sound fun _ _ holds => holds) fun _ => .bind (Q := fun _ => HandedOff s₀) ?_
      fun _ => fileOperation_succeeds met sound operations
    exact .bind (fileOperation_succeeds met sound fun _ _ holds => holds) fun _ =>
      .modify fun s holds => ⟨holds.1, holds.2, holds.2⟩

theorem applyArbiterOutcome_sound (named : metadataString outcome.result "closure_target_root_spec_id" = some root)
    (sound : ∀ n, met.fault n = none) (planning : outcome.result.plane = .planning) :
    Holds (Pending s₀ root (kept outcome root)) (applyArbiterOutcome plan met outcome)
      (fun _ s => Pending s₀ root (kept outcome root) s ∨ HandedOff s₀ s)
      fun _ => Pending s₀ root (kept outcome root) := by
  have closing : Holds (fun s => Pending s₀ root (kept outcome root) s ∨ HandedOff s₀ s) (fileOperation met)
      (fun _ s => Pending s₀ root (kept outcome root) s ∨ HandedOff s₀ s)
      fun _ => Pending s₀ root (kept outcome root) := by
    refine fileOperation_succeeds met sound fun s n holds => holds.imp (calm_pending.operations s n) fun handed => ?_
    exact ⟨handed.opened, handed.judged, handed.judgedSaved⟩
  exact applyArbiterOutcome_holds (pending_rules plan met outcome (fun _ pending => .inl pending) closing)
    (fun handoff _ => ⟨_, handover_sound met outcome sound planning handoff⟩) named

/-! ## Runs -/

/-- After a step the invariant holds again, and what the step closed is drained. -/
def Settles (plan : ClosurePlan) (s : ClosureSession) (step : ClosureStep) : Prop :=
  Judged (step.apply plan s) ∧ ClosesDrained plan s step

theorem run_followed {s : ClosureSession} {x : ClosureM Unit}
    (holds : Holds (Since s s.snapshot.arbiterRoot) x (fun _ => Followed s) fun _ => Followed s)
    (saved : s.saved.arbiterRoot = s.snapshot.arbiterRoot) : Followed s (s.run x) := by
  have step := holds { s with operations := 0 } ⟨rfl, fun _ was => was, rfl, saved⟩
  unfold ClosureSession.run
  cases ran : x { s with operations := 0 } with
  | ok _ s' =>
    rw [ran] at step
    exact step
  | error _ s' =>
    rw [ran] at step
    exact ⟨step.work, step.opened, fun root judged => step.judged root (.inr (or_self_iff.mp judged))⟩

theorem Followed.settles {s : ClosureSession} {step : ClosureStep} (followed : Followed s (step.apply plan s)) :
    Settles plan s step :=
  ⟨followed.judged, fun root was closed => absurd (followed.opened root was) closed⟩

/-- Where an error leaves the process before the handover, the saved snapshot judges no other root either. -/
theorem run_ruled {s : ClosureSession} {x : ClosureM Unit} {ruled : ClosureSession → Prop}
    (holds : Holds (Pending s root keeps) x (fun _ => ruled) fun _ => Pending s root keeps)
    (weaker : ∀ s', Pending s root keeps s' → ruled s') (started : Pending s root keeps { s with operations := 0 }) :
    ruled (s.run x) := by
  have step := holds _ started
  unfold ClosureSession.run
  cases ran : x { s with operations := 0 } with
  | ok _ s' =>
    rw [ran] at step
    exact step
  | error _ s' =>
    rw [ran] at step
    obtain ⟨ruling, same⟩ := step
    exact weaker _ ⟨⟨ruling.opened, ruling.judgedSaved, ruling.judgedSaved⟩, same⟩

theorem Pending.judged {s s' : ClosureSession} (pending : Pending s root keeps s') (drained : ¬ OpenWork s.work root) :
    Judged s' := by
  rintro other (now | later)
  · rw [pending.1.judged other now, pending.2]
    exact drained
  · rw [pending.1.judgedSaved other later, pending.2]
    exact drained

theorem HandedOff.unjudged {s s' : ClosureSession} (handed : HandedOff s s') : Judged s' := by
  rintro other (now | later)
  · rw [handed.judged] at now
    cases now
  · rw [handed.judgedSaved] at later
    cases later

/-- An arbiter's result closes nothing but the root that it judged. -/
theorem arbiterResult_settles {s : ClosureSession} (rested : Rested s) (judged : Judged s)
    (undisturbed : Undisturbed s (.arbiterResult outcome met)) : Settles plan s (.arbiterResult outcome met) := by
  have still : Followed s s := ⟨rfl, fun _ was => was, judged⟩
  cases active : s.snapshot.activeRunsByPlane .planning with
  | none =>
    apply Followed.settles
    simp only [ClosureStep.apply, active]
    exact still
  | some run =>
    by_cases normalized : NormalizedFor run.val outcome.result
    · have applied : (ClosureStep.arbiterResult outcome met).apply plan s =
          s.run (applyArbiterOutcome plan met outcome) := by
        simp only [ClosureStep.apply, active]
        exact if_pos normalized
      obtain ⟨closure, own, _, _, plane, _, _, _, _, named⟩ := normalized
      have under : s.snapshot.arbiterRoot = some outcome.result.workItemId := by
        rw [arbiterRoot_of_active active rfl, if_pos closure, own]
      have drained : ¬ OpenWork s.work outcome.result.workItemId := judged _ (.inl under)
      obtain ⟨sole, resting⟩ := rested
      have same : outcome.result.workItemId = sole := resting.sole.judged _ under
      have started : Pending s outcome.result.workItemId (kept outcome outcome.result.workItemId)
          { s with operations := 0 } :=
        ⟨⟨fun _ _ was => was, fun _ is => (resting.sole.judged _ is).trans same.symm,
          fun _ is => (resting.sole.judgedSaved _ is).trans same.symm⟩, rfl⟩
      unfold Settles ClosesDrained
      rw [applied]
      by_cases create : outcome.decision.action = .handoff ∧ outcome.decision.createIncident = true
      · -- with an incident to create no file operation fails, so the run ends with the handover
        have sound : ∀ n, met.fault n = none := undisturbed create.1 create.2
        rcases run_ruled (applyArbiterOutcome_sound plan met outcome named sound (plane.trans run.property))
          (fun _ pending => .inl pending) started with pending | handed
        · refine ⟨pending.judged drained, fun root was closed => absurd (pending.1.opened root ?_ was) closed⟩
          intro idle
          rw [create.1] at idle
          cases idle
        · exact ⟨handed.unjudged, fun root was closed => absurd (handed.opened root was) closed⟩
      · have plain : outcome.decision.action = .handoff → outcome.decision.createIncident = false := by
          intro handoff
          simpa [handoff] using create
        have pending : Pending s outcome.result.workItemId (kept outcome outcome.result.workItemId)
            (s.run (applyArbiterOutcome plan met outcome)) :=
          run_ruled (applyArbiterOutcome_pending plan met outcome named plain) (fun _ pending => pending) started
        refine ⟨pending.judged drained, fun root was closed => ?_⟩
        by_cases named : root = outcome.result.workItemId
        · rw [named, pending.2]
          exact drained
        · exact absurd (pending.1.opened root (fun _ => named) was) closed
    · apply Followed.settles
      simp only [ClosureStep.apply, active]
      rw [if_neg normalized]
      exact still

theorem step_settles {s : ClosureSession} (step : ClosureStep) (rested : Rested s) (judged : Judged s)
    (undisturbed : Undisturbed s step) : Settles plan s step := by
  obtain ⟨root, resting⟩ := rested
  have saved : s.saved.arbiterRoot = s.snapshot.arbiterRoot := by
    unfold ClosureSnapshot.arbiterRoot
    rw [resting.settled]
  have drained : ∀ other, s.snapshot.arbiterRoot = some other → ¬ OpenWork s.work other :=
    fun other is => judged other (.inl is)
  have still : Followed s s := ⟨rfl, fun _ was => was, judged⟩
  cases step with
  | serialTick met =>
    apply Followed.settles
    simp only [ClosureStep.apply]
    by_cases idle : s.snapshot.idle = true
    · rw [if_pos idle]
      have free : s.snapshot.activeRunsByPlane .planning = none := by
        simpa using List.all_eq_true.mp idle .planning (by decide)
      refine run_followed ?_ saved
      rw [arbiterRoot_none free]
      exact activateNextWorkOrCompletion_followed plan met
    · rw [if_neg idle]
      exact still
  | claimForPlane plane met =>
    exact Followed.settles plan (run_followed (activateNextClaimForPlane_followed plan met drained plane) saved)
  | completionStage met =>
    exact Followed.settles plan (run_followed (activateCompletionStageIfReady_followed plan met drained) saved)
  | arbiterResult outcome met => exact arbiterResult_settles plan met outcome ⟨root, resting⟩ judged undisturbed
  | runs snapshot =>
    apply Followed.settles
    simp only [ClosureStep.apply]
    by_cases known : snapshot.arbiterRoot = none ∨ snapshot.arbiterRoot = s.snapshot.arbiterRoot
    · rw [if_pos known]
      refine ⟨rfl, fun _ was => was, fun other is => ?_⟩
      rcases known with none | same
      · simp [none] at is
      · exact drained other (same ▸ or_self_iff.mp is)
    · rw [if_neg known]
      exact still
  | queues work =>
    refine ⟨fun other is => ?_, fun other was closed => absurd was closed⟩
    have now : s.snapshot.arbiterRoot = some other := is.elim id fun later => saved.symm.trans later
    exact fun opened => judged other (.inl now) (undisturbed other now opened)

/-- In every run whose steps leave the root under judgement undisturbed, every target that closes is drained. -/
theorem closures_drained (plan : ClosurePlan) (work : LineageWork) (steps : List ClosureStep)
    (undisturbed : Runs.Along (ClosureStep.apply plan) Undisturbed (ClosureSession.start [] work) steps) :
    Runs.Along (ClosureStep.apply plan) (ClosesDrained plan) (ClosureSession.start [] work) steps := by
  have judged : Judged (ClosureSession.start [] work) := by
    rintro root is
    simp [ClosureSession.start, arbiterRoot_none] at is
  have rested : Rested (ClosureSession.start [] work) := start_rested work
  generalize ClosureSession.start [] work = s at undisturbed judged rested
  induction steps generalizing s with
  | nil => trivial
  | cons step steps ih =>
    obtain ⟨settled, drained⟩ := step_settles plan step rested judged undisturbed.1
    exact ⟨drained, ih _ undisturbed.2 settled (apply_rested plan step rested)⟩

end Drained

/-! ## A task added while the arbiter runs -/

/-- A time library that knows one moment. -/
local instance : Rfc3339 where
  parse text := if text = "2026-02-01T00:00:00Z" then .ok ⟨2026, 2, 1, 0, 0, 0, 0, 0⟩ else .error "unknown moment"

def february : Timestamp where
  text := "2026-02-01T00:00:00Z"
  trimmed := by decide +kernel
  nonempty := by decide
  parses := by decide +kernel

def searchSpec : SpecDocument where
  specId := "idea-search"
  title := "Search"
  summary := "Search the catalogue"
  sourceType := .idea
  sourceId := none
  parentSpecId := none
  rootIdeaId := some "search"
  rootSpecId := some "idea-search"
  rootIntakeKind := none
  rootIntakeId := none
  goals := ["find entries"]
  nonGoals := []
  scope := []
  constraints := ["no new service"]
  assumptions := []
  risks := []
  targetPaths := []
  entrypoints := []
  requiredSkills := []
  decompositionHints := []
  acceptance := ["entries are found"]
  references := ["ideas/search.md"]
  createdAt := february
  createdBy := "watcher"
  updatedAt := none

def lateTask : TaskDocument where
  taskId := "late-task"
  title := "Rank the entries"
  summary := "Rank what the search finds"
  rootIdeaId := some "search"
  rootSpecId := some "idea-search"
  rootIntakeKind := none
  rootIntakeId := none
  specId := some "idea-search"
  parentTaskId := none
  incidentId := none
  targetPaths := ["src/rank.rs"]
  acceptance := ["the best entry comes first"]
  requiredChecks := ["cargo test"]
  references := ["ideas/search.md"]
  risk := ["low"]
  dependsOn := []
  blocks := []
  tags := []
  statusHint := none
  createdAt := february
  createdBy := "operator"
  updatedAt := none

/-- The root spec is done and nothing is left of it. -/
def drainedWork : LineageWork :=
  { LineageWork.empty with specs := fun state => if state = .done then [⟨"idea-search", some searchSpec⟩] else [] }

/-- The same work after an operator queued one more task of the root. -/
def lateWork : LineageWork :=
  { drainedWork with tasks := fun state => if state = .queue then [⟨"late-task", some lateTask⟩] else [] }

def arbiterPlan : ClosurePlan where
  completionBehavior := true
  learningGraph := false
  completionEntry := some ⟨.arbiter, "arbiter", "arbiter"⟩
  activationForClaim _ := none
  repairStage := ⟨.mechanic, "mechanic", "mechanic"⟩

def calmMeeting : Meeting where
  now := february
  runId := "run-1"
  fault _ := none
  claim _ _ := none
  rootIdeaFound _ := true


def closedByArbiter : ArbiterOutcome where
  result := {
    runId := "run-1"
    plane := .planning
    stage := .arbiter
    nodeId := "arbiter"
    stageKindId := "arbiter"
    workItemKind := .spec
    workItemId := "idea-search"
    terminalResult := .planning .arbiterComplete
    metadata := [("request_kind", .text "closure_target"), ("closure_target_root_spec_id", .text "idea-search")]
    ofPlane := rfl }
  decision := {
    action := .idle
    nextPlane := none
    nextStage := none
    reason := "arbiter_complete"
    nextNodeId := none
    nextStageKindId := none
    failureClass := none
    counterKey := none
    createIncident := false }
  summaryStatusMarker := "### ARBITER_COMPLETE"
  verdictPath := none
  reportPath := none
  repeatedRemediation _ := false
  notes := []
  evidencePaths := []
  relatedStageResult := "runs/run-1/stage_results/arbiter.json"
  shortHash := "0a1b2c3d"

/-- With nothing taken in meanwhile, the arbiter closes the drained target. -/
theorem closures_drained_search : Runs.Along (ClosureStep.apply arbiterPlan) (ClosesDrained arbiterPlan)
      (.start [] drainedWork) [.completionStage calmMeeting, .arbiterResult closedByArbiter calmMeeting] ∧
    (Runs.after (ClosureStep.apply arbiterPlan) (.start [] drainedWork)
      [.completionStage calmMeeting, .arbiterResult closedByArbiter calmMeeting]).targets.map (·.closureOpen) = [false] := by
  refine ⟨closures_drained arbiterPlan drainedWork _ ⟨trivial, fun handoff => ?_, trivial⟩, by decide +kernel⟩
  cases handoff

/-- A task that is added while the arbiter runs stays queued under a closed target. -/
theorem closes_over_late_task : ¬ Runs.Along (ClosureStep.apply arbiterPlan) (ClosesDrained arbiterPlan)
    (.start [] drainedWork)
    [.completionStage calmMeeting, .queues lateWork, .arbiterResult closedByArbiter calmMeeting] := by
  intro ⟨_, _, drained, _⟩
  have isOpen : ∃ target ∈ ((ClosureStep.queues lateWork).apply arbiterPlan ((ClosureStep.completionStage calmMeeting).apply
      arbiterPlan (.start [] drainedWork))).targets, target.rootSpecId = "idea-search" ∧ target.closureOpen = true := by
    decide +kernel
  have closed : ¬ ∃ target ∈ ((ClosureStep.arbiterResult closedByArbiter calmMeeting).apply arbiterPlan
      ((ClosureStep.queues lateWork).apply arbiterPlan ((ClosureStep.completionStage calmMeeting).apply
        arbiterPlan (.start [] drainedWork)))).targets, target.rootSpecId = "idea-search" ∧ target.closureOpen = true := by
    decide +kernel
  have queued : (((ClosureStep.arbiterResult closedByArbiter calmMeeting).apply arbiterPlan
      ((ClosureStep.queues lateWork).apply arbiterPlan ((ClosureStep.completionStage calmMeeting).apply
        arbiterPlan (.start [] drainedWork)))).work.tasks .queue).map (·.document) = [some lateTask] := by
    decide +kernel
  apply drained "idea-search" isOpen closed
  obtain ⟨file, listed, reads⟩ := List.mem_map.mp (queued ▸ List.mem_singleton_self (some lateTask))
  exact .task (by decide) listed reads rfl

end Millrace.Closure

import Millrace.Closure.Results

/-! At most one closure target is actionable, whatever steps the runtime takes. -/

set_option autoImplicit false

namespace Millrace.Closure
open Millrace.Text Millrace.Contracts Millrace.WorkDocuments Millrace.Action
open Millrace.Runtime (ActiveRunState ActiveRunRequestKind RouterDecision StageResultEnvelope)

/-! ## Targets of one root -/

def OnlyFor (root : String) (targets : List ClosureTargetState) : Prop :=
  ∀ target ∈ targets, target.actionable = true → target.rootSpecId = root

def Keyed (targets : List ClosureTargetState) : Prop := (targets.map (·.rootSpecId)).Nodup

theorem Keyed.write {targets : List ClosureTargetState} (keyed : Keyed targets) (target : ClosureTargetState) :
    Keyed (writeTarget target targets) := by
  unfold Keyed writeTarget
  rw [List.map_cons, List.nodup_cons]
  constructor
  · intro member
    obtain ⟨other, kept, same⟩ := List.mem_map.mp member
    exact absurd same (by simpa using (List.mem_filter.mp kept).2)
  · exact keyed.sublist (List.filter_sublist.map _)

theorem OnlyFor.write {root : String} {targets : List ClosureTargetState} (only : OnlyFor root targets)
    {target : ClosureTargetState} (same : target.rootSpecId = root) : OnlyFor root (writeTarget target targets) := by
  intro other member actionable
  rcases List.mem_cons.mp member with here | kept
  · rw [here, same]
  · exact only other (List.mem_of_mem_filter kept) actionable

/-- Under distinct roots, the actionable targets of one root are at most one. -/
theorem length_actionable {root : String} {targets : List ClosureTargetState} (keyed : Keyed targets)
    (only : OnlyFor root targets) : (targets.filter (·.actionable)).length ≤ 1 := by
  have distinct : ((targets.filter (·.actionable)).map (·.rootSpecId)).Nodup :=
    keyed.sublist (List.filter_sublist.map _)
  have same : ∀ target ∈ targets.filter (·.actionable), target.rootSpecId = root := by
    intro target member
    obtain ⟨there, actionable⟩ := List.mem_filter.mp member
    exact only target there actionable
  revert distinct same
  generalize targets.filter (·.actionable) = found
  intro distinct same
  match found with
  | [] => exact Nat.zero_le 1
  | [_] => exact Nat.le_refl 1
  | first :: second :: rest =>
    have twice : first.rootSpecId = second.rootSpecId := by
      rw [same first (by simp), same second (by simp)]
    simp [twice] at distinct

theorem actionable_perm (targets : List ClosureTargetState) :
    (actionableOpenClosureTargets ((targets.filter (·.closureOpen)).mergeSort
      fun a b => decide (a.rootSpecId ≤ b.rootSpecId))).Perm (targets.filter (·.actionable)) := by
  have sorted := (List.mergeSort_perm (targets.filter (·.closureOpen))
    fun a b => decide (a.rootSpecId ≤ b.rootSpecId)).filter fun target => !target.closureBlockedByLineageWork
  refine sorted.trans ?_
  rw [List.filter_filter]
  exact List.Perm.of_eq (List.filter_congr fun target _ => Bool.and_comm _ _)

theorem none_actionable {targets : List ClosureTargetState}
    (none : actionableOpenClosureTargets ((targets.filter (·.closureOpen)).mergeSort
      fun a b => decide (a.rootSpecId ≤ b.rootSpecId)) = []) : ∀ target ∈ targets, target.actionable = false := by
  have same := actionable_perm targets
  rw [none] at same
  intro target member
  simpa using List.filter_eq_nil_iff.mp same.nil_eq.symm target member

theorem arbiterRoot_none {snapshot : ClosureSnapshot} (free : snapshot.activeRunsByPlane .planning = none) :
    snapshot.arbiterRoot = none := by
  simp [ClosureSnapshot.arbiterRoot, free]

theorem arbiterRoot_of_active {snapshot : ClosureSnapshot} {plane : Plane} {run : RunOf plane}
    (active : snapshot.activeRunsByPlane plane = some run) (planning : plane = .planning) :
    snapshot.arbiterRoot =
      if run.val.requestKind = .closureTarget then run.val.closureTargetRootSpecId else none := by
  subst planning
  simp [ClosureSnapshot.arbiterRoot, active]

theorem arbiterRoot_withActiveRun (run : ActiveRunState) (snapshot : ClosureSnapshot) :
    (snapshotWithActiveRun run snapshot).arbiterRoot =
      if run.plane = .planning then (if run.requestKind = .closureTarget then run.closureTargetRootSpecId else none)
      else snapshot.arbiterRoot := by
  unfold ClosureSnapshot.arbiterRoot snapshotWithActiveRun
  by_cases planning : run.plane = .planning
  · obtain ⟨plane⟩ := run
    simp only at planning
    subst planning
    simp
  · rw [if_neg planning]
    simp only [Function.update_of_ne (Ne.symm planning)]

theorem arbiterRoot_cleared {plane : Plane} (planning : plane = .planning) (failureClass : Option String)
    (snapshot : ClosureSnapshot) : (clearActivePlane plane failureClass snapshot).arbiterRoot = none := by
  subst planning
  exact arbiterRoot_none (by simp [clearActivePlane])

theorem clearActivePlane_judged {root : String} {snapshot : ClosureSnapshot}
    (judged : ∀ other, snapshot.arbiterRoot = some other → other = root) (plane : Plane) (failureClass : Option String) :
    ∀ other, (clearActivePlane plane failureClass snapshot).arbiterRoot = some other → other = root := by
  intro other is
  by_cases planning : plane = .planning
  · rw [arbiterRoot_cleared planning] at is
    cases is
  · apply judged
    unfold ClosureSnapshot.arbiterRoot clearActivePlane at is
    simp only [Function.update_of_ne (Ne.symm planning)] at is
    exact is

section Invariant
variable [Rfc3339]

/-! ## The invariant -/

/-- Only this root's target is actionable, and no run judges another root. -/
structure SoleFor (root : String) (s : ClosureSession) : Prop where
  keyed : Keyed s.targets
  only : OnlyFor root s.targets
  judged : ∀ other, s.snapshot.arbiterRoot = some other → other = root
  judgedSaved : ∀ other, s.saved.arbiterRoot = some other → other = root

def Sole (s : ClosureSession) : Prop := ∃ root, SoleFor root s

def NoneActionable (s : ClosureSession) : Prop := ∀ target ∈ s.targets, target.actionable = false

/-- Between two steps the snapshot on disk shows the planning run that is in memory. -/
structure Resting (root : String) (s : ClosureSession) : Prop where
  sole : SoleFor root s
  settled : s.saved.activeRunsByPlane .planning = s.snapshot.activeRunsByPlane .planning

/-- No run is on the planning plane. -/
structure Ready (root : String) (s : ClosureSession) : Prop where
  sole : SoleFor root s
  free : s.snapshot.activeRunsByPlane .planning = none
  freeSaved : s.saved.activeRunsByPlane .planning = none

variable {root : String} {s : ClosureSession}

theorem Ready.resting (ready : Ready root s) : Resting root s := ⟨ready.sole, by rw [ready.free, ready.freeSaved]⟩

theorem Resting.ready (resting : Resting root s) (free : s.snapshot.activeRunsByPlane .planning = none) :
    Ready root s := ⟨resting.sole, free, by rw [resting.settled, free]⟩

/-- With the planning plane free and nothing actionable, any root may be the next. -/
theorem Ready.any (ready : Ready root s) (none : NoneActionable s) (other : String) : Ready other s where
  sole := {
    keyed := ready.sole.keyed
    only := fun target member actionable => by rw [none target member] at actionable; cases actionable
    judged := fun judged is => by rw [arbiterRoot_none ready.free] at is; cases is
    judgedSaved := fun judged is => by rw [arbiterRoot_none ready.freeSaved] at is; cases is }
  free := ready.free
  freeSaved := ready.freeSaved

theorem SoleFor.write (sole : SoleFor root s) {target : ClosureTargetState} (same : target.rootSpecId = root) (n : Nat) :
    SoleFor root { s with operations := n, targets := writeTarget target s.targets } where
  keyed := sole.keyed.write target
  only := sole.only.write same
  judged := sole.judged
  judgedSaved := sole.judgedSaved

theorem SoleFor.saved (sole : SoleFor root s) (n : Nat) :
    Resting root { s with operations := n, saved := s.snapshot } where
  sole := ⟨sole.keyed, sole.only, sole.judged, sole.judged⟩
  settled := rfl

/-! ## What a step keeps while it changes no run -/

/-- A property that neither the count of operations, nor a status, nor a save of the snapshot changes; the computations
below keep it, and end in `E` when they fail. -/
structure Calm (P E : ClosureSession → Prop) : Prop where
  fails : ∀ s, P s → E s
  operations : ∀ s n, P s → P { s with operations := n }
  status : ∀ s marker failureClass, P s →
    P { s with snapshot := { s.snapshot with planningStatusMarker := marker, currentFailureClass := failureClass } }
  save : ∀ s n, P s → P { s with operations := n, saved := s.snapshot }

theorem calm_resting : Calm (Resting root) Sole where
  fails _ resting := ⟨root, resting.sole⟩
  operations _ _ resting := ⟨⟨resting.sole.keyed, resting.sole.only, resting.sole.judged, resting.sole.judgedSaved⟩,
    resting.settled⟩
  status _ _ _ resting := ⟨⟨resting.sole.keyed, resting.sole.only, resting.sole.judged, resting.sole.judgedSaved⟩,
    resting.settled⟩
  save _ n resting := resting.sole.saved n

theorem calm_ready : Calm (Ready root) Sole where
  fails _ ready := ⟨root, ready.sole⟩
  operations _ _ ready := ⟨⟨ready.sole.keyed, ready.sole.only, ready.sole.judged, ready.sole.judgedSaved⟩, ready.free,
    ready.freeSaved⟩
  status _ _ _ ready := ⟨⟨ready.sole.keyed, ready.sole.only, ready.sole.judged, ready.sole.judgedSaved⟩, ready.free,
    ready.freeSaved⟩
  save _ n ready := ⟨(ready.sole.saved n).sole, ready.free, ready.free⟩

theorem calm_soleFor : Calm (SoleFor root) (SoleFor root) where
  fails _ sole := sole
  operations _ _ sole := ⟨sole.keyed, sole.only, sole.judged, sole.judgedSaved⟩
  status _ _ _ sole := ⟨sole.keyed, sole.only, sole.judged, sole.judgedSaved⟩
  save _ n sole := (sole.saved n).sole

theorem Calm.exists {P : String → ClosureSession → Prop} {E : ClosureSession → Prop} (calm : ∀ root, Calm (P root) E) :
    Calm (fun s => ∃ root, P root s) E where
  fails s := fun ⟨root, holds⟩ => (calm root).fails s holds
  operations s n := fun ⟨root, holds⟩ => ⟨root, (calm root).operations s n holds⟩
  status s marker failureClass := fun ⟨root, holds⟩ => ⟨root, (calm root).status s marker failureClass holds⟩
  save s n := fun ⟨root, holds⟩ => ⟨root, (calm root).save s n holds⟩

theorem Calm.forall {P : String → ClosureSession → Prop} {E : ClosureSession → Prop} (calm : ∀ root, Calm (P root) E) :
    Calm (fun s => ∀ root, P root s) E where
  fails s holds := (calm "").fails s (holds "")
  operations s n holds root := (calm root).operations s n (holds root)
  status s marker failureClass holds root := (calm root).status s marker failureClass (holds root)
  save s n holds root := (calm root).save s n (holds root)

theorem fileOperation_keeps {P : ClosureSession → Prop} (met : Meeting)
    (operations : ∀ s n, P s → P { s with operations := n }) :
    Holds P (fileOperation met) (fun _ => P) fun error s => P s ∧ ∃ message, error = .io message := by
  refine .bind (Q := fun s s' => s = s' ∧ P s) (.get fun s holds => ⟨rfl, holds⟩) fun before => ?_
  refine .bind (Q := fun _ => P) (fun s ⟨_, holds⟩ => operations before _ holds) fun _ => ?_
  cases met.fault before.operations with
  | some message => exact .throw fun s holds => ⟨holds, message, rfl⟩
  | none => exact .pure fun _ holds => holds

theorem checkContract_keeps {P : ClosureSession → Prop} (target : ClosureTargetState) :
    Holds P (checkContract target) (fun _ => P) fun error s => P s ∧ ∃ source, error = .contract source := by
  unfold checkContract
  cases target.validate with
  | ok => exact .pure fun _ holds => holds
  | error source => exact .throw fun s holds => ⟨holds, source, rfl⟩

theorem refuse_holds {P E : ClosureSession → Prop} (fails : ∀ s, P s → E s) (condition : Bool) (message : String) :
    Holds P (refuse condition message) (fun _ s => condition = false ∧ P s) fun _ => E :=
  .ite (fun _ => .throw fun s holds => fails s holds) fun passes => .pure fun _ holds => ⟨by simpa using passes, holds⟩

theorem getState_holds {α : Type} {P : ClosureSession → Prop} {E : ClosureError → ClosureSession → Prop}
    {f : ClosureSession → ClosureM α} {Q : α → ClosureSession → Prop}
    (rest : ∀ s, Holds (fun s' => s = s' ∧ P s') (f s) Q E) : Holds P (get >>= f) Q E :=
  .bind (Q := fun s s' => s = s' ∧ P s') (.get fun _ holds => ⟨rfl, holds⟩) rest

theorem Calm.idle {P E : ClosureSession → Prop} (calm : Calm P E) : Calm (fun s => P s ∧ NoneActionable s) E where
  fails s holds := calm.fails s holds.1
  operations s n holds := ⟨calm.operations s n holds.1, holds.2⟩
  status s marker failureClass holds := ⟨calm.status s marker failureClass holds.1, holds.2⟩
  save s n holds := ⟨calm.save s n holds.1, holds.2⟩

section Primitives
variable {P E : ClosureSession → Prop} (calm : Calm P E) (met : Meeting)
include calm

theorem fileOperation_holds : Holds P (fileOperation met) (fun _ => P) fun _ => E :=
  .weaken (fileOperation_keeps met calm.operations) (fun _ holds => holds) (fun _ _ holds => holds)
    fun _ s failed => calm.fails s failed.1

theorem checkContract_holds (target : ClosureTargetState) :
    Holds P (checkContract target) (fun _ => P) fun _ => E :=
  .weaken (checkContract_keeps target) (fun _ holds => holds) (fun _ _ holds => holds) fun _ s failed => calm.fails s failed.1

theorem findClosureTarget_holds (rootSpecId : String) : Holds P (findClosureTarget met rootSpecId)
    (fun found s => P s ∧ ∀ target, found = some target → target.rootSpecId = rootSpecId) fun _ => E := by
  refine .bind (fileOperation_holds calm met) fun _ => getState_holds fun s => ?_
  cases found : s.targets.find? fun target => target.rootSpecId = rootSpecId with
  | none => exact .pure fun s' holds => ⟨holds.2, nofun⟩
  | some target =>
    have same : target.rootSpecId = rootSpecId := by simpa using List.find?_some found
    refine .bind (Q := fun _ => P) ?_ fun _ => .pure fun s' holds => ⟨holds, fun other is => by cases is; exact same⟩
    exact .weaken (checkContract_holds calm target) (fun _ holds => holds.2) (fun _ _ holds => holds) fun _ _ holds => holds

theorem saveSnapshot_holds : Holds P (saveSnapshot met) (fun _ => P) fun _ => E := by
  refine .bind (fileOperation_holds calm met) fun _ => .modify fun s holds => ?_
  exact calm.save s s.operations holds

theorem saveClosureTargetState_holds {Q : ClosureSession → Prop} {target : ClosureTargetState}
    (step : ∀ s, P s → Q { s with targets := writeTarget target s.targets }) :
    Holds P (saveClosureTargetState met target) (fun _ => Q) fun _ => E :=
  .bind (checkContract_holds calm target) fun _ => .bind (fileOperation_holds calm met) fun _ => .modify step

theorem markCompletionBehaviorBlocked_holds (failureClass : String) :
    Holds P (markCompletionBehaviorBlocked met failureClass) (fun _ => P) fun _ => E := by
  refine getState_holds fun s => .ite (fun _ => .pure fun _ holds => holds.2) fun _ => ?_
  refine .bind (Q := fun _ => P) (.modify fun s' holds => ?_) fun _ => ?_
  · exact calm.status s' s'.snapshot.planningStatusMarker (some failureClass) holds.2
  refine .bind (fileOperation_holds calm met) fun _ => ?_
  refine .bind (Q := fun _ => P) (.modify fun s' holds => ?_) fun _ => ?_
  · exact calm.status s' "### BLOCKED" s'.snapshot.currentFailureClass holds
  exact .bind (saveSnapshot_holds calm met) fun _ => fileOperation_holds calm met

/-! ## Reading the targets -/

theorem openClosureTargets_holds : Holds P (openClosureTargets met)
    (fun targets s => P s ∧ targets = (s.targets.filter (·.closureOpen)).mergeSort
      fun a b => decide (a.rootSpecId ≤ b.rootSpecId)) fun _ => E := by
  refine .bind (fileOperation_holds calm met) fun _ => getState_holds fun s => ?_
  refine .bind (Q := fun _ s' => s = s' ∧ P s') (.forM _ fun target _ => ?_) fun _ => .pure fun s' ⟨same, holds⟩ => ?_
  · unfold checkContract
    cases target.validate with
    | ok => exact .pure fun _ holds => holds
    | error source => exact .throw fun s holds => calm.fails s holds.2
  · exact ⟨holds, by rw [same]⟩

/-- The active target is the one that is actionable; there is none where none is actionable. -/
theorem activeClosureTarget_holds : Holds P (activeClosureTarget met)
    (fun active s => P s ∧ match active with
      | some target => target ∈ s.targets ∧ target.actionable = true
      | none => NoneActionable s) fun _ => E := by
  refine .bind (openClosureTargets_holds calm met) fun targets => ?_
  have listed : ∀ s : ClosureSession, targets = (s.targets.filter (·.closureOpen)).mergeSort
      (fun a b => decide (a.rootSpecId ≤ b.rootSpecId)) → ∀ target : ClosureTargetState,
      target ∈ actionableOpenClosureTargets targets ↔ target ∈ s.targets ∧ target.actionable = true := by
    intro s sorted target
    rw [sorted, (actionable_perm s.targets).mem_iff, List.mem_filter]
  cases found : actionableOpenClosureTargets targets with
  | nil =>
    refine .pure fun s ⟨holds, sorted⟩ => ⟨holds, ?_⟩
    exact none_actionable (sorted ▸ found)
  | cons target rest =>
    cases rest with
    | nil => exact .pure fun s ⟨holds, sorted⟩ => ⟨holds, (listed s sorted target).mp (by simp [found])⟩
    | cons => exact .throw fun s holds => calm.fails s holds.1

end Primitives

/-! ## Activation -/

variable (plan : ClosurePlan) (met : Meeting)

theorem Ready.write (ready : Ready root s) {target : ClosureTargetState} (same : target.rootSpecId = root) :
    Ready root { s with targets := writeTarget target s.targets } :=
  ⟨ready.sole.write same s.operations, ready.free, ready.freeSaved⟩

theorem refreshClosureTargetReadiness_ready (target : ClosureTargetState) :
    Holds (Ready target.rootSpecId) (refreshClosureTargetReadiness met target)
      (fun refreshed s => Ready refreshed.rootSpecId s) fun _ => Sole := by
  refine .bind (fileOperation_holds calm_ready met) fun _ => getState_holds fun s => ?_
  dsimp only
  cases openLineageWorkIds s.work target.rootSpecId with
  | error error => exact .throw fun s' holds => calm_ready.fails s' holds.2
  | ok ids =>
    refine .bind (Q := fun _ => Ready target.rootSpecId) ?_ fun _ => .pure fun _ ready => ready
    refine .weaken (saveClosureTargetState_holds calm_ready met fun _ ready => ready.write rfl)
      (fun _ holds => holds.2) (fun _ _ ready => ready) fun _ _ sole => sole

theorem blockOnClosureLineageDriftIfPresent_ready (target : ClosureTargetState) :
    Holds (Ready target.rootSpecId) (blockOnClosureLineageDriftIfPresent met target)
      (fun _ => Ready target.rootSpecId) fun _ => Sole := by
  refine .bind (fileOperation_holds calm_ready met) fun _ => getState_holds fun s => ?_
  cases scanClosureLineageDrift s.work target.rootSpecId target.rootIdeaId with
  | nil => exact .pure fun _ holds => holds.2
  | cons finding findings =>
    refine .weaken (A := Ready target.rootSpecId) ?_ (fun _ holds => holds.2) (fun _ _ ready => ready) fun _ _ sole => sole
    refine .bind (fileOperation_holds calm_ready met) fun _ => ?_
    refine .bind (saveClosureTargetState_holds calm_ready met fun _ ready => ready.write rfl) fun _ => ?_
    refine .bind (markCompletionBehaviorBlocked_holds calm_ready met _) fun _ => ?_
    exact .bind (fileOperation_holds calm_ready met) fun _ => .pure fun _ ready => ready

/-- A run that judges no other root than this one takes the plane. -/
theorem startRun_rests {P : ClosureSession → Prop} {run : ActiveRunState} (sole : ∀ s, P s → SoleFor root s)
    (judged : ∀ s, P s → ∀ other, (snapshotWithActiveRun run s.snapshot).arbiterRoot = some other → other = root) :
    Holds P (startRun met run) (fun _ => Resting root) fun _ => Sole := by
  refine .bind (Q := fun _ => SoleFor root) (.modify fun s holds => ?_) fun _ => ?_
  · exact ⟨(sole s holds).keyed, (sole s holds).only, judged s holds, (sole s holds).judgedSaved⟩
  refine .bind (Q := fun _ => SoleFor root) ?_ fun _ => .modify fun s holds => holds.saved s.operations
  exact .weaken (fileOperation_holds calm_soleFor met) (fun _ holds => holds) (fun _ _ holds => holds)
    fun _ _ holds => ⟨root, holds⟩

theorem maybeActivateCompletionStage_rests (target : ClosureTargetState) :
    Holds (Ready target.rootSpecId) (maybeActivateCompletionStage plan met target)
      (fun _ s => ∃ root, Resting root s) fun _ => Sole := by
  refine .ite (fun _ => .pure fun _ ready => ⟨_, ready.resting⟩) fun _ => ?_
  refine .bind (refreshClosureTargetReadiness_ready met target) fun refreshed => ?_
  refine .ite (fun _ => .pure fun _ ready => ⟨_, ready.resting⟩) fun _ => ?_
  refine .bind (blockOnClosureLineageDriftIfPresent_ready met refreshed) fun drifted => ?_
  refine .ite (fun _ => .pure fun _ ready => ⟨_, ready.resting⟩) fun _ => ?_
  cases plan.completionEntry with
  | none => exact .throw fun _ ready => ⟨_, ready.sole⟩
  | some activation =>
    refine .weaken (startRun_rests met (fun _ (ready : Ready refreshed.rootSpecId _) => ready.sole) ?_)
      (fun _ ready => ready) (fun _ _ resting => ⟨_, resting⟩) fun _ _ sole => sole
    intro s _ other is
    rw [arbiterRoot_withActiveRun] at is
    simpa [completionRun, eq_comm] using is

/-- A target is opened only where none is actionable; the new one is then the only one. -/
theorem createClosureTargetForRootSpec_ready {P : ClosureSession → Prop} (calm : Calm P Sole)
    (ready : ∀ s, P s → ∃ root, Ready root s) (spec : SpecDocument) :
    Holds P (createClosureTargetForRootSpec met spec)
      (fun created s => P s ∨ ∃ target, created = some target ∧ Ready target.rootSpecId s) fun _ => Sole := by
  have unchanged : ∀ created : Option ClosureTargetState, Holds P (pure created : ClosureM (Option ClosureTargetState))
      (fun created s => P s ∨ ∃ target, created = some target ∧ Ready target.rootSpecId s) fun _ => Sole :=
    fun created => .pure fun _ holds => .inl holds
  unfold createClosureTargetForRootSpec
  split
  case h_2 => exact unchanged none
  case h_1 rootSpecId rootIdeaId _ _ =>
  refine .ite (fun _ => unchanged none) fun _ => ?_
  refine .bind (findClosureTarget_holds calm met rootSpecId) fun found => ?_
  cases found with
  | some target => exact .weaken (unchanged (some target)) (fun _ holds => holds.1) (fun _ _ holds => holds) fun _ _ sole => sole
  | none =>
    refine .weaken (A := P) ?_ (fun _ holds => holds.1) (fun _ _ holds => holds) fun _ _ sole => sole
    refine .bind (openClosureTargets_holds calm met) fun targets => ?_
    have fails : ∀ s, P s ∧ targets = (s.targets.filter (·.closureOpen)).mergeSort
        (fun a b => decide (a.rootSpecId ≤ b.rootSpecId)) → Sole s := fun s holds => calm.fails s holds.1
    refine .bind (refuse_holds fails _ _) fun _ => ?_
    refine .bind (refuse_holds (fun s holds => fails s holds.2) _ _) fun _ => ?_
    refine .weaken (A := fun s => P s ∧ NoneActionable s) ?_ (fun s ⟨passed, _, holds, sorted⟩ => ⟨holds, ?_⟩)
      (fun _ _ holds => holds) fun _ _ sole => sole
    case refine_2 =>
      rw [sorted] at passed
      exact none_actionable (by simpa using passed)
    refine .bind (fileOperation_holds calm.idle met) fun _ => ?_
    refine .ite (fun _ => .weaken (unchanged none) (fun _ holds => holds.1) (fun _ _ holds => holds) fun _ _ sole => sole)
      fun _ => ?_
    refine .bind (fileOperation_holds calm.idle met) fun _ => ?_
    refine .bind (fileOperation_holds calm.idle met) fun _ => ?_
    refine .bind (fileOperation_holds calm.idle met) fun _ => ?_
    refine .bind (saveClosureTargetState_holds calm.idle met fun s holds => ?_) fun _ => .pure fun s opened => .inr ⟨_, rfl, opened⟩
    obtain ⟨root, ready⟩ := ready s holds.1
    exact (ready.any holds.2 rootSpecId).write rfl

theorem recoverOrBackfillMissingClosureTarget_ready :
    Holds (fun s => ∀ root, Ready root s) (recoverOrBackfillMissingClosureTarget plan met)
      (fun found s => match found with
        | some target => Ready target.rootSpecId s
        | none => ∀ root, Ready root s) fun _ => Sole := by
  have calm : Calm (fun s => ∀ root, Ready root s) Sole := .forall fun _ => calm_ready
  refine .ite (fun _ => .pure fun _ ready => ready) fun _ => ?_
  refine .bind (fileOperation_holds calm met) fun _ => getState_holds fun s => ?_
  refine .weaken (A := fun s => ∀ root, Ready root s) ?_ (fun _ holds => holds.2) (fun _ _ holds => holds)
    fun _ _ sole => sole
  cases latestRootSpecCandidate s.work with
  | none => exact .pure fun _ ready => ready
  | some spec =>
    dsimp only
    split
    case h_2 =>
      exact .bind (markCompletionBehaviorBlocked_holds calm met _) fun _ => .pure fun _ ready => ready
    case h_1 rootSpecId _ _ _ =>
    refine .bind (findClosureTarget_holds calm met rootSpecId) fun found => ?_
    cases found with
    | some target =>
      refine .pure fun s holds => ?_
      by_cases isOpen : target.closureOpen = true
      · rw [if_pos isOpen]
        exact holds.1 target.rootSpecId
      · rw [if_neg isOpen]
        exact holds.1
    | none =>
      have create := createClosureTargetForRootSpec_ready met calm (fun _ ready => ⟨"", ready ""⟩) spec
      refine .bind (Holds.weaken create (fun _ holds => holds.1) (fun _ _ holds => holds) fun _ _ sole => sole) fun created => ?_
      cases created with
      | none =>
        refine .weaken (A := fun s => ∀ root, Ready root s) ?_ ?_ (fun _ _ holds => holds) fun _ _ sole => sole
        · refine .bind (markCompletionBehaviorBlocked_holds calm met _) fun _ => ?_
          exact .bind (fileOperation_holds calm met) fun _ => .pure fun _ ready => ready
        · rintro s (ready | ⟨_, none, _⟩)
          · exact ready
          · cases none
      | some target =>
        refine .weaken (A := Ready target.rootSpecId) ?_ ?_ (fun _ _ holds => holds) fun _ _ sole => sole
        · exact .bind (fileOperation_holds calm_ready met) fun _ => .pure fun _ ready => ready
        · rintro s (ready | ⟨_, same, ready⟩)
          · exact ready target.rootSpecId
          · cases same
            exact ready

/-- Activating a claim needs the planning plane free only for items of that plane. -/
theorem activateClaim_rests (claim : ClosureClaim) :
    Holds (fun s => (∃ root, Resting root s) ∧ (claim.plane = .planning → ∃ root, Ready root s))
      (activateClaim plan met claim) (fun _ s => ∃ root, Resting root s) fun _ => Sole := by
  refine .bind (Q := fun _ s => ∃ root, Resting root s) ?_ fun _ => .anyOf fun root => ?_
  · refine .ite (fun _ => .pure fun _ holds => holds.1) fun isSpec => ?_
    have planning : claim.plane = .planning := by simp [ClosureClaim.plane, not_not.mp isSpec]
    have calm : Calm (fun s => ∃ root, Ready root s) Sole := .exists fun _ => calm_ready
    refine .weaken (A := fun s => ∃ root, Ready root s) ?_ (fun _ holds => holds.2 planning) (fun _ _ holds => holds)
      fun _ _ sole => sole
    refine .bind (fileOperation_holds calm met) fun _ => ?_
    cases claim.spec with
    | none => exact .throw calm.fails
    | some spec =>
      refine .weaken (createClosureTargetForRootSpec_ready met calm (fun _ ready => ready) spec) (fun _ holds => holds) ?_
        fun _ _ sole => sole
      rintro created s (⟨root, ready⟩ | ⟨target, _, ready⟩)
      · exact ⟨root, ready.resting⟩
      · exact ⟨target.rootSpecId, ready.resting⟩
  · cases plan.activationForClaim claim with
    | none => exact .throw fun _ resting => ⟨root, resting.sole⟩
    | some activation =>
      refine .weaken (startRun_rests met (fun _ (resting : Resting root _) => resting.sole) ?_)
        (fun _ resting => resting) (fun _ _ resting => ⟨_, resting⟩) fun _ _ sole => sole
      intro s resting other is
      rw [arbiterRoot_withActiveRun] at is
      by_cases planning : claim.plane = .planning
      · simp [claimRun, planning] at is
      · exact resting.sole.judged other (by simpa [claimRun, planning] using is)

/-! ## The ticks -/

theorem claimNext_holds {P : ClosureSession → Prop} (calm : Calm P Sole) (plane : Plane) (rootSpecId : Option String) :
    Holds P (claimNext met plane rootSpecId) (fun _ => P) fun _ => Sole :=
  .bind (fileOperation_holds calm met) fun _ => .pure fun _ holds => holds

theorem claimNextLearningRequest_holds {P : ClosureSession → Prop} (calm : Calm P Sole) :
    Holds P (claimNextLearningRequest plan met) (fun _ => P) fun _ => Sole :=
  .ite (fun _ => claimNext_holds met calm _ _) fun _ => .pure fun _ holds => holds

theorem activateClaim_ready {P : ClosureSession → Prop} (ready : ∀ s, P s → ∃ root, Ready root s) (claim : ClosureClaim) :
    Holds P (activateClaim plan met claim) (fun _ s => ∃ root, Resting root s) fun _ => Sole := by
  refine .weaken (activateClaim_rests plan met claim) (fun s holds => ?_) (fun _ _ holds => holds) fun _ _ sole => sole
  obtain ⟨root, ready⟩ := ready s holds
  exact ⟨⟨root, ready.resting⟩, fun _ => ⟨root, ready⟩⟩

/-- With nothing actionable, the completion stage goes on to the target that is recovered or backfilled. -/
theorem backfilled_rests : Holds (fun s => ∀ root, Ready root s)
    (recoverOrBackfillMissingClosureTarget plan met >>= fun found => match found with
      | some target => maybeActivateCompletionStage plan met target
      | none => return ()) (fun _ s => ∃ root, Resting root s) fun _ => Sole := by
  refine .bind (recoverOrBackfillMissingClosureTarget_ready plan met) fun found => ?_
  cases found with
  | some target => exact maybeActivateCompletionStage_rests plan met target
  | none => exact .pure fun _ ready => ⟨"", (ready "").resting⟩

theorem activateNextWorkOrCompletion_rests :
    Holds (Ready root) (activateNextWorkOrCompletion plan met) (fun _ s => ∃ root, Resting root s) fun _ => Sole := by
  refine .bind (activeClosureTarget_holds calm_ready met) fun active => ?_
  cases active with
  | some target =>
    have own : ∀ s, Ready root s ∧ target ∈ s.targets ∧ target.actionable = true → Ready target.rootSpecId s := by
      intro s ⟨ready, member, actionable⟩
      rwa [ready.sole.only target member actionable]
    refine .weaken (A := Ready target.rootSpecId) ?_ own (fun _ _ holds => holds) fun _ _ sole => sole
    refine .bind (claimNext_holds met calm_ready _ _) fun claim => ?_
    cases claim with
    | some claim => exact activateClaim_ready plan met (fun _ ready => ⟨_, ready⟩) claim
    | none =>
      refine .bind (claimNext_holds met calm_ready _ _) fun claim => ?_
      cases claim with
      | some claim => exact activateClaim_ready plan met (fun _ ready => ⟨_, ready⟩) claim
      | none => exact maybeActivateCompletionStage_rests plan met target
  | none =>
    have calm : Calm (fun s => ∀ root, Ready root s) Sole := .forall fun _ => calm_ready
    refine .weaken (A := fun s => ∀ root, Ready root s) ?_ (fun s holds other => holds.1.any holds.2 other)
      (fun _ _ holds => holds) fun _ _ sole => sole
    have claimed (claim : ClosureClaim) : Holds (fun s => ∀ root, Ready root s) (activateClaim plan met claim)
        (fun _ s => ∃ root, Resting root s) fun _ => Sole :=
      activateClaim_ready plan met (fun _ ready => ⟨"", ready ""⟩) claim
    refine .bind (claimNext_holds met calm _ _) fun claim => ?_
    cases claim with
    | some claim => exact claimed claim
    | none =>
      refine .bind (claimNext_holds met calm _ _) fun claim => ?_
      cases claim with
      | some claim => exact claimed claim
      | none =>
        refine .bind (claimNextLearningRequest_holds plan met calm) fun claim => ?_
        cases claim with
        | some claim => exact claimed claim
        | none => exact backfilled_rests plan met

theorem activateNextClaimForPlane_rests (plane : Plane) :
    Holds (fun s => ∃ root, Resting root s) (activateNextClaimForPlane plan met plane)
      (fun _ s => ∃ root, Resting root s) fun _ => Sole := by
  have calm : Calm (fun s => ∃ root, Resting root s) Sole := .exists fun _ => calm_resting
  have apart (claim : ClosureClaim) (other : claim.plane ≠ .planning) : Holds (fun s => ∃ root, Resting root s)
      (activateClaim plan met claim) (fun _ s => ∃ root, Resting root s) fun _ => Sole :=
    .weaken (activateClaim_rests plan met claim) (fun _ resting => ⟨resting, fun planning => absurd planning other⟩)
      (fun _ _ holds => holds) fun _ _ sole => sole
  refine getState_holds fun s => .ite (fun _ => .pure fun _ holds => holds.2) fun idle => ?_
  cases plane with
  | planning =>
    have free : s.snapshot.activeRunsByPlane .planning = none := by simpa using idle
    have calm : Calm (fun s => ∃ root, Ready root s) Sole := .exists fun _ => calm_ready
    refine .weaken (A := fun s => ∃ root, Ready root s) ?_ ?_ (fun _ _ holds => holds) fun _ _ sole => sole
    · refine .bind (activeClosureTarget_holds calm met) fun active => ?_
      refine .weaken (A := fun s => ∃ root, Ready root s) ?_ (fun _ holds => holds.1) (fun _ _ holds => holds)
        fun _ _ sole => sole
      refine .bind (claimNext_holds met calm _ _) fun claim => ?_
      cases claim with
      | some claim => exact activateClaim_ready plan met (fun _ ready => ready) claim
      | none => exact .pure fun _ ⟨root, ready⟩ => ⟨root, ready.resting⟩
    · intro s' ⟨same, root, resting⟩
      exact ⟨root, resting.ready (same ▸ free)⟩
  | execution =>
    refine .weaken (A := fun s => ∃ root, Resting root s) ?_ (fun _ holds => holds.2) (fun _ _ holds => holds)
      fun _ _ sole => sole
    refine .bind (activeClosureTarget_holds calm met) fun active => ?_
    refine .weaken (A := fun s => ∃ root, Resting root s) ?_ (fun _ holds => holds.1) (fun _ _ holds => holds)
      fun _ _ sole => sole
    refine .bind (claimNext_holds met calm _ _) fun claim => ?_
    cases claim with
    | some claim => exact apart claim (by simp [claim.property])
    | none => exact .pure fun _ resting => resting
  | learning =>
    refine .weaken (A := fun s => ∃ root, Resting root s) ?_ (fun _ holds => holds.2) (fun _ _ holds => holds)
      fun _ _ sole => sole
    refine .bind (activeClosureTarget_holds calm met) fun active => ?_
    refine .weaken (A := fun s => ∃ root, Resting root s) ?_ (fun _ holds => holds.1) (fun _ _ holds => holds)
      fun _ _ sole => sole
    refine .bind (claimNextLearningRequest_holds plan met calm) fun claim => ?_
    cases claim with
    | some claim => exact apart claim (by simp [claim.property])
    | none => exact .pure fun _ resting => resting

theorem activateCompletionStageIfReady_rests :
    Holds (fun s => ∃ root, Resting root s) (activateCompletionStageIfReady plan met)
      (fun _ s => ∃ root, Resting root s) fun _ => Sole := by
  refine .anyOf fun root => getState_holds fun s => .ite (fun _ => .pure fun _ holds => ⟨root, holds.2⟩) fun idle => ?_
  have free : s.snapshot.activeRunsByPlane .planning = none := by simpa using idle
  refine .weaken (A := Ready root) ?_ (fun s' holds => holds.2.ready (holds.1 ▸ free)) (fun _ _ holds => holds)
    fun _ _ sole => sole
  refine .bind (activeClosureTarget_holds calm_ready met) fun active => ?_
  cases active with
  | some target =>
    refine .weaken (maybeActivateCompletionStage_rests plan met target) (fun s holds => ?_) (fun _ _ holds => holds)
      fun _ _ sole => sole
    obtain ⟨ready, member, actionable⟩ := holds
    rwa [ready.sole.only target member actionable]
  | none =>
    exact .weaken (backfilled_rests plan met) (fun s holds other => holds.1.any holds.2 other) (fun _ _ holds => holds)
      fun _ _ sole => sole

/-! ## The arbiter's results -/

section Application
variable (outcome : ArbiterOutcome) {P Q E : ClosureSession → Prop}

/-- What is asked of the part that hands a remediation incident off and ends the run. -/
structure Handover (P H Q : ClosureSession → Prop) : Prop where
  incident : ∀ s document, P s → H { s with work := s.work.addIncident document }
  told : Holds H (fileOperation met) (fun _ => H) fun _ => P
  ended : Holds H (endArbiterRun met outcome outcome.decision.failureClass (pure ())) (fun _ => Q) fun _ => P

/-- The rules from which the application of a result follows: `P` holds before and wherever it fails, `Q` at its end,
and `E` where the recovery of a failure fails as well. -/
structure ResultRules (root : String) (P Q E : ClosureSession → Prop) : Prop where
  calm : Calm P P
  write : ∀ s target, target.rootSpecId = root → (outcome.decision.action ≠ .idle → target.closureOpen = true) →
    P s → P { s with targets := writeTarget target s.targets }
  clear : ∀ s plane failureClass, P s → P { s with snapshot := clearActivePlane plane failureClass s.snapshot }
  recover : ∀ s failureClass, P s → P { s with snapshot := setRecoveryStageForPlane plan met outcome failureClass s.snapshot }
  saved : ∀ s n, P s → Q { s with operations := n, saved := s.snapshot }
  closing : Holds Q (fileOperation met) (fun _ => Q) fun _ => P
  fails : ∀ s, P s → E s

variable {plan met outcome} (rules : ResultRules plan met outcome root P Q E)
include rules

theorem ResultRules.save : Holds P (saveSnapshot met >>= fun _ => fileOperation met) (fun _ => Q) fun _ => P :=
  .bind (Q := fun _ => Q) (.bind (fileOperation_holds rules.calm met) fun _ =>
    .modify fun s holds => rules.saved s s.operations holds) fun _ => rules.closing

theorem endArbiterRun_holds (failureClass : Option String) {status : ClosureM Unit}
    (kept : Holds P status (fun _ => P) fun _ => P) :
    Holds P (endArbiterRun met outcome failureClass status) (fun _ => Q) fun _ => P := by
  refine .bind (Q := fun _ => P) (.modify fun s holds => rules.clear s _ _ holds) fun _ => ?_
  exact .bind kept fun _ => .bind (fileOperation_holds rules.calm met) fun _ => rules.save

theorem enqueueHandoffIncident_holds {H : ClosureSession → Prop} (handover : Handover met outcome P H Q) :
    Holds P (enqueueHandoffIncident met outcome) (fun _ => H) fun _ => P := by
  refine .bind (fileOperation_holds rules.calm met) fun _ => .bind (Q := fun _ => H) ?_ fun _ => handover.told
  unfold enqueueIncident
  cases (handoffIncident met outcome).validate with
  | error source => exact .throw fun _ holds => holds
  | ok =>
    refine getState_holds fun s => .bind (refuse_holds (fun s holds => holds.2) _ _) fun _ => ?_
    refine .given (A := P) (fun _ holds => holds.2.2) ?_
    exact .bind (fileOperation_holds rules.calm met) fun _ => .modify fun s holds => handover.incident s _ holds

theorem blockRepeatedClosureRemediation_holds :
    Holds P (blockRepeatedClosureRemediation met) (fun _ => Q) fun _ => P := by
  refine .bind (fileOperation_holds rules.calm met) fun _ => ?_
  refine .bind (Q := fun _ => P) (.modify fun s holds => ?_) fun _ => ?_
  · exact rules.clear _ .planning _ (rules.calm.status s "### BLOCKED" s.snapshot.currentFailureClass holds)
  · exact .bind (fileOperation_holds rules.calm met) fun _ => rules.save

/-- Where a new incident changes nothing of `P`, the handover is the end of any run. -/
theorem handover_plain (incident : ∀ s document, P s → P { s with work := s.work.addIncident document }) :
    Handover met outcome P P Q :=
  ⟨incident, fileOperation_holds rules.calm met, endArbiterRun_holds rules _ (.pure fun _ holds => holds)⟩

variable (handover : outcome.decision.action = .handoff → outcome.decision.createIncident = true →
  ∃ H, Handover met outcome P H Q)
include handover

/-- The result changes the target of its own root only. -/
theorem applyClosureTargetResult_holds
    (named : metadataString outcome.result "closure_target_root_spec_id" = some root) :
    Holds P (applyClosureTargetResult met outcome) (fun _ => Q) fun _ => P := by
  have loads : Holds P (loadClosureTargetForStageResult met outcome.result)
      (fun target s => target.rootSpecId = root ∧ P s) fun _ => P := by
    unfold loadClosureTargetForStageResult
    rw [named]
    refine .bind (findClosureTarget_holds rules.calm met root) fun found => ?_
    cases found with
    | none => exact .throw fun _ holds => holds.1
    | some target => exact .pure fun _ holds => ⟨holds.2 target rfl, holds.1⟩
  have saves (target : ClosureTargetState) (same : target.rootSpecId = root)
      (kept : outcome.decision.action ≠ .idle → target.closureOpen = true) :
      Holds P (saveClosureTargetState met target) (fun _ => P) fun _ => P :=
    saveClosureTargetState_holds rules.calm met fun s holds => rules.write s target same kept holds
  have ends (failureClass : Option String) :
      Holds P (endArbiterRun met outcome failureClass (pure ())) (fun _ => Q) fun _ => P :=
    endArbiterRun_holds rules failureClass (.pure fun _ holds => holds)
  refine .bind loads fun loaded => .assume (fun _ holds => holds.1) fun same => ?_
  refine .given (A := P) (fun _ holds => holds.2) ?_
  refine .bind (fileOperation_holds rules.calm met) fun _ => ?_
  refine .bind (fileOperation_holds rules.calm met) fun _ => ?_
  dsimp only
  cases action : outcome.decision.action with
  | idle =>
    refine .bind (saves _ same fun other => absurd action other) fun _ => endArbiterRun_holds rules none ?_
    exact .bind (fileOperation_holds rules.calm met) fun _ => .modify fun s holds => rules.calm.status s _ _ holds
  | handoff =>
    refine .bind (saves _ same fun _ => rfl) fun _ => .bind (Q := fun _ => P) ?_ fun repeated => ?_
    · unfold isRepeatedRemediationWithoutExecution
      cases loaded.lastArbiterRunId with
      | none => exact .pure fun _ holds => holds
      | some runId => exact .bind (fileOperation_holds rules.calm met) fun _ => .pure fun _ holds => holds
    refine .ite (fun _ => blockRepeatedClosureRemediation_holds rules) fun _ => .ite (fun create => ?_) fun _ => ends _
    obtain ⟨H, handover⟩ := handover action create
    exact .bind (enqueueHandoffIncident_holds rules handover) fun _ => handover.ended
  | blocked => exact .bind (saves _ same fun _ => rfl) fun _ => ends _
  | runStage => exact .throw fun _ holds => holds

/-- Where the application fails, the recovery goes on from what it left. -/
theorem applyArbiterOutcome_holds (named : metadataString outcome.result "closure_target_root_spec_id" = some root) :
    Holds P (applyArbiterOutcome plan met outcome) (fun _ => Q) fun _ => E := by
  refine .tryCatch (F := fun _ => P) ?_ fun _ => .weaken (F := fun _ => P) ?_ (fun _ holds => holds)
    (fun _ _ ends => ends) fun _ => rules.fails
  · refine .bind (fileOperation_holds rules.calm met) fun _ => ?_
    refine .bind (Q := fun _ => P) (.modify fun s holds => rules.calm.status s _ _ holds) fun _ => ?_
    refine .bind (fileOperation_holds rules.calm met) fun _ => ?_
    refine .bind (saveSnapshot_holds rules.calm met) fun _ => ?_
    refine .bind (fileOperation_holds rules.calm met) fun _ => ?_
    exact .bind (applyClosureTargetResult_holds rules handover named) fun _ => rules.closing
  · refine .bind (fileOperation_holds rules.calm met) fun _ => ?_
    refine .bind (Q := fun _ => P) (.modify fun s holds => ?_) fun _ => ?_
    · exact rules.recover _ _ (rules.calm.status s "### BLOCKED" s.snapshot.currentFailureClass holds)
    · exact .bind (fileOperation_holds rules.calm met) fun _ => rules.save

end Application

variable (outcome : ArbiterOutcome)

theorem SoleFor.modify (sole : SoleFor root s) {f : ClosureSnapshot → ClosureSnapshot}
    (judged : ∀ other, (f s.snapshot).arbiterRoot = some other → other = root) :
    SoleFor root { s with snapshot := f s.snapshot } :=
  ⟨sole.keyed, sole.only, judged, sole.judgedSaved⟩

/-- Recovery goes on with the run that is there, or with one that judges nothing. -/
theorem setRecoveryStageForPlane_judged {snapshot : ClosureSnapshot} (failureClass : String)
    (judged : ∀ other, snapshot.arbiterRoot = some other → other = root) :
    ∀ other, (setRecoveryStageForPlane plan met outcome failureClass snapshot).arbiterRoot = some other → other = root := by
  intro other is
  have recovered : (snapshotWithActiveRun { runOfStageResult met outcome snapshot with
      stage := plan.repairStage.stage
      nodeId := plan.repairStage.nodeId
      stageKindId := plan.repairStage.stageKindId
      activeSince := met.now.text } snapshot).arbiterRoot = some other := is
  rw [arbiterRoot_withActiveRun] at recovered
  by_cases planning : (runOfStageResult met outcome snapshot).plane = .planning
  · rw [if_pos planning] at recovered
    apply judged
    unfold runOfStageResult at recovered planning
    cases active : snapshot.activeRunsByPlane outcome.result.plane with
    | none => simp [active] at recovered
    | some run =>
      simp only [active, Option.map_some, Option.getD_some] at recovered planning
      have plane : outcome.result.plane = .planning := run.property.symm.trans planning
      rw [arbiterRoot_of_active active plane]
      exact recovered
  · rw [if_neg planning] at recovered
    exact judged other recovered

theorem soleFor_rules : ResultRules plan met outcome root (SoleFor root) (Resting root) Sole where
  calm := calm_soleFor
  write s _ same _ sole := sole.write same s.operations
  clear _ plane failureClass sole := sole.modify (f := clearActivePlane plane failureClass)
    (clearActivePlane_judged sole.judged plane failureClass)
  recover _ failureClass sole := sole.modify (f := setRecoveryStageForPlane plan met outcome failureClass)
    (setRecoveryStageForPlane_judged plan met outcome failureClass sole.judged)
  saved _ n sole := sole.saved n
  closing := fileOperation_holds
    ⟨fun _ resting => resting.sole, calm_resting.operations, calm_resting.status, calm_resting.save⟩ met
  fails _ sole := ⟨root, sole⟩

theorem applyArbiterOutcome_rests (named : metadataString outcome.result "closure_target_root_spec_id" = some root) :
    Holds (SoleFor root) (applyArbiterOutcome plan met outcome) (fun _ => Resting root) fun _ => Sole := by
  have rules : ResultRules plan met outcome root (SoleFor root) (Resting root) Sole := soleFor_rules plan met outcome
  refine applyArbiterOutcome_holds rules (fun _ _ => ⟨SoleFor root, handover_plain rules fun s _ sole => ?_⟩) named
  exact ⟨sole.keyed, sole.only, sole.judged, sole.judgedSaved⟩

/-! ## Runs -/

def Rested (s : ClosureSession) : Prop := ∃ root, Resting root s

theorem run_rested {P : ClosureSession → Prop} {x : ClosureM Unit} (holds : Holds P x (fun _ => Rested) fun _ => Sole)
    (started : P { s with operations := 0 }) : Rested (s.run x) := by
  have step := holds _ started
  unfold ClosureSession.run
  cases ran : x { s with operations := 0 } with
  | ok _ s' =>
    rw [ran] at step
    exact step
  | error _ s' =>
    rw [ran] at step
    obtain ⟨root, sole⟩ := step
    exact ⟨root, ⟨sole.keyed, sole.only, sole.judgedSaved, sole.judgedSaved⟩, rfl⟩

theorem arbiterResult_rested (rested : Rested s) :
    Rested ((ClosureStep.arbiterResult outcome met).apply plan s) := by
  simp only [ClosureStep.apply]
  cases active : s.snapshot.activeRunsByPlane .planning with
  | none => exact rested
  | some run =>
    dsimp only
    by_cases normalized : NormalizedFor run.val outcome.result
    · rw [if_pos normalized]
      obtain ⟨root, resting⟩ := rested
      obtain ⟨closure, own, _, _, _, _, _, _, _, named⟩ := normalized
      have same : outcome.result.workItemId = root := by
        apply resting.sole.judged
        rw [arbiterRoot_of_active active rfl, if_pos closure, own]
      rw [same] at named
      refine run_rested (P := SoleFor root) ?_ (calm_soleFor.operations s 0 resting.sole)
      exact .weaken (applyArbiterOutcome_rests plan met outcome named) (fun _ sole => sole)
        (fun _ _ resting => ⟨root, resting⟩) fun _ _ sole => sole
    · rw [if_neg normalized]
      exact rested

theorem apply_rested (step : ClosureStep) (rested : Rested s) : Rested (step.apply plan s) := by
  have started : Rested { s with operations := 0 } := (Calm.exists fun _ => calm_resting).operations s 0 rested
  cases step with
  | serialTick met =>
    simp only [ClosureStep.apply]
    by_cases idle : s.snapshot.idle = true
    · rw [if_pos idle]
      obtain ⟨root, resting⟩ := rested
      have free : s.snapshot.activeRunsByPlane .planning = none := by
        simpa using List.all_eq_true.mp idle .planning (by decide)
      exact run_rested (activateNextWorkOrCompletion_rests plan met) (calm_ready.operations s 0 (resting.ready free))
    · rw [if_neg idle]
      exact rested
  | claimForPlane plane met => exact run_rested (activateNextClaimForPlane_rests plan met plane) started
  | completionStage met => exact run_rested (activateCompletionStageIfReady_rests plan met) started
  | arbiterResult outcome met => exact arbiterResult_rested plan met outcome rested
  | runs snapshot =>
    simp only [ClosureStep.apply]
    by_cases known : snapshot.arbiterRoot = none ∨ snapshot.arbiterRoot = s.snapshot.arbiterRoot
    · rw [if_pos known]
      obtain ⟨root, resting⟩ := rested
      have judged : ∀ other, snapshot.arbiterRoot = some other → other = root := by
        rintro other is
        rcases known with none | same
        · rw [none] at is
          cases is
        · exact resting.sole.judged other (same ▸ is)
      exact ⟨root, ⟨resting.sole.keyed, resting.sole.only, judged, judged⟩, rfl⟩
    · rw [if_neg known]
      exact rested
  | queues work =>
    obtain ⟨root, resting⟩ := rested
    exact ⟨root, ⟨resting.sole.keyed, resting.sole.only, resting.sole.judged, resting.sole.judgedSaved⟩, resting.settled⟩

theorem start_rested (work : LineageWork) : Rested (.start [] work) := by
  refine ⟨"", ⟨List.nodup_nil, nofun, ?_, ?_⟩, rfl⟩
  all_goals
    intro other is
    rw [arbiterRoot_none rfl] at is
    cases is

/-- Where at most one target is actionable, the search for it does not find two. -/
theorem activeClosureTarget_single (rested : Rested s) (s' : ClosureSession) :
    activeClosureTarget met s ≠ .error (.invalidState multipleActionable) s' := by
  obtain ⟨root, resting⟩ := rested
  have single := length_actionable resting.sole.keyed resting.sole.only
  have finds : Holds (fun s' => s'.targets = s.targets) (activeClosureTarget met) (fun _ _ => True)
      fun error _ => error ≠ .invalidState multipleActionable := by
    refine .bind (Q := fun targets _ => targets = (s.targets.filter (·.closureOpen)).mergeSort
      fun a b => decide (a.rootSpecId ≤ b.rootSpecId)) ?_ fun targets => ?_
    · refine .bind (Q := fun _ s' => s'.targets = s.targets) ?_ fun _ => getState_holds fun read => ?_
      · refine .weaken (fileOperation_keeps met fun _ _ same => same) (fun _ same => same) (fun _ _ same => same) ?_
        rintro _ _ ⟨_, message, rfl⟩
        exact nofun
      · refine .bind (Q := fun _ s' => read = s' ∧ s'.targets = s.targets) (.forM _ fun target _ => ?_) fun _ =>
          .pure fun s' ⟨same, unchanged⟩ => by rw [same, unchanged]
        refine .weaken (checkContract_keeps target) (fun _ holds => holds) (fun _ _ holds => holds) ?_
        rintro _ _ ⟨_, source, rfl⟩
        exact nofun
    · cases found : actionableOpenClosureTargets targets with
      | nil => exact .pure fun _ _ => trivial
      | cons first rest =>
        cases rest with
        | nil => exact .pure fun _ _ => trivial
        | cons second rest =>
          refine .throw fun s' sorted => ?_
          have twice := (actionable_perm s.targets).length_eq
          rw [← sorted, found] at twice
          simp at twice
          omega
  intro failed
  have step := finds s rfl
  rw [failed] at step
  exact step rfl

/-- From a workspace without closure targets, whatever the runtime does, at most one target is open and not blocked. -/
theorem actionable_target_single (work : LineageWork) (steps : List ClosureStep) :
    ((Runs.after (ClosureStep.apply plan) (ClosureSession.start [] work) steps).targets.filter
        (·.actionable)).length ≤ 1 ∧
      ∀ met s', activeClosureTarget met (Runs.after (ClosureStep.apply plan) (ClosureSession.start [] work) steps) ≠
        .error (.invalidState multipleActionable) s' := by
  have rested : Rested (Runs.after (ClosureStep.apply plan) (ClosureSession.start [] work) steps) :=
    Runs.after_keeps (fun s step rested => apply_rested plan step rested) (start_rested work) steps
  obtain ⟨root, resting⟩ := rested
  exact ⟨length_actionable resting.sole.keyed resting.sole.only,
    fun met s' => activeClosureTarget_single met ⟨root, resting⟩ s'⟩

end Invariant

end Millrace.Closure

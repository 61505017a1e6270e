import Millrace.Application.Agreement

/-! The recovery after a failed application, and the agreement of snapshot and queue over whole runs. -/

set_option autoImplicit false

namespace Millrace.Application
open Millrace.Text Millrace.Contracts Millrace.Action Millrace.Runtime Millrace.Runs
open Millrace.Queue (ItemState planeForBuiltinKind)

/-! ## Where a step leaves the session -/

/-- The snapshot, on disk as in memory, agrees with the queue, and no item that was to be kept is lost. -/
def Settles (kept : WorkItemKind → List String) (s : DispatchSession) : Prop :=
  ∃ w : View, w.kept = kept ∧ w.Level ∧ Agreement w.runs w.active ∧ Sees w s

/-- So it would be if the process went on from the saved snapshot. -/
def Restarts (kept : WorkItemKind → List String) (s : DispatchSession) : Prop :=
  ∃ w : View, w.kept = kept ∧ Agreement w.saved w.active ∧ Sees w s

section Session
variable {kept : WorkItemKind → List String} {s : DispatchSession} {w : View}

theorem Settles.agreed (settles : Settles kept s) : Agreed s := by
  obtain ⟨w, -, level, agreement, sees⟩ := settles
  constructor
  · exact sees.saved.trans (level.trans sees.runs.symm)
  · rw [sees.runs, sees.active]
    exact agreement

theorem Settles.holds_kept (settles : Settles kept s) {kind : WorkItemKind} {id : String} (present : id ∈ kept kind) :
    ∃ state, id ∈ s.documents kind state := by
  obtain ⟨w, rfl, -, -, sees⟩ := settles
  exact sees.kept kind id present

theorem Settles.restarts (settles : Settles kept s) : Restarts kept s := by
  obtain ⟨w, same, level, agreement, sees⟩ := settles
  exact ⟨w, same, by rw [level]; exact agreement, sees⟩

theorem Restarts.settles (restarts : Restarts kept s) : Settles kept { s with snapshot := s.saved } := by
  obtain ⟨w, same, agreement, sees⟩ := restarts
  exact ⟨{ w with runs := w.saved }, same, rfl, agreement, sees.saved, sees.saved, sees.active, sees.kept, sees.fresh⟩

/-- What is tracked of a session that agrees. -/
def viewOf (s : DispatchSession) : View where
  runs := shapes s.snapshot
  saved := shapes s.saved
  active := activeItems s.documents
  kept := activeItems s.documents
  fresh := []

theorem sees_viewOf (s : DispatchSession) : Sees (viewOf s) s :=
  ⟨rfl, rfl, rfl, fun _ _ present => ⟨.active, present⟩, by simp [viewOf]⟩

theorem Agreed.settles (agreed : Agreed s) : Settles (activeItems s.documents) s :=
  ⟨viewOf s, rfl, agreed.written, agreed.agreement, sees_viewOf s⟩

/-- A computation that ends well, or fails where the saved snapshot agrees, settles the session. -/
theorem run_settles {x : ApplicationM Unit} {P : DispatchSession → Prop} (start : P { s with routerDecision := none })
    (holds : Holds P x (fun _ => Settles kept) (fun _ => Restarts kept)) : Settles kept (s.run x) := by
  have ends := holds _ start
  unfold DispatchSession.run
  cases result : x { s with routerDecision := none } with
  | ok _ s' =>
    rw [result] at ends
    exact ends
  | error _ s' =>
    rw [result] at ends
    exact ends.settles

/-! ## Recovery -/

section Recovery
variable {app : AppliedResult}

theorem shapes_setRecoveryStage {snapshot : RuntimeSnapshot} {run : ActiveRunState} {stage : StageName}
    {nodeId stageKindId failureClass : String} (active : snapshot.activeRunsByPlane app.result.plane = some run)
    (keyed : run.plane = app.result.plane) :
    shapes (setRecoveryStageForPlane app stage nodeId stageKindId failureClass snapshot) = shapes snapshot := by
  have found : activeRunForPlane snapshot app.result.plane = some run := by
    unfold activeRunForPlane
    rw [active]
    rfl
  unfold setRecoveryStageForPlane
  rw [found]
  refine (shapes_project _).trans ?_
  funext plane
  by_cases same : plane = app.result.plane
  · subst same
    simp [shapes, active, keyed, runShape, runWork, queueItem]
  · have other : plane ≠ run.plane := fun is => same (is.trans keyed)
    simp [shapes, Function.update_of_ne other]

/-- The recovery of a run that is still active changes its stage. -/
theorem recovery_stays (level : w.Level) {shape : RunShape} (here : w.runs app.result.plane = some shape)
    (keyed : shape.plane = app.result.plane) (error : ApplicationError) :
    Holds (Sees w) (schedulePostStageExceptionRecovery app error) (fun _ => Sees w) (fun _ => Sees w) := by
  unfold schedulePostStageExceptionRecovery
  cases repairStage app.result.plane with
  | none => exact .throw fun _ sees => sees
  | some stage =>
    apply Holds.bind (Q := fun _ => Sees w) (.get fun _ sees => sees)
    intro s
    apply Holds.bind fileStep_steady.early
    intro _
    apply Holds.bind fileStep_steady.early
    intro _
    apply Holds.bind fileStep_steady.early
    intro _
    apply Holds.bind (Q := fun _ => Sees w)
    · apply Holds.modify
      intro s sees
      refine ⟨?_, sees.saved, sees.active, sees.kept, sees.fresh⟩
      have there : shapes s.snapshot app.result.plane = some shape := by rw [sees.runs]; exact here
      obtain ⟨run, active, rfl⟩ := Option.map_eq_some_iff.mp there
      exact (shapes_setRecoveryStage active keyed).trans sees.runs
    · intro _
      apply Holds.bind (concludeSnapshot_holds.weaken (fun _ sees => sees) (fun _ _ sees => level.written ▸ sees)
        fun _ _ failed => failed.2)
      intro _
      exact fileStep_steady.early

/-- An operation succeeds only where nothing is said to fail it. -/
theorem fileStep_passes {fails : Phase → FileStep → Option String} {phase : Phase} {step : FileStep}
    {P : DispatchSession → Prop} :
    Holds P (fileStep fails phase step) (fun _ s => fails phase step = none ∧ P s) (fun _ => P) := by
  unfold fileStep
  cases fails phase step with
  | none => exact .pure fun _ holds => ⟨rfl, holds⟩
  | some message => exact .throw fun _ holds => holds

theorem Restarts.modifySnapshot {f : RuntimeSnapshot → RuntimeSnapshot} {F : ApplicationError → DispatchSession → Prop} :
    Holds (Restarts kept) (modifySnapshot f) (fun _ => Restarts kept) F := by
  apply Holds.modify
  rintro s ⟨w, same, agreement, sees⟩
  exact ⟨{ w with runs := shapes (f s.snapshot) }, same, agreement, rfl, sees.saved, sees.active, sees.kept, sees.fresh⟩

/-- A recovery that comes to nothing leaves the saved snapshot as it was. -/
theorem recovery_fails (unrecovered : Unrecovered app) (error : ApplicationError) :
    Holds (Restarts kept) (schedulePostStageExceptionRecovery app error) (fun _ _ => False)
      (fun _ => Restarts kept) := by
  unfold schedulePostStageExceptionRecovery
  rcases unrecovered with learning | ⟨step, listed, fails⟩
  · rw [learning]
    exact .throw fun _ restarts => restarts
  cases repairStage app.result.plane with
  | none => exact .throw fun _ restarts => restarts
  | some stage =>
    apply Holds.bind (Q := fun _ => Restarts kept) (.get fun _ restarts => restarts)
    intro s
    apply Holds.bind fileStep_passes
    intro _
    apply Holds.assume fun _ passed => passed.1
    intro reported
    apply Holds.given (A := Restarts kept) fun _ passed => passed.2
    apply Holds.bind fileStep_passes
    intro _
    apply Holds.assume fun _ passed => passed.1
    intro persisted
    apply Holds.given (A := Restarts kept) fun _ passed => passed.2
    apply Holds.bind fileStep_passes
    intro _
    apply Holds.assume fun _ passed => passed.1
    intro marked
    apply Holds.given (A := Restarts kept) fun _ passed => passed.2
    apply Holds.bind Restarts.modifySnapshot
    intro _
    have conclude : Holds (Restarts kept) (concludeSnapshot app .recovery) (fun _ _ => False)
        (fun _ => Restarts kept) := by
      unfold concludeSnapshot saveSnapshot
      apply Holds.bind fileStep_passes
      intro _
      apply Holds.assume fun _ passed => passed.1
      intro refreshed
      apply Holds.given (A := Restarts kept) fun _ passed => passed.2
      apply Holds.bind fileStep_passes
      intro _
      apply Holds.assume fun _ passed => passed.1
      intro saved
      have passes : app.fails .recovery step = none := by
        simp only [recoverySteps, List.mem_cons, List.not_mem_nil, or_false] at listed
        rcases listed with rfl | rfl | rfl | rfl | rfl <;> assumption
      exact absurd passes fails
    apply Holds.bind conclude
    intro _ s reached
    exact reached.elim

end Recovery

/-! ## Applying a result -/

section Result
variable {app : AppliedResult} {run : ActiveRunState}

/-- The shape of a run whose result this is. -/
def resultShape (r : StageResultEnvelope) : RunShape where
  plane := r.plane
  work := if isClosureTargetStageResult r then .rootSpec else .item r.workItemKind r.workItemId

theorem runShape_of_result (of : ResultOf run app.result) : runShape run = resultShape app.result := by
  obtain ⟨plane, closure, -, named⟩ := of
  unfold runShape resultShape runWork
  rw [plane]
  by_cases closes : isClosureTargetStageResult app.result = true
  · rw [if_pos closes, if_pos (closure.mp closes)]
  · have item : run.requestKind ≠ .closureTarget := fun is => closes (closure.mpr is)
    obtain ⟨kind, id⟩ := named item
    rw [if_neg closes, if_neg item]
    simp [queueItem, item, kind, id]

theorem agreement_ended (agreement : Agreement w.runs w.active)
    (here : w.runs app.result.plane = some (resultShape app.result))
    (plane : planeForBuiltinKind app.result.workItemKind = app.result.plane) (ended : Ended app w s) :
    Settles w.kept s := by
  rcases ended with ⟨present, sees⟩ | ⟨closure, sees⟩
  · refine ⟨(w.without app.result).ended app.result.plane, rfl, rfl, ?_, sees⟩
    have left := agreement.without_item present
    rw [plane] at left
    exact left
  · refine ⟨w.ended app.result.plane, rfl, rfl, ?_, sees⟩
    exact agreement.without_root here (if_pos closure)

/-- The family of the item that a result is about belongs to the plane of its run. -/
theorem plane_of_result (agreement : Agreement w.runs w.active)
    (here : w.runs app.result.plane = some (resultShape app.result)) (of : ResultOf run app.result) :
    planeForBuiltinKind app.result.workItemKind = app.result.plane ∧
      (isClosureTargetStageResult app.result = true → app.result.plane = .planning) := by
  have placed := (agreement.placed _ _ here).2
  unfold resultShape at placed
  by_cases closes : isClosureTargetStageResult app.result = true
  · simp only [if_pos closes, RunWork.plane, Option.some.injEq] at placed
    rw [of.2.2.1 (of.2.1.mp closes), ← placed]
    exact ⟨rfl, fun _ => rfl⟩
  · simp only [if_neg closes, RunWork.plane, Option.some.injEq] at placed
    exact ⟨placed, fun closure => absurd closure closes⟩

theorem applyDispatchResult_holds (agreed : Agreed s) (active : s.snapshot.activeRunsByPlane app.result.plane = some run)
    (of : ResultOf run app.result) (uninterrupted : Uninterrupted app s) :
    Holds (fun s' => s' = { s with routerDecision := none } ∧ Sees (viewOf s) s') (applyDispatchResult app)
      (fun _ => Settles (activeItems s.documents)) (fun _ => Restarts (activeItems s.documents)) := by
  have level : (viewOf s).Level := agreed.written
  have here : (viewOf s).runs app.result.plane = some (resultShape app.result) := by
    rw [← runShape_of_result of]
    exact congrArg (Option.map runShape) active
  obtain ⟨plane, planning⟩ := plane_of_result (w := viewOf s) agreed.agreement here of
  have settled : ∀ s', Sees (viewOf s) s' → Settles (activeItems s.documents) s' := fun s' sees =>
    ⟨viewOf s, rfl, level, agreed.agreement, sees⟩
  have ended : ∀ s', Ended app (viewOf s) s' → Settles (activeItems s.documents) s' := fun s' ended =>
    agreement_ended (w := viewOf s) agreed.agreement here plane ended
  unfold applyDispatchResult
  apply Holds.tryCatch ((persistAndApplyDispatchResult_holds level rfl planning uninterrupted).weaken
    (fun _ start => start) (fun _ s' concluded => concluded.elim (settled s') (ended s')) fun _ _ failed => failed)
  intro error
  apply Holds.either
  · exact (recovery_stays level here rfl error).weaken (fun _ sees => sees) (fun _ s' sees => settled s' sees)
      fun _ s' sees => (settled s' sees).restarts
  · apply Holds.assume fun _ late => late.2.2
    intro unrecovered
    exact (recovery_fails unrecovered error).weaken (fun s' late => (ended s' late.1).restarts)
      (fun _ _ reached => reached.elim) fun _ _ restarts => restarts

end Result

/-! ## The other steps -/

theorem Agreement.with_item {runs : Plane → Option RunShape} {active : WorkItemKind → List String}
    (agreement : Agreement runs active) {kind : WorkItemKind} {id : String} (free : runs (planeForBuiltinKind kind) = none) :
    Agreement (Function.update runs (planeForBuiltinKind kind) (some ⟨planeForBuiltinKind kind, .item kind id⟩))
      (fun kind' => if kind' = kind then active kind' ++ [id] else active kind') where
  placed := fun plane shape here => by
    by_cases same : plane = planeForBuiltinKind kind
    · subst same
      rw [Function.update_self] at here
      obtain rfl := Option.some.inj here
      exact ⟨rfl, rfl⟩
    · rw [Function.update_of_ne same] at here
      exact agreement.placed plane shape here
  agree := fun kind' id' => by
    have idle : ∀ kind'', planeForBuiltinKind kind'' = planeForBuiltinKind kind → id' ∉ active kind'' := by
      intro kind'' samePlane present
      obtain ⟨shape, runs', -⟩ := (agreement.agree kind'' id').mp present
      rw [samePlane, free] at runs'
      cases runs'
    by_cases same : kind' = kind
    · subst same
      simp [idle kind' rfl, eq_comm]
    · rw [if_neg same]
      by_cases samePlane : planeForBuiltinKind kind' = planeForBuiltinKind kind
      · rw [samePlane, Function.update_self]
        apply iff_of_false (idle kind' samePlane)
        rintro ⟨shape, is, works⟩
        obtain rfl := Option.some.inj is
        injection works with sameKind
        exact same sameKind.symm
      · rw [Function.update_of_ne samePlane]
        exact agreement.agree kind' id'

theorem Agreement.with_root {runs : Plane → Option RunShape} {active : WorkItemKind → List String}
    (agreement : Agreement runs active) (free : runs .planning = none) :
    Agreement (Function.update runs .planning (some ⟨.planning, .rootSpec⟩)) active where
  placed := fun plane shape here => by
    by_cases same : plane = .planning
    · subst same
      rw [Function.update_self] at here
      obtain rfl := Option.some.inj here
      exact ⟨rfl, rfl⟩
    · rw [Function.update_of_ne same] at here
      exact agreement.placed plane shape here
  agree := fun kind id => by
    rw [agreement.agree kind id]
    by_cases same : planeForBuiltinKind kind = .planning
    · rw [same, free, Function.update_self]
      simp
    · rw [Function.update_of_ne same]

theorem shapes_withActiveRun (run : ActiveRunState) (snapshot : RuntimeSnapshot) :
    shapes (snapshotWithActiveRun run snapshot) =
      Function.update (shapes snapshot) run.plane (some (runShape run)) := by
  refine (shapes_project _).trans ?_
  funext plane
  by_cases same : plane = run.plane <;> simp [shapes, Function.update, same]

/-- A run that fits the items is started, or the saved snapshot still has none. -/
theorem startRun_holds {fails : Phase → FileStep → Option String} {run : ActiveRunState}
    (agreement : Agreement (Function.update w.runs run.plane (some (runShape run))) w.active) :
    Holds (Sees w) (startRun fails run) (fun _ => Settles w.kept)
      (fun _ s => Fails fails .transferred ∧ Sees { w with runs := Function.update w.runs run.plane (some (runShape run)) } s)
      := by
  unfold startRun
  apply Holds.bind (Q := fun _ => Sees { w with runs := Function.update w.runs run.plane (some (runShape run)) })
  · apply Holds.modify
    intro s sees
    refine ⟨?_, sees.saved, sees.active, sees.kept, sees.fresh⟩
    exact (shapes_withActiveRun run s.snapshot).trans (by rw [sees.runs])
  · intro _
    refine saveSnapshot_holds.weaken (fun _ sees => sees) (fun _ _ sees => ?_) fun _ _ failed => failed
    exact ⟨View.written { w with runs := Function.update w.runs run.plane (some (runShape run)) }, rfl, rfl, agreement,
      sees⟩

/-- The document of a claimed item goes from the queue to the active directory. -/
theorem Sees.claimed {kind : WorkItemKind} {id : String} (sees : Sees w s) (none : w.fresh = []) :
    Sees { w with active := fun kind' => if kind' = kind then w.active kind' ++ [id] else w.active kind' }
      { s with documents := (s.documents.remove kind .queue id).add kind .active id } where
  runs := sees.runs
  saved := sees.saved
  active := by
    rw [← sees.active]
    funext kind'
    by_cases same : kind' = kind
    · subst same
      simp [activeItems, Documents.add, Documents.remove]
    · simp [activeItems, Documents.add, Documents.remove, same]
  kept := fun kind' id' present => by
    by_cases here : kind' = kind ∧ id' = id
    · obtain ⟨rfl, rfl⟩ := here
      exact ⟨.active, Documents.mem_add.mpr (.inr ⟨rfl, rfl, rfl⟩)⟩
    · obtain ⟨state, there⟩ := sees.kept kind' id' present
      refine ⟨state, Documents.mem_add.mpr (.inl (Documents.mem_remove.mpr ⟨there, ?_⟩))⟩
      exact fun taken => here ⟨taken.1, taken.2.2⟩
  fresh := fun id' awaited => by simp [none] at awaited

theorem activateClaim_holds {fails : Phase → FileStep → Option String} {claimed : ClaimedRun}
    (quiet : ¬Fails fails .transferred) (level : w.Level) (none : w.fresh = []) (agreement : Agreement w.runs w.active)
    (free : w.runs claimed.plane = .none) :
    Holds (Sees w) (activateClaim fails claimed) (fun _ => Settles w.kept) (fun _ => Restarts w.kept) := by
  have settled : ∀ s', Sees w s' → Settles w.kept s' := fun _ sees => ⟨w, rfl, level, agreement, sees⟩
  let moved : View :=
    { w with active := fun kind => if kind = claimed.kind then w.active kind ++ [claimed.id] else w.active kind }
  unfold activateClaim
  apply Holds.bind (fileStep_holds.weaken (fun _ sees => sees) (fun _ _ sees => sees)
    fun _ s' failed => (settled s' failed.2).restarts)
  intro _
  apply Holds.bind (Q := fun _ => Sees moved) (.modify fun s sees => sees.claimed none)
  intro _
  apply Holds.bind (fileStep_holds.weaken (fun _ sees => sees) (fun _ _ sees => sees)
    fun _ _ failed => absurd failed.1 quiet)
  intro _
  have works : runShape claimed.run = ⟨planeForBuiltinKind claimed.kind, .item claimed.kind claimed.id⟩ := by
    rw [claimed.ofPlane]
    by_cases learning : claimed.kind = .learningRequest <;>
      simp [runShape, runWork, queueItem, ClaimedRun.run, learning]
  have fits : Agreement (Function.update moved.runs claimed.run.plane (some (runShape claimed.run))) moved.active := by
    rw [works, show claimed.run.plane = planeForBuiltinKind claimed.kind from claimed.ofPlane.symm]
    apply agreement.with_item
    rw [claimed.ofPlane]
    exact free
  exact (startRun_holds fits).weaken (fun _ sees => sees) (fun _ _ settles => settles)
    fun _ _ failed => absurd failed.1 quiet

/-- A completion run that is not saved is forgotten. -/
theorem completion_holds {fails : Phase → FileStep → Option String} {stage : StageName}
    {nodeId stageKindId runId rootSpecId now : String} (level : w.Level) (agreement : Agreement w.runs w.active)
    (free : w.runs .planning = none) :
    Holds (Sees w) (startRun fails (completionRun stage nodeId stageKindId runId rootSpecId now))
      (fun _ => Settles w.kept) (fun _ => Restarts w.kept) := by
  have works : runShape (completionRun stage nodeId stageKindId runId rootSpecId now) = ⟨.planning, .rootSpec⟩ := rfl
  have fits := agreement.with_root free
  rw [← works] at fits
  have saved : Agreement w.saved w.active := by
    rw [level]
    exact agreement
  refine (startRun_holds fits).weaken (fun _ sees => sees) (fun _ _ settles => settles) fun _ s' failed => ?_
  exact ⟨{ w with runs := Function.update w.runs .planning (some ⟨.planning, .rootSpec⟩) }, rfl, saved, failed.2⟩

theorem requeueRun_holds {fails : Phase → FileStep → Option String} {kind : WorkItemKind} {id : String}
    (quiet : ¬Fails fails .transferred) (level : w.Level) (agreement : Agreement w.runs w.active)
    (present : id ∈ w.active kind) :
    Holds (Sees w) (requeueRun fails (planeForBuiltinKind kind) kind id) (fun _ => Settles w.kept)
      (fun _ => Restarts w.kept) := by
  have settled : ∀ s', Sees w s' → Settles w.kept s' := fun _ sees => ⟨w, rfl, level, agreement, sees⟩
  unfold requeueRun
  apply Holds.bind (fileStep_holds.weaken (fun _ sees => sees) (fun _ _ sees => sees)
    fun _ s' failed => (settled s' failed.2).restarts)
  intro _
  apply Holds.bind ((renameDocument_holds (by decide) present).weaken (fun _ sees => sees)
    (fun _ _ moved => moved.1.2) fun _ s' sees => (settled s' sees).restarts)
  intro _
  apply Holds.bind (Q := fun _ => Sees { w.moved kind id with runs := Function.update w.runs (planeForBuiltinKind kind) none })
  · apply Holds.modify
    intro s sees
    refine ⟨?_, sees.saved, sees.active, sees.kept, sees.fresh⟩
    exact (shapes_clearActivePlane _ none s.snapshot).trans (by rw [sees.runs]; rfl)
  · intro _
    refine saveSnapshot_holds.weaken (fun _ sees => sees) (fun _ _ sees => ?_) fun _ _ failed => absurd failed.1 quiet
    exact ⟨(w.moved kind id).ended (planeForBuiltinKind kind), rfl, rfl, agreement.without_item present, sees⟩

/-! ## Runs -/

/-- Nothing fails between the move of a document and the save of the snapshot that belongs to it, and the runs are only
dropped with their documents. -/
def RuntimeStep.Uninterrupted (s : DispatchSession) : RuntimeStep → Prop
  | .claim _ fails | .retry _ fails => ¬Fails fails .transferred
  | .result app => Application.Uninterrupted app s
  | .reset requeued => requeued = true ∨ ∀ kind, s.documents kind .active = []
  | .completion .. | .restart | .elsewhere _ => True

theorem shapes_dropRuns (snapshot : RuntimeSnapshot) : shapes (dropRuns snapshot) = fun _ => none := by
  have projected := shapes_project { snapshot with activeRunsByPlane := fun _ => none }
  exact projected

theorem Agreement.idle : Agreement (fun _ => none) (fun _ => []) where
  placed := fun _ _ here => by cases here
  agree := fun kind id => by simp

theorem reset_settles (requeued : Bool) (dropped : requeued = true ∨ ∀ kind, s.documents kind .active = []) :
    Settles (activeItems s.documents) (s.reset requeued) := by
  refine ⟨⟨fun _ => none, fun _ => none, fun _ => [], activeItems s.documents, []⟩, rfl, rfl, .idle, ?_⟩
  refine ⟨shapes_dropRuns s.snapshot, shapes_dropRuns s.snapshot, ?_, ?_, by simp⟩
  · funext kind
    cases requeued with
    | true => rfl
    | false => exact (dropped.resolve_left Bool.false_ne_true) kind
  · intro kind id present
    cases requeued with
    | true => exact ⟨.queue, List.mem_append_right _ present⟩
    | false =>
      have none := (dropped.resolve_left Bool.false_ne_true) kind
      simp [activeItems, none] at present

theorem elsewhere_settles (agreed : Agreed s) (next : DispatchSession) :
    Settles (activeItems s.documents) (s.elsewhere next) := by
  refine ⟨viewOf s, rfl, agreed.written, agreed.agreement, rfl, rfl, ?_, ?_, by simp [viewOf]⟩
  · funext kind
    simp [activeItems, DispatchSession.elsewhere, viewOf]
  · intro kind id present
    exact ⟨.active, by simpa [DispatchSession.elsewhere] using (show id ∈ s.documents kind .active from present)⟩

/-- Every step keeps the agreement, and no active item is lost. -/
theorem step_settles (agreed : Agreed s) (step : RuntimeStep) (uninterrupted : step.Uninterrupted s) :
    Settles (activeItems s.documents) (step.apply s) := by
  have start : Sees (viewOf s) { s with routerDecision := none } :=
    ⟨rfl, rfl, rfl, (sees_viewOf s).kept, (sees_viewOf s).fresh⟩
  cases step with
  | claim claimed fails =>
    dsimp only [RuntimeStep.apply]
    split
    next guard =>
      refine run_settles start (activateClaim_holds uninterrupted agreed.written rfl agreed.agreement ?_)
      exact congrArg (Option.map runShape) (Option.isNone_iff_eq_none.mp guard.1)
    next => exact agreed.settles
  | completion stage nodeId stageKindId runId rootSpecId now fails =>
    dsimp only [RuntimeStep.apply]
    split
    next guard =>
      refine run_settles start (completion_holds agreed.written agreed.agreement ?_)
      exact congrArg (Option.map runShape) (Option.isNone_iff_eq_none.mp guard)
    next => exact agreed.settles
  | result app =>
    dsimp only [RuntimeStep.apply]
    cases active : s.snapshot.activeRunsByPlane app.result.plane with
    | none => exact agreed.settles
    | some run =>
      dsimp only
      split
      next of => exact run_settles ⟨rfl, start⟩ (applyDispatchResult_holds agreed active of uninterrupted)
      next => exact agreed.settles
  | retry plane fails =>
    dsimp only [RuntimeStep.apply]
    cases found : (s.snapshot.activeRunsByPlane plane).bind queueItem with
    | none => exact agreed.settles
    | some item =>
      obtain ⟨kind, id⟩ := item
      obtain ⟨run, active, names⟩ := Option.bind_eq_some_iff.mp found
      have here : shapes s.snapshot plane = some (runShape run) := congrArg (Option.map runShape) active
      have works : (runShape run).work = .item kind id := queueItem_eq_some.mp names
      obtain ⟨-, placed⟩ := agreed.agreement.placed plane _ here
      rw [works] at placed
      obtain rfl := Option.some.inj placed
      have present : id ∈ (viewOf s).active kind := (agreed.agreement.agree kind id).mpr ⟨_, here, works⟩
      exact run_settles start (requeueRun_holds uninterrupted agreed.written agreed.agreement present)
  | reset requeued => exact reset_settles requeued uninterrupted
  | restart =>
    have restarts : Restarts (activeItems s.documents) s := agreed.settles.restarts
    exact restarts.settles
  | elsewhere next => exact elsewhere_settles agreed next

/-- For each plane, the snapshot has a run on a queue work item exactly where its document is active. -/
def SnapshotAgrees (s : DispatchSession) : Prop := ∀ plane kind id,
  (∃ run, s.snapshot.activeRunsByPlane plane = some run ∧ queueItem run = some (kind, id)) ↔
    planeForBuiltinKind kind = plane ∧ id ∈ s.documents kind .active

/-- The item of a run that ended is in another directory of its family. -/
def EndedItemsMoved (s s' : DispatchSession) : Prop := ∀ plane kind id,
  (∃ run, s.snapshot.activeRunsByPlane plane = some run ∧ queueItem run = some (kind, id)) →
    (¬∃ run, s'.snapshot.activeRunsByPlane plane = some run ∧ queueItem run = some (kind, id)) →
      ∃ state, state ≠ .active ∧ id ∈ s'.documents kind state

theorem Agreed.snapshotAgrees (agreed : Agreed s) : SnapshotAgrees s := by
  intro plane kind id
  rw [show id ∈ s.documents kind .active ↔ _ from agreed.agreement.agree kind id]
  constructor
  · rintro ⟨run, active, names⟩
    have here : shapes s.snapshot plane = some (runShape run) := congrArg (Option.map runShape) active
    have works : (runShape run).work = .item kind id := queueItem_eq_some.mp names
    obtain ⟨-, placed⟩ := agreed.agreement.placed plane _ here
    rw [works] at placed
    obtain rfl := Option.some.inj placed
    exact ⟨rfl, _, here, works⟩
  · rintro ⟨rfl, shape, here, works⟩
    obtain ⟨run, active, rfl⟩ := Option.map_eq_some_iff.mp here
    exact ⟨run, active, queueItem_eq_some.mpr works⟩

/-- No run and no active document. -/
structure Idle (s : DispatchSession) : Prop where
  snapshot : s.snapshot.activeRunsByPlane = fun _ => none
  saved : s.saved.activeRunsByPlane = fun _ => none
  documents : ∀ kind, s.documents kind .active = []

theorem Idle.agreed (idle : Idle s) : Agreed s := by
  have snapshot : shapes s.snapshot = fun _ => none := funext fun plane => by simp [shapes, idle.snapshot]
  have saved : shapes s.saved = fun _ => none := funext fun plane => by simp [shapes, idle.saved]
  have active : activeItems s.documents = fun _ => [] := funext idle.documents
  constructor
  · rw [snapshot, saved]
  · rw [snapshot, active]
    exact .idle

/-- Snapshot and queue agree after every step of a run whose steps nothing interrupts. -/
theorem snapshot_queue_agree (s : DispatchSession) (steps : List RuntimeStep) (idle : Idle s)
    (uninterrupted : Along RuntimeStep.apply RuntimeStep.Uninterrupted s steps) :
    Along RuntimeStep.apply
      (fun s step => SnapshotAgrees (step.apply s) ∧ EndedItemsMoved s (step.apply s)) s steps := by
  have agreed := idle.agreed
  clear idle
  induction steps generalizing s with
  | nil => trivial
  | cons step steps ih =>
    have settles := step_settles agreed step uninterrupted.1
    have agrees := settles.agreed.snapshotAgrees
    refine ⟨⟨agrees, ?_⟩, ih _ uninterrupted.2 settles.agreed⟩
    intro plane kind id ran ended
    obtain ⟨placed, present⟩ := (agreed.snapshotAgrees plane kind id).mp ran
    obtain ⟨state, there⟩ := settles.holds_kept present
    refine ⟨state, ?_, there⟩
    rintro rfl
    exact ended ((agrees plane kind id).mpr ⟨placed, there⟩)

end Session

def standardEffects : EffectSession where
  compiledPlan := standardPlan
  effectRules := standardPlan.workflowPrimitives.runtimeEffectRules.map fun rule => ⟨rule, "planner_disposition"⟩
  effectHandlers := ["planner_disposition"]
  failurePolicies := []
  plannerDisposition := .missing
  blueprintHandler := fun _ _ => none
  pathExists := fun _ => true
  specQueued := fun _ => false
  lifecycleAccepts := fun _ => true
  ofPlan := handledBy_ofPlan standardPlan "planner_disposition"

/-- A result of the task's run in the standard plan. -/
def taskResult (stage : StageName) (nodeId : String) (terminal : ExecutionTerminalResult)
    (fails : Phase → FileStep → Option String) : AppliedResult where
  result := {
    runId := "run-1"
    plane := .execution
    stage := stage
    nodeId := nodeId
    stageKindId := nodeId
    workItemKind := .task
    workItemId := "task-1"
    terminalResult := .execution terminal
    metadata := []
    ofPlane := rfl }
  effects := standardEffects
  blueprint := fun _ => none
  fails := fails
  handlerDocuments := []
  learningRequests := []
  incidentId := "incident-1"
  generatedId := "task-2"
  supersededDuplicate := false
  repeatedRemediation := false
  completedAt := "2026-01-01T00:00:00Z"
  noLearningRequest := by simp

def queuedTask : DispatchSession where
  snapshot := .started fun _ => none
  saved := .started fun _ => none
  counters := []
  documents := fun kind state => if kind = .task ∧ state = .queue then ["task-1"] else []
  routerDecision := none

theorem queuedTask_idle : Idle queuedTask := ⟨rfl, rfl, fun kind => by simp [queuedTask]⟩

/-- The task is built, checked and completed; the last result meets these failures. -/
def completedTask (fails : Phase → FileStep → Option String) : List RuntimeStep := [
  .claim ⟨.execution, .task, "task-1", .builder, "builder", "builder", "run-1", "2026-01-01T00:00:00Z", rfl⟩
    fun _ _ => none,
  .result (taskResult .builder "builder" .builderComplete fun _ _ => none),
  .result (taskResult .checker "checker" .checkerPass fun _ _ => none),
  .result (taskResult .updater "updater" .updateComplete fails)]

theorem nothing_fails {phase : Phase} : ¬Fails (fun _ _ => none) phase := fun ⟨_, fails⟩ => fails rfl

/-- A task that runs to its end without a failure. -/
theorem snapshot_queue_agree_completed :
    Along RuntimeStep.apply
      (fun s step => SnapshotAgrees (step.apply s) ∧ EndedItemsMoved s (step.apply s)) queuedTask
      (completedTask fun _ _ => none) := by
  refine snapshot_queue_agree queuedTask (completedTask fun _ _ => none) queuedTask_idle ?_
  have applied : ∀ s (app : AppliedResult), app.fails = (fun _ _ => none) →
      selectedRuntimeEffectRule app.session app.result = .ok none → Uninterrupted app s := by
    intro s app quiet selects
    have stays : ¬EffectMoves app := fun ⟨rule, selected, _⟩ => by simp [selects] at selected
    have calm : ∀ phase, ¬Fails app.fails phase := fun phase => by
      rw [quiet]
      exact nothing_fails
    exact ⟨(absurd · stays), (absurd · stays), (absurd · stays), fun _ => ⟨calm _, calm _⟩, fun _ => .inl (calm _)⟩
  exact ⟨nothing_fails, applied _ _ rfl (by decide +kernel), applied _ _ rfl (by decide +kernel),
    applied _ _ rfl (by decide +kernel), trivial⟩

def markerFails : List RuntimeStep := completedTask fun phase step =>
  if phase = .ending ∧ step = .setStatus then some "no space left on device" else none

/-- The status marker cannot be written after the task's document went to the done directory: the recovery keeps the
task's run. -/
theorem done_task_still_running :
    ¬ ∀ (s : DispatchSession) (steps : List RuntimeStep), Idle s →
      Along RuntimeStep.apply
        (fun s step => SnapshotAgrees (step.apply s) ∧ EndedItemsMoved s (step.apply s)) s steps := by
  intro agree
  have last := (agree queuedTask markerFails queuedTask_idle).2.2.2.1.1
  have runs : ((after RuntimeStep.apply queuedTask markerFails).snapshot.activeRunsByPlane .execution).bind queueItem =
      some (.task, "task-1") := by decide +kernel
  have gone : "task-1" ∉ (after RuntimeStep.apply queuedTask markerFails).documents .task .active := by decide +kernel
  exact gone ((last .execution .task "task-1").mp (Option.bind_eq_some_iff.mp runs)).2

end Millrace.Application

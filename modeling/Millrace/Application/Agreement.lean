import Millrace.Application.Endings

/-! The snapshot and the queue agree after every step that nothing interrupts between the move of an item and the end of
its run. -/

set_option autoImplicit false

namespace Millrace.Application
open Millrace.Text Millrace.Contracts Millrace.Action Millrace.Runtime Millrace.Runs
open Millrace.Queue (ItemState planeForBuiltinKind)

/-! ## Agreement -/

/-- Each run is on its own plane, and the active documents are those of the runs. -/
structure Agreement (runs : Plane → Option RunShape) (active : WorkItemKind → List String) : Prop where
  placed : ∀ plane shape, runs plane = some shape → shape.plane = plane ∧ shape.work.plane = some plane
  agree : ∀ kind id, id ∈ active kind ↔
    ∃ shape, runs (planeForBuiltinKind kind) = some shape ∧ shape.work = .item kind id

section Agreement
variable {w : View} {kind : WorkItemKind} {id : String}

/-- The item and its run go together. -/
theorem Agreement.without_item (agreement : Agreement w.runs w.active) (present : id ∈ w.active kind) :
    Agreement (Function.update w.runs (planeForBuiltinKind kind) none) (w.moved kind id).active where
  placed := fun plane shape here => by
    by_cases same : plane = planeForBuiltinKind kind
    · subst same
      simp at here
    · rw [Function.update_of_ne same] at here
      exact agreement.placed plane shape here
  agree := fun kind' id' => by
    obtain ⟨shape, runs, works⟩ := (agreement.agree kind id).mp present
    by_cases samePlane : planeForBuiltinKind kind' = planeForBuiltinKind kind
    · -- the plane had the run of this one item, so no other item of the plane was active
      rw [samePlane, Function.update_self]
      apply iff_of_false
      · intro there
        have still : id' ∈ w.active kind' ∧ ¬(kind' = kind ∧ id' = id) := by
          by_cases same : kind' = kind
          · simp only [View.moved, if_pos same, List.mem_filter, decide_eq_true_eq] at there
            exact ⟨there.1, fun both => there.2 both.2⟩
          · simp only [View.moved, if_neg same] at there
            exact ⟨there, fun both => same both.1⟩
        obtain ⟨shape', runs', works'⟩ := (agreement.agree kind' id').mp still.1
        rw [samePlane, runs] at runs'
        obtain rfl := Option.some.inj runs'
        rw [works] at works'
        injection works' with sameKind sameId
        exact still.2 ⟨sameKind.symm, sameId.symm⟩
      · simp
    · have other : kind' ≠ kind := fun same => samePlane (same ▸ rfl)
      rw [Function.update_of_ne samePlane]
      simp only [View.moved, if_neg other]
      exact agreement.agree kind' id'

/-- A run without an item goes alone. -/
theorem Agreement.without_root (agreement : Agreement w.runs w.active) {plane : Plane} {shape : RunShape}
    (here : w.runs plane = some shape) (root : shape.work = .rootSpec) :
    Agreement (Function.update w.runs plane none) w.active where
  placed := fun plane' shape' there => by
    by_cases same : plane' = plane
    · subst same
      simp at there
    · rw [Function.update_of_ne same] at there
      exact agreement.placed plane' shape' there
  agree := fun kind id => by
    rw [agreement.agree kind id]
    by_cases same : planeForBuiltinKind kind = plane
    · rw [same, here, Function.update_self]
      simp [root]
    · rw [Function.update_of_ne same]

end Agreement

/-- The invariant of the runtime between steps. -/
structure Agreed (s : DispatchSession) : Prop where
  written : shapes s.saved = shapes s.snapshot
  agreement : Agreement (shapes s.snapshot) (activeItems s.documents)

/-! ## Applying a result -/

section Application
variable (app : AppliedResult) (s : DispatchSession)

/-- The decision that is applied ends the run. -/
def EndsRun : Prop :=
  ∃ routed application, routeStageResultFromGraph app.plan s.snapshot app.result s.counters = .ok routed ∧
    Runtime.applyRuntimeEffectForStageResult app.session app.result routed = .ok application ∧
    Ends app application.routerDecision

def recoverySteps : List FileStep :=
  [.writeRuntimeErrorReport, .persistRuntimeErrorContext, .setStatus, .refreshQueueDepths, .saveSnapshot]

/-- The recovery after a failure leaves the saved snapshot alone. -/
def Unrecovered : Prop := app.result.plane = .learning ∨ ∃ step ∈ recoverySteps, app.fails .recovery step ≠ none

/-- Nothing fails or refuses between the move of the item and the end of its run, and where something fails after the
end, no recovery brings the run back. -/
structure Uninterrupted : Prop where
  recorded : EffectMoves app → ¬Fails app.fails .effectWritten ∧ ¬EffectAmbiguous app
  published : EffectMoves app → ¬Fails app.fails .publication ∧ app.learningRequests.Nodup ∧
    ∀ id ∈ app.learningRequests, ∀ state, id ∉ s.documents .learningRequest state
  decided : EffectMoves app → ¬Fails app.fails .decision ∧ isClosureTargetStageResult app.result = false ∧
    isReconStageResult app.result = false
  ended : EffectMoves app ∨ EndsRun app s → ¬Fails app.fails .ending ∧ ¬Fails app.fails .fallbackEnding
  closed : EffectMoves app ∨ EndsRun app s → ¬Fails app.fails .closing ∨ Unrecovered app

variable {app s} {w : View}

theorem persistDispatchSnapshotUpdates_holds (level : w.Level) (decision : RouterDecision) :
    Holds (Sees w) (persistDispatchSnapshotUpdates app decision) (fun _ => Sees w)
      (fun _ s => Fails app.fails .publication ∧ Sees w s) := by
  unfold persistDispatchSnapshotUpdates
  apply Holds.bind fileStep_holds
  intro _
  refine Holds.bind (modifySnapshot_steady ?_ w) ?_
  · intro snapshot
    rfl
  intro _
  exact concludeSnapshot_holds.weaken (fun _ sees => sees) (fun _ _ sees => level.written ▸ sees) fun _ _ failed => failed

theorem recordDecision_steady {condition : Prop} (decision : RouterDecision) :
    Steady condition (recordDecision decision) :=
  .modify fun _ _ sees => ⟨sees.runs, sees.saved, sees.active, sees.kept, sees.fresh⟩

/-- The learning requests of a result, while the item is where it was. -/
theorem enqueueLearningRequests_early (none : w.fresh = []) :
    Holds (Sees w) (enqueueLearningRequests app) (fun _ => Sees w) (fun _ => Sees w) := by
  unfold enqueueLearningRequests
  apply Holds.forM
  intro id _
  apply Holds.bind (enqueueDocument_holds fun _ => by simp [none])
  intro _
  exact fileStep_steady.early

/-- New learning requests are all enqueued unless an operation fails. -/
theorem enqueueLearningRequests_new (once : w.fresh.Nodup) :
    Holds (Sees w)
      (w.fresh.forM fun id => do
        enqueueDocument app.fails .publication .learningRequest id
        fileStep app.fails .publication .writeEvent)
      (fun _ => Sees { w with fresh := [] }) (fun _ _ => Fails app.fails .publication) := by
  generalize requests : w.fresh = l at once
  induction l generalizing w with
  | nil => exact .pure fun _ sees => sees.fewer (by simp)
  | cons id rest ih =>
    obtain ⟨first, later⟩ := List.nodup_cons.mp once
    have enqueued : Holds (Sees w)
        (do
          enqueueDocument app.fails .publication .learningRequest id
          fileStep app.fails .publication .writeEvent)
        (fun _ => Sees { w with fresh := rest }) (fun _ _ => Fails app.fails .publication) := by
      apply Holds.bind (enqueueDocument_new requests first)
      intro _
      exact fileStep_holds.weaken (fun _ sees => sees) (fun _ _ sees => sees) fun _ _ failed => failed.1
    apply Holds.bind enqueued
    intro _
    exact ih rfl later

/-- The item is where it was when the decision comes to be applied. -/
theorem publishAndApply_stays (level : w.Level) (none : w.fresh = []) {application : RuntimeEffectApplication}
    (stays : application.sourceLifecycleApplied = false)
    (planning : isClosureTargetStageResult app.result = true → app.result.plane = .planning)
    (quiet : Ends app application.routerDecision → ¬Fails app.fails .ending ∧ ¬Fails app.fails .fallbackEnding) :
    Holds (Sees w) (publishAndApply app application) (fun _ => Decided app w application.routerDecision)
      (fun _ s => Sees w s ∨ (Ends app application.routerDecision ∧ Fails app.fails .closing ∧ Ended app w s)) := by
  unfold publishAndApply
  have early : ∀ {x : ApplicationM Unit}, Holds (Sees w) x (fun _ => Sees w) (fun _ => Sees w) →
      Holds (Sees w) x (fun _ => Sees w)
        (fun _ s => Sees w s ∨ (Ends app application.routerDecision ∧ Fails app.fails .closing ∧ Ended app w s)) :=
    fun holds => holds.weaken (fun _ sees => sees) (fun _ _ sees => sees) fun _ _ sees => .inl sees
  have step : ∀ {phase : Phase} {step : FileStep}, Holds (Sees w) (fileStep app.fails phase step) (fun _ => Sees w)
      (fun _ s => Sees w s ∨ (Ends app application.routerDecision ∧ Fails app.fails .closing ∧ Ended app w s)) :=
    early fileStep_steady.early
  have closing : ∀ {step : FileStep}, Holds (Decided app w application.routerDecision)
      (fileStep app.fails .closing step) (fun _ => Decided app w application.routerDecision)
      (fun _ s => Sees w s ∨ (Ends app application.routerDecision ∧ Fails app.fails .closing ∧ Ended app w s)) :=
    fileStep_holds.weaken (fun _ decided => decided) (fun _ _ decided => decided)
      fun _ _ ⟨failed, decided⟩ => decided.imp id fun ⟨ends, ended⟩ => ⟨ends, failed, ended⟩
  have recorded : Steady True (recordDecision application.routerDecision) := recordDecision_steady _
  apply Holds.bind (early recorded.early)
  intro _
  apply Holds.bind step
  intro _
  apply Holds.bind (early (enqueueLearningRequests_early none))
  intro _
  apply Holds.bind step
  intro _
  apply Holds.bind (early ((persistDispatchSnapshotUpdates_holds level _).weaken (fun _ sees => sees) (fun _ _ sees => sees)
    fun _ _ failed => failed.2))
  intro _
  apply Holds.bind step
  intro _
  apply Holds.bind step
  intro _
  apply Holds.bind step
  intro _
  have applied : applyRouterDecisionAfterRuntimeEffect app application =
      applyRouterDecision app application.routerDecision := by
    unfold applyRouterDecisionAfterRuntimeEffect
    rw [stays]
    rfl
  rw [applied]
  apply Holds.bind ((applyRouterDecision_holds level application.routerDecision planning quiet).weaken
    (fun _ sees => sees) (fun _ _ decided => decided) fun _ _ sees => .inl sees)
  intro _
  apply Holds.bind closing
  intro _
  exact closing

theorem applyRouterDecisionAfterRuntimeEffect_moved {application : RuntimeEffectApplication}
    {F : ApplicationError → DispatchSession → Prop}
    (moved : application.sourceLifecycleApplied = true)
    (terminal : application.routerDecision.action = .idle ∨ application.routerDecision.action = .blocked)
    (decision : ¬Fails app.fails .decision) (ending : ¬Fails app.fails .ending)
    (item : isClosureTargetStageResult app.result = false ∧ isReconStageResult app.result = false) :
    Holds (Gone app w) (applyRouterDecisionAfterRuntimeEffect app application) (fun _ => Ended app w) F := by
  unfold applyRouterDecisionAfterRuntimeEffect
  have cleared : Steady (Fails app.fails .decision) (clearRuntimeErrorContextIfConsumed app) :=
    .ite (fun _ => fileStep_steady) fun _ => .pure ()
  have allowed : Steady (Fails app.fails .decision)
      (refuse (isClosureTargetStageResult app.result || isReconStageResult app.result)
        (.invalidState "runtime effects cannot pre-apply closure or recon source lifecycle")) :=
    refuse_steady fun special => by simp [item] at special
  rw [if_pos moved]
  apply Holds.bind (cleared.gone decision)
  intro _
  apply Holds.bind (allowed.gone decision)
  intro _
  rcases terminal with idle | blocked
  · rw [idle]
    exact endRun_moved ending none (some .setStatus) true
  · rw [blocked]
    have marked : Steady (Fails app.fails .ending) (fileStep app.fails .ending .setStatus) := fileStep_steady
    apply Holds.bind (marked.gone ending)
    intro _
    apply Holds.bind (persistBlockedMetadataAndEvent_steady.gone ending)
    intro _
    exact endRun_moved ending application.routerDecision.failureClass none true

/-- The effect has moved the item when the decision comes to be applied. -/
theorem publishAndApply_moved (level : w.Level) (fresh : w.fresh = app.learningRequests)
    {application : RuntimeEffectApplication} (moved : application.sourceLifecycleApplied = true)
    (terminal : application.routerDecision.action = .idle ∨ application.routerDecision.action = .blocked)
    (uninterrupted : Uninterrupted app s) (moves : EffectMoves app) :
    Holds (Gone app w) (publishAndApply app application) (fun _ => Ended app { w with fresh := [] })
      (fun _ s' => Fails app.fails .closing ∧ Ended app { w with fresh := [] } s') := by
  obtain ⟨publication, once, -⟩ := uninterrupted.published moves
  obtain ⟨decision, item⟩ := uninterrupted.decided moves
  have ending := (uninterrupted.ended (.inl moves)).1
  unfold publishAndApply
  have step : ∀ {w : View} {step : FileStep}, Holds (Gone app w) (fileStep app.fails .publication step)
      (fun _ => Gone app w) (fun _ s' => Fails app.fails .closing ∧ Ended app { w with fresh := [] } s') :=
    fileStep_steady.gone publication
  have recorded : Steady (Fails app.fails .publication) (recordDecision application.routerDecision) :=
    recordDecision_steady _
  apply Holds.bind (recorded.gone publication)
  intro _
  apply Holds.bind step
  intro _
  have enqueued : Holds (Gone app w) (enqueueLearningRequests app) (fun _ => Gone app { w with fresh := [] })
      (fun _ s' => Fails app.fails .closing ∧ Ended app { w with fresh := [] } s') := by
    apply Holds.assume fun _ gone => gone.1
    intro present
    unfold enqueueLearningRequests
    have requests : (w.without app.result).fresh = app.learningRequests := fresh
    rw [← requests]
    exact (enqueueLearningRequests_new (requests ▸ once)).weaken (fun _ gone => gone.2) (fun _ _ sees => ⟨present, sees⟩)
      fun _ _ failed => absurd failed publication
  apply Holds.bind enqueued
  intro _
  apply Holds.bind step
  intro _
  have updated : Holds (Gone app { w with fresh := [] }) (persistDispatchSnapshotUpdates app application.routerDecision)
      (fun _ => Gone app { w with fresh := [] })
      (fun _ s' => Fails app.fails .closing ∧ Ended app { w with fresh := [] } s') := by
    apply Holds.assume fun _ gone => gone.1
    intro present
    exact (persistDispatchSnapshotUpdates_holds (w := View.without { w with fresh := [] } app.result) level _).weaken
      (fun _ gone => gone.2) (fun _ _ sees => ⟨present, sees⟩) fun _ _ failed => absurd failed.1 publication
  apply Holds.bind updated
  intro _
  apply Holds.bind step
  intro _
  apply Holds.bind step
  intro _
  apply Holds.bind step
  intro _
  apply Holds.bind (applyRouterDecisionAfterRuntimeEffect_moved moved terminal decision ending item)
  intro _
  apply Holds.bind fileStep_holds
  intro _
  exact fileStep_holds

/-- Where the application leaves the session: as it was, or with the run ended and its item gone. -/
def Concluded (app : AppliedResult) (w : View) (s : DispatchSession) : Prop := Sees w s ∨ Ended app w s

/-- The run has ended where an operation that follows fails. -/
def ClosedLate (app : AppliedResult) (w : View) (s : DispatchSession) : Prop :=
  Ended app w s ∧ Fails app.fails .closing ∧ Unrecovered app

theorem Sees.unawaited {w : View} {s : DispatchSession} (sees : Sees w s) : Sees { w with fresh := [] } s :=
  sees.fewer (by simp)

theorem liftTick_holds {α : Type} {P : DispatchSession → Prop} (outcome : TickResult α) :
    Holds P (liftTick outcome) (fun a s => outcome = .ok a ∧ P s) (fun _ => P) := by
  cases outcome with
  | error error => exact .throw fun _ holds => holds
  | ok a => exact .pure fun _ holds => ⟨rfl, holds⟩

/-- The whole of an application before any recovery. -/
theorem persistAndApplyDispatchResult_holds (level : w.Level) (none : w.fresh = [])
    (planning : isClosureTargetStageResult app.result = true → app.result.plane = .planning)
    (uninterrupted : Uninterrupted app s) :
    Holds (fun s' => s' = { s with routerDecision := .none } ∧ Sees w s') (persistAndApplyDispatchResult app)
      (fun _ => Concluded app w) (fun _ s' => Sees w s' ∨ ClosedLate app w s') := by
  have same : { w with fresh := [] } = w := congrArg (fun fresh => { w with fresh := fresh }) none.symm
  -- the learning requests' identifiers are followed where the effect moves the item
  obtain ⟨fresh, unused, awaited⟩ : ∃ fresh : List String,
      (∀ id ∈ fresh, ∀ state, id ∉ s.documents .learningRequest state) ∧
        (EffectMoves app → fresh = app.learningRequests) := by
    by_cases moves : EffectMoves app
    · exact ⟨app.learningRequests, (uninterrupted.published moves).2.2, fun _ => rfl⟩
    · exact ⟨[], by simp, fun holds => absurd holds moves⟩
  have early : ∀ s', Sees { w with fresh := fresh } s' → Sees w s' := fun s' sees => by
    have unawaited := sees.unawaited
    exact same ▸ unawaited
  have step : ∀ {step : FileStep}, Holds (Sees { w with fresh := fresh }) (fileStep app.fails .routing step)
      (fun _ => Sees { w with fresh := fresh }) (fun _ s' => Sees w s' ∨ ClosedLate app w s') :=
    fileStep_holds.weaken (fun _ sees => sees) (fun _ _ sees => sees) fun _ _ failed => .inl (early _ failed.2)
  unfold persistAndApplyDispatchResult
  apply Holds.given (A := fun s' => s' = { s with routerDecision := .none } ∧ Sees { w with fresh := fresh } s')
  · rintro s' ⟨rfl, sees⟩
    exact ⟨rfl, sees.runs, sees.saved, sees.active, sees.kept, unused⟩
  apply Holds.bind (fileStep_holds.weaken (fun _ start => start) (fun _ _ start => start)
    fun _ _ failed => .inl (early _ failed.2.2))
  intro _
  apply Holds.bind (Q := fun s₀ s' => s₀ = { s with routerDecision := .none } ∧ Sees { w with fresh := fresh } s')
    (.get fun _ start => start)
  intro s₀
  apply Holds.assume fun _ start => start.1
  rintro rfl
  apply Holds.given (A := Sees { w with fresh := fresh }) fun _ start => start.2
  apply Holds.bind ((liftTick_holds _).weaken (fun _ sees => sees) (fun _ _ lifted => lifted) fun _ _ sees =>
    .inl (early _ sees))
  intro routed
  apply Holds.assume fun _ lifted => lifted.1
  intro routes
  apply Holds.given (A := Sees { w with fresh := fresh }) fun _ lifted => lifted.2
  have recorded : Steady True (recordDecision routed) := recordDecision_steady routed
  apply Holds.bind (recorded.early.weaken (fun _ sees => sees) (fun _ _ sees => sees) fun _ s' sees => .inl (early s' sees))
  intro _
  apply Holds.bind step
  intro _
  apply Holds.bind step
  intro _
  apply Holds.bind step
  intro _
  apply Holds.bind (applyRuntimeEffectForStageResult_holds.weaken (fun _ sees => sees) (fun _ _ applied => applied)
    fun _ s' failed => ?_)
  · intro application
    apply Holds.either
    · apply Holds.assume fun _ applied => And.intro applied.1 applied.2.1
      rintro ⟨stays, decides⟩
      have quiet : Ends app application.routerDecision → ¬Fails app.fails .ending ∧ ¬Fails app.fails .fallbackEnding :=
        fun ends => uninterrupted.ended (.inr ⟨routed, application, routes, decides, ends⟩)
      refine (publishAndApply_stays level none stays planning quiet).weaken (fun s' applied => early s' applied.2.2)
        (fun _ _ decided => decided.imp id And.right) fun _ s' failed => failed.imp id fun ⟨ends, late, ended⟩ => ?_
      have closed := uninterrupted.closed (.inr ⟨routed, application, routes, decides, ends⟩)
      exact ⟨ended, late, closed.resolve_left (not_not.mpr late)⟩
    · apply Holds.assume fun _ applied => And.intro applied.1 (And.intro applied.2.1 applied.2.2.1)
      rintro ⟨moved, terminal, moves⟩
      refine (publishAndApply_moved (w := { w with fresh := fresh }) level (awaited moves) moved terminal uninterrupted
        moves).weaken (fun s' applied => applied.2.2.2) (fun _ _ ended => .inr ?_) fun _ s' failed => .inr ?_
      · exact same ▸ ended
      · obtain ⟨late, ended⟩ := failed
        exact ⟨same ▸ ended, late, (uninterrupted.closed (.inl moves)).resolve_left (not_not.mpr late)⟩
  · rcases failed with sees | ⟨moves, interrupted⟩
    · exact .inl (early s' sees)
    · obtain ⟨recorded, single⟩ := uninterrupted.recorded moves
      exact absurd interrupted (not_or.mpr ⟨recorded, single⟩)

end Application

end Millrace.Application

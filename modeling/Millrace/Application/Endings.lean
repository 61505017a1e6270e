import Millrace.Application.EffectMoves

/-! A decision leaves the run and its item alone or ends both, unless an operation between the two fails. -/

set_option autoImplicit false

namespace Millrace.Application
open Millrace.Text Millrace.Contracts Millrace.Action Millrace.Runtime
open Millrace.Queue (ItemState planeForBuiltinKind)

/-! ## The end of a run -/

/-- The view once the snapshot is saved. -/
def View.written (w : View) : View := { w with saved := w.runs }

/-- The view once the run of a plane has ended and the snapshot is saved. -/
def View.ended (w : View) (plane : Plane) : View :=
  { w with
    runs := Function.update w.runs plane none
    saved := Function.update w.runs plane none }

theorem shapes_clearActivePlane (plane : Plane) (failureClass : Option String) (snapshot : RuntimeSnapshot) :
    shapes (clearActivePlane plane failureClass snapshot) = Function.update (shapes snapshot) plane none := by
  have projected := shapes_project
    { snapshot with activeRunsByPlane := Function.update snapshot.activeRunsByPlane plane none }
  refine Eq.trans projected ?_
  funext other
  by_cases same : other = plane <;> simp [shapes, Function.update, same]

section Endings
variable {app : AppliedResult} {phase : Phase} {w : View}

theorem saveSnapshot_holds {fails : Phase → FileStep → Option String} :
    Holds (Sees w) (saveSnapshot fails phase) (fun _ => Sees w.written) (fun _ s => Fails fails phase ∧ Sees w s) := by
  unfold saveSnapshot
  apply Holds.bind fileStep_holds
  intro _
  exact .modify fun s sees => ⟨sees.runs, sees.runs, sees.active, sees.kept, sees.fresh⟩

theorem concludeSnapshot_holds : Holds (Sees w) (concludeSnapshot app phase) (fun _ => Sees w.written)
    (fun _ s => Fails app.fails phase ∧ Sees w s) := by
  unfold concludeSnapshot
  apply Holds.bind fileStep_holds
  intro _
  exact saveSnapshot_holds

theorem resetForwardProgressCounters_steady :
    Steady (Fails app.fails phase) (resetForwardProgressCounters app phase) := by
  unfold resetForwardProgressCounters
  apply Steady.bind fileStep_steady
  intro _
  apply Steady.bind fileStep_steady
  intro _
  exact .modify fun _ _ sees => ⟨sees.runs, sees.saved, sees.active, sees.kept, sees.fresh⟩

/-- The snapshot without the run of a plane. -/
theorem clear_holds (plane : Plane) (failureClass : Option String) {F : ApplicationError → DispatchSession → Prop} :
    Holds (Sees w)
      (modifySnapshot fun snapshot => resetSnapshotRouteCounters (clearActivePlane plane failureClass snapshot))
      (fun _ => Sees { w with runs := Function.update w.runs plane none }) F := by
  apply Holds.modify
  intro s sees
  refine ⟨?_, sees.saved, sees.active, sees.kept, sees.fresh⟩
  exact (shapes_clearActivePlane plane failureClass s.snapshot).trans (by rw [sees.runs])

theorem endRun_holds (failureClass : Option String) (status : Option FileStep) (counted : Bool) :
    Holds (Sees w) (endRun app phase failureClass status counted) (fun _ => Sees (w.ended app.result.plane))
      (fun _ _ => Fails app.fails phase) := by
  unfold endRun
  apply Holds.bind (clear_holds app.result.plane failureClass)
  intro _
  have marked : Steady (Fails app.fails phase) (status.forM (fileStep app.fails phase)) := by
    cases status with
    | none => exact .pure _
    | some step => exact fileStep_steady
  apply Holds.bind ((marked _).weaken (fun _ sees => sees) (fun _ _ sees => sees) fun _ _ failed => failed.1)
  intro _
  have conclude : Holds (Sees { w with runs := Function.update w.runs app.result.plane none })
      (concludeSnapshot app phase) (fun _ => Sees (w.ended app.result.plane)) (fun _ _ => Fails app.fails phase) :=
    concludeSnapshot_holds.weaken (fun _ sees => sees) (fun _ _ sees => sees) fun _ _ failed => failed.1
  cases counted with
  | false => exact conclude
  | true =>
    apply Holds.bind ((resetForwardProgressCounters_steady _).weaken (fun _ sees => sees) (fun _ _ sees => sees)
      fun _ _ failed => failed.1)
    intro _
    exact conclude

theorem persistBlockedMetadataAndEvent_steady :
    Steady (Fails app.fails phase) (persistBlockedMetadataAndEvent app phase) := by
  unfold persistBlockedMetadataAndEvent
  apply Steady.bind fileStep_steady
  intro _
  exact fileStep_steady

/-! ## Another stage -/

theorem setNextStageForPlane_steady {plane : Plane} {stage : StageName} {nodeId stageKindId now : String}
    {failureClass : Option String} :
    Steady True (setNextStageForPlane plane stage nodeId stageKindId now failureClass) := by
  intro w
  unfold setNextStageForPlane
  apply Holds.bind (Q := fun s₀ s => s = s₀ ∧ Sees w s) (.get fun _ sees => ⟨rfl, sees⟩)
  intro s₀
  cases active : s₀.snapshot.activeRunsByPlane plane with
  | none => exact .throw fun _ start => ⟨trivial, start.2⟩
  | some run =>
    apply Holds.modify
    rintro s ⟨rfl, sees⟩
    refine ⟨?_, sees.saved, sees.active, sees.kept, sees.fresh⟩
    refine (shapes_project _).trans (Eq.trans ?_ sees.runs)
    funext other
    by_cases same : other = plane
    · subst same
      simp [shapes, active, runShape, runWork, queueItem]
    · simp [shapes, Function.update_of_ne same]

theorem shapes_showIn (field : RecoveryCounterField) (entry : RecoveryCounterEntry) (snapshot : RuntimeSnapshot) :
    shapes (field.showIn entry snapshot) = shapes snapshot := by
  cases field <;> rfl

theorem incrementCounterField_steady {failureClass : String} {field : RecoveryCounterField} :
    Steady True (incrementCounterField app failureClass field) := by
  unfold incrementCounterField
  apply Steady.bind (refuse_steady fun _ => trivial)
  intro _
  apply Steady.bind (refuse_steady fun _ => trivial)
  intro _
  apply Steady.bind (fileStep_steady.mono fun _ => trivial)
  intro _
  apply Steady.bind get_steady
  intro s
  apply Steady.bind (modifySnapshot_steady fun snapshot => shapes_showIn field _ snapshot)
  intro _
  apply Steady.bind (fileStep_steady.mono fun _ => trivial)
  intro _
  exact .modify fun _ _ sees => ⟨sees.runs, sees.saved, sees.active, sees.kept, sees.fresh⟩

theorem incrementRouteCounters_steady {decision : RouterDecision} :
    Steady True (incrementRouteCounters app decision) := by
  unfold incrementRouteCounters
  cases routeCounterField decision app.result with
  | none => exact .pure ()
  | some field => exact incrementCounterField_steady

/-- The view is on disk as it is in memory. -/
def View.Level (w : View) : Prop := w.saved = w.runs

theorem View.Level.written (level : w.Level) : w.written = w :=
  congrArg (fun saved => { w with saved := saved }) level.symm

theorem applyRunStageDecision_holds (level : w.Level) (decision : RouterDecision) :
    Holds (Sees w) (applyRunStageDecision app decision) (fun _ => Sees w) (fun _ => Sees w) := by
  unfold applyRunStageDecision
  apply Holds.bind (refuse_holds.weaken (fun _ sees => sees) (fun _ _ passed => passed.2) fun _ _ sees => sees)
  intro _
  cases decision.nextStage with
  | none => exact .throw fun _ sees => sees
  | some stage =>
    apply Holds.bind ((setNextStageForPlane_steady w).weaken (fun _ sees => sees) (fun _ _ sees => sees)
      fun _ _ failed => failed.2)
    intro _
    apply Holds.bind ((incrementRouteCounters_steady w).weaken (fun _ sees => sees) (fun _ _ sees => sees)
      fun _ _ failed => failed.2)
    intro _
    exact concludeSnapshot_holds.weaken (fun _ sees => sees) (fun _ _ sees => level.written ▸ sees)
      fun _ _ failed => failed.2

/-! ## The item of the result -/

/-- The view once the item of the result has left its active directory. -/
def View.without (w : View) (r : StageResultEnvelope) : View := w.moved r.workItemKind r.workItemId

/-- What ended the run: the item of the result has left its active directory, or the run had none. -/
def Ended (app : AppliedResult) (w : View) (s : DispatchSession) : Prop :=
  (app.result.workItemId ∈ w.active app.result.workItemKind ∧ Sees ((w.without app.result).ended app.result.plane) s) ∨
    (isClosureTargetStageResult app.result = true ∧ Sees (w.ended app.result.plane) s)

/-- The run of a moved item ends where no operation after the move fails. -/
theorem endRun_moved {F : ApplicationError → DispatchSession → Prop} (quiet : ¬Fails app.fails phase)
    (failureClass : Option String) (status : Option FileStep) (counted : Bool) :
    Holds (Gone app w) (endRun app phase failureClass status counted) (fun _ => Ended app w) F := by
  apply Holds.assume fun _ gone => gone.1
  intro present
  exact (endRun_holds failureClass status counted).weaken (fun _ gone => gone.2) (fun _ _ ended => .inl ⟨present, ended⟩)
    fun _ _ failed => absurd failed quiet

theorem sourceLifecycleIntent_names {plan : CompiledRunPlan} {r : StageResultEnvelope} {intent : SourceLifecycleIntent}
    (found : sourceLifecycleIntentForStageResult plan r = .ok intent) :
    intent.workItemKind = some r.workItemKind ∧ intent.workItemId = r.workItemId := by
  unfold sourceLifecycleIntentForStageResult at found
  obtain ⟨stagePlan, -, found⟩ := bind_eq_ok.mp found
  -- each of the seven lookups and checks fails or goes on to the one intent
  repeat' split at found
  all_goals first
    | cases found
      exact ⟨rfl, rfl⟩
    | cases found

theorem compiledSourceLifecycleIntent_names {plan : CompiledRunPlan} {r : StageResultEnvelope}
    {expected : SourceLifecycleAction} {intent : SourceLifecycleIntent}
    (found : compiledSourceLifecycleIntent plan r expected = .ok intent) :
    intent.workItemKind = some r.workItemKind ∧ intent.workItemId = r.workItemId := by
  unfold compiledSourceLifecycleIntent at found
  obtain ⟨compiled, compiles, found⟩ := bind_eq_ok.mp found
  split at found
  · cases found
  · cases found
    exact sourceLifecycleIntent_names compiles

/-- The queue takes an intent for the item of the result where nothing fails after the move. -/
theorem applyLifecycleIntent_gone {after : Phase} {intent : SourceLifecycleIntent} {superseded : Bool}
    (quiet : ¬Fails app.fails after)
    (names : intent.workItemKind = some app.result.workItemKind ∧ intent.workItemId = app.result.workItemId) :
    Holds (Sees w) (applyLifecycleIntent app.fails superseded phase after intent) (fun _ => Gone app w)
      (fun _ => Sees w) :=
  (applyLifecycleIntent_holds names.1 names.2).weaken (fun _ sees => sees) (fun _ _ gone => gone)
    fun _ _ failed => failed.resolve_right fun late => quiet late.1

theorem markActiveWorkItem_holds (quiet : ¬Fails app.fails .ending) (expected : SourceLifecycleAction) :
    Holds (Sees w) (markActiveWorkItem app expected) (fun _ => Gone app w) (fun _ => Sees w) := by
  unfold markActiveWorkItem
  cases found : compiledSourceLifecycleIntent app.plan app.result expected with
  | error error => exact .throw fun _ sees => sees
  | ok intent => exact applyLifecycleIntent_gone quiet (compiledSourceLifecycleIntent_names found)

theorem applyIdleDecision_holds (quiet : ¬Fails app.fails .ending) :
    Holds (Sees w) (applyIdleDecision app) (fun _ => Ended app w) (fun _ => Sees w) := by
  unfold applyIdleDecision
  apply Holds.bind (markActiveWorkItem_holds quiet .complete)
  intro _
  exact endRun_moved quiet none (some .setStatus) true

/-- A step that keeps the view once the item is gone. -/
theorem Steady.gone {α : Type} {x : ApplicationM α} {F : ApplicationError → DispatchSession → Prop}
    (steady : Steady (Fails app.fails phase) x) (quiet : ¬Fails app.fails phase) :
    Holds (Gone app w) x (fun _ => Gone app w) F := by
  apply Holds.assume fun _ gone => gone.1
  intro present
  exact (steady (w.without app.result)).weaken (fun _ gone => gone.2) (fun _ _ sees => ⟨present, sees⟩)
    fun _ _ failed => absurd failed.1 quiet

theorem applyBlockedDecision_holds (quiet : ¬Fails app.fails .ending) (decision : RouterDecision) :
    Holds (Sees w) (applyBlockedDecision app decision) (fun _ => Ended app w) (fun _ => Sees w) := by
  unfold applyBlockedDecision
  apply Holds.bind (markActiveWorkItem_holds quiet .block)
  intro _
  apply Holds.bind (persistBlockedMetadataAndEvent_steady.gone quiet)
  intro _
  exact endRun_moved quiet decision.failureClass none true

theorem enqueueHandoffIncident_steady : Steady True (enqueueHandoffIncident app) := by
  unfold enqueueHandoffIncident
  apply Steady.bind (fileStep_steady.mono fun _ => trivial)
  intro _
  apply Steady.bind (enqueueDocument_steady (by decide))
  intro _
  exact fileStep_steady.mono fun _ => trivial

/-- What may fail while the item is where it was. -/
theorem Steady.early {α : Type} {condition : Prop} {x : ApplicationM α} (steady : Steady condition x) :
    Holds (Sees w) x (fun _ => Sees w) (fun _ => Sees w) :=
  (steady w).weaken (fun _ sees => sees) (fun _ _ sees => sees) fun _ _ failed => failed.2

theorem applyHandoffDecision_holds (quiet : ¬Fails app.fails .ending) (decision : RouterDecision) :
    Holds (Sees w) (applyHandoffDecision app decision) (fun _ => Ended app w) (fun _ => Sees w) := by
  unfold applyHandoffDecision
  apply Holds.ite
  · intro _
    apply Holds.bind enqueueHandoffIncident_steady.early
    intro _
    exact applyBlockedDecision_holds quiet decision
  · intro _
    exact applyBlockedDecision_holds quiet decision

/-! ## Closure targets and probes -/

theorem closureRun_ends (quiet : ¬Fails app.fails .ending) (closure : isClosureTargetStageResult app.result = true)
    (failureClass : Option String) (status : Option FileStep) :
    Holds (Sees w) (endClosureRun app failureClass status) (fun _ => Ended app w) (fun _ => Sees w) := by
  unfold endClosureRun
  apply Holds.bind ((endRun_holds failureClass status false).weaken (fun _ sees => sees) (fun _ _ sees => sees)
    fun _ _ failed => absurd failed quiet)
  intro _
  exact fileStep_holds.weaken (fun _ sees => sees) (fun _ _ sees => .inr ⟨closure, sees⟩)
    fun _ _ failed => absurd failed.1 quiet

/-- The repeated remediation of a closure ends the run of the planning plane, where closures are judged. -/
theorem blockRepeatedClosureRemediation_holds (quiet : ¬Fails app.fails .ending)
    (closure : isClosureTargetStageResult app.result = true) (planning : app.result.plane = .planning) :
    Holds (Sees w) (blockRepeatedClosureRemediation app) (fun _ => Ended app w) (fun _ => Sees w) := by
  unfold blockRepeatedClosureRemediation
  apply Holds.bind fileStep_steady.early
  intro _
  apply Holds.bind (clear_holds .planning (some "closure_repeated_remediation_without_execution"))
  intro _
  apply Holds.bind (concludeSnapshot_holds.weaken (fun _ sees => sees) (fun _ _ sees => sees)
    fun _ _ failed => absurd failed.1 quiet)
  intro _
  refine fileStep_holds.weaken (fun _ sees => sees) (fun _ s sees => .inr ⟨closure, ?_⟩)
    fun _ _ failed => absurd failed.1 quiet
  rw [planning]
  exact sees

theorem applyClosureTargetResult_holds (quiet : ¬Fails app.fails .ending)
    (closure : isClosureTargetStageResult app.result = true) (planning : app.result.plane = .planning)
    (decision : RouterDecision) :
    Holds (Sees w) (applyClosureTargetResult app decision) (fun _ => Ended app w) (fun _ => Sees w) := by
  unfold applyClosureTargetResult
  apply Holds.bind fileStep_steady.early
  intro _
  apply Holds.bind fileStep_steady.early
  intro _
  cases decision.action with
  | idle =>
    apply Holds.bind fileStep_steady.early
    intro _
    exact closureRun_ends quiet closure none (some .setStatus)
  | handoff =>
    apply Holds.bind fileStep_steady.early
    intro _
    apply Holds.bind fileStep_steady.early
    intro _
    apply Holds.ite
    · intro _
      exact blockRepeatedClosureRemediation_holds quiet closure planning
    · intro _
      apply Holds.ite
      · intro _
        apply Holds.bind enqueueHandoffIncident_steady.early
        intro _
        exact closureRun_ends quiet closure decision.failureClass none
      · intro _
        exact closureRun_ends quiet closure decision.failureClass none
  | blocked =>
    apply Holds.bind fileStep_steady.early
    intro _
    exact closureRun_ends quiet closure decision.failureClass none
  | runStage => exact .throw fun _ sees => sees

theorem persistReconPacket_steady : Steady True (persistReconPacket app) := by
  unfold persistReconPacket
  apply Steady.bind (fileStep_steady.mono fun _ => trivial)
  intro _
  exact fileStep_steady.mono fun _ => trivial

theorem enqueueGenerated_steady {kind : WorkItemKind} (other : kind ≠ .learningRequest) :
    Steady True (enqueueGenerated app kind) := by
  unfold enqueueGenerated
  apply Steady.bind (fileStep_steady.mono fun _ => trivial)
  intro _
  exact enqueueDocument_steady other

theorem applyReconRouterDecisionInner_holds (quiet : ¬Fails app.fails .ending) (decision : RouterDecision) :
    Holds (Sees w) (applyReconRouterDecisionInner app decision) (fun _ => Ended app w) (fun _ => Sees w) := by
  unfold applyReconRouterDecisionInner
  have refused : ∀ {test : Bool} {error : ApplicationError},
      Holds (Sees w) (refuse test error) (fun _ => Sees w) (fun _ => Sees w) :=
    refuse_holds.weaken (fun _ sees => sees) (fun _ _ passed => passed.2) fun _ _ sees => sees
  apply Holds.ite
  · intro _
    exact .throw fun _ sees => sees
  intro _
  apply Holds.ite
  · intro _
    apply Holds.bind refused
    intro _
    apply Holds.bind persistReconPacket_steady.early
    intro _
    apply Holds.ite
    · intro _
      apply Holds.bind (enqueueGenerated_steady (by decide)).early
      intro _
      exact applyIdleDecision_holds quiet
    · intro _
      apply Holds.ite
      · intro _
        apply Holds.bind (enqueueGenerated_steady (by decide)).early
        intro _
        exact applyIdleDecision_holds quiet
      · intro _
        exact applyIdleDecision_holds quiet
  · intro _
    apply Holds.ite
    · intro _
      apply Holds.bind refused
      intro _
      apply Holds.bind persistReconPacket_steady.early
      intro _
      exact applyBlockedDecision_holds quiet decision
    · intro _
      exact .throw fun _ sees => sees

theorem blockInvalidReconHandoff_holds (quiet : ¬Fails app.fails .fallbackEnding) :
    Holds (Sees w) (blockInvalidReconHandoff app) (fun _ => Ended app w) (fun _ => Sees w) := by
  unfold blockInvalidReconHandoff
  apply Holds.bind fileStep_steady.early
  intro _
  apply Holds.bind fileStep_steady.early
  intro _
  apply Holds.bind fileStep_steady.early
  intro _
  apply Holds.bind (applyLifecycleIntent_gone quiet ⟨rfl, rfl⟩)
  intro _
  apply Holds.bind (persistBlockedMetadataAndEvent_steady.gone quiet)
  intro _
  exact endRun_moved quiet (some "recon_handoff_invalid") none true

/-! ## Decisions -/

/-- Applying the decision ends the run. -/
def Ends (app : AppliedResult) (decision : RouterDecision) : Prop :=
  isClosureTargetStageResult app.result = true ∨ isReconStageResult app.result = true ∨ decision.action ≠ .runStage

/-- The run goes on at a stage, or has ended with its item gone. -/
def Decided (app : AppliedResult) (w : View) (decision : RouterDecision) (s : DispatchSession) : Prop :=
  Sees w s ∨ (Ends app decision ∧ Ended app w s)

theorem applyRouterDecision_holds (level : w.Level) (decision : RouterDecision)
    (planning : isClosureTargetStageResult app.result = true → app.result.plane = .planning)
    (quiet : Ends app decision → ¬Fails app.fails .ending ∧ ¬Fails app.fails .fallbackEnding) :
    Holds (Sees w) (applyRouterDecision app decision) (fun _ => Decided app w decision) (fun _ => Sees w) := by
  have cleared : Steady True (clearRuntimeErrorContextIfConsumed app) :=
    .ite (fun _ => fileStep_steady.mono fun _ => trivial) fun _ => .pure ()
  have decided : Ends app decision → ∀ {x : ApplicationM Unit}, Holds (Sees w) x (fun _ => Ended app w) (fun _ => Sees w) →
      Holds (Sees w) x (fun _ => Decided app w decision) (fun _ => Sees w) := fun ends _ holds =>
    holds.weaken (fun _ sees => sees) (fun _ _ ended => .inr ⟨ends, ended⟩) fun _ _ sees => sees
  unfold applyRouterDecision
  apply Holds.bind cleared.early
  intro _
  apply Holds.ite
  · intro closure
    have ends : Ends app decision := .inl closure
    exact decided ends (applyClosureTargetResult_holds (quiet ends).1 closure (planning closure) decision)
  intro _
  apply Holds.ite
  · intro recon
    have ends : Ends app decision := .inr (.inl recon)
    apply decided ends
    exact .tryCatch (applyReconRouterDecisionInner_holds (quiet ends).1 decision) fun _ =>
      blockInvalidReconHandoff_holds (quiet ends).2
  intro _
  have terminal : decision.action ≠ .runStage → Ends app decision := fun ends => .inr (.inr ends)
  cases action : decision.action with
  | runStage =>
    exact (applyRunStageDecision_holds level decision).weaken (fun _ sees => sees) (fun _ _ sees => .inl sees)
      fun _ _ sees => sees
  | idle =>
    have ends := terminal (by simp [action])
    exact decided ends (applyIdleDecision_holds (quiet ends).1)
  | handoff =>
    have ends := terminal (by simp [action])
    exact decided ends (applyHandoffDecision_holds (quiet ends).1 decision)
  | blocked =>
    have ends := terminal (by simp [action])
    exact decided ends (applyBlockedDecision_holds (quiet ends).1 decision)

end Endings

end Millrace.Application

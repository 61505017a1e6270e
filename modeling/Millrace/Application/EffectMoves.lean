import Millrace.Application.Views

/-! The runtime effect moves the item of its result or leaves every item where it is. -/

set_option autoImplicit false

namespace Millrace.Application
open Millrace.Text Millrace.Contracts Millrace.Action Millrace.Runtime
open Millrace.Queue (ItemState planeForBuiltinKind)

/-! ## Answers -/

section Effect
variable (app : AppliedResult)

def effectAnswer (rule : RuntimeEffectRule) : RuntimeEffectResult :=
  normalizeEffectFailurePhase (runPackagedHandler app.session app.result rule)

/-- A rule is selected whose answer hands the item to the queue. -/
def EffectMoves : Prop :=
  ∃ rule, selectedRuntimeEffectRule app.session app.result = .ok (some rule) ∧
    (effectPolicy app (effectAnswer app rule) rule).filter (·.action == "route_to_node") = none ∧
    missingCreatedPath app (effectAnswer app rule) = false ∧ (effectAnswer app rule).sourceLifecycleIntent.isSome

/-- A rule is selected whose handler serves another matching rule too. -/
def EffectAmbiguous : Prop :=
  ∃ rule, selectedRuntimeEffectRule app.session app.result = .ok (some rule) ∧
    1 < (destinationRules app (effectAnswer app rule)).length

variable {app}

/-- An answer moves nothing but the item of the result, and only when it asks for the item's end. -/
def HandsOver (r : StageResultEnvelope) (answer : RuntimeEffectResult) : Prop :=
  ∀ intent, answer.sourceLifecycleIntent = some intent →
    (intent.workItemKind = some r.workItemKind ∧ intent.workItemId = r.workItemId) ∧
      (answer.decision = .requestCompleteSource ∨ answer.decision = .requestBlockSource)

section Answers
variable {r : StageResultEnvelope} {rule : RuntimeEffectRule} {session : EffectSession}

theorem blockSourceResult_handsOver (handlerId failureClass message : String) :
    HandsOver r (blockSourceResult r handlerId rule failureClass message) := by
  intro intent handed
  cases handed
  exact ⟨⟨rfl, rfl⟩, .inr rfl⟩

theorem plannerContinues_handsOver (message : String) : HandsOver r (plannerContinues message) := by
  intro intent handed
  cases handed

theorem emittedChildSpecs_handsOver (emitted : List String) :
    HandsOver r (emittedChildSpecs session r rule emitted) := by
  unfold emittedChildSpecs
  split
  · exact blockSourceResult_handsOver _ _ _
  · split
    · intro intent handed
      cases handed
      exact ⟨⟨rfl, rfl⟩, .inl rfl⟩
    · exact blockSourceResult_handsOver _ _ _

theorem plannerAnswer_handsOver (d : PlannerDispositionDocument) : HandsOver r (plannerAnswer session r rule d) := by
  unfold plannerAnswer
  split
  · split
    · exact blockSourceResult_handsOver _ _ _
    · exact plannerContinues_handsOver _
  · split
    · split
      · exact plannerContinues_handsOver _
      · exact blockSourceResult_handsOver _ _ _
    · split
      · exact emittedChildSpecs_handsOver _
      · exact blockSourceResult_handsOver _ _ _

theorem plannerDisposition_handsOver : HandsOver r (plannerDisposition session r rule) := by
  unfold plannerDisposition
  split
  · exact blockSourceResult_handsOver _ _ _
  · exact blockSourceResult_handsOver _ _ _
  · split
    · exact blockSourceResult_handsOver _ _ _
    · split
      · exact blockSourceResult_handsOver _ _ _
      · exact plannerAnswer_handsOver _

theorem blueprintFailure_handsOver (handlerId failureClass message : String) (createdPaths : List String)
    (sourceKnown : Bool) :
    HandsOver r (blueprintFailure r handlerId failureClass message createdPaths sourceKnown) := by
  intro intent handed
  cases sourceKnown with
  | false => cases handed
  | true =>
    cases handed
    exact ⟨⟨rfl, rfl⟩, .inr rfl⟩

theorem blueprintAnswer_handsOver (answer : BlueprintAnswer) : HandsOver r (answer.result r) := by
  cases answer with
  | draftsQueued createdPaths message sourceActive =>
    intro intent handed
    cases sourceActive with
    | false => cases handed
    | true =>
      cases handed
      exact ⟨⟨rfl, rfl⟩, .inl rfl⟩
  | draftsRefused failureClass message createdPaths sourceKnown => exact blueprintFailure_handsOver _ _ _ _ _
  | candidatePersisted createdPaths message =>
    intro intent handed
    cases handed
  | approved createdPaths message =>
    dsimp only [BlueprintAnswer.result]
    split
    next other => exact blueprintFailure_handsOver _ _ _ _ _
    next draft =>
      intro intent handed
      cases handed
      exact ⟨⟨congrArg some (not_not.mp draft).symm, rfl⟩, .inl rfl⟩
  | rejectionRecorded createdPaths message =>
    intro intent handed
    cases handed
  | refused handlerId failureClass message createdPaths => exact blueprintFailure_handsOver _ _ _ _ _

theorem normalizeEffectFailurePhase_handsOver {answer : RuntimeEffectResult} (handsOver : HandsOver r answer) :
    HandsOver r (normalizeEffectFailurePhase answer) := by
  unfold normalizeEffectFailurePhase
  split
  · exact handsOver
  · exact handsOver

theorem effectAnswer_handsOver : HandsOver app.result (effectAnswer app rule) := by
  apply normalizeEffectFailurePhase_handsOver
  unfold runPackagedHandler
  cases answered : app.session.blueprintHandler app.result rule with
  | some answer =>
    obtain ⟨answer', -, rfl⟩ := Option.map_eq_some_iff.mp answered
    exact blueprintAnswer_handsOver answer'
  | none =>
    dsimp only
    split
    · exact plannerDisposition_handsOver
    · exact blockSourceResult_handsOver _ _ _

end Answers

/-! ## Applying an answer -/

theorem liftEffect_holds {α : Type} {P : DispatchSession → Prop} (outcome : EffectOutcome α) :
    Holds P (liftEffect outcome) (fun a s => outcome = .ok a ∧ P s) (fun _ => P) := by
  cases outcome with
  | error error => exact .throw fun _ holds => holds
  | ok a => exact .pure fun _ holds => ⟨rfl, holds⟩

theorem recordEffect_steady (app : AppliedResult) : Steady (Fails app.fails .effectWritten) (recordEffect app) := by
  unfold recordEffect
  apply Steady.bind fileStep_steady
  intro _
  apply Steady.bind fileStep_steady
  intro _
  exact fileStep_steady

theorem runHandler_holds {w : View} {rule : RuntimeEffectRule} :
    Holds (Sees w) (runHandler app rule) (fun answer s => answer = effectAnswer app rule ∧ Sees w s)
      (fun _ => Sees w) := by
  unfold runHandler
  apply Holds.bind (fileStep_holds.weaken (fun _ sees => sees) (fun _ _ sees => sees) fun _ _ failed => failed.2)
  intro _
  apply Holds.bind (R := _)
  · apply Holds.forM
    intro document handled
    exact .modify fun s sees => sees.add (by decide) fun learning =>
      absurd learning (app.noLearningRequest document handled)
  · intro _
    exact .pure fun _ sees => ⟨rfl, sees⟩

section Routed
variable {w : View} {rule : RuntimeEffectRule} {routed : RouterDecision}

/-- The item of the result has left its active directory. -/
def Gone (app : AppliedResult) (w : View) (s : DispatchSession) : Prop :=
  Moved w app.result.workItemKind app.result.workItemId s

/-- The effect's outcome: the decision that replaces the router's, with the item moved or not. -/
def EffectApplied (app : AppliedResult) (w : View) (routed : RouterDecision) (application : RuntimeEffectApplication)
    (s : DispatchSession) : Prop :=
  (application.sourceLifecycleApplied = false ∧
    Runtime.applyRuntimeEffectForStageResult app.session app.result routed = .ok application ∧ Sees w s) ∨
  (application.sourceLifecycleApplied = true ∧
    (application.routerDecision.action = .idle ∨ application.routerDecision.action = .blocked) ∧
    EffectMoves app ∧ Gone app w s)

/-- The effect failed before the move, or after it. -/
def EffectFailed (app : AppliedResult) (w : View) (s : DispatchSession) : Prop :=
  Sees w s ∨ (EffectMoves app ∧ (Fails app.fails .effectWritten ∨ EffectAmbiguous app))

theorem effect_of_rule (selected : selectedRuntimeEffectRule app.session app.result = .ok (some rule))
    (routed : RouterDecision) :
    Runtime.applyRuntimeEffectForStageResult app.session app.result routed =
      Runtime.applyEffectAnswer app.session app.result (effectAnswer app rule)
        (effectPolicy app (effectAnswer app rule) rule) routed := by
  unfold Runtime.applyRuntimeEffectForStageResult
  rw [selected]
  rfl

/-- A policy routes to a node, and the item stays where it is. -/
theorem applyEffectAnswer_routes (selected : selectedRuntimeEffectRule app.session app.result = .ok (some rule))
    {policy : RuntimeFailurePolicyInterpretation}
    (routes : (effectPolicy app (effectAnswer app rule) rule).filter (·.action == "route_to_node") = some policy) :
    Holds (Sees w) (applyEffectAnswer app (effectAnswer app rule) (effectPolicy app (effectAnswer app rule) rule) routed)
      (EffectApplied app w routed) (fun _ => EffectFailed app w) := by
  have applied := effect_of_rule selected routed
  unfold Runtime.applyEffectAnswer at applied
  unfold applyEffectAnswer
  simp only [routes] at applied ⊢
  apply Holds.bind ((liftEffect_holds _).weaken (fun _ sees => sees) (fun _ _ lifted => lifted) fun _ _ sees => .inl sees)
  intro decision
  apply Holds.assume fun _ lifted => lifted.1
  intro found
  apply Holds.given (A := Sees w) fun _ lifted => lifted.2
  rw [found] at applied
  apply Holds.bind ((recordEffect_steady app w).weaken (fun _ sees => sees) (fun _ _ sees => sees) fun _ _ failed => .inl failed.2)
  intro _
  exact .pure fun _ sees => .inl ⟨rfl, applied, sees⟩

theorem spawnedPathsForEffect_steady (selected : selectedRuntimeEffectRule app.session app.result = .ok (some rule)) :
    Steady (EffectAmbiguous app) (spawnedPathsForEffect app (effectAnswer app rule)) :=
  refuse_steady fun many => ⟨rule, selected, by simpa using many⟩

/-- The answer hands over no item that the queue takes. -/
theorem applyEffectAnswer_stays (selected : selectedRuntimeEffectRule app.session app.result = .ok (some rule))
    (routes : (effectPolicy app (effectAnswer app rule) rule).filter (·.action == "route_to_node") = none)
    (stays : (effectAnswer app rule).sourceLifecycleIntent = none)
    (written : missingCreatedPath app (effectAnswer app rule) = false) :
    Holds (Sees w) (applyEffectAnswer app (effectAnswer app rule) (effectPolicy app (effectAnswer app rule) rule) routed)
      (EffectApplied app w routed) (fun _ => EffectFailed app w) := by
  have applied := effect_of_rule selected routed
  unfold Runtime.applyEffectAnswer at applied
  have answered : Runtime.applyRuntimeEffectResult app.session (effectAnswer app rule) =
      .ok (effectAnswer app rule) := by
    refine (if_neg (Bool.eq_false_iff.mp written)).trans ?_
    rw [stays]
  have answers : applyRuntimeEffectResult app (effectAnswer app rule) = pure (effectAnswer app rule) := by
    unfold applyRuntimeEffectResult
    rw [if_neg (Bool.eq_false_iff.mp written), stays]
  unfold applyEffectAnswer
  simp only [routes, answered, answers, ok_bind, pure_bind] at applied ⊢
  apply Holds.bind ((spawnedPathsForEffect_steady selected w).weaken (fun _ sees => sees) (fun _ _ sees => sees)
    fun _ _ failed => .inl failed.2)
  intro _
  have record := (recordEffect_steady app w).weaken (fun _ sees => sees) (fun _ _ sees => sees)
    (E := fun _ => EffectFailed app w) fun _ _ failed => .inl failed.2
  cases decided : (effectAnswer app rule).decision with
  | continueRoute =>
    rw [decided] at applied
    dsimp only at applied ⊢
    apply Holds.bind ((liftEffect_holds _).weaken (fun _ sees => sees) (fun _ _ lifted => lifted)
      fun _ _ sees => .inl sees)
    intro decision
    apply Holds.assume fun _ lifted => lifted.1
    intro found
    apply Holds.given (A := Sees w) fun _ lifted => lifted.2
    rw [found] at applied
    apply Holds.bind record
    intro _
    exact .pure fun _ sees => .inl ⟨rfl, applied, sees⟩
  | requestCompleteSource =>
    rw [decided] at applied
    apply Holds.bind record
    intro _
    exact .pure fun _ sees => .inl ⟨by rw [stays]; rfl, applied, sees⟩
  | requestBlockSource =>
    rw [decided] at applied
    apply Holds.bind record
    intro _
    exact .pure fun _ sees => .inl ⟨by rw [stays]; rfl, applied, sees⟩
  | retryRecovery => exact .throw fun _ sees => .inl sees

/-- A path that the handler says it created is not there. -/
theorem applyEffectAnswer_missing
    (routes : (effectPolicy app (effectAnswer app rule) rule).filter (·.action == "route_to_node") = none)
    (missing : missingCreatedPath app (effectAnswer app rule) = true) :
    Holds (Sees w) (applyEffectAnswer app (effectAnswer app rule) (effectPolicy app (effectAnswer app rule) rule) routed)
      (EffectApplied app w routed) (fun _ => EffectFailed app w) := by
  unfold applyEffectAnswer applyRuntimeEffectResult
  simp only [routes, if_pos missing, bind_assoc, pure_bind]
  apply Holds.bind (fileStep_holds.weaken (fun _ sees => sees) (fun _ _ sees => sees) fun _ _ failed => .inl failed.2)
  intro _
  apply Holds.bind (refuse_holds.weaken (fun _ sees => sees) (fun _ _ passed => passed.2) fun _ _ sees => .inl sees)
  intro _
  exact .throw fun _ sees => .inl sees

/-- The answer hands the item over. -/
theorem applyEffectAnswer_moves (selected : selectedRuntimeEffectRule app.session app.result = .ok (some rule))
    (routes : (effectPolicy app (effectAnswer app rule) rule).filter (·.action == "route_to_node") = none)
    (written : missingCreatedPath app (effectAnswer app rule) = false) {intent : SourceLifecycleIntent}
    (handed : (effectAnswer app rule).sourceLifecycleIntent = some intent) :
    Holds (Sees w) (applyEffectAnswer app (effectAnswer app rule) (effectPolicy app (effectAnswer app rule) rule) routed)
      (EffectApplied app w routed) (fun _ => EffectFailed app w) := by
  obtain ⟨⟨named, same⟩, asked⟩ := effectAnswer_handsOver intent handed
  have moves : EffectMoves app := ⟨rule, selected, routes, written, by rw [handed]; rfl⟩
  have move : Holds (Sees w) (applyRuntimeEffectResult app (effectAnswer app rule))
      (fun answer s => answer = effectAnswer app rule ∧ Gone app w s) (fun _ => EffectFailed app w) := by
    unfold applyRuntimeEffectResult
    rw [if_neg (Bool.eq_false_iff.mp written), handed]
    apply Holds.bind ((applyLifecycleIntent_holds named same).weaken (fun _ sees => sees) (fun _ _ gone => gone)
      fun _ _ failed => failed.imp id fun late => ⟨moves, .inl late.1⟩)
    intro _
    exact .pure fun _ gone => ⟨rfl, gone⟩
  unfold applyEffectAnswer
  simp only [routes]
  apply Holds.bind move
  intro answer
  apply Holds.assume fun _ moved => And.intro moved.1 moved.2.1
  rintro ⟨rfl, present⟩
  apply Holds.given (A := Sees (w.moved app.result.workItemKind app.result.workItemId)) fun _ moved => moved.2.2
  apply Holds.bind ((spawnedPathsForEffect_steady selected _).weaken (fun _ sees => sees) (fun _ _ sees => sees)
    fun _ _ failed => .inr ⟨moves, .inr failed.1⟩)
  intro _
  have record := (recordEffect_steady app (w.moved app.result.workItemKind app.result.workItemId)).weaken
    (fun _ sees => sees) (fun _ _ sees => sees) (E := fun _ => EffectFailed app w)
    fun _ _ failed => .inr ⟨moves, .inl failed.1⟩
  rcases asked with complete | block
  · rw [complete]
    apply Holds.bind record
    intro _
    refine .pure fun _ sees => .inr ⟨by rw [handed]; rfl, .inl ?_, moves, present, sees⟩
    unfold routerDecisionForEffect
    rw [complete]
    rfl
  · rw [block]
    apply Holds.bind record
    intro _
    refine .pure fun _ sees => .inr ⟨by rw [handed]; rfl, .inr ?_, moves, present, sees⟩
    unfold routerDecisionForEffect
    rw [block]
    rfl

theorem applyRuntimeEffectForStageResult_holds :
    Holds (Sees w) (applyRuntimeEffectForStageResult app routed) (EffectApplied app w routed)
      (fun _ => EffectFailed app w) := by
  unfold applyRuntimeEffectForStageResult
  apply Holds.bind ((liftEffect_holds _).weaken (fun _ sees => sees) (fun _ _ lifted => lifted) fun _ _ sees => .inl sees)
  intro selection
  apply Holds.assume fun _ lifted => lifted.1
  intro selected
  apply Holds.given (A := Sees w) fun _ lifted => lifted.2
  cases selection with
  | none =>
    refine .pure fun _ sees => .inl ⟨rfl, ?_, sees⟩
    unfold Runtime.applyRuntimeEffectForStageResult
    rw [selected]
    rfl
  | some rule =>
    apply Holds.bind (fileStep_holds.weaken (fun _ sees => sees) (fun _ _ sees => sees) fun _ _ failed => .inl failed.2)
    intro _
    apply Holds.bind (runHandler_holds.weaken (fun _ sees => sees) (fun _ _ answered => answered) fun _ _ sees => .inl sees)
    intro answer
    apply Holds.assume fun _ answered => answered.1
    rintro rfl
    apply Holds.given (A := Sees w) fun _ answered => answered.2
    cases routes : (effectPolicy app (effectAnswer app rule) rule).filter (·.action == "route_to_node") with
    | some policy => exact applyEffectAnswer_routes selected routes
    | none =>
      cases written : missingCreatedPath app (effectAnswer app rule) with
      | true => exact applyEffectAnswer_missing routes written
      | false =>
        cases handed : (effectAnswer app rule).sourceLifecycleIntent with
        | none => exact applyEffectAnswer_stays selected routes handed written
        | some intent => exact applyEffectAnswer_moves selected routes written handed

end Routed

end Effect

end Millrace.Application

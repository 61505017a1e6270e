import Millrace.Application.Dispatch

/-! The snapshot's runs and the active documents while single operations run, and while an item is moved. -/

set_option autoImplicit false

namespace Millrace.Application
open Millrace.Text Millrace.Contracts Millrace.Action Millrace.Runtime
open Millrace.Queue (ItemState planeForBuiltinKind)

/-! ## Runs and documents -/

/-- What a run works on. -/
inductive RunWork where
  | rootSpec
  | item (kind : WorkItemKind) (id : String)
  | nothing
  deriving DecidableEq, Repr

/-- The plane of a run and its work, which a change of stage keeps. -/
structure RunShape where
  plane : Plane
  work : RunWork
  deriving DecidableEq, Repr

def RunWork.plane : RunWork → Option Plane
  | .rootSpec => some .planning
  | .item kind _ => some (planeForBuiltinKind kind)
  | .nothing => none

def runWork (run : ActiveRunState) : RunWork :=
  if run.requestKind = .closureTarget then .rootSpec
  else
    match queueItem run with
    | some (kind, id) => .item kind id
    | none => .nothing

def runShape (run : ActiveRunState) : RunShape := ⟨run.plane, runWork run⟩

def shapes (snapshot : RuntimeSnapshot) : Plane → Option RunShape :=
  fun plane => (snapshot.activeRunsByPlane plane).map runShape

def activeItems (documents : Documents) : WorkItemKind → List String := fun kind => documents kind .active

theorem queueItem_eq_some {run : ActiveRunState} {kind : WorkItemKind} {id : String} :
    queueItem run = some (kind, id) ↔ runWork run = .item kind id := by
  unfold runWork
  by_cases closure : run.requestKind = .closureTarget
  · simp [queueItem, closure]
  · rw [if_neg closure]
    cases item : queueItem run with
    | none => simp
    | some found =>
      obtain ⟨kind', id'⟩ := found
      simp

/-! ## The views that an application keeps -/

/-- What is tracked of a session: the runs in memory and on disk, the active items, the items that must not be lost
and the identifiers that no learning request has yet. -/
structure View where
  runs : Plane → Option RunShape
  saved : Plane → Option RunShape
  active : WorkItemKind → List String
  kept : WorkItemKind → List String
  fresh : List String

structure Sees (w : View) (s : DispatchSession) : Prop where
  runs : shapes s.snapshot = w.runs
  saved : shapes s.saved = w.saved
  active : activeItems s.documents = w.active
  kept : ∀ kind id, id ∈ w.kept kind → ∃ state, id ∈ s.documents kind state
  fresh : ∀ id ∈ w.fresh, ∀ state, id ∉ s.documents .learningRequest state

/-- Some operation of this part of the application fails. -/
def Fails (fails : Phase → FileStep → Option String) (phase : Phase) : Prop := ∃ step, fails phase step ≠ none

/-- The computation keeps every view, and fails only where the condition holds. -/
def Steady {α : Type} (condition : Prop) (x : ApplicationM α) : Prop :=
  ∀ w, Holds (Sees w) x (fun _ => Sees w) (fun _ s => condition ∧ Sees w s)

namespace Steady
variable {α β : Type} {condition : Prop}

theorem pure (a : α) : Steady condition (Pure.pure a : ApplicationM α) := fun _ => .pure fun _ sees => sees

theorem throw {error : ApplicationError} (holds : condition) :
    Steady condition (MonadExcept.throw error : ApplicationM α) := fun _ => .throw fun _ sees => ⟨holds, sees⟩

theorem bind {x : ApplicationM α} {f : α → ApplicationM β} (first : Steady condition x)
    (rest : ∀ a, Steady condition (f a)) : Steady condition (x >>= f) := fun w => .bind (first w) fun a => rest a w

theorem ite {test : Prop} [Decidable test] {x y : ApplicationM α} (yes : test → Steady condition x)
    (no : ¬test → Steady condition y) : Steady condition (if test then x else y) :=
  fun w => .ite (fun holds => yes holds w) fun fails => no fails w

theorem mono {condition' : Prop} {x : ApplicationM α} (steady : Steady condition' x) (entails : condition' → condition) :
    Steady condition x :=
  fun w => (steady w).weaken (fun _ sees => sees) (fun _ _ sees => sees) fun _ _ ⟨holds, sees⟩ => ⟨entails holds, sees⟩

theorem forM {f : β → ApplicationM PUnit} (l : List β) (each : ∀ b ∈ l, Steady condition (f b)) :
    Steady condition (l.forM f) := by
  induction l with
  | nil => exact pure PUnit.unit
  | cons b rest ih =>
    exact bind (each b List.mem_cons_self) fun _ => ih fun x member => each x (List.mem_cons_of_mem _ member)

/-- What the view does not track may change. -/
theorem modify {f : DispatchSession → DispatchSession} (keeps : ∀ w s, Sees w s → Sees w (f s)) :
    Steady condition (modify f : ApplicationM PUnit) := fun w => .modify fun s sees => keeps w s sees

end Steady

section Parts
variable {fails : Phase → FileStep → Option String} {phase : Phase} {step : FileStep} {condition : Prop}

theorem fileStep_steady : Steady (Fails fails phase) (fileStep fails phase step) := by
  unfold fileStep
  cases failure : fails phase step with
  | none => exact .pure ()
  | some message => exact .throw ⟨step, by simp [failure]⟩

theorem refuse_steady {test : Bool} {error : ApplicationError} (entails : test = true → condition) :
    Steady condition (refuse test error) := .ite (fun holds => .throw (entails holds)) fun _ => .pure ()

theorem shapes_project (snapshot : RuntimeSnapshot) : shapes (projectForegroundActiveRun snapshot) = shapes snapshot := by
  unfold projectForegroundActiveRun
  cases foregroundActiveRun snapshot with
  | none => rfl
  | some run => rfl

theorem modifySnapshot_steady {f : RuntimeSnapshot → RuntimeSnapshot}
    (keeps : ∀ snapshot, shapes (f snapshot) = shapes snapshot) : Steady condition (modifySnapshot f) :=
  .modify fun _ s sees => ⟨(keeps s.snapshot).trans sees.runs, sees.saved, sees.active, sees.kept, sees.fresh⟩

theorem get_steady : Steady condition (get : ApplicationM DispatchSession) := fun _ => .get fun _ sees => sees

/-! ## The queue -/

section Documents
variable {w : View} {s : DispatchSession} {documents : Documents} {kind : WorkItemKind} {state : ItemState} {id : String}

theorem activeItems_add (elsewhere : state ≠ .active) :
    activeItems (documents.add kind state id) = activeItems documents := by
  funext kind'
  unfold activeItems Documents.add
  rw [if_neg fun ⟨_, same⟩ => elsewhere same.symm]

theorem remove_add (elsewhere : state ≠ .active) : (documents.remove kind .active id).add kind state id =
    (documents.add kind state id).remove kind .active id := by
  funext kind' state'
  by_cases here : kind' = kind ∧ state' = .active
  · have other : ¬(kind' = kind ∧ state' = state) := fun ⟨_, same⟩ => elsewhere (same.symm.trans here.2)
    simp only [Documents.add, Documents.remove, if_pos here, if_neg other]
  · by_cases there : kind' = kind ∧ state' = state
    · simp only [Documents.add, Documents.remove, if_pos there, if_neg here]
    · simp only [Documents.add, Documents.remove, if_neg there, if_neg here]

theorem Sees.add (sees : Sees w s) (elsewhere : state ≠ .active) (new : kind = .learningRequest → id ∉ w.fresh) :
    Sees w { s with documents := s.documents.add kind state id } where
  runs := sees.runs
  saved := sees.saved
  active := (activeItems_add elsewhere).trans sees.active
  kept := fun kind' id' present => by
    obtain ⟨state', there⟩ := sees.kept kind' id' present
    exact ⟨state', Documents.mem_add.mpr (.inl there)⟩
  fresh := fun id' awaited state' present => by
    rcases Documents.mem_add.mp present with there | ⟨same, -, rfl⟩
    · exact sees.fresh id' awaited state' there
    · exact new same.symm awaited

/-- The view once an item has left its active directory. -/
def View.moved (w : View) (kind : WorkItemKind) (id : String) : View :=
  { w with active := fun kind' => if kind' = kind then (w.active kind').filter (· ≠ id) else w.active kind' }

/-- A document goes from one directory, its item is still in another. -/
theorem Sees.still_kept (sees : Sees w s) (elsewhere : ∃ state', state' ≠ state ∧ id ∈ s.documents kind state')
    (kind' : WorkItemKind) (id' : String) (present : id' ∈ w.kept kind') :
    ∃ state', id' ∈ s.documents.remove kind state id kind' state' := by
  by_cases here : kind' = kind ∧ id' = id
  · obtain ⟨state', other, there⟩ := elsewhere
    rw [here.1, here.2]
    exact ⟨state', Documents.mem_remove.mpr ⟨there, fun ⟨_, same, _⟩ => other same⟩⟩
  · obtain ⟨state', there⟩ := sees.kept kind' id' present
    exact ⟨state', Documents.mem_remove.mpr ⟨there, fun ⟨sameKind, _, sameId⟩ => here ⟨sameKind, sameId⟩⟩⟩

theorem Sees.remove_active (sees : Sees w s) (elsewhere : ∃ state, state ≠ .active ∧ id ∈ s.documents kind state) :
    Sees (w.moved kind id) { s with documents := s.documents.remove kind .active id } where
  runs := sees.runs
  saved := sees.saved
  active := by
    rw [View.moved, ← sees.active]
    funext kind'
    by_cases same : kind' = kind <;> simp [activeItems, Documents.remove, same]
  kept := sees.still_kept elsewhere
  fresh := fun id' awaited state' present => sees.fresh id' awaited state' (Documents.mem_remove.mp present).1

theorem Sees.remove_other (sees : Sees w s) (inactive : state ≠ .active)
    (elsewhere : ∃ state', state' ≠ state ∧ id ∈ s.documents kind state') :
    Sees w { s with documents := s.documents.remove kind state id } where
  runs := sees.runs
  saved := sees.saved
  active := by
    rw [← sees.active]
    funext kind'
    exact if_neg fun ⟨_, same⟩ => inactive same.symm
  kept := sees.still_kept elsewhere
  fresh := fun id' awaited state' present => sees.fresh id' awaited state' (Documents.mem_remove.mp present).1

/-- The item has left its active directory. -/
def Moved (w : View) (kind : WorkItemKind) (id : String) (s : DispatchSession) : Prop :=
  id ∈ w.active kind ∧ Sees (w.moved kind id) s

theorem Sees.mem_active (sees : Sees w s) : id ∈ s.documents kind .active ↔ id ∈ w.active kind := by
  rw [← sees.active]
  exact Iff.rfl

theorem Sees.not_fresh (sees : Sees w s) (present : id ∈ w.active kind) : kind = .learningRequest → id ∉ w.fresh := by
  intro learning awaited
  subst learning
  exact sees.fresh id awaited .active (sees.mem_active.mpr present)

end Documents

theorem fileStep_holds {P : DispatchSession → Prop} :
    Holds P (fileStep fails phase step) (fun _ => P) (fun _ s => Fails fails phase ∧ P s) := by
  unfold fileStep
  cases failure : fails phase step with
  | none => exact .pure fun _ holds => holds
  | some message => exact .throw fun _ holds => ⟨⟨step, by simp [failure]⟩, holds⟩

theorem refuse_holds {P : DispatchSession → Prop} {test : Bool} {error : ApplicationError} :
    Holds P (refuse test error) (fun _ s => test = false ∧ P s) (fun _ => P) := by
  unfold refuse
  apply Holds.ite
  · intro _
    exact .throw fun _ holds => holds
  · intro passes
    exact .pure fun _ holds => ⟨Bool.eq_false_iff.mpr passes, holds⟩

theorem Sees.fewer {w : View} {s : DispatchSession} (sees : Sees w s) {fresh : List String}
    (subset : ∀ id ∈ fresh, id ∈ w.fresh) : Sees { w with fresh := fresh } s :=
  ⟨sees.runs, sees.saved, sees.active, sees.kept, fun id awaited => sees.fresh id (subset id awaited)⟩

theorem enqueueDocument_holds {w : View} {kind : WorkItemKind} {id : String}
    (new : kind = .learningRequest → id ∉ w.fresh) :
    Holds (Sees w) (enqueueDocument fails phase kind id) (fun _ => Sees w) (fun _ => Sees w) := by
  unfold enqueueDocument
  apply Holds.bind (Q := fun _ => Sees w) (.get fun _ sees => sees)
  intro s
  apply Holds.bind (refuse_holds.weaken (fun _ sees => sees) (fun _ _ passed => passed.2) fun _ _ sees => sees)
  intro _
  apply Holds.bind (fileStep_holds.weaken (fun _ sees => sees) (fun _ _ sees => sees) fun _ _ failed => failed.2)
  intro _
  exact .modify fun s sees => sees.add (by decide) new

theorem enqueueDocument_steady {kind : WorkItemKind} {id : String} (other : kind ≠ .learningRequest) :
    Steady True (enqueueDocument fails phase kind id) := fun _ =>
  (enqueueDocument_holds fun learning => absurd learning other).weaken (fun _ sees => sees) (fun _ _ sees => sees)
    fun _ _ sees => ⟨trivial, sees⟩

/-- A learning request whose identifier no document has is enqueued unless an operation fails. -/
theorem enqueueDocument_new {w : View} {id : String} {rest : List String} (fresh : w.fresh = id :: rest)
    (once : id ∉ rest) :
    Holds (Sees w) (enqueueDocument fails phase .learningRequest id) (fun _ => Sees { w with fresh := rest })
      (fun _ _ => Fails fails phase) := by
  unfold enqueueDocument
  apply Holds.bind (Q := fun s₀ s => s = s₀ ∧ Sees w s) (.get fun _ sees => ⟨rfl, sees⟩)
  intro s₀
  apply Holds.assume (C := [ItemState.queue, .active, .done, .blocked].any
    (fun state => (s₀.documents .learningRequest state).contains id) = false)
  · rintro s ⟨rfl, sees⟩
    have absent := sees.fresh id (by rw [fresh]; exact List.mem_cons_self)
    simp [absent]
  intro unused
  dsimp only
  rw [unused]
  apply Holds.given (A := Sees w) fun _ start => start.2
  apply Holds.bind (fileStep_holds.weaken (fun _ sees => sees) (fun _ _ sees => sees) fun _ _ failed => failed.1)
  intro _
  apply Holds.modify
  intro s sees
  have fewer : Sees { w with fresh := rest } s := sees.fewer fun id' awaited => by
    rw [fresh]
    exact List.mem_cons_of_mem _ awaited
  exact fewer.add (by decide) fun _ => once

section Move
variable {w : View} {kind : WorkItemKind} {id : String} {superseded : Bool} {after : Phase}

/-- Only a duplicate of a task that is done is retired. -/
theorem retire_holds :
    Holds (fun s => Moved w .task id s ∧ id ∈ s.documents .task .done)
      (retireStaleBlockedTaskDuplicateAfterDone fails superseded phase id) (fun _ => Moved w .task id)
      (fun _ s => Fails fails phase ∧ Moved w .task id s) := by
  unfold retireStaleBlockedTaskDuplicateAfterDone
  apply Holds.bind (.get fun _ start => start)
  intro _
  apply Holds.ite
  · intro _
    apply Holds.bind (fileStep_holds.weaken (fun _ start => start) (fun _ _ kept => kept) fun _ _ failed =>
      ⟨failed.1, failed.2.1⟩)
    intro _
    exact .modify fun s ⟨⟨present, sees⟩, done⟩ =>
      ⟨present, sees.remove_other (by decide) ⟨.done, by decide, done⟩⟩
  · intro _
    exact .pure fun _ start => start.1

theorem lifecycleDestination_ne_active (action : SourceLifecycleAction) : lifecycleDestination action ≠ .active := by
  cases action <;> decide

/-- The move of an active item fails before it, or in what follows it. -/
def MoveFailed (fails : Phase → FileStep → Option String) (after : Phase) (w : View) (kind : WorkItemKind) (id : String)
    (s : DispatchSession) : Prop := Sees w s ∨ (Fails fails after ∧ Moved w kind id s)

theorem writeDraft_holds {destination : ItemState} (inactive : destination ≠ .active) (present : id ∈ w.active kind) :
    Holds (Sees w) (modifyDocuments fun documents => documents.add kind destination id)
      (fun _ s => Sees w s ∧ id ∈ s.documents kind destination) (fun _ => Sees w) :=
  .modify fun _ sees => ⟨sees.add inactive (sees.not_fresh present), Documents.mem_add.mpr (.inr ⟨rfl, rfl, rfl⟩)⟩

theorem renameDocument_holds {destination : ItemState} (inactive : destination ≠ .active) (present : id ∈ w.active kind) :
    Holds (Sees w) (modifyDocuments fun documents => (documents.remove kind .active id).add kind destination id)
      (fun _ s => Moved w kind id s ∧ id ∈ s.documents kind destination) (fun _ => Sees w) := by
  apply Holds.modify
  intro s sees
  have written := sees.add inactive (sees.not_fresh present)
  have there : id ∈ s.documents.add kind destination id kind destination := Documents.mem_add.mpr (.inr ⟨rfl, rfl, rfl⟩)
  have removed := written.remove_active ⟨destination, inactive, there⟩
  dsimp only
  rw [remove_add inactive]
  exact ⟨⟨present, removed⟩, Documents.mem_remove.mpr ⟨there, fun ⟨_, same, _⟩ => inactive same⟩⟩

theorem moveActiveItem_holds (action : SourceLifecycleAction) :
    Holds (Sees w) (moveActiveItem fails superseded phase after kind action id) (fun _ => Moved w kind id)
      (fun _ => MoveFailed fails after w kind id) := by
  have inactive := lifecycleDestination_ne_active action
  have early : ∀ (error : ApplicationError) s, Fails fails phase ∧ Sees w s → MoveFailed fails after w kind id s :=
    fun _ _ failed => .inl failed.2
  unfold moveActiveItem
  apply Holds.bind (Q := fun s₀ s => s = s₀ ∧ Sees w s) (.get fun _ sees => ⟨rfl, sees⟩)
  intro s₀
  apply Holds.bind (refuse_holds.weaken (fun _ start => start) (fun _ _ passed => passed) fun _ _ refused => .inl refused.2)
  intro _
  apply Holds.assume (C := id ∈ w.active kind)
  · rintro s ⟨passed, rfl, sees⟩
    exact sees.mem_active.mp (by simpa using passed)
  intro present
  apply Holds.given (A := Sees w) fun _ passed => passed.2.2
  apply Holds.ite
  -- a draft is written anew before the active one goes
  · intro _
    apply Holds.bind (refuse_holds.weaken (fun _ sees => sees) (fun _ _ passed => passed.2) fun _ _ sees => .inl sees)
    intro _
    apply Holds.bind (fileStep_holds.weaken (fun _ sees => sees) (fun _ _ sees => sees) early)
    intro _
    apply Holds.bind ((writeDraft_holds inactive present).weaken (fun _ sees => sees) (fun _ _ written => written)
      fun _ _ sees => .inl sees)
    intro _
    apply Holds.bind (fileStep_holds.weaken (fun _ written => written) (fun _ _ written => written)
      fun _ _ failed => .inl failed.2.1)
    intro _
    exact .modify fun _ ⟨sees, there⟩ => ⟨present, sees.remove_active ⟨_, inactive, there⟩⟩
  · intro _
    apply Holds.bind (fileStep_holds.weaken (fun _ sees => sees) (fun _ _ sees => sees) early)
    intro _
    apply Holds.bind (refuse_holds.weaken (fun _ sees => sees) (fun _ _ passed => passed.2) fun _ _ sees => .inl sees)
    intro _
    apply Holds.bind (fileStep_holds.weaken (fun _ sees => sees) (fun _ _ sees => sees) early)
    intro _
    apply Holds.bind ((renameDocument_holds inactive present).weaken (fun _ sees => sees) (fun _ _ moved => moved)
      fun _ _ sees => .inl sees)
    intro _
    apply Holds.ite
    · rintro ⟨rfl, rfl⟩
      exact retire_holds.weaken (fun _ moved => moved) (fun _ _ moved => moved) fun _ _ failed => .inr failed
    · intro _
      apply Holds.ite
      · intro _
        exact fileStep_holds.weaken (fun _ moved => moved.1) (fun _ _ moved => moved) fun _ _ failed => .inr failed
      · intro _
        exact .pure fun _ moved => moved.1

theorem builtinKind_eq_ok {intent : SourceLifecycleIntent} {kind' : WorkItemKind} (found : builtinKind intent = .ok kind') :
    intent.workItemKind = some kind' := by
  unfold builtinKind at found
  obtain ⟨-, -, found⟩ := bind_eq_ok.mp found
  obtain ⟨-, -, found⟩ := bind_eq_ok.mp found
  obtain ⟨-, -, found⟩ := bind_eq_ok.mp found
  cases named : intent.workItemKind with
  | none =>
    rw [named] at found
    cases found
  | some kind =>
    rw [named] at found
    dsimp only at found
    split at found
    · cases found
    · cases found
      rfl

theorem applyLifecycleIntent_holds {intent : SourceLifecycleIntent} (names : intent.workItemKind = some kind)
    (same : intent.workItemId = id) :
    Holds (Sees w) (applyLifecycleIntent fails superseded phase after intent) (fun _ => Moved w kind id)
      (fun _ => MoveFailed fails after w kind id) := by
  unfold applyLifecycleIntent
  cases found : builtinKind intent with
  | error message => exact .throw fun _ sees => .inl sees
  | ok kind' =>
    obtain rfl := Option.some.inj (names.symm.trans (builtinKind_eq_ok found))
    subst same
    dsimp only
    apply Holds.bind (refuse_holds.weaken (fun _ sees => sees) (fun _ _ passed => passed.2) fun _ _ sees => .inl sees)
    intro _
    exact moveActiveItem_holds intent.action

end Move

end Parts

end Millrace.Application

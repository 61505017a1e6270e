import Mathlib.Data.List.Basic

/-! # Runs of a step function and what holds along them -/

set_option autoImplicit false

namespace Millrace.Runs

variable {σ α : Type}

/-- The state these events lead to. -/
def after (step : σ → α → σ) (s : σ) (events : List α) : σ :=
  events.foldl step s

/-- Every state of the run, the first and the last included. -/
def Throughout (step : σ → α → σ) (holds : σ → Prop) : σ → List α → Prop
  | s, [] => holds s
  | s, e :: events => holds s ∧ Throughout step holds (step s e) events

/-- Every event of the run, in the state it comes to. -/
def Along (step : σ → α → σ) (meets : σ → α → Prop) : σ → List α → Prop
  | _, [] => True
  | s, e :: events => meets s e ∧ Along step meets (step s e) events

variable {step : σ → α → σ} {holds side : σ → Prop} {meets : σ → α → Prop} {s : σ} {events : List α}

@[simp] theorem after_nil : after step s [] = s := rfl

@[simp] theorem after_cons (e : α) : after step s (e :: events) = after step (step s e) events := rfl

theorem after_append (before : List α) : after step s (before ++ events) = after step (after step s before) events :=
  List.foldl_append

theorem after_keeps (keeps : ∀ s e, holds s → holds (step s e)) (first : holds s) (events : List α) :
    holds (after step s events) := by
  induction events generalizing s with
  | nil => exact first
  | cons e events ih => exact ih (keeps s e first)

theorem Throughout.first (throughout : Throughout step holds s events) : holds s := by
  cases events with
  | nil => exact throughout
  | cons e events => exact throughout.1

theorem throughout_iff : Throughout step holds s events ↔ ∀ before, before <+: events → holds (after step s before) := by
  induction events generalizing s with
  | nil => simp [Throughout]
  | cons e events ih =>
    rw [Throughout, ih]
    constructor
    · intro ⟨first, later⟩ before reached
      cases before with
      | nil => exact first
      | cons e' before =>
        obtain ⟨same, reached⟩ := List.cons_prefix_cons.mp reached
        exact same ▸ later before reached
    · intro reached
      exact ⟨reached [] (List.nil_prefix), fun before here =>
        reached (e :: before) (List.cons_prefix_cons.mpr ⟨rfl, here⟩)⟩

theorem Throughout.last (throughout : Throughout step holds s events) : holds (after step s events) :=
  throughout_iff.mp throughout events List.prefix_rfl

theorem along_append {before later : List α} :
    Along step meets s (before ++ later) ↔ Along step meets s before ∧ Along step meets (after step s before) later := by
  induction before generalizing s with
  | nil => simp [Along]
  | cons e before ih =>
    rw [List.cons_append, Along, ih, Along, after_cons, and_assoc]

/-- A property that every event keeps where it meets the condition holds throughout a run whose events all meet it. -/
theorem Along.throughout (along : Along step meets s events) (first : holds s)
    (keeps : ∀ s e, holds s → meets s e → holds (step s e)) : Throughout step holds s events := by
  induction events generalizing s with
  | nil => exact first
  | cons e events ih => exact ⟨first, ih along.2 (keeps s e first along.1)⟩

/-- Where the condition decides of each event whether it keeps the property, it does so of whole runs. -/
theorem throughout_iff_along (sideKept : ∀ s e, side s → side (step s e))
    (decides : ∀ s e, side s → holds s → (holds (step s e) ↔ meets s e)) (beside : side s) (first : holds s) :
    Throughout step holds s events ↔ Along step meets s events := by
  induction events generalizing s with
  | nil => exact iff_of_true first trivial
  | cons e events ih =>
    constructor
    · intro ⟨_, later⟩
      exact ⟨(decides s e beside first).mp later.first, (ih (sideKept s e beside) later.first).mp later⟩
    · intro ⟨met, later⟩
      have kept := (decides s e beside first).mpr met
      exact ⟨first, (ih (sideKept s e beside) kept).mpr later⟩

end Millrace.Runs

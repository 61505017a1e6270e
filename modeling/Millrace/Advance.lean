import Mathlib.Order.Defs.Unbundled
import Millrace.Action

/-! What a computation does from a given state, computations that stay within a relation between their first and their
last state, and those that mark the state for what they wrote. -/

set_option autoImplicit false

namespace Millrace.Action

/-! ## From a given state -/

section Run
variable {ε ε' σ τ α β : Type}

theorem bind_run (x : EStateM ε σ α) (f : α → EStateM ε σ β) (s : σ) :
    (x >>= f) s = match x s with
      | .ok a t => f a t
      | .error e t => .error e t := rfl

theorem pure_run (a : α) (s : σ) : (pure a : EStateM ε σ α) s = .ok a s := rfl

theorem throw_run (e : ε) (s : σ) : (throw e : EStateM ε σ α) s = .error e s := rfl

theorem get_run (s : σ) : (get : EStateM ε σ σ) s = .ok s s := rfl

theorem modify_run (f : σ → σ) (s : σ) : (modify f : EStateM ε σ PUnit) s = .ok ⟨⟩ (f s) := rfl

theorem map_run (f : α → β) (x : EStateM ε σ α) (s : σ) :
    (f <$> x) s = match x s with
      | .ok a t => .ok (f a) t
      | .error e t => .error e t := rfl

theorem ofExcept_run (x : Except ε α) (s : σ) :
    (ofExcept x : EStateM ε σ α) s = match x with
      | .ok a => .ok a s
      | .error e => .error e s := by
  cases x <;> rfl

theorem onPart_run (part : σ → τ) (put : σ → τ → σ) (x : EStateM ε τ α) (s : σ) :
    onPart part put x s = match x (part s) with
      | .ok a t => .ok a (put s t)
      | .error e t => .error e (put s t) := by
  unfold onPart
  cases x (part s) <;> rfl

end Run

/-! ## Relations -/

section Advances
variable {ε ε' σ τ α β : Type} {R S : σ → σ → Prop}

/-- The outcome as a value; the state stays as the computation left it. -/
def attempt (x : EStateM ε σ α) : EStateM ε' σ (Except ε α) := fun s =>
  match x s with
  | .ok a t => .ok (.ok a) t
  | .error e t => .ok (.error e) t

/-- The last state is related to the first one, whether the computation succeeds or fails. -/
def Advances (R : σ → σ → Prop) (x : EStateM ε σ α) : Prop := ∀ s, Ensues s x (fun _ t => R s t) fun _ t => R s t

namespace Advances

theorem weaken {x : EStateM ε σ α} (advances : Advances R x) (within : ∀ s t, R s t → S s t) : Advances S x :=
  fun s => (advances s).weaken (fun _ t => within s t) fun _ t => within s t

theorem get [Std.Refl R] : Advances R (MonadState.get : EStateM ε σ σ) := by
  rintro s t rfl
  exact Std.Refl.refl t

theorem modify {f : σ → σ} (step : ∀ s, R s (f s)) :
    Advances R (modifyGet fun s => (⟨⟩, f s) : EStateM ε σ PUnit) := by
  rintro s t rfl
  exact step t

theorem pure [Std.Refl R] (a : α) : Advances R (Pure.pure a : EStateM ε σ α) := fun s => .pure (Std.Refl.refl s)

theorem throw [Std.Refl R] (e : ε) : Advances R (MonadExcept.throw e : EStateM ε σ α) :=
  fun s => .throw (Std.Refl.refl s)

theorem bind [IsTrans σ R] {x : EStateM ε σ α} {f : α → EStateM ε σ β} (first : Advances R x)
    (rest : ∀ a, Advances R (f a)) : Advances R (x >>= f) := by
  intro s
  apply Ensues.bind ((first s).weaken (fun _ _ step => step) fun _ _ step => step)
  intro a t step
  exact (rest a t).weaken (fun _ u => IsTrans.trans _ _ _ step) fun _ u => IsTrans.trans _ _ _ step

theorem ite {condition : Prop} [Decidable condition] {x y : EStateM ε σ α} (yes : Advances R x) (no : Advances R y) :
    Advances R (if condition then x else y) := fun s => .ite (fun _ => yes s) fun _ => no s

theorem ofExcept [Std.Refl R] (x : Except ε α) : Advances R (MonadExcept.ofExcept x : EStateM ε σ α) :=
  fun s => ofExcept_ensues (fun _ _ => Std.Refl.refl s) fun _ _ => Std.Refl.refl s

theorem adapt {f : ε → ε'} {x : EStateM ε σ α} (advances : Advances R x) : Advances R (adapt f x) :=
  fun s => adapt_ensues (advances s)

theorem onPart {T : τ → τ → Prop} {part : σ → τ} {put : σ → τ → σ} {x : EStateM ε τ α} (advances : Advances T x)
    (lift : ∀ s t, T (part s) t → R s (put s t)) : Advances R (onPart part put x) :=
  fun s => onPart_ensues (advances (part s)) (fun _ t => lift s t) fun _ t => lift s t

theorem attempt {x : EStateM ε σ α} (advances : Advances R x) :
    Advances R (attempt x : EStateM ε' σ (Except ε α)) := by
  rintro s t rfl
  have ends := advances t t rfl
  unfold Action.attempt
  cases ran : x t with
  | ok a u =>
    rw [ran] at ends
    exact ends
  | error e u =>
    rw [ran] at ends
    exact ends

theorem forM [Std.Refl R] [IsTrans σ R] {f : β → EStateM ε σ PUnit} (l : List β)
    (each : ∀ b ∈ l, Advances R (f b)) : Advances R (l.forM f) := by
  induction l with
  | nil => exact pure _
  | cons b rest ih =>
    exact bind (each b List.mem_cons_self) fun _ => ih fun c member => each c (List.mem_cons_of_mem _ member)

theorem of_ok {x : EStateM ε σ α} (advances : Advances R x) {s t : σ} {a : α} (ran : x s = .ok a t) : R s t :=
  (advances s).of_ok ran

theorem of_error {x : EStateM ε σ α} (advances : Advances R x) {s t : σ} {e : ε} (ran : x s = .error e t) : R s t :=
  (advances s).of_error ran

end Advances
end Advances

/-! ## Marks -/

section Marks
variable {ε ε' σ α β : Type} (unmarked : σ → Prop) (same : σ → σ → Prop)

/-- A state that is unmarked in the end was so from the start, and nothing has changed. -/
def Traced (s t : σ) : Prop := unmarked t → unmarked s ∧ same s t

/-- A mark stays. -/
def Grown (s t : σ) : Prop := unmarked t → unmarked s

instance tracedRefl [Std.Refl same] : Std.Refl (Traced unmarked same) where
  refl s start := ⟨start, Std.Refl.refl s⟩

instance tracedTrans [IsTrans σ same] : IsTrans σ (Traced unmarked same) where
  trans _ _ _ first second ends := by
    obtain ⟨middle, later⟩ := second ends
    obtain ⟨start, sooner⟩ := first middle
    exact ⟨start, IsTrans.trans _ _ _ sooner later⟩

instance grownRefl : Std.Refl (Grown unmarked) where
  refl _ start := start

instance grownTrans : IsTrans σ (Grown unmarked) where
  trans _ _ _ first second ends := first (second ends)

/-- The computation marks the state if it succeeds, and if it fails in an unmarked one it has changed nothing. -/
def Marks (x : EStateM ε σ α) : Prop :=
  ∀ s, Ensues s x (fun _ t => ¬unmarked t) fun _ t => Traced unmarked same s t

namespace Marks
variable {unmarked same}

theorem advances {x : EStateM ε σ α} (marks : Marks unmarked same x) : Advances (Traced unmarked same) x :=
  fun s => (marks s).weaken (fun _ _ marked unmarked => absurd unmarked marked) fun _ _ traced => traced

theorem adapt {f : ε → ε'} {x : EStateM ε σ α} (marks : Marks unmarked same x) :
    Marks unmarked same (adapt f x) := fun s => adapt_ensues (marks s)

/-- What follows a mark may do anything but remove it. -/
theorem then_grows {x : EStateM ε σ α} {f : α → EStateM ε σ β} (marks : Marks unmarked same x)
    (rest : ∀ a, Advances (Grown unmarked) (f a)) : Marks unmarked same (x >>= f) := by
  intro s
  apply Ensues.bind (marks s)
  intro a t marked
  apply (rest a t).weaken
  · exact fun _ u grown unmarked => marked (grown unmarked)
  · exact fun _ u grown unmarked => absurd (grown unmarked) marked

theorem after_traced [IsTrans σ same] {x : EStateM ε σ α} {f : α → EStateM ε σ β}
    (first : Advances (Traced unmarked same) x) (rest : ∀ a, Marks unmarked same (f a)) :
    Marks unmarked same (x >>= f) := by
  intro s
  apply Ensues.bind (first s)
  intro a t traced
  exact (rest a t).weaken (fun _ _ marked => marked) fun _ _ later => IsTrans.trans _ _ _ traced later

theorem throw [Std.Refl same] (e : ε) : Marks unmarked same (MonadExcept.throw e : EStateM ε σ α) :=
  fun s => .throw (Std.Refl.refl s)

/-- A write that changes nothing when it fails, with the mark that follows it. -/
theorem write {x : EStateM ε σ α} {f : α → EStateM ε σ β}
    (wrote : ∀ s, Ensues s x (fun _ _ => True) fun _ t => Traced unmarked same s t)
    (mark : ∀ a s, Ensues s (f a) (fun _ t => ¬unmarked t) fun _ t => ¬unmarked t) :
    Marks unmarked same (x >>= f) := by
  intro s
  apply Ensues.bind (wrote s)
  intro a t _
  exact (mark a t).weaken (fun _ _ marked => marked) fun _ _ marked unmarked => absurd unmarked marked

end Marks
end Marks

end Millrace.Action

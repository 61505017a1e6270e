import Millrace.Advance

/-! When a computation returns from a given state, and with what: one rule for each way to build it. -/

set_option autoImplicit false

namespace Millrace.Action

section Returns
variable {ε ε' σ τ α β : Type} {s : σ} {Q : α → σ → Prop}

/-- From this state the computation succeeds, and its value and last state are such. -/
def Returns (s : σ) (x : EStateM ε σ α) (Q : α → σ → Prop) : Prop := ∃ a t, x s = .ok a t ∧ Q a t

theorem returns_of_ok {x : EStateM ε σ α} {a : α} {t : σ} (ran : x s = .ok a t) : Returns s x Q ↔ Q a t := by
  constructor
  · rintro ⟨b, u, ran', holds⟩
    cases ran.symm.trans ran'
    exact holds
  · exact fun holds => ⟨a, t, ran, holds⟩

theorem returns_of_error {x : EStateM ε σ α} {e : ε} {t : σ} (ran : x s = .error e t) : Returns s x Q ↔ False := by
  simp [Returns, ran]

theorem Returns.weaken {x : EStateM ε σ α} {Q' : α → σ → Prop} (returns : Returns s x Q)
    (post : ∀ a t, Q a t → Q' a t) : Returns s x Q' := by
  obtain ⟨a, t, ran, holds⟩ := returns
  exact ⟨a, t, ran, post a t holds⟩

theorem returns_bind {x : EStateM ε σ β} {f : β → EStateM ε σ α} :
    Returns s (x >>= f) Q ↔ Returns s x fun b t => Returns t (f b) Q := by
  unfold Returns
  rw [bind_run]
  cases x s with
  | ok b t => simp
  | error e t => simp

theorem returns_pure {a : α} : Returns s (pure a : EStateM ε σ α) Q ↔ Q a s := returns_of_ok rfl

theorem returns_throw {e : ε} : Returns s (throw e : EStateM ε σ α) Q ↔ False := returns_of_error rfl

theorem returns_get {Q : σ → σ → Prop} : Returns s (get : EStateM ε σ σ) Q ↔ Q s s :=
  returns_of_ok rfl

theorem returns_modify {f : σ → σ} {Q : PUnit → σ → Prop} :
    Returns s (modify f : EStateM ε σ PUnit) Q ↔ Q ⟨⟩ (f s) := returns_of_ok rfl

theorem returns_ite {condition : Prop} [Decidable condition] {x y : EStateM ε σ α} :
    Returns s (if condition then x else y) Q ↔ (condition → Returns s x Q) ∧ (¬condition → Returns s y Q) := by
  by_cases holds : condition <;> simp [holds]

theorem returns_onPart {part : σ → τ} {put : σ → τ → σ} {x : EStateM ε τ α} :
    Returns s (onPart part put x) Q ↔ Returns (part s) x fun a t => Q a (put s t) := by
  unfold Returns
  rw [onPart_run]
  cases x (part s) with
  | ok a t => simp
  | error e t => simp

/-- Computations that run alike return alike. -/
theorem returns_congr {x y : EStateM ε σ α} (same : x s = y s) : Returns s x Q ↔ Returns s y Q := by
  unfold Returns
  rw [same]

end Returns

end Millrace.Action

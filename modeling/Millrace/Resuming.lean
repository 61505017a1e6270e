import Mathlib.Logic.Basic

/-! Passes that rewrite one cell after another and may stop between two of them. -/

set_option autoImplicit false

namespace Millrace.Resuming

variable {κ α : Type}

/-- Every cell is rewritten. -/
def Fully (rewrite : κ → α → α) (s t : κ → α) : Prop := ∀ k, t k = rewrite k (s k)

/-- Some cells are rewritten, the others as they were. -/
def Partly (rewrite : κ → α → α) (s t : κ → α) : Prop := ∀ k, t k = s k ∨ t k = rewrite k (s k)

/-- A cell that was rewritten is left alone. -/
def Settles (rewrite : κ → α → α) : Prop := ∀ k a, rewrite k (rewrite k a) = rewrite k a

variable {rewrite : κ → α → α} {s t u : κ → α}

theorem Partly.refl (s : κ → α) : Partly rewrite s s := fun _ => .inl rfl

theorem Fully.partly (full : Fully rewrite s t) : Partly rewrite s t := fun k => .inr (full k)

/-- A stopped pass followed by a stopped pass is a stopped pass. -/
theorem Partly.trans (settles : Settles rewrite) (first : Partly rewrite s t) (later : Partly rewrite t u) :
    Partly rewrite s u := by
  intro k
  rcases first k with same | done
  · rw [← same]
    exact later k
  · rcases later k with same | again
    · exact .inr (same.trans done)
    · exact .inr (by rw [again, done, settles])

/-- A pass to the end after any number of stopped ones ends where an uninterrupted pass ends. -/
theorem Partly.finish (settles : Settles rewrite) (first : Partly rewrite s t) (full : Fully rewrite t u) :
    Fully rewrite s u := by
  intro k
  rw [full k]
  rcases first k with same | done
  · rw [same]
  · rw [done, settles]

theorem Fully.again (settles : Settles rewrite) (full : Fully rewrite s t) : Fully rewrite t t := by
  intro k
  rw [full k, settles]

theorem Fully.unique (full : Fully rewrite s t) (full' : Fully rewrite s u) : t = u :=
  funext fun k => (full k).trans (full' k).symm

end Millrace.Resuming

import Mathlib.Logic.Relation

/-! Cycles of a relation, and the edges that close one. -/

set_option autoImplicit false

namespace Millrace.Graph
open Relation

section
variable {α : Type} {R S : α → α → Prop}

def Acyclic (R : α → α → Prop) : Prop := ∀ x, ¬TransGen R x x

theorem Acyclic.irrefl (acyclic : Acyclic R) (x : α) : ¬R x x := fun edge => acyclic x (.single edge)

theorem Acyclic.mono (acyclic : Acyclic R) (sub : ∀ x y, S x y → R x y) : Acyclic S :=
  fun x path => acyclic x (TransGen.mono sub _ _ path)

/-- The relation with an edge from each of the sources to the target. -/
def Linked (R : α → α → Prop) (source : α → Prop) (target : α) : α → α → Prop :=
  fun x y => R x y ∨ (source x ∧ y = target)

section Linked
variable {source : α → Prop} {target : α}

/-- Where the target reaches no source, the new edges lead it nowhere new. -/
theorem reaches_of_linked (apart : ∀ d, source d → ¬ReflTransGen R target d) {y : α}
    (path : ReflTransGen (Linked R source target) target y) : ReflTransGen R target y := by
  induction path with
  | refl => exact .refl
  | tail _ edge ih =>
    rcases edge with old | ⟨linked, -⟩
    · exact ih.tail old
    · exact absurd ih (apart _ linked)

/-- A path is an old one, or its last new edge leads to the target. -/
theorem transGen_linked {x y : α} (path : TransGen (Linked R source target) x y) :
    TransGen R x y ∨ ∃ d, source d ∧ ReflTransGen (Linked R source target) x d ∧ ReflTransGen R target y := by
  induction path with
  | single edge =>
    rcases edge with old | ⟨linked, rfl⟩
    · exact .inl (.single old)
    · exact .inr ⟨_, linked, .refl, .refl⟩
  | tail before edge ih =>
    rcases edge with old | ⟨linked, rfl⟩
    · rcases ih with path | ⟨d, linked, first, last⟩
      · exact .inl (path.tail old)
      · exact .inr ⟨d, linked, first, last.tail old⟩
    · exact .inr ⟨_, linked, before.to_reflTransGen, .refl⟩

theorem acyclic_linked_iff (acyclic : Acyclic R) :
    Acyclic (Linked R source target) ↔ ∀ d, source d → ¬ReflTransGen R target d := by
  constructor
  · intro still d linked path
    have back : ReflTransGen (Linked R source target) target d := ReflTransGen.mono (fun _ _ => .inl) _ _ path
    exact still d (.head' (.inr ⟨linked, rfl⟩) back)
  · intro apart x cycle
    rcases transGen_linked cycle with old | ⟨d, linked, first, last⟩
    · exact acyclic x old
    · have home : ReflTransGen (Linked R source target) target d :=
        (ReflTransGen.mono (fun _ _ => .inl) _ _ last).trans first
      exact apart d linked (reaches_of_linked apart home)

end Linked

/-- A path to the first goal it meets uses no edge that leaves a goal. -/
theorem reaches_goal_of {goal : α → Prop} (sub : ∀ x y, ¬goal x → R x y → S x y) {x : α}
    (reached : ∃ d, goal d ∧ ReflTransGen R x d) : ∃ d, goal d ∧ ReflTransGen S x d := by
  obtain ⟨d, met, path⟩ := reached
  induction path using ReflTransGen.head_induction_on with
  | refl => exact ⟨d, met, .refl⟩
  | @head y z edge _ ih =>
    by_cases already : goal y
    · exact ⟨y, already, .refl⟩
    · obtain ⟨d', met', path'⟩ := ih
      exact ⟨d', met', .head (sub y z already edge) path'⟩

theorem reaches_goal_congr {goal : α → Prop} (same : ∀ x y, ¬goal x → (R x y ↔ S x y)) (x : α) :
    (∃ d, goal d ∧ ReflTransGen R x d) ↔ ∃ d, goal d ∧ ReflTransGen S x d := by
  constructor
  · exact reaches_goal_of fun x y other => (same x y other).mp
  · exact reaches_goal_of fun x y other => (same x y other).mpr

end
end Millrace.Graph

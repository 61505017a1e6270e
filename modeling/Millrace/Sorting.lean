import Mathlib.Data.List.Basic
import Mathlib.Order.Lex
import Mathlib.Order.Lattice

/-! The first element of a list under a total order, and orders by two keys. -/

set_option autoImplicit false

namespace Millrace.Sorting

variable {α κ κ' : Type}

/-! ## The first element -/

section First
variable {le : α → α → Bool} {l : List α} {a : α}

/-- The head of the sorted list, without sorting it. -/
def first (le : α → α → Bool) : List α → Option α
  | [] => none
  | a :: l =>
    match first le l with
    | none => some a
    | some b => if le a b then some a else some b

theorem first_eq_none : first le l = none ↔ l = [] := by
  cases l with
  | nil => simp [first]
  | cons a l =>
    unfold first
    cases first le l with
    | none => simp
    | some b => by_cases before : le a b = true <;> simp [before]

theorem first_eq_head (trans : ∀ a b c, le a b = true → le b c = true → le a c = true)
    (total : ∀ a b, (le a b || le b a) = true) (l : List α) : first le l = (l.mergeSort le).head? := by
  induction l with
  | nil => simp [first]
  | cons a l ih =>
    obtain ⟨front, back, sorted, rest, later⟩ := List.mergeSort_cons trans total a l
    have ordered := List.pairwise_mergeSort trans total (a :: l)
    unfold first
    rw [ih, sorted, rest]
    rw [sorted] at ordered
    cases front with
    | nil =>
      cases back with
      | nil => rfl
      | cons b back =>
        have before : le a b = true := (List.pairwise_cons.mp ordered).1 b List.mem_cons_self
        simp [before]
    | cons b front =>
      have after : (!le a b) = true := later b List.mem_cons_self
      simp only [Bool.not_eq_true'] at after
      simp [after]

theorem first_mem (head : first le l = some a) : a ∈ l := by
  induction l with
  | nil => cases head
  | cons b l ih =>
    unfold first at head
    cases rest : first le l with
    | none =>
      rw [rest] at head
      obtain rfl := Option.some.inj head
      exact List.mem_cons_self
    | some c =>
      rw [rest] at head ih
      dsimp only at head
      split at head
      next =>
        obtain rfl := Option.some.inj head
        exact List.mem_cons_self
      next => exact List.mem_cons_of_mem _ (ih head)

theorem first_le (trans : ∀ a b c, le a b = true → le b c = true → le a c = true)
    (total : ∀ a b, (le a b || le b a) = true) (head : first le l = some a) : ∀ b ∈ l, le a b = true := by
  have sorted := List.pairwise_mergeSort trans total l
  have perm := List.mergeSort_perm l le
  rw [first_eq_head trans total] at head
  cases listed : l.mergeSort le with
  | nil =>
    rw [listed] at head
    cases head
  | cons least rest =>
    rw [listed] at head sorted perm
    obtain rfl := Option.some.inj head
    intro b member
    rcases List.mem_cons.mp (perm.mem_iff.mpr member) with rfl | later
    · simpa using total b b
    · exact (List.pairwise_cons.mp sorted).1 b later

end First

/-! ## Orders by keys -/

section Keys
variable [LinearOrder κ] [LinearOrder κ'] (key : α → κ) (tie : α → κ')

/-- The order of one key, and of another where the first one is the same. -/
def byKeys (a b : α) : Bool := decide (key a < key b) || (key a == key b && decide (tie a ≤ tie b))

theorem byKeys_iff (a b : α) : byKeys key tie a b = true ↔ key a < key b ∨ (key a = key b ∧ tie a ≤ tie b) := by
  simp [byKeys]

theorem byKeys_total (a b : α) : (byKeys key tie a b || byKeys key tie b a) = true := by
  rw [Bool.or_eq_true, byKeys_iff, byKeys_iff]
  rcases lt_trichotomy (key a) (key b) with less | same | more
  · exact .inl (.inl less)
  · exact (le_total (tie a) (tie b)).imp (fun below => .inr ⟨same, below⟩) fun above => .inr ⟨same.symm, above⟩
  · exact .inr (.inl more)

theorem byKeys_trans (a b c : α) (ab : byKeys key tie a b = true) (bc : byKeys key tie b c = true) :
    byKeys key tie a c = true := by
  rw [byKeys_iff] at ab bc ⊢
  rcases ab with less | ⟨same, below⟩
  · rcases bc with less' | ⟨same', -⟩
    · exact .inl (less.trans less')
    · exact .inl (same' ▸ less)
  · rcases bc with less' | ⟨same', below'⟩
    · exact .inl (same ▸ less')
    · exact .inr ⟨same.trans same', below.trans below'⟩

theorem first_byKeys {l : List α} {a : α} (head : first (byKeys key tie) l = some a) :
    ∀ b ∈ l, key a < key b ∨ (key a = key b ∧ tie a ≤ tie b) := fun b member =>
  (byKeys_iff key tie a b).mp (first_le (byKeys_trans key tie) (byKeys_total key tie) head b member)

theorem first_byKeys_le {l : List α} {a : α} (head : first (byKeys key tie) l = some a) : ∀ b ∈ l, key a ≤ key b :=
  fun b member => (first_byKeys key tie head b member).elim le_of_lt fun ties => le_of_eq ties.1

end Keys

end Millrace.Sorting

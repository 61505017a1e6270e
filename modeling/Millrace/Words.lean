import Mathlib

/-! Sums of unsigned 64-bit words, where an overflow panics or wraps. -/

set_option autoImplicit false

namespace Millrace.Words

/-- What arithmetic does where a result does not fit: it panics where overflow is checked, and wraps where it is not. -/
inductive Overflow where
  | panics | wraps
  deriving DecidableEq, Repr

def limit : Nat := 2 ^ 64

theorem toNat_lt (word : UInt64) : word.toNat < limit := UInt64.toNat_lt word

/-- The sum as a number without a bound. -/
def totalOf (words : List UInt64) : Nat := (words.map UInt64.toNat).sum

@[simp] theorem totalOf_nil : totalOf [] = 0 := rfl

@[simp] theorem totalOf_cons (word : UInt64) (words : List UInt64) : totalOf (word :: words) = word.toNat + totalOf words := rfl

@[simp] theorem totalOf_append (words words' : List UInt64) : totalOf (words ++ words') = totalOf words + totalOf words' := by
  simp [totalOf]

theorem totalOf_perm {words words' : List UInt64} (same : words.Perm words') : totalOf words = totalOf words' :=
  (same.map _).sum_eq

theorem totalOf_sublist {words words' : List UInt64} (within : words.Sublist words') : totalOf words ≤ totalOf words' :=
  (within.map _).sum_le_sum fun _ _ => Nat.zero_le _

variable (overflow : Overflow)

def add (a b : UInt64) : Option UInt64 :=
  match overflow with
  | .panics => if a.toNat + b.toNat < limit then some (a + b) else none
  | .wraps => some (a + b)

/-- The words added up from the left, `none` where that panics. -/
def sum (words : List UInt64) : Option UInt64 := words.foldlM (add overflow) 0

/-- Subtraction that stops at zero. -/
def saturatingSub (a b : UInt64) : UInt64 := if b ≤ a then a - b else 0

theorem toNat_add_of_fits {a b : UInt64} (fits : a.toNat + b.toNat < limit) : (a + b).toNat = a.toNat + b.toNat := by
  rw [UInt64.toNat_add]
  exact Nat.mod_eq_of_lt fits

theorem toNat_saturatingSub (a b : UInt64) : (saturatingSub a b).toNat = a.toNat - b.toNat := by
  unfold saturatingSub
  split
  next le => exact UInt64.toNat_sub_of_le _ _ le
  next lt =>
    have lt : a.toNat < b.toNat := UInt64.lt_iff_toNat_lt.mp (UInt64.not_le.mp lt)
    rw [UInt64.toNat_zero]
    omega

section Folds
variable {overflow}

theorem fold_of_fits (start : UInt64) (words : List UInt64) (fits : start.toNat + totalOf words < limit) :
    ∃ total, words.foldlM (add overflow) start = some total ∧ total.toNat = start.toNat + totalOf words := by
  induction words generalizing start with
  | nil => exact ⟨start, rfl, rfl⟩
  | cons word words ih =>
    rw [totalOf_cons] at fits
    have here := toNat_add_of_fits (a := start) (b := word) (by omega)
    obtain ⟨total, ran, value⟩ := ih (start + word) (by omega)
    refine ⟨total, ?_, by rw [totalOf_cons]; omega⟩
    have added : add overflow start word = some (start + word) := by
      cases overflow with
      | panics => exact if_pos (by omega)
      | wraps => rfl
    rw [List.foldlM_cons, added]
    exact ran

theorem fold_panics (start : UInt64) (words : List UInt64) (large : limit ≤ start.toNat + totalOf words) :
    words.foldlM (add .panics) start = none := by
  induction words generalizing start with
  | nil =>
    have bound := toNat_lt start
    rw [totalOf_nil] at large
    omega
  | cons word words ih =>
    rw [List.foldlM_cons]
    by_cases fits : start.toNat + word.toNat < limit
    · have added : add .panics start word = some (start + word) := if_pos fits
      have here := toNat_add_of_fits fits
      rw [totalOf_cons] at large
      rw [added]
      exact ih (start + word) (by omega)
    · have stopped : add .panics start word = none := if_neg fits
      rw [stopped]
      rfl

theorem fold_wraps (start : UInt64) (words : List UInt64) :
    ∃ total, words.foldlM (add .wraps) start = some total ∧ total.toNat = (start.toNat + totalOf words) % limit := by
  induction words generalizing start with
  | nil => exact ⟨start, rfl, (Nat.mod_eq_of_lt (toNat_lt start)).symm⟩
  | cons word words ih =>
    obtain ⟨total, ran, value⟩ := ih (start + word)
    refine ⟨total, ran, ?_⟩
    rw [value, UInt64.toNat_add, totalOf_cons, ← Nat.add_assoc]
    exact Nat.mod_add_mod _ _ _

end Folds

theorem sum_of_fits {words : List UInt64} (fits : totalOf words < limit) :
    ∃ total, sum overflow words = some total ∧ total.toNat = totalOf words := by
  obtain ⟨total, ran, value⟩ := @fold_of_fits overflow 0 words (by simpa using fits)
  exact ⟨total, ran, by simpa using value⟩

theorem sum_panics {words : List UInt64} (large : limit ≤ totalOf words) : sum .panics words = none :=
  fold_panics 0 words (by simpa using large)

theorem sum_wraps (words : List UInt64) : ∃ total, sum .wraps words = some total ∧ total.toNat = totalOf words % limit := by
  obtain ⟨total, ran, value⟩ := fold_wraps 0 words
  exact ⟨total, ran, by simpa using value⟩

/-- The sum that is computed is the exact one just where that fits. -/
theorem sum_exact_iff (words : List UInt64) :
    (∃ total, sum overflow words = some total ∧ total.toNat = totalOf words) ↔ totalOf words < limit := by
  constructor
  · rintro ⟨total, -, value⟩
    exact value ▸ toNat_lt total
  · exact sum_of_fits overflow

end Millrace.Words

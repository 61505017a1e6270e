import Millrace.Runtime.Router

/-! Failure classes in their normal form. -/

set_option autoImplicit false

namespace Millrace.Runtime
open Millrace.Text Millrace.Contracts

def isLowerAlphanumeric (c : Char) : Bool := isAsciiLower c || isAsciiDigit c

theorem alphanumeric_of_lower {c : Char} (lower : isLowerAlphanumeric c = true) : isAsciiAlphanumeric c = true := by
  simp only [isLowerAlphanumeric, Bool.or_eq_true] at lower
  rcases lower with letter | digit
  · simp [isAsciiAlphanumeric, isAsciiAlphabetic, letter]
  · simp [isAsciiAlphanumeric, digit]

theorem toAsciiLower_of_lower {c : Char} (lower : isLowerAlphanumeric c = true) : toAsciiLower c = c := by
  have small : isAsciiUpper c = false := by
    simp only [isLowerAlphanumeric, isAsciiLower, isAsciiDigit, isAsciiUpper, Bool.or_eq_true, Bool.and_eq_true,
      decide_eq_true_eq, Bool.and_eq_false_iff, decide_eq_false_iff_not] at lower ⊢
    omega
  simp [toAsciiLower, small]

theorem lower_toAsciiLower {c : Char} (member : isAsciiAlphanumeric c = true) :
    isLowerAlphanumeric (toAsciiLower c) = true := by
  by_cases upper : isAsciiUpper c = true
  · have letters : ∀ k : Fin 26, isLowerAlphanumeric (Char.ofNat (65 + k + 32)) = true := by decide
    have code := upper
    simp only [isAsciiUpper, Bool.and_eq_true, decide_eq_true_eq] at code
    have letter := letters ⟨c.toNat - 65, by omega⟩
    rw [show 65 + (c.toNat - 65) + 32 = c.toNat + 32 by omega] at letter
    simpa [toAsciiLower, upper] using letter
  · simp only [isAsciiAlphanumeric, isAsciiAlphabetic, Bool.or_eq_true] at member
    simp only [toAsciiLower, upper, isLowerAlphanumeric, Bool.or_eq_true]
    tauto

/-- Words of lower-case letters and digits with single separators between them. -/
def Separated : Bool → List Char → Prop
  | _, [] => True
  | afterSeparator, c :: rest =>
    (isLowerAlphanumeric c = true ∧ Separated false rest) ∨ (c = '_' ∧ afterSeparator = false ∧ Separated true rest)

theorem separated_normalizeFrom (afterSeparator : Bool) (s : List Char) :
    Separated afterSeparator (normalizeFrom afterSeparator s) := by
  induction s generalizing afterSeparator with
  | nil => trivial
  | cons c rest ih =>
    unfold normalizeFrom
    split
    next member => exact .inl ⟨lower_toAsciiLower member, ih false⟩
    next =>
      split
      next after => exact after ▸ ih true
      next before => exact .inr ⟨rfl, by simpa using before, ih true⟩

theorem normalizeFrom_separated {afterSeparator : Bool} {s : List Char} (separated : Separated afterSeparator s) :
    normalizeFrom afterSeparator s = s := by
  induction s generalizing afterSeparator with
  | nil => rfl
  | cons c rest ih =>
    rcases separated with ⟨lower, later⟩ | ⟨rfl, before, later⟩
    · rw [normalizeFrom, if_pos (alphanumeric_of_lower lower), toAsciiLower_of_lower lower, ih later]
    · have other : isAsciiAlphanumeric '_' = false := by decide
      simp [normalizeFrom, other, before, ih later]

theorem Separated.prefix {afterSeparator : Bool} {s t : List Char} (separated : Separated afterSeparator (s ++ t)) :
    Separated afterSeparator s := by
  induction s generalizing afterSeparator with
  | nil => trivial
  | cons c rest ih =>
    rcases separated with ⟨lower, later⟩ | ⟨rfl, before, later⟩
    · exact .inl ⟨lower, ih later⟩
    · exact .inr ⟨rfl, before, ih later⟩

theorem Separated.solid {afterSeparator : Bool} {s : List Char} (separated : Separated afterSeparator s) :
    ∀ c ∈ s, isWhitespace c = false := by
  induction s generalizing afterSeparator with
  | nil => simp
  | cons c rest ih =>
    intro x member
    rcases separated with ⟨lower, later⟩ | ⟨rfl, -, later⟩
    · rcases List.mem_cons.mp member with rfl | member
      · exact isWhitespace_of_alphanumeric x (alphanumeric_of_lower lower)
      · exact ih later x member
    · rcases List.mem_cons.mp member with rfl | member
      · decide
      · exact ih later x member

theorem normalizeFailureClass_ok_iff {value failureClass : String} :
    normalizeFailureClass value = .ok failureClass ↔
      (normalizeFrom true (trim value.toList)).rdropWhile (· == '_') = failureClass.toList ∧ failureClass ≠ "" := by
  unfold normalizeFailureClass
  split
  next none =>
    rw [none]
    constructor
    · intro ok
      cases ok
    · rintro ⟨same, nonempty⟩
      exact absurd (String.toList_eq_nil_iff.mp same.symm) nonempty
  next c rest some =>
    rw [some]
    constructor
    · intro ok
      obtain rfl := Except.ok.inj ok
      simp [← String.toList_inj]
    · rintro ⟨same, -⟩
      rw [same, String.ofList_toList]

/-- A failure class that was normalized once stays as it is. -/
theorem normalizeFailureClass_idem {value failureClass : String} (ok : normalizeFailureClass value = .ok failureClass) :
    normalizeFailureClass failureClass = .ok failureClass := by
  obtain ⟨same, nonempty⟩ := normalizeFailureClass_ok_iff.mp ok
  have separated : Separated true failureClass.toList := by
    have whole := separated_normalizeFrom true (trim value.toList)
    rw [← List.rdropWhile_append_rtakeWhile (p := (· == '_')) (l := normalizeFrom true (trim value.toList)),
      same] at whole
    exact whole.prefix
  have inline := inline_of_solid (by simpa [String.toList_eq_nil_iff] using nonempty) separated.solid
  refine normalizeFailureClass_ok_iff.mpr ⟨?_, nonempty⟩
  rw [inline.trim, normalizeFrom_separated separated, ← same, List.rdropWhile_idempotent]

theorem mem_trim {c : Char} {s : List Char} (member : c ∈ s) (solid : isWhitespace c = false) : c ∈ trim s := by
  have opened : c ∈ trimStart s := by
    rw [← List.takeWhile_append_dropWhile (p := isWhitespace) (l := s)] at member
    rcases List.mem_append.mp member with early | late
    · simp [List.mem_takeWhile_imp early] at solid
    · exact late
  unfold trim trimEnd
  rw [← List.rdropWhile_append_rtakeWhile (p := isWhitespace) (l := trimStart s)] at opened
  rcases List.mem_append.mp opened with early | late
  · exact early
  · simp [List.mem_rtakeWhile_imp late] at solid

theorem mem_normalizeFrom {c : Char} {s : List Char} (afterSeparator : Bool) (member : c ∈ s)
    (letter : isAsciiAlphanumeric c = true) : toAsciiLower c ∈ normalizeFrom afterSeparator s := by
  induction s generalizing afterSeparator with
  | nil => cases member
  | cons d rest ih =>
    unfold normalizeFrom
    rcases List.mem_cons.mp member with rfl | later
    · simp [letter]
    · split
      · exact List.mem_cons_of_mem _ (ih false later)
      · split
        · exact ih true later
        · exact List.mem_cons_of_mem _ (ih true later)

/-- One letter or digit is enough for a failure class. -/
theorem normalizeFailureClass_of_letter {value : String} {c : Char} (member : c ∈ value.toList)
    (letter : isAsciiAlphanumeric c = true) : ∃ failureClass, normalizeFailureClass value = .ok failureClass := by
  have kept := mem_normalizeFrom true (mem_trim member (isWhitespace_of_alphanumeric c letter)) letter
  have lower := lower_toAsciiLower letter
  unfold normalizeFailureClass
  split
  next none =>
    have all := List.rdropWhile_eq_nil_iff.mp none _ kept
    simp only [beq_iff_eq] at all
    rw [all] at lower
    exact absurd lower (by decide)
  next => exact ⟨_, rfl⟩

theorem normalizeFailureClass_error {value : String} {error : RuntimeTickError}
    (failed : normalizeFailureClass value = .error error) : error = .emptyFailureClass := by
  unfold normalizeFailureClass at failed
  split at failed
  · exact (Except.error.inj failed).symm
  · cases failed

theorem normalizeFailureClass_blocked (stageKindId : String) :
    ∃ failureClass, normalizeFailureClass (stageKindId ++ "_blocked") = .ok failureClass := by
  have last : "_blocked".toList = ['_', 'b', 'l', 'o', 'c', 'k', 'e', 'd'] := by decide
  exact normalizeFailureClass_of_letter (c := 'd') (by simp [String.toList_append, last]) (by decide)

end Millrace.Runtime

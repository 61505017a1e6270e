import Mathlib.Data.List.DropRight
import Mathlib.Data.List.Basic

/-! Line oriented text: white space, trimming, line splitting and the words that survive them. -/

set_option autoImplicit false

namespace Millrace.Text

/-- The Unicode `White_Space` property. -/
def isWhitespace (c : Char) : Bool :=
  let n := c.toNat
  (9 ≤ n && n ≤ 13) || n == 0x20 || n == 0x85 || n == 0xA0 || n == 0x1680 || (0x2000 ≤ n && n ≤ 0x200A)
    || n == 0x2028 || n == 0x2029 || n == 0x202F || n == 0x205F || n == 0x3000

def isAsciiDigit (c : Char) : Bool := 48 ≤ c.toNat && c.toNat ≤ 57
def isAsciiUpper (c : Char) : Bool := 65 ≤ c.toNat && c.toNat ≤ 90
def isAsciiLower (c : Char) : Bool := 97 ≤ c.toNat && c.toNat ≤ 122
def isAsciiAlphabetic (c : Char) : Bool := isAsciiUpper c || isAsciiLower c
def isAsciiAlphanumeric (c : Char) : Bool := isAsciiAlphabetic c || isAsciiDigit c

def toAsciiLower (c : Char) : Char := if isAsciiUpper c then Char.ofNat (c.toNat + 32) else c

theorem isWhitespace_newline : isWhitespace '\n' = true := by decide

theorem isWhitespace_of_alphanumeric (c : Char) (member : isAsciiAlphanumeric c = true) :
    isWhitespace c = false := by
  simp only [isAsciiAlphanumeric, isAsciiAlphabetic, isAsciiUpper, isAsciiLower, isAsciiDigit,
    Bool.or_eq_true, Bool.and_eq_true, decide_eq_true_eq] at member
  simp only [isWhitespace, Bool.or_eq_false_iff, Bool.and_eq_false_iff, beq_eq_false_iff_ne,
    decide_eq_false_iff_not]
  omega

/-! ## Trimming -/

def trimStart (s : List Char) : List Char := s.dropWhile isWhitespace
def trimEnd (s : List Char) : List Char := s.rdropWhile isWhitespace
def trim (s : List Char) : List Char := trimEnd (trimStart s)

/-- A text without white space at either end. -/
def Trimmed (s : List Char) : Prop :=
  (∀ c rest, s = c :: rest → isWhitespace c = false) ∧
    ∀ front c, s = front ++ [c] → isWhitespace c = false

@[simp] theorem trim_nil : trim [] = [] := by simp [trim, trimStart, trimEnd]

theorem trimEnd_append (front : List Char) (c : Char) (solid : isWhitespace c = false) :
    trimEnd (front ++ [c]) = front ++ [c] := by
  simp [trimEnd, solid]

theorem trimStart_cons (c : Char) (rest : List Char) (solid : isWhitespace c = false) :
    trimStart (c :: rest) = c :: rest := by
  simp [trimStart, solid]

theorem trimmed_trim (s : List Char) : Trimmed (trim s) := by
  have last : ∀ front c, trim s = front ++ [c] → isWhitespace c = false := by
    intro front c same
    have kept := List.rdropWhile_last_not isWhitespace (trimStart s)
    have nonempty : (trimStart s).rdropWhile isWhitespace ≠ [] := by
      intro none
      simp [trim, trimEnd, none] at same
    have solid := kept nonempty
    have final : ((trimStart s).rdropWhile isWhitespace).getLast nonempty = c := by
      have := congrArg List.getLast? same
      simpa [trim, trimEnd, List.getLast?_eq_some_getLast nonempty] using this
    simpa [final] using solid
  refine ⟨?_, last⟩
  intro c rest same
  -- The first character kept by `trimEnd` is the first one kept by `trimStart`.
  obtain ⟨tail, front⟩ : trim s <+: trimStart s := List.rdropWhile_prefix _ _
  have head : (trimStart s).head? = some c := by rw [← front, same]; rfl
  have kept := List.head?_dropWhile_not isWhitespace s
  simp only [trimStart] at head
  rw [head] at kept
  simpa using kept

theorem trim_of_trimmed {s : List Char} (trimmed : Trimmed s) : trim s = s := by
  cases s with
  | nil => rfl
  | cons c rest =>
    have start : trimStart (c :: rest) = c :: rest := trimStart_cons c rest (trimmed.1 c rest rfl)
    rw [trim, start]
    obtain ⟨front, last, same⟩ := List.eq_nil_or_concat' (c :: rest) |>.resolve_left (by simp)
    rw [same]
    exact trimEnd_append front last (trimmed.2 front last same)

theorem trim_eq_self_iff (s : List Char) : trim s = s ↔ Trimmed s :=
  ⟨fun same => same ▸ trimmed_trim s, trim_of_trimmed⟩

@[simp] theorem trim_trim (s : List Char) : trim (trim s) = trim s :=
  trim_of_trimmed (trimmed_trim s)

theorem trim_sublist (s : List Char) : (trim s).Sublist s :=
  (List.rdropWhile_prefix _ _).sublist.trans (List.dropWhile_suffix _).sublist

theorem mem_of_mem_trim {c : Char} {s : List Char} (member : c ∈ trim s) : c ∈ s :=
  (trim_sublist s).subset member

theorem trim_eq_nil_iff (s : List Char) : trim s = [] ↔ ∀ c ∈ s, isWhitespace c = true := by
  constructor
  · intro none c member
    have start : ∀ x ∈ trimStart s, isWhitespace x = true := by
      simpa [trim, trimEnd] using none
    by_cases solid : isWhitespace c = true
    · exact solid
    · have kept : trimStart s ≠ [] := by
        intro empty
        exact solid (List.dropWhile_eq_nil_iff.mp empty c member)
      have first := List.head?_dropWhile_not isWhitespace s
      rw [← trimStart, List.head?_eq_some_head kept] at first
      simp [start _ (List.head_mem kept)] at first
  · intro blank
    have start : trimStart s = [] := List.dropWhile_eq_nil_iff.mpr blank
    simp [trim, start, trimEnd]

/-- Everything between two solid characters survives trimming. -/
theorem trim_between (first last : Char) (middle : List Char)
    (opening : isWhitespace first = false) (closing : isWhitespace last = false) :
    trim (first :: (middle ++ [last])) = first :: (middle ++ [last]) := by
  rw [trim, trimStart_cons first _ opening, ← List.cons_append, trimEnd_append _ last closing]

theorem trimmed_cons_append {c : Char} {s v : List Char} (solid : isWhitespace c = false)
    (nonempty : v ≠ []) (trimmed : Trimmed v) : Trimmed (c :: (s ++ v)) := by
  constructor
  · intro x rest same
    simp only [List.cons.injEq] at same
    exact same.1 ▸ solid
  · intro front last same
    obtain ⟨before, final, split⟩ := (List.eq_nil_or_concat' v).resolve_left nonempty
    have solid' := trimmed.2 before final split
    rw [split, ← List.append_assoc, ← List.cons_append] at same
    obtain ⟨-, tail⟩ := List.append_inj' same rfl
    simp only [List.cons.injEq, and_true] at tail
    exact tail ▸ solid'

theorem trim_space_append {v : List Char} (trimmed : Trimmed v) : trim (' ' :: v) = v := by
  have blank : isWhitespace ' ' = true := by decide
  have start : trimStart (' ' :: v) = trimStart v := by simp [trimStart, blank]
  rw [trim, start, ← trim, trim_of_trimmed trimmed]

/-! ## Lines -/

/-- A line feed may be preceded by one carriage return, which belongs to the line ending. -/
def stripCarriageReturn (line : List Char) : List Char :=
  if line.getLast? = some '\r' then line.dropLast else line

def linesFrom (current : List Char) : List Char → List (List Char)
  | [] => if current = [] then [] else [current]
  | c :: rest =>
    if c = '\n' then stripCarriageReturn current :: linesFrom [] rest else linesFrom (current ++ [c]) rest

/-- The lines of a text; a final line needs no line feed and keeps its carriage return. -/
def lines (s : List Char) : List (List Char) := linesFrom [] s

/-- Each line followed by a line feed. -/
def unlines (ls : List (List Char)) : List Char := ls.flatMap (· ++ ['\n'])

theorem linesFrom_append (current a b : List Char) (solid : '\n' ∉ a) :
    linesFrom current (a ++ '\n' :: b) = stripCarriageReturn (current ++ a) :: linesFrom [] b := by
  induction a generalizing current with
  | nil => simp [linesFrom]
  | cons c rest ih =>
    have other : c ≠ '\n' := fun same => solid (same ▸ List.mem_cons_self)
    have later : '\n' ∉ rest := fun member => solid (List.mem_cons_of_mem _ member)
    simp [linesFrom, other, ih (current ++ [c]) later]

theorem lines_append_newline (a b : List Char) (solid : '\n' ∉ a) :
    lines (a ++ '\n' :: b) = stripCarriageReturn a :: lines b := by
  simpa [lines] using linesFrom_append [] a b solid

@[simp] theorem lines_nil : lines [] = [] := rfl

/-- Whatever comes before a line feed, the text after it is split on its own. -/
theorem linesFrom_append_newline (current a b : List Char) :
    linesFrom current (a ++ '\n' :: b) = linesFrom current (a ++ ['\n']) ++ lines b := by
  induction a generalizing current with
  | nil => simp [linesFrom, lines]
  | cons c rest ih =>
    by_cases newline : c = '\n'
    · simp [linesFrom, newline, ih]
    · simp [linesFrom, newline, ih]

theorem lines_append (a b : List Char) : lines (a ++ '\n' :: b) = lines (a ++ ['\n']) ++ lines b :=
  linesFrom_append_newline [] a b

theorem newline_not_mem_strip {line : List Char} (solid : '\n' ∉ line) :
    '\n' ∉ stripCarriageReturn line := by
  unfold stripCarriageReturn
  split
  · exact fun member => solid (List.dropLast_subset _ member)
  · exact solid

theorem newline_not_mem_linesFrom (current s : List Char) (solid : '\n' ∉ current) :
    ∀ line ∈ linesFrom current s, '\n' ∉ line := by
  induction s generalizing current with
  | nil =>
    intro line member
    simp only [linesFrom] at member
    split at member
    · simp at member
    · simp only [List.mem_singleton] at member
      exact member ▸ solid
  | cons c rest ih =>
    intro line member
    simp only [linesFrom] at member
    split at member
    next =>
      rcases List.mem_cons.mp member with rfl | later
      · exact newline_not_mem_strip solid
      · exact ih [] (by simp) line later
    next other =>
      refine ih (current ++ [c]) ?_ line member
      simp only [List.mem_append, List.mem_singleton, not_or]
      exact ⟨solid, fun same => other same.symm⟩

theorem newline_not_mem_lines (s : List Char) : ∀ line ∈ lines s, '\n' ∉ line :=
  newline_not_mem_linesFrom [] s (by simp)

theorem stripCarriageReturn_of_last {front : List Char} {c : Char} (solid : isWhitespace c = false) :
    stripCarriageReturn (front ++ [c]) = front ++ [c] := by
  have other : c ≠ '\r' := by
    rintro rfl
    exact absurd solid (by decide)
  simp [stripCarriageReturn, other]

theorem stripCarriageReturn_of_trimmed {s : List Char} (trimmed : Trimmed s) :
    stripCarriageReturn s = s := by
  rcases List.eq_nil_or_concat' s with rfl | ⟨front, last, rfl⟩
  · rfl
  · exact stripCarriageReturn_of_last (trimmed.2 front last rfl)

/-- Lines that hold no line feed and end in no white space are read back as they were written. -/
theorem lines_unlines (ls : List (List Char))
    (solid : ∀ line ∈ ls, '\n' ∉ line ∧ stripCarriageReturn line = line) : lines (unlines ls) = ls := by
  induction ls with
  | nil => rfl
  | cons line rest ih =>
    have first := solid line List.mem_cons_self
    have text : unlines (line :: rest) = line ++ '\n' :: unlines rest := by simp [unlines]
    rw [text, lines_append_newline line _ first.1, first.2, ih fun l member => solid l (List.mem_cons_of_mem _ member)]

/-! ## Splitting -/

def splitOnce (c : Char) : List Char → Option (List Char × List Char)
  | [] => none
  | x :: rest => if x = c then some ([], rest) else (splitOnce c rest).map fun (a, b) => (x :: a, b)

theorem splitOnce_append (c : Char) (a b : List Char) (absent : c ∉ a) :
    splitOnce c (a ++ c :: b) = some (a, b) := by
  induction a with
  | nil => simp [splitOnce]
  | cons x rest ih =>
    have other : x ≠ c := fun same => absent (same ▸ List.mem_cons_self)
    have later : c ∉ rest := fun member => absent (List.mem_cons_of_mem _ member)
    simp [splitOnce, other, ih later]

theorem splitOnce_eq_some {c : Char} {s a b : List Char} (split : splitOnce c s = some (a, b)) :
    s = a ++ c :: b ∧ c ∉ a := by
  induction s generalizing a with
  | nil => simp [splitOnce] at split
  | cons x rest ih =>
    simp only [splitOnce] at split
    split at split
    next same =>
      simp only [Option.some.injEq, Prod.mk.injEq] at split
      obtain ⟨rfl, rfl⟩ := split
      simp [same]
    next other =>
      simp only [Option.map_eq_some_iff, Prod.exists, Prod.mk.injEq] at split
      obtain ⟨front, back, found, rfl, rfl⟩ := split
      obtain ⟨rfl, absent⟩ := ih found
      simp only [List.cons_append, List.mem_cons, not_or, true_and]
      exact ⟨fun same => other same.symm, absent⟩

/-! ## Inline values -/

/-- A nonempty text that a line can carry: one line, no white space at its ends. -/
structure Inline (s : List Char) : Prop where
  nonempty : s ≠ []
  trimmed : Trimmed s
  oneLine : '\n' ∉ s

theorem Inline.trim {s : List Char} (inline : Inline s) : trim s = s := trim_of_trimmed inline.trimmed

theorem inline_iff (s : List Char) : Inline s ↔ s ≠ [] ∧ Text.trim s = s ∧ '\n' ∉ s :=
  ⟨fun h => ⟨h.nonempty, h.trim, h.oneLine⟩, fun h => ⟨h.1, (trim_eq_self_iff s).mp h.2.1, h.2.2⟩⟩

instance (s : List Char) : Decidable (Inline s) := decidable_of_iff' _ (inline_iff s)

theorem inline_trim {s : List Char} (nonempty : Text.trim s ≠ []) (oneLine : '\n' ∉ s) :
    Inline (Text.trim s) :=
  ⟨nonempty, trimmed_trim s, fun member => oneLine (mem_of_mem_trim member)⟩

theorem inline_of_solid {s : List Char} (nonempty : s ≠ []) (solid : ∀ c ∈ s, isWhitespace c = false) :
    Inline s where
  nonempty := nonempty
  trimmed := by
    constructor
    · rintro c rest rfl
      exact solid c List.mem_cons_self
    · rintro front c rfl
      exact solid c (by simp)
  oneLine := fun member => by simpa [isWhitespace_newline] using solid _ member

end Millrace.Text

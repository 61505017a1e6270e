import Mathlib
import Millrace.Governance.Moments

/-! A lawful time library over a table of known texts, which spells every other moment in strokes. -/

set_option autoImplicit false

namespace Millrace.WorkDocuments
open Millrace.Text

section
variable [Rfc3339]

theorem Timestamp.read (t : Timestamp) : ∃ instant, Rfc3339.parse t.text = .ok instant := by
  have parses := t.parses
  cases read : Rfc3339.parse t.text with
  | ok instant => exact ⟨instant, rfl⟩
  | error message => simp [read, Except.isOk, Except.toBool] at parses

theorem Timestamp.instant_of_read {t : Timestamp} {instant : OffsetDateTime} (read : Rfc3339.parse t.text = .ok instant) :
    t.instant = instant := by
  unfold Timestamp.instant
  split
  next other read' => exact Except.ok.inj (read'.symm.trans read)
  next message rejected => cases rejected.symm.trans read

end

/-- Texts of RFC 3339 with what they say. -/
structure KnownMoments where
  table : List (String × OffsetDateTime)
  distinct : (table.map (·.1)).Nodup
  tidy : ∀ known ∈ table, trim known.1.toList = known.1.toList ∧ known.1 ≠ ""
  printable : ∀ known ∈ table, known.2.moment.Printable
  other : ∀ known ∈ table, known.1.toList.all (· = 'x') = false

namespace KnownMoments

/-! ## Strokes -/

def strokes (n : Nat) : String := String.ofList (List.replicate (n + 1) 'x')

@[simp] theorem toList_strokes (n : Nat) : (strokes n).toList = List.replicate (n + 1) 'x' := String.toList_ofList

theorem strokes_ne_empty (n : Nat) : strokes n ≠ "" := by
  intro none
  have same := congrArg String.toList none
  simp [List.replicate_succ] at same

theorem trim_strokes (n : Nat) : trim (strokes n).toList = (strokes n).toList := by
  rw [toList_strokes]
  apply trim_of_trimmed
  constructor
  · intro c rest same
    have solid : c = 'x' := List.eq_of_mem_replicate (same ▸ List.mem_cons_self)
    rw [solid]
    decide
  · intro front c same
    have solid : c = 'x' := List.eq_of_mem_replicate (same ▸ List.mem_append_right _ (List.mem_singleton_self c))
    rw [solid]
    decide

/-- The moment as one number: its local nanoseconds and the minutes of its offset. -/
def number (m : Moment) : Nat := Nat.pair m.localTime.toNat (m.offsetSeconds / 60 + 1439).toNat

/-- The nanoseconds are counted from the start of the year 0. -/
def ofNumber (n : Nat) : OffsetDateTime where
  year := 0
  month := 1
  day := 1
  hour := 0
  minute := 0
  second := n.unpair.1 / 1000000000
  nanosecond := n.unpair.1 % 1000000000
  offsetSeconds := ((n.unpair.2 : Int) - 1439) * 60

theorem moment_ofNumber (m : Moment) (printable : m.Printable) : (ofNumber (number m)).moment = m := by
  obtain ⟨start, -, minutes, within⟩ := printable
  have offset : (((m.offsetSeconds / 60 + 1439).toNat : Int) - 1439) * 60 = m.offsetSeconds := by omega
  ext
  · have days : daysBeforeYear 0 + daysBeforeMonth 0 1 + (1 - 1) = 0 := by decide
    have time : (m.localTime.toNat : Int) = m.nanoseconds + m.offsetSeconds * 1000000000 := Int.toNat_of_nonneg start
    simp only [OffsetDateTime.moment, OffsetDateTime.nanoseconds, ofNumber, number, Nat.unpair_pair, days, offset]
    omega
  · simp only [OffsetDateTime.moment, ofNumber, number, Nat.unpair_pair, offset]

/-! ## The library -/

variable (known : KnownMoments)

abbrev reader : Rfc3339 where
  parse text :=
    match known.table.find? (·.1 = text) with
    | some found => .ok found.2
    | none =>
      let spelled := ofNumber (text.toList.length - 1)
      if spelled.moment.Printable then .ok spelled else .error "unknown moment"

abbrev writer : Rfc3339Writer where
  format m :=
    match known.table.find? (·.2.moment = m) with
    | some found => .ok found.1
    | none => .ok (strokes (number m))

theorem read_printable {text : String} {instant : OffsetDateTime} (read : known.reader.parse text = .ok instant) :
    instant.moment.Printable := by
  unfold reader at read
  dsimp only at read
  split at read
  next found here =>
    cases read
    exact known.printable found (List.mem_of_find?_eq_some here)
  next =>
    split at read
    next printable =>
      cases read
      exact printable
    next => cases read

theorem find_text {text : String} {instant : OffsetDateTime} (there : (text, instant) ∈ known.table) :
    known.table.find? (·.1 = text) = some (text, instant) := by
  have distinct := known.distinct
  generalize known.table = table at there distinct
  induction table with
  | nil => cases there
  | cons head rest ih =>
    rw [List.map_cons, List.nodup_cons] at distinct
    rcases List.mem_cons.mp there with rfl | later
    · simp
    · have other : head.1 ≠ text := fun same => distinct.1 (same ▸ List.mem_map_of_mem later)
      rw [List.find?_cons_of_neg (by simpa using other)]
      exact ih later distinct.2

theorem read_strokes (n : Nat) (printable : (ofNumber n).moment.Printable) :
    known.reader.parse (strokes n) = .ok (ofNumber n) := by
  have missing : known.table.find? (·.1 = strokes n) = none := by
    apply List.find?_eq_none.mpr
    intro entry there same
    have unlike := known.other entry there
    rw [of_decide_eq_true same, toList_strokes] at unlike
    simp at unlike
  have count : (strokes n).toList.length - 1 = n := by simp
  unfold reader
  dsimp only
  rw [missing]
  dsimp only
  rw [count, if_pos printable]

/-- A text as a timestamp. -/
theorem timestamp_of_read {text : String} {instant : OffsetDateTime} (trimmed : trim text.toList = text.toList)
    (nonempty : text ≠ "") (read : known.reader.parse text = .ok instant) :
    ∃ t : @Timestamp known.reader, @Timestamp.text known.reader t = text ∧ @Timestamp.instant known.reader t = instant := by
  let reads : Rfc3339 := known.reader
  refine ⟨⟨text, trimmed, nonempty, by rw [read]; rfl⟩, rfl, ?_⟩
  exact Timestamp.instant_of_read read

theorem lawful : @Rfc3339Writer.Lawful known.reader known.writer := by
  let reads : Rfc3339 := known.reader
  let writes : Rfc3339Writer := known.writer
  constructor
  · intro t
    obtain ⟨instant, read⟩ := t.read
    rw [Timestamp.instant_of_read read]
    exact known.read_printable read
  · intro m printable
    cases found : known.table.find? (·.2.moment = m) with
    | some entry =>
      have there := List.mem_of_find?_eq_some found
      have same : entry.2.moment = m := by simpa using List.find?_some found
      have read : known.reader.parse entry.1 = .ok entry.2 := by
        unfold reader
        dsimp only
        rw [known.find_text there]
      obtain ⟨t, text, instant⟩ := known.timestamp_of_read (known.tidy entry there).1 (known.tidy entry there).2 read
      refine ⟨t, ?_, by rw [instant, same]⟩
      rw [text]
      unfold writer
      dsimp only
      rw [found]
    | none =>
      have spelled := moment_ofNumber m printable
      have read := known.read_strokes (number m) (by rw [spelled]; exact printable)
      obtain ⟨t, text, instant⟩ := @timestamp_of_read known (strokes (number m)) (ofNumber (number m)) (trim_strokes (number m))
        (strokes_ne_empty (number m)) read
      refine ⟨t, ?_, by rw [instant, spelled]⟩
      rw [text]
      unfold writer
      dsimp only
      rw [found]

end KnownMoments

/-! ## A morning -/

section Morning

/-- Some hours of a Thursday, and the Monday after it. -/
def morning : KnownMoments where
  table := [
    ("2026-01-01T09:00:00Z", ⟨2026, 1, 1, 9, 0, 0, 0, 0⟩),
    ("2026-01-01T09:59:59.999999999+01:00", ⟨2026, 1, 1, 9, 59, 59, 999999999, 3600⟩),
    ("2026-01-01T10:00:00Z", ⟨2026, 1, 1, 10, 0, 0, 0, 0⟩),
    ("2026-01-01T14:00:00Z", ⟨2026, 1, 1, 14, 0, 0, 0, 0⟩),
    ("2026-01-01T15:00:00Z", ⟨2026, 1, 1, 15, 0, 0, 0, 0⟩),
    ("2026-01-05T00:00:00Z", ⟨2026, 1, 5, 0, 0, 0, 0, 0⟩)]
  distinct := by decide +kernel
  tidy := by decide +kernel
  printable := by decide +kernel
  other := by decide +kernel

local instance morningReader : Rfc3339 := morning.reader

def nine : Timestamp :=
  ⟨"2026-01-01T09:00:00Z", @Timestamp.trimmed Queue.twoZones Queue.inLondon,
    @Timestamp.nonempty Queue.twoZones Queue.inLondon, by decide +kernel⟩

/-- A nanosecond before nine, as the clocks of Paris write it. -/
def justBeforeNine : Timestamp := ⟨"2026-01-01T09:59:59.999999999+01:00", by decide +kernel, by decide, by decide +kernel⟩

def ten : Timestamp := ⟨"2026-01-01T10:00:00Z", by decide +kernel, by decide, by decide +kernel⟩

def fourteen : Timestamp := ⟨"2026-01-01T14:00:00Z", by decide +kernel, by decide, by decide +kernel⟩

def fifteen : Timestamp := ⟨"2026-01-01T15:00:00Z", by decide +kernel, by decide, by decide +kernel⟩

def monday : Timestamp := ⟨"2026-01-05T00:00:00Z", by decide +kernel, by decide, by decide +kernel⟩

end Morning

end Millrace.WorkDocuments

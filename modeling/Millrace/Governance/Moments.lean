import Millrace.Workspace.TaskClaims

/-! The arithmetic of the time library on moments with an offset, and the text of a moment. -/

set_option autoImplicit false

namespace Millrace.WorkDocuments

def second : Int := 1000000000

def day : Int := 86400 * second

/-- An instant with the offset at which it is written. -/
@[ext] structure Moment where
  nanoseconds : Int
  offsetSeconds : Int
  deriving DecidableEq, Repr

namespace Moment

/-- The local time, on the line that starts with the year 0. -/
def localTime (m : Moment) : Int := m.nanoseconds + m.offsetSeconds * second

/-- The end of the year 9999, which is the last one of the library. -/
def endOfTime : Int := (daysBeforeYear 10000 : Int) * day

/-- RFC 3339 writes the years 0 to 9999, and offsets of whole minutes below a day. -/
structure Printable (m : Moment) : Prop where
  start : 0 ≤ m.localTime
  before : m.localTime < endOfTime
  minutes : m.offsetSeconds % 60 = 0
  within : -86400 < m.offsetSeconds ∧ m.offsetSeconds < 86400

instance (m : Moment) : Decidable m.Printable :=
  decidable_of_iff (0 ≤ m.localTime ∧ m.localTime < endOfTime ∧ m.offsetSeconds % 60 = 0 ∧
      (-86400 < m.offsetSeconds ∧ m.offsetSeconds < 86400))
    ⟨fun ⟨start, before, minutes, within⟩ => ⟨start, before, minutes, within⟩,
      fun ⟨start, before, minutes, within⟩ => ⟨start, before, minutes, within⟩⟩

def shifted (m : Moment) (nanoseconds : Int) : Moment := { m with nanoseconds := m.nanoseconds + nanoseconds }

@[simp] theorem shifted_nanoseconds (m : Moment) (n : Int) : (m.shifted n).nanoseconds = m.nanoseconds + n := rfl

@[simp] theorem shifted_offsetSeconds (m : Moment) (n : Int) : (m.shifted n).offsetSeconds = m.offsetSeconds := rfl

theorem shifted_localTime (m : Moment) (n : Int) : (m.shifted n).localTime = m.localTime + n := by
  unfold localTime shifted
  dsimp only
  omega

/-- A later moment, where the library can represent it. -/
def later (m : Moment) (nanoseconds : Int) : Option Moment :=
  if (m.shifted nanoseconds).localTime < endOfTime then some (m.shifted nanoseconds) else none

theorem later_eq_some {m m' : Moment} {n : Int} :
    m.later n = some m' ↔ m.localTime + n < endOfTime ∧ m' = m.shifted n := by
  unfold later
  rw [shifted_localTime]
  split
  next fits => simp [fits, eq_comm]
  next beyond => simp [beyond]

theorem later_isSome {m : Moment} {n : Int} : (m.later n).isSome ↔ m.localTime + n < endOfTime := by
  unfold later
  rw [shifted_localTime]
  split <;> simp_all

theorem Printable.later {m m' : Moment} (printable : m.Printable) {n : Int} (forward : 0 ≤ m.localTime + n)
    (ran : m.later n = some m') : m'.Printable := by
  obtain ⟨fits, rfl⟩ := later_eq_some.mp ran
  exact ⟨by rwa [shifted_localTime], by rwa [shifted_localTime], printable.minutes, printable.within⟩

/-- The number of days from Monday; the year 0 began on a Saturday. -/
def daysFromMonday (m : Moment) : Int := (m.localTime / day + 5) % 7

/-- Monday's midnight before the moment, at its offset. -/
def weekStart (m : Moment) : Moment := m.shifted (-(m.localTime % day) - m.daysFromMonday * day)

theorem weekStart_before (m : Moment) : m.weekStart.nanoseconds ≤ m.nanoseconds := by
  have time : 0 ≤ m.localTime % day := Int.emod_nonneg _ (by decide)
  have days : 0 ≤ m.daysFromMonday := Int.emod_nonneg _ (by decide)
  have ofDays : 0 ≤ m.daysFromMonday * day := Int.mul_nonneg days (by decide)
  unfold weekStart
  rw [shifted_nanoseconds]
  omega

theorem weekStart_after (m : Moment) : m.localTime < m.weekStart.localTime + 7 * day := by
  have time : m.localTime % day < day := Int.emod_lt_of_pos _ (by decide)
  have days : m.daysFromMonday ≤ 6 := by
    have below : m.daysFromMonday < 7 := Int.emod_lt_of_pos _ (by decide)
    omega
  have ofDays : m.daysFromMonday * day ≤ 6 * day := Int.mul_le_mul_of_nonneg_right days (by decide)
  unfold weekStart
  rw [shifted_localTime]
  omega

end Moment

def OffsetDateTime.moment (t : OffsetDateTime) : Moment := ⟨t.nanoseconds, t.offsetSeconds⟩

/-- The RFC 3339 writer of the time library. -/
class Rfc3339Writer where
  format : Moment → Except String String

/-- What the time library says of its reader and its writer. -/
structure Rfc3339Writer.Lawful [Rfc3339] [Rfc3339Writer] : Prop where
  reads : ∀ t : Timestamp, t.instant.moment.Printable
  writes : ∀ m : Moment, m.Printable → ∃ t : Timestamp, Rfc3339Writer.format m = .ok t.text ∧ t.instant.moment = m

end Millrace.WorkDocuments

import Promotions.Calendar.Date

/-!
# Times of day and moments

A time of day counts nanoseconds from midnight. A local moment is a date with a time of day, and a
timestamp is a moment in universal time, from a little after the first date to a little before the
last one, so that it stays on the calendar in every time zone.
-/

namespace Promotions

/-- The number of nanoseconds in a second. -/
def nanosPerSecond : Nat := 1000000000

/-- The number of nanoseconds in a day. -/
def nanosPerDay : Nat := 86400000000000

/-- A time of day. -/
structure Clock where
  /-- The nanoseconds since midnight. -/
  nanos : Nat
  /-- The time is before the next midnight. -/
  nanos_lt : nanos < nanosPerDay
  deriving DecidableEq, Repr

namespace Clock

theorem ext {a b : Clock} (h : a.nanos = b.nanos) : a = b := by
  cases a; cases b; simp_all

/-- The start of the day. -/
def midnight : Clock := ⟨0, by decide⟩

instance : Inhabited Clock := ⟨midnight⟩

/-- The time of given hours, minutes, seconds and nanoseconds, if the day has it. -/
def of? (hour minute second nano : Nat) : Option Clock :=
  if h : hour < 24 ∧ minute < 60 ∧ second < 60 ∧ nano < nanosPerSecond then
    some ⟨((hour * 60 + minute) * 60 + second) * nanosPerSecond + nano, by
      simp only [nanosPerSecond, nanosPerDay] at *; omega⟩
  else none

/-- The hour. -/
def hour (t : Clock) : Nat := t.nanos / (3600 * nanosPerSecond)

/-- The minute of the hour. -/
def minute (t : Clock) : Nat := t.nanos / (60 * nanosPerSecond) % 60

/-- The second of the minute. -/
def second (t : Clock) : Nat := t.nanos / nanosPerSecond % 60

/-- The nanosecond of the second. -/
def nano (t : Clock) : Nat := t.nanos % nanosPerSecond

instance : LE Clock := ⟨fun a b => a.nanos ≤ b.nanos⟩

instance : LT Clock := ⟨fun a b => a.nanos < b.nanos⟩

instance (a b : Clock) : Decidable (a ≤ b) := inferInstanceAs (Decidable (a.nanos ≤ b.nanos))

instance (a b : Clock) : Decidable (a < b) := inferInstanceAs (Decidable (a.nanos < b.nanos))

end Clock

/-- A date with a time of day. -/
structure LocalMoment where
  /-- The date. -/
  date : Date
  /-- The time of day. -/
  clock : Clock
  deriving DecidableEq, Repr, Inhabited

namespace LocalMoment

/-- The nanoseconds since the start of the year one. -/
def nanos (m : LocalMoment) : Int := m.date.dayNumber * nanosPerDay + m.clock.nanos

/-- The moment some nanoseconds after the start of the year one. -/
def ofNanos? (n : Int) : Option LocalMoment :=
  (Date.ofDayNumber? (n / nanosPerDay)).bind fun date =>
    let rest := (n % nanosPerDay).toNat
    if h : rest < nanosPerDay then some ⟨date, rest, h⟩ else none

end LocalMoment

/-- The least number of nanoseconds of a timestamp: `-009999-01-02T01:59:59Z`. -/
def leastTimestamp : Int :=
  LocalMoment.nanos ⟨⟨-9999, 1, 2, by decide⟩, ⟨7199000000000, by decide⟩⟩

/-- The greatest number of nanoseconds of a timestamp: `9999-12-30T22:00:00.999999999Z`. -/
def greatestTimestamp : Int :=
  LocalMoment.nanos ⟨⟨9999, 12, 30, by decide⟩, ⟨79200999999999, by decide⟩⟩

/-- A moment in universal time. -/
structure Timestamp where
  /-- The date and time of day in universal time. -/
  utc : LocalMoment
  /-- The moment is not too early. -/
  lower : leastTimestamp ≤ utc.nanos
  /-- The moment is not too late. -/
  upper : utc.nanos ≤ greatestTimestamp
  deriving DecidableEq

namespace Timestamp

/-- The timestamp of a moment in universal time, if it is in range. -/
def of? (utc : LocalMoment) : Option Timestamp :=
  if h : leastTimestamp ≤ utc.nanos ∧ utc.nanos ≤ greatestTimestamp then some ⟨utc, h.1, h.2⟩
  else none

/-- The start of the year 1970. -/
def epoch : Timestamp := ⟨⟨Date.epoch, .midnight⟩, by decide, by decide⟩

instance : Inhabited Timestamp := ⟨epoch⟩

end Timestamp

end Promotions

import Promotions.Sorted.Order

/-!
# Dates

A date is a day of the Gregorian calendar, extended backwards to the year -9999 and forwards to the
year 9999. `Date.dayNumber` counts days from the first of January of the year one, a Monday; order,
weekdays and shifts by a number of days all go through it. It is injective, so the order by day
number is a total order on dates.
-/

namespace Promotions

/-- The year has a twenty-ninth of February. -/
def isLeapYear (year : Int) : Bool :=
  year % 4 == 0 && (year % 100 != 0 || year % 400 == 0)

/-- The number of days in a month. -/
def daysInMonth (year : Int) (month : Nat) : Nat :=
  match month with
  | 2 => if isLeapYear year then 29 else 28
  | 4 | 6 | 9 | 11 => 30
  | _ => 31

/-- The number of days in a year before a month begins. -/
def daysBeforeMonth (year : Int) : Nat → Nat
  | 0 => 0
  | month + 1 => if month = 0 then 0 else daysBeforeMonth year month + daysInMonth year month

/-- The numbers are a day of the calendar. -/
def IsDate (year : Int) (month day : Nat) : Prop :=
  (-9999 ≤ year ∧ year ≤ 9999) ∧ (1 ≤ month ∧ month ≤ 12) ∧
    (1 ≤ day ∧ day ≤ daysInMonth year month)

instance (year : Int) (month day : Nat) : Decidable (IsDate year month day) :=
  inferInstanceAs (Decidable (_ ∧ _))

/-- A day of the Gregorian calendar. -/
structure Date where
  /-- The year; the year zero comes before the year one. -/
  year : Int
  /-- The month, January being one. -/
  month : Nat
  /-- The day of the month. -/
  day : Nat
  /-- The calendar has this day. -/
  isDate : IsDate year month day
  deriving DecidableEq, Repr

namespace Date

theorem ext {a b : Date} (hy : a.year = b.year) (hm : a.month = b.month) (hd : a.day = b.day) :
    a = b := by
  cases a; cases b; simp_all

/-- The date of given numbers, if the calendar has it. -/
def of? (year : Int) (month day : Nat) : Option Date :=
  if h : IsDate year month day then some ⟨year, month, day, h⟩ else none

/-- The first date. -/
def first : Date := ⟨-9999, 1, 1, by decide⟩

/-- The last date. -/
def last : Date := ⟨9999, 12, 31, by decide⟩

/-- The first of January 1970. -/
def epoch : Date := ⟨1970, 1, 1, by decide⟩

instance : Inhabited Date := ⟨epoch⟩

/-- The day number of the first of January. -/
def yearStart (year : Int) : Int :=
  365 * (year - 1) + (year - 1) / 4 - (year - 1) / 100 + (year - 1) / 400

/-- The place of a day in its year, the first being zero. -/
def dayOfYear (year : Int) (month day : Nat) : Nat := daysBeforeMonth year month + (day - 1)

/-- The number of days from the first of January of the year one. -/
def dayNumber (d : Date) : Int := yearStart d.year + dayOfYear d.year d.month d.day

/-- The number of days in a year. -/
def daysInYear (year : Int) : Nat := if isLeapYear year then 366 else 365

theorem yearStart_succ (year : Int) : yearStart (year + 1) = yearStart year + daysInYear year := by
  simp only [yearStart, daysInYear, isLeapYear, Bool.and_eq_true, Bool.or_eq_true, beq_iff_eq,
    bne_iff_ne]
  split <;> omega

theorem yearStart_lt_of_lt {a b : Int} (h : a < b) : yearStart a + daysInYear a ≤ yearStart b := by
  rw [← yearStart_succ]
  simp only [yearStart]
  omega

theorem daysBeforeMonth_add_le (year : Int) {m m' : Nat} (h : m < m') (hm : 1 ≤ m) :
    daysBeforeMonth year m + daysInMonth year m ≤ daysBeforeMonth year m' := by
  induction m' with
  | zero => omega
  | succ k ih =>
    rw [daysBeforeMonth, if_neg (by omega)]
    rcases Nat.lt_or_ge m k with hk | hk
    · have := ih hk; omega
    · have : m = k := by omega
      subst this; omega

theorem daysBeforeMonth_end (year : Int) : daysBeforeMonth year 13 = daysInYear year := by
  cases hl : isLeapYear year <;> simp [daysBeforeMonth, daysInMonth, daysInYear, hl]

theorem dayOfYear_lt {year : Int} {month day : Nat} (h : IsDate year month day) :
    dayOfYear year month day < daysInYear year := by
  obtain ⟨-, ⟨h1, h12⟩, hd1, hd⟩ := h
  have := daysBeforeMonth_add_le year (show month < 13 by omega) h1
  rw [daysBeforeMonth_end] at this
  simp only [dayOfYear]
  omega

theorem dayOfYear_injective {year : Int} {m m' d d' : Nat} (h : IsDate year m d)
    (h' : IsDate year m' d') (he : dayOfYear year m d = dayOfYear year m' d') :
    m = m' ∧ d = d' := by
  obtain ⟨-, ⟨h1, -⟩, hd1, hd⟩ := h
  obtain ⟨-, ⟨h1', -⟩, hd1', hd'⟩ := h'
  simp only [dayOfYear] at he
  rcases Nat.lt_trichotomy m m' with hlt | rfl | hlt
  · have := daysBeforeMonth_add_le year hlt h1; omega
  · omega
  · have := daysBeforeMonth_add_le year hlt h1'; omega

/-- Two dates with one day number are the same. -/
theorem dayNumber_injective {a b : Date} (h : a.dayNumber = b.dayNumber) : a = b := by
  have ha := dayOfYear_lt a.isDate
  have hb := dayOfYear_lt b.isDate
  simp only [dayNumber] at h
  have hy : a.year = b.year := by
    rcases Int.lt_trichotomy a.year b.year with hlt | heq | hlt
    · have := yearStart_lt_of_lt hlt; omega
    · exact heq
    · have := yearStart_lt_of_lt hlt; omega
  obtain ⟨y, m, d, hd⟩ := a
  obtain ⟨y', m', d', hd'⟩ := b
  cases hy
  have he : dayOfYear y m d = dayOfYear y m' d' := by simp only at h; omega
  obtain ⟨rfl, rfl⟩ := dayOfYear_injective hd hd' he
  rfl

instance : LE Date := ⟨fun a b => a.dayNumber ≤ b.dayNumber⟩

instance : LT Date := ⟨fun a b => a.dayNumber < b.dayNumber⟩

instance (a b : Date) : Decidable (a ≤ b) :=
  inferInstanceAs (Decidable (a.dayNumber ≤ b.dayNumber))

instance (a b : Date) : Decidable (a < b) :=
  inferInstanceAs (Decidable (a.dayNumber < b.dayNumber))

instance : Ordered Date := Ordered.lift dayNumber dayNumber_injective

/-- The year, and the place in it, of the day with a number. The days are counted off in spans of
four hundred, one hundred, four and single years. -/
def splitDayNumber (n : Int) : Int × Nat :=
  let inCycle := (n % 146097).toNat
  let century := min 3 (inCycle / 36524)
  let inCentury := inCycle - 36524 * century
  let inOlympiad := inCentury % 1461
  let single := min 3 (inOlympiad / 365)
  (400 * (n / 146097) + 100 * century + 4 * (inCentury / 1461 : Nat) + single + 1,
    inOlympiad - 365 * single)

/-- The month and day of the place `n` in what is left of a year from `month` on. -/
def splitDayOfYear (year : Int) : List Nat → Nat → Option (Nat × Nat)
  | [], _ => none
  | month :: rest, n =>
    if n < daysInMonth year month then some (month, n + 1)
    else splitDayOfYear year rest (n - daysInMonth year month)

/-- The date with a day number, if the calendar reaches so far. -/
def ofDayNumber? (n : Int) : Option Date :=
  let (year, place) := splitDayNumber n
  (splitDayOfYear year [1, 2, 3, 4, 5, 6, 7, 8, 9, 10, 11, 12] place).bind fun (month, day) =>
    of? year month day

/-- The weekday, Monday being zero. -/
def weekday (d : Date) : Nat := (d.dayNumber % 7).toNat

/-- The date some days later, or earlier if `days` is negative; past its ends the calendar stays at
its first or last date. -/
def shift (d : Date) (days : Int) : Date :=
  match ofDayNumber? (d.dayNumber + days) with
  | some shifted => shifted
  | none => if days < 0 then first else last

end Date

end Promotions

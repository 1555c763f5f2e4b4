import Mathlib.Data.Int.Init
import Promotions.Proofs.Text.Calendar

/-!
# Proofs: dates and their numbers

Dates stand in the order of their numbers, which is the order of year, month and day, and every
number from that of the first date to that of the last one belongs to a date. So the difference of
two numbers is how many days lie between their dates, and a date that is moved by some days is the
date with that difference, or the end of the calendar that lies in the way.
-/

namespace Promotions.Date

/-! ## Every number in range is that of a date -/

/-- Every number is that of a day of some year, on the calendar or beyond it. -/
theorem exists_yearStart (n : Int) :
    ∃ (year : Int) (place : Nat), place < daysInYear year ∧ yearStart year + place = n := by
  have hpos (year : Int) : 0 < daysInYear year := by
    rw [daysInYear]
    split <;> decide
  induction n using Int.induction_on with
  | zero => exact ⟨1, 0, by decide, by decide⟩
  | succ n ih =>
    obtain ⟨year, place, hplace, hn⟩ := ih
    by_cases hnext : place + 1 < daysInYear year
    · exact ⟨year, place + 1, hnext, by omega⟩
    · have hsucc := yearStart_succ year
      exact ⟨year + 1, 0, hpos _, by omega⟩
  | pred n ih =>
    obtain ⟨year, place, hplace, hn⟩ := ih
    by_cases hstart : place = 0
    · have hsucc := yearStart_succ (year - 1)
      have hlast := hpos (year - 1)
      rw [Int.sub_add_cancel] at hsucc
      exact ⟨year - 1, daysInYear (year - 1) - 1, by omega, by omega⟩
    · exact ⟨year, place - 1, by omega, by omega⟩

/-- A place in a year before a month begins is a day of an earlier month. -/
theorem exists_dayOfYear {year : Int} {place count : Nat}
    (h : place < daysBeforeMonth year (count + 1)) :
    ∃ month day, (1 ≤ month ∧ month ≤ count) ∧ (1 ≤ day ∧ day ≤ daysInMonth year month) ∧
      dayOfYear year month day = place := by
  induction count with
  | zero => exact absurd h (Nat.not_lt_zero _)
  | succ count ih =>
    rw [daysBeforeMonth, if_neg (Nat.succ_ne_zero count)] at h
    by_cases hbefore : place < daysBeforeMonth year (count + 1)
    · obtain ⟨month, day, hmonth, hday, hplace⟩ := ih hbefore
      exact ⟨month, day, ⟨hmonth.1, by omega⟩, hday, hplace⟩
    · refine ⟨count + 1, place - daysBeforeMonth year (count + 1) + 1, by omega, by omega, ?_⟩
      rw [dayOfYear]
      omega

/-- The day of a number is looked up by its year and its place in it. -/
theorem ofDayNumber?_yearStart {year : Int} {place : Nat} (h : place < daysInYear year) :
    ∃ month day, (1 ≤ month ∧ month ≤ 12) ∧ (1 ≤ day ∧ day ≤ daysInMonth year month) ∧
      dayOfYear year month day = place ∧
      ofDayNumber? (yearStart year + place) = of? year month day := by
  have hyear : place < daysBeforeMonth year (12 + 1) := by rwa [daysBeforeMonth_end]
  obtain ⟨month, day, hmonth, hday, hplace⟩ := exists_dayOfYear hyear
  have hfound := splitDayOfYear_dayOfYear hmonth hday
  refine ⟨month, day, hmonth, hday, hplace, ?_⟩
  rw [hplace] at hfound
  rw [ofDayNumber?, splitDayNumber_yearStart h]
  exact congrArg (Option.bind · fun p => of? year p.1 p.2) hfound

theorem ofDayNumber?_eq_some_iff {n : Int} {d : Date} :
    ofDayNumber? n = some d ↔ d.dayNumber = n := by
  refine ⟨fun h => ?_, fun h => h ▸ ofDayNumber?_dayNumber d⟩
  obtain ⟨year, place, hplace, rfl⟩ := exists_yearStart n
  obtain ⟨month, day, -, -, hday, hlookup⟩ := ofDayNumber?_yearStart hplace
  rw [hlookup, of?] at h
  split at h
  · obtain rfl := Option.some.inj h
    rw [dayNumber, hday]
  · cases h

theorem yearStart_mono {a b : Int} (h : a ≤ b) : yearStart a ≤ yearStart b := by
  rcases Int.lt_or_eq_of_le h with hlt | rfl
  · have hstart := yearStart_lt_of_lt hlt
    omega
  · exact Int.le_refl _

theorem dayNumber_first : first.dayNumber = yearStart (-9999) := by decide

theorem dayNumber_last : last.dayNumber + 1 = yearStart 10000 := by decide

theorem first_le (d : Date) : first ≤ d := by
  have hstart := yearStart_mono d.isDate.1.1
  show first.dayNumber ≤ d.dayNumber
  rw [dayNumber_first, dayNumber]
  omega

theorem le_last (d : Date) : d ≤ last := by
  have hnext := yearStart_mono (Int.add_le_add_right d.isDate.1.2 1)
  have hplace := dayOfYear_lt d.isDate
  have hlast : last.dayNumber + 1 = yearStart (9999 + 1) := dayNumber_last
  rw [yearStart_succ d.year] at hnext
  show d.dayNumber ≤ last.dayNumber
  rw [dayNumber]
  omega

/-- A number belongs to a date just if the calendar reaches so far. -/
theorem exists_dayNumber_eq_iff {n : Int} :
    (∃ d : Date, d.dayNumber = n) ↔ first.dayNumber ≤ n ∧ n ≤ last.dayNumber := by
  constructor
  · rintro ⟨d, rfl⟩
    exact ⟨first_le d, le_last d⟩
  · rintro ⟨hfirst, hlast⟩
    obtain ⟨year, place, hplace, rfl⟩ := exists_yearStart n
    obtain ⟨month, day, hmonth, hday, hplaceOf, -⟩ := ofDayNumber?_yearStart hplace
    -- a year before the first ends too early, one after the last starts too late
    have hleast : -9999 ≤ year := by
      by_contra hless
      have hend := yearStart_lt_of_lt (Int.not_le.1 hless)
      rw [dayNumber_first] at hfirst
      omega
    have hgreatest : year < 10000 := by
      by_contra hmore
      have hstart := yearStart_mono (Int.not_lt.1 hmore)
      have hlastOf := dayNumber_last
      omega
    exact ⟨⟨year, month, day, ⟨hleast, Int.le_of_lt_add_one hgreatest⟩, hmonth, hday⟩,
      by rw [dayNumber, hplaceOf]⟩

theorem ofDayNumber?_eq_none_iff {n : Int} :
    ofDayNumber? n = none ↔ n < first.dayNumber ∨ last.dayNumber < n := by
  have hsome : (∃ d, ofDayNumber? n = some d) ↔ first.dayNumber ≤ n ∧ n ≤ last.dayNumber := by
    simp only [ofDayNumber?_eq_some_iff, exists_dayNumber_eq_iff]
  rw [Option.eq_none_iff_forall_ne_some, ← not_exists, hsome]
  omega

/-! ## The order of dates -/

theorem dayNumber_lt_of_lt {a b : Date}
    (h : a.year < b.year ∨
      a.year = b.year ∧ (a.month < b.month ∨ a.month = b.month ∧ a.day < b.day)) :
    a.dayNumber < b.dayNumber := by
  rw [dayNumber, dayNumber]
  rcases h with hyear | ⟨hyear, hmonth | ⟨hmonth, hday⟩⟩
  · have hplace := dayOfYear_lt a.isDate
    have hstart := yearStart_lt_of_lt hyear
    omega
  · have hnext := daysBeforeMonth_add_le b.year hmonth a.isDate.2.1.1
    have hin := a.isDate.2.2
    rw [hyear] at hin ⊢
    rw [dayOfYear, dayOfYear]
    omega
  · have hleast := a.isDate.2.2.1
    rw [dayOfYear, dayOfYear, hyear, hmonth]
    omega

/-- Dates stand in the order of their years, then of their months, then of their days. -/
theorem lt_iff {a b : Date} :
    a < b ↔ a.year < b.year ∨
      a.year = b.year ∧ (a.month < b.month ∨ a.month = b.month ∧ a.day < b.day) := by
  refine ⟨fun h => ?_, dayNumber_lt_of_lt⟩
  have hnumber : a.dayNumber < b.dayNumber := h
  by_contra hnot
  have hback : ¬b.dayNumber < a.dayNumber := by omega
  have hnotBack := mt dayNumber_lt_of_lt hback
  have hsame : a = b := ext (by omega) (by omega) (by omega)
  rw [hsame] at hnumber
  exact Int.lt_irrefl _ hnumber

/-! ## Dates moved by some days -/

/-- A date that is moved by some days stops at the ends of the calendar. -/
theorem dayNumber_shift (d : Date) (days : Int) :
    (d.shift days).dayNumber =
      max first.dayNumber (min (d.dayNumber + days) last.dayNumber) := by
  have hfirst : first.dayNumber ≤ d.dayNumber := first_le d
  have hlast : d.dayNumber ≤ last.dayNumber := le_last d
  rw [shift]
  cases hmoved : ofDayNumber? (d.dayNumber + days) with
  | some moved =>
    have hnumber := ofDayNumber?_eq_some_iff.1 hmoved
    have hleast : first.dayNumber ≤ moved.dayNumber := first_le moved
    have hgreatest : moved.dayNumber ≤ last.dayNumber := le_last moved
    dsimp only
    omega
  | none =>
    have hbeyond := ofDayNumber?_eq_none_iff.1 hmoved
    by_cases hback : days < 0
    · simp only [if_pos hback]
      omega
    · simp only [if_neg hback]
      omega

theorem le_shift_iff {a d : Date} {days : Int} (h : 0 ≤ days) :
    a ≤ d.shift days ↔ a.dayNumber ≤ d.dayNumber + days := by
  have hfirst : first.dayNumber ≤ d.dayNumber := first_le d
  have hlast : a.dayNumber ≤ last.dayNumber := le_last a
  show a.dayNumber ≤ (d.shift days).dayNumber ↔ _
  rw [dayNumber_shift]
  omega

theorem shift_le_iff {a d : Date} {days : Int} (h : days ≤ 0) :
    d.shift days ≤ a ↔ d.dayNumber + days ≤ a.dayNumber := by
  have hfirst : first.dayNumber ≤ a.dayNumber := first_le a
  have hlast : d.dayNumber ≤ last.dayNumber := le_last d
  show (d.shift days).dayNumber ≤ a.dayNumber ↔ _
  rw [dayNumber_shift]
  omega

/-- The greatest number of days that a span has. -/
def greatestSpan : Nat := 7304484

/-- Adding days to a date is exact where it has an answer, and it has one unless the span is too
long or leads off the calendar. -/
structure IsExactAddition (add : Date → Int → Option Date) : Prop where
  exact : ∀ {d moved : Date} {days : Int}, add d days = some moved →
    moved.dayNumber = d.dayNumber + days
  answers : ∀ {d moved : Date} {days : Int}, days.natAbs ≤ greatestSpan →
    moved.dayNumber = d.dayNumber + days → (add d days).isSome

/-- The date some days later, where the span is not too long. -/
def addSpan? (d : Date) (days : Int) : Option Date :=
  if days.natAbs ≤ greatestSpan then ofDayNumber? (d.dayNumber + days) else none

theorem isExactAddition_addSpan? : IsExactAddition addSpan? where
  exact h := by
    rw [addSpan?, Option.ite_none_right_eq_some] at h
    exact ofDayNumber?_eq_some_iff.1 h.2
  answers hspan hmoved := by
    rw [addSpan?, if_pos hspan, ofDayNumber?_eq_some_iff.2 hmoved]
    rfl

/-- The calendar is shorter than the longest span, so a date that is moved stops at its ends however
days are added. -/
theorem shift_eq_getD {add : Date → Int → Option Date} (h : IsExactAddition add) (d : Date)
    (days : Int) : d.shift days = (add d days).getD (if days < 0 then first else last) := by
  cases hadd : add d days with
  | some moved =>
    rw [shift, ofDayNumber?_eq_some_iff.2 (h.exact hadd)]
    rfl
  | none =>
    have hlength : last.dayNumber - first.dayNumber ≤ greatestSpan := by decide
    have hfirst : first.dayNumber ≤ d.dayNumber := first_le d
    have hlast : d.dayNumber ≤ last.dayNumber := le_last d
    have hbeyond : ofDayNumber? (d.dayNumber + days) = none := by
      cases hmoved : ofDayNumber? (d.dayNumber + days) with
      | none => rfl
      | some moved =>
        have hnumber := ofDayNumber?_eq_some_iff.1 hmoved
        have hleast : first.dayNumber ≤ moved.dayNumber := first_le moved
        have hgreatest : moved.dayNumber ≤ last.dayNumber := le_last moved
        have hsome := h.answers (by omega) hnumber
        rw [hadd] at hsome
        cases hsome
    rw [shift, hbeyond]
    rfl

theorem shift_ahead {add : Date → Int → Option Date} (h : IsExactAddition add) (d : Date)
    {days : Int} (hdays : 0 ≤ days) : d.shift days = (add d days).getD last := by
  rw [shift_eq_getD h, if_neg (Int.not_lt.2 hdays)]

theorem shift_back {add : Date → Int → Option Date} (h : IsExactAddition add) (d : Date)
    {days : Int} (hdays : days ≤ 0) : d.shift days = (add d days).getD first := by
  rw [shift_eq_getD h]
  rcases Int.lt_or_eq_of_le hdays with hback | rfl
  · rw [if_pos hback]
  · -- a date that is not moved is on the calendar
    have hstays : (add d 0).isSome := h.answers (Nat.zero_le _) (Int.add_zero _).symm
    obtain ⟨moved, hmoved⟩ := Option.isSome_iff_exists.1 hstays
    rw [hmoved, Option.getD_some, Option.getD_some]

end Promotions.Date

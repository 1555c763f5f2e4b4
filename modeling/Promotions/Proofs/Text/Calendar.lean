import Mathlib.Data.List.Basic
import Promotions.Calendar.Text
import Promotions.Proofs.Text.Digits

/-!
# Proofs: dates and times as text

A date is found back from its number, and so is a moment from its nanoseconds. The texts of dates,
times of day and timestamps are read back, although reading takes many more spellings than writing
has: what is written names every part in its long form and nothing follows it.
-/

namespace Promotions

namespace Date

theorem of?_eq_some (d : Date) : of? d.year d.month d.day = some d := dif_pos d.isDate

theorem splitDayOfYear_range' {year : Int} {month place : Nat}
    (hplace : place < daysInMonth year month) {first : Nat} (count : Nat) (hfirst : 1 ≤ first)
    (hle : first ≤ month) (hlt : month < first + count) :
    splitDayOfYear year (List.range' first count)
        (daysBeforeMonth year month + place - daysBeforeMonth year first) =
      some (month, place + 1) := by
  induction count generalizing first with
  | zero => omega
  | succ count ih =>
    rw [List.range'_succ, splitDayOfYear]
    rcases Nat.eq_or_lt_of_le hle with rfl | hmore
    · rw [Nat.add_sub_cancel_left, if_pos hplace]
    · have hafter := daysBeforeMonth_add_le year hmore hfirst
      have hnext : daysBeforeMonth year (first + 1) =
          daysBeforeMonth year first + daysInMonth year first := if_neg (by omega)
      have hrest := ih (Nat.le_add_left 1 first) hmore (by omega)
      rw [if_neg (by omega), ← hrest, hnext]
      congr 1
      omega

/-- The month and the day are found back from the place of the day in its year. -/
theorem splitDayOfYear_dayOfYear {year : Int} {month day : Nat} (hmonth : 1 ≤ month ∧ month ≤ 12)
    (hday : 1 ≤ day ∧ day ≤ daysInMonth year month) :
    splitDayOfYear year [1, 2, 3, 4, 5, 6, 7, 8, 9, 10, 11, 12] (dayOfYear year month day) =
      some (month, day) := by
  have hplace : day - 1 < daysInMonth year month := by omega
  have h := splitDayOfYear_range' hplace 12 (Nat.le_refl 1) hmonth.1 (by omega)
  have hstart : daysBeforeMonth year 1 = 0 := rfl
  rw [hstart, Nat.sub_zero, Nat.sub_add_cancel hday.1] at h
  exact h

/-- The year and the place of a day in it are found back from the number of the day. -/
theorem splitDayNumber_yearStart {year : Int} {place : Nat} (h : place < daysInYear year) :
    splitDayNumber (yearStart year + place) = (year, place) := by
  -- cycles of four hundred years, centuries, spans of four years and single years
  obtain ⟨cycle, century, olympiad, single, hyear, hcentury, holympiad, hsingle⟩ :
      ∃ (cycle : Int) (century olympiad single : Nat),
        year = 400 * cycle + 100 * century + 4 * olympiad + single + 1 ∧
          century ≤ 3 ∧ olympiad ≤ 24 ∧ single ≤ 3 :=
    ⟨(year - 1) / 400, ((year - 1) % 400 / 100).toNat, ((year - 1) % 100 / 4).toNat,
      ((year - 1) % 4).toNat, by omega, by omega, by omega, by omega⟩
  have hstart : yearStart year =
      146097 * cycle + 36524 * century + 1461 * olympiad + 365 * single := by
    simp only [yearStart]
    omega
  have hleap : place < 365 ∨ place = 365 ∧ single = 3 ∧ (olympiad = 24 → century = 3) := by
    rw [daysInYear] at h
    split at h
    · rename_i hleap
      simp only [isLeapYear, Bool.and_eq_true, Bool.or_eq_true, beq_iff_eq, bne_iff_ne] at hleap
      omega
    · omega
  have hcycle : (yearStart year + place) / 146097 = cycle := by omega
  have hin : ((yearStart year + place) % 146097).toNat =
      36524 * century + 1461 * olympiad + 365 * single + place := by omega
  have hcenturyOf : min 3 ((36524 * century + 1461 * olympiad + 365 * single + place) / 36524) =
      century := by omega
  have hrest : 36524 * century + 1461 * olympiad + 365 * single + place - 36524 * century =
      1461 * olympiad + 365 * single + place := by omega
  have holympiadOf : (1461 * olympiad + 365 * single + place) / 1461 = olympiad := by omega
  have hinOlympiad : (1461 * olympiad + 365 * single + place) % 1461 = 365 * single + place := by
    omega
  have hsingleOf : min 3 ((365 * single + place) / 365) = single := by omega
  simp only [splitDayNumber, hcycle, hin, hcenturyOf, hrest, holympiadOf, hinOlympiad, hsingleOf]
  refine Prod.ext ?_ (Nat.add_sub_cancel_left _ _)
  rw [hyear]

/-- A date is found back from its number. -/
theorem ofDayNumber?_dayNumber (d : Date) : ofDayNumber? d.dayNumber = some d := by
  rw [ofDayNumber?, dayNumber, splitDayNumber_yearStart (dayOfYear_lt d.isDate)]
  simp [splitDayOfYear_dayOfYear d.isDate.2.1 d.isDate.2.2, of?_eq_some]

end Date

theorem LocalMoment.ofNanos?_nanos (m : LocalMoment) : ofNanos? m.nanos = some m := by
  obtain ⟨date, nanos, hlt⟩ := m
  have hbound : nanos < 86400000000000 := hlt
  have hday : (LocalMoment.nanos ⟨date, nanos, hlt⟩) / (nanosPerDay : Int) = date.dayNumber := by
    simp only [LocalMoment.nanos, nanosPerDay]
    omega
  have hrest : ((LocalMoment.nanos ⟨date, nanos, hlt⟩) % (nanosPerDay : Int)).toNat = nanos := by
    simp only [LocalMoment.nanos, nanosPerDay]
    omega
  rw [ofNanos?, hday, Date.ofDayNumber?_dayNumber]
  simp [hrest, hlt]

theorem Timestamp.of?_eq_some (t : Timestamp) : of? t.utc = some t := dif_pos ⟨t.lower, t.upper⟩

theorem Clock.of?_eq_some (t : Clock) : of? t.hour t.minute t.second t.nano = some t := by
  have hlt := t.nanos_lt
  simp only [nanosPerDay] at hlt
  have hparts : t.hour < 24 ∧ t.minute < 60 ∧ t.second < 60 ∧ t.nano < nanosPerSecond := by
    simp only [hour, minute, second, nano, nanosPerSecond]
    omega
  rw [of?, dif_pos hparts]
  congr 1
  refine ext ?_
  simp only [hour, minute, second, nano, nanosPerSecond]
  omega

namespace Calendar

open Digits

theorem fixed_writeFixed {width n : Nat} (h : n < Nat.pow 10 width) (rest : List Char) :
    fixed width (writeFixed 10 width n ++ rest) = some (n, rest) :=
  takeFixed?_writeFixed h rest

/-! ## Dates -/

theorem readYear_writeYear {year : Int} (hleast : -9999 ≤ year) (hgreatest : year ≤ 9999)
    (rest : List Char) : readYear (writeYear year ++ rest) = some (year, rest) := by
  rw [writeYear]
  split
  · rename_i hneg
    have hlt : year.natAbs < Nat.pow 10 6 := by
      show year.natAbs < 1000000
      omega
    rw [List.cons_append, readYear, fixed_writeFixed hlt, Option.bind_some]
    simp only [if_neg (show ¬year.natAbs = 0 by omega)]
    congr 2
    omega
  · rename_i hnonneg
    have hlt : year.natAbs < Nat.pow 10 4 := by
      show year.natAbs < 10000
      omega
    obtain ⟨c, digits, hcons, hdigit⟩ := writeFixed_eq_cons 3 year.natAbs
    have hread := fixed_writeFixed hlt rest
    rw [hcons, List.cons_append] at hread ⊢
    rw [readYear]
    · have habs : (year.natAbs : Int) = year := by omega
      rw [hread, Option.map_some]
      simp only [habs]
    · exact fun tail heq => ne_of_isDigit hdigit rfl (List.cons.inj heq).1
    · exact fun tail heq => ne_of_isDigit hdigit rfl (List.cons.inj heq).1

/-- A date is read back from the front of a text. -/
theorem readDate_writeDate (d : Date) (rest : List Char) :
    readDate (writeDate d ++ rest) = some (d, rest) := by
  obtain ⟨⟨hleast, hgreatest⟩, ⟨-, hmonth⟩, -, hday⟩ := d.isDate
  have hmonth' : d.month < Nat.pow 10 2 := by
    show d.month < 100
    omega
  have hday' : d.day < Nat.pow 10 2 := by
    have : daysInMonth d.year d.month ≤ 31 := by
      unfold daysInMonth
      split <;> (try split) <;> omega
    show d.day < 100
    omega
  simp only [writeDate, List.append_assoc, List.cons_append, readDate,
    readYear_writeYear hleast hgreatest, Option.bind_some, fixed_writeFixed hmonth',
    fixed_writeFixed hday', Date.of?_eq_some, Option.map_some]

@[simp] theorem skipAnnotations_nil : skipAnnotations [] = some [] := by
  simp [skipAnnotations, bracketed?, skipSettings]

/-- The text of a date is read back. -/
theorem date?_writeDate (d : Date) : date? (String.ofList (writeDate d)) = some d := by
  have hread := readDate_writeDate d []
  rw [List.append_nil] at hread
  simp [date?, readDateTime, hread, readBehindDate, whole, isLocal]

/-! ## Times of day -/

/-- Digits without the zeros that end them. -/
def dropZeros (s : List Char) : List Char := (s.reverse.dropWhile (· = '0')).reverse

theorem exists_dropZeros (s : List Char) :
    ∃ count, s = dropZeros s ++ List.replicate count '0' := by
  refine ⟨(s.reverse.takeWhile (· = '0')).length, ?_⟩
  have hzeros : (s.reverse.takeWhile (· = '0')).reverse =
      List.replicate (s.reverse.takeWhile (· = '0')).length '0' := by
    rw [List.eq_replicate_iff]
    refine ⟨List.length_reverse, fun c hc => ?_⟩
    have hall := List.all_eq_true.1 List.all_takeWhile c (List.mem_reverse.1 hc)
    exact of_decide_eq_true hall
  rw [← hzeros, dropZeros, ← List.reverse_append, List.takeWhile_append_dropWhile,
    List.reverse_reverse]

/-- What follows a time: no digit, and no mark of a fraction or of another part. -/
def EndsTime (rest : List Char) : Prop :=
  ∀ c, rest.head? = some c → c.isDigit = false ∧ c ≠ '.' ∧ c ≠ ','

theorem readFraction_writeFraction {nano : Nat} (h : nano < nanosPerSecond) {rest : List Char}
    (hrest : EndsTime rest) : readFraction (writeFraction nano ++ rest) = some (nano, rest) := by
  rw [writeFraction]
  split
  · rename_i hzero
    cases rest with
    | nil => rw [hzero]; rfl
    | cons c rest =>
      obtain ⟨-, hpoint, hcomma⟩ := hrest c rfl
      simp [readFraction, hpoint, hcomma, hzero]
  · rename_i hpos
    change readFraction ('.' :: (dropZeros (writeFixed 10 9 nano) ++ rest)) = some (nano, rest)
    obtain ⟨count, hsplit⟩ := exists_dropZeros (writeFixed 10 9 nano)
    generalize dropZeros (writeFixed 10 9 nano) = digits at hsplit ⊢
    have hlength : digits.length + count = 9 := by
      have := congrArg List.length hsplit
      rw [length_writeFixed, List.length_append, List.length_replicate] at this
      exact this.symm
    have hvalue : ∃ n, readFrom 0 digits = some n ∧ n * Nat.pow 10 count = nano := by
      have hlt : nano < Nat.pow 10 9 := h
      have hread := readFrom_writeFixed 0 hlt
      rw [hsplit] at hread
      obtain ⟨n, hn, hzeros⟩ := exists_of_readFrom_append hread
      rw [readFrom_replicate_zero, Option.some.injEq, Nat.zero_mul, Nat.zero_add] at hzeros
      exact ⟨n, hn, hzeros⟩
    obtain ⟨n, hn, hnano⟩ := hvalue
    have hne : digits.isEmpty = false := by
      rw [List.isEmpty_eq_false_iff]
      rintro rfl
      obtain rfl := Option.some.inj hn
      omega
    have hall : ∀ c ∈ digits, c.isDigit = true := by
      intro c hc
      have hmem : c ∈ writeFixed 10 9 nano := by
        rw [hsplit]
        exact List.mem_append_left _ hc
      exact isDigit_of_mem_writeFixed hmem
    have hspan : spanUpTo 9 (digits ++ rest) = (digits, rest) := by
      have hstop : (rest.take (9 - digits.length)).takeWhile Char.isDigit = [] := by
        cases hkept : rest.take (9 - digits.length) with
        | nil => rfl
        | cons c kept =>
          have hfirst : rest.head? = some c := by
            rw [← List.take_append_drop (9 - digits.length) rest, hkept]
            rfl
          simp [(hrest c hfirst).1]
      rw [spanUpTo, List.take_append, List.take_of_length_le (by omega),
        List.takeWhile_append_of_pos hall, hstop, List.append_nil, List.drop_left]
    have hcount : 9 - digits.length = count := by omega
    simpa [readFraction, hspan, read?, hne, hn, hcount] using hnano

/-- A time of day is read back from the front of a text. It is written with colons. -/
theorem readTime_writeClock (t : Clock) {rest : List Char} (hrest : EndsTime rest) :
    readTime (writeClock t ++ rest) = some ((t, true), rest) := by
  have hlt : t.nanos < 86400000000000 := t.nanos_lt
  have hhour : t.hour < Nat.pow 10 2 := by
    show t.nanos / (3600 * 1000000000) < 100
    omega
  have hminute : t.minute < Nat.pow 10 2 := by
    show t.nanos / (60 * 1000000000) % 60 < 100
    omega
  have hsecond : t.second < 60 := Nat.mod_lt _ (by decide)
  have hsecond' : t.second < Nat.pow 10 2 := Nat.lt_trans hsecond (by decide)
  have hnano : t.nano < nanosPerSecond := Nat.mod_lt _ (by decide)
  simp [writeClock, readTime, fixed_writeFixed hhour, fixed_writeFixed hminute,
    fixed_writeFixed hsecond', nextPart, readFraction_writeFraction hnano hrest,
    show ¬t.second = 60 by omega, Clock.of?_eq_some]

theorem endsTime_nil : EndsTime [] := by rintro c ⟨⟩

theorem writeClock_eq_cons (t : Clock) : ∃ c rest, writeClock t = c :: rest ∧ c.isDigit = true := by
  obtain ⟨c, digits, hcons, hdigit⟩ := writeFixed_eq_cons 1 t.hour
  exact ⟨c, _, by rw [writeClock, hcons]; rfl, hdigit⟩

/-- A time of day does not start like a date: a colon stands where a year goes on. -/
theorem readDate_writeClock (t : Clock) : readDate (writeClock t) = none := by
  have hcolon : digitValue? ':' = none := by decide
  have hfixed : fixed 4 (writeClock t) = none := by
    simp [fixed, takeFixed?, writeClock, writeFixed, readFrom,
      digitValue?_digitChar (Nat.mod_lt _ (by decide : 0 < 10)), hcolon]
  obtain ⟨c, rest, hcons, hdigit⟩ := writeClock_eq_cons t
  have hyear : readYear (writeClock t) = none := by
    rw [hcons] at hfixed ⊢
    rw [readYear, hfixed, Option.map_none]
    · exact fun tail heq => ne_of_isDigit hdigit rfl (List.cons.inj heq).1
    · exact fun tail heq => ne_of_isDigit hdigit rfl (List.cons.inj heq).1
  rw [readDate, hyear, Option.bind_none]

/-- The text of a time of day is read back. -/
theorem clock?_writeClock (t : Clock) : clock? (String.ofList (writeClock t)) = some t := by
  have hread := readTime_writeClock t endsTime_nil
  rw [List.append_nil] at hread
  obtain ⟨c, rest, hcons, hdigit⟩ := writeClock_eq_cons t
  have hmark : ∀ d tail, d.isDigit = false → writeClock t ≠ d :: tail := by
    intro d tail hd heq
    rw [hcons] at heq
    exact ne_of_isDigit hdigit hd (List.cons.inj heq).1
  rw [clock?, String.toList_ofList]
  simp only
  split
  · rename_i heq
    exact absurd heq (hmark 'T' _ rfl)
  · rename_i heq
    exact absurd heq (hmark 't' _ rfl)
  · simp [readDateTime, readDate_writeClock, hread, readOffset, isLocal, whole]

/-! ## Moments -/

/-- The text of a timestamp is read back. -/
theorem timestamp?_writeTimestamp (t : Timestamp) :
    timestamp? (String.ofList (writeTimestamp t)) = some t := by
  have hends : EndsTime ['Z'] := by
    rintro c ⟨⟩
    decide
  have hread : readDateTime (writeTimestamp t) =
      some ((t.utc.date, some t.utc.clock, .universal), []) := by
    simp [readDateTime, writeTimestamp, writeMoment, readDate_writeDate, readBehindDate,
      isSeparator, readTime_writeClock _ hends, readOffset]
  rw [timestamp?, String.toList_ofList, hread]
  simp only [whole, Int.sub_zero]
  rw [LocalMoment.ofNanos?_nanos, Option.bind_some]
  exact Timestamp.of?_eq_some t

end Calendar

end Promotions

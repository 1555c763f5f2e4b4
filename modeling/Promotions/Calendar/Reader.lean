import Promotions.Calendar.Moment
import Promotions.Digits

/-!
# Reading dates and times

Readers for the front of a text: of dates, with or without hyphens; of times of day, which may stop
after the hour or the minute and have a fraction of a second; and of offsets from universal time.
-/

namespace Promotions

open Digits

/-- What a reader makes of the front of a text, and what follows it. -/
abbrev Reader (α : Type) := List Char → Option (α × List Char)

namespace Calendar

/-- The value a reader finds, if nothing follows it. -/
def whole {α : Type} (result : Option (α × List Char)) : Option α :=
  match result with
  | some (a, []) => some a
  | _ => none

/-- A number of exactly `width` digits. -/
def fixed (width : Nat) : Reader Nat := takeFixed? width

/-- A year: four digits, or a sign and six. The year zero has no minus sign. -/
def readYear : Reader Int
  | '-' :: rest =>
    (fixed 6 rest).bind fun (n, rest) => if n = 0 then none else some (-(n : Int), rest)
  | '+' :: rest => (fixed 6 rest).map fun (n, rest) => ((n : Int), rest)
  | s => (fixed 4 s).map fun (n, rest) => ((n : Int), rest)

/-- A date, with both hyphens or neither. -/
def readDate : Reader Date := fun s =>
  (readYear s).bind fun (year, rest) =>
    match rest with
    | '-' :: rest =>
      (fixed 2 rest).bind fun (month, rest) =>
        match rest with
        | '-' :: rest =>
          (fixed 2 rest).bind fun (day, rest) => (Date.of? year month day).map (·, rest)
        | _ => none
    | rest =>
      (fixed 2 rest).bind fun (month, rest) =>
        (fixed 2 rest).bind fun (day, rest) => (Date.of? year month day).map (·, rest)

/-- Up to `limit` digits at the front. -/
def spanUpTo (limit : Nat) (s : List Char) : List Char × List Char :=
  let digits := (s.take limit).takeWhile Char.isDigit
  (digits, s.drop digits.length)

/-- A fraction of a second in nanoseconds, or nothing. -/
def readFraction : Reader Nat
  | c :: rest =>
    if c = '.' || c = ',' then
      let (digits, rest) := spanUpTo 9 rest
      (read? digits).map fun n => (n * Nat.pow 10 (9 - digits.length), rest)
    else some (0, c :: rest)
  | [] => some (0, [])

/-- The next part of a time: behind a colon where colons are used, and otherwise if two digits
follow. -/
def nextPart (colons : Bool) (s : List Char) : Option (List Char) :=
  match colons, s with
  | true, ':' :: rest => some rest
  | true, _ => none
  | false, a :: b :: _ => if a.isDigit && b.isDigit then some s else none
  | false, _ => none

/-- A time of day, and whether it uses colons. A sixtieth second is taken for the one before. -/
def readTime : Reader (Clock × Bool) := fun s =>
  (fixed 2 s).bind fun (hour, rest) =>
    let colons := rest.head? = some ':'
    match nextPart colons rest with
    | none => (Clock.of? hour 0 0 0).map fun t => ((t, colons), rest)
    | some rest =>
      (fixed 2 rest).bind fun (minute, rest) =>
        match nextPart colons rest with
        | none => (Clock.of? hour minute 0 0).map fun t => ((t, colons), rest)
        | some rest =>
          (fixed 2 rest).bind fun (second, rest) =>
            (readFraction rest).bind fun (nano, rest) =>
              (Clock.of? hour minute (if second = 60 then 59 else second) nano).map
                fun t => ((t, colons), rest)

/-- An offset from universal time. -/
inductive Offset where
  /-- None is named. -/
  | unnamed
  /-- Universal time itself, named by `Z`. -/
  | universal
  /-- A number of nanoseconds ahead of universal time. -/
  | ahead (nanos : Int)

/-- The sign, hours, minutes, seconds and fraction of an offset behind its sign. -/
def readOffsetParts (sign : Int) : Reader Offset := fun s =>
  (fixed 2 s).bind fun (hour, rest) =>
    let colons := rest.head? = some ':'
    let build (minute second nano : Nat) (rest : List Char) : Option (Offset × List Char) :=
      if hour ≤ 25 ∧ minute < 60 ∧ second < 60 then
        let seconds : Nat := (hour * 60 + minute) * 60 + second
        let nearest : Nat := if 2 * nano < nanosPerSecond then seconds else seconds + 1
        some (.ahead (sign * nearest * nanosPerSecond), rest)
      else none
    match nextPart colons rest with
    | none => build 0 0 0 rest
    | some rest =>
      (fixed 2 rest).bind fun (minute, rest) =>
        match nextPart colons rest with
        | none => build minute 0 0 rest
        | some rest =>
          (fixed 2 rest).bind fun (second, rest) =>
            (readFraction rest).bind fun (nano, rest) => build minute second nano rest

/-- An offset, if one is named. -/
def readOffset : Reader Offset
  | 'Z' :: rest => some (.universal, rest)
  | 'z' :: rest => some (.universal, rest)
  | '+' :: rest => readOffsetParts 1 rest
  | '-' :: rest => readOffsetParts (-1) rest
  | rest => some (.unnamed, rest)

end Calendar

end Promotions

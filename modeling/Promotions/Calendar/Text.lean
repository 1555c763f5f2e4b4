import Promotions.Calendar.Annotation
import Promotions.Json.Codec

/-!
# Dates and times as text

Dates and times are written as ISO 8601 has them, in their long form. Reading is more generous:
hyphens and colons may be left out, a time may stop after the hour or the minute, its seconds may
have a fraction, and what stands behind the part asked for is checked and passed over. A local
moment may name an offset from universal time, which is passed over too, but not `Z`; a timestamp
has to name an offset or `Z`. Annotations in brackets may follow.
-/

namespace Promotions

open Digits

namespace Calendar

/-! ## Writing -/

/-- The characters of a year: four digits, or a minus sign and six. -/
def writeYear (year : Int) : List Char :=
  if year < 0 then '-' :: writeFixed 10 6 year.natAbs else writeFixed 10 4 year.natAbs

/-- The characters of a date. -/
def writeDate (d : Date) : List Char :=
  writeYear d.year ++ '-' :: writeFixed 10 2 d.month ++ '-' :: writeFixed 10 2 d.day

/-- The fraction of a second in nanoseconds, without the zeros that end it. -/
def writeFraction (nano : Nat) : List Char :=
  if nano = 0 then []
  else '.' :: ((writeFixed 10 9 nano).reverse.dropWhile (· = '0')).reverse

/-- The characters of a time of day. -/
def writeClock (t : Clock) : List Char :=
  writeFixed 10 2 t.hour ++ ':' :: writeFixed 10 2 t.minute ++ ':' :: writeFixed 10 2 t.second ++
    writeFraction t.nano

/-- The characters of a local moment. -/
def writeMoment (m : LocalMoment) : List Char := writeDate m.date ++ 'T' :: writeClock m.clock

/-- The characters of a timestamp. -/
def writeTimestamp (t : Timestamp) : List Char := writeMoment t.utc ++ ['Z']

/-! ## Reading -/

/-- The character between a date and a time. -/
def isSeparator (c : Char) : Bool := c = ' ' || c = 'T' || c = 't'

/-- The time behind a date, if there is one, and its offset. -/
def readBehindDate : Reader (Option Clock × Offset)
  | c :: rest =>
    if isSeparator c then
      (readTime rest).bind fun ((t, _), rest) =>
        (readOffset rest).map fun (offset, rest) => ((some t, offset), rest)
    else some ((none, .unnamed), c :: rest)
  | [] => some ((none, .unnamed), [])

/-- A date, the time behind it if there is one, its offset, and annotations. -/
def readDateTime : Reader (Date × Option Clock × Offset) := fun s =>
  (readDate s).bind fun (date, rest) =>
    (readBehindDate rest).bind fun ((clock, offset), rest) =>
      (skipAnnotations rest).map fun rest => ((date, clock, offset), rest)

/-- The offset is a number or is not named. -/
def isLocal : Offset → Bool
  | .universal => false
  | _ => true

/-- The date a text stands for or begins with. -/
def date? (s : String) : Option Date :=
  match whole (readDateTime s.toList) with
  | some (date, _, offset) => if isLocal offset then some date else none
  | none => none

/-- The local moment a text stands for; without a time it is midnight. -/
def moment? (s : String) : Option LocalMoment :=
  match whole (readDateTime s.toList) with
  | some (date, clock, offset) =>
    if isLocal offset then some ⟨date, clock.getD .midnight⟩ else none
  | none => none

/-- The timestamp a text stands for. -/
def timestamp? (s : String) : Option Timestamp :=
  let shifted (date : Date) (clock : Clock) (ahead : Int) : Option Timestamp :=
    (LocalMoment.ofNanos? ((LocalMoment.mk date clock).nanos - ahead)).bind Timestamp.of?
  match whole (readDateTime s.toList) with
  | some (date, some clock, .universal) => shifted date clock 0
  | some (date, some clock, .ahead nanos) => shifted date clock nanos
  | _ => none

/-- A month and a day, as `MM-DD` or `MMDD`, stand at the front. -/
def startsWithMonthDay (s : List Char) : Bool :=
  let s := match s with
    | '-' :: '-' :: rest => rest
    | s => s
  let found := (fixed 2 s).bind fun (month, rest) =>
    (fixed 2 (match rest with
      | '-' :: rest => rest
      | rest => rest)).bind fun (day, _) => Date.of? 2024 month day
  found.isSome

/-- A year and a month, as `YYYY-MM` or `YYYYMM`, stand at the front. -/
def startsWithYearMonth (s : List Char) : Bool :=
  let found := (readYear s).bind fun (year, rest) =>
    (fixed 2 (match rest with
      | '-' :: rest => rest
      | rest => rest)).bind fun (month, _) => Date.of? year month 1
  found.isSome

/-- The time of day a text stands for: a time, or the time of a date and time. Digits that could
also be part of a date are refused unless `T` stands in front of them. -/
def clock? (s : String) : Option Clock :=
  let chars := s.toList
  let timeAndOffset (s : List Char) : Option ((Clock × Bool) × List Char) :=
    (readTime s).bind fun (found, rest) =>
      (readOffset rest).bind fun (offset, rest) =>
        if isLocal offset then (skipAnnotations rest).map fun rest => (found, rest) else none
  match chars with
  | 'T' :: rest => (whole (timeAndOffset rest)).map (·.1)
  | 't' :: rest => (whole (timeAndOffset rest)).map (·.1)
  | _ =>
    match readDateTime chars with
    | some ((_, some t, offset), rest) =>
      if isLocal offset && rest.isEmpty then some t else none
    | some ((_, none, _), _) => none
    | none =>
      match whole (timeAndOffset chars) with
      | some (t, colons) =>
        if !colons && (startsWithMonthDay chars || startsWithYearMonth chars) then none
        else some t
      | none => none

end Calendar

instance : JsonCodec Date where
  toJson d := .str (String.ofList (Calendar.writeDate d))
  readJson? reading j := (Json.text? reading j).bind Calendar.date?

instance : JsonCodec Clock where
  toJson t := .str (String.ofList (Calendar.writeClock t))
  readJson? reading j := (Json.text? reading j).bind Calendar.clock?

instance : JsonCodec LocalMoment where
  toJson m := .str (String.ofList (Calendar.writeMoment m))
  readJson? reading j := (Json.text? reading j).bind Calendar.moment?

instance : JsonCodec Timestamp where
  toJson t := .str (String.ofList (Calendar.writeTimestamp t))
  readJson? reading j := (Json.text? reading j).bind Calendar.timestamp?

/-- The text of a date. -/
def Date.toText (d : Date) : String := String.ofList (Calendar.writeDate d)

end Promotions

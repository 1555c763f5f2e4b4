import Promotions.Decimal
import Promotions.Digits

/-!
# Decimal numbers as text

A decimal is written with all its places and at least one digit before the point.

It is read from a sign, digits and a point, with underscores allowed after the first digit, or from
such a text followed by `e` and a power of ten. Once a text has twenty-eight places, or its digits
no longer fit, the next character decides how the last place is rounded and what follows is not
read.
-/

namespace Promotions.Decimal

open Digits

/-- The characters of a decimal. -/
def writeChars (d : Decimal) : List Char :=
  let digits := write d.coefficient.natAbs
  let padded := List.replicate (d.scale + 1 - digits.length) '0' ++ digits
  let whole := padded.take (padded.length - d.scale)
  let places := padded.drop (padded.length - d.scale)
  (if d.coefficient < 0 then ['-'] else []) ++ whole ++
    (if d.scale = 0 then [] else '.' :: places)

/-- The text of a decimal. -/
def toText (d : Decimal) : String := String.ofList d.writeChars

/-- What a text has given so far. -/
structure Progress where
  /-- The point has been read. -/
  point : Bool
  /-- A digit has been read. -/
  seen : Bool
  /-- The digits so far. -/
  value : Nat
  /-- The places so far. -/
  scale : Nat

/-- The digits and places when the next digit would be `digit`: from five on the last place goes
up, and if it no longer fits then one place is given up. -/
def Progress.round (r : Progress) (digit : Nat) : Option (Nat × Nat) :=
  if digit < 5 then some (r.value, r.scale)
  else if r.value + 1 < 79228162514264337593543950336 then some (r.value + 1, r.scale)
  else if r.scale = 0 then none
  else some ((r.value + 5) / 10, r.scale - 1)

/-- The digits and places of a text without a sign. -/
def readUnsigned (r : Progress) : List Char → Option (Nat × Nat)
  | [] => if r.seen then some (r.value, r.scale) else none
  | c :: rest =>
    match digitValue? c with
    | some d =>
      let next := 10 * r.value + d
      if r.point && 28 ≤ r.scale then r.round d
      else if next < 79228162514264337593543950336 then
        readUnsigned ⟨r.point, true, next, if r.point then r.scale + 1 else 0⟩ rest
      else if r.point then r.round d
      else none
    | none =>
      if c = '.' then
        if !r.point then readUnsigned { r with point := true } rest
        else if 28 ≤ r.scale then r.round 0
        else none
      else if c = '_' && r.seen then
        if r.point && 28 ≤ r.scale then r.round 0 else readUnsigned r rest
      else none

/-- A decimal written with digits and a point. -/
def readPlain? (s : List Char) : Option Decimal :=
  let start : Progress := ⟨false, false, 0, 0⟩
  match s with
  | '-' :: rest => (readUnsigned start rest).bind fun (n, k) => ofParts? (-(n : Int)) k
  | '+' :: rest => (readUnsigned start rest).bind fun (n, k) => ofParts? n k
  | s => (readUnsigned start s).bind fun (n, k) => ofParts? n k

/-- A count of places in an exponent, which may have a plus sign. -/
def readPlaces? (s : List Char) : Option Nat :=
  let digits := match s with
    | '+' :: rest => rest
    | s => s
  (read? digits).bind fun n => if n < UInt32.size then some n else none

/-- A decimal times a power of ten, in steps of at most nineteen places. -/
def raise? (d : Decimal) (places : Nat) : Option Decimal :=
  if places ≤ 19 then fit? (d.coefficient * Nat.pow 10 places) d.scale
  else (fit? (d.coefficient * Nat.pow 10 19) d.scale).bind fun e =>
    fit? (e.coefficient * Nat.pow 10 (places - 19)) e.scale

/-- A decimal written in scientific form. -/
def readScientific? (s : List Char) : Option Decimal :=
  let isMark := fun c : Char => c = 'e' || c = 'E'
  match s.dropWhile fun c => !isMark c with
  | [] => none
  | _ :: exponent =>
    (readPlain? (s.takeWhile fun c => !isMark c)).bind fun base =>
      match exponent with
      | '-' :: rest =>
        (readPlaces? rest).bind fun n => ofParts? base.coefficient (base.scale + n)
      | _ =>
        (readPlaces? exponent).bind fun n =>
          if n ≤ base.scale then ofParts? base.coefficient (base.scale - n)
          else if n ≤ 28 then (raise? base n).map normalize
          else none

/-- The decimal that a text stands for. -/
def ofText? (s : String) : Option Decimal :=
  match readPlain? s.toList with
  | some d => some d
  | none => readScientific? s.toList

end Promotions.Decimal

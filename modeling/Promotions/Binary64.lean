import Promotions.Digits

/-!
# Double-precision numbers

A JSON number with a point or an exponent is a finite double-precision number. It is kept as an
integer times a power of two, and everything is worked out on integers.

Reading takes the digits as one integer, rounds that to a double, and multiplies or divides it by
the double next to the power of ten, which rounds a second time. Writing gives the fewest digits
that no other double is nearer to.
-/

namespace Promotions

/-- The finite number `± significand * 2 ^ exponent`, where the significand is below `2 ^ 53` and
is `2 ^ 52` or more unless the exponent is the least one. -/
structure Binary64 where
  /-- The number has a minus sign; zero can have one too. -/
  negative : Bool
  /-- The digits in base two. -/
  significand : Nat
  /-- The power of two. -/
  exponent : Int
  deriving DecidableEq, Repr

namespace Binary64

/-- The least power of two. -/
def leastExponent : Int := -1074

/-- The greatest power of two. -/
def greatestExponent : Int := 971

/-- `num / den` over `2 ^ exponent`, as a ratio of natural numbers. -/
def scaled (num den : Nat) (exponent : Int) : Nat × Nat :=
  (num * Nat.pow 2 (-exponent).toNat, den * Nat.pow 2 exponent.toNat)

/-- The double nearest to `num / den`, ties going to the even one; `none` if it is too large. -/
def nearest (negative : Bool) (num den : Nat) : Option Binary64 :=
  if num = 0 then some ⟨negative, 0, leastExponent⟩
  else
    let estimate : Int := (num.log2 : Int) - den.log2 - 53
    let (n, d) := scaled num den estimate
    let exponent := max leastExponent (if Nat.pow 2 53 ≤ n / d then estimate + 1 else estimate)
    let (n, d) := scaled num den exponent
    let q := n / d
    let r := n % d
    let m := if d < 2 * r then q + 1 else if 2 * r = d then q + q % 2 else q
    let (m, exponent) := if m = Nat.pow 2 53 then (Nat.pow 2 52, exponent + 1) else (m, exponent)
    if greatestExponent < exponent then none else some ⟨negative, m, exponent⟩

/-- The magnitude as a ratio of natural numbers. -/
def ratio (x : Binary64) : Nat × Nat :=
  (x.significand * Nat.pow 2 x.exponent.toNat, Nat.pow 2 (-x.exponent).toNat)

/-- The product of two magnitudes, rounded, with the sign of the first. -/
def mul? (x y : Binary64) : Option Binary64 :=
  nearest x.negative (x.ratio.1 * y.ratio.1) (x.ratio.2 * y.ratio.2)

/-- The quotient of two magnitudes, rounded, with the sign of the first. -/
def div? (x y : Binary64) : Option Binary64 :=
  nearest x.negative (x.ratio.1 * y.ratio.2) (x.ratio.2 * y.ratio.1)

/-- The double next to a power of ten. -/
def powerOfTen? (n : Nat) : Option Binary64 := nearest false (Nat.pow 10 n) 1

/-- The greatest power of ten that is a double. -/
def greatestPower : Nat := 308

/-- `x` divided `steps` times by the greatest power of ten; zero stays zero. -/
def divideByGreatest (x : Binary64) : Nat → Option Binary64
  | 0 => some x
  | steps + 1 =>
    if x.significand = 0 then some x
    else ((powerOfTen? greatestPower).bind x.div?).bind fun y => divideByGreatest y steps

/-- `x / 10 ^ n`, in steps of at most the greatest power of ten. -/
def shiftDown (x : Binary64) (n : Nat) : Option Binary64 :=
  let steps := (n - 1) / greatestPower
  (divideByGreatest x steps).bind fun y =>
    (powerOfTen? (n - greatestPower * steps)).bind y.div?

/-- The double that `significand * 10 ^ places` is read as; `none` if it is too large. -/
def ofDecimal? (negative : Bool) (significand : Nat) (places : Int) : Option Binary64 :=
  (nearest negative significand 1).bind fun x =>
    if 0 ≤ places then
      if places ≤ greatestPower then (powerOfTen? places.toNat).bind x.mul?
      else if x.significand = 0 then some x
      else none
    else if x.significand = 0 then some x
    else shiftDown x places.natAbs

/-- `digits * 10 ^ places` rounds to `x`: it lies between the middles toward the neighbours of `x`,
which belong to `x` when its significand is even. -/
def roundsTo (x : Binary64) (digits : Nat) (places : Int) : Bool :=
  let unit := 4 * digits * Nat.pow 10 places.toNat * Nat.pow 2 (-x.exponent).toNat
  let den := Nat.pow 10 (-places).toNat * Nat.pow 2 x.exponent.toNat
  let high := (4 * x.significand + 2) * den
  let below := if x.significand = Nat.pow 2 52 && decide (leastExponent < x.exponent) then 1 else 2
  let low := (4 * x.significand - below) * den
  if x.significand % 2 = 0 then low ≤ unit && unit ≤ high else low < unit && unit < high

/-- The number of digits before the point of a magnitude, negative when zeros follow the point. -/
def decimalExponent (x : Binary64) : Int :=
  let (n, d) := x.ratio
  if d ≤ n then (Digits.write (n / d)).length
  else 1 - ((Digits.write ((d - 1) / n)).length : Int)

/-- The digits and the power of ten of the nearest decimal with `count` digits that rounds to `x`,
if there is one. -/
def digitsAt (x : Binary64) (count : Nat) : Option (Nat × Int) :=
  let places := x.decimalExponent - count
  let (n, d) := x.ratio
  let num := n * Nat.pow 10 (-places).toNat
  let den := d * Nat.pow 10 places.toNat
  let q := num / den
  let r := num % den
  let (first, second) :=
    if den < 2 * r || (2 * r = den && q % 2 = 1) then (q + 1, q) else (q, q + 1)
  if 0 < first && x.roundsTo first places then some (first, places)
  else if 0 < second && x.roundsTo second places then some (second, places)
  else none

/-- The first of a list of digit counts at which a decimal rounds to `x`. -/
def firstDigits (x : Binary64) : List Nat → Option (Nat × Int)
  | [] => none
  | count :: rest =>
    match digitsAt x count with
    | some found => some found
    | none => firstDigits x rest

/-- The fewest digits that stand for the magnitude, and the power of ten they are multiplied by. -/
def shortest (x : Binary64) : Nat × Int :=
  if x.significand = 0 then (0, 0)
  else (firstDigits x ((List.range 17).map (· + 1))).getD (0, 0)

/-- Digits without the zeros at their end, and the number of zeros left out. -/
def dropZeros (digits : List Char) : List Char × Nat :=
  let kept := (digits.reverse.dropWhile (· = '0')).reverse
  (kept, digits.length - kept.length)

/-- The shortest digits, and where the point stands in front of, among or behind them. -/
def shortestDigits (x : Binary64) : List Char × Int :=
  let (n, places) := x.shortest
  let digits := Digits.write n
  let (kept, zeros) := dropZeros digits
  if n = 0 then (['0'], 1) else (kept, (kept.length : Int) + places + zeros)

/-- The sign of a number as text. -/
def sign (x : Binary64) : List Char := if x.negative then ['-'] else []

/-- The number without an exponent, and without a point where it is whole. -/
def writePlain (x : Binary64) : List Char :=
  let (digits, point) := x.shortestDigits
  let zeros (n : Int) := List.replicate n.toNat '0'
  let k : Int := digits.length
  x.sign ++
    if point ≤ 0 then '0' :: '.' :: zeros (-point) ++ digits
    else if k ≤ point then digits ++ zeros (point - k)
    else digits.take point.toNat ++ '.' :: digits.drop point.toNat

/-- The number without an exponent, always with a point. -/
def writePointed (x : Binary64) : List Char :=
  let plain := x.writePlain
  if plain.contains '.' then plain else plain ++ ['.', '0']

/-- The number as JSON: with a signed exponent where the point would stand more than sixteen digits
to the right or five zeros to the left. -/
def writeJson (x : Binary64) : List Char :=
  let (digits, point) := x.shortestDigits
  if -5 < point ∧ point ≤ 16 then x.writePointed
  else
    let e := point - 1
    let exponent := 'e' :: (if e < 0 then '-' else '+') :: Digits.write e.natAbs
    x.sign ++
      match digits with
      | [d] => d :: exponent
      | d :: rest => d :: '.' :: rest ++ exponent
      | [] => exponent

end Binary64

end Promotions

import Promotions.Rounding

/-!
# Decimal numbers

Percentages, multipliers and tier values are decimal numbers: an integer of at most ninety-six bits
and up to twenty-eight places behind the point. Two decimals can stand for the same number with
different numbers of places, and a decimal keeps the places it was written with.

A result that does not fit is rounded to as many places as do, a tie going to the even neighbour;
it fails only if its whole part does not fit.
-/

namespace Promotions

/-- The number `coefficient / 10 ^ scale`. -/
structure Decimal where
  /-- The digits, read as an integer. -/
  coefficient : Int
  /-- The number of places behind the point. -/
  scale : Nat
  /-- The digits fit ninety-six bits. -/
  coefficient_lt : coefficient.natAbs < 79228162514264337593543950336
  /-- There are at most twenty-eight places. -/
  scale_le : scale ≤ 28
  deriving DecidableEq, Repr

namespace Decimal

open Rounding

theorem ext {a b : Decimal} (hc : a.coefficient = b.coefficient) (hs : a.scale = b.scale) :
    a = b := by
  cases a; cases b; simp_all

/-- Zero, without places. -/
def zero : Decimal := ⟨0, 0, by decide, by decide⟩

/-- One hundred, without places. -/
def hundred : Decimal := ⟨100, 0, by decide, by decide⟩

instance : Inhabited Decimal := ⟨zero⟩

/-- The decimal of given digits and places, if it fits as it stands. -/
def ofParts? (coefficient : Int) (scale : Nat) : Option Decimal :=
  if h : coefficient.natAbs < 79228162514264337593543950336 ∧ scale ≤ 28 then
    some ⟨coefficient, scale, h.1, h.2⟩
  else none

/-- The value `coefficient / 10 ^ scale`, rounded to the most places, at most `places`, at which
it fits. -/
def fitAt (coefficient : Int) (scale : Nat) : Nat → Option Decimal
  | 0 => ofParts? (shiftRight .toEven coefficient scale) 0
  | places + 1 =>
    match ofParts? (shiftRight .toEven coefficient (scale - (places + 1))) (places + 1) with
    | some d => some d
    | none => fitAt coefficient scale places

/-- The value `coefficient / 10 ^ scale`, rounded where it does not fit as it stands. -/
def fit? (coefficient : Int) (scale : Nat) : Option Decimal :=
  fitAt coefficient scale (min scale 28)

/-- The numbers are equal, whatever their places. -/
def isEquiv (a b : Decimal) : Bool :=
  decide (a.coefficient * Nat.pow 10 b.scale = b.coefficient * Nat.pow 10 a.scale)

instance : LE Decimal :=
  ⟨fun a b => a.coefficient * Nat.pow 10 b.scale ≤ b.coefficient * Nat.pow 10 a.scale⟩

instance (a b : Decimal) : Decidable (a ≤ b) :=
  inferInstanceAs
    (Decidable (a.coefficient * Nat.pow 10 b.scale ≤ b.coefficient * Nat.pow 10 a.scale))

instance : LT Decimal :=
  ⟨fun a b => a.coefficient * Nat.pow 10 b.scale < b.coefficient * Nat.pow 10 a.scale⟩

instance (a b : Decimal) : Decidable (a < b) :=
  inferInstanceAs
    (Decidable (a.coefficient * Nat.pow 10 b.scale < b.coefficient * Nat.pow 10 a.scale))

/-- The number is zero. -/
def isZero (d : Decimal) : Bool := d.coefficient == 0

/-- The number has no part behind the point. -/
def isWhole (d : Decimal) : Bool := d.coefficient.natAbs % Nat.pow 10 d.scale == 0

/-- The whole part of the number, cut off toward zero. -/
def truncate (d : Decimal) : Int := d.coefficient.tdiv (Nat.pow 10 d.scale)

/-- Digits and places without the zeros that end the places. -/
def stripZeros (coefficient : Int) : Nat → Int × Nat
  | 0 => (coefficient, 0)
  | scale + 1 =>
    if coefficient.natAbs % 10 = 0 then stripZeros (coefficient.tdiv 10) scale
    else (coefficient, scale + 1)

theorem natAbs_stripZeros_le (coefficient : Int) (scale : Nat) :
    (stripZeros coefficient scale).1.natAbs ≤ coefficient.natAbs ∧
      (stripZeros coefficient scale).2 ≤ scale := by
  induction scale generalizing coefficient with
  | zero => simp [stripZeros]
  | succ scale ih =>
    simp only [stripZeros]
    split
    · have h := ih (coefficient.tdiv 10)
      have hle : (coefficient.tdiv 10).natAbs ≤ coefficient.natAbs := by
        rw [Int.natAbs_tdiv]; exact Nat.div_le_self _ _
      omega
    · simp

/-- The same number without the zeros that end its places. -/
def normalize (d : Decimal) : Decimal :=
  ⟨(stripZeros d.coefficient d.scale).1, (stripZeros d.coefficient d.scale).2,
    Nat.lt_of_le_of_lt (natAbs_stripZeros_le _ _).1 d.coefficient_lt,
    Nat.le_trans (natAbs_stripZeros_le _ _).2 d.scale_le⟩

/-- A hundredth of the number, rounded where it would need more than twenty-eight places. -/
def hundredth (d : Decimal) : Decimal :=
  if h : d.scale ≤ 26 then ⟨d.coefficient, d.scale + 2, d.coefficient_lt, by omega⟩
  else
    ⟨shiftRight .toEven d.coefficient (d.scale - 26), 28,
      Nat.lt_of_le_of_lt (natAbs_shiftRight_le _ _ (by omega)) d.coefficient_lt, by decide⟩

/-- The nearest integer; a tie goes away from zero. -/
def round (d : Decimal) : Int := shiftRight .awayFromZero d.coefficient d.scale

/-- The decimal of an integer, if it fits. -/
def ofInt? (i : Int) : Option Decimal := ofParts? i 0

end Decimal

end Promotions

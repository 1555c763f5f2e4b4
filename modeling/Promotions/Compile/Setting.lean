import Promotions.Compile.Error
import Promotions.Promotion
import Promotions.Rule
import Promotions.Text

/-!
# Single settings

How one setting of a promotion is checked and brought to the form in which a document holds it. An
optional number of zero counts as not set; percent points lose the zeros that end their places; a
list of names becomes the set of their canonical forms.
-/

namespace Promotions

namespace Setting

/-- The value of a setting that has to be there. -/
def require {α : Type} (setting : String) : Option α → Except CompileError α
  | some value => .ok value
  | none => .error (.missing setting)

/-- The amount, unless it is negative. -/
def nonNegative (setting : String) (value : Amount) : Except CompileError Amount :=
  if value < 0 then .error (.invalid setting (.negative value)) else .ok value

/-- The amount where it is set and not zero; a negative one is an error. -/
def positive? (setting : String) : Option Amount → Except CompileError (Option Amount)
  | none => .ok none
  | some value => (nonNegative setting value).map fun value => Amount.nonzero? (some value)

/-- Percent points between zero and one hundred, without the zeros that end their places. -/
def percentPoints (setting : String) (points : Decimal) : Except CompileError Decimal :=
  if points < .zero ∨ .hundred < points then .error (.invalid setting (.notPercent points))
  else .ok points.normalize

/-- The whole number of minor units that a decimal is. -/
def wholeMinor (setting : String) (value : Decimal) : Except CompileError Amount :=
  if value.isWhole then
    match Amount.ofInt? value.truncate with
    | some minor => nonNegative setting minor
    | none => .error (.invalid setting (.outOfRange value))
  else .error (.invalid setting (.notWhole value))

/-- The count, unless it is zero. -/
def atLeastOne (setting : String) (n : Count) : Except CompileError Count :=
  if n = 0 then .error (.invalid setting .zeroCount) else .ok n

/-- The canonical forms of names; blank names are left out. -/
def canonicalSet (names : List String) : SortedSet String :=
  .ofList ((names.map Text.canonical).filter fun name => !name.isEmpty)

end Setting

namespace Promotion

open Setting

/-- The discount in percent points. -/
def percent? (p : Promotion) : Except CompileError (Option Decimal) :=
  match p.discountPercent with
  | none => .ok none
  | some points =>
    if points.isZero then .ok none else (percentPoints "discount_percent" points).map some

/-- The discount as an amount. -/
def amount? (p : Promotion) : Except CompileError (Option Amount) :=
  positive? "discount_amount" p.discountAmount

/-- The most that is granted. -/
def cap? (p : Promotion) : Except CompileError (Option Amount) :=
  positive? "max_discount_amount" p.maxDiscountAmount

/-- The least purchase. -/
def leastPurchase (p : Promotion) : Except CompileError Amount :=
  nonNegative "min_purchase" p.minPurchase

/-- The weekdays. -/
def weekdays (p : Promotion) : Except CompileError WeekdaySet :=
  match WeekdaySet.ofOffsets p.validDays with
  | .ok days => .ok days
  | .error offset => .error (.invalid "valid_days" (.notWeekday offset))

/-- The discount in percent points, or else as an amount. -/
def discountValue (p : Promotion) : Except CompileError DiscountValue := do
  match ← p.percent? with
  | some points => return .percent points
  | none => return .amount (← require "discount_percent" (← p.amount?))

end Promotion

end Promotions

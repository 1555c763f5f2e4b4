import Promotions.Amount
import Promotions.Decimal

/-!
# Percentages of amounts

A percentage is given in points, so that twenty stands for a fifth. The share of an amount is
rounded to whole minor units, half a unit away from zero.
-/

namespace Promotions

/-- `points` percent of `base`. -/
def Decimal.percentOf (points : Decimal) (base : Amount) : Except ArithmeticError Amount :=
  let fraction := points.hundredth
  match Decimal.fit? (fraction.coefficient * base.toInt) fraction.scale with
  | none => .error .percentConversion
  | some product =>
    match Amount.ofInt? product.round with
    | none => .error .percentConversion
    | some amount => .ok amount

/-- `points` percent of `base`, brought down to `cap` where there is one. -/
def Decimal.cappedPercentOf (points : Decimal) (base : Amount) (cap : Option Amount) :
    Except ArithmeticError Amount :=
  (points.percentOf base).map (·.capped cap)

end Promotions

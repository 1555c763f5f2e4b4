import Promotions.Calendar.Text
import Promotions.FreeForm

/-!
# Why a promotion does not compile

A promotion that cannot be compiled is told apart by what is wrong with which setting, and never
stops the compilation of others.
-/

namespace Promotions

/-- What is wrong with the value of a setting. -/
inductive Flaw where
  /-- The amount is negative. -/
  | negative (value : Amount)
  /-- The percent points are not between zero and one hundred. -/
  | notPercent (points : Decimal)
  /-- The offset is not a weekday. -/
  | notWeekday (offset : UInt8)
  /-- The execution priority is not between one and nine hundred and ninety-nine. -/
  | notPriority (value : UInt16)
  /-- The count is zero. -/
  | zeroCount
  /-- The greatest number of selections is below the least. -/
  | belowMinSelection (greatest least : Count)
  /-- The greatest amount is below the least. -/
  | belowMinAmount (greatest least : Amount)
  /-- The value has a part behind the point. -/
  | notWhole (value : Decimal)
  /-- The value does not fit an amount. -/
  | outOfRange (value : Decimal)
  /-- The setting in free form cannot be used. -/
  | malformed (error : FreeForm.Error)

/-- The wording of a flaw. -/
def Flaw.message : Flaw → String
  | negative value => s!"{value.toInt} is negative"
  | notPercent points => s!"{points.toText} is outside 0-100"
  | notWeekday offset => s!"{offset} is not a weekday (0-6)"
  | notPriority value => s!"{value} is outside 1-999"
  | zeroCount => "must be at least 1"
  | belowMinSelection greatest least => s!"{greatest} is below min_selection {least}"
  | belowMinAmount greatest least => s!"{greatest.toInt} is below min_amount {least.toInt}"
  | notWhole value => s!"{value.toText} is not a whole number of minor units"
  | outOfRange value => s!"{value.toText} is out of range"
  | malformed error => error.message

/-- Why a promotion does not compile. -/
inductive CompileError where
  /-- No archetype has the name. -/
  | unknownArchetype (name : String)
  /-- A setting that the archetype needs is not set. -/
  | missing (setting : String)
  /-- More than one price of a happy hour is set. -/
  | ambiguousPricing
  /-- A setting has a value that cannot be used. -/
  | invalid (setting : String) (flaw : Flaw)
  /-- A promotion across brands is earned at no brand. -/
  | emptyTriggerBrands
  /-- No currency has the code. -/
  | unknownCurrency (code : String)
  /-- The last day is before the first. -/
  | invalidDateRange (startDate endDate : Date)

namespace CompileError

/-- The short name of the error. -/
def kind : CompileError → String
  | unknownArchetype _ => "unknown_promo_type"
  | missing _ => "missing_configuration"
  | ambiguousPricing => "ambiguous_configuration"
  | invalid _ _ => "invalid_configuration"
  | emptyTriggerBrands => "empty_trigger_brands"
  | unknownCurrency _ => "unknown_currency"
  | invalidDateRange _ _ => "invalid_date_range"

/-- The wording of the error. -/
def message : CompileError → String
  | unknownArchetype name => s!"unknown promotion type: {name}"
  | missing setting => s!"missing configuration: {setting}"
  | ambiguousPricing =>
    "ambiguous configuration: only one of discount_percent, discount_amount, " ++
      "happy_hour_price may be set"
  | invalid setting flaw => s!"invalid configuration for {setting}: {flaw.message}"
  | emptyTriggerBrands => "cross-brand trigger_benefit promotion has no trigger brands"
  | unknownCurrency code => s!"unknown currency code: {code}"
  | invalidDateRange startDate endDate =>
    s!"end date {endDate.toText} is before start date {startDate.toText}"

end CompileError

end Promotions

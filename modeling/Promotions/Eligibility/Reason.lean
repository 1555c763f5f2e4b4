import Promotions.Amount
import Promotions.Json.Codec

/-!
# Why a promotion does not apply

A bill is put before the gates in a fixed order, and the first gate that rejects it gives the
reason. A fault is not a rejection: it says that the promotion could not be judged.
-/

namespace Promotions

/-- The gates, in the order in which a bill is put before them. -/
inductive Gate where
  /-- Dates, times, weekdays and holidays. -/
  | validity
  /-- Stores, brands, channels and conditions across brands. -/
  | scope
  /-- Products and categories. -/
  | targeting
  /-- Membership and history. -/
  | customer
  /-- What the lines have to reach. -/
  | threshold
  /-- How often the promotion may be used. -/
  | limit
  /-- What the archetype asks for. -/
  | rule
  deriving DecidableEq, Repr

namespace Gate

/-- The gates in their order. -/
def inOrder : List Gate := [validity, scope, targeting, customer, threshold, limit, rule]

/-- The place of a gate in that order. -/
def rank : Gate → Nat
  | validity => 0
  | scope => 1
  | targeting => 2
  | customer => 3
  | threshold => 4
  | limit => 5
  | rule => 6

end Gate

instance : Named Gate where
  all := Gate.inOrder
  name
    | .validity => "validity"
    | .scope => "scope"
    | .targeting => "targeting"
    | .customer => "customer"
    | .threshold => "threshold"
    | .limit => "limit"
    | .rule => "rule"

/-- Why a bill is rejected. -/
inductive Reason where
  /-- The date is before the first day or after the last. -/
  | outsideDateRange
  /-- The time is outside the hours. -/
  | outsideTimeWindow
  /-- The weekday is not allowed. -/
  | dayNotAllowed
  /-- The date is a holiday. -/
  | holidayExcluded
  /-- The promotion does not run at the store. -/
  | storeNotInScope
  /-- The promotion does not run for the brand. -/
  | brandNotInScope
  /-- The promotion does not run in the sales channel. -/
  | channelNotAllowed
  /-- The promotion is not earned across brands. -/
  | crossBrandConditionNotMet
  /-- No line is eligible. -/
  | targetingGateFailed
  /-- No member is on the bill. -/
  | memberRequired
  /-- The tier of the member is not among those listed. -/
  | memberTierNotAllowed
  /-- The member is left out. -/
  | memberExcluded
  /-- The customer is of another type. -/
  | customerTypeMismatch
  /-- The eligible lines cost too little. -/
  | minPurchaseNotMet
  /-- The eligible lines have too few units. -/
  | minQuantityNotMet
  /-- There are too few eligible lines. -/
  | minItemsNotMet
  /-- The promotion has been used too often. -/
  | usageLimitReached
  /-- The promotion has been used too often on this day. -/
  | dailyLimitReached
  /-- The promotion has been used too often by this customer. -/
  | customerLimitReached
  /-- The least purchase of the rule is not reached. -/
  | ruleMinimumNotMet
  /-- Too few units are bought. -/
  | buyQuantityNotMet
  /-- A product of the combo is not on the bill. -/
  | comboIncomplete
  /-- Too few units of the trigger are on the bill. -/
  | triggerProductMissing
  /-- The free product is not on the bill. -/
  | freeItemNotInBill
  /-- No method of payment is chosen. -/
  | paymentMethodMissing
  /-- The method of payment is not among those listed. -/
  | paymentMethodNotAllowed
  /-- A component of the package is not on the bill. -/
  | packageIncomplete
  /-- Too few units are on the bill for a group. -/
  | mixMatchQuantityNotMet
  /-- Too few units of the required product are on the bill. -/
  | upsellRequirementNotMet
  /-- The further product is not on the bill. -/
  | upsellProductMissing
  /-- No tier is reached. -/
  | noTierQualified
  deriving DecidableEq, Repr

instance : Named Reason where
  all := [.outsideDateRange, .outsideTimeWindow, .dayNotAllowed, .holidayExcluded,
    .storeNotInScope, .brandNotInScope, .channelNotAllowed, .crossBrandConditionNotMet,
    .targetingGateFailed, .memberRequired, .memberTierNotAllowed, .memberExcluded,
    .customerTypeMismatch, .minPurchaseNotMet, .minQuantityNotMet, .minItemsNotMet,
    .usageLimitReached, .dailyLimitReached, .customerLimitReached, .ruleMinimumNotMet,
    .buyQuantityNotMet, .comboIncomplete, .triggerProductMissing, .freeItemNotInBill,
    .paymentMethodMissing, .paymentMethodNotAllowed, .packageIncomplete, .mixMatchQuantityNotMet,
    .upsellRequirementNotMet, .upsellProductMissing, .noTierQualified]
  name
    | .outsideDateRange => "outside_date_range"
    | .outsideTimeWindow => "outside_time_window"
    | .dayNotAllowed => "day_not_allowed"
    | .holidayExcluded => "holiday_excluded"
    | .storeNotInScope => "store_not_in_scope"
    | .brandNotInScope => "brand_not_in_scope"
    | .channelNotAllowed => "channel_not_allowed"
    | .crossBrandConditionNotMet => "cross_brand_condition_not_met"
    | .targetingGateFailed => "targeting_gate_failed"
    | .memberRequired => "member_required"
    | .memberTierNotAllowed => "member_tier_not_allowed"
    | .memberExcluded => "member_excluded"
    | .customerTypeMismatch => "customer_type_mismatch"
    | .minPurchaseNotMet => "min_purchase_not_met"
    | .minQuantityNotMet => "min_quantity_not_met"
    | .minItemsNotMet => "min_items_not_met"
    | .usageLimitReached => "usage_limit_reached"
    | .dailyLimitReached => "daily_limit_reached"
    | .customerLimitReached => "customer_limit_reached"
    | .ruleMinimumNotMet => "rule_minimum_not_met"
    | .buyQuantityNotMet => "buy_quantity_not_met"
    | .comboIncomplete => "combo_incomplete"
    | .triggerProductMissing => "trigger_product_missing"
    | .freeItemNotInBill => "free_item_not_in_bill"
    | .paymentMethodMissing => "payment_method_missing"
    | .paymentMethodNotAllowed => "payment_method_not_allowed"
    | .packageIncomplete => "package_incomplete"
    | .mixMatchQuantityNotMet => "mix_match_quantity_not_met"
    | .upsellRequirementNotMet => "upsell_requirement_not_met"
    | .upsellProductMissing => "upsell_product_missing"
    | .noTierQualified => "no_tier_qualified"

/-- The gate that rejects for a reason. -/
def Reason.gate : Reason → Gate
  | outsideDateRange | outsideTimeWindow | dayNotAllowed | holidayExcluded => .validity
  | storeNotInScope | brandNotInScope | channelNotAllowed | crossBrandConditionNotMet => .scope
  | targetingGateFailed => .targeting
  | memberRequired | memberTierNotAllowed | memberExcluded | customerTypeMismatch => .customer
  | minPurchaseNotMet | minQuantityNotMet | minItemsNotMet => .threshold
  | usageLimitReached | dailyLimitReached | customerLimitReached => .limit
  | _ => .rule

/-- Why a promotion could not be judged. -/
inductive Fault where
  /-- The document has a form that is not known. -/
  | unsupportedVersion (version : String)
  /-- The document and the bill are in different currencies. -/
  | currencyMismatch (document bill : String)
  /-- The currency of the document is not known. -/
  | unknownCurrency (code : String)
  /-- An amount could not be calculated. -/
  | arithmetic (source : ArithmeticError)
  deriving DecidableEq, Repr

namespace Fault

/-- The wording of a fault. -/
def message : Fault → String
  | unsupportedVersion version => s!"unsupported compiler version: {version}"
  | currencyMismatch document bill =>
    s!"document currency {document} does not match bill currency {bill}"
  | unknownCurrency code => s!"unknown currency code: {code}"
  | arithmetic source => s!"discount arithmetic failed: {source.message}"

end Fault

/-- Why evaluation stops before anything is granted. -/
inductive Rejection where
  /-- A gate rejects the bill. -/
  | ineligible (reason : Reason)
  /-- The promotion could not be judged. -/
  | fault (fault : Fault)
  deriving DecidableEq, Repr

/-- What can be worked out of a bill, or why not. -/
abbrev Judged := Except Rejection

namespace Judged

/-- The bill is rejected unless a condition holds. -/
def require (condition : Bool) (reason : Reason) : Judged Unit :=
  if condition then .ok () else .error (.ineligible reason)

/-- The value that has to be there, or else the bill is rejected. -/
def orReject {α : Type} (reason : Reason) : Option α → Judged α
  | some a => .ok a
  | none => .error (.ineligible reason)

/-- An amount that cannot be calculated is a fault. -/
def ofArithmetic {α : Type} : Except ArithmeticError α → Judged α
  | .ok a => .ok a
  | .error e => .error (.fault (.arithmetic e))

instance : MonadLift (Except ArithmeticError) Judged := ⟨ofArithmetic⟩

@[simp] theorem liftM_ok {α : Type} (a : α) :
    (liftM (.ok a : Except ArithmeticError α) : Judged α) = .ok a := rfl

@[simp] theorem liftM_error {α : Type} (e : ArithmeticError) :
    (liftM (.error e : Except ArithmeticError α) : Judged α) =
      .error (.fault (.arithmetic e)) := rfl

theorem require_of {condition : Bool} (h : condition = true) (reason : Reason) :
    require condition reason = .ok () := if_pos h

theorem require_of_not {condition : Bool} (h : ¬condition = true) (reason : Reason) :
    require condition reason = .error (.ineligible reason) := if_neg h

end Judged

end Promotions

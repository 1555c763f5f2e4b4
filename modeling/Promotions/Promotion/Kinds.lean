import Promotions.Json.Codec

/-!
# The choices a promotion makes

The closed sets of alternatives that a promotion chooses from: what kind of offer it is, what part
of a bill it discounts, whom it is for, and when it is worked out.
-/

namespace Promotions

/-- The kinds of offers. -/
inductive Archetype where
  /-- A percentage off the eligible lines. -/
  | percentDiscount
  /-- A fixed amount off. -/
  | amountDiscount
  /-- Some units free or cheaper for some units bought. -/
  | buyXGetY
  /-- A fixed price for a set of products. -/
  | combo
  /-- A free product, possibly for buying another one. -/
  | freeItem
  /-- Lower prices at some time of day. -/
  | happyHour
  /-- Money given back after the payment. -/
  | cashback
  /-- A discount for a method of payment. -/
  | paymentDiscount
  /-- A set menu with fixed and chosen components. -/
  | package
  /-- Any units of a category at a price for the group. -/
  | mixMatch
  /-- A further product at a special price. -/
  | upsell
  /-- A benefit that depends on how much is spent. -/
  | thresholdTier
  deriving DecidableEq, Repr

instance : Named Archetype where
  all := [.percentDiscount, .amountDiscount, .buyXGetY, .combo, .freeItem, .happyHour, .cashback,
    .paymentDiscount, .package, .mixMatch, .upsell, .thresholdTier]
  name
    | .percentDiscount => "percent_discount"
    | .amountDiscount => "amount_discount"
    | .buyXGetY => "buy_x_get_y"
    | .combo => "combo"
    | .freeItem => "free_item"
    | .happyHour => "happy_hour"
    | .cashback => "cashback"
    | .paymentDiscount => "payment_discount"
    | .package => "package"
    | .mixMatch => "mix_match"
    | .upsell => "upsell"
    | .thresholdTier => "threshold_tier"

/-- What part of a bill a promotion discounts. -/
inductive ApplyTo where
  /-- Every line that is not excluded. -/
  | all
  /-- The lines of some categories. -/
  | category
  /-- The lines of some products. -/
  | product
  /-- The bill as a whole. -/
  | bill
  /-- The bill as a whole, when it is paid. -/
  | payment
  deriving DecidableEq, Repr

/-- The promotion discounts the bill as a whole and not its lines. -/
def ApplyTo.isBillScoped : ApplyTo → Bool
  | bill | payment => true
  | _ => false

instance : Named ApplyTo where
  all := [.all, .category, .product, .bill, .payment]
  name
    | .all => "all"
    | .category => "category"
    | .product => "product"
    | .bill => "bill"
    | .payment => "payment"

/-- Which brands of its company a promotion is for. -/
inductive BrandScope where
  /-- Every brand. -/
  | company
  /-- Some brands. -/
  | brands
  /-- One brand. -/
  | single
  deriving DecidableEq, Repr

instance : Named BrandScope where
  all := [.company, .brands, .single]
  name
    | .company => "company"
    | .brands => "brands"
    | .single => "single"

/-- Which customers a promotion is to win. -/
inductive CustomerType where
  /-- Every customer. -/
  | all
  /-- Customers who have ordered nothing yet. -/
  | firstOrder
  /-- Customers who have ordered nothing of the brand yet. -/
  | firstPerBrand
  /-- Customers who come back after a lapse. -/
  | comeback
  /-- Customers who have not ordered for some days. -/
  | inactive
  deriving DecidableEq, Repr

instance : Named CustomerType where
  all := [.all, .firstOrder, .firstPerBrand, .comeback, .inactive]
  name
    | .all => "all"
    | .firstOrder => "first_order"
    | .firstPerBrand => "first_per_brand"
    | .comeback => "comeback"
    | .inactive => "inactive"

/-- How a promotion across brands is earned. -/
inductive CrossBrandType where
  /-- Spending at some brands earns a benefit at others. -/
  | triggerBenefit
  /-- Spending at several brands earns a reward. -/
  | multiBrandSpend
  /-- Buying from several brands at once earns a reward. -/
  | crossBrandBundle
  /-- Points add up across brands. -/
  | loyaltyAccumulate
  /-- Several brands stand on one receipt. -/
  | sameReceipt
  deriving DecidableEq, Repr

instance : Named CrossBrandType where
  all := [.triggerBenefit, .multiBrandSpend, .crossBrandBundle, .loyaltyAccumulate, .sameReceipt]
  name
    | .triggerBenefit => "trigger_benefit"
    | .multiBrandSpend => "multi_brand_spend"
    | .crossBrandBundle => "cross_brand_bundle"
    | .loyaltyAccumulate => "loyalty_accumulate"
    | .sameReceipt => "same_receipt"

/-- When a promotion is worked out. -/
inductive Stage where
  /-- While items are added. -/
  | itemLevel
  /-- When the cart is added up. -/
  | cartLevel
  /-- At the payment. -/
  | paymentLevel
  deriving DecidableEq, Repr

namespace Stage

/-- The stages in the order they are run. -/
def inOrder : List Stage := [itemLevel, cartLevel, paymentLevel]

/-- The place of a stage in that order. -/
def rank : Stage → Nat
  | itemLevel => 0
  | cartLevel => 1
  | paymentLevel => 2

end Stage

instance : Named Stage where
  all := Stage.inOrder
  name
    | .itemLevel => "item_level"
    | .cartLevel => "cart_level"
    | .paymentLevel => "payment_level"

/-- What a component of a package is. -/
inductive ComponentKind where
  /-- A given product. -/
  | fixed
  /-- A choice from a category. -/
  | choice
  deriving DecidableEq, Repr

instance : Named ComponentKind where
  all := [.fixed, .choice]
  name
    | .fixed => "fixed"
    | .choice => "choice"

/-- What a tier rewards with. -/
inductive RewardKind where
  /-- A percentage off. -/
  | percent
  /-- An amount off. -/
  | amount
  /-- A free product. -/
  | freeProduct
  /-- More loyalty points. -/
  | pointsMultiplier
  deriving DecidableEq, Repr

instance : Named RewardKind where
  all := [.percent, .amount, .freeProduct, .pointsMultiplier]
  name
    | .percent => "percent"
    | .amount => "amount"
    | .freeProduct => "free_product"
    | .pointsMultiplier => "points_multiplier"

end Promotions

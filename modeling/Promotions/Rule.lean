import Promotions.Promotion.Kinds
import Promotions.Schedule
import Promotions.Tier

/-!
# Rules

What a promotion grants: one shape for each archetype, with the settings that the archetype uses and
no others.
-/

namespace Promotions

/-- A discount in percent points or as an amount. -/
inductive DiscountValue where
  /-- Percent points off. -/
  | percent (points : Decimal)
  /-- An amount off. -/
  | amount (value : Amount)
  deriving DecidableEq

/-- A percentage off the eligible lines. -/
structure PercentDiscount where
  /-- The percent points. -/
  percent : Decimal
  /-- The most that is granted. -/
  maxCap : Option Amount
  /-- The least purchase. -/
  minPurchase : Amount
  deriving DecidableEq

/-- A fixed amount off. -/
structure AmountDiscount where
  /-- The amount. -/
  amount : Amount
  /-- The least purchase. -/
  minPurchase : Amount
  deriving DecidableEq

/-- Some units free or cheaper for some units bought. -/
structure BuyXGetY where
  /-- How many units have to be bought. -/
  buyQuantity : Count
  /-- How many units are granted for them. -/
  getQuantity : Count
  /-- The percent points off the units that are granted. -/
  percent : Decimal
  /-- The product that is granted; without one it is the product that is bought. -/
  getProduct : Option ProductId
  /-- The units granted are of the product that is bought. -/
  sameProductOnly : Bool
  deriving DecidableEq

/-- A fixed price for a set of products. -/
structure Combo where
  /-- The price of a unit of each. -/
  price : Amount
  /-- The products. -/
  products : SortedSet ProductId
  deriving DecidableEq

/-- A free product. -/
structure FreeItem where
  /-- The product that has to be bought for it. -/
  trigger : Option ProductId
  /-- How many units of that have to be bought. -/
  triggerQuantity : Count
  /-- The free product. -/
  freeProduct : Option ProductId
  /-- How many units are free. -/
  freeQuantity : Count
  deriving DecidableEq

/-- How a happy hour lowers prices. -/
inductive HappyHourPricing where
  /-- Percent points off. -/
  | percent (points : Decimal)
  /-- An amount off. -/
  | amount (value : Amount)
  /-- A price for every unit that costs more. -/
  | specialPrice (price : Amount)
  deriving DecidableEq

/-- Lower prices at some time of day. -/
structure HappyHour where
  /-- How prices are lowered. -/
  pricing : HappyHourPricing
  /-- The hours. -/
  window : TimeWindow
  /-- The weekdays. -/
  weekdays : WeekdaySet
  deriving DecidableEq

/-- Money given back after the payment. -/
structure Cashback where
  /-- How much. -/
  value : DiscountValue
  /-- The most that is given back. -/
  maxCap : Option Amount
  /-- The methods of payment it is for; none means all. -/
  paymentMethods : SortedSet String
  /-- The least purchase. -/
  minPurchase : Amount
  deriving DecidableEq

/-- A discount for a method of payment. -/
structure PaymentDiscount where
  /-- The methods of payment it is for; none means all. -/
  paymentMethods : SortedSet String
  /-- How much. -/
  value : DiscountValue
  /-- The most that is granted. -/
  maxCap : Option Amount
  /-- The least purchase. -/
  minPurchase : Amount
  deriving DecidableEq

/-- A component of a package. -/
structure Component where
  /-- A product or a choice. -/
  kind : ComponentKind
  /-- The product. -/
  product : Option ProductId
  /-- The category to choose from. -/
  category : Option CategoryId
  /-- How many units of the product, or of each selection. -/
  quantity : Count
  /-- The package is incomplete without it. -/
  required : Bool
  /-- The least number of selections. -/
  minSelection : Count
  /-- The greatest number of selections. -/
  maxSelection : Count
  deriving DecidableEq

/-- A set menu. -/
structure Package where
  /-- The name it is shown under. -/
  name : String
  /-- The components. -/
  components : List Component
  /-- The price of the whole. -/
  price : Amount
  /-- The cashier may exchange components. -/
  allowModification : Bool
  deriving DecidableEq

/-- Any units of a category at a price for the group. -/
structure MixMatch where
  /-- The category. -/
  category : CategoryId
  /-- How many units are a group. -/
  groupSize : Count
  /-- The price of a group. -/
  specialPrice : Amount
  /-- A group may hold several units of one product. -/
  allowSameProduct : Bool
  deriving DecidableEq

/-- A further product at a special price. -/
structure Upsell where
  /-- The product that has to be bought. -/
  requiredProduct : ProductId
  /-- How many units of it have to be bought. -/
  requiredQuantity : Count
  /-- The further product. -/
  upsellProduct : ProductId
  /-- The price of one unit of it. -/
  specialPrice : Amount
  /-- What is said with the offer. -/
  message : String
  deriving DecidableEq

/-- A benefit that depends on how much is spent. -/
structure ThresholdTier where
  /-- The tiers. -/
  tiers : List Tier
  deriving DecidableEq

/-- What a promotion grants. -/
inductive Rule where
  /-- A percentage off. -/
  | percentDiscount (rule : PercentDiscount)
  /-- An amount off. -/
  | amountDiscount (rule : AmountDiscount)
  /-- Units for units bought. -/
  | buyXGetY (rule : BuyXGetY)
  /-- A price for a set of products. -/
  | combo (rule : Combo)
  /-- A free product. -/
  | freeItem (rule : FreeItem)
  /-- Lower prices at some time of day. -/
  | happyHour (rule : HappyHour)
  /-- Money given back. -/
  | cashback (rule : Cashback)
  /-- A discount for a method of payment. -/
  | paymentDiscount (rule : PaymentDiscount)
  /-- A set menu. -/
  | package (rule : Package)
  /-- A price for a group of units. -/
  | mixMatch (rule : MixMatch)
  /-- A further product. -/
  | upsell (rule : Upsell)
  /-- A benefit by tiers. -/
  | thresholdTier (rule : ThresholdTier)
  deriving DecidableEq

/-- The archetype of a rule. -/
def Rule.archetype : Rule → Archetype
  | percentDiscount _ => .percentDiscount
  | amountDiscount _ => .amountDiscount
  | buyXGetY _ => .buyXGetY
  | combo _ => .combo
  | freeItem _ => .freeItem
  | happyHour _ => .happyHour
  | cashback _ => .cashback
  | paymentDiscount _ => .paymentDiscount
  | package _ => .package
  | mixMatch _ => .mixMatch
  | upsell _ => .upsell
  | thresholdTier _ => .thresholdTier

end Promotions

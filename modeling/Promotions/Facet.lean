import Promotions.Id
import Promotions.Promotion.Kinds
import Promotions.Schedule
import Promotions.Text

/-!
# Facets

What promotions of every archetype have in common: when and where they are valid, which lines and
customers they are for, what a bill has to reach, how often they may be used, and how they get along
with one another.
-/

namespace Promotions

/-- When a promotion is valid. -/
structure Validity where
  /-- The first day. -/
  startDate : Date
  /-- The last day. -/
  endDate : Date
  /-- The hours; without a window it is valid all day. -/
  window : Option TimeWindow
  /-- The weekdays. -/
  weekdays : WeekdaySet
  /-- Holidays are left out. -/
  excludeHolidays : Bool
  deriving DecidableEq

/-- The date is between the first and the last day. -/
def Validity.coversDate (v : Validity) (date : Date) : Bool :=
  decide (v.startDate ≤ date) && decide (date ≤ v.endDate)

/-- The time is in the hours. -/
def Validity.coversTime (v : Validity) (time : Clock) : Bool := v.window.all (·.contains time)

/-- The stores at which a promotion runs. -/
inductive StoreScope where
  /-- Every store. -/
  | all
  /-- The stores of a list. -/
  | listed (stores : SortedSet StoreId)
  deriving DecidableEq

/-- The promotion runs at the store. -/
def StoreScope.includes : StoreScope → StoreId → Bool
  | all, _ => true
  | listed stores, store => decide (store ∈ stores)

/-- The brands for which a promotion runs. -/
inductive BrandCoverage where
  /-- Every brand of the company. -/
  | company
  /-- The brands of a list. -/
  | listed (brands : SortedSet BrandId)
  deriving DecidableEq

/-- Where a promotion is valid. -/
structure Scope where
  /-- The stores. -/
  stores : StoreScope
  /-- The brands. -/
  brands : BrandCoverage
  /-- Brands that are left out. -/
  excludeBrands : SortedSet BrandId
  /-- The sales channels; none means all. -/
  salesChannels : SortedSet String
  /-- Sales channels that are left out. -/
  excludeChannels : SortedSet String
  deriving DecidableEq

namespace Scope

/-- The promotion runs for the brand. Being left out counts more than being listed. -/
def coversBrand (s : Scope) (brand : BrandId) : Bool :=
  if brand ∈ s.excludeBrands then false
  else
    match s.brands with
    | .company => true
    | .listed brands => decide (brand ∈ brands)

/-- The promotion runs in the sales channel, whatever its case and the blanks around it. -/
def allowsChannel (s : Scope) (channel : String) : Bool :=
  let channel := Text.canonical channel
  if channel ∈ s.excludeChannels then false
  else s.salesChannels.isEmpty || decide (channel ∈ s.salesChannels)

end Scope

/-- Which lines of a bill a promotion is for. -/
structure Targeting where
  /-- The part of the bill. -/
  applyTo : ApplyTo
  /-- The categories. -/
  categories : SortedSet CategoryId
  /-- The products. -/
  products : SortedSet ProductId
  /-- Categories that are left out. -/
  excludeCategories : SortedSet CategoryId
  /-- Products that are left out. -/
  excludeProducts : SortedSet ProductId
  deriving DecidableEq

/-- Which customers a promotion is for. -/
structure Audience where
  /-- Members alone. -/
  memberOnly : Bool
  /-- The tiers of members; none means all. -/
  memberTiers : SortedSet String
  /-- Members that are left out. -/
  excludeMembers : SortedSet MemberId
  /-- The type of customer. -/
  customerType : CustomerType
  /-- After how many days without an order a customer is inactive. -/
  inactiveDaysThreshold : Count
  deriving DecidableEq

/-- What the eligible lines have to reach. -/
structure Requirements where
  /-- The least amount. -/
  minPurchase : Amount
  /-- The least number of units. -/
  minQuantity : Count
  /-- The least number of lines. -/
  minItems : Count
  deriving DecidableEq

/-- How often a promotion may be used. -/
structure Limits where
  /-- How often in all. -/
  maxUses : Option Count
  /-- How often by one customer. -/
  maxUsesPerCustomer : Option Count
  /-- How often in a day. -/
  maxUsesPerDay : Option Count
  /-- How often it had been used when the promotion was compiled. -/
  currentUses : Count
  deriving DecidableEq

/-- No limit is set. -/
def Limits.isUnlimited (l : Limits) : Bool :=
  l.maxUses.isNone && l.maxUsesPerDay.isNone && l.maxUsesPerCustomer.isNone

/-- How a promotion gets along with others. -/
structure ConflictPolicy where
  /-- It may stand beside a promotion that may not. -/
  isStackable : Bool
  /-- Its place among the promotions of its stage. -/
  executionPriority : UInt16
  /-- When it is worked out. -/
  stage : Stage
  /-- Promotions it is never combined with. -/
  cannotCombineWith : SortedSet PromotionId
  /-- It is considered without being asked for. -/
  isAutoApply : Bool
  /-- It needs a voucher. -/
  requireVoucher : Bool
  /-- The order it is shown in. -/
  priority : Int32
  deriving DecidableEq

/-- The promotion counts only for a bill that asks for it. -/
def ConflictPolicy.needsRequest (c : ConflictPolicy) : Bool := !c.isAutoApply || c.requireVoucher

/-- How a promotion is earned across brands. -/
structure CrossBrand where
  /-- The way it is earned. -/
  kind : CrossBrandType
  /-- The brands it is earned at. -/
  triggerBrands : SortedSet BrandId
  /-- The brands it is granted at. -/
  benefitBrands : SortedSet BrandId
  /-- How much has to be spent. -/
  triggerMinAmount : Option Amount
  /-- How many brands it takes. -/
  minDistinctBrands : Count
  deriving DecidableEq

end Promotions

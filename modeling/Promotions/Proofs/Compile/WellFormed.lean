import Promotions.Document
import Promotions.Proofs.Compile.Settings

/-!
# Proofs: what a well-formed document is

Everything that a terminal relies on when it reads a document: no percentage of nothing, no group of
no units, no amount below zero, no choice that cannot be made, no empty list where one is named, and
names in the form in which they are compared. Each archetype says what this means for its rule, each
facet for itself.
-/

namespace Promotions

/-- An amount that may be left out is positive where it is given. -/
def Amount.PositiveIfAny (value? : Option Amount) : Prop := ∀ value, value? = some value → 0 < value

/-- A count that may be left out is at least one where it is given. -/
def Count.PositiveIfAny (n? : Option Count) : Prop := ∀ n, n? = some n → 1 ≤ n

/-- All names of a set are in the form in which names are compared. -/
def SortedSet.AllCanonical (names : SortedSet String) : Prop := ∀ name ∈ names, Text.IsCanonical name

/-- The offsets ascend and are those of weekdays. -/
structure WeekdaySet.WellFormed (s : WeekdaySet) : Prop where
  ascending : s.offsets.Pairwise (· < ·)
  weekdays : ∀ offset ∈ s.offsets, offset ≤ 6

/-! ## Rules -/

def DiscountValue.WellFormed : DiscountValue → Prop
  | percent points => points.IsPositivePercentage
  | amount value => 0 < value

structure PercentDiscount.WellFormed (r : PercentDiscount) : Prop where
  percent : r.percent.IsPositivePercentage
  maxCap : Amount.PositiveIfAny r.maxCap
  minPurchase : 0 ≤ r.minPurchase

structure AmountDiscount.WellFormed (r : AmountDiscount) : Prop where
  amount : 0 < r.amount
  minPurchase : 0 ≤ r.minPurchase

structure BuyXGetY.WellFormed (r : BuyXGetY) : Prop where
  buyQuantity : 1 ≤ r.buyQuantity
  getQuantity : 1 ≤ r.getQuantity
  percent : r.percent.IsPositivePercentage

structure Combo.WellFormed (r : Combo) : Prop where
  price : 0 < r.price
  products : r.products.toList ≠ []

structure FreeItem.WellFormed (r : FreeItem) : Prop where
  triggerQuantity : 1 ≤ r.triggerQuantity
  freeProduct : r.freeProduct.isSome = true
  freeQuantity : 1 ≤ r.freeQuantity

def HappyHourPricing.WellFormed : HappyHourPricing → Prop
  | percent points => points.IsPositivePercentage
  | amount value => 0 < value
  | specialPrice price => 0 < price

structure HappyHour.WellFormed (r : HappyHour) : Prop where
  pricing : r.pricing.WellFormed
  weekdays : r.weekdays.WellFormed

structure Cashback.WellFormed (r : Cashback) : Prop where
  value : r.value.WellFormed
  maxCap : Amount.PositiveIfAny r.maxCap
  paymentMethods : r.paymentMethods.AllCanonical
  minPurchase : 0 ≤ r.minPurchase

structure PaymentDiscount.WellFormed (r : PaymentDiscount) : Prop where
  paymentMethods : r.paymentMethods.AllCanonical
  value : r.value.WellFormed
  maxCap : Amount.PositiveIfAny r.maxCap
  minPurchase : 0 ≤ r.minPurchase

structure Component.WellFormed (c : Component) : Prop where
  product : c.kind = .fixed → c.product.isSome = true
  category : c.kind = .choice → c.category.isSome = true
  quantity : 1 ≤ c.quantity
  selection : c.kind = .choice → c.minSelection ≤ c.maxSelection

structure Package.WellFormed (r : Package) : Prop where
  nonempty : r.components ≠ []
  components : ∀ c ∈ r.components, c.WellFormed
  price : 0 ≤ r.price

structure MixMatch.WellFormed (r : MixMatch) : Prop where
  groupSize : 1 ≤ r.groupSize
  specialPrice : 0 ≤ r.specialPrice

structure Upsell.WellFormed (r : Upsell) : Prop where
  requiredQuantity : 1 ≤ r.requiredQuantity
  specialPrice : 0 ≤ r.specialPrice

def TierBenefit.WellFormed : TierBenefit → Prop
  | percent points => points.IsPercentage
  | amount value => 0 ≤ value
  | freeProduct _ => True
  | pointsMultiplier multiplier => .zero < multiplier

structure Tier.WellFormed (t : Tier) : Prop where
  benefit : t.benefit.WellFormed
  minAmount : 0 ≤ t.minAmount
  maxAmount : ∀ top, t.maxAmount = some top → t.minAmount ≤ top

/-- The tier starts at a greater amount, or at the same one and is not shown later. -/
def Tier.Precedes (a b : Tier) : Prop :=
  b.minAmount < a.minAmount ∨ a.minAmount = b.minAmount ∧ a.order ≤ b.order

structure ThresholdTier.WellFormed (r : ThresholdTier) : Prop where
  nonempty : r.tiers ≠ []
  tiers : ∀ t ∈ r.tiers, t.WellFormed
  inOrder : r.tiers.Pairwise Tier.Precedes

/-- Nothing in the rule makes its formula meaningless. -/
def Rule.WellFormed : Rule → Prop
  | percentDiscount r => r.WellFormed
  | amountDiscount r => r.WellFormed
  | buyXGetY r => r.WellFormed
  | combo r => r.WellFormed
  | freeItem r => r.WellFormed
  | happyHour r => r.WellFormed
  | cashback r => r.WellFormed
  | paymentDiscount r => r.WellFormed
  | package r => r.WellFormed
  | mixMatch r => r.WellFormed
  | upsell r => r.WellFormed
  | thresholdTier r => r.WellFormed

/-! ## Facets -/

structure Validity.WellFormed (v : Validity) : Prop where
  dates : v.startDate ≤ v.endDate
  weekdays : v.weekdays.WellFormed

def StoreScope.WellFormed : StoreScope → Prop
  | all => True
  | listed stores => stores.toList ≠ []

def BrandCoverage.WellFormed : BrandCoverage → Prop
  | company => True
  | listed brands => brands.toList ≠ []

structure Scope.WellFormed (s : Scope) : Prop where
  stores : s.stores.WellFormed
  brands : s.brands.WellFormed
  salesChannels : s.salesChannels.AllCanonical
  excludeChannels : s.excludeChannels.AllCanonical

structure Limits.WellFormed (l : Limits) : Prop where
  maxUses : Count.PositiveIfAny l.maxUses
  maxUsesPerDay : Count.PositiveIfAny l.maxUsesPerDay
  maxUsesPerCustomer : Count.PositiveIfAny l.maxUsesPerCustomer

structure CrossBrand.WellFormed (c : CrossBrand) : Prop where
  triggerBrands : c.kind = .triggerBenefit → c.triggerBrands.toList ≠ []
  triggerMinAmount : Amount.PositiveIfAny c.triggerMinAmount
  minDistinctBrands : 1 ≤ c.minDistinctBrands

/-- The rule and every facet of a document are well formed. -/
structure Document.WellFormed (d : Document) : Prop where
  rule : d.rule.WellFormed
  validity : d.validity.WellFormed
  scope : d.scope.WellFormed
  memberTiers : d.audience.memberTiers.AllCanonical
  minPurchase : 0 ≤ d.requirements.minPurchase
  limits : d.limits.WellFormed
  executionPriority : 1 ≤ d.conflict.executionPriority ∧ d.conflict.executionPriority ≤ 999
  crossBrand : ∀ crossBrand, d.crossBrand = some crossBrand → crossBrand.WellFormed

end Promotions

import Promotions.Decimal.Percent
import Promotions.Eligibility.MixMatch
import Promotions.Eligibility.Package

/-!
# Formulas

One formula for each archetype. Every formula sees the eligible lines only. What it yields is
brought between zero and the base, the most that can be granted.
-/

namespace Promotions

open Judged

/-- The amount that a discount stands for, brought down to a cap. -/
def DiscountValue.of (value : DiscountValue) (cap : Option Amount) (base : Amount) :
    Except ArithmeticError Amount :=
  match value with
  | percent points => points.cappedPercentOf base cap
  | amount value => .ok (value.capped cap)

/-- A percentage of the base. -/
def PercentDiscount.grant (r : PercentDiscount) (b : Basis) : Judged Grant := do
  b.requireMinimum r.minPurchase
  return { discount := ← r.percent.cappedPercentOf b.base r.maxCap, affected := b.lines.indices }

/-- The amount. -/
def AmountDiscount.grant (r : AmountDiscount) (b : Basis) : Judged Grant := do
  b.requireMinimum r.minPurchase
  return { discount := r.amount, affected := b.lines.indices }

namespace BuyXGetY

/-- The units of a line that are granted for the others of it. -/
def freeUnits (r : BuyXGetY) (line : BillLine) : Count :=
  let group := Count.addSat r.buyQuantity r.getQuantity
  if group = 0 then 0 else Count.mulSat (line.quantity / group) r.getQuantity

/-- The cheaper of two lines, and of two as cheap the first. -/
def cheaper (best : Option PlacedLine) (p : PlacedLine) : Option PlacedLine :=
  match best with
  | some q => if p.line.unitPrice < q.line.unitPrice then some p else some q
  | none => some p

/-- Units of the cheapest line of which enough are bought. -/
def grantSame (r : BuyXGetY) (b : Basis) : Judged Grant := do
  let earning := b.lines.lines.filter fun p => r.freeUnits p.line != 0
  let p ← orReject .buyQuantityNotMet (earning.foldl cheaper none)
  let value ← p.line.unitPrice.times (r.freeUnits p.line).toNat
  return { discount := ← r.percent.percentOf value, affected := [p.index] }

/-- Units of a given product for units of all others. -/
def grantOther (r : BuyXGetY) (b : Basis) (product : ProductId) : Judged Grant := do
  let others := b.lines.lines.filter fun p => p.line.product ≠ product
  let times := if r.buyQuantity = 0 then 0 else EligibleLines.unitsOf others / r.buyQuantity
  require (times != 0) .buyQuantityNotMet
  let price ← orReject .freeItemNotInBill (b.lines.cheapestOf? product)
  let free := min (Count.mulSat times r.getQuantity) (b.lines.quantityOf product)
  let value ← price.times free.toNat
  return { discount := ← r.percent.percentOf value, affected := b.lines.indices }

/-- Units for units. -/
def grant (r : BuyXGetY) (b : Basis) : Judged Grant :=
  match r.getProduct with
  | none => r.grantSame b
  | some product => r.grantOther b product

end BuyXGetY

namespace Combo

/-- The price of the cheapest unit of each product, added up. -/
def setValue (r : Combo) (b : Basis) : Judged Amount :=
  r.products.toList.foldlM (fun value product => do
    let price ← orReject .comboIncomplete (b.lines.cheapestOf? product)
    value.add price) 0

/-- How many sets are on the bill. -/
def sets (r : Combo) (b : Basis) : Count :=
  (r.products.toList.map b.lines.quantityOf).foldl min Count.greatest

/-- What each set costs above the price of the combo. -/
def grant (r : Combo) (b : Basis) : Judged Grant := do
  require (!r.products.isEmpty) .comboIncomplete
  let saving := (← r.setValue b).excess r.price
  let affected := b.lines.lines.filter fun p => decide (p.line.product ∈ r.products)
  return {
    discount := ← saving.times (r.sets b).toNat
    affected := EligibleLines.indicesOf affected
  }

end Combo

/-- The cheapest units of the free product, for enough units of the trigger. -/
def FreeItem.grant (r : FreeItem) (b : Basis) : Judged Grant := do
  require (r.trigger.all fun t => decide (max r.triggerQuantity 1 ≤ b.lines.quantityOf t))
    .triggerProductMissing
  let product ← orReject .freeItemNotInBill r.freeProduct
  let price ← orReject .freeItemNotInBill (b.lines.cheapestOf? product)
  let free := min (max r.freeQuantity 1) (b.lines.quantityOf product)
  return {
    discount := ← price.times free.toNat
    benefit := .freeProduct product
    affected := EligibleLines.indicesOf (b.lines.ofProduct product)
  }

/-- What the units of the lines cost above a price. -/
def HappyHour.savings (price : Amount) (lines : List PlacedLine) : Except ArithmeticError Amount :=
  lines.foldlM (fun total p => do
    total.add (← (p.line.unitPrice.excess price).times p.line.quantity.toNat)) 0

/-- A percentage of the base, an amount, or what the units cost above a price. -/
def HappyHour.grant (r : HappyHour) (b : Basis) : Judged Grant := do
  let discount ←
    match r.pricing with
    | .percent points => points.percentOf b.base
    | .amount amount => .ok (min amount b.base)
    | .specialPrice price => HappyHour.savings price b.lines.lines
  return { discount, affected := b.lines.indices }

/-- Money given back for a method of payment. -/
def Cashback.grant (r : Cashback) (b : Basis) : Judged Grant := do
  b.requirePayment r.paymentMethods
  b.requireMinimum r.minPurchase
  return {
    discount := ← r.value.of r.maxCap b.base
    benefit := .cashback
    affected := b.lines.indices
  }

/-- A discount for a method of payment. -/
def PaymentDiscount.grant (r : PaymentDiscount) (b : Basis) : Judged Grant := do
  b.requirePayment r.paymentMethods
  b.requireMinimum r.minPurchase
  return { discount := ← r.value.of r.maxCap b.base, affected := b.lines.indices }

/-- What the cheapest unit of the further product costs above its price. -/
def Upsell.grant (r : Upsell) (b : Basis) : Judged Grant := do
  require (max r.requiredQuantity 1 ≤ b.lines.quantityOf r.requiredProduct)
    .upsellRequirementNotMet
  let price ← orReject .upsellProductMissing (b.lines.cheapestOf? r.upsellProduct)
  return {
    discount := price.excess r.specialPrice
    affected := EligibleLines.indicesOf (b.lines.ofProduct r.upsellProduct)
  }

/-- The benefit of a tier. -/
def TierBenefit.grant (t : TierBenefit) (b : Basis) : Judged Grant := do
  match t with
  | percent points => return { discount := ← points.percentOf b.base, affected := b.lines.indices }
  | amount value => return { discount := value, affected := b.lines.indices }
  | freeProduct product =>
    return {
      discount := ← orReject .freeItemNotInBill (b.lines.cheapestOf? product)
      benefit := .freeProduct product
      affected := EligibleLines.indicesOf (b.lines.ofProduct product)
    }
  | pointsMultiplier multiplier =>
    return { discount := 0, benefit := .pointsMultiplier multiplier, affected := b.lines.indices }

/-- The benefit of the tier that the base reaches. -/
def ThresholdTier.grant (r : ThresholdTier) (b : Basis) : Judged Grant := do
  let tier ← orReject .noTierQualified (Tier.select? r.tiers b.base)
  tier.benefit.grant b

namespace Rule

/-- What the formula of a rule yields. -/
def formula (r : Rule) (b : Basis) : Judged Grant :=
  match r with
  | percentDiscount r => r.grant b
  | amountDiscount r => r.grant b
  | buyXGetY r => r.grant b
  | combo r => r.grant b
  | freeItem r => r.grant b
  | happyHour r => r.grant b
  | cashback r => r.grant b
  | paymentDiscount r => r.grant b
  | package r => r.grant b
  | mixMatch r => r.grant b
  | upsell r => r.grant b
  | thresholdTier r => r.grant b

/-- What a rule grants, which is between zero and the base. -/
def grant (r : Rule) (b : Basis) : Judged Grant := do
  let grant ← r.formula b
  return { grant with discount := Amount.clamp grant.discount b.base }

end Rule

end Promotions

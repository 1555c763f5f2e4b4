import Promotions.Eligibility.Context
import Promotions.Facet

/-!
# Conditions across brands

A promotion across brands is earned by what is spent at which brands, on the bill and before it. The
spending on the bill is added up first, whatever the condition is.
-/

namespace Promotions

/-- What is spent at each brand. -/
abbrev BrandSpend := SortedMap BrandId Amount

namespace BrandSpend

/-- What is spent at a brand. -/
def amountAt (s : BrandSpend) (brand : BrandId) : Amount := (s.find? brand).getD 0

/-- The spending with the price of a line added. -/
def addLine (ctx : Context) (s : BrandSpend) (line : BillLine) :
    Except ArithmeticError BrandSpend := do
  let brand := ctx.bill.lineBrand line ctx.catalog
  return s.insert brand (← (s.amountAt brand).add (← line.amount))

/-- What is spent at each brand on the bill. -/
def onBill (ctx : Context) : Except ArithmeticError BrandSpend :=
  ctx.bill.lines.foldlM (addLine ctx) .empty

end BrandSpend

namespace CrossBrand

/-- The brand counts for the condition. -/
def isTrigger (c : CrossBrand) (brand : BrandId) : Bool :=
  c.triggerBrands.isEmpty || decide (brand ∈ c.triggerBrands)

/-- What is spent at a brand, on the bill and before it. -/
def spendAt (ctx : Context) (onBill : BrandSpend) (brand : BrandId) : Amount :=
  let prior := match ctx.customer with
    | some customer => customer.spendAt brand
    | none => 0
  prior.addSat (onBill.amountAt brand)

/-- The brands at which anything is recorded, on the bill or before it. -/
def knownBrands (ctx : Context) (onBill : BrandSpend) : List BrandId :=
  let prior := match ctx.customer with
    | some customer => customer.brandSpend.keys
    | none => []
  (SortedSet.ofList (onBill.keys ++ prior)).toList

/-- Enough is spent at the trigger brands, and the bill is one of a benefit brand. -/
def triggerMet (c : CrossBrand) (ctx : Context) (onBill : BrandSpend) :
    Except ArithmeticError Bool := do
  if !c.benefitBrands.isEmpty && !decide (ctx.bill.brandId ∈ c.benefitBrands) then return false
  else
    let spend ← Amount.sum (c.triggerBrands.toList.map (spendAt ctx onBill))
    match c.triggerMinAmount with
    | some minimum => return decide (minimum ≤ spend)
    | none => return decide (0 < spend)

/-- Something is spent at enough brands, and enough in all. -/
def multiBrandMet (c : CrossBrand) (ctx : Context) (onBill : BrandSpend) :
    Except ArithmeticError Bool := do
  let spends := (((knownBrands ctx onBill).filter c.isTrigger).map (spendAt ctx onBill)).filter
    fun spend => decide (0 < spend)
  if spends.length < c.minDistinctBrands.toNat then return false
  else return decide (c.triggerMinAmount.getD 0 ≤ (← Amount.sum spends))

/-- The promotion is earned. -/
def isMet (c : CrossBrand) (ctx : Context) : Except ArithmeticError Bool := do
  let onBill ← BrandSpend.onBill ctx
  match c.kind with
  | .triggerBenefit => c.triggerMet ctx onBill
  | .multiBrandSpend => c.multiBrandMet ctx onBill
  | .crossBrandBundle =>
    if c.triggerBrands.isEmpty then return decide (c.minDistinctBrands.toNat ≤ onBill.size)
    else return c.triggerBrands.toList.all fun brand => onBill.keys.contains brand
  | .sameReceipt =>
    return decide (c.minDistinctBrands.toNat ≤ (onBill.keys.filter c.isTrigger).length)
  | .loyaltyAccumulate => return true

end CrossBrand

end Promotions

import Promotions.Id
import Promotions.Json.Record

/-!
# Customers

What is known of the customer on a bill, as it was before the bill.
-/

namespace Promotions

/-- What is known of a customer. -/
structure Customer where
  /-- The number of orders at any brand. -/
  totalOrders : Count := 0
  /-- The number of orders at each brand. -/
  brandOrders : SortedMap BrandId Count := .empty
  /-- The days since the last order, if there was one. -/
  daysSinceLastOrder : Option Count := none
  /-- The customer comes back after a lapse. -/
  isComeback : Bool := false
  /-- What was spent at each brand in the current period. -/
  brandSpend : SortedMap BrandId Amount := .empty
  deriving DecidableEq

namespace Customer

/-- Nothing was ordered before. -/
def isFirstOrder (c : Customer) : Bool := c.totalOrders == 0

/-- Nothing was ordered at the brand before. -/
def isFirstOrderAt (c : Customer) (brand : BrandId) : Bool :=
  (c.brandOrders.find? brand).getD 0 == 0

/-- Nothing was ordered for at least `threshold` days; who never ordered is not inactive. -/
def isInactive (c : Customer) (threshold : Count) : Bool :=
  match c.daysSinceLastOrder with
  | some days => decide (threshold ≤ days)
  | none => false

/-- What was spent at the brand. -/
def spendAt (c : Customer) (brand : BrandId) : Amount := (c.brandSpend.find? brand).getD 0

/-- The names of the members. -/
def memberNames : List String :=
  ["total_orders", "brand_orders", "days_since_last_order", "is_comeback", "brand_spend"]

instance : JsonCodec Customer where
  toJson c :=
    .obj
      [("total_orders", toJson c.totalOrders),
       ("brand_orders", toJson c.brandOrders),
       ("days_since_last_order", toJson c.daysSinceLastOrder),
       ("is_comeback", toJson c.isComeback),
       ("brand_spend", toJson c.brandSpend)]
  readJson? reading j := do
    let ms ← Json.record? reading memberNames 0 j
    return {
      totalOrders := ← Json.defaulted ms "total_orders" 0
      brandOrders := ← Json.defaulted ms "brand_orders" .empty
      daysSinceLastOrder := ← Json.optional ms "days_since_last_order"
      isComeback := ← Json.defaulted ms "is_comeback" false
      brandSpend := ← Json.defaulted ms "brand_spend" .empty
    }

end Customer

end Promotions

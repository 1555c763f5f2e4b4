import Promotions.Eligibility.Context
import Promotions.Eligibility.Lines
import Promotions.Eligibility.Reason
import Promotions.Json.Record

/-!
# Grants

What a formula works on and what it yields. The discount of a formula may be any amount; it is
brought between zero and the base afterwards.
-/

namespace Promotions

/-- What is granted. -/
inductive Benefit where
  /-- The bill is reduced. -/
  | discount
  /-- Money is given back after the payment. -/
  | cashback
  /-- Loyalty points are multiplied. -/
  | pointsMultiplier (multiplier : Decimal)
  /-- A product is free, its price being the discount. -/
  | freeProduct (product : ProductId)
  deriving DecidableEq

/-- What has to be paid becomes less. -/
def Benefit.reducesBill : Benefit → Bool
  | discount | freeProduct _ => true
  | cashback | pointsMultiplier _ => false

/-- The names of the forms of benefits. -/
def Benefit.names : List String := ["discount", "cashback", "points_multiplier", "free_product"]

instance : JsonCodec Benefit where
  toJson
    | .discount => .obj [("kind", .str "discount")]
    | .cashback => .obj [("kind", .str "cashback")]
    | .pointsMultiplier multiplier =>
      Json.tagged "kind" "value" "points_multiplier" (toJson multiplier)
    | .freeProduct product => Json.tagged "kind" "value" "free_product" (toJson product)
  readJson? reading j :=
    match Json.tagged? reading "kind" "value" Benefit.names j with
    | some ("discount", v) => if Json.isBare v then some .discount else none
    | some ("cashback", v) => if Json.isBare v then some .cashback else none
    | some ("points_multiplier", some v) => (readJson? reading v).map .pointsMultiplier
    | some ("free_product", some v) => (readJson? reading v).map .freeProduct
    | _ => none

/-- What a promotion grants for a bill. -/
structure Grant where
  /-- The discount, or what is given back. -/
  discount : Amount
  /-- The benefit. -/
  benefit : Benefit := .discount
  /-- The places of the lines it is granted for. -/
  affected : List Nat
  deriving DecidableEq

/-- What a formula works on. -/
structure Basis where
  /-- The bill. -/
  bill : Bill
  /-- The catalog. -/
  catalog : Catalog
  /-- The eligible lines. -/
  lines : EligibleLines
  /-- The most that can be granted. -/
  base : Amount

namespace Basis

/-- The eligible lines reach the least purchase of the rule. -/
def requireMinimum (b : Basis) (minPurchase : Amount) : Judged Unit :=
  Judged.require (decide (minPurchase ≤ b.lines.subtotal)) .ruleMinimumNotMet

/-- The method of payment is chosen and, where methods are listed, one of them. -/
def requirePayment (b : Basis) (methods : SortedSet String) : Judged Unit := do
  let method ← Judged.orReject .paymentMethodMissing b.bill.paymentMethod
  Judged.require (methods.isEmpty || decide (Text.canonical method ∈ methods))
    .paymentMethodNotAllowed

end Basis

end Promotions

import Promotions.Calendar.Text
import Promotions.Catalog
import Promotions.Json.Record
import Promotions.Text

/-!
# Bills

What a terminal knows of a sale when it asks which promotions apply: where and when it takes place,
who buys, and the lines. The place of a line on the bill is its index from zero.
-/

namespace Promotions

/-- A line of a bill. -/
structure BillLine where
  /-- The product sold. -/
  product : ProductId
  /-- The brand that sold it, where the receipt is shared. -/
  brand : Option BrandId := none
  /-- The number of units; a voided line has none. -/
  quantity : Count
  /-- The price of a unit. -/
  unitPrice : Amount
  deriving DecidableEq

namespace BillLine

/-- The price of all units. -/
def amount (line : BillLine) : Except ArithmeticError Amount :=
  line.unitPrice.times line.quantity.toNat

/-- The names of the members. -/
def memberNames : List String := ["product_id", "brand_id", "quantity", "unit_price"]

instance : JsonCodec BillLine where
  toJson line :=
    .obj
      [("product_id", toJson line.product),
       ("brand_id", toJson line.brand),
       ("quantity", toJson line.quantity),
       ("unit_price", toJson line.unitPrice)]
  readJson? reading j := do
    let ms ← Json.record? reading memberNames 4 j
    return {
      product := ← Json.required ms "product_id"
      brand := ← Json.optional ms "brand_id"
      quantity := ← Json.required ms "quantity"
      unitPrice := ← Json.required ms "unit_price"
    }

end BillLine

/-- A line and its place on the bill. -/
structure PlacedLine where
  /-- The place. -/
  index : Nat
  /-- The line. -/
  line : BillLine
  deriving DecidableEq

/-- A member who buys. -/
structure BillMember where
  /-- Identifies the member. -/
  id : MemberId
  /-- The tier of the member. -/
  tier : Option String := none
  deriving DecidableEq

instance : JsonCodec BillMember where
  toJson m := .obj [("id", toJson m.id), ("tier", toJson m.tier)]
  readJson? reading j := do
    let ms ← Json.record? reading ["id", "tier"] 1 j
    return { id := ← Json.required ms "id", tier := ← Json.optional ms "tier" }

/-- A bill. -/
structure Bill where
  /-- The store that sells. -/
  storeId : StoreId
  /-- The brand of the store. -/
  brandId : BrandId
  /-- The code of the currency of its prices. -/
  currency : String
  /-- The sales channel. -/
  channel : String
  /-- The date and time at the store. -/
  localTime : LocalMoment
  /-- The member who buys. -/
  member : Option BillMember := none
  /-- The method of payment, once it is chosen. -/
  paymentMethod : Option String := none
  /-- The lines. -/
  lines : List BillLine := []
  /-- What promotions were asked for, by identifier or code. -/
  requestedPromotions : SortedSet String := .empty
  deriving DecidableEq

namespace Bill

/-- The lines with their places. -/
def placedLines (b : Bill) : List PlacedLine :=
  b.lines.zipIdx.map fun (line, index) => ⟨index, line⟩

/-- The price of all lines. -/
def subtotal (b : Bill) : Except ArithmeticError Amount := do
  Amount.sum (← b.lines.mapM BillLine.amount)

/-- The brand that sold a line: its own, or else that of the product, or else that of the bill. -/
def lineBrand (b : Bill) (line : BillLine) (catalog : Catalog) : BrandId :=
  ((line.brand).or (catalog.brandOf line.product)).getD b.brandId

/-- The promotion was asked for. Codes are compared whatever their case. -/
def requests (b : Bill) (id : PromotionId) (code : String) : Bool :=
  b.requestedPromotions.toList.any fun requested =>
    requested == id.toText || Text.sameIgnoringCase requested code

theorem requests_iff {b : Bill} {id : PromotionId} {code : String} :
    b.requests id code = true ↔ ∃ text ∈ b.requestedPromotions,
      text = id.toText ∨ Text.lower text = Text.lower code := by
  simp only [requests, List.any_eq_true, Bool.or_eq_true, beq_iff_eq, Text.sameIgnoringCase_iff]
  exact Iff.rfl

/-- The tier of the member, in the form in which tiers are compared. -/
def memberTier (b : Bill) : Option String := (b.member.bind (·.tier)).map Text.canonical

/-- The names of the members. -/
def memberNames : List String :=
  ["store_id", "brand_id", "currency", "channel", "local_time", "member", "payment_method",
   "lines", "requested_promotions"]

instance : JsonCodec Bill where
  toJson b :=
    .obj
      [("store_id", toJson b.storeId),
       ("brand_id", toJson b.brandId),
       ("currency", toJson b.currency),
       ("channel", toJson b.channel),
       ("local_time", toJson b.localTime),
       ("member", toJson b.member),
       ("payment_method", toJson b.paymentMethod),
       ("lines", toJson b.lines),
       ("requested_promotions", toJson b.requestedPromotions)]
  readJson? reading j := do
    let ms ← Json.record? reading memberNames 5 j
    return {
      storeId := ← Json.required ms "store_id"
      brandId := ← Json.required ms "brand_id"
      currency := ← Json.required ms "currency"
      channel := ← Json.required ms "channel"
      localTime := ← Json.required ms "local_time"
      member := ← Json.optional ms "member"
      paymentMethod := ← Json.optional ms "payment_method"
      lines := ← Json.defaulted ms "lines" []
      requestedPromotions := ← Json.defaulted ms "requested_promotions" .empty
    }

end Bill

end Promotions

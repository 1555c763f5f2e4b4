import Promotions.Document
import Promotions.Json.Record

/-!
# Documents as JSON

Rules, facets and documents are records. A rule is told by its `type`, and a value with several
forms by its `kind`. The members are written in a fixed order, because the fingerprint is taken of
the text.

Values are taken as they are: what a document says is checked when it is compiled and not when it is
read.
-/

namespace Promotions

open Json

/-- The names of the forms of discount values. -/
def DiscountValue.names : List String := ["percent", "amount"]

instance : JsonCodec DiscountValue where
  toJson
    | .percent points => tagged "kind" "value" "percent" (toJson points)
    | .amount value => tagged "kind" "value" "amount" (toJson value)
  readJson? reading j :=
    match tagged? reading "kind" "value" DiscountValue.names j with
    | some ("percent", some v) => (readJson? reading v).map .percent
    | some ("amount", some v) => (readJson? reading v).map .amount
    | _ => none

/-- The names of the forms of happy hour prices. -/
def HappyHourPricing.names : List String :=
  ["percent", "amount", "special_price"]

instance : JsonCodec HappyHourPricing where
  toJson
    | .percent points => tagged "kind" "value" "percent" (toJson points)
    | .amount value => tagged "kind" "value" "amount" (toJson value)
    | .specialPrice price => tagged "kind" "value" "special_price" (toJson price)
  readJson? reading j :=
    match tagged? reading "kind" "value" HappyHourPricing.names j with
    | some ("percent", some v) => (readJson? reading v).map .percent
    | some ("amount", some v) => (readJson? reading v).map .amount
    | some ("special_price", some v) => (readJson? reading v).map .specialPrice
    | _ => none

/-- The names of the forms of tier benefits. -/
def TierBenefit.names : List String :=
  ["percent", "amount", "free_product", "points_multiplier"]

instance : JsonCodec TierBenefit where
  toJson
    | .percent points => tagged "kind" "value" "percent" (toJson points)
    | .amount value => tagged "kind" "value" "amount" (toJson value)
    | .freeProduct product => tagged "kind" "value" "free_product" (toJson product)
    | .pointsMultiplier multiplier => tagged "kind" "value" "points_multiplier" (toJson multiplier)
  readJson? reading j :=
    match tagged? reading "kind" "value" TierBenefit.names j with
    | some ("percent", some v) => (readJson? reading v).map .percent
    | some ("amount", some v) => (readJson? reading v).map .amount
    | some ("free_product", some v) => (readJson? reading v).map .freeProduct
    | some ("points_multiplier", some v) => (readJson? reading v).map .pointsMultiplier
    | _ => none

instance : JsonCodec Tier where
  toJson t :=
    .obj
      [("name", toJson t.name),
       ("tier_order", toJson t.order),
       ("min_amount", toJson t.minAmount),
       ("max_amount", toJson t.maxAmount),
       ("benefit", toJson t.benefit)]
  readJson? reading j := do
    let ms ← record? reading ["name", "tier_order", "min_amount", "max_amount", "benefit"] 5 j
    return {
      name := ← required ms "name"
      order := ← required ms "tier_order"
      minAmount := ← required ms "min_amount"
      maxAmount := ← optional ms "max_amount"
      benefit := ← required ms "benefit"
    }

/-! ## Rules -/

/-- The members of a percent discount. -/
def PercentDiscount.members (r : PercentDiscount) : List (String × Json) :=
  [("percent", toJson r.percent),
   ("max_cap", toJson r.maxCap),
   ("min_purchase", toJson r.minPurchase)]

/-- The percent discount of a record. -/
def PercentDiscount.ofRecord? (reading : Reading) (j : Json) : Option PercentDiscount := do
  let ms ← record? reading ["percent", "max_cap", "min_purchase"] 3 j
  return {
    percent := ← required ms "percent"
    maxCap := ← optional ms "max_cap"
    minPurchase := ← required ms "min_purchase"
  }

/-- The members of an amount discount. -/
def AmountDiscount.members (r : AmountDiscount) : List (String × Json) :=
  [("amount", toJson r.amount), ("min_purchase", toJson r.minPurchase)]

/-- The amount discount of a record. -/
def AmountDiscount.ofRecord? (reading : Reading) (j : Json) : Option AmountDiscount := do
  let ms ← record? reading ["amount", "min_purchase"] 2 j
  return { amount := ← required ms "amount", minPurchase := ← required ms "min_purchase" }

/-- The members of a rule of units for units. -/
def BuyXGetY.members (r : BuyXGetY) : List (String × Json) :=
  [("buy_qty", toJson r.buyQuantity),
   ("get_qty", toJson r.getQuantity),
   ("get_discount_percent", toJson r.percent),
   ("specific_get_product", toJson r.getProduct),
   ("same_product_only", toJson r.sameProductOnly)]

/-- The rule of units for units of a record. -/
def BuyXGetY.ofRecord? (reading : Reading) (j : Json) : Option BuyXGetY := do
  let ms ← record? reading ["buy_qty", "get_qty", "get_discount_percent", "specific_get_product",
    "same_product_only"] 5 j
  return {
    buyQuantity := ← required ms "buy_qty"
    getQuantity := ← required ms "get_qty"
    percent := ← required ms "get_discount_percent"
    getProduct := ← optional ms "specific_get_product"
    sameProductOnly := ← required ms "same_product_only"
  }

/-- The members of a combo. -/
def Combo.members (r : Combo) : List (String × Json) :=
  [("combo_price", toJson r.price), ("required_product_ids", toJson r.products)]

/-- The combo of a record. -/
def Combo.ofRecord? (reading : Reading) (j : Json) : Option Combo := do
  let ms ← record? reading ["combo_price", "required_product_ids"] 2 j
  return { price := ← required ms "combo_price", products := ← required ms "required_product_ids" }

/-- The members of a free item. -/
def FreeItem.members (r : FreeItem) : List (String × Json) :=
  [("trigger_product_id", toJson r.trigger),
   ("trigger_min_qty", toJson r.triggerQuantity),
   ("free_product_id", toJson r.freeProduct),
   ("free_qty", toJson r.freeQuantity)]

/-- The free item of a record. -/
def FreeItem.ofRecord? (reading : Reading) (j : Json) : Option FreeItem := do
  let ms ← record? reading ["trigger_product_id", "trigger_min_qty", "free_product_id",
    "free_qty"] 4 j
  return {
    trigger := ← optional ms "trigger_product_id"
    triggerQuantity := ← required ms "trigger_min_qty"
    freeProduct := ← optional ms "free_product_id"
    freeQuantity := ← required ms "free_qty"
  }

/-- The members of a happy hour. -/
def HappyHour.members (r : HappyHour) : List (String × Json) :=
  [("pricing", toJson r.pricing),
   ("time_window", toJson r.window),
   ("days_of_week", toJson r.weekdays)]

/-- The happy hour of a record. -/
def HappyHour.ofRecord? (reading : Reading) (j : Json) : Option HappyHour := do
  let ms ← record? reading ["pricing", "time_window", "days_of_week"] 3 j
  return {
    pricing := ← required ms "pricing"
    window := ← required ms "time_window"
    weekdays := ← required ms "days_of_week"
  }

/-- The members of a cashback. -/
def Cashback.members (r : Cashback) : List (String × Json) :=
  [("value", toJson r.value),
   ("max_cap", toJson r.maxCap),
   ("payment_methods", toJson r.paymentMethods),
   ("min_purchase", toJson r.minPurchase)]

/-- The cashback of a record. -/
def Cashback.ofRecord? (reading : Reading) (j : Json) : Option Cashback := do
  let ms ← record? reading ["value", "max_cap", "payment_methods", "min_purchase"] 4 j
  return {
    value := ← required ms "value"
    maxCap := ← optional ms "max_cap"
    paymentMethods := ← required ms "payment_methods"
    minPurchase := ← required ms "min_purchase"
  }

/-- The members of a payment discount. -/
def PaymentDiscount.members (r : PaymentDiscount) : List (String × Json) :=
  [("payment_methods", toJson r.paymentMethods),
   ("value", toJson r.value),
   ("max_cap", toJson r.maxCap),
   ("min_purchase", toJson r.minPurchase)]

/-- The payment discount of a record. -/
def PaymentDiscount.ofRecord? (reading : Reading) (j : Json) : Option PaymentDiscount := do
  let ms ← record? reading ["payment_methods", "value", "max_cap", "min_purchase"] 4 j
  return {
    paymentMethods := ← required ms "payment_methods"
    value := ← required ms "value"
    maxCap := ← optional ms "max_cap"
    minPurchase := ← required ms "min_purchase"
  }

instance : JsonCodec Component where
  toJson c :=
    .obj
      [("kind", toJson c.kind),
       ("product_id", toJson c.product),
       ("category_id", toJson c.category),
       ("quantity", toJson c.quantity),
       ("required", toJson c.required),
       ("min_selection", toJson c.minSelection),
       ("max_selection", toJson c.maxSelection)]
  readJson? reading j := do
    let ms ← record? reading ["kind", "product_id", "category_id", "quantity", "required",
      "min_selection", "max_selection"] 7 j
    return {
      kind := ← Json.required ms "kind"
      product := ← optional ms "product_id"
      category := ← optional ms "category_id"
      quantity := ← Json.required ms "quantity"
      required := ← Json.required ms "required"
      minSelection := ← Json.required ms "min_selection"
      maxSelection := ← Json.required ms "max_selection"
    }

/-- The members of a package. -/
def Package.members (r : Package) : List (String × Json) :=
  [("name", toJson r.name),
   ("items", toJson r.components),
   ("package_price", toJson r.price),
   ("allow_modification", toJson r.allowModification)]

/-- The package of a record. -/
def Package.ofRecord? (reading : Reading) (j : Json) : Option Package := do
  let ms ← record? reading ["name", "items", "package_price", "allow_modification"] 4 j
  return {
    name := ← required ms "name"
    components := ← required ms "items"
    price := ← required ms "package_price"
    allowModification := ← required ms "allow_modification"
  }

/-- The members of a mix and match. -/
def MixMatch.members (r : MixMatch) : List (String × Json) :=
  [("category_id", toJson r.category),
   ("required_quantity", toJson r.groupSize),
   ("special_price", toJson r.specialPrice),
   ("allow_same_product", toJson r.allowSameProduct)]

/-- The mix and match of a record. -/
def MixMatch.ofRecord? (reading : Reading) (j : Json) : Option MixMatch := do
  let ms ← record? reading ["category_id", "required_quantity", "special_price",
    "allow_same_product"] 4 j
  return {
    category := ← required ms "category_id"
    groupSize := ← required ms "required_quantity"
    specialPrice := ← required ms "special_price"
    allowSameProduct := ← required ms "allow_same_product"
  }

/-- The members of an upsell. -/
def Upsell.members (r : Upsell) : List (String × Json) :=
  [("required_product_id", toJson r.requiredProduct),
   ("required_min_qty", toJson r.requiredQuantity),
   ("upsell_product_id", toJson r.upsellProduct),
   ("special_price", toJson r.specialPrice),
   ("message", toJson r.message)]

/-- The upsell of a record. -/
def Upsell.ofRecord? (reading : Reading) (j : Json) : Option Upsell := do
  let ms ← record? reading ["required_product_id", "required_min_qty", "upsell_product_id",
    "special_price", "message"] 5 j
  return {
    requiredProduct := ← required ms "required_product_id"
    requiredQuantity := ← required ms "required_min_qty"
    upsellProduct := ← required ms "upsell_product_id"
    specialPrice := ← required ms "special_price"
    message := ← required ms "message"
  }

/-- The members of a threshold rule. -/
def ThresholdTier.members (r : ThresholdTier) : List (String × Json) := [("tiers", toJson r.tiers)]

/-- The threshold rule of a record. -/
def ThresholdTier.ofRecord? (reading : Reading) (j : Json) : Option ThresholdTier := do
  let ms ← record? reading ["tiers"] 1 j
  return { tiers := ← required ms "tiers" }

/-- The members of a rule after its type. -/
def Rule.members : Rule → List (String × Json)
  | percentDiscount r => r.members
  | amountDiscount r => r.members
  | buyXGetY r => r.members
  | combo r => r.members
  | freeItem r => r.members
  | happyHour r => r.members
  | cashback r => r.members
  | paymentDiscount r => r.members
  | package r => r.members
  | mixMatch r => r.members
  | upsell r => r.members
  | thresholdTier r => r.members

/-- The rule of an archetype that a record holds. -/
def Rule.ofRecord? (reading : Reading) (j : Json) : Archetype → Option Rule
  | .percentDiscount => (PercentDiscount.ofRecord? reading j).map percentDiscount
  | .amountDiscount => (AmountDiscount.ofRecord? reading j).map amountDiscount
  | .buyXGetY => (BuyXGetY.ofRecord? reading j).map buyXGetY
  | .combo => (Combo.ofRecord? reading j).map combo
  | .freeItem => (FreeItem.ofRecord? reading j).map freeItem
  | .happyHour => (HappyHour.ofRecord? reading j).map happyHour
  | .cashback => (Cashback.ofRecord? reading j).map cashback
  | .paymentDiscount => (PaymentDiscount.ofRecord? reading j).map paymentDiscount
  | .package => (Package.ofRecord? reading j).map package
  | .mixMatch => (MixMatch.ofRecord? reading j).map mixMatch
  | .upsell => (Upsell.ofRecord? reading j).map upsell
  | .thresholdTier => (ThresholdTier.ofRecord? reading j).map thresholdTier

instance : JsonCodec Rule where
  toJson r := .obj (("type", toJson r.archetype) :: r.members)
  readJson? _ j := do
    let (name, rest) ← variant? "type" j
    Rule.ofRecord? .held rest (← Named.ofName? name)

/-! ## Facets -/

instance : JsonCodec Validity where
  toJson v :=
    .obj
      [("start_date", toJson v.startDate),
       ("end_date", toJson v.endDate),
       ("time_window", toJson v.window),
       ("days_of_week", toJson v.weekdays),
       ("exclude_holidays", toJson v.excludeHolidays)]
  readJson? reading j := do
    let names := ["start_date", "end_date", "time_window", "days_of_week", "exclude_holidays"]
    let ms ← record? reading names 5 j
    return {
      startDate := ← required ms "start_date"
      endDate := ← required ms "end_date"
      window := ← optional ms "time_window"
      weekdays := ← required ms "days_of_week"
      excludeHolidays := ← required ms "exclude_holidays"
    }

instance : JsonCodec StoreScope where
  toJson
    | .all => .obj [("kind", .str "all")]
    | .listed stores => tagged "kind" "stores" "listed" (toJson stores)
  readJson? reading j :=
    match tagged? reading "kind" "stores" ["all", "listed"] j with
    | some ("all", v) => if isBare v then some .all else none
    | some ("listed", some v) => (readJson? reading v).map .listed
    | _ => none

instance : JsonCodec BrandCoverage where
  toJson
    | .company => .obj [("kind", .str "company")]
    | .listed brands => tagged "kind" "brands" "listed" (toJson brands)
  readJson? reading j :=
    match tagged? reading "kind" "brands" ["company", "listed"] j with
    | some ("company", v) => if isBare v then some .company else none
    | some ("listed", some v) => (readJson? reading v).map .listed
    | _ => none

instance : JsonCodec Scope where
  toJson s :=
    .obj
      [("stores", toJson s.stores),
       ("brands", toJson s.brands),
       ("exclude_brands", toJson s.excludeBrands),
       ("sales_channels", toJson s.salesChannels),
       ("exclude_channels", toJson s.excludeChannels)]
  readJson? reading j := do
    let names := ["stores", "brands", "exclude_brands", "sales_channels", "exclude_channels"]
    let ms ← record? reading names 5 j
    return {
      stores := ← required ms "stores"
      brands := ← required ms "brands"
      excludeBrands := ← required ms "exclude_brands"
      salesChannels := ← required ms "sales_channels"
      excludeChannels := ← required ms "exclude_channels"
    }

instance : JsonCodec Targeting where
  toJson t :=
    .obj
      [("apply_to", toJson t.applyTo),
       ("categories", toJson t.categories),
       ("products", toJson t.products),
       ("exclude_categories", toJson t.excludeCategories),
       ("exclude_products", toJson t.excludeProducts)]
  readJson? reading j := do
    let ms ← record? reading ["apply_to", "categories", "products", "exclude_categories",
      "exclude_products"] 5 j
    return {
      applyTo := ← required ms "apply_to"
      categories := ← required ms "categories"
      products := ← required ms "products"
      excludeCategories := ← required ms "exclude_categories"
      excludeProducts := ← required ms "exclude_products"
    }

instance : JsonCodec Audience where
  toJson a :=
    .obj
      [("member_only", toJson a.memberOnly),
       ("member_tiers", toJson a.memberTiers),
       ("exclude_members", toJson a.excludeMembers),
       ("customer_type", toJson a.customerType),
       ("inactive_days_threshold", toJson a.inactiveDaysThreshold)]
  readJson? reading j := do
    let ms ← record? reading ["member_only", "member_tiers", "exclude_members", "customer_type",
      "inactive_days_threshold"] 5 j
    return {
      memberOnly := ← required ms "member_only"
      memberTiers := ← required ms "member_tiers"
      excludeMembers := ← required ms "exclude_members"
      customerType := ← required ms "customer_type"
      inactiveDaysThreshold := ← required ms "inactive_days_threshold"
    }

instance : JsonCodec Requirements where
  toJson r :=
    .obj
      [("min_purchase", toJson r.minPurchase),
       ("min_quantity", toJson r.minQuantity),
       ("min_items", toJson r.minItems)]
  readJson? reading j := do
    let ms ← record? reading ["min_purchase", "min_quantity", "min_items"] 3 j
    return {
      minPurchase := ← required ms "min_purchase"
      minQuantity := ← required ms "min_quantity"
      minItems := ← required ms "min_items"
    }

instance : JsonCodec Limits where
  toJson l :=
    .obj
      [("max_uses", toJson l.maxUses),
       ("max_uses_per_customer", toJson l.maxUsesPerCustomer),
       ("max_uses_per_day", toJson l.maxUsesPerDay),
       ("current_uses", toJson l.currentUses)]
  readJson? reading j := do
    let ms ← record? reading ["max_uses", "max_uses_per_customer", "max_uses_per_day",
      "current_uses"] 4 j
    return {
      maxUses := ← optional ms "max_uses"
      maxUsesPerCustomer := ← optional ms "max_uses_per_customer"
      maxUsesPerDay := ← optional ms "max_uses_per_day"
      currentUses := ← required ms "current_uses"
    }

instance : JsonCodec ConflictPolicy where
  toJson c :=
    .obj
      [("is_stackable", toJson c.isStackable),
       ("execution_priority", toJson c.executionPriority),
       ("execution_stage", toJson c.stage),
       ("cannot_combine_with", toJson c.cannotCombineWith),
       ("is_auto_apply", toJson c.isAutoApply),
       ("require_voucher", toJson c.requireVoucher),
       ("priority", toJson c.priority)]
  readJson? reading j := do
    let ms ← record? reading ["is_stackable", "execution_priority", "execution_stage",
      "cannot_combine_with", "is_auto_apply", "require_voucher", "priority"] 7 j
    return {
      isStackable := ← required ms "is_stackable"
      executionPriority := ← required ms "execution_priority"
      stage := ← required ms "execution_stage"
      cannotCombineWith := ← required ms "cannot_combine_with"
      isAutoApply := ← required ms "is_auto_apply"
      requireVoucher := ← required ms "require_voucher"
      priority := ← required ms "priority"
    }

instance : JsonCodec CrossBrand where
  toJson c :=
    .obj
      [("kind", toJson c.kind),
       ("trigger_brands", toJson c.triggerBrands),
       ("benefit_brands", toJson c.benefitBrands),
       ("trigger_min_amount", toJson c.triggerMinAmount),
       ("min_distinct_brands", toJson c.minDistinctBrands)]
  readJson? reading j := do
    let ms ← record? reading ["kind", "trigger_brands", "benefit_brands", "trigger_min_amount",
      "min_distinct_brands"] 5 j
    return {
      kind := ← required ms "kind"
      triggerBrands := ← required ms "trigger_brands"
      benefitBrands := ← required ms "benefit_brands"
      triggerMinAmount := ← optional ms "trigger_min_amount"
      minDistinctBrands := ← required ms "min_distinct_brands"
    }

/-! ## Documents -/

namespace Document

/-- The names of the members. -/
def memberNames : List String :=
  ["id", "code", "name", "description", "terms_conditions", "company_id", "brand_id", "currency",
   "compiler_version", "compiled_at", "fingerprint", "store_id", "rule", "validity", "scope",
   "targeting", "audience", "requirements", "limits", "conflict", "cross_brand"]

instance : JsonCodec Document where
  toJson d :=
    .obj <|
      [("id", toJson d.id),
       ("code", toJson d.code),
       ("name", toJson d.name),
       ("description", toJson d.description),
       ("terms_conditions", toJson d.terms),
       ("company_id", toJson d.companyId),
       ("brand_id", toJson d.brandId),
       ("currency", toJson d.currency),
       ("compiler_version", toJson d.version),
       ("compiled_at", toJson d.compiledAt),
       ("fingerprint", toJson d.fingerprint)] ++
      (match d.storeId with
        | some store => [("store_id", toJson store)]
        | none => []) ++
      [("rule", toJson d.rule),
       ("validity", toJson d.validity),
       ("scope", toJson d.scope),
       ("targeting", toJson d.targeting),
       ("audience", toJson d.audience),
       ("requirements", toJson d.requirements),
       ("limits", toJson d.limits),
       ("conflict", toJson d.conflict),
       ("cross_brand", toJson d.crossBrand)]
  readJson? reading j := do
    let ms ← record? reading memberNames 20 j
    return {
      id := ← required ms "id"
      code := ← required ms "code"
      name := ← required ms "name"
      description := ← defaulted ms "description" ""
      terms := ← defaulted ms "terms_conditions" ""
      companyId := ← required ms "company_id"
      brandId := ← optional ms "brand_id"
      currency := ← required ms "currency"
      version := ← required ms "compiler_version"
      compiledAt := ← required ms "compiled_at"
      fingerprint := ← defaulted ms "fingerprint" ""
      storeId := ← optional ms "store_id"
      rule := ← required ms "rule"
      validity := ← required ms "validity"
      scope := ← required ms "scope"
      targeting := ← required ms "targeting"
      audience := ← required ms "audience"
      requirements := ← required ms "requirements"
      limits := ← required ms "limits"
      conflict := ← required ms "conflict"
      crossBrand := ← optional ms "cross_brand"
    }

end Document

end Promotions

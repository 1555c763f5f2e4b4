import Promotions.Compile.Setting

/-!
# The rule of a promotion

The archetype of a promotion decides which of its settings make up the rule. The first setting that
is missing or invalid is the error.
-/

namespace Promotions

open Setting

/-- The component of a package. -/
def ComponentConfig.component (c : ComponentConfig) : Except CompileError Component := do
  match c.kind with
  | .fixed => let _ ← require "package.items.product" c.product
  | .choice => let _ ← require "package.items.category" c.category
  let quantity ← atLeastOne "package.items.quantity" c.quantity
  if c.kind = .choice ∧ c.maxSelection < c.minSelection then
    .error (.invalid "package.items.max_selection"
      (.belowMinSelection c.maxSelection c.minSelection))
  else
    return {
      kind := c.kind
      product := c.product
      category := c.category
      quantity
      required := c.isRequired
      minSelection := c.minSelection
      maxSelection := c.maxSelection
    }

/-- The benefit of a tier. -/
def TierConfig.benefit (t : TierConfig) : Except CompileError TierBenefit :=
  match t.kind with
  | .percent => (percentPoints "tiers.discount_value" t.value).map .percent
  | .amount => (wholeMinor "tiers.discount_value" t.value).map .amount
  | .freeProduct => (require "tiers.free_product" t.freeProduct).map .freeProduct
  | .pointsMultiplier =>
    (require "tiers.points_multiplier"
      (t.pointsMultiplier.filter fun multiplier => decide (.zero < multiplier))).map
      .pointsMultiplier

/-- The tier of a threshold promotion. -/
def TierConfig.tier (t : TierConfig) : Except CompileError Tier := do
  let benefit ← t.benefit
  let minAmount ← nonNegative "tiers.min_amount" t.minAmount
  let tier : Tier :=
    { name := t.name, order := t.order, minAmount, maxAmount := t.maxAmount, benefit }
  match t.maxAmount with
  | some top =>
    if top < minAmount then .error (.invalid "tiers.max_amount" (.belowMinAmount top minAmount))
    else return tier
  | none => return tier

namespace Promotion

/-- The percent discount. -/
def percentDiscount (p : Promotion) : Except CompileError PercentDiscount := do
  return {
    percent := ← require "discount_percent" (← p.percent?)
    maxCap := ← p.cap?
    minPurchase := ← p.leastPurchase
  }

/-- The amount discount. -/
def amountDiscount (p : Promotion) : Except CompileError AmountDiscount := do
  return {
    amount := ← require "discount_amount" (← p.amount?)
    minPurchase := ← p.leastPurchase
  }

/-- The rule of units for units. -/
def buyXGetY (p : Promotion) : Except CompileError BuyXGetY := do
  return {
    buyQuantity := ← require "buy_quantity" (Count.positive? p.buyQuantity)
    getQuantity := ← require "get_quantity" (Count.positive? p.getQuantity)
    percent := (← p.percent?).getD .hundred
    getProduct := p.getProduct
    sameProductOnly := p.getProduct.isNone
  }

/-- The combo. -/
def combo (p : Promotion) : Except CompileError Combo := do
  let price ← require "combo_price" (← positive? "combo_price" p.comboPrice)
  if p.comboProducts.isEmpty then .error (.missing "combo_products")
  else return { price, products := .ofList p.comboProducts }

/-- The free product. -/
def freeItem (p : Promotion) : Except CompileError FreeItem := do
  return {
    trigger := p.requiredProduct
    triggerQuantity := (Count.positive? p.buyQuantity).getD 1
    freeProduct := some (← require "get_product" p.getProduct)
    freeQuantity := (Count.positive? p.getQuantity).getD 1
  }

/-- The only one of three prices that is set. -/
def onlyPricing (points : Option Decimal) (value price : Option Amount) :
    Except CompileError HappyHourPricing :=
  match points, value, price with
  | some points, none, none => .ok (.percent points)
  | none, some value, none => .ok (.amount value)
  | none, none, some price => .ok (.specialPrice price)
  | none, none, none => .error (.missing "discount_percent")
  | _, _, _ => .error .ambiguousPricing

/-- The happy hour. -/
def happyHour (p : Promotion) : Except CompileError HappyHour := do
  let pricing ← onlyPricing (← p.percent?) (← p.amount?)
    (← positive? "happy_hour_price" p.happyHourPrice)
  match p.validTimeStart, p.validTimeEnd with
  | some start, some finish =>
    return { pricing, window := ⟨start, finish⟩, weekdays := ← p.weekdays }
  | _, _ => .error (.missing "valid_time_start")

/-- The cashback. -/
def cashback (p : Promotion) : Except CompileError Cashback := do
  return {
    value := ← p.discountValue
    maxCap := ← p.cap?
    paymentMethods := canonicalSet p.paymentMethods
    minPurchase := ← p.leastPurchase
  }

/-- The discount for a method of payment. -/
def paymentDiscount (p : Promotion) : Except CompileError PaymentDiscount := do
  return {
    paymentMethods := canonicalSet p.paymentMethods
    value := ← p.discountValue
    maxCap := ← p.cap?
    minPurchase := ← nonNegative "payment_min_amount" p.paymentMinAmount
  }

/-- The set menu. -/
def setMenu (p : Promotion) : Except CompileError Package := do
  let config ← require "package" p.package
  if config.items.isEmpty then .error (.missing "package.items")
  else
    let inOrder := config.items.mergeSort fun a b => decide (a.sortOrder ≤ b.sortOrder)
    return {
      name := config.name
      components := ← inOrder.mapM ComponentConfig.component
      price := ← nonNegative "package.package_price" config.price
      allowModification := config.allowModification
    }

/-- The price for a group of units. -/
def mixMatch (p : Promotion) : Except CompileError MixMatch := do
  let blob ← require "mix_match_rules" p.mixMatchRules
  if blob.isNull then .error (.missing "mix_match_rules")
  else
    let rules ←
      match FreeForm.GroupRules.read blob with
      | .ok rules => pure rules
      | .error e => .error (.invalid "mix_match_rules" (.malformed e))
    let groupSize ← atLeastOne "mix_match_rules.required_quantity" rules.size
    let specialPrice ← require "mix_match_rules.special_price" rules.specialPrice
    return {
      category := ← require "mix_match_rules.category_id" rules.category
      groupSize
      specialPrice := ← nonNegative "mix_match_rules.special_price" specialPrice
      allowSameProduct := rules.allowSameProduct
    }

/-- The further product at a special price. -/
def upsell (p : Promotion) : Except CompileError Upsell := do
  return {
    requiredProduct := ← require "required_product" p.requiredProduct
    requiredQuantity := (Count.positive? p.buyQuantity).getD 1
    upsellProduct := ← require "upsell_product" p.upsellProduct
    specialPrice := ← nonNegative "upsell_special_price"
      (← require "upsell_special_price" p.upsellSpecialPrice)
    message := p.upsellMessage
  }

/-- The benefit by tiers; inactive tiers do not count. -/
def thresholdTier (p : Promotion) : Except CompileError ThresholdTier := do
  let tiers ← (p.tiers.filter (·.isActive)).mapM TierConfig.tier
  if tiers.isEmpty then .error (.missing "tiers")
  else return { tiers := Tier.sortRichestFirst tiers }

/-- The rule of an archetype. -/
def ruleOf (p : Promotion) : Archetype → Except CompileError Rule
  | .percentDiscount => p.percentDiscount.map .percentDiscount
  | .amountDiscount => p.amountDiscount.map .amountDiscount
  | .buyXGetY => p.buyXGetY.map .buyXGetY
  | .combo => p.combo.map .combo
  | .freeItem => p.freeItem.map .freeItem
  | .happyHour => p.happyHour.map .happyHour
  | .cashback => p.cashback.map .cashback
  | .paymentDiscount => p.paymentDiscount.map .paymentDiscount
  | .package => p.setMenu.map .package
  | .mixMatch => p.mixMatch.map .mixMatch
  | .upsell => p.upsell.map .upsell
  | .thresholdTier => p.thresholdTier.map .thresholdTier

/-- The rule of the archetype that the promotion names. -/
def rule (p : Promotion) : Except CompileError Rule :=
  match (Named.ofName? p.archetype : Option Archetype) with
  | some archetype => p.ruleOf archetype
  | none => .error (.unknownArchetype p.archetype)

end Promotion

end Promotions

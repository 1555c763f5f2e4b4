import Promotions.Json.Record
import Promotions.Promotion

/-!
# Promotions as JSON

A promotion, a package and a tier are records. Members with a default may be missing but not `null`;
optional members may be both.
-/

namespace Promotions

namespace ComponentConfig

/-- The names of the members. -/
def memberNames : List String :=
  ["item_type", "product", "category", "quantity", "is_required", "min_selection",
   "max_selection", "sort_order"]

instance : JsonCodec ComponentConfig where
  toJson p :=
    .obj
      [("item_type", toJson p.kind),
       ("product", toJson p.product),
       ("category", toJson p.category),
       ("quantity", toJson p.quantity),
       ("is_required", toJson p.isRequired),
       ("min_selection", toJson p.minSelection),
       ("max_selection", toJson p.maxSelection),
       ("sort_order", toJson p.sortOrder)]
  readJson? reading j := do
    let ms ← Json.record? reading memberNames 1 j
    return {
      kind := ← Json.required ms "item_type"
      product := ← Json.optional ms "product"
      category := ← Json.optional ms "category"
      quantity := ← Json.defaulted ms "quantity" 1
      isRequired := ← Json.defaulted ms "is_required" true
      minSelection := ← Json.defaulted ms "min_selection" 0
      maxSelection := ← Json.defaulted ms "max_selection" 1
      sortOrder := ← Json.defaulted ms "sort_order" 0
    }

end ComponentConfig

namespace PackageConfig

/-- The names of the members. -/
def memberNames : List String :=
  ["package_name", "package_price", "allow_modification", "items"]

instance : JsonCodec PackageConfig where
  toJson p :=
    .obj
      [("package_name", toJson p.name),
       ("package_price", toJson p.price),
       ("allow_modification", toJson p.allowModification),
       ("items", toJson p.items)]
  readJson? reading j := do
    let ms ← Json.record? reading memberNames 2 j
    return {
      name := ← Json.required ms "package_name"
      price := ← Json.required ms "package_price"
      allowModification := ← Json.defaulted ms "allow_modification" false
      items := ← Json.defaulted ms "items" []
    }

end PackageConfig

namespace TierConfig

/-- The names of the members. -/
def memberNames : List String :=
  ["tier_name", "tier_order", "min_amount", "max_amount", "discount_type", "discount_value",
   "free_product", "points_multiplier", "is_active"]

instance : JsonCodec TierConfig where
  toJson p :=
    .obj
      [("tier_name", toJson p.name),
       ("tier_order", toJson p.order),
       ("min_amount", toJson p.minAmount),
       ("max_amount", toJson p.maxAmount),
       ("discount_type", toJson p.kind),
       ("discount_value", toJson p.value),
       ("free_product", toJson p.freeProduct),
       ("points_multiplier", toJson p.pointsMultiplier),
       ("is_active", toJson p.isActive)]
  readJson? reading j := do
    let ms ← Json.record? reading memberNames 5 j
    return {
      name := ← Json.required ms "tier_name"
      order := ← Json.defaulted ms "tier_order" 0
      minAmount := ← Json.required ms "min_amount"
      maxAmount := ← Json.optional ms "max_amount"
      kind := ← Json.required ms "discount_type"
      value := ← Json.defaulted ms "discount_value" .zero
      freeProduct := ← Json.optional ms "free_product"
      pointsMultiplier := ← Json.optional ms "points_multiplier"
      isActive := ← Json.defaulted ms "is_active" true
    }

end TierConfig

namespace Promotion

/-- The names of the members. -/
def memberNames : List String :=
  ["id", "company_id", "code", "name", "description", "terms_conditions", "promo_type",
   "apply_to", "scope", "brand_id", "brands", "exclude_brands", "all_stores", "stores",
   "discount_percent", "discount_amount", "max_discount_amount", "buy_quantity", "get_quantity",
   "get_product", "combo_price", "combo_products", "happy_hour_price", "payment_methods",
   "payment_min_amount", "categories", "products", "exclude_categories", "exclude_products",
   "is_cross_brand", "cross_brand_type", "trigger_brands", "benefit_brands",
   "trigger_min_amount", "cross_brand_rules", "member_only", "member_tiers", "exclude_members",
   "start_date", "end_date", "valid_days", "valid_time_start", "valid_time_end",
   "exclude_holidays", "max_uses", "max_uses_per_customer", "max_uses_per_day", "current_uses",
   "min_purchase", "min_quantity", "min_items", "is_stackable", "priority",
   "cannot_combine_with", "sales_channels", "exclude_channels", "customer_type",
   "inactive_days_threshold", "required_product", "upsell_product", "upsell_special_price",
   "upsell_message", "mix_match_rules", "execution_priority", "execution_stage", "is_active",
   "is_auto_apply", "require_voucher", "package", "tiers"]

instance : JsonCodec Promotion where
  toJson p :=
    .obj
      [("id", toJson p.id),
       ("company_id", toJson p.companyId),
       ("code", toJson p.code),
       ("name", toJson p.name),
       ("description", toJson p.description),
       ("terms_conditions", toJson p.terms),
       ("promo_type", toJson p.archetype),
       ("apply_to", toJson p.applyTo),
       ("scope", toJson p.brandScope),
       ("brand_id", toJson p.brandId),
       ("brands", toJson p.brands),
       ("exclude_brands", toJson p.excludeBrands),
       ("all_stores", toJson p.allStores),
       ("stores", toJson p.stores),
       ("discount_percent", toJson p.discountPercent),
       ("discount_amount", toJson p.discountAmount),
       ("max_discount_amount", toJson p.maxDiscountAmount),
       ("buy_quantity", toJson p.buyQuantity),
       ("get_quantity", toJson p.getQuantity),
       ("get_product", toJson p.getProduct),
       ("combo_price", toJson p.comboPrice),
       ("combo_products", toJson p.comboProducts),
       ("happy_hour_price", toJson p.happyHourPrice),
       ("payment_methods", toJson p.paymentMethods),
       ("payment_min_amount", toJson p.paymentMinAmount),
       ("categories", toJson p.categories),
       ("products", toJson p.products),
       ("exclude_categories", toJson p.excludeCategories),
       ("exclude_products", toJson p.excludeProducts),
       ("is_cross_brand", toJson p.isCrossBrand),
       ("cross_brand_type", toJson p.crossBrandType),
       ("trigger_brands", toJson p.triggerBrands),
       ("benefit_brands", toJson p.benefitBrands),
       ("trigger_min_amount", toJson p.triggerMinAmount),
       ("cross_brand_rules", toJson p.crossBrandRules),
       ("member_only", toJson p.memberOnly),
       ("member_tiers", toJson p.memberTiers),
       ("exclude_members", toJson p.excludeMembers),
       ("start_date", toJson p.startDate),
       ("end_date", toJson p.endDate),
       ("valid_days", toJson p.validDays),
       ("valid_time_start", toJson p.validTimeStart),
       ("valid_time_end", toJson p.validTimeEnd),
       ("exclude_holidays", toJson p.excludeHolidays),
       ("max_uses", toJson p.maxUses),
       ("max_uses_per_customer", toJson p.maxUsesPerCustomer),
       ("max_uses_per_day", toJson p.maxUsesPerDay),
       ("current_uses", toJson p.currentUses),
       ("min_purchase", toJson p.minPurchase),
       ("min_quantity", toJson p.minQuantity),
       ("min_items", toJson p.minItems),
       ("is_stackable", toJson p.isStackable),
       ("priority", toJson p.priority),
       ("cannot_combine_with", toJson p.cannotCombineWith),
       ("sales_channels", toJson p.salesChannels),
       ("exclude_channels", toJson p.excludeChannels),
       ("customer_type", toJson p.customerType),
       ("inactive_days_threshold", toJson p.inactiveDaysThreshold),
       ("required_product", toJson p.requiredProduct),
       ("upsell_product", toJson p.upsellProduct),
       ("upsell_special_price", toJson p.upsellSpecialPrice),
       ("upsell_message", toJson p.upsellMessage),
       ("mix_match_rules", toJson p.mixMatchRules),
       ("execution_priority", toJson p.executionPriority),
       ("execution_stage", toJson p.stage),
       ("is_active", toJson p.isActive),
       ("is_auto_apply", toJson p.isAutoApply),
       ("require_voucher", toJson p.requireVoucher),
       ("package", toJson p.package),
       ("tiers", toJson p.tiers)]
  readJson? reading j := do
    let ms ← Json.record? reading memberNames 40 j
    return {
      id := ← Json.required ms "id"
      companyId := ← Json.required ms "company_id"
      code := ← Json.required ms "code"
      name := ← Json.required ms "name"
      description := ← Json.defaulted ms "description" ""
      terms := ← Json.defaulted ms "terms_conditions" ""
      archetype := ← Json.required ms "promo_type"
      applyTo := ← Json.defaulted ms "apply_to" .all
      brandScope := ← Json.defaulted ms "scope" .company
      brandId := ← Json.optional ms "brand_id"
      brands := ← Json.defaulted ms "brands" .empty
      excludeBrands := ← Json.defaulted ms "exclude_brands" .empty
      allStores := ← Json.defaulted ms "all_stores" true
      stores := ← Json.defaulted ms "stores" .empty
      discountPercent := ← Json.optional ms "discount_percent"
      discountAmount := ← Json.optional ms "discount_amount"
      maxDiscountAmount := ← Json.optional ms "max_discount_amount"
      buyQuantity := ← Json.optional ms "buy_quantity"
      getQuantity := ← Json.optional ms "get_quantity"
      getProduct := ← Json.optional ms "get_product"
      comboPrice := ← Json.optional ms "combo_price"
      comboProducts := ← Json.defaulted ms "combo_products" []
      happyHourPrice := ← Json.optional ms "happy_hour_price"
      paymentMethods := ← Json.defaulted ms "payment_methods" []
      paymentMinAmount := ← Json.defaulted ms "payment_min_amount" 0
      categories := ← Json.defaulted ms "categories" .empty
      products := ← Json.defaulted ms "products" .empty
      excludeCategories := ← Json.defaulted ms "exclude_categories" .empty
      excludeProducts := ← Json.defaulted ms "exclude_products" .empty
      isCrossBrand := ← Json.defaulted ms "is_cross_brand" false
      crossBrandType := ← Json.optional ms "cross_brand_type"
      triggerBrands := ← Json.defaulted ms "trigger_brands" .empty
      benefitBrands := ← Json.defaulted ms "benefit_brands" .empty
      triggerMinAmount := ← Json.optional ms "trigger_min_amount"
      crossBrandRules := ← Json.optional ms "cross_brand_rules"
      memberOnly := ← Json.defaulted ms "member_only" false
      memberTiers := ← Json.defaulted ms "member_tiers" []
      excludeMembers := ← Json.defaulted ms "exclude_members" .empty
      startDate := ← Json.required ms "start_date"
      endDate := ← Json.required ms "end_date"
      validDays := ← Json.defaulted ms "valid_days" []
      validTimeStart := ← Json.optional ms "valid_time_start"
      validTimeEnd := ← Json.optional ms "valid_time_end"
      excludeHolidays := ← Json.defaulted ms "exclude_holidays" false
      maxUses := ← Json.optional ms "max_uses"
      maxUsesPerCustomer := ← Json.optional ms "max_uses_per_customer"
      maxUsesPerDay := ← Json.optional ms "max_uses_per_day"
      currentUses := ← Json.defaulted ms "current_uses" 0
      minPurchase := ← Json.defaulted ms "min_purchase" 0
      minQuantity := ← Json.defaulted ms "min_quantity" 0
      minItems := ← Json.defaulted ms "min_items" 0
      isStackable := ← Json.defaulted ms "is_stackable" false
      priority := ← Json.defaulted ms "priority" 0
      cannotCombineWith := ← Json.defaulted ms "cannot_combine_with" .empty
      salesChannels := ← Json.defaulted ms "sales_channels" []
      excludeChannels := ← Json.defaulted ms "exclude_channels" []
      customerType := ← Json.defaulted ms "customer_type" .all
      inactiveDaysThreshold := ← Json.defaulted ms "inactive_days_threshold" 30
      requiredProduct := ← Json.optional ms "required_product"
      upsellProduct := ← Json.optional ms "upsell_product"
      upsellSpecialPrice := ← Json.optional ms "upsell_special_price"
      upsellMessage := ← Json.defaulted ms "upsell_message" ""
      mixMatchRules := ← Json.optional ms "mix_match_rules"
      executionPriority := ← Json.defaulted ms "execution_priority" 500
      stage := ← Json.defaulted ms "execution_stage" .itemLevel
      isActive := ← Json.defaulted ms "is_active" true
      isAutoApply := ← Json.defaulted ms "is_auto_apply" true
      requireVoucher := ← Json.defaulted ms "require_voucher" false
      package := ← Json.optional ms "package"
      tiers := ← Json.defaulted ms "tiers" []
    }

end Promotion

end Promotions

import Promotions.Compile.Setting
import Promotions.Facet

/-!
# The facets of a promotion

The settings that mean the same for every archetype, checked and grouped.
-/

namespace Promotions.Promotion

open Setting

/-- The hours; a promotion with one end of them needs the other. -/
def timeWindow? (p : Promotion) : Except CompileError (Option TimeWindow) :=
  match p.validTimeStart, p.validTimeEnd with
  | some start, some finish => .ok (some ⟨start, finish⟩)
  | none, none => .ok none
  | some _, none => .error (.missing "valid_time_end")
  | none, some _ => .error (.missing "valid_time_start")

/-- When the promotion is valid. -/
def validity (p : Promotion) : Except CompileError Validity := do
  if p.endDate < p.startDate then .error (.invalidDateRange p.startDate p.endDate)
  else
    return {
      startDate := p.startDate
      endDate := p.endDate
      window := ← p.timeWindow?
      weekdays := ← p.weekdays
      excludeHolidays := p.excludeHolidays
    }

/-- The stores. -/
def storeScope (p : Promotion) : Except CompileError StoreScope :=
  if p.allStores then .ok .all
  else if p.stores.isEmpty then .error (.missing "stores")
  else .ok (.listed p.stores)

/-- The brands. -/
def brandCoverage (p : Promotion) : Except CompileError BrandCoverage :=
  match p.brandScope with
  | .company => .ok .company
  | .brands => if p.brands.isEmpty then .error (.missing "brands") else .ok (.listed p.brands)
  | .single => (require "brand_id" p.brandId).map fun brand => .listed (.ofList [brand])

/-- Where the promotion is valid. -/
def scope (p : Promotion) : Except CompileError Scope := do
  return {
    stores := ← p.storeScope
    brands := ← p.brandCoverage
    excludeBrands := p.excludeBrands
    salesChannels := canonicalSet p.salesChannels
    excludeChannels := canonicalSet p.excludeChannels
  }

/-- Which lines the promotion is for. -/
def targeting (p : Promotion) : Targeting where
  applyTo := p.applyTo
  categories := p.categories
  products := p.products
  excludeCategories := p.excludeCategories
  excludeProducts := p.excludeProducts

/-- Which customers the promotion is for. -/
def audience (p : Promotion) : Audience where
  memberOnly := p.memberOnly
  memberTiers := canonicalSet p.memberTiers
  excludeMembers := p.excludeMembers
  customerType := p.customerType
  inactiveDaysThreshold := p.inactiveDaysThreshold

/-- What the eligible lines have to reach. -/
def requirements (p : Promotion) : Except CompileError Requirements := do
  return {
    minPurchase := ← p.leastPurchase
    minQuantity := p.minQuantity
    minItems := p.minItems
  }

/-- How often the promotion may be used. -/
def limits (p : Promotion) : Limits where
  maxUses := Count.positive? p.maxUses
  maxUsesPerCustomer := Count.positive? p.maxUsesPerCustomer
  maxUsesPerDay := Count.positive? p.maxUsesPerDay
  currentUses := p.currentUses

/-- How the promotion gets along with others. -/
def conflict (p : Promotion) : Except CompileError ConflictPolicy :=
  if 1 ≤ p.executionPriority ∧ p.executionPriority ≤ 999 then
    .ok {
      isStackable := p.isStackable
      executionPriority := p.executionPriority
      stage := p.stage
      cannotCombineWith := p.cannotCombineWith
      isAutoApply := p.isAutoApply
      requireVoucher := p.requireVoucher
      priority := p.priority
    }
  else .error (.invalid "execution_priority" (.notPriority p.executionPriority))

/-- The rules across brands, which are at their defaults where none are given. -/
def acrossBrands (p : Promotion) : Except CompileError FreeForm.CrossBrandRules :=
  match p.crossBrandRules with
  | none | some .null => .ok {}
  | some blob =>
    match FreeForm.CrossBrandRules.read blob with
    | .ok rules => .ok rules
    | .error e => .error (.invalid "cross_brand_rules" (.malformed e))

/-- How the promotion is earned across brands, if it is. -/
def crossBrand? (p : Promotion) : Except CompileError (Option CrossBrand) := do
  if p.isCrossBrand then
    let kind ← require "cross_brand_type" p.crossBrandType
    if kind = .triggerBenefit ∧ p.triggerBrands.isEmpty then .error .emptyTriggerBrands
    else
      let rules ← p.acrossBrands
      return some {
        kind
        triggerBrands := p.triggerBrands
        benefitBrands := p.benefitBrands
        minDistinctBrands :=
          ← atLeastOne "cross_brand_rules.min_distinct_brands" rules.minDistinctBrands
        triggerMinAmount := ← positive? "trigger_min_amount" p.triggerMinAmount
      }
  else return none

end Promotions.Promotion

import Promotions.Calendar.Text
import Promotions.Id
import Promotions.Promotion.Kinds

/-!
# Promotions as they are configured

A promotion is one flat record that holds the settings of every archetype; any one promotion uses a
few of them. What it means is worked out when it is compiled. A setting of zero counts as one that
is not set, because the forms in which promotions are edited store zero for an empty field.
-/

namespace Promotions

/-- A component of a package. -/
structure ComponentConfig where
  /-- A product or a choice. -/
  kind : ComponentKind
  /-- The product. -/
  product : Option ProductId := none
  /-- The category to choose from. -/
  category : Option CategoryId := none
  /-- How many units of a product, or of each selection. -/
  quantity : Count := 1
  /-- The package is incomplete without it. -/
  isRequired : Bool := true
  /-- The least number of selections. -/
  minSelection : Count := 0
  /-- The greatest number of selections. -/
  maxSelection : Count := 1
  /-- Its place in the package. -/
  sortOrder : Int32 := 0
  deriving DecidableEq

/-- A set menu. -/
structure PackageConfig where
  /-- The name it is shown under. -/
  name : String
  /-- The price of the whole. -/
  price : Amount
  /-- The cashier may exchange components. -/
  allowModification : Bool := false
  /-- The components. -/
  items : List ComponentConfig := []
  deriving DecidableEq

/-- A tier of a threshold promotion. -/
structure TierConfig where
  /-- The name it is shown under. -/
  name : String
  /-- The order it is shown in. -/
  order : Int32 := 0
  /-- The least amount that reaches the tier. -/
  minAmount : Amount
  /-- The greatest amount that stays in the tier. -/
  maxAmount : Option Amount := none
  /-- What it rewards with. -/
  kind : RewardKind
  /-- Percent points or minor units off. -/
  value : Decimal := .zero
  /-- The free product. -/
  freeProduct : Option ProductId := none
  /-- The multiplier of loyalty points. -/
  pointsMultiplier : Option Decimal := none
  /-- It counts. -/
  isActive : Bool := true
  deriving DecidableEq

/-- A promotion. -/
structure Promotion where
  /-- Identifies the promotion. -/
  id : PromotionId
  /-- The company it belongs to. -/
  companyId : CompanyId
  /-- The code people know it by. -/
  code : String
  /-- The name it is shown under. -/
  name : String
  /-- What it is about. -/
  description : String := ""
  /-- Its terms and conditions. -/
  terms : String := ""
  /-- The name of its archetype; an unknown name is found out when the promotion is compiled. -/
  archetype : String
  /-- What part of a bill it discounts. -/
  applyTo : ApplyTo := .all
  /-- Which brands it is for. -/
  brandScope : BrandScope := .company
  /-- The brand, where it is for one. -/
  brandId : Option BrandId := none
  /-- The brands, where it is for some. -/
  brands : SortedSet BrandId := .empty
  /-- Brands it is never for. -/
  excludeBrands : SortedSet BrandId := .empty
  /-- It runs at every store of its brands. -/
  allStores : Bool := true
  /-- The stores it runs at, where it does not run at all. -/
  stores : SortedSet StoreId := .empty
  /-- A discount in percent points. -/
  discountPercent : Option Decimal := none
  /-- A discount as an amount. -/
  discountAmount : Option Amount := none
  /-- The most it grants. -/
  maxDiscountAmount : Option Amount := none
  /-- How many units have to be bought. -/
  buyQuantity : Option Count := none
  /-- How many units are granted. -/
  getQuantity : Option Count := none
  /-- The product that is granted. -/
  getProduct : Option ProductId := none
  /-- The price of a combo. -/
  comboPrice : Option Amount := none
  /-- The products of a combo. -/
  comboProducts : List ProductId := []
  /-- The price of a unit in the happy hour. -/
  happyHourPrice : Option Amount := none
  /-- The methods of payment it is for. -/
  paymentMethods : List String := []
  /-- The least bill for a payment discount. -/
  paymentMinAmount : Amount := 0
  /-- The categories it discounts. -/
  categories : SortedSet CategoryId := .empty
  /-- The products it discounts. -/
  products : SortedSet ProductId := .empty
  /-- Categories it never discounts. -/
  excludeCategories : SortedSet CategoryId := .empty
  /-- Products it never discounts. -/
  excludeProducts : SortedSet ProductId := .empty
  /-- It has to be earned across brands. -/
  isCrossBrand : Bool := false
  /-- How it is earned across brands. -/
  crossBrandType : Option CrossBrandType := none
  /-- The brands it is earned at. -/
  triggerBrands : SortedSet BrandId := .empty
  /-- The brands it is granted at. -/
  benefitBrands : SortedSet BrandId := .empty
  /-- How much has to be spent to earn it. -/
  triggerMinAmount : Option Amount := none
  /-- Further rules across brands, in free form. -/
  crossBrandRules : Option Json := none
  /-- It is for members alone. -/
  memberOnly : Bool := false
  /-- The tiers of members it is for; none means all. -/
  memberTiers : List String := []
  /-- Members it is never for. -/
  excludeMembers : SortedSet MemberId := .empty
  /-- The first day it is valid. -/
  startDate : Date
  /-- The last day it is valid. -/
  endDate : Date
  /-- The weekdays it is valid, Monday being zero; none means all. -/
  validDays : List UInt8 := []
  /-- The time of day from which it is valid. -/
  validTimeStart : Option Clock := none
  /-- The time of day until which it is valid. -/
  validTimeEnd : Option Clock := none
  /-- It is not valid on holidays. -/
  excludeHolidays : Bool := false
  /-- How often it may be used. -/
  maxUses : Option Count := none
  /-- How often a customer may use it. -/
  maxUsesPerCustomer : Option Count := none
  /-- How often it may be used in a day. -/
  maxUsesPerDay : Option Count := none
  /-- How often it has been used. -/
  currentUses : Count := 0
  /-- The least purchase it is for. -/
  minPurchase : Amount := 0
  /-- The least number of units it is for. -/
  minQuantity : Count := 0
  /-- The least number of lines it is for. -/
  minItems : Count := 0
  /-- It may stand beside another promotion that may not. -/
  isStackable : Bool := false
  /-- The order it is shown in. -/
  priority : Int32 := 0
  /-- Promotions it is never combined with. -/
  cannotCombineWith : SortedSet PromotionId := .empty
  /-- The sales channels it is for; none means all. -/
  salesChannels : List String := []
  /-- Sales channels it is never for. -/
  excludeChannels : List String := []
  /-- Which customers it is for. -/
  customerType : CustomerType := .all
  /-- After how many days without an order a customer is inactive. -/
  inactiveDaysThreshold : Count := 30
  /-- The product that has to be bought. -/
  requiredProduct : Option ProductId := none
  /-- The product that is offered on top. -/
  upsellProduct : Option ProductId := none
  /-- The price it is offered at. -/
  upsellSpecialPrice : Option Amount := none
  /-- What is said with the offer. -/
  upsellMessage : String := ""
  /-- The rules of a group of units, in free form. -/
  mixMatchRules : Option Json := none
  /-- Its place among the promotions of a stage. -/
  executionPriority : UInt16 := 500
  /-- When it is worked out. -/
  stage : Stage := .itemLevel
  /-- It is switched on. -/
  isActive : Bool := true
  /-- It is considered without being asked for. -/
  isAutoApply : Bool := true
  /-- It needs a voucher. -/
  requireVoucher : Bool := false
  /-- The package it sells. -/
  package : Option PackageConfig := none
  /-- The tiers of a threshold promotion. -/
  tiers : List TierConfig := []

/-- A promotion of an archetype with every other setting at its default. -/
def Promotion.new (archetype : Archetype) (id : PromotionId) (companyId : CompanyId)
    (code : String) (startDate endDate : Date) : Promotion :=
  { id, companyId, code, name := code, archetype := Named.name archetype, startDate, endDate }

end Promotions

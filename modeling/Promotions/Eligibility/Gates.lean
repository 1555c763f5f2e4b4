import Promotions.Document
import Promotions.Eligibility.CrossBrand
import Promotions.Eligibility.Lines
import Promotions.Eligibility.Reason

/-!
# The gates

Each gate goes through its conditions in order, and the first that does not hold is the reason.
Before the gates stands a check that the document can be judged at all. Minimums are measured on the
eligible lines, which are all lines if the promotion is for the bill as a whole.
-/

namespace Promotions.Document

open Judged

/-- The document can be judged: its form and its currency are known, and the bill is in its
currency. -/
def checkForm (d : Document) (bill : Bill) : Except Fault Unit :=
  if !d.isSupported then .error (.unsupportedVersion d.version)
  else if !d.hasCurrency then .error (.unknownCurrency d.currency)
  else if !Text.sameIgnoringCase d.currency (Text.trim bill.currency) then
    .error (.currencyMismatch d.currency bill.currency)
  else .ok ()

/-- The gate of dates, times, weekdays and holidays. -/
def validityGate (d : Document) (ctx : Context) : Judged Unit := do
  let date := ctx.bill.localTime.date
  require (d.validity.coversDate date) .outsideDateRange
  require (d.validity.coversTime ctx.bill.localTime.clock) .outsideTimeWindow
  require (d.validity.weekdays.allows date.weekday) .dayNotAllowed
  require (!(d.validity.excludeHolidays && decide (date ∈ ctx.holidays))) .holidayExcluded

/-- The gate of stores, brands, channels and conditions across brands. -/
def scopeGate (d : Document) (ctx : Context) : Judged Unit := do
  require (d.scope.stores.includes ctx.bill.storeId) .storeNotInScope
  require (d.scope.coversBrand ctx.bill.brandId) .brandNotInScope
  require (d.scope.allowsChannel ctx.bill.channel) .channelNotAllowed
  match d.crossBrand with
  | some crossBrand => require (← crossBrand.isMet ctx) .crossBrandConditionNotMet
  | none => return

/-- The gate of products and categories. A promotion for the bill as a whole passes it. -/
def targetingGate (d : Document) (lines : EligibleLines) : Judged Unit :=
  require (d.targeting.applyTo.isBillScoped || !lines.isEmpty) .targetingGateFailed

/-- The customer is of the type that a promotion is to win; where nothing is known of the customer,
only a promotion for all is. -/
def matchesCustomer (d : Document) (ctx : Context) : Bool :=
  match d.audience.customerType, ctx.customer with
  | .all, _ => true
  | _, none => false
  | .firstOrder, some customer => customer.isFirstOrder
  | .firstPerBrand, some customer => customer.isFirstOrderAt ctx.bill.brandId
  | .comeback, some customer => customer.isComeback
  | .inactive, some customer => customer.isInactive d.audience.inactiveDaysThreshold

/-- The gate of membership and history. -/
def customerGate (d : Document) (ctx : Context) : Judged Unit := do
  let tiers := d.audience.memberTiers
  let member := ctx.bill.member
  require (!d.audience.memberOnly || member.isSome) .memberRequired
  require (tiers.isEmpty || ctx.bill.memberTier.any fun tier => decide (tier ∈ tiers))
    .memberTierNotAllowed
  require (!member.any fun m => decide (m.id ∈ d.audience.excludeMembers)) .memberExcluded
  require (d.matchesCustomer ctx) .customerTypeMismatch

/-- The gate of what the lines have to reach. -/
def thresholdGate (d : Document) (lines : EligibleLines) : Judged Unit := do
  require (decide (d.requirements.minPurchase ≤ lines.subtotal)) .minPurchaseNotMet
  require (decide (d.requirements.minQuantity ≤ lines.quantity)) .minQuantityNotMet
  require (decide (d.requirements.minItems.toNat ≤ lines.size)) .minItemsNotMet

/-- A count is below its limit, if there is one. -/
def isBelow (count : Count) (limit : Option Count) : Bool :=
  limit.all fun max => decide (count < max)

/-- The gate of how often the promotion may be used. Where usage was not asked, the uses that had
been counted when the promotion was compiled stand for the total. -/
def limitGate (d : Document) (ctx : Context) : Judged Unit := do
  let usage := (ctx.usage.bind (·.find? d.id)).getD { total := d.limits.currentUses }
  require (isBelow usage.total d.limits.maxUses) .usageLimitReached
  require (isBelow usage.today d.limits.maxUsesPerDay) .dailyLimitReached
  require (ctx.bill.member.isNone || isBelow usage.byCustomer d.limits.maxUsesPerCustomer)
    .customerLimitReached

end Promotions.Document

import Promotions.Eligibility

/-!
# Resolution

Of the promotions a bill is eligible for, resolution decides which apply together. Stages come in
their order; within a stage promotions are considered by ascending execution priority and then by
code. A promotion is suppressed if it needs a request and was not asked for, if it and one that was
applied rule each other out, if it does not stack and one that does not stack was applied, or if
nothing of the bill is left for it.
-/

namespace Promotions

/-- Why a promotion is not applied although the bill is eligible for it. -/
inductive SuppressionReason where
  /-- It needs a request and was not asked for. -/
  | notRequested
  /-- It and a promotion that was applied rule each other out. -/
  | explicitlyIncompatible
  /-- It does not stack, and another promotion that does not was applied. -/
  | nonStackableConflict
  /-- Nothing of the bill is left. -/
  | billFullyDiscounted
  deriving DecidableEq, Repr

instance : Named SuppressionReason where
  all := [.notRequested, .explicitlyIncompatible, .nonStackableConflict, .billFullyDiscounted]
  name
    | .notRequested => "not_requested"
    | .explicitlyIncompatible => "explicitly_incompatible"
    | .nonStackableConflict => "non_stackable_conflict"
    | .billFullyDiscounted => "bill_fully_discounted"

/-- A promotion that is applied. -/
structure AppliedPromotion where
  /-- Identifies the promotion. -/
  promotionId : PromotionId
  /-- The code people know it by. -/
  code : String
  /-- The stage it is applied in. -/
  stage : Stage
  /-- What it grants of what is left of the bill. -/
  amount : Amount
  /-- The benefit. -/
  benefit : Benefit
  /-- The places of the lines it is granted for. -/
  affected : List Nat
  deriving DecidableEq

/-- A promotion that is suppressed. -/
structure SuppressedPromotion where
  /-- Identifies the promotion. -/
  promotionId : PromotionId
  /-- The code people know it by. -/
  code : String
  /-- Why it is suppressed. -/
  reason : SuppressionReason
  deriving DecidableEq

/-- What is decided for a bill. -/
structure Resolution where
  /-- The code of the currency of the bill. -/
  currency : String
  /-- The promotions that are applied, in their order. -/
  applied : List AppliedPromotion := []
  /-- The promotions that are suppressed, in their order. -/
  suppressed : List SuppressedPromotion := []
  /-- What the bill is reduced by. -/
  totalDiscount : Amount := 0
  /-- What is given back after the payment. -/
  totalCashback : Amount := 0
  deriving DecidableEq

namespace Resolution

/-- What the bill is reduced by as money, which there is in a known currency only. -/
def total? (r : Resolution) : Option Amount :=
  if isCurrency r.currency then some r.totalDiscount else none

/-- The promotion is applied. -/
def isApplied (r : Resolution) (id : PromotionId) : Bool :=
  r.applied.any fun a => a.promotionId = id

/-- Why the promotion is suppressed, if it is. -/
def suppressionOf? (r : Resolution) (id : PromotionId) : Option SuppressionReason :=
  (r.suppressed.find? fun s => s.promotionId = id).map (·.reason)

end Resolution

/-- A promotion to be considered, with what it grants. -/
structure Candidate where
  /-- What evaluation says of it. -/
  result : EligibilityResult
  /-- What it grants. -/
  grant : Grant

namespace Candidate

/-- The candidates of a stage among results. -/
def ofResults (stage : Stage) (results : List EligibilityResult) : List Candidate :=
  results.filterMap fun r =>
    if r.conflict.stage = stage then r.grant?.map fun grant => ⟨r, grant⟩ else none

/-- `a` is considered no later than `b`. -/
def notAfter (a b : Candidate) : Bool :=
  let p := a.result.conflict.executionPriority
  let q := b.result.conflict.executionPriority
  decide (p < q) || (p == q && !Ordered.before b.result.code a.result.code)

/-- The candidates in the order in which they are considered. -/
def inOrder (candidates : List Candidate) : List Candidate := candidates.mergeSort notAfter

end Candidate

/-- How far resolution has come. -/
structure Resolver where
  /-- The bill. -/
  bill : Bill
  /-- What is left of the bill. -/
  remaining : Amount
  /-- A promotion that does not stack was applied. -/
  nonStackableApplied : Bool := false
  /-- The promotions that were applied, with those that each rules out. -/
  incompatible : List (PromotionId × SortedSet PromotionId) := []
  /-- What is decided so far. -/
  resolution : Resolution

namespace Resolver

/-- The start of the resolution of a bill. -/
def start (bill : Bill) : Except ArithmeticError Resolver := do
  return { bill, remaining := ← bill.subtotal, resolution := { currency := bill.currency } }

/-- What the bill is reduced by so far. -/
def billDiscount (r : Resolver) : Amount := r.resolution.totalDiscount

/-- The candidate and a promotion that was applied rule each other out. -/
def isIncompatible (r : Resolver) (c : Candidate) : Bool :=
  r.incompatible.any fun (applied, excluded) =>
    decide (c.result.promotionId ∈ excluded) ||
      decide (applied ∈ c.result.conflict.cannotCombineWith)

/-- Why the candidate is suppressed, if it is. -/
def suppression? (r : Resolver) (c : Candidate) : Option SuppressionReason :=
  let policy := c.result.conflict
  if policy.needsRequest && !r.bill.requests c.result.promotionId c.result.code then
    some .notRequested
  else if r.isIncompatible c then some .explicitlyIncompatible
  else if !policy.isStackable && r.nonStackableApplied then some .nonStackableConflict
  else if c.grant.benefit.reducesBill && decide (0 < c.grant.discount) &&
      decide (r.remaining ≤ 0) then
    some .billFullyDiscounted
  else none

/-- The resolver after a candidate is suppressed. -/
def suppress (r : Resolver) (c : Candidate) (reason : SuppressionReason) : Resolver :=
  let entry : SuppressedPromotion :=
    { promotionId := c.result.promotionId, code := c.result.code, reason }
  { r with resolution := { r.resolution with suppressed := r.resolution.suppressed ++ [entry] } }

/-- What a candidate grants of what is left of the bill. -/
def grantedAmount (r : Resolver) (c : Candidate) : Amount :=
  if c.grant.benefit.reducesBill then Amount.clamp c.grant.discount r.remaining
  else c.grant.discount

/-- The totals with the amount of a benefit added. -/
def addToTotals (r : Resolution) (benefit : Benefit) (amount : Amount) :
    Except ArithmeticError Resolution := do
  match benefit with
  | .discount | .freeProduct _ =>
    return { r with totalDiscount := ← r.totalDiscount.add amount }
  | .cashback => return { r with totalCashback := ← r.totalCashback.add amount }
  | .pointsMultiplier _ => return r

/-- The resolver after a candidate is applied. -/
def apply (r : Resolver) (c : Candidate) : Except ArithmeticError Resolver := do
  let amount := r.grantedAmount c
  let totals ← addToTotals r.resolution c.grant.benefit amount
  let policy := c.result.conflict
  let entry : AppliedPromotion := {
    promotionId := c.result.promotionId
    code := c.result.code
    stage := policy.stage
    amount
    benefit := c.grant.benefit
    affected := c.grant.affected
  }
  return {
    bill := r.bill
    remaining := if c.grant.benefit.reducesBill then r.remaining.subSat amount else r.remaining
    nonStackableApplied := r.nonStackableApplied || !policy.isStackable
    incompatible := r.incompatible ++ [(c.result.promotionId, policy.cannotCombineWith)]
    resolution := { totals with applied := totals.applied ++ [entry] }
  }

/-- The resolver after a candidate is considered. -/
def consider (r : Resolver) (c : Candidate) : Except ArithmeticError Resolver :=
  match r.suppression? c with
  | some reason => .ok (r.suppress c reason)
  | none => r.apply c

/-- Candidates considered one after the other, up to the first whose totals do not fit. -/
def considerAll (r : Resolver) : List Candidate → Except ArithmeticError Unit × Resolver
  | [] => (.ok (), r)
  | c :: rest =>
    match r.consider c with
    | .ok r => considerAll r rest
    | .error e => (.error e, r)

/-- The results of a stage considered in their order. What was decided before an error stays
decided. -/
def runStage (r : Resolver) (stage : Stage) (results : List EligibilityResult) :
    Except ArithmeticError Unit × Resolver :=
  r.considerAll (Candidate.inOrder (Candidate.ofResults stage results))

/-- The resolver after a stage. -/
def afterStage (r : Resolver) (stage : Stage) (results : List EligibilityResult) :
    Except ArithmeticError Resolver :=
  let (outcome, r) := r.runStage stage results
  outcome.map fun () => r

end Resolver

/-- What is decided for a bill and results. -/
def resolve (bill : Bill) (results : List EligibilityResult) :
    Except ArithmeticError Resolution := do
  let resolver ← Stage.inOrder.foldlM (fun r stage => r.afterStage stage results)
    (← Resolver.start bill)
  return resolver.resolution

end Promotions

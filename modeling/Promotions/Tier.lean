import Promotions.Id

/-!
# Tiers

A threshold promotion grants a benefit by how much is spent. Of the tiers whose bounds contain the
amount, both bounds included, the one with the greatest lower bound counts, and of several the one
that is shown first. The order in which the tiers are listed does not matter.
-/

namespace Promotions

/-- What a tier grants. -/
inductive TierBenefit where
  /-- Percent points off. -/
  | percent (points : Decimal)
  /-- An amount off. -/
  | amount (value : Amount)
  /-- A unit of a product for nothing. -/
  | freeProduct (product : ProductId)
  /-- More loyalty points. -/
  | pointsMultiplier (multiplier : Decimal)
  deriving DecidableEq

/-- A tier of a threshold promotion. -/
structure Tier where
  /-- The name it is shown under. -/
  name : String
  /-- The order it is shown in. -/
  order : Int32
  /-- The least amount in the tier. -/
  minAmount : Amount
  /-- The greatest amount in the tier. -/
  maxAmount : Option Amount
  /-- What it grants. -/
  benefit : TierBenefit
  deriving DecidableEq

namespace Tier

/-- The amount lies within the bounds. -/
def qualifies (t : Tier) (base : Amount) : Bool :=
  decide (t.minAmount ≤ base) &&
    match t.maxAmount with
    | some top => decide (base ≤ top)
    | none => true

/-- `a` may stand before `b` in a list that starts with the greatest lower bound. -/
def richerOrSame (a b : Tier) : Bool :=
  decide (b.minAmount < a.minAmount) || (a.minAmount == b.minAmount && decide (a.order ≤ b.order))

/-- `a` has to stand before `b` in such a list. -/
def richer (a b : Tier) : Bool :=
  decide (b.minAmount < a.minAmount) || (a.minAmount == b.minAmount && decide (a.order < b.order))

/-- The tiers with the greatest lower bound first. -/
def sortRichestFirst (tiers : List Tier) : List Tier := tiers.mergeSort richerOrSame

/-- The richer of a tier and the ones before it; of equally rich tiers the last. -/
def keepRicher (best : Option Tier) (t : Tier) : Option Tier :=
  match best with
  | some b => if richer b t then some b else some t
  | none => some t

/-- The tier that counts for an amount. -/
def select? (tiers : List Tier) (base : Amount) : Option Tier :=
  (tiers.filter (qualifies · base)).foldl keepRicher none

end Tier

end Promotions

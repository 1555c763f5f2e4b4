import Promotions.Eligibility.Grant
import Promotions.Eligibility.UnitRuns
import Promotions.Rule

/-!
# Packages on a bill

Each component of a package is looked for among the eligible lines on its own. What is found is
worth what its units cost, and the package saves what they cost together above its price.
-/

namespace Promotions

/-- What stands on the bill for a component. -/
structure FoundComponent where
  /-- The price of its units. -/
  value : Amount
  /-- The places of its lines. -/
  indices : List Nat

namespace Component

/-- A product of which there are enough units, each worth as much as the cheapest. -/
def findFixed (c : Component) (b : Basis) (product : ProductId) :
    Judged (Option FoundComponent) := do
  match b.lines.cheapestOf? product with
  | some price =>
    if c.quantity ≤ b.lines.quantityOf product then
      return some {
        value := ← price.times c.quantity.toNat
        indices := EligibleLines.indicesOf (b.lines.ofProduct product)
      }
    else return none
  | none => return none

/-- The least number of units of a choice. -/
def leastUnits (c : Component) : Count := max c.minSelection 1

/-- The greatest number of units of a choice. -/
def greatestUnits (c : Component) : Count :=
  max (Count.mulSat c.maxSelection c.quantity) c.leastUnits

/-- Units of a category, the dearest first, as many as may be chosen, if there are enough. -/
def findChoice (c : Component) (b : Basis) (category : CategoryId) :
    Judged (Option FoundComponent) := do
  let lines := b.lines.ofCategory b.catalog category
  let runs := UnitRuns.ofLines (lines.map (·.line))
  let count := min runs.units c.greatestUnits.toNat
  if c.leastUnits.toNat ≤ count then
    return (← (runs.take count).1).map fun value =>
      { value, indices := EligibleLines.indicesOf lines }
  else return none

/-- What stands on the bill for the component. -/
def find (c : Component) (b : Basis) : Judged (Option FoundComponent) :=
  match c.kind, c.product, c.category with
  | .fixed, some product, _ => c.findFixed b product
  | .choice, _, some category => c.findChoice b category
  | _, _, _ => .ok none

end Component

namespace Package

/-- What was found so far of a package. -/
structure Progress where
  /-- The price of all units found. -/
  value : Amount := 0
  /-- The number of components found. -/
  found : Nat := 0
  /-- The places of their lines. -/
  indices : List Nat := []

/-- What was found, with a further component looked for. -/
def Progress.step (b : Basis) (p : Progress) (c : Component) : Judged Progress := do
  match ← c.find b with
  | some component =>
    return {
      value := ← p.value.add component.value
      found := p.found + 1
      indices := p.indices ++ component.indices
    }
  | none =>
    Judged.require (!c.required) .packageIncomplete
    return p

/-- What a package grants. -/
def grant (r : Package) (b : Basis) : Judged Grant := do
  let progress ← r.components.foldlM (Progress.step b) {}
  Judged.require (0 < progress.found) .packageIncomplete
  return {
    discount := progress.value.excess r.price
    affected := (SortedSet.ofList progress.indices).toList
  }

end Package

end Promotions

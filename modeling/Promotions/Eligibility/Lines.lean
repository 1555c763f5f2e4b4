import Promotions.Bill
import Promotions.Facet

/-!
# Eligible lines

The lines of a bill that a promotion is for. A promotion for the bill as a whole takes every line;
any other takes the lines it targets and does not leave out, and never a voided one. A product that
the catalog does not know is in no category.
-/

namespace Promotions

/-- The lines of a bill that a promotion is for, with their totals. -/
structure EligibleLines where
  /-- The lines, in the order of the bill. -/
  lines : List PlacedLine
  /-- The price of all their units. -/
  subtotal : Amount
  /-- The number of their units. -/
  quantity : Count

/-- The targeting takes the line. -/
def Targeting.selects (t : Targeting) (catalog : Catalog) (line : BillLine) : Bool :=
  let category := catalog.categoryOf line.product
  let inAny (categories : SortedSet CategoryId) : Bool :=
    category.any fun c => decide (c ∈ categories)
  let excluded := decide (line.product ∈ t.excludeProducts) || inAny t.excludeCategories
  if excluded || line.quantity == 0 then false
  else
    match t.applyTo with
    | .all | .bill | .payment => true
    | .category => inAny t.categories
    | .product => decide (line.product ∈ t.products)

namespace EligibleLines

/-- Lines with their totals. -/
def ofLines (lines : List PlacedLine) : Except ArithmeticError EligibleLines := do
  let amounts ← lines.mapM fun p => p.line.amount
  let subtotal ← Amount.sum amounts
  return { lines, subtotal, quantity := Count.sum (lines.map (·.line.quantity)) }

/-- The lines of a bill that a targeting takes. -/
def select (t : Targeting) (bill : Bill) (catalog : Catalog) :
    Except ArithmeticError EligibleLines :=
  ofLines (bill.placedLines.filter fun p => t.applyTo.isBillScoped || t.selects catalog p.line)

/-- Every line of a bill. -/
def all (bill : Bill) : Except ArithmeticError EligibleLines := ofLines bill.placedLines

/-- The places of lines. -/
def indicesOf (lines : List PlacedLine) : List Nat := lines.map (·.index)

/-- The places of the eligible lines. -/
def indices (e : EligibleLines) : List Nat := indicesOf e.lines

/-- There are no eligible lines. -/
def isEmpty (e : EligibleLines) : Bool := e.lines.isEmpty

/-- The number of eligible lines. -/
def size (e : EligibleLines) : Nat := e.lines.length

/-- The eligible lines of a product. -/
def ofProduct (e : EligibleLines) (product : ProductId) : List PlacedLine :=
  e.lines.filter fun p => p.line.product = product

/-- The eligible lines whose products are in a category. -/
def ofCategory (e : EligibleLines) (catalog : Catalog) (category : CategoryId) :
    List PlacedLine :=
  e.lines.filter fun p => catalog.categoryOf p.line.product = some category

/-- The number of units of lines. -/
def unitsOf (lines : List PlacedLine) : Count := Count.sum (lines.map (·.line.quantity))

/-- The number of eligible units of a product. -/
def quantityOf (e : EligibleLines) (product : ProductId) : Count := unitsOf (e.ofProduct product)

/-- The price of the cheapest eligible unit of a product. -/
def cheapestOf? (e : EligibleLines) (product : ProductId) : Option Amount :=
  (((e.ofProduct product).filter fun p => p.line.quantity != 0).map (·.line.unitPrice)).min?

end EligibleLines

end Promotions

import Promotions.Binary64

/-!
# JSON values

Promotions, bills, documents and answers travel as JSON. Whole numbers are kept apart from numbers
with a point or an exponent, because an amount may be given by the former only. The members of an
object keep their order, which matters for the text a document is hashed from.
-/

namespace Promotions

/-- A JSON value. -/
inductive Json where
  /-- The value `null`. -/
  | null
  /-- The values `true` and `false`. -/
  | bool (value : Bool)
  /-- A number without a point or an exponent. -/
  | int (value : Int)
  /-- A number with a point or an exponent. -/
  | float (value : Binary64)
  /-- A text. -/
  | str (value : String)
  /-- A sequence of values. -/
  | arr (elements : List Json)
  /-- Named values, in the order they are written. -/
  | obj (members : List (String × Json))

namespace Json

instance : Inhabited Json := ⟨null⟩

/-- The first member of a name. -/
def find? (name : String) : List (String × Json) → Option Json
  | [] => none
  | (key, value) :: rest => if key = name then some value else find? name rest

/-- The value is `null`. -/
def isNull : Json → Bool
  | null => true
  | _ => false

end Json

end Promotions

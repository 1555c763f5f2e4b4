import Promotions.Id
import Promotions.Text.Quoted

/-!
# Settings in free form

Two settings of a promotion hold JSON: the rules of a group of units and the rules across brands.
When the promotion is compiled they are read strictly, member by member in ascending order of their
names; the first member that is unknown or unusable is the error. An array stands for the members in
their declared order, and may leave out the last ones.
-/

namespace Promotions.FreeForm

/-- What a member, or the whole setting, has to be. -/
inductive Shape where
  /-- A count. -/
  | count
  /-- An amount. -/
  | amount
  /-- A truth value. -/
  | bool
  /-- An identifier. -/
  | id
  /-- The rules of a group of units. -/
  | groupRules
  /-- The rules across brands. -/
  | crossBrandRules
  deriving DecidableEq, Repr

/-- The wording of a shape. -/
def Shape.text : Shape → String
  | count => "u32"
  | amount => "i64"
  | bool => "a boolean"
  | id => "a formatted UUID string"
  | groupRules => "struct MixMatchRules"
  | crossBrandRules => "struct CrossBrandRules"

/-- Why a setting cannot be used. -/
inductive Error where
  /-- A member has none of the known names. -/
  | unknownMember (name : String) (known : List String)
  /-- A value is of another type. -/
  | wrongType (found : Json) (wanted : Shape)
  /-- A whole number does not fit. -/
  | outOfRange (found : Int) (wanted : Shape)
  /-- A text is no identifier. -/
  | badId (error : Uuid.TextError)
  /-- An array has more elements than there are members. -/
  | tooMany (count : Nat)

/-- What kind of value was found. -/
def found : Json → String
  | .null => "null"
  | .bool b => s!"boolean `{b}`"
  | .int i => s!"integer `{i}`"
  | .float x => s!"floating point `{String.ofList x.writeJson}`"
  | .str s => s!"string {Text.quote s}"
  | .arr _ => "sequence"
  | .obj _ => "map"

/-- The names that were to be expected. -/
def expected : List String → String
  | [a] => s!"`{a}`"
  | [a, b] => s!"`{a}` or `{b}`"
  | names => "one of " ++ ", ".intercalate (names.map fun name => s!"`{name}`")

/-- The wording of the error. -/
def Error.message : Error → String
  | unknownMember name known => s!"unknown field `{name}`, expected {expected known}"
  | wrongType j wanted => s!"invalid type: {found j}, expected {wanted.text}"
  | outOfRange i wanted => s!"invalid value: integer `{i}`, expected {wanted.text}"
  | badId error => s!"UUID parsing failed: {error.message}"
  | tooMany n => s!"invalid length {n}, expected fewer elements in array"

/-! ## Values -/

/-- The count that a value is. -/
def count (j : Json) : Except Error Count :=
  match j with
  | .int i => match ofJson? j with
    | some n => .ok n
    | none => .error (.outOfRange i .count)
  | _ => .error (.wrongType j .count)

/-- The amount that a value is. -/
def amount (j : Json) : Except Error Amount :=
  match j with
  | .int i => match Amount.ofInt? i with
    | some a => .ok a
    | none => .error (.outOfRange i .amount)
  | _ => .error (.wrongType j .amount)

/-- The truth value that a value is. -/
def bool (j : Json) : Except Error Bool :=
  match j with
  | .bool b => .ok b
  | _ => .error (.wrongType j .bool)

/-- The identifier that a value is. -/
def id {kind : Kind} (j : Json) : Except Error (Id kind) :=
  match j with
  | .str s => match Id.ofText? s with
    | some id => .ok id
    | none => .error (.badId (Uuid.diagnose s))
  | _ => .error (.wrongType j .id)

/-- A value that may be `null`. -/
def optional {α : Type} (read : Json → Except Error α) : Json → Except Error (Option α)
  | .null => .ok none
  | j => (read j).map some

/-- Members taken up one after the other by `set`, starting from the defaults. -/
def readMembers {σ : Type} (set : σ → String → Json → Except Error σ) (defaults : σ)
    (members : List (String × Json)) : Except Error σ :=
  members.foldlM (fun s m => set s m.1 m.2) defaults

/-- A whole setting whose members are called `names` in their declared order. -/
def read {σ : Type} (shape : Shape) (names : List String)
    (set : σ → String → Json → Except Error σ) (defaults : σ) : Json → Except Error σ
  | .obj members => readMembers set defaults members
  | .arr elements => do
    let s ← readMembers set defaults (names.zip elements)
    if names.length < elements.length then .error (.tooMany elements.length) else .ok s
  | j => .error (.wrongType j shape)

/-! ## The settings -/

/-- The rules of a group of units. -/
structure GroupRules where
  /-- The category of the units. -/
  category : Option CategoryId := none
  /-- How many units are a group. -/
  size : Count := 3
  /-- The price of a group. -/
  specialPrice : Option Amount := none
  /-- A group may hold several units of one product. -/
  allowSameProduct : Bool := true

namespace GroupRules

/-- The names of the members, in their declared order. -/
def memberNames : List String :=
  ["category_id", "required_quantity", "special_price", "allow_same_product"]

/-- The rules with one member taken up. -/
def set (r : GroupRules) (name : String) (j : Json) : Except Error GroupRules :=
  match name with
  | "category_id" => do return { r with category := ← optional id j }
  | "required_quantity" => do return { r with size := ← count j }
  | "special_price" => do return { r with specialPrice := ← optional amount j }
  | "allow_same_product" => do return { r with allowSameProduct := ← bool j }
  | _ => .error (.unknownMember name memberNames)

/-- The rules that a setting holds. -/
def read (j : Json) : Except Error GroupRules := FreeForm.read .groupRules memberNames set {} j

end GroupRules

/-- The rules across brands. -/
structure CrossBrandRules where
  /-- How many brands it takes. -/
  minDistinctBrands : Count := 2

namespace CrossBrandRules

/-- The names of the members. -/
def memberNames : List String := ["min_distinct_brands"]

/-- The rules with one member taken up. -/
def set (r : CrossBrandRules) (name : String) (j : Json) : Except Error CrossBrandRules :=
  match name with
  | "min_distinct_brands" => do return { r with minDistinctBrands := ← count j }
  | _ => .error (.unknownMember name memberNames)

/-- The rules that a setting holds. -/
def read (j : Json) : Except Error CrossBrandRules :=
  FreeForm.read .crossBrandRules memberNames set {} j

end CrossBrandRules

end Promotions.FreeForm

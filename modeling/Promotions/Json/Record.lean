import Promotions.Json.Codec

/-!
# Records and choices

A record is an object whose other members are ignored, or the array of its members in their order.

A choice has several forms, of which each has a name. Either the name and the value of a form stand
under two names of an object, or in an array of two; or the name stands among the members of the
form, or in front of them in the array.
-/

namespace Promotions.Json

/-! ## Records -/

/-- The members of a record, and where it stands. -/
structure Members where
  /-- Where the record stands. -/
  reading : Reading
  /-- The members. -/
  entries : List (String × Json)

/-- The members of a record whose names in order are `names`. As an array it has at least the
first `needed` of them. -/
def record? (reading : Reading) (names : List String) (needed : Nat) : Json → Option Members
  | obj entries => some ⟨reading, entries⟩
  | arr elements =>
    if needed ≤ elements.length ∧ elements.length ≤ names.length then
      some ⟨reading, names.zip elements⟩
    else none
  | _ => none

section Members

variable {α : Type} [JsonCodec α]

/-- The member `name`, which must be there. -/
def required (ms : Members) (name : String) : Option α :=
  (find? name ms.entries).bind (readJson? ms.reading)

/-- The member `name`, which may be missing or `null`. -/
def optional (ms : Members) (name : String) : Option (Option α) :=
  match find? name ms.entries with
  | some j => readJson? ms.reading j
  | none => some none

/-- The member `name`, or `value` if it is missing. -/
def defaulted (ms : Members) (name : String) (value : α) : Option α :=
  match find? name ms.entries with
  | some j => readJson? ms.reading j
  | none => some value

end Members

/-! ## Choices with a value beside the name -/

/-- The name at the head of an array: a text, or in a held value the place of the name among the
names of all forms. -/
def headName? (reading : Reading) (names : List String) : Json → Option String
  | str name => some name
  | int i => if reading = .held ∧ 0 ≤ i then names[i.toNat]? else none
  | _ => none

/-- The name and the value of a form held under `tag` and `content`, where the forms are called
`names`. -/
def tagged? (reading : Reading) (tag content : String) (names : List String) :
    Json → Option (String × Option Json)
  | obj members =>
    ((find? tag members).bind (name? reading)).map fun name => (name, find? content members)
  | arr [head, value] => (headName? reading names head).map fun name => (name, some value)
  | _ => none

/-- A form under `tag` with its value under `content`. -/
def tagged (tag content name : String) (value : Json) : Json :=
  obj [(tag, str name), (content, value)]

/-- A form that holds nothing but its name. -/
def isBare : Option Json → Bool
  | none => true
  | some null => true
  | some _ => false

/-! ## Choices with the name among the members -/

/-- The name of a form held under `tag`, and the record of its other members. -/
def variant? (tag : String) : Json → Option (String × Json)
  | obj members =>
    match find? tag members with
    | some (str name) => some (name, obj (members.filter fun m => m.1 ≠ tag))
    | _ => none
  | arr (str name :: rest) => some (name, arr rest)
  | _ => none

/-- The rest of a form without members: whatever an object holds, but no elements of an array. -/
def isUnit : Json → Bool
  | arr rest => rest.isEmpty
  | _ => true

end Promotions.Json

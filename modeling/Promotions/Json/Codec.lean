import Promotions.Amount
import Promotions.Count
import Promotions.Decimal.Text
import Promotions.Json.Text
import Promotions.Sorted.Map
import Promotions.Sorted.Set

/-!
# Values as JSON

`JsonCodec` says how a type is written as JSON and read from it. Whole numbers are read from
integers only and have to fit their type, sets drop repetitions, maps read their keys from the
names of the members, and an alternative without a value is its name.

What is read depends a little on where it stands. A value that stands inside a choice told by one
of its own members is held until the choice is known, and by then some spellings have become one.
In a file a text need not stand in quotes.
-/

namespace Promotions

/-- Where a value stands that is read. -/
inductive Reading where
  /-- In its own place. -/
  | direct
  /-- Inside a choice that is told by one of its members. -/
  | held
  /-- In a file. -/
  | file
  deriving DecidableEq, Repr

/-- How a type is written as JSON and read from it. -/
class JsonCodec (α : Type) where
  /-- The value as JSON. -/
  toJson : α → Json
  /-- The value that JSON stands for. -/
  readJson? : Reading → Json → Option α

/-- A type whose values name the members of an object. -/
class JsonKey (κ : Type) where
  /-- The name of a value. -/
  toKey : κ → String
  /-- The value of a name. -/
  ofKey? : String → Option κ

export JsonCodec (toJson readJson?)

/-- The value that JSON in its own place stands for. -/
def ofJson? {α : Type} [JsonCodec α] (j : Json) : Option α := readJson? .direct j

namespace Json

/-- The integer that a value is. -/
def int? : Json → Option Int
  | int i => some i
  | _ => none

/-- The natural number below `bound` that a value is. -/
def nat? (bound : Nat) (j : Json) : Option Nat :=
  (int? j).bind fun i => if 0 ≤ i ∧ i < bound then some i.toNat else none

/-- The text that a value is. In a file everything but an array and an object is a text. -/
def text? (reading : Reading) : Json → Option String
  | str s => some s
  | arr _ => none
  | obj _ => none
  | j => if reading = .file then some j.toText else none

/-- The name that a value is: a text, or an object that holds nothing under the name. In a file it
is a text. -/
def name? : Reading → Json → Option String
  | _, str name => some name
  | .direct, obj [(name, null)] => some name
  | .held, obj [(name, null)] => some name
  | .held, obj [(name, obj [])] => some name
  | _, _ => none

end Json

instance : JsonCodec Bool where
  toJson := .bool
  readJson?
    | _, .bool b => some b
    | _, _ => none

instance : JsonCodec String where
  toJson := .str
  readJson? := Json.text?

instance : JsonCodec UInt8 where
  toJson n := .int n.toNat
  readJson? _ j := (Json.nat? UInt8.size j).map UInt8.ofNat

instance : JsonCodec UInt16 where
  toJson n := .int n.toNat
  readJson? _ j := (Json.nat? UInt16.size j).map UInt16.ofNat

instance : JsonCodec UInt32 where
  toJson n := .int n.toNat
  readJson? _ j := (Json.nat? UInt32.size j).map UInt32.ofNat

instance : JsonCodec Int32 where
  toJson i := .int i.toInt
  readJson? _ j :=
    (Json.int? j).bind fun i =>
      if -2147483648 ≤ i ∧ i < 2147483648 then some (Int32.ofInt i) else none

/-- The index of a bill line. -/
instance : JsonCodec Nat where
  toJson n := .int n
  readJson? _ := Json.nat? UInt64.size

instance : JsonCodec Amount where
  toJson a := .int a.toInt
  readJson? _ j := (Json.int? j).bind Amount.ofInt?

/-- A decimal is written as a text, and read from a text, an integer or the plain digits of a
double. -/
instance : JsonCodec Decimal where
  toJson d := .str d.toText
  readJson?
    | _, .str s => Decimal.ofText? s
    | _, .int i => Decimal.ofInt? i
    | _, .float x => Decimal.readPlain? x.writePlain
    | _, _ => none

/-- Any JSON stands for itself. -/
instance : JsonCodec Json where
  toJson j := j
  readJson? _ := some

section Collections

variable {α κ ν : Type}

/-- The values of a list of JSON values, if each of them can be read. -/
def readList? [JsonCodec α] (reading : Reading) : List Json → Option (List α)
  | [] => some []
  | j :: rest => (readJson? reading j).bind fun a => (readList? reading rest).map (a :: ·)

instance [JsonCodec α] : JsonCodec (List α) where
  toJson l := .arr (l.map toJson)
  readJson?
    | reading, .arr js => readList? reading js
    | _, _ => none

instance [JsonCodec α] : JsonCodec (Option α) where
  toJson
    | some a => toJson a
    | none => .null
  readJson?
    | _, .null => some none
    | reading, j => (readJson? reading j).map some

instance [Ordered α] [JsonCodec α] : JsonCodec (SortedSet α) where
  toJson s := toJson s.toList
  readJson? reading j := (readJson? reading j).map SortedSet.ofList

instance : JsonKey String where
  toKey := id
  ofKey? := some

/-- The entries of a list of members, if each of them can be read. -/
def readEntries? [JsonKey κ] [JsonCodec ν] (reading : Reading) :
    List (String × Json) → Option (List (κ × ν))
  | [] => some []
  | (name, j) :: rest =>
    (JsonKey.ofKey? name).bind fun k =>
      (readJson? reading j).bind fun v => (readEntries? reading rest).map ((k, v) :: ·)

instance [Ordered κ] [JsonKey κ] [JsonCodec ν] : JsonCodec (SortedMap κ ν) where
  toJson m := .obj (m.entries.map fun e => (JsonKey.toKey e.1, toJson e.2))
  readJson?
    | reading, .obj members => (readEntries? reading members).map SortedMap.ofList
    | _, _ => none

end Collections

/-- A pair is the array of its two parts. -/
instance {α β : Type} [JsonCodec α] [JsonCodec β] : JsonCodec (α × β) where
  toJson p := .arr [toJson p.1, toJson p.2]
  readJson?
    | reading, .arr [a, b] =>
      (readJson? reading a).bind fun a => (readJson? reading b).map fun b => (a, b)
    | _, _ => none

/-- A type of finitely many alternatives that are known by name. -/
class Named (α : Type) where
  /-- The alternatives. -/
  all : List α
  /-- The name of an alternative. -/
  name : α → String

/-- The alternative of a name. -/
def Named.ofName? {α : Type} [Named α] (name : String) : Option α :=
  (Named.all : List α).find? fun a => Named.name a = name

/-- A named alternative is written as its name. -/
instance {α : Type} [Named α] : JsonCodec α where
  toJson a := .str (Named.name a)
  readJson? reading j := (Json.name? reading j).bind Named.ofName?

end Promotions

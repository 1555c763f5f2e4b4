import Promotions.Json

/-!
# JSON as text

A value is written without blanks, its members in their order. In a text the quote, the backslash
and the control characters below the blank are escaped, and every other character stands for
itself.
-/

namespace Promotions.Json

open Digits

/-- A character as it stands between quotes. -/
def escape (c : Char) : List Char :=
  if c = '"' then ['\\', '"']
  else if c = '\\' then ['\\', '\\']
  else if c.toNat = 8 then ['\\', 'b']
  else if c.toNat = 9 then ['\\', 't']
  else if c.toNat = 10 then ['\\', 'n']
  else if c.toNat = 12 then ['\\', 'f']
  else if c.toNat = 13 then ['\\', 'r']
  else if c.toNat < 32 then '\\' :: 'u' :: writeFixed 16 4 c.toNat
  else [c]

/-- A text between quotes. -/
def quote (s : String) : List Char := '"' :: s.toList.flatMap escape ++ ['"']

/-- An integer in base ten. -/
def writeInt (i : Int) : List Char :=
  if i < 0 then '-' :: write i.natAbs else write i.natAbs

mutual

/-- The text of a value. -/
def writeChars : Json → List Char
  | null => ['n', 'u', 'l', 'l']
  | bool true => ['t', 'r', 'u', 'e']
  | bool false => ['f', 'a', 'l', 's', 'e']
  | int i => writeInt i
  | float x => x.writeJson
  | str s => quote s
  | arr [] => ['[', ']']
  | arr (v :: rest) => '[' :: writeChars v ++ writeElements rest
  | obj [] => ['\x7b', '\x7d']
  | obj ((name, v) :: rest) => '\x7b' :: quote name ++ ':' :: writeChars v ++ writeMembers rest

/-- The text of the elements after the first, and the end of the array. -/
def writeElements : List Json → List Char
  | [] => [']']
  | v :: rest => ',' :: writeChars v ++ writeElements rest

/-- The text of the members after the first, and the end of the object. -/
def writeMembers : List (String × Json) → List Char
  | [] => ['\x7d']
  | (name, v) :: rest => ',' :: quote name ++ ':' :: writeChars v ++ writeMembers rest

end

/-- The text of a value. -/
def toText (j : Json) : String := String.ofList j.writeChars

end Promotions.Json

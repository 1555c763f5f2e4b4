import Promotions.Json.Text

/-!
# JSON as indented text

For people to read, each element and each member stands on a line of its own, two blanks further in
than the brackets around it. Empty arrays and objects stay closed up.
-/

namespace Promotions.Json

/-- The end of a line, and the blanks in front of the next. -/
def newLine (depth : Nat) : List Char := '\n' :: List.replicate (2 * depth) ' '

mutual

/-- The text of a value that stands between brackets `depth` deep. -/
def writeIndented (depth : Nat) : Json → List Char
  | arr (v :: rest) =>
    '[' :: newLine (depth + 1) ++ writeIndented (depth + 1) v ++ indentElements depth rest
  | obj ((name, v) :: rest) =>
    '\x7b' :: newLine (depth + 1) ++ quote name ++ ':' :: ' ' :: writeIndented (depth + 1) v ++
      indentMembers depth rest
  | null => writeChars null
  | bool b => writeChars (bool b)
  | int i => writeChars (int i)
  | float x => writeChars (float x)
  | str s => writeChars (str s)
  | arr [] => writeChars (arr [])
  | obj [] => writeChars (obj [])

/-- The elements after the first, and the end of the array. -/
def indentElements (depth : Nat) : List Json → List Char
  | [] => newLine depth ++ [']']
  | v :: rest =>
    ',' :: newLine (depth + 1) ++ writeIndented (depth + 1) v ++ indentElements depth rest

/-- The members after the first, and the end of the object. -/
def indentMembers (depth : Nat) : List (String × Json) → List Char
  | [] => newLine depth ++ ['\x7d']
  | (name, v) :: rest =>
    ',' :: newLine (depth + 1) ++ quote name ++ ':' :: ' ' :: writeIndented (depth + 1) v ++
      indentMembers depth rest

end

/-- The indented text of a value. -/
def toIndentedText (j : Json) : String := String.ofList (j.writeIndented 0)

end Promotions.Json

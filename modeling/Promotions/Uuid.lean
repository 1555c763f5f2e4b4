import Promotions.Digits
import Promotions.Sorted.Order

/-!
# Identifiers of one hundred and twenty-eight bits

A UUID is a number below `2 ^ 128`, written as thirty-two hexadecimal digits with hyphens after the
eighth, twelfth, sixteenth and twentieth. It is also read without hyphens, in braces, and behind
`urn:uuid:`.
-/

namespace Promotions

/-- A number of one hundred and twenty-eight bits that identifies something. -/
structure Uuid where
  /-- The number. -/
  toNat : Nat
  /-- It has at most one hundred and twenty-eight bits. -/
  isLt : toNat < 340282366920938463463374607431768211456
  deriving DecidableEq, Repr

namespace Uuid

open Digits

theorem ext {a b : Uuid} (h : a.toNat = b.toNat) : a = b := by
  cases a; cases b; simp_all

instance : Ordered Uuid := Ordered.lift toNat ext

/-- Thirty-two characters with hyphens between the five groups of digits. -/
def hyphenate (s : List Char) : List Char :=
  s.take 8 ++ '-' :: (s.drop 8).take 4 ++ '-' :: (s.drop 12).take 4 ++ '-' :: (s.drop 16).take 4 ++
    '-' :: s.drop 20

/-- The characters of a UUID. -/
def writeChars (u : Uuid) : List Char := hyphenate (writeFixed 16 32 u.toNat)

/-- The text of a UUID. -/
def toText (u : Uuid) : String := String.ofList u.writeChars

/-- The number that hexadecimal digits continue from `acc`. -/
def readHex (acc : Nat) : List Char → Option Nat
  | [] => some acc
  | c :: rest => (hexValue? c).bind fun d => readHex (16 * acc + d) rest

/-- The UUID of thirty-two hexadecimal digits. -/
def ofDigits? (s : List Char) : Option Uuid :=
  if s.length = 32 then
    (readHex 0 s).bind fun n =>
      if h : n < 340282366920938463463374607431768211456 then some ⟨n, h⟩ else none
  else none

/-- The UUID of five groups of digits with hyphens between them. -/
def ofGroups? (s : List Char) : Option Uuid :=
  if s.length = 36 ∧ s[8]? = some '-' ∧ s[13]? = some '-' ∧ s[18]? = some '-' ∧ s[23]? = some '-'
  then
    ofDigits? (s.take 8 ++ (s.drop 9).take 4 ++ (s.drop 14).take 4 ++ (s.drop 19).take 4 ++
      s.drop 24)
  else none

/-- The name that may stand before a UUID. -/
def scheme : List Char := ['u', 'r', 'n', ':', 'u', 'u', 'i', 'd', ':']

/-- What stands in braces. -/
def inBraces? : List Char → Option (List Char)
  | '\x7b' :: rest => if rest.getLast? = some '\x7d' then some rest.dropLast else none
  | _ => none

/-- What stands behind `urn:uuid:`, which may be in any case. -/
def afterScheme? (s : List Char) : Option (List Char) :=
  if (s.take 9).map Char.toLower = scheme then some (s.drop 9) else none

/-- The UUID that characters stand for. -/
def readChars? (s : List Char) : Option Uuid :=
  if s.length = 32 then ofDigits? s
  else if s.length = 36 then ofGroups? s
  else if s.length = 38 then (inBraces? s).bind ofGroups?
  else if s.length = 45 then (afterScheme? s).bind ofGroups?
  else none

/-- The UUID that a text stands for. -/
def ofText? (s : String) : Option Uuid := readChars? s.toList

/-! ## Why a text is none -/

/-- Why a text is no UUID. -/
inductive TextError where
  /-- The character at a place, counted from zero, is neither a digit nor a hyphen. -/
  | badCharacter (character : Char) (place : Nat)
  /-- The hyphens do not make five groups. -/
  | badGroupCount (count : Nat)
  /-- A group, counted from zero, has the wrong length. -/
  | badGroupLength (group length : Nat)
  /-- The text does not have the length of any form. -/
  | badLength (bytes : Nat)
  deriving DecidableEq, Repr

/-- The lengths of the groups. -/
def groupLengths : List Nat := [8, 4, 4, 4, 12]

/-- The wording of the error. -/
def TextError.message : TextError → String
  | badCharacter c place => s!"invalid character: found `{c}` at {place}"
  | badGroupCount count => s!"invalid group count: expected 5, found {count}"
  | badGroupLength group length =>
    s!"invalid group length in group {group}: expected {groupLengths.getD group 0}, found {length}"
  | badLength bytes => s!"invalid length: found {bytes}"

/-- The number of bytes that characters take. -/
def byteCount (s : List Char) : Nat := s.foldr (fun c count => c.utf8Size + count) 0

/-- What is looked at: of a text with the length of a wrapped form, what it wraps. -/
def candidate (s : List Char) : List Char :=
  if byteCount s = 38 then (inBraces? s).getD s
  else if byteCount s = 45 then (afterScheme? s).getD s
  else s

/-- What a text wraps, with the number of characters in front of it, if it wraps anything. -/
def unwrap? (s : List Char) : Option (Nat × List Char) :=
  match inBraces? s, afterScheme? s with
  | some inner, _ => some (1, inner)
  | none, some rest =>
    match inBraces? rest with
    | some inner => some (10, inner)
    | none => some (9, rest)
  | none, none => none

/-- The first character that is neither a hexadecimal digit nor a hyphen, and its place. -/
def firstBad? (place : Nat) : List Char → Option (Char × Nat)
  | [] => none
  | c :: rest =>
    if c = '-' || (hexValue? c).isSome then firstBad? (place + 1) rest else some (c, place)

/-- The places of the hyphens. -/
def hyphens (place : Nat) : List Char → List Nat
  | [] => []
  | c :: rest =>
    if c = '-' then place :: hyphens (place + 1) rest else hyphens (place + 1) rest

/-- The first group that does not end at its hyphen, and its length. The group called `group`
begins at `start`. -/
def firstBadGroup? (group start : Nat) : List Nat → List Nat → Option (Nat × Nat)
  | hyphen :: hyphens, length :: lengths =>
    if hyphen = start + length then firstBadGroup? (group + 1) (hyphen + 1) hyphens lengths
    else some (group, hyphen - start)
  | _, _ => none

/-- Why characters that are no UUID are none. The length of the last group is counted to the end of
the text, whatever wraps it. -/
def diagnoseChars (s : List Char) : TextError :=
  let (offset, inner) := (unwrap? s).getD (0, s)
  let places := hyphens 0 inner
  match firstBad? offset inner with
  | some (c, place) => .badCharacter c place
  | none =>
    if places.isEmpty && (unwrap? s).isNone then .badLength (byteCount s)
    else if places.length ≠ 4 then .badGroupCount (places.length + 1)
    else
      match firstBadGroup? 0 0 places groupLengths with
      | some (group, length) => .badGroupLength group length
      | none =>
        if inner.length = 36 then .badLength (byteCount s)
        else .badGroupLength 4 (byteCount s - 24)

/-- Why a text that is no UUID is none. -/
def diagnose (s : String) : TextError := diagnoseChars (candidate s.toList)

end Uuid

end Promotions

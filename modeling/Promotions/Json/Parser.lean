import Promotions.Json
import Promotions.Sorted.Map

/-!
# Reading JSON

The reader takes one value with blanks around it. The members of an object come out in ascending
order of their names, and of several members of one name the last counts. A number without a point
or an exponent is an integer if it fits sixty-four bits, with or without a sign, and is not `-0`;
every other number is read as a double. Arrays and objects nest at most one hundred and twenty-seven
deep.
-/

namespace Promotions.Json

open Digits

/-- The blanks between tokens. -/
def isSpace (c : Char) : Bool := c = ' ' || c = '\t' || c = '\n' || c = '\r'

/-- The text after its leading blanks. -/
def skipSpace (s : List Char) : List Char := s.dropWhile isSpace

/-- A character that stands for itself between quotes. -/
def isPlain (c : Char) : Bool := c ≠ '"' && c ≠ '\\' && 32 ≤ c.toNat

/-- The value of four hexadecimal digits. -/
def hexFour? : List Char → Option (Nat × List Char)
  | a :: b :: c :: d :: rest =>
    match hexValue? a, hexValue? b, hexValue? c, hexValue? d with
    | some a, some b, some c, some d => some (((a * 16 + b) * 16 + c) * 16 + d, rest)
    | _, _, _, _ => none
  | _ => none

/-- The character of one letter after a backslash. -/
def unescape? (c : Char) : Option Char :=
  if c = '"' || c = '\\' || c = '/' then some c
  else if c = 'b' then some '\x08'
  else if c = 'f' then some '\x0c'
  else if c = 'n' then some '\n'
  else if c = 'r' then some '\r'
  else if c = 't' then some '\t'
  else none

/-- A unit of sixteen bits that is the first half of a character. -/
def isHighHalf (n : Nat) : Bool := 0xD800 ≤ n && n ≤ 0xDBFF

/-- A unit of sixteen bits that is the second half of a character. -/
def isLowHalf (n : Nat) : Bool := 0xDC00 ≤ n && n ≤ 0xDFFF

/-- The character that `\u` stands for: one unit, or two halves. -/
def unicode? (s : List Char) : Option (Char × List Char) :=
  (hexFour? s).bind fun (n, rest) =>
    if isHighHalf n then
      match rest with
      | '\\' :: 'u' :: rest =>
        (hexFour? rest).bind fun (m, rest) =>
          if isLowHalf m then
            some (Char.ofNat (0x10000 + (n - 0xD800) * 0x400 + (m - 0xDC00)), rest)
          else none
      | _ => none
    else if isLowHalf n then none
    else some (Char.ofNat n, rest)

/-- The characters up to the closing quote, added in reverse to `acc`. The budget bounds the number
of steps. -/
def readQuoted (acc : List Char) : Nat → List Char → Option (String × List Char)
  | 0, _ => none
  | _ + 1, [] => none
  | budget + 1, c :: rest =>
    if c = '"' then some (String.ofList acc.reverse, rest)
    else if c = '\\' then
      match rest with
      | 'u' :: rest =>
        match unicode? rest with
        | some (d, rest) => readQuoted (d :: acc) budget rest
        | none => none
      | e :: rest =>
        match unescape? e with
        | some d => readQuoted (d :: acc) budget rest
        | none => none
      | [] => none
    else if isPlain c then readQuoted (c :: acc) budget rest
    else none

/-- The digits at the front, and what follows them. -/
def spanDigits (s : List Char) : List Char × List Char :=
  (s.takeWhile Char.isDigit, s.dropWhile Char.isDigit)

/-- The greatest integer without a sign. -/
def greatestUnsigned : Nat := UInt64.size - 1

/-- Digits added to a number as long as it fits sixty-four bits: the number and the digits left. -/
def accumulate (n : Nat) : List Char → Nat × List Char
  | [] => (n, [])
  | c :: rest =>
    match digitValue? c with
    | some d =>
      if 10 * n + d ≤ greatestUnsigned then accumulate (10 * n + d) rest else (n, c :: rest)
    | none => (n, c :: rest)

/-- The exponent after its mark: whether it is negative, its digits, and what follows. -/
def readExponent? (s : List Char) : Option (Bool × Nat × List Char) :=
  let (negative, s) := match s with
    | '-' :: rest => (true, rest)
    | '+' :: rest => (false, rest)
    | s => (false, s)
  let (digits, rest) := spanDigits s
  (read? digits).map fun n => (negative, n, rest)

/-- The double of a number whose digits before and after the point, and exponent, are given. Digits
past sixty-four bits are left out: before the point each of them counts as a power of ten, behind it
as nothing. -/
def readDouble? (negative : Bool) (whole places : List Char) (exponent : Int) :
    Option Binary64 :=
  let (n, dropped) := accumulate 0 whole
  let (m, ignored) := accumulate n places
  let kept : Int := places.length - ignored.length
  Binary64.ofDecimal? negative m (dropped.length - kept + exponent)

/-- The number at the front of a text. -/
def readNumber? (s : List Char) : Option (Json × List Char) :=
  let (negative, s) := match s with
    | '-' :: rest => (true, rest)
    | s => (false, s)
  let (whole, rest) := spanDigits s
  if whole.isEmpty || (whole.head? = some '0' && 1 < whole.length) then none
  else
    match rest with
    | '.' :: rest =>
      let (places, rest) := spanDigits rest
      if places.isEmpty then none
      else
        match rest with
        | e :: tail =>
          if e = 'e' || e = 'E' then
            (readExponent? tail).bind fun (down, n, tail) =>
              (readDouble? negative whole places (if down then -n else n)).map
                fun x => (float x, tail)
          else (readDouble? negative whole places 0).map fun x => (float x, rest)
        | [] => (readDouble? negative whole places 0).map fun x => (float x, rest)
    | e :: tail =>
      if e = 'e' || e = 'E' then
        (readExponent? tail).bind fun (down, n, tail) =>
          (readDouble? negative whole [] (if down then -n else n)).map fun x => (float x, tail)
      else integer negative whole rest
    | [] => integer negative whole rest
where
  /-- The number of given digits without a point or an exponent. -/
  integer (negative : Bool) (whole rest : List Char) : Option (Json × List Char) :=
    (read? whole).bind fun n =>
      if negative then
        if 0 < n ∧ n ≤ 9223372036854775808 then some (int (-n), rest)
        else (readDouble? true whole [] 0).map fun x => (float x, rest)
      else if n ≤ greatestUnsigned then some (int n, rest)
      else (readDouble? false whole [] 0).map fun x => (float x, rest)

/-- Members in ascending order of their names, of which the last of a name counts. -/
def orderMembers (members : List (String × Json)) : List (String × Json) :=
  (SortedMap.ofList members).entries

mutual

/-- The value at the front of a text, under at most `depth` more arrays and objects. The budget
bounds the number of steps. -/
def readValue (depth : Nat) : Nat → List Char → Option (Json × List Char)
  | 0, _ => none
  | budget + 1, s =>
    match skipSpace s with
    | 'n' :: 'u' :: 'l' :: 'l' :: rest => some (null, rest)
    | 't' :: 'r' :: 'u' :: 'e' :: rest => some (bool true, rest)
    | 'f' :: 'a' :: 'l' :: 's' :: 'e' :: rest => some (bool false, rest)
    | '"' :: rest => (readQuoted [] budget rest).map fun (t, rest) => (str t, rest)
    | '[' :: rest =>
      if depth = 0 then none
      else
        match skipSpace rest with
        | ']' :: rest => some (arr [], rest)
        | rest =>
          match readElements (depth - 1) budget rest with
          | some (elements, rest) => some (arr elements, rest)
          | none => none
    | '\x7b' :: rest =>
      if depth = 0 then none
      else
        match skipSpace rest with
        | '\x7d' :: rest => some (obj [], rest)
        | rest =>
          match readMembers (depth - 1) budget rest with
          | some (members, rest) => some (obj (orderMembers members), rest)
          | none => none
    | s => readNumber? s

/-- The elements of an array up to its end. -/
def readElements (depth : Nat) : Nat → List Char → Option (List Json × List Char)
  | 0, _ => none
  | budget + 1, s =>
    match readValue depth budget s with
    | none => none
    | some (v, rest) =>
      match skipSpace rest with
      | ']' :: rest => some ([v], rest)
      | ',' :: rest =>
        match readElements depth budget rest with
        | some (vs, rest) => some (v :: vs, rest)
        | none => none
      | _ => none

/-- The members of an object up to its end. -/
def readMembers (depth : Nat) : Nat → List Char → Option (List (String × Json) × List Char)
  | 0, _ => none
  | budget + 1, s =>
    match skipSpace s with
    | '"' :: rest =>
      match readQuoted [] budget rest with
      | none => none
      | some (name, rest) =>
        match skipSpace rest with
        | ':' :: rest =>
          match readValue depth budget rest with
          | none => none
          | some (v, rest) =>
            match skipSpace rest with
            | '\x7d' :: rest => some ([(name, v)], rest)
            | ',' :: rest =>
              match readMembers depth budget rest with
              | some (ms, rest) => some ((name, v) :: ms, rest)
              | none => none
            | _ => none
        | _ => none
    | _ => none

end

/-- How deep arrays and objects nest. -/
def greatestDepth : Nat := 127

/-- The value that a text holds. -/
def ofText? (text : String) : Option Json :=
  let s := text.toList
  match readValue greatestDepth (2 * s.length + 2) s with
  | some (v, rest) => if (skipSpace rest).isEmpty then some v else none
  | none => none

end Promotions.Json

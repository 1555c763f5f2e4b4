import Promotions.Digits
import Promotions.Text.Shapeless

/-!
# Quoted text

How a text is shown in the wording of an error. The quote and the backslash stand behind a
backslash, line ends, tabs and the null character are shown by a letter or digit, any other
character without a shape of its own by its number in braces, and every character besides by itself.
-/

namespace Promotions.Text

/-- The number of a character, in hexadecimal digits without leading zeros. -/
def charNumber (c : Char) : List Char := (Digits.writeFixed 16 6 c.toNat).dropWhile (· = '0')

/-- A character as it is shown between quotes. -/
def quoteChar (c : Char) : List Char :=
  if c = '"' then ['\\', '"']
  else if c = '\\' then ['\\', '\\']
  else if c = '\n' then ['\\', 'n']
  else if c = '\r' then ['\\', 'r']
  else if c = '\t' then ['\\', 't']
  else if c.toNat = 0 then ['\\', '0']
  else if isShapeless c then '\\' :: 'u' :: '\x7b' :: charNumber c ++ ['\x7d']
  else [c]

/-- A text as it is shown between quotes. -/
def quote (s : String) : String := String.ofList ('"' :: s.toList.flatMap quoteChar ++ ['"'])

end Promotions.Text

/-!
# Text

What the program asks of text: white space cut off at both ends, and capital letters of the ASCII
alphabet made small. Letters outside ASCII are left as they are.
-/

namespace Promotions.Text

/-- White space in the sense of Unicode. -/
def isBlank (c : Char) : Bool :=
  let n := c.toNat
  (9 ≤ n && n ≤ 13) || n == 0x20 || n == 0x85 || n == 0xA0 || n == 0x1680 ||
    (0x2000 ≤ n && n ≤ 0x200A) || n == 0x2028 || n == 0x2029 || n == 0x202F || n == 0x205F ||
    n == 0x3000

/-- The characters from the first to the last that is not blank. -/
def trimChars (s : List Char) : List Char :=
  ((s.dropWhile isBlank).reverse.dropWhile isBlank).reverse

/-- A text without the white space at its ends. -/
def trim (s : String) : String := String.ofList (trimChars s.toList)

/-- A text with its ASCII capitals made small. -/
def lower (s : String) : String := String.ofList (s.toList.map Char.toLower)

/-- The form in which channels, tiers and payment methods are compared: trimmed and in small
letters. -/
def canonical (s : String) : String := lower (trim s)

/-- Two texts are the same but for the case of ASCII letters. -/
def sameIgnoringCase (s t : String) : Bool :=
  s.toList.map Char.toLower == t.toList.map Char.toLower

theorem sameIgnoringCase_iff {s t : String} :
    sameIgnoringCase s t = true ↔ lower s = lower t := by
  rw [sameIgnoringCase, beq_iff_eq, lower, lower, String.ofList_inj]

end Promotions.Text

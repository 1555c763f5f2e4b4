/-!
# Counts

Quantities, usage counters and day counts are thirty-two-bit counts. A count that would grow past
the greatest one stays there.
-/

namespace Promotions

/-- A number of units, uses or days. -/
abbrev Count := UInt32

namespace Count

/-- The greatest count. -/
def greatest : Count := 4294967295

/-- The count nearest to `n`. -/
def saturate (n : Nat) : Count :=
  if h : n < UInt32.size then UInt32.ofNatLT n h else greatest

theorem toNat_saturate (n : Nat) : (saturate n).toNat = min n 4294967295 := by
  unfold saturate
  split
  · rename_i h
    have hlt : n < 4294967296 := h
    simp; omega
  · rename_i h
    have hle : ¬n < 4294967296 := h
    simp [greatest]; omega

/-- The sum of two counts, or the greatest count. -/
def addSat (a b : Count) : Count := saturate (a.toNat + b.toNat)

/-- The product of two counts, or the greatest count. -/
def mulSat (a b : Count) : Count := saturate (a.toNat * b.toNat)

/-- The sum of a list of counts, or the greatest count. -/
def sum (counts : List Count) : Count := counts.foldl addSat 0

/-- `n` where it is set and not zero. -/
def positive? : Option Count → Option Count
  | some n => if n = 0 then none else some n
  | none => none

end Count

end Promotions

/-!
# Rounding

An integer divided by a power of ten, or a ratio of natural numbers, brought to a whole number. A
result in the middle between two whole numbers goes to the even one or away from zero.
-/

namespace Promotions.Rounding

/-- Which way a result goes that lies in the middle between two whole numbers. -/
inductive Tie where
  /-- To the even neighbour. -/
  | toEven
  /-- To the neighbour farther from zero. -/
  | awayFromZero
  deriving DecidableEq, Repr

/-- The whole number nearest to `num / den`. -/
def nearest (tie : Tie) (num den : Nat) : Nat :=
  let q := num / den
  let r := num % den
  if den < 2 * r then q + 1
  else if 2 * r = den then
    match tie with
    | .toEven => q + q % 2
    | .awayFromZero => q + 1
  else q

/-- The integer nearest to `c / 10 ^ places`. -/
def shiftRight (tie : Tie) (c : Int) (places : Nat) : Int :=
  c.sign * nearest tie c.natAbs (Nat.pow 10 places)

theorem nearest_le (tie : Tie) (num : Nat) {den : Nat} (h : 2 ≤ den) :
    nearest tie num den ≤ num := by
  have hd := Nat.div_add_mod num den
  have hr := Nat.mod_lt num (by omega : 0 < den)
  have hm : 2 * (num / den) ≤ den * (num / den) := Nat.mul_le_mul_right _ h
  have hq : num / den + num % den ≤ num := by omega
  have hodd := Nat.mod_le (num / den) 2
  simp only [nearest]
  split
  · omega
  · split
    · cases tie <;> simp only <;> omega
    · omega

theorem natAbs_shiftRight_le (tie : Tie) (c : Int) {places : Nat} (h : 0 < places) :
    (shiftRight tie c places).natAbs ≤ c.natAbs := by
  have h2 : 2 ≤ Nat.pow 10 places := by
    calc 2 ≤ Nat.pow 10 1 := by decide
      _ ≤ Nat.pow 10 places := Nat.pow_le_pow_right (by decide) h
  have hle := nearest_le tie c.natAbs h2
  rw [shiftRight, Int.natAbs_mul, Int.natAbs_natCast]
  rcases Int.lt_trichotomy c 0 with hc | hc | hc
  · simpa [Int.sign_eq_neg_one_of_neg hc] using hle
  · simp [hc]
  · simpa [Int.sign_eq_one_of_pos hc] using hle

end Promotions.Rounding

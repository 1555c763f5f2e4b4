import Mathlib.Algebra.Order.Ring.Int
import Mathlib.Tactic.Positivity
import Mathlib.Tactic.Ring
import Promotions.Decimal.Percent
import Promotions.Proofs.Compile.Settings

/-!
# Proofs: percentages of amounts

A percentage of an amount always is an amount. It lies between nothing and the whole, as the exact
share does: a number that is rounded does not pass a whole number on its way, however many places
are kept, so neither rounding to the places that fit nor rounding to whole minor units leads out.
-/

namespace Promotions

namespace Rounding

/-- The number lies between zero and `whole`, on whichever side of zero that is. -/
def IsPartOf (part whole : Int) : Prop := 0 ≤ part ∧ part ≤ whole ∨ whole ≤ part ∧ part ≤ 0

theorem IsPartOf.natAbs_le {part whole : Int} (h : IsPartOf part whole) :
    part.natAbs ≤ whole.natAbs := by
  rcases h with h | h <;> omega

/-- Rounding does not pass a whole number. -/
theorem nearest_le_of_le (tie : Tie) {num den bound : Nat} (hden : 0 < den)
    (h : num ≤ bound * den) : nearest tie num den ≤ bound := by
  have hdiv : den * (num / den) + num % den = num := Nat.div_add_mod num den
  have hquotient : num / den ≤ bound := Nat.div_le_of_le_mul (by rwa [Nat.mul_comm])
  rcases Nat.lt_or_eq_of_le hquotient with hlt | hexact
  · have hodd := Nat.mod_le (num / den) 2
    simp only [nearest]
    split
    · omega
    · split
      · cases tie <;> simp only <;> omega
      · omega
  · -- nothing is left to round
    have hrest : num % den = 0 := by
      rw [hexact, Nat.mul_comm] at hdiv
      omega
    have hnot : ¬den < 2 * (num % den) := by omega
    have hno : ¬2 * (num % den) = den := by omega
    simp only [nearest]
    rw [if_neg hnot, if_neg hno, hexact]

theorem shiftRight_isPartOf (tie : Tie) {c whole : Int} {places : Nat}
    (h : IsPartOf c (whole * 10 ^ places)) : IsPartOf (shiftRight tie c places) whole := by
  have hden : 0 < Nat.pow 10 places := Nat.pow_pos (by decide)
  have hpow : ((Nat.pow 10 places : Nat) : Int) = 10 ^ places := Int.natCast_pow 10 places
  have hbound : c.natAbs ≤ whole.natAbs * Nat.pow 10 places := by
    have hle := h.natAbs_le
    rwa [← hpow, Int.natAbs_mul, Int.natAbs_natCast] at hle
  have hnearest := nearest_le_of_le tie hden hbound
  have hpos : (0 : Int) < 10 ^ places := by positivity
  rw [shiftRight]
  rcases Int.lt_trichotomy c 0 with hc | rfl | hc
  · have hneg : whole * 10 ^ places < 0 := by rcases h with h | h <;> omega
    have hwhole : whole < 0 := Int.neg_of_mul_neg_left hneg hpos
    rw [Int.sign_eq_neg_one_of_neg hc]
    exact .inr (by omega)
  · rw [Int.sign_zero, Int.zero_mul]
    exact (Int.le_total 0 whole).imp (fun h => ⟨Int.le_refl 0, h⟩) fun h => ⟨h, Int.le_refl 0⟩
  · have hproduct : 0 < whole * 10 ^ places := by rcases h with h | h <;> omega
    have hwhole : 0 < whole := pos_of_mul_pos_left hproduct (Int.le_of_lt hpos)
    rw [Int.sign_eq_one_of_pos hc]
    exact .inl (by omega)

end Rounding

namespace Decimal

open Rounding

theorem ofParts?_eq_some {coefficient : Int} {scale : Nat} {d : Decimal}
    (h : ofParts? coefficient scale = some d) : d.coefficient = coefficient ∧ d.scale = scale := by
  unfold ofParts? at h
  split at h
  · cases h
    exact ⟨rfl, rfl⟩
  · cases h

/-- A part of a whole number that fits can be rounded so that it fits, and then it still is one. -/
theorem fitAt_isPartOf {coefficient whole : Int} {scale places : Nat}
    (h : IsPartOf coefficient (whole * 10 ^ scale)) (hplaces : places ≤ scale)
    (hwhole : whole.natAbs < 79228162514264337593543950336) :
    ∃ d, fitAt coefficient scale places = some d ∧
      IsPartOf d.coefficient (whole * 10 ^ d.scale) := by
  have hround (places : Nat) (hplaces : places ≤ scale) :
      IsPartOf (shiftRight .toEven coefficient (scale - places)) (whole * 10 ^ places) := by
    refine shiftRight_isPartOf _ ?_
    rwa [Int.mul_assoc, ← Int.pow_add, Nat.add_sub_cancel' hplaces]
  induction places with
  | zero =>
    have hpart := hround 0 hplaces
    rw [Int.pow_zero, Int.mul_one] at hpart
    have hfits := Nat.lt_of_le_of_lt hpart.natAbs_le hwhole
    refine ⟨⟨_, 0, hfits, by decide⟩, dif_pos ⟨hfits, by decide⟩, ?_⟩
    rwa [Int.pow_zero, Int.mul_one]
  | succ places ih =>
    rw [fitAt]
    split
    · rename_i d hd
      obtain ⟨hcoefficient, hscale⟩ := ofParts?_eq_some hd
      exact ⟨d, rfl, by rw [hcoefficient, hscale]; exact hround _ hplaces⟩
    · exact ih (Nat.le_of_succ_le hplaces)

theorem IsPositivePercentage.isPercentage {points : Decimal} (h : points.IsPositivePercentage) :
    points.IsPercentage :=
  ⟨zero_le_iff.2 (Int.le_of_lt (zero_lt_iff.1 h.pos)), h.le_hundred⟩

/-- A hundredth of at most one hundred is at most one. -/
theorem IsPercentage.hundredth {points : Decimal} (h : points.IsPercentage) :
    0 ≤ points.hundredth.coefficient ∧
      points.hundredth.coefficient ≤ 10 ^ points.hundredth.scale := by
  have hnonneg := zero_le_iff.1 h.nonneg
  have hle : points.coefficient ≤ 100 * 10 ^ points.scale := by
    have hhundred := le_iff.1 h.le_hundred
    rwa [hundred, Int.pow_zero, Int.mul_one] at hhundred
  rw [Decimal.hundredth]
  split
  · refine ⟨hnonneg, Int.le_trans hle (Int.le_of_eq ?_)⟩
    dsimp only
    ring
  · rename_i hmany
    have hpart : IsPartOf points.coefficient (10 ^ 28 * 10 ^ (points.scale - 26)) := by
      refine .inl ⟨hnonneg, Int.le_trans hle (Int.le_of_eq ?_)⟩
      rw [← Int.pow_add, show 28 + (points.scale - 26) = points.scale + 2 by omega]
      ring
    rcases shiftRight_isPartOf .toEven hpart with hrange | hrange
    · exact hrange
    · exact absurd (Int.le_trans hrange.1 hrange.2) (by decide)

/-- Of an amount there is every percentage, and it is a part of the amount. -/
theorem percentOf_isPartOf {points : Decimal} (h : points.IsPercentage) (base : Amount) :
    ∃ share, points.percentOf base = .ok share ∧ IsPartOf share.toInt base.toInt := by
  obtain ⟨hnonneg, hle⟩ := h.hundredth
  have hbase : base.toInt.natAbs < 79228162514264337593543950336 := by
    have hlower := base.lower
    have hupper := base.upper
    omega
  have hproduct : IsPartOf (points.hundredth.coefficient * base.toInt)
      (base.toInt * 10 ^ points.hundredth.scale) := by
    rw [Int.mul_comm _ base.toInt]
    rcases Int.le_total 0 base.toInt with hbase | hbase
    · exact .inl ⟨Int.mul_nonneg hbase hnonneg, Int.mul_le_mul_of_nonneg_left hle hbase⟩
    · exact .inr ⟨Int.mul_le_mul_of_nonpos_left hbase hle,
        Int.mul_nonpos_of_nonpos_of_nonneg hbase hnonneg⟩
  obtain ⟨product, hfits, hpart⟩ :=
    fitAt_isPartOf hproduct (Nat.min_le_left _ 28) hbase
  have hround : IsPartOf product.round base.toInt := shiftRight_isPartOf _ hpart
  obtain ⟨share, hshare⟩ : ∃ share, Amount.ofInt? product.round = some share := by
    refine Option.ne_none_iff_exists'.1 fun hnone => ?_
    have hout := Amount.ofInt?_eq_none_iff.1 hnone
    have hlower := base.lower
    have hupper := base.upper
    rcases hround with hround | hround <;> omega
  refine ⟨share, ?_, ?_⟩
  · simp only [percentOf, fit?, hfits, hshare]
  · rw [Amount.ofInt?_eq_some_iff.1 hshare]
    exact hround

end Decimal

end Promotions

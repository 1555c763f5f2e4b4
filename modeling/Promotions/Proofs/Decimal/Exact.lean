import Mathlib.Algebra.Order.Floor.Ring
import Mathlib.Data.Rat.Floor
import Mathlib.Tactic.FieldSimp
import Mathlib.Tactic.Linarith
import Promotions.Proofs.Decimal.Percent

/-!
# Proofs: percentages of few places are exact

A hundredth of a percentage is a number of at most twenty-eight places, and its product with an
amount need not fit ninety-six bits, so the product is rounded before it is brought to whole minor
units. A percentage of at most six places leaves no room for that: its product with any amount has
eight places, which fit, and only the last step rounds. So a larger amount or a larger percentage
never comes to less.
-/

namespace Promotions

namespace Rounding

/-- The whole number nearest to a ratio; a tie goes away from zero. -/
def away (x : ℚ) : ℤ := if 0 ≤ x then ⌊x + 1 / 2⌋ else ⌈x - 1 / 2⌉

theorem away_mono {x y : ℚ} (h : x ≤ y) : away x ≤ away y := by
  unfold away
  by_cases hx : 0 ≤ x
  · have hy : 0 ≤ y := hx.trans h
    rw [if_pos hx, if_pos hy]
    exact Int.floor_le_floor (by linarith)
  · rw [if_neg hx]
    by_cases hy : 0 ≤ y
    · -- zero is between them
      have hleft : ⌈x - 1 / 2⌉ ≤ 0 := Int.ceil_le.2 (by push_cast; linarith)
      have hright : 0 ≤ ⌊y + 1 / 2⌋ := Int.floor_nonneg.2 (by linarith)
      rw [if_pos hy]
      exact hleft.trans hright
    · rw [if_neg hy]
      exact Int.ceil_le_ceil (by linarith)

theorem away_neg {x : ℚ} (h : 0 < x) : away (-x) = -away x := by
  have hneg : ¬0 ≤ -x := by linarith
  unfold away
  rw [if_neg hneg, if_pos h.le, ← Int.ceil_neg]
  congr 1
  ring

theorem away_natCast_add (q : Nat) {x : ℚ} (hnonneg : 0 ≤ x) (hone : x < 1) :
    away (q + x) = if 1 / 2 ≤ x then q + 1 else q := by
  have hq : (0 : ℚ) ≤ q := by positivity
  unfold away
  rw [if_pos (by linarith), Int.floor_eq_iff]
  by_cases hhalf : 1 / 2 ≤ x
  · rw [if_pos hhalf]
    push_cast
    constructor <;> linarith
  · rw [if_neg hhalf]
    push_cast
    constructor <;> linarith

theorem nearest_awayFromZero (num : Nat) {den : Nat} (hden : 0 < den) :
    (nearest .awayFromZero num den : ℤ) = away ((num : ℚ) / den) := by
  have hpos : (0 : ℚ) < den := by exact_mod_cast hden
  have hsplit : (num : ℚ) / den = (num / den : Nat) + ((num % den : Nat) : ℚ) / den := by
    have hcast : (num : ℚ) = den * (num / den : Nat) + (num % den : Nat) := by
      exact_mod_cast (Nat.div_add_mod num den).symm
    rw [div_eq_iff hpos.ne', add_mul, div_mul_cancel₀ _ hpos.ne', mul_comm, ← hcast]
  have hrest : ((num % den : Nat) : ℚ) / den < 1 := by
    rw [div_lt_one hpos]
    exact_mod_cast Nat.mod_lt num hden
  have hhalf : 1 / 2 ≤ ((num % den : Nat) : ℚ) / den ↔ den ≤ 2 * (num % den) := by
    rw [div_le_div_iff₀ two_pos hpos, one_mul, mul_comm]
    exact_mod_cast Iff.rfl
  rw [hsplit, away_natCast_add _ (by positivity) hrest]
  simp only [hhalf, nearest]
  split_ifs <;> omega

theorem shiftRight_awayFromZero (c : Int) (places : Nat) :
    shiftRight .awayFromZero c places = away ((c : ℚ) / 10 ^ places) := by
  have hden : 0 < Nat.pow 10 places := Nat.pow_pos (by decide)
  have hpow : ((Nat.pow 10 places : Nat) : ℚ) = 10 ^ places := by
    rw [Nat.pow_eq]
    push_cast
    rfl
  have hnearest := nearest_awayFromZero c.natAbs hden
  rw [hpow] at hnearest
  unfold shiftRight
  rw [hnearest]
  rcases Int.lt_trichotomy c 0 with hc | rfl | hc
  · have habs : ((c.natAbs : Nat) : ℚ) = -(c : ℚ) := by
      rw [Nat.cast_natAbs, abs_of_neg hc, Int.cast_neg]
    have hpos : (0 : ℚ) < -(c : ℚ) / 10 ^ places := by
      have hcast : (c : ℚ) < 0 := by exact_mod_cast hc
      exact div_pos (by linarith) (by positivity)
    have hneg : (c : ℚ) / 10 ^ places = -(-(c : ℚ) / 10 ^ places) := by ring
    rw [Int.sign_eq_neg_one_of_neg hc, habs, hneg, away_neg hpos]
    ring
  · rw [Int.sign_zero, Int.zero_mul]
    norm_num [away]
  · have habs : ((c.natAbs : Nat) : ℚ) = (c : ℚ) := by
      rw [Nat.cast_natAbs, abs_of_pos hc]
    rw [Int.sign_eq_one_of_pos hc, habs, Int.one_mul]

/-- What is no more than zeros is taken off without rounding. -/
theorem shiftRight_mul_pow (tie : Tie) (v : Int) (places : Nat) :
    shiftRight tie (v * 10 ^ places) places = v := by
  have hden : 0 < Nat.pow 10 places := Nat.pow_pos (by decide)
  have hpow : ((10 : Int) ^ places).natAbs = Nat.pow 10 places := by
    rw [Int.natAbs_pow]
    rfl
  have hsign : ((10 : Int) ^ places).sign = 1 := Int.sign_eq_one_of_pos (by positivity)
  have hnearest : nearest tie (v.natAbs * Nat.pow 10 places) (Nat.pow 10 places) = v.natAbs := by
    have hquotient : v.natAbs * Nat.pow 10 places / Nat.pow 10 places = v.natAbs :=
      Nat.mul_div_cancel _ hden
    have hrest : v.natAbs * Nat.pow 10 places % Nat.pow 10 places = 0 := Nat.mul_mod_left _ _
    simp only [nearest]
    rw [hrest, hquotient, if_neg (by omega), if_neg (by omega)]
  unfold shiftRight
  rw [Int.natAbs_mul, hpow, hnearest, Int.sign_mul, hsign, Int.mul_one, Int.sign_mul_natAbs]

end Rounding

namespace Decimal

open Rounding

/-- The number. -/
def value (d : Decimal) : ℚ := d.coefficient / 10 ^ d.scale

/-- The number has no more places than that, zeros at the end apart. -/
def FitsPlaces (d : Decimal) (places : Nat) : Prop := ∃ k : ℤ, d.value = k / 10 ^ places

theorem le_iff_value_le {a b : Decimal} : a ≤ b ↔ a.value ≤ b.value := by
  have ha : (0 : ℚ) < 10 ^ a.scale := by positivity
  have hb : (0 : ℚ) < 10 ^ b.scale := by positivity
  unfold value
  rw [le_iff, div_le_div_iff₀ ha hb]
  exact_mod_cast Iff.rfl

theorem IsPercentage.value_bounds {points : Decimal} (h : points.IsPercentage) :
    0 ≤ points.value ∧ points.value ≤ 100 := by
  have hzero : Decimal.zero.value = 0 := by norm_num [value, zero]
  have hhundred : Decimal.hundred.value = 100 := by norm_num [value, hundred]
  exact ⟨hzero ▸ le_iff_value_le.1 h.nonneg, hhundred ▸ le_iff_value_le.1 h.le_hundred⟩

theorem round_eq_away (d : Decimal) : d.round = away d.value :=
  shiftRight_awayFromZero d.coefficient d.scale

/-- The digits of a number that has fewer places end with zeros. -/
theorem coefficient_of_value {d : Decimal} {k : ℤ} {places : Nat} (h : d.value = k / 10 ^ places)
    (hplaces : places ≤ d.scale) : d.coefficient = k * 10 ^ (d.scale - places) := by
  have hscale : d.scale = places + (d.scale - places) := by omega
  have hpos : (10 : ℚ) ^ places ≠ 0 := by positivity
  unfold value at h
  rw [div_eq_div_iff (by positivity) hpos, hscale, pow_add, mul_left_comm, mul_comm] at h
  exact_mod_cast mul_left_cancel₀ hpos h

/-- As many places as the number has can be kept, so a hundredth of it is exact. -/
theorem value_hundredth {points : Decimal} (h : points.FitsPlaces 26) :
    points.hundredth.value = points.value / 100 := by
  obtain ⟨k, hk⟩ := h
  unfold hundredth
  by_cases hfew : points.scale ≤ 26
  · rw [dif_pos hfew]
    unfold value
    dsimp only
    rw [pow_add, div_div]
    norm_num
  · have hcoefficient := coefficient_of_value hk (by omega)
    rw [dif_neg hfew, hk]
    unfold value
    dsimp only
    rw [hcoefficient, shiftRight_mul_pow, div_div]
    norm_num

/-- A number that fits at some places is kept as it is, at these or at more. -/
theorem fitAt_exact {coefficient v : Int} {scale least places : Nat}
    (hexact : coefficient = v * 10 ^ (scale - least))
    (hfits : v.natAbs < 79228162514264337593543950336) (hleast : least ≤ places)
    (hplaces : places ≤ scale) (hmost : places ≤ 28) :
    ∃ d, fitAt coefficient scale places = some d ∧ d.value = coefficient / 10 ^ scale := by
  have hshift (p : Nat) (hp : least ≤ p) (hp' : p ≤ scale) :
      shiftRight .toEven coefficient (scale - p) = v * 10 ^ (p - least) := by
    have hsplit : scale - least = (p - least) + (scale - p) := by omega
    rw [hexact, hsplit, pow_add, ← mul_assoc, shiftRight_mul_pow]
  have hvalue (p : Nat) (hp : least ≤ p) (hp' : p ≤ scale) {d : Decimal}
      (hd : ofParts? (shiftRight .toEven coefficient (scale - p)) p = some d) :
      d.value = coefficient / 10 ^ scale := by
    obtain ⟨hcoefficient, hscale⟩ := ofParts?_eq_some hd
    have hsplit : scale = p + (scale - p) := by omega
    have hpow : coefficient = v * 10 ^ (p - least) * 10 ^ (scale - p) := by
      rw [hexact, mul_assoc, ← pow_add]
      congr 2
      omega
    unfold value
    rw [hcoefficient, hscale, hshift p hp hp', div_eq_div_iff (by positivity) (by positivity)]
    conv_lhs => rw [hsplit, pow_add]
    rw [hpow]
    push_cast
    ring
  induction places with
  | zero =>
    have hnone : least = 0 := by omega
    have hround : shiftRight .toEven coefficient scale = v := by
      have hall := hshift 0 (by omega) (by omega)
      rwa [hnone, pow_zero, mul_one, Nat.sub_zero] at hall
    refine ⟨⟨v, 0, hfits, by decide⟩, ?_, hvalue 0 (by omega) (by omega) ?_⟩
    · rw [fitAt, hround]
      exact dif_pos ⟨hfits, by decide⟩
    · rw [Nat.sub_zero, hround]
      exact dif_pos ⟨hfits, by decide⟩
  | succ places ih =>
    rw [fitAt]
    split
    · rename_i d hd
      exact ⟨d, rfl, hvalue _ hleast hplaces hd⟩
    · rename_i hnone
      -- at the fewest places the number does fit
      have hmore : least ≠ places + 1 := by
        intro heq
        rw [hshift _ hleast hplaces, heq, Nat.sub_self, pow_zero, mul_one] at hnone
        rw [ofParts?, dif_pos ⟨hfits, hmost⟩] at hnone
        cases hnone
      exact ih (by omega) (by omega) (by omega)

/-- At eight places, or as many as there are, the product of a hundredth of a percentage with an
amount has few digits, if the percentage has at most six. -/
theorem exists_hundredth_mul {points : Decimal} (h : points.IsPercentage)
    (hplaces : points.FitsPlaces 6) (base : Amount) :
    ∃ least v, least ≤ points.hundredth.scale ∧
      points.hundredth.coefficient * base.toInt = v * 10 ^ (points.hundredth.scale - least) ∧
      v.natAbs < 79228162514264337593543950336 := by
  have hbase : base.toInt.natAbs ≤ 9223372036854775808 := by
    have hlower := base.lower
    have hupper := base.upper
    omega
  -- a hundredth has at most nine digits, the one before the point included
  have hdigits {c : Int} (hc : c.natAbs ≤ 10 ^ 8) :
      (c * base.toInt).natAbs < 79228162514264337593543950336 := by
    rw [Int.natAbs_mul]
    calc c.natAbs * base.toInt.natAbs
        ≤ 10 ^ 8 * 9223372036854775808 := Nat.mul_le_mul hc hbase
      _ < 79228162514264337593543950336 := by norm_num
  by_cases hfew : points.hundredth.scale ≤ 8
  · obtain ⟨hnonneg, hle⟩ := h.hundredth
    have hpow : (10 : ℤ) ^ points.hundredth.scale ≤ 10 ^ 8 :=
      pow_le_pow_right₀ (by norm_num) hfew
    exact ⟨_, _, le_rfl, by rw [Nat.sub_self, pow_zero, mul_one], hdigits (by omega)⟩
  · obtain ⟨k, hk⟩ := hplaces
    have hvalue : points.hundredth.value = k / 10 ^ 8 := by
      rw [value_hundredth ⟨k * 10 ^ 20, by rw [hk]; push_cast; ring⟩, hk]
      ring
    have hk' : k.natAbs ≤ 10 ^ 8 := by
      obtain ⟨hnonneg, hle⟩ := h.value_bounds
      rw [hk] at hnonneg hle
      have hlower : (0 : ℚ) ≤ k := by linarith
      have hupper : (k : ℚ) ≤ 10 ^ 8 := by linarith
      have hlower' : 0 ≤ k := by exact_mod_cast hlower
      have hupper' : k ≤ 10 ^ 8 := by exact_mod_cast hupper
      omega
    refine ⟨8, k * base.toInt, by omega, ?_, hdigits hk'⟩
    rw [coefficient_of_value hvalue (by omega)]
    ring

theorem fit?_hundredth_mul {points : Decimal} (h : points.IsPercentage)
    (hplaces : points.FitsPlaces 6) (base : Amount) :
    ∃ product, fit? (points.hundredth.coefficient * base.toInt) points.hundredth.scale =
        some product ∧ product.value = points.value * base.toInt / 100 := by
  have hscale : points.hundredth.scale ≤ 28 := points.hundredth.scale_le
  have hmin : min points.hundredth.scale 28 = points.hundredth.scale := by omega
  have hvalue : points.hundredth.value = points.value / 100 := by
    obtain ⟨k, hk⟩ := hplaces
    exact value_hundredth ⟨k * 10 ^ 20, by rw [hk]; push_cast; ring⟩
  obtain ⟨least, v, hleast, hexact, hfits⟩ := exists_hundredth_mul h hplaces base
  obtain ⟨product, hfit, hproduct⟩ := fitAt_exact hexact hfits hleast le_rfl hscale
  refine ⟨product, by rw [fit?, hmin, hfit], ?_⟩
  have hdef : points.hundredth.value =
    points.hundredth.coefficient / 10 ^ points.hundredth.scale := rfl
  rw [hproduct, Int.cast_mul, mul_div_right_comm, ← hdef, hvalue]
  ring

/-- A percentage of few places is exact up to whole minor units. -/
theorem percentOf_eq_away {points : Decimal} (h : points.IsPercentage)
    (hplaces : points.FitsPlaces 6) {base share : Amount}
    (hshare : points.percentOf base = .ok share) :
    share.toInt = away (points.value * base.toInt / 100) := by
  obtain ⟨product, hfit, hvalue⟩ := fit?_hundredth_mul h hplaces base
  unfold percentOf at hshare
  dsimp only at hshare
  rw [hfit] at hshare
  dsimp only at hshare
  cases hround : Amount.ofInt? product.round with
  | none =>
    rw [hround] at hshare
    cases hshare
  | some amount =>
    rw [hround] at hshare
    obtain rfl := Except.ok.inj hshare
    rw [Amount.ofInt?_eq_some_iff.1 hround, round_eq_away, hvalue]

/-- Of more there is no less. -/
theorem percentOf_mono_base {points : Decimal} (h : points.IsPercentage)
    (hplaces : points.FitsPlaces 6) {base base' share share' : Amount} (hle : base ≤ base')
    (hshare : points.percentOf base = .ok share) (hshare' : points.percentOf base' = .ok share') :
    share ≤ share' := by
  have hcast : (base.toInt : ℚ) ≤ base'.toInt := by exact_mod_cast Amount.le_iff.1 hle
  have hmul := mul_le_mul_of_nonneg_left hcast h.value_bounds.1
  rw [Amount.le_iff, percentOf_eq_away h hplaces hshare, percentOf_eq_away h hplaces hshare']
  exact away_mono (by linarith)

/-- More of what is not negative is no less. -/
theorem percentOf_mono_points {points points' : Decimal} (h : points.IsPercentage)
    (hplaces : points.FitsPlaces 6) (h' : points'.IsPercentage) (hplaces' : points'.FitsPlaces 6)
    (hle : points ≤ points') {base share share' : Amount} (hbase : 0 ≤ base)
    (hshare : points.percentOf base = .ok share) (hshare' : points'.percentOf base = .ok share') :
    share ≤ share' := by
  have hcast : (0 : ℚ) ≤ base.toInt := by exact_mod_cast Amount.le_iff.1 hbase
  have hmul := mul_le_mul_of_nonneg_right (le_iff_value_le.1 hle) hcast
  rw [Amount.le_iff, percentOf_eq_away h hplaces hshare, percentOf_eq_away h' hplaces' hshare']
  exact away_mono (by linarith)

/-- Every percentage of an amount is a part of it. A percentage of at most six places is exact up to
whole minor units, so a greater amount comes to no less, and neither does a greater percentage of
what is not negative. -/
theorem percentOf_rounds {points : Decimal} (h : points.IsPercentage) (base : Amount) :
    ∃ share, points.percentOf base = .ok share ∧ IsPartOf share.toInt base.toInt ∧
      (points.FitsPlaces 6 →
        share.toInt = away (points.value * base.toInt / 100) ∧
        (∀ base' share', base ≤ base' → points.percentOf base' = .ok share' → share ≤ share') ∧
        ∀ points' share', points'.IsPercentage → points'.FitsPlaces 6 → points ≤ points' →
          0 ≤ base → points'.percentOf base = .ok share' → share ≤ share') := by
  obtain ⟨share, hshare, hpart⟩ := percentOf_isPartOf h base
  refine ⟨share, hshare, hpart, fun hplaces => ⟨?_, ?_, ?_⟩⟩
  · exact percentOf_eq_away h hplaces hshare
  · intro base' share' hle hshare'
    exact percentOf_mono_base h hplaces hle hshare hshare'
  · intro points' share' h' hplaces' hle hbase hshare'
    exact percentOf_mono_points h hplaces h' hplaces' hle hbase hshare hshare'

end Decimal

/-- Twelve and a half percent. -/
def Sample.eighth : Decimal := ⟨125, 1, by decide, by decide⟩

/-- An eighth of one hundred is twelve and a half, which becomes thirteen. -/
theorem Decimal.percentOf_rounds_eighth :
    Sample.eighth.IsPercentage ∧ Sample.eighth.FitsPlaces 6 ∧
      ∃ share, Sample.eighth.percentOf (.saturate 100) = .ok share ∧
        Rounding.IsPartOf share.toInt 100 ∧ share.toInt = 13 := by
  have hpercentage : Sample.eighth.IsPercentage := ⟨by decide, by decide⟩
  have hplaces : Sample.eighth.FitsPlaces 6 := ⟨12500000, by norm_num [value, Sample.eighth]⟩
  have haway : Rounding.away (Sample.eighth.value * (Amount.saturate 100).toInt / 100) = 13 := by
    have hbase : (Amount.saturate 100).toInt = 100 := rfl
    rw [hbase]
    norm_num [value, Sample.eighth, Rounding.away]
  obtain ⟨share, hshare, hpart, hexact⟩ := percentOf_rounds hpercentage (.saturate 100)
  exact ⟨hpercentage, hplaces, share, hshare, hpart, (hexact hplaces).1.trans haway⟩

end Promotions

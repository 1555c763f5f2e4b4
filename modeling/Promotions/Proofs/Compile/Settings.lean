import Mathlib.Algebra.Order.Ring.Int
import Mathlib.Tactic.Positivity
import Mathlib.Tactic.Ring
import Promotions.Compile.Setting
import Promotions.Proofs.Fallible

/-!
# Proofs: settings that are accepted

What is known of the value of a setting once its check has let it pass: an amount is not negative or
is positive, percent points are between zero and one hundred, and a name is in the form in which
names are compared. Taking zeros off the places of percent points does not change their value, so
the bounds that were checked before hold afterwards.
-/

namespace Promotions

open Fallible

/-! ## Percent points -/

namespace Decimal

theorem le_iff {a b : Decimal} :
    a ≤ b ↔ a.coefficient * 10 ^ b.scale ≤ b.coefficient * 10 ^ a.scale := by
  have hpow : ∀ n, ((Nat.pow 10 n : Nat) : Int) = 10 ^ n := fun n => Int.natCast_pow 10 n
  show a.coefficient * (Nat.pow 10 b.scale : Nat) ≤ b.coefficient * (Nat.pow 10 a.scale : Nat) ↔ _
  rw [hpow, hpow]

theorem lt_iff {a b : Decimal} :
    a < b ↔ a.coefficient * 10 ^ b.scale < b.coefficient * 10 ^ a.scale := by
  have hpow : ∀ n, ((Nat.pow 10 n : Nat) : Int) = 10 ^ n := fun n => Int.natCast_pow 10 n
  show a.coefficient * (Nat.pow 10 b.scale : Nat) < b.coefficient * (Nat.pow 10 a.scale : Nat) ↔ _
  rw [hpow, hpow]

theorem not_lt {a b : Decimal} : ¬a < b ↔ b ≤ a := by
  rw [lt_iff, le_iff, Int.not_lt]

theorem zero_lt_iff {d : Decimal} : .zero < d ↔ 0 < d.coefficient := by
  simp [lt_iff, zero]

theorem zero_le_iff {d : Decimal} : .zero ≤ d ↔ 0 ≤ d.coefficient := by
  simp [le_iff, zero]

/-- As many places are taken off as the digits are divided by tens. -/
theorem stripZeros_spec (coefficient : Int) (scale : Nat) :
    ∃ zeros, (stripZeros coefficient scale).2 + zeros = scale ∧
      (stripZeros coefficient scale).1 * 10 ^ zeros = coefficient := by
  induction scale generalizing coefficient with
  | zero => exact ⟨0, rfl, by simp [stripZeros]⟩
  | succ scale ih =>
    rw [stripZeros]
    split
    · rename_i hends
      obtain ⟨zeros, hscale, hcoefficient⟩ := ih (coefficient.tdiv 10)
      refine ⟨zeros + 1, by omega, ?_⟩
      have hdvd : (10 : Int) ∣ coefficient := by omega
      calc (stripZeros (coefficient.tdiv 10) scale).1 * 10 ^ (zeros + 1)
          = (stripZeros (coefficient.tdiv 10) scale).1 * 10 ^ zeros * 10 := by rw [pow_succ]; ring
        _ = coefficient.tdiv 10 * 10 := by rw [hcoefficient]
        _ = coefficient := Int.tdiv_mul_cancel hdvd
    · exact ⟨0, rfl, by simp⟩

theorem normalize_spec (d : Decimal) : ∃ zeros, d.normalize.scale + zeros = d.scale ∧
    d.normalize.coefficient * 10 ^ zeros = d.coefficient :=
  stripZeros_spec d.coefficient d.scale

theorem normalize_le_iff {d bound : Decimal} : d.normalize ≤ bound ↔ d ≤ bound := by
  obtain ⟨zeros, hscale, hcoefficient⟩ := d.normalize_spec
  have hpos : (0 : Int) < 10 ^ zeros := by positivity
  have hleft : d.normalize.coefficient * 10 ^ zeros * 10 ^ bound.scale =
      d.normalize.coefficient * 10 ^ bound.scale * 10 ^ zeros := by ring
  have hright : bound.coefficient * 10 ^ (d.normalize.scale + zeros) =
      bound.coefficient * 10 ^ d.normalize.scale * 10 ^ zeros := by ring
  rw [le_iff, le_iff, ← hscale, ← hcoefficient, hleft, hright]
  exact (mul_le_mul_iff_left₀ hpos).symm

theorem normalize_coefficient_nonneg_iff {d : Decimal} :
    0 ≤ d.normalize.coefficient ↔ 0 ≤ d.coefficient := by
  obtain ⟨zeros, -, hcoefficient⟩ := d.normalize_spec
  have hpos : (0 : Int) < 10 ^ zeros := by positivity
  rw [← hcoefficient]
  exact (mul_nonneg_iff_of_pos_right hpos).symm

theorem normalize_isZero (d : Decimal) : d.normalize.isZero = d.isZero := by
  obtain ⟨zeros, -, hcoefficient⟩ := d.normalize_spec
  have hpos : (10 : Int) ^ zeros ≠ 0 := by positivity
  rw [isZero, isZero, ← hcoefficient, Bool.eq_iff_iff, beq_iff_eq, beq_iff_eq]
  simp [hpos]

/-- The number of points is at least zero and at most one hundred. -/
structure IsPercentage (d : Decimal) : Prop where
  nonneg : .zero ≤ d
  le_hundred : d ≤ .hundred

/-- The number of points is more than zero and at most one hundred. -/
structure IsPositivePercentage (d : Decimal) : Prop where
  pos : .zero < d
  le_hundred : d ≤ .hundred

theorem isPositivePercentage_hundred : IsPositivePercentage .hundred :=
  ⟨by decide, by decide⟩

theorem IsPercentage.positive {d : Decimal} (h : d.IsPercentage) (hzero : d.isZero = false) :
    d.IsPositivePercentage := by
  refine ⟨?_, h.le_hundred⟩
  have hnonneg := zero_le_iff.1 h.nonneg
  have hne : d.coefficient ≠ 0 := by simpa [isZero] using hzero
  exact zero_lt_iff.2 (by omega)

end Decimal

/-! ## Names -/

namespace Text

theorem isUpper_iff {c : Char} : c.isUpper = true ↔ c.val ≥ 'A'.val ∧ c.val ≤ 'Z'.val :=
  decide_eq_true_iff

theorem toNat_of_isUpper {c : Char} (h : c.isUpper = true) : 65 ≤ c.toNat ∧ c.toNat ≤ 90 := by
  simpa [UInt32.le_iff_toNat_le] using isUpper_iff.1 h

theorem toLower_of_isUpper {c : Char} (h : c.isUpper = true) :
    c.toLower.toNat = c.toNat + 32 := by
  obtain ⟨hlower, hupper⟩ := toNat_of_isUpper h
  have hletter : c.toLower.val = c.val + ('a'.val - 'A'.val) :=
    congrArg Char.val (dif_pos (isUpper_iff.1 h))
  show c.toLower.val.toNat = _
  rw [hletter]
  have hval : c.val.toNat = c.toNat := rfl
  have hgap : ('a'.val - 'A'.val).toNat = 32 := rfl
  rw [UInt32.toNat_add, hgap, hval]
  omega

theorem toLower_of_not_isUpper {c : Char} (h : c.isUpper = false) : c.toLower = c := by
  have hupper : ¬c.isUpper = true := by simp [h]
  exact dif_neg (mt isUpper_iff.2 hupper)

theorem isUpper_toLower (c : Char) : c.toLower.isUpper = false := by
  cases h : c.isUpper with
  | false => rw [toLower_of_not_isUpper h, h]
  | true =>
    have hlower := toLower_of_isUpper h
    obtain ⟨hleast, -⟩ := toNat_of_isUpper h
    cases hupper : c.toLower.isUpper with
    | false => rfl
    | true =>
      obtain ⟨-, hgreatest⟩ := toNat_of_isUpper hupper
      omega

/-- Letters are not blank, in capitals or not. -/
theorem isBlank_toLower (c : Char) : isBlank c.toLower = isBlank c := by
  cases h : c.isUpper with
  | false => rw [toLower_of_not_isUpper h]
  | true =>
    have hlower := toLower_of_isUpper h
    obtain ⟨hleast, hgreatest⟩ := toNat_of_isUpper h
    have hletter : ∀ d : Char, 65 ≤ d.toNat → d.toNat ≤ 122 → isBlank d = false := by
      intro d hd hd'
      simp only [isBlank, Bool.or_eq_false_iff, Bool.and_eq_false_iff, decide_eq_false_iff_not,
        beq_eq_false_iff_ne]
      omega
    rw [hletter c hleast (by omega), hletter c.toLower (by omega) (by omega)]

/-- A list neither starts nor ends with a blank. -/
def IsTrimmed (s : List Char) : Prop :=
  (∀ c, s.head? = some c → isBlank c = false) ∧ ∀ c, s.getLast? = some c → isBlank c = false

theorem head?_dropWhile_isBlank {s : List Char} {c : Char}
    (h : (s.dropWhile isBlank).head? = some c) : isBlank c = false := by
  have hfirst := List.head?_dropWhile_not isBlank s
  rwa [h] at hfirst

theorem isTrimmed_trimChars (s : List Char) : IsTrimmed (trimChars s) := by
  -- cutting at the end leaves a prefix of what is left after cutting at the start
  have hsuffix : (s.dropWhile isBlank).reverse.dropWhile isBlank <:+ (s.dropWhile isBlank).reverse :=
    List.dropWhile_suffix isBlank
  have hprefix : trimChars s <+: s.dropWhile isBlank := by
    have h := List.reverse_prefix.2 hsuffix
    rwa [List.reverse_reverse] at h
  constructor
  · intro c hc
    obtain ⟨rest, hrest⟩ := hprefix
    refine head?_dropWhile_isBlank (s := s) ?_
    rw [← hrest, List.head?_append, hc]
    rfl
  · intro c hc
    rw [trimChars, List.getLast?_reverse] at hc
    exact head?_dropWhile_isBlank hc

/-- The text is not blank, has no blanks at its ends and no capitals of the ASCII alphabet. -/
structure IsCanonical (s : String) : Prop where
  nonempty : s ≠ ""
  trimmed : IsTrimmed s.toList
  lowerCase : ∀ c ∈ s.toList, c.isUpper = false

theorem canonical_eq (s : String) :
    canonical s = String.ofList ((trimChars s.toList).map Char.toLower) := by
  rw [canonical, lower, trim, String.toList_ofList]

theorem isCanonical_canonical {s : String} (h : canonical s ≠ "") : IsCanonical (canonical s) := by
  have htrim := isTrimmed_trimChars s.toList
  have hchars : (canonical s).toList = (trimChars s.toList).map Char.toLower := by
    rw [canonical_eq, String.toList_ofList]
  refine ⟨h, ⟨fun c hc => ?_, fun c hc => ?_⟩, fun c hc => ?_⟩
  · rw [hchars, List.head?_map] at hc
    obtain ⟨d, hd, rfl⟩ := Option.map_eq_some_iff.1 hc
    rw [isBlank_toLower]
    exact htrim.1 d hd
  · rw [hchars, List.getLast?_map] at hc
    obtain ⟨d, hd, rfl⟩ := Option.map_eq_some_iff.1 hc
    rw [isBlank_toLower]
    exact htrim.2 d hd
  · rw [hchars] at hc
    obtain ⟨d, -, rfl⟩ := List.mem_map.1 hc
    exact isUpper_toLower d

end Text

/-! ## Single settings -/

namespace Setting

variable {setting : String}

theorem require_eq_ok_iff {α : Type} {value? : Option α} {value : α} :
    require setting value? = .ok value ↔ value? = some value := by
  cases value? with
  | some a => simp [require]
  | none => simp [require]

theorem nonNegative_eq_ok_iff {value result : Amount} :
    nonNegative setting value = .ok result ↔ 0 ≤ value ∧ value = result := by
  rw [nonNegative]
  split
  · rename_i hneg
    have hlt : ¬0 ≤ value := by
      rw [Amount.le_iff, Int.not_le]
      exact hneg
    simp [hlt]
  · rename_i hneg
    have hle : 0 ≤ value := by
      rw [Amount.le_iff, ← Int.not_lt]
      exact hneg
    simp [hle]

theorem nonneg_of_nonNegative {value result : Amount} (h : nonNegative setting value = .ok result) :
    0 ≤ result := by
  obtain ⟨hnonneg, rfl⟩ := nonNegative_eq_ok_iff.1 h
  exact hnonneg

theorem one_le_iff {n : Count} : 1 ≤ n ↔ n ≠ 0 := by
  rw [UInt32.le_iff_toNat_le, ne_eq, ← UInt32.toNat_inj]
  exact Nat.one_le_iff_ne_zero

theorem one_le_of_atLeastOne {n result : Count} (h : atLeastOne setting n = .ok result) :
    1 ≤ n ∧ n = result := by
  rw [atLeastOne] at h
  split at h
  · cases h
  · rename_i hzero
    exact ⟨one_le_iff.2 hzero, Except.ok.inj h⟩

theorem pos_of_positive? {value? result : Option Amount}
    (h : positive? setting value? = .ok result) : ∀ value, result = some value → 0 < value := by
  rintro value rfl
  cases value? with
  | none => simp [positive?] at h
  | some given =>
    obtain ⟨checked, hchecked, hnonzero⟩ := map_eq_ok_iff.1 h
    obtain ⟨hnonneg, -⟩ := nonNegative_eq_ok_iff.1 hchecked
    obtain ⟨hne, rfl⟩ : ¬given = 0 ∧ given = value := by
      simpa [Amount.nonzero?, (nonNegative_eq_ok_iff.1 hchecked).2] using hnonzero
    rw [← Amount.toInt_inj] at hne
    rw [Amount.le_iff] at hnonneg
    rw [Amount.lt_iff]
    simp only [Amount.toInt_zero] at hne hnonneg ⊢
    omega

theorem isPercentage_of_percentPoints {points result : Decimal}
    (h : percentPoints setting points = .ok result) :
    result.IsPercentage ∧ result.isZero = points.isZero := by
  rw [percentPoints] at h
  split at h
  · cases h
  · rename_i hrange
    obtain rfl := Except.ok.inj h
    obtain ⟨hzero, hhundred⟩ := not_or.1 hrange
    rw [Decimal.not_lt] at hzero hhundred
    refine ⟨⟨?_, Decimal.normalize_le_iff.2 hhundred⟩, points.normalize_isZero⟩
    exact Decimal.zero_le_iff.2 (Decimal.normalize_coefficient_nonneg_iff.2
      (Decimal.zero_le_iff.1 hzero))

theorem nonneg_of_wholeMinor {value : Decimal} {result : Amount}
    (h : wholeMinor setting value = .ok result) : 0 ≤ result := by
  rw [wholeMinor] at h
  split at h
  · split at h
    · exact nonneg_of_nonNegative h
    · cases h
  · cases h

theorem isCanonical_of_mem_canonicalSet {names : List String} {name : String}
    (h : name ∈ canonicalSet names) : Text.IsCanonical name := by
  obtain ⟨hmem, hnonempty⟩ := List.mem_filter.1 (SortedSet.mem_ofList.1 h)
  obtain ⟨given, -, rfl⟩ := List.mem_map.1 hmem
  exact Text.isCanonical_canonical (by simpa using hnonempty)

theorem one_le_of_positive? {n? : Option Count} {n : Count} (h : Count.positive? n? = some n) :
    1 ≤ n := by
  cases n? with
  | none => cases h
  | some given =>
    obtain ⟨hne, rfl⟩ : ¬given = 0 ∧ given = n := by simpa [Count.positive?] using h
    exact one_le_iff.2 hne

theorem one_le_getD_positive? (n? : Option Count) : 1 ≤ (Count.positive? n?).getD 1 := by
  cases h : Count.positive? n? with
  | none => exact UInt32.le_refl 1
  | some n => exact one_le_of_positive? h

end Setting

namespace Promotion

open Setting

variable {p : Promotion}

theorem isPositivePercentage_of_percent? {result : Option Decimal} (h : p.percent? = .ok result) :
    ∀ points, result = some points → points.IsPositivePercentage := by
  rintro points rfl
  rw [percent?] at h
  split at h
  · cases h
  · split at h
    · cases h
    · rename_i hzero
      obtain ⟨checked, hchecked, hsome⟩ := map_eq_ok_iff.1 h
      obtain rfl := Option.some.inj hsome
      obtain ⟨hpercentage, hsame⟩ := isPercentage_of_percentPoints hchecked
      exact hpercentage.positive (by simpa [hsame] using hzero)

theorem weekdays_eq_ok {days : WeekdaySet} (h : p.weekdays = .ok days) :
    days.offsets.Pairwise (· < ·) ∧ ∀ offset ∈ days.offsets, offset ≤ 6 := by
  rw [weekdays] at h
  split at h
  · rename_i days' hdays
    obtain rfl := Except.ok.inj h
    rw [WeekdaySet.ofOffsets] at hdays
    split at hdays
    · cases hdays
    · rename_i hnone
      obtain rfl := Except.ok.inj hdays
      refine ⟨(SortedSet.ofList p.validDays).sorted.imp fun hbefore => ?_, fun offset hmem => ?_⟩
      · exact UInt8.lt_iff_toNat_lt.2 (of_decide_eq_true hbefore)
      · have hle := List.find?_eq_none.1 hnone offset (SortedSet.mem_ofList.1 hmem)
        exact UInt8.not_lt.1 (by simpa using hle)
  · cases h

end Promotion

end Promotions

import Mathlib.Algebra.BigOperators.Group.List.Basic
import Mathlib.Algebra.Order.Ring.Int
import Mathlib.Data.List.Perm.Basic
import Promotions.Eligibility.UnitRuns

/-!
# Proofs: runs of units as single units

Runs stand for the list of the prices of their units, one by one. Taking units from the front of the
runs is taking them from the front of that list, also where a run is used up in part or several runs
are used up.
-/

namespace Promotions.UnitRuns

/-- The prices of the units of runs, one by one. -/
def pricesOf (runs : List UnitRun) : List Int :=
  runs.flatMap fun run => List.replicate run.units run.price.toInt

/-- The prices of the units, one by one. -/
def prices (r : UnitRuns) : List Int := pricesOf r.runs

theorem pricesOf_cons (run : UnitRun) (runs : List UnitRun) :
    pricesOf (run :: runs) = List.replicate run.units run.price.toInt ++ pricesOf runs :=
  List.flatMap_cons

theorem length_pricesOf (runs : List UnitRun) : (pricesOf runs).length = unitsOf runs := by
  induction runs with
  | nil => rfl
  | cons run runs ih =>
    rw [pricesOf_cons, List.length_append, List.length_replicate, ih]
    rfl

theorem length_prices (r : UnitRuns) : r.prices.length = r.units := length_pricesOf r.runs

/-! ## Taking units -/

/-- The units that the first of some runs contributes to `count` units, and what is left to take. -/
theorem take_pricesOf_cons (run : UnitRun) (runs : List UnitRun) (count : Nat) :
    (pricesOf (run :: runs)).take count =
      List.replicate (min run.units count) run.price.toInt ++
        (pricesOf runs).take (count - run.units) := by
  rw [pricesOf_cons, List.take_append, List.take_replicate, List.length_replicate, Nat.min_comm]

theorem drop_pricesOf_cons (run : UnitRun) (runs : List UnitRun) (count : Nat) :
    (pricesOf (run :: runs)).drop count =
      List.replicate (run.units - count) run.price.toInt ++
        (pricesOf runs).drop (count - run.units) := by
  rw [pricesOf_cons, List.drop_append, List.drop_replicate, List.length_replicate]

theorem toInt_paid {total paid price : Amount} {n : Nat}
    (h : (price.times n).bind total.add = .ok paid) :
    paid.toInt = total.toInt + n * price.toInt := by
  cases hprice : price.times n with
  | error e =>
    rw [hprice] at h
    cases h
  | ok value =>
    rw [hprice] at h
    rw [Amount.add_eq_ok_iff.1 h, Amount.times_eq_ok_iff.1 hprice, Int.mul_comm]

theorem takeFrom_spec {total paid : Amount} {count : Nat} {runs rest : List UnitRun}
    (h : takeFrom total count runs = (.ok paid, rest)) :
    paid.toInt = total.toInt + ((pricesOf runs).take count).sum ∧
      pricesOf rest = (pricesOf runs).drop count := by
  induction runs generalizing total count with
  | nil =>
    cases count with
    | zero =>
      simp only [takeFrom, Prod.mk.injEq, Except.ok.injEq] at h
      obtain ⟨rfl, rfl⟩ := h
      simp [pricesOf]
    | succ count =>
      simp only [takeFrom, Prod.mk.injEq, Except.ok.injEq] at h
      obtain ⟨rfl, rfl⟩ := h
      simp [pricesOf]
  | cons run runs ih =>
    cases count with
    | zero =>
      simp only [takeFrom, Prod.mk.injEq, Except.ok.injEq] at h
      obtain ⟨rfl, rfl⟩ := h
      simp
    | succ count =>
      rw [take_pricesOf_cons, drop_pricesOf_cons, List.sum_append, List.sum_replicate_int]
      simp only [takeFrom] at h
      split at h
      · simp at h
      · rename_i subtotal hsubtotal
        have hvalue := toInt_paid hsubtotal
        split at h
        · -- the run is used up, and the others give the rest
          rename_i hle
          obtain ⟨hpaid, hrest⟩ := ih h
          have hnone : run.units - (count + 1) = 0 := by omega
          refine ⟨by rw [hpaid, hvalue, Int.add_assoc], ?_⟩
          rw [hrest, hnone, List.replicate_zero, List.nil_append]
        · -- the run gives all that is asked for
          rename_i hgt
          obtain ⟨hpaid, rfl⟩ := Prod.mk.inj h
          obtain rfl := Except.ok.inj hpaid
          have hall : count + 1 - run.units = 0 := by omega
          refine ⟨by rw [hvalue, hall]; simp, ?_⟩
          rw [pricesOf_cons, hall, List.drop_zero]

/-- What a list of prices comes to without the signs. -/
def magnitude (prices : List Int) : Nat := (prices.map Int.natAbs).sum

theorem magnitude_append (prices prices' : List Int) :
    magnitude (prices ++ prices') = magnitude prices + magnitude prices' := by
  rw [magnitude, List.map_append, List.sum_append]
  rfl

theorem magnitude_take_add_drop (count : Nat) (prices : List Int) :
    magnitude (prices.take count) + magnitude (prices.drop count) = magnitude prices := by
  rw [← magnitude_append, List.take_append_drop]

theorem magnitude_pricesOf_cons (run : UnitRun) (runs : List UnitRun) :
    magnitude (pricesOf (run :: runs)) =
      run.units * run.price.toInt.natAbs + magnitude (pricesOf runs) := by
  rw [pricesOf_cons, magnitude_append, magnitude, List.map_replicate, List.sum_replicate_nat]

theorem natAbs_sum_le_magnitude (prices : List Int) : prices.sum.natAbs ≤ magnitude prices := by
  induction prices with
  | nil => exact Nat.le_refl _
  | cons p prices ih =>
    have hsum : magnitude (p :: prices) = p.natAbs + magnitude prices := List.sum_cons
    rw [List.sum_cons, hsum]
    omega

theorem paid_error {total price : Amount} {n : Nat} {e : ArithmeticError}
    (h : (price.times n).bind total.add = .error e) :
    e = .overflow ∧ 2 ^ 63 ≤ total.toInt.natAbs + n * price.toInt.natAbs := by
  have hmul : (price.toInt * n).natAbs = n * price.toInt.natAbs := by
    rw [Int.natAbs_mul, Int.natAbs_natCast, Nat.mul_comm]
  cases hprice : price.times n with
  | error e' =>
    rw [hprice] at h
    obtain rfl := Except.error.inj h
    obtain ⟨he, hrange⟩ := Amount.checked_eq_error_iff.1 hprice
    exact ⟨he, by omega⟩
  | ok value =>
    rw [hprice] at h
    have hvalue := Amount.times_eq_ok_iff.1 hprice
    obtain ⟨he, hrange⟩ := Amount.add_eq_error_iff.1 h
    exact ⟨he, by omega⟩

/-- Units whose prices come to little are never too many to take. -/
theorem takeFrom_error {total : Amount} {count : Nat} {runs rest : List UnitRun}
    {e : ArithmeticError} (h : takeFrom total count runs = (.error e, rest)) :
    e = .overflow ∧ 2 ^ 63 ≤ total.toInt.natAbs + magnitude (pricesOf runs) := by
  induction runs generalizing total count with
  | nil => cases count <;> simp [takeFrom] at h
  | cons run runs ih =>
    cases count with
    | zero => simp [takeFrom] at h
    | succ count =>
      rw [magnitude_pricesOf_cons]
      have hmin : min run.units (count + 1) * run.price.toInt.natAbs ≤
          run.units * run.price.toInt.natAbs :=
        Nat.mul_le_mul_right _ (Nat.min_le_left _ _)
      simp only [takeFrom] at h
      split at h
      · rename_i e' he
        obtain ⟨hee, -⟩ := Prod.mk.inj h
        obtain rfl := Except.error.inj hee
        obtain ⟨hover, hrange⟩ := paid_error he
        exact ⟨hover, by omega⟩
      · rename_i subtotal hsubtotal
        have hvalue := toInt_paid hsubtotal
        split at h
        · obtain ⟨hover, hrange⟩ := ih h
          have hmul : ((min run.units (count + 1) : Nat) * run.price.toInt).natAbs =
              min run.units (count + 1) * run.price.toInt.natAbs := by
            rw [Int.natAbs_mul, Int.natAbs_natCast]
          exact ⟨hover, by omega⟩
        · simp at h

/-- Units are taken if there are enough, and otherwise nothing happens. -/
theorem take_cases {r rest : UnitRuns} {count : Nat}
    {taken : Except ArithmeticError (Option Amount)}
    (h : r.take count = (taken, rest)) :
    (r.units < count ∧ taken = .ok none ∧ rest = r) ∨
    (count ≤ r.units ∧ ∃ total, takeFrom 0 count r.runs = (total, rest.runs) ∧
      taken = total.map some) := by
  unfold take at h
  split at h
  · rename_i hlt
    obtain ⟨htaken, hrest⟩ := Prod.mk.inj h
    exact Or.inl ⟨hlt, htaken.symm, hrest.symm⟩
  · rename_i hle
    rcases ht : takeFrom 0 count r.runs with ⟨total, runs⟩
    rw [ht] at h
    obtain ⟨htaken, rfl⟩ := Prod.mk.inj h
    exact Or.inr ⟨Nat.le_of_not_lt hle, total, rfl, htaken.symm⟩

/-- Enough units are left: their price is that of the first ones, and the others stay. -/
theorem take_some_spec {r rest : UnitRuns} {count : Nat} {paid : Amount}
    (h : r.take count = (.ok (some paid), rest)) :
    count ≤ r.units ∧ paid.toInt = (r.prices.take count).sum ∧
      rest.prices = r.prices.drop count := by
  rcases take_cases h with ⟨-, htaken, -⟩ | ⟨hle, total, ht, htaken⟩
  · cases htaken
  · cases total with
    | error e => cases htaken
    | ok total =>
      cases htaken
      obtain ⟨hpaid, hrest⟩ := takeFrom_spec ht
      rw [Amount.toInt_zero, Int.zero_add] at hpaid
      exact ⟨hle, hpaid, hrest⟩

theorem take_none_spec {r rest : UnitRuns} {count : Nat} (h : r.take count = (.ok none, rest)) :
    r.units < count ∧ rest = r := by
  rcases take_cases h with ⟨hlt, -, hrest⟩ | ⟨-, total, -, htaken⟩
  · exact ⟨hlt, hrest⟩
  · cases total with
    | error e => cases htaken
    | ok total => cases htaken

theorem take_error_spec {r rest : UnitRuns} {count : Nat} {e : ArithmeticError}
    (h : r.take count = (.error e, rest)) :
    count ≤ r.units ∧ e = .overflow ∧ 2 ^ 63 ≤ magnitude r.prices := by
  rcases take_cases h with ⟨-, htaken, -⟩ | ⟨hle, total, ht, htaken⟩
  · cases htaken
  · cases total with
    | error e' =>
      cases htaken
      obtain ⟨hover, hrange⟩ := takeFrom_error ht
      rw [Amount.toInt_zero, Int.natAbs_zero, Nat.zero_add] at hrange
      exact ⟨hle, hover, hrange⟩
    | ok total => cases htaken

/-! ## The units of lines -/

/-- The price of each unit of lines, line by line. -/
def pricesOfLines (lines : List BillLine) : List Int :=
  lines.flatMap fun line => List.replicate line.quantity.toNat line.unitPrice.toInt

theorem prices_ofLines_perm (lines : List BillLine) :
    (ofLines lines).prices.Perm (pricesOfLines lines) := by
  refine ((List.mergeSort_perm _ _).flatMap_right _).trans ?_
  rw [pricesOfLines, List.flatMap_map]
  induction lines with
  | nil => exact List.Perm.refl _
  | cons line lines ih =>
    by_cases hzero : line.quantity = 0
    · simpa [hzero] using ih
    · simpa [hzero] using ih.append_left _

theorem pairwise_runs_ofLines (lines : List BillLine) :
    (ofLines lines).runs.Pairwise fun a b => b.price.toInt ≤ a.price.toInt := by
  have htrans : ∀ a b c : UnitRun, decide (b.price ≤ a.price) → decide (c.price ≤ b.price) →
      decide (c.price ≤ a.price) := by
    intro a b c hab hbc
    have hab' := Amount.le_iff.1 (of_decide_eq_true hab)
    have hbc' := Amount.le_iff.1 (of_decide_eq_true hbc)
    exact decide_eq_true (Amount.le_iff.2 (Int.le_trans hbc' hab'))
  have htotal : ∀ a b : UnitRun,
      (decide (b.price ≤ a.price) || decide (a.price ≤ b.price)) = true := by
    intro a b
    rw [Bool.or_eq_true, decide_eq_true_iff, decide_eq_true_iff]
    exact Int.le_total _ _
  exact (List.pairwise_mergeSort htrans htotal _).imp fun h =>
    Amount.le_iff.1 (of_decide_eq_true h)

/-- The units of lines are taken with the dearest first. -/
theorem pairwise_prices_ofLines (lines : List BillLine) :
    (ofLines lines).prices.Pairwise fun p q => q ≤ p := by
  rw [prices, pricesOf, List.pairwise_flatMap]
  refine ⟨fun run _ => List.pairwise_replicate.2 (Or.inr (Int.le_refl _)), ?_⟩
  refine (pairwise_runs_ofLines lines).imp fun hab p hp q hq => ?_
  rw [List.eq_of_mem_replicate hp, List.eq_of_mem_replicate hq]
  exact hab

end Promotions.UnitRuns

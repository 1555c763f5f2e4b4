import Mathlib.Algebra.Order.BigOperators.Group.List
import Mathlib.Algebra.Order.Ring.Int
import Promotions.Amount
import Promotions.Count
import Promotions.Proofs.Fallible

/-!
# Proofs: sums of amounts

Amounts are added up one by one, and every partial sum has to fit. Where nothing is negative partial
sums only grow, so there is a sum just if the whole fits, whatever the order. A sum of counts stops
at the greatest count, and that too does not depend on the order.
-/

namespace Promotions

open Fallible

namespace Amount

instance : Std.IsLinearOrder Amount := by
  refine Std.IsLinearOrder.of_le ⟨fun a b hab hba => ?_⟩ ⟨?_⟩ ⟨fun a b => ?_⟩
  · exact Amount.ext (Int.le_antisymm hab hba)
  · exact Int.le_trans
  · exact Int.le_total _ _

theorem checked_toInt (a : Amount) : checked a.toInt = .ok a := checked_eq_ok_iff.2 rfl

theorem checked_ok {i : Int} (hnonneg : 0 ≤ i) (hfits : i < 9223372036854775808) :
    ∃ a, checked i = .ok a :=
  ⟨⟨i, by omega, hfits⟩, checked_eq_ok_iff.2 rfl⟩

/-- What is too much for an amount stays too much when more is added. -/
theorem checked_of_overflow {i j : Int} {e : ArithmeticError} (hi : 0 ≤ i) (hij : i ≤ j)
    (h : checked i = .error e) : checked j = .error e := by
  obtain ⟨rfl, hrange⟩ := checked_eq_error_iff.1 h
  exact checked_eq_error_iff.2 ⟨rfl, .inr (by omega)⟩

/-- Steps of which each adds something that is not negative come to the whole sum, if it fits. -/
theorem foldlM_eq_checked {α : Type} (step : Amount → α → Except ArithmeticError Amount)
    (value : α → Int) {l : List α} (hvalue : ∀ a ∈ l, 0 ≤ value a)
    (hstep : ∀ t, ∀ a ∈ l, 0 ≤ t.toInt → step t a = checked (t.toInt + value a)) {total : Amount}
    (htotal : 0 ≤ total.toInt) :
    l.foldlM step total = checked (total.toInt + (l.map value).sum) := by
  induction l generalizing total with
  | nil => rw [List.foldlM_nil, List.map_nil, List.sum_nil, Int.add_zero, checked_toInt]; rfl
  | cons a l ih =>
    have hrest {next : Amount} (hnext : 0 ≤ next.toInt) :=
      ih (fun b hb => hvalue b (List.mem_cons_of_mem _ hb))
        (fun t b hb => hstep t b (List.mem_cons_of_mem _ hb)) hnext
    have ha := hvalue a List.mem_cons_self
    have hsum : 0 ≤ (l.map value).sum := List.sum_nonneg fun v hv => by
      obtain ⟨b, hb, rfl⟩ := List.mem_map.1 hv
      exact hvalue b (List.mem_cons_of_mem _ hb)
    rw [List.foldlM_cons, hstep total a List.mem_cons_self htotal, List.map_cons, List.sum_cons,
      ← Int.add_assoc]
    cases hnext : checked (total.toInt + value a) with
    | error e =>
      rw [error_bind, checked_of_overflow (by omega) (by omega) hnext]
    | ok next =>
      have hvalue := checked_eq_ok_iff.1 hnext
      rw [ok_bind, hrest (by omega), hvalue]

theorem sum_eq_checked {amounts : List Amount} (h : ∀ a ∈ amounts, 0 ≤ a.toInt) :
    sum amounts = checked (amounts.map toInt).sum := by
  have hsum := foldlM_eq_checked add toInt h (fun _ _ _ _ => rfl)
    (Int.le_refl (0 : Amount).toInt)
  rwa [toInt_zero, Int.zero_add] at hsum

/-- Amounts are added up exactly, or one of the partial sums is an overflow. -/
theorem sum_cases (amounts : List Amount) :
    (∃ total, sum amounts = .ok total ∧ total.toInt = (amounts.map toInt).sum) ∨
      sum amounts = .error .overflow := by
  have hfold (start : Amount) :
      (∃ total, amounts.foldlM add start = .ok total ∧
        total.toInt = start.toInt + (amounts.map toInt).sum) ∨
      amounts.foldlM add start = .error .overflow := by
    induction amounts generalizing start with
    | nil => exact .inl ⟨start, rfl, (Int.add_zero _).symm⟩
    | cons a amounts ih =>
      rw [List.foldlM_cons]
      cases hadd : start.add a with
      | error e =>
        obtain ⟨rfl, -⟩ := add_eq_error_iff.1 hadd
        exact .inr rfl
      | ok next =>
        have hnext := add_eq_ok_iff.1 hadd
        refine (ih next).imp_left ?_
        rintro ⟨total, htotal, hvalue⟩
        refine ⟨total, htotal, ?_⟩
        rw [hvalue, hnext, List.map_cons, List.sum_cons, Int.add_assoc]
  have hsum := hfold 0
  simp only [toInt_zero, Int.zero_add] at hsum
  exact hsum

/-- Units that cost something are added if they fit as well. -/
theorem times_bind_add {total price : Amount} (htotal : 0 ≤ total.toInt) (hprice : 0 ≤ price.toInt)
    (n : Nat) :
    (price.times n >>= total.add) = checked (total.toInt + price.toInt * n) := by
  have hcost : 0 ≤ price.toInt * n := Int.mul_nonneg hprice (Int.natCast_nonneg n)
  rw [times]
  cases hvalue : checked (price.toInt * n) with
  | error e => rw [error_bind, checked_of_overflow hcost (by omega) hvalue]
  | ok value => rw [ok_bind, add, checked_eq_ok_iff.1 hvalue]

end Amount

namespace Count

theorem toNat_foldl_addSat (counts : List Count) (total : Count) :
    (counts.foldl addSat total).toNat =
      min (total.toNat + (counts.map UInt32.toNat).sum) 4294967295 := by
  induction counts generalizing total with
  | nil =>
    have hle : total.toNat ≤ 4294967295 := Nat.le_of_lt_succ total.toNat_lt
    rw [List.foldl_nil, List.map_nil, List.sum_nil]
    omega
  | cons count counts ih =>
    rw [List.foldl_cons, ih, addSat, toNat_saturate, List.map_cons, List.sum_cons]
    omega

/-- A sum of counts is exact up to the greatest count. -/
theorem toNat_sum (counts : List Count) :
    (sum counts).toNat = min (counts.map UInt32.toNat).sum 4294967295 := by
  rw [sum, toNat_foldl_addSat]
  exact congrArg (min · _) (Nat.zero_add _)

theorem foldl_min_le (counts : List Count) (start : Count) :
    counts.foldl min start ≤ start ∧ ∀ count ∈ counts, counts.foldl min start ≤ count := by
  induction counts generalizing start with
  | nil => exact ⟨UInt32.le_refl start, nofun⟩
  | cons count counts ih =>
    obtain ⟨hstart, hcounts⟩ := ih (min start count)
    refine ⟨UInt32.le_trans hstart Std.min_le_left, List.forall_mem_cons.2 ⟨?_, hcounts⟩⟩
    exact UInt32.le_trans hstart Std.min_le_right

end Count

end Promotions

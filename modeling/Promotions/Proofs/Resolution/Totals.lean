import Promotions.Proofs.Eligibility.Layout
import Promotions.Proofs.Resolution.Run

/-!
# Proofs: the totals of a resolution

What is left of the bill and what was taken off it add up to the subtotal. This is why the bill is
never reduced by more than there is of it, and why the total of the discounts always fits: only
cashback, which nothing bounds, can make a resolution fail.
-/

namespace Promotions

open Fallible AppliedPromotion

/-- The books of a resolver balance: its totals are those of the entries, and what is left and what
was taken off are the subtotal together. -/
structure Resolver.Balanced (subtotal : Amount) (r : Resolver) : Prop where
  totalDiscount : r.resolution.totalDiscount.toInt = discountOf r.resolution.applied
  totalCashback : r.resolution.totalCashback.toInt = cashbackOf r.resolution.applied
  remaining : r.remaining.toInt + r.resolution.totalDiscount.toInt = subtotal.toInt
  nonneg : 0 ≤ r.resolution.totalDiscount.toInt
  le : r.resolution.totalDiscount.toInt ≤ max 0 subtotal.toInt

namespace Resolver

variable {r r' : Resolver} {c : Candidate} {subtotal : Amount}

theorem Balanced.suppress (hr : r.Balanced subtotal) (reason : SuppressionReason) :
    (r.suppress c reason).Balanced subtotal :=
  ⟨hr.totalDiscount, hr.totalCashback, hr.remaining, hr.nonneg, hr.le⟩

/-- What a candidate takes off is between nothing and what is left. -/
theorem discountOf_entry_bounds (r : Resolver) (c : Candidate) :
    0 ≤ discountOf [c.entry (r.grantedAmount c)] ∧
      discountOf [c.entry (r.grantedAmount c)] ≤ max 0 r.remaining.toInt := by
  rw [discountOf_singleton]
  by_cases hb : c.grant.benefit.reducesBill = true
  · have := grantedAmount_of_reduces (r := r) hb
    simp only [Candidate.entry, hb, if_true]
    omega
  · simp only [Candidate.entry, hb]
    exact ⟨Int.le_refl _, Int.le_max_left _ _⟩

theorem Applies.remaining_toInt (h : r.Applies c r') :
    r'.remaining.toInt = r.remaining.toInt - discountOf [c.entry (r.grantedAmount c)] := by
  have hlower := r.remaining.lower
  have hupper := r.remaining.upper
  have hbounds := discountOf_entry_bounds r c
  rw [discountOf_singleton] at hbounds ⊢
  rw [h.remaining]
  by_cases hb : c.grant.benefit.reducesBill = true
  · simp only [Candidate.entry, hb, if_true] at hbounds ⊢
    rw [Amount.toInt_subSat]
    omega
  · simp [Candidate.entry, hb]

theorem Balanced.apply (hr : r.Balanced subtotal) (h : r.Applies c r') :
    r'.Balanced subtotal := by
  have hbounds := discountOf_entry_bounds r c
  have hremaining := hr.remaining
  have hnonneg := hr.nonneg
  have hle := hr.le
  refine ⟨?_, ?_, ?_, ?_, ?_⟩
  · rw [h.totalDiscount, hr.totalDiscount, h.applied, discountOf_append]
  · rw [h.totalCashback, hr.totalCashback, h.applied, cashbackOf_append]
  · rw [h.remaining_toInt, h.totalDiscount]
    omega
  · rw [h.totalDiscount]
    omega
  · rw [h.totalDiscount]
    omega

theorem balanced_start {bill : Bill} (h : Resolver.start bill = .ok r)
    (hs : bill.subtotal = .ok subtotal) : r.Balanced subtotal := by
  obtain ⟨s, hs', rfl⟩ := start_eq_ok_iff.1 h
  obtain rfl : s = subtotal := Except.ok.inj (hs'.symm.trans hs)
  exact ⟨rfl, rfl, by simp, Int.le_refl _, Int.le_max_left _ _⟩

theorem Balanced.run {cs : List Candidate} (hr : r.Balanced subtotal)
    (h : r.run cs = .ok r') : r'.Balanced subtotal :=
  run_invariant (fun _ _ reason hs _ => hs.suppress reason) (fun _ _ _ hs _ ha => hs.apply ha) hr h

/-! ## When a total does not fit -/

/-- The cashback that was applied and that of a candidate do not fit an amount together. -/
def CashbackDoesNotFit (r : Resolver) (c : Candidate) : Prop :=
  cashbackOf r.resolution.applied + c.grant.discount.toInt < -2 ^ 63 ∨
    2 ^ 63 ≤ cashbackOf r.resolution.applied + c.grant.discount.toInt

theorem apply_eq_error_iff {e : ArithmeticError} :
    r.apply c = .error e ↔
      addToTotals r.resolution c.grant.benefit (r.grantedAmount c) = .error e := by
  rw [Resolver.apply, bind_eq_error_iff]
  constructor
  · rintro (h | ⟨totals, -, h⟩)
    · exact h
    · simp [pure, Except.pure] at h
  · exact Or.inl

/-- Adding what is taken off the bill always fits, because the subtotal does. -/
theorem Balanced.add_grantedAmount (hr : r.Balanced subtotal)
    (hb : c.grant.benefit.reducesBill = true) :
    ∃ total, r.resolution.totalDiscount.add (r.grantedAmount c) = .ok total := by
  have hamount := grantedAmount_of_reduces (r := r) hb
  have hremaining := hr.remaining
  have hnonneg := hr.nonneg
  have hle := hr.le
  have hupper := subtotal.upper
  cases h : r.resolution.totalDiscount.add (r.grantedAmount c) with
  | ok total => exact ⟨total, rfl⟩
  | error e =>
    obtain ⟨-, hout⟩ := Amount.add_eq_error_iff.1 h
    omega

theorem Balanced.apply_eq_error_iff (hr : r.Balanced subtotal) {e : ArithmeticError} :
    r.apply c = .error e ↔
      e = .overflow ∧ c.grant.benefit = .cashback ∧ r.CashbackDoesNotFit c := by
  rw [Resolver.apply_eq_error_iff]
  cases hb : c.grant.benefit with
  | discount =>
    obtain ⟨total, ht⟩ := hr.add_grantedAmount (c := c) (by rw [hb]; rfl)
    simp [addToTotals, ht, bind, Except.bind, pure, Except.pure]
  | freeProduct product =>
    obtain ⟨total, ht⟩ := hr.add_grantedAmount (c := c) (by rw [hb]; rfl)
    simp [addToTotals, ht, bind, Except.bind, pure, Except.pure]
  | pointsMultiplier multiplier => simp [addToTotals, pure, Except.pure]
  | cashback =>
    have hamount : r.grantedAmount c = c.grant.discount :=
      grantedAmount_of_not_reduces (by rw [hb]; rfl)
    simp only [addToTotals, bind_eq_error_iff, Amount.add_eq_error_iff, hamount,
      hr.totalCashback, CashbackDoesNotFit, true_and]
    constructor
    · rintro (h | ⟨total, -, h⟩)
      · exact h
      · simp [pure, Except.pure] at h
    · exact Or.inl

end Resolver

/-- In the course of the resolution a candidate for cashback is applied whose cashback does not fit
an amount together with that applied before. -/
def CashbackOverflows (bill : Bill) (results : List EligibilityResult) : Prop :=
  ∃ start before c after r, Resolver.start bill = .ok start ∧
    Candidate.considered results = before ++ c :: after ∧ start.run before = .ok r ∧
    r.suppression? c = none ∧ c.grant.benefit = .cashback ∧ r.CashbackDoesNotFit c

/-- The totals of a resolution are the sums of what is applied, each promotion takes off no more
than it offers and all of them no more than there is; and nothing but cashback makes a resolution
fail. -/
theorem resolve_balances {bill : Bill} {subtotal : Amount} (results : List EligibilityResult)
    (hs : bill.subtotal = .ok subtotal) :
    (∀ out, resolve bill results = .ok out →
      out.totalDiscount.toInt = discountOf out.applied ∧
      out.totalCashback.toInt = cashbackOf out.applied ∧
      (∀ c ∈ takenFrom bill results, c.result ∈ results ∧ c.result.grant? = some c.grant) ∧
      List.Forall₂ Candidate.Grants (takenFrom bill results) out.applied ∧
      out.totalDiscount ≤ max 0 subtotal) ∧
    (∀ e, resolve bill results = .error e ↔ e = .overflow ∧ CashbackOverflows bill results) := by
  constructor
  · intro out h
    obtain ⟨start, r, hstart, hrun, rfl⟩ := resolve_eq_ok_iff.1 h
    have hr := (Resolver.balanced_start hstart hs).run hrun
    refine ⟨hr.totalDiscount, hr.totalCashback, fun c hc => ?_, resolve_applied h, ?_⟩
    · exact Candidate.mem_considered_iff.1 ((takenFrom_sublist h).subset hc)
    · rw [Amount.le_iff, Amount.toInt_max, Amount.toInt_zero]
      exact hr.le
  · intro e
    have hstart : Resolver.start bill = .ok
        { bill, remaining := subtotal, resolution := { currency := bill.currency } } :=
      start_eq_ok_iff.2 ⟨subtotal, hs, rfl⟩
    rw [resolve_eq_error_iff hstart, Resolver.run_eq_error_iff]
    constructor
    · rintro ⟨before, c, after, r, hsplit, hrun, hnone, happly⟩
      have hr := (Resolver.balanced_start hstart hs).run hrun
      obtain ⟨he, hb, hfit⟩ := hr.apply_eq_error_iff.1 happly
      exact ⟨he, _, before, c, after, r, hstart, hsplit, hrun, hnone, hb, hfit⟩
    · rintro ⟨he, start, before, c, after, r, hstart', hsplit, hrun, hnone, hb, hfit⟩
      obtain rfl := Except.ok.inj (hstart'.symm.trans hstart)
      have hr := (Resolver.balanced_start hstart hs).run hrun
      exact ⟨before, c, after, r, hsplit, hrun, hnone, hr.apply_eq_error_iff.2 ⟨he, hb, hfit⟩⟩

namespace Sample

/-- The result of a promotion for the first line. -/
def result (n : UInt8) (code : String) (conflict : ConflictPolicy) (discount : Int)
    (benefit : Benefit) : EligibilityResult where
  promotionId := id n
  code := code
  archetype := .amountDiscount
  currency := "IDR"
  conflict := conflict
  verdict := .eligible ⟨amount discount, benefit, [0]⟩

/-- Two discounts of seventy, a negative one, and cashback. -/
def results : List EligibilityResult :=
  [result 1 "A" (policy .cartLevel) 70 .discount, result 2 "B" (policy .itemLevel) 70 .discount,
   result 3 "C" (policy .itemLevel) (-5) .discount,
   result 4 "D" (policy .paymentLevel) 500 .cashback]

/-- Two cashbacks that do not fit an amount together. -/
def cashbacks : List EligibilityResult :=
  [result 1 "A" (policy .itemLevel) (2 ^ 62) .cashback,
   result 2 "B" (policy .itemLevel) (2 ^ 62) .cashback]

theorem subtotal_bill : bill.subtotal = .ok (amount 100) := by rfl

end Sample

/-- Of a bill of one hundred, the second discount of seventy is granted in part, a negative one not
at all, and cashback is counted apart; two cashbacks that do not fit an amount together are an
overflow. -/
theorem resolve_balances_shop :
    Sample.bill.subtotal = .ok (Sample.amount 100) ∧
    (∃ out, resolve Sample.bill Sample.results = .ok out ∧
      out.applied.map (·.amount.toInt) = [70, 0, 30, 500] ∧
      out.totalDiscount.toInt = discountOf out.applied ∧
      out.totalCashback.toInt = cashbackOf out.applied) ∧
    CashbackOverflows Sample.bill Sample.cashbacks := by
  have hs := Sample.subtotal_bill
  have hout : (resolve Sample.bill Sample.results).map (fun out =>
      out.applied.map (·.amount.toInt)) = .ok [70, 0, 30, 500] := by
    rw [resolve_of_pairwise fun stage => by cases stage <;> decide]
    decide +kernel
  have herror : resolve Sample.bill Sample.cashbacks = .error .overflow := by
    rw [resolve_of_pairwise fun stage => by cases stage <;> decide]
    decide +kernel
  refine ⟨hs, ?_, (((resolve_balances _ hs).2 _).1 herror).2⟩
  cases h : resolve Sample.bill Sample.results with
  | error e =>
    rw [h] at hout
    cases hout
  | ok out =>
    rw [h] at hout
    obtain ⟨hdiscount, hcashback, -⟩ := (resolve_balances _ hs).1 out h
    exact ⟨out, rfl, Except.ok.inj hout, hdiscount, hcashback⟩

end Promotions

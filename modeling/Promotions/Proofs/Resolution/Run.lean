import Mathlib.Algebra.Order.Ring.Int
import Mathlib.Data.List.Perm.Basic
import Promotions.Proofs.Fallible
import Promotions.Resolution

/-!
# Proofs: runs of the resolver

All stages together are one run over one list of candidates. A run is described by the decisions it
makes: each candidate is suppressed for a reason, and leaves a note behind, or is applied, and then
`Applies` says what that changes. Everything later is an induction over these decisions.
-/

namespace Promotions

open Fallible

/-- The candidates among results in the order in which they are considered, stage after stage. -/
def Candidate.considered (results : List EligibilityResult) : List Candidate :=
  Stage.inOrder.flatMap fun stage => inOrder (ofResults stage results)

/-- The entry of a candidate of which an amount is granted. -/
def Candidate.entry (c : Candidate) (amount : Amount) : AppliedPromotion where
  promotionId := c.result.promotionId
  code := c.result.code
  stage := c.result.conflict.stage
  amount := amount
  benefit := c.grant.benefit
  affected := c.grant.affected

/-- What entries take off the bill. -/
def AppliedPromotion.discountOf (entries : List AppliedPromotion) : Int :=
  ((entries.filter fun a => a.benefit.reducesBill).map (·.amount.toInt)).sum

/-- What entries give back after the payment. -/
def AppliedPromotion.cashbackOf (entries : List AppliedPromotion) : Int :=
  ((entries.filter fun a => a.benefit = .cashback).map (·.amount.toInt)).sum

/-- The entry says what of a candidate is granted: all of it, or, where the bill is reduced, as much
of it as is left. -/
structure Candidate.Grants (c : Candidate) (a : AppliedPromotion) : Prop where
  entry : a = c.entry a.amount
  reducing : a.benefit.reducesBill = true → 0 ≤ a.amount ∧ a.amount ≤ max 0 c.grant.discount
  other : a.benefit.reducesBill = false → a.amount = c.grant.discount

open AppliedPromotion

@[simp] theorem AppliedPromotion.discountOf_nil : discountOf [] = 0 := rfl

@[simp] theorem AppliedPromotion.cashbackOf_nil : cashbackOf [] = 0 := rfl

theorem AppliedPromotion.discountOf_singleton (a : AppliedPromotion) :
    discountOf [a] = if a.benefit.reducesBill then a.amount.toInt else 0 := by
  by_cases h : a.benefit.reducesBill = true <;> simp [discountOf, h]

theorem AppliedPromotion.cashbackOf_singleton (a : AppliedPromotion) :
    cashbackOf [a] = if a.benefit = .cashback then a.amount.toInt else 0 := by
  by_cases h : a.benefit = .cashback <;> simp [cashbackOf, h]

theorem AppliedPromotion.discountOf_append (as bs : List AppliedPromotion) :
    discountOf (as ++ bs) = discountOf as + discountOf bs := by
  simp [discountOf]

theorem AppliedPromotion.cashbackOf_append (as bs : List AppliedPromotion) :
    cashbackOf (as ++ bs) = cashbackOf as + cashbackOf bs := by
  simp [cashbackOf]

/-- A candidate is an eligible result of its stage, with what it grants. -/
theorem Candidate.mem_ofResults_iff {c : Candidate} {stage : Stage}
    {results : List EligibilityResult} :
    c ∈ ofResults stage results ↔
      c.result ∈ results ∧ c.result.conflict.stage = stage ∧ c.result.grant? = some c.grant := by
  simp only [ofResults, List.mem_filterMap]
  constructor
  · rintro ⟨r, hr, hc⟩
    split at hc
    · rename_i hstage
      obtain ⟨grant, hgrant, rfl⟩ := Option.map_eq_some_iff.1 hc
      exact ⟨hr, hstage, hgrant⟩
    · simp at hc
  · rintro ⟨hr, hstage, hgrant⟩
    exact ⟨c.result, hr, by simp [hstage, hgrant]⟩

theorem Candidate.mem_inOrder {c : Candidate} {cs : List Candidate} :
    c ∈ inOrder cs ↔ c ∈ cs := List.mem_mergeSort

theorem Candidate.mem_considered_iff {c : Candidate} {results : List EligibilityResult} :
    c ∈ considered results ↔ c.result ∈ results ∧ c.result.grant? = some c.grant := by
  simp only [considered, List.mem_flatMap, mem_inOrder, mem_ofResults_iff]
  constructor
  · rintro ⟨stage, -, hr, -, hgrant⟩
    exact ⟨hr, hgrant⟩
  · rintro ⟨hr, hgrant⟩
    refine ⟨c.result.conflict.stage, ?_, hr, rfl, hgrant⟩
    cases c.result.conflict.stage <;> simp [Stage.inOrder]

/-- Things taken stage by stage are the same things. -/
theorem flatMap_stages_perm {α : Type} (stageOf : α → Stage) (l : List α) :
    (Stage.inOrder.flatMap fun stage => l.filter fun a => stageOf a = stage).Perm l := by
  simp only [Stage.inOrder, List.flatMap_cons, List.flatMap_nil, List.append_nil]
  induction l with
  | nil => exact List.Perm.refl _
  | cons a l ih =>
    cases h : stageOf a with
    | itemLevel => simpa [h] using ih.cons a
    | cartLevel => simpa [h] using List.perm_middle.trans (ih.cons a)
    | paymentLevel =>
      simp only [h, List.filter_cons, reduceCtorEq, decide_false, decide_true, if_true,
        Bool.false_eq_true, if_false]
      rw [← List.append_assoc]
      refine List.perm_middle.trans ?_
      rw [List.append_assoc]
      exact ih.cons a

theorem Candidate.map_result_ofResults (stage : Stage) (results : List EligibilityResult) :
    (ofResults stage results).map (·.result) =
      (results.filter (·.isEligible)).filter fun r => r.conflict.stage = stage := by
  unfold ofResults
  induction results with
  | nil => rfl
  | cons r results ih =>
    by_cases hstage : r.conflict.stage = stage
    · cases hgrant : r.grant? with
      | none => simpa [hstage, hgrant, EligibilityResult.isEligible] using ih
      | some grant => simpa [hstage, hgrant, EligibilityResult.isEligible] using ih
    · cases hgrant : r.grant? with
      | none => simpa [hstage, hgrant, EligibilityResult.isEligible] using ih
      | some grant => simpa [hstage, hgrant, EligibilityResult.isEligible] using ih

/-- Candidates that come in the order of their stage are considered as they come. -/
theorem Candidate.inOrder_of_pairwise {cs : List Candidate}
    (h : cs.Pairwise fun a b => a.notAfter b = true) : inOrder cs = cs :=
  List.mergeSort_of_pairwise h

/-- Every eligible result is considered, and once. -/
theorem Candidate.considered_perm (results : List EligibilityResult) :
    ((considered results).map (·.result)).Perm (results.filter (·.isEligible)) := by
  refine List.Perm.trans ?_ (flatMap_stages_perm (·.conflict.stage) _)
  rw [considered, List.map_flatMap]
  refine List.Perm.flatMap_left _ fun stage _ => ?_
  rw [← map_result_ofResults]
  exact (List.mergeSort_perm _ _).map _

namespace Resolver

variable {r r' : Resolver} {c : Candidate} {cs : List Candidate}

/-! ## One candidate -/

/-- What the application of a candidate changes. -/
structure Applies (r : Resolver) (c : Candidate) (r' : Resolver) : Prop where
  bill : r'.bill = r.bill
  remaining : r'.remaining =
    if c.grant.benefit.reducesBill then r.remaining.subSat (r.grantedAmount c) else r.remaining
  nonStackableApplied :
    r'.nonStackableApplied = (r.nonStackableApplied || !c.result.conflict.isStackable)
  incompatible :
    r'.incompatible =
      r.incompatible ++ [(c.result.promotionId, c.result.conflict.cannotCombineWith)]
  currency : r'.resolution.currency = r.resolution.currency
  applied : r'.resolution.applied = r.resolution.applied ++ [c.entry (r.grantedAmount c)]
  suppressed : r'.resolution.suppressed = r.resolution.suppressed
  totalDiscount : r'.resolution.totalDiscount.toInt =
    r.resolution.totalDiscount.toInt + discountOf [c.entry (r.grantedAmount c)]
  totalCashback : r'.resolution.totalCashback.toInt =
    r.resolution.totalCashback.toInt + cashbackOf [c.entry (r.grantedAmount c)]

theorem addToTotals_eq_ok {r totals : Resolution} {benefit : Benefit} {amount : Amount}
    (h : addToTotals r benefit amount = .ok totals) :
    totals.currency = r.currency ∧ totals.applied = r.applied ∧
      totals.suppressed = r.suppressed ∧
      totals.totalDiscount.toInt =
        r.totalDiscount.toInt + (if benefit.reducesBill then amount.toInt else 0) ∧
      totals.totalCashback.toInt =
        r.totalCashback.toInt + (if benefit = .cashback then amount.toInt else 0) := by
  cases benefit with
  | discount =>
    obtain ⟨total, ht, h⟩ := bind_eq_ok_iff.1 h
    rw [pure_eq_ok_iff] at h
    subst h
    simp [Benefit.reducesBill, Amount.add_eq_ok_iff.1 ht]
  | freeProduct product =>
    obtain ⟨total, ht, h⟩ := bind_eq_ok_iff.1 h
    rw [pure_eq_ok_iff] at h
    subst h
    simp [Benefit.reducesBill, Amount.add_eq_ok_iff.1 ht]
  | cashback =>
    obtain ⟨total, ht, h⟩ := bind_eq_ok_iff.1 h
    rw [pure_eq_ok_iff] at h
    subst h
    simp [Benefit.reducesBill, Amount.add_eq_ok_iff.1 ht]
  | pointsMultiplier multiplier =>
    simp only [addToTotals, pure_eq_ok_iff] at h
    subst h
    simp [Benefit.reducesBill]

theorem applies_of_apply (h : r.apply c = .ok r') : r.Applies c r' := by
  obtain ⟨totals, ht, h⟩ := bind_eq_ok_iff.1 h
  rw [pure_eq_ok_iff] at h
  subst h
  obtain ⟨hcur, happ, hsup, hdis, hcash⟩ := addToTotals_eq_ok ht
  refine
    { bill := rfl
      remaining := rfl
      nonStackableApplied := rfl
      incompatible := rfl
      currency := hcur
      applied := by simp only [happ]; rfl
      suppressed := hsup
      totalDiscount := ?_
      totalCashback := ?_ }
  · rw [hdis, discountOf_singleton]
    rfl
  · rw [hcash, cashbackOf_singleton]
    rfl

theorem grantedAmount_of_reduces (h : c.grant.benefit.reducesBill = true) :
    (r.grantedAmount c).toInt = max 0 (min c.grant.discount.toInt r.remaining.toInt) := by
  rw [grantedAmount, if_pos h, Amount.toInt_clamp]

theorem grantedAmount_of_not_reduces (h : c.grant.benefit.reducesBill = false) :
    r.grantedAmount c = c.grant.discount := by
  rw [grantedAmount, if_neg (by simp [h])]

theorem grants_entry (r : Resolver) (c : Candidate) :
    c.Grants (c.entry (r.grantedAmount c)) := by
  refine ⟨rfl, fun h => ?_, fun h => grantedAmount_of_not_reduces h⟩
  have hamount : (c.entry (r.grantedAmount c)).amount.toInt =
      max 0 (min c.grant.discount.toInt r.remaining.toInt) := grantedAmount_of_reduces h
  rw [Amount.le_iff, Amount.le_iff, Amount.toInt_max, Amount.toInt_zero, hamount]
  omega

theorem consider_eq_ok_iff :
    r.consider c = .ok r' ↔
      (∃ reason, r.suppression? c = some reason ∧ r' = r.suppress c reason) ∨
        (r.suppression? c = none ∧ r.apply c = .ok r') := by
  unfold consider
  cases r.suppression? c with
  | none => simp
  | some reason => simp [eq_comm]

theorem consider_eq_error_iff {e : ArithmeticError} :
    r.consider c = .error e ↔ r.suppression? c = none ∧ r.apply c = .error e := by
  unfold consider
  cases r.suppression? c with
  | none => simp
  | some reason => simp

/-- When nothing speaks against a candidate. -/
theorem suppression?_eq_none_iff :
    r.suppression? c = none ↔
      (c.result.conflict.needsRequest = true →
        r.bill.requests c.result.promotionId c.result.code = true) ∧
      r.isIncompatible c = false ∧
      (c.result.conflict.isStackable = false → r.nonStackableApplied = false) ∧
      (c.grant.benefit.reducesBill = true → 0 < c.grant.discount → 0 < r.remaining) := by
  simp only [suppression?]
  split
  · simp_all
  · split
    · simp_all
    · split
      · simp_all
      · split
        · simp_all [Amount.le_iff, Amount.lt_iff]
        · simp_all [Amount.le_iff, Amount.lt_iff]

/-! ## Runs -/

/-- Candidates considered one after the other, up to the first whose totals do not fit. -/
def run (r : Resolver) (cs : List Candidate) : Except ArithmeticError Resolver :=
  cs.foldlM consider r

/-- The candidates that are considered before an error, each with the reason for which it is
suppressed, if it is. -/
def decisions (r : Resolver) : List Candidate → List (Candidate × Option SuppressionReason)
  | [] => []
  | c :: cs =>
    match r.consider c with
    | .ok r' => (c, r.suppression? c) :: r'.decisions cs
    | .error _ => []

/-- The candidates that are applied, in their order. -/
def taken (r : Resolver) (cs : List Candidate) : List Candidate :=
  ((r.decisions cs).filter fun d => d.2.isNone).map (·.1)

theorem run_append (cs ds : List Candidate) :
    r.run (cs ++ ds) = r.run cs >>= fun r' => r'.run ds :=
  List.foldlM_append

/-- The two ways in which a run starts: the first candidate is suppressed, or it is applied. -/
theorem run_cons_cases (h : r.run (c :: cs) = .ok r') :
    (∃ reason, r.suppression? c = some reason ∧ (r.suppress c reason).run cs = .ok r' ∧
      r.decisions (c :: cs) = (c, some reason) :: (r.suppress c reason).decisions cs) ∨
    (∃ s, r.suppression? c = none ∧ r.apply c = .ok s ∧ s.run cs = .ok r' ∧
      r.decisions (c :: cs) = (c, none) :: s.decisions cs) := by
  obtain ⟨s, hs, hrun⟩ := foldlM_cons_eq_ok_iff.1 h
  have hd : r.decisions (c :: cs) = (c, r.suppression? c) :: s.decisions cs := by
    simp only [decisions, hs]
  rcases consider_eq_ok_iff.1 hs with ⟨reason, hreason, rfl⟩ | ⟨hnone, happly⟩
  · exact Or.inl ⟨reason, hreason, hrun, by rw [hd, hreason]⟩
  · exact Or.inr ⟨s, hnone, happly, hrun, by rw [hd, hnone]⟩

/-- The same, as far as the candidates that are applied are concerned. -/
theorem run_cons_taken (h : r.run (c :: cs) = .ok r') :
    (∃ reason, r.suppression? c = some reason ∧ (r.suppress c reason).run cs = .ok r' ∧
      r.taken (c :: cs) = (r.suppress c reason).taken cs) ∨
    (∃ s, r.suppression? c = none ∧ r.apply c = .ok s ∧ s.run cs = .ok r' ∧
      r.taken (c :: cs) = c :: s.taken cs) := by
  rcases run_cons_cases h with ⟨reason, hs, hrun, hd⟩ | ⟨s, hs, happly, hrun, hd⟩
  · exact Or.inl ⟨reason, hs, hrun, by simp [taken, hd]⟩
  · exact Or.inr ⟨s, hs, happly, hrun, by simp [taken, hd]⟩

/-- A run that succeeds decides on every candidate. -/
theorem map_fst_decisions (h : r.run cs = .ok r') : (r.decisions cs).map (·.1) = cs := by
  induction cs generalizing r with
  | nil => rfl
  | cons c cs ih =>
    rcases run_cons_cases h with ⟨reason, -, hrun, hd⟩ | ⟨s, -, -, hrun, hd⟩
    · rw [hd, List.map_cons, ih hrun]
    · rw [hd, List.map_cons, ih hrun]

theorem taken_sublist (h : r.run cs = .ok r') : (r.taken cs).Sublist cs := by
  have hsub := (List.filter_sublist (p := fun d => d.2.isNone) (l := r.decisions cs)).map (·.1)
  rwa [map_fst_decisions h] at hsub

/-- A run fails at the first candidate that is not suppressed and cannot be applied. -/
theorem run_eq_error_iff {e : ArithmeticError} :
    r.run cs = .error e ↔ ∃ before c after s, cs = before ++ c :: after ∧
      r.run before = .ok s ∧ s.suppression? c = none ∧ s.apply c = .error e := by
  simp only [run, foldlM_eq_error_iff, consider_eq_error_iff]

/-- The entries that a run adds are those of the candidates it applies, in the same order. -/
theorem run_applied (h : r.run cs = .ok r') :
    ∃ entries, r'.resolution.applied = r.resolution.applied ++ entries ∧
      List.Forall₂ Candidate.Grants (r.taken cs) entries := by
  induction cs generalizing r with
  | nil =>
    rw [run, List.foldlM_nil, pure_eq_ok_iff] at h
    subst h
    exact ⟨[], by simp, by simp [taken, decisions]⟩
  | cons c cs ih =>
    rcases run_cons_taken h with ⟨reason, -, hrun, ht⟩ | ⟨s, -, happly, hrun, ht⟩
    · obtain ⟨entries, happlied, hall⟩ := ih hrun
      exact ⟨entries, happlied, by rwa [ht]⟩
    · obtain ⟨entries, happlied, hall⟩ := ih hrun
      refine ⟨c.entry (r.grantedAmount c) :: entries, ?_, ?_⟩
      · rw [happlied, (applies_of_apply happly).applied]
        simp
      · rw [ht]
        exact List.Forall₂.cons (grants_entry r c) hall

/-- What holds from the start and is kept by suppressing and by applying a candidate holds in the
end. -/
theorem run_invariant {P : Resolver → Prop}
    (hsuppress : ∀ r c reason, P r → r.suppression? c = some reason → P (r.suppress c reason))
    (happly : ∀ r c r', P r → r.suppression? c = none → r.Applies c r' → P r')
    (hr : P r) (h : r.run cs = .ok r') : P r' := by
  refine foldlM_invariant (fun s c t hs ht => ?_) hr h
  rcases consider_eq_ok_iff.1 ht with ⟨reason, hreason, rfl⟩ | ⟨hnone, ht⟩
  · exact hsuppress s c reason hs hreason
  · exact happly s c t hs hnone (applies_of_apply ht)

/-! ## Stages are one run -/

theorem considerAll_eq_run (cs : List Candidate) :
    ((r.considerAll cs).1.map fun () => (r.considerAll cs).2) = r.run cs := by
  induction cs generalizing r with
  | nil => rfl
  | cons c cs ih =>
    rw [considerAll, run, List.foldlM_cons]
    cases h : r.consider c with
    | error e => rfl
    | ok s => exact ih

theorem afterStage_eq_run (stage : Stage) (results : List EligibilityResult) :
    r.afterStage stage results = r.run (Candidate.inOrder (Candidate.ofResults stage results)) :=
  considerAll_eq_run _

theorem foldlM_afterStage (stages : List Stage) (results : List EligibilityResult) :
    stages.foldlM (fun r stage => r.afterStage stage results) r =
      r.run (stages.flatMap fun stage =>
        Candidate.inOrder (Candidate.ofResults stage results)) := by
  induction stages generalizing r with
  | nil => rfl
  | cons stage stages ih =>
    rw [List.foldlM_cons, List.flatMap_cons, run_append, afterStage_eq_run]
    exact congrArg _ (funext fun s => ih)

end Resolver

/-- The candidates that the resolution of a bill applies, in their order. -/
def takenFrom (bill : Bill) (results : List EligibilityResult) : List Candidate :=
  match Resolver.start bill with
  | .ok r => r.taken (Candidate.considered results)
  | .error _ => []

theorem start_eq_ok_iff {bill : Bill} {r : Resolver} :
    Resolver.start bill = .ok r ↔ ∃ subtotal, bill.subtotal = .ok subtotal ∧
      r = { bill, remaining := subtotal, resolution := { currency := bill.currency } } := by
  simp only [Resolver.start, bind_eq_ok_iff, pure_eq_ok_iff]
  exact exists_congr fun _ => and_congr_right fun _ => eq_comm

theorem resolve_eq_run (bill : Bill) (results : List EligibilityResult) :
    resolve bill results = do
      let r ← Resolver.start bill
      let r' ← r.run (Candidate.considered results)
      return r'.resolution := by
  rw [resolve]
  exact congrArg _ (funext fun r => congrArg (· >>= _) (Resolver.foldlM_afterStage _ _))

/-- Results that come in the order of each stage are considered as they come. -/
theorem resolve_of_pairwise {results : List EligibilityResult}
    (h : ∀ stage, (Candidate.ofResults stage results).Pairwise fun a b => a.notAfter b = true)
    (bill : Bill) :
    resolve bill results = do
      let r ← Resolver.start bill
      let r' ← r.run (Stage.inOrder.flatMap fun stage => Candidate.ofResults stage results)
      return r'.resolution := by
  have hconsidered : Candidate.considered results =
      Stage.inOrder.flatMap fun stage => Candidate.ofResults stage results :=
    List.flatMap_congr fun stage _ => Candidate.inOrder_of_pairwise (h stage)
  rw [resolve_eq_run, hconsidered]

theorem resolve_eq_ok_iff {bill : Bill} {results : List EligibilityResult} {out : Resolution} :
    resolve bill results = .ok out ↔ ∃ r r', Resolver.start bill = .ok r ∧
      r.run (Candidate.considered results) = .ok r' ∧ r'.resolution = out := by
  simp only [resolve_eq_run, bind_eq_ok_iff, pure_eq_ok_iff, exists_and_left]

theorem resolve_eq_error_iff {bill : Bill} {results : List EligibilityResult} {r : Resolver}
    (hr : Resolver.start bill = .ok r) {e : ArithmeticError} :
    resolve bill results = .error e ↔ r.run (Candidate.considered results) = .error e := by
  rw [resolve_eq_run, hr, bind_eq_error_iff]
  simp [bind_eq_error_iff, pure, Except.pure]

/-- The entries of a resolution are those of the candidates that are applied. -/
theorem resolve_applied {bill : Bill} {results : List EligibilityResult} {out : Resolution}
    (h : resolve bill results = .ok out) :
    List.Forall₂ Candidate.Grants (takenFrom bill results) out.applied := by
  obtain ⟨r, r', hstart, hrun, rfl⟩ := resolve_eq_ok_iff.1 h
  obtain ⟨entries, happlied, hall⟩ := Resolver.run_applied hrun
  obtain ⟨subtotal, -, rfl⟩ := start_eq_ok_iff.1 hstart
  simp only [takenFrom, hstart, happlied]
  exact hall

theorem takenFrom_sublist {bill : Bill} {results : List EligibilityResult} {out : Resolution}
    (h : resolve bill results = .ok out) :
    (takenFrom bill results).Sublist (Candidate.considered results) := by
  obtain ⟨r, r', hstart, hrun, rfl⟩ := resolve_eq_ok_iff.1 h
  simp only [takenFrom, hstart]
  exact Resolver.taken_sublist hrun

end Promotions

import Promotions.Proofs.Compile.Checks
import Promotions.Proofs.Decimal.Exact
import Promotions.Proofs.Eligibility.Alike
import Promotions.Proofs.Eligibility.Gates
import Promotions.Proofs.Eligibility.Layout

/-!
# Proofs: what a discount before changes

What was taken off the bill before only lowers the base of a promotion for the bill as a whole. No
gate and no least purchase looks at the base, so the same bills are rejected for the same reasons,
and a formula that does look at it grants no more of less. The exception are tiers, which are chosen
by the base.
-/

namespace Promotions

open Fallible Judged

/-! ## No less -/

/-- The same benefit is granted for the same lines, and the first discount is no less. -/
structure Grant.NoLess (g g' : Grant) : Prop where
  benefit : g.benefit = g'.benefit
  affected : g.affected = g'.affected
  discount : g'.discount ≤ g.discount

theorem Grant.NoLess.refl (g : Grant) : g.NoLess g := ⟨rfl, rfl, Int.le_refl _⟩

/-- The bill is eligible by both verdicts, and by the first for no less, or it is rejected or cannot
be judged for the same reason. -/
inductive Verdict.NoLess : Verdict → Verdict → Prop
  | eligible {g g' : Grant} (h : g.NoLess g') : NoLess (.eligible g) (.eligible g')
  | ineligible (reason : Reason) : NoLess (.ineligible reason) (.ineligible reason)
  | error (fault : Fault) : NoLess (.error fault) (.error fault)

theorem Verdict.noLess_ofJudged {x y : Judged Grant} (h : Alike Grant.NoLess x y) :
    (ofJudged x).NoLess (ofJudged y) := by
  cases h with
  | ok hgrant => exact .eligible hgrant
  | error e =>
    cases e with
    | ineligible reason => exact .ineligible reason
    | fault fault => exact .error fault

/-! ## Percentages -/

/-- The percentage of the value. -/
def DiscountValue.percentage? : DiscountValue → Option Decimal
  | percent points => some points
  | amount _ => none

/-- The percentage of the rule. -/
def Rule.percentage? : Rule → Option Decimal
  | percentDiscount r => some r.percent
  | buyXGetY r => some r.percent
  | happyHour r =>
    match r.pricing with
    | .percent points => some points
    | _ => none
  | cashback r => r.value.percentage?
  | paymentDiscount r => r.value.percentage?
  | _ => none

section Shares

variable {base base' : Amount}

/-- Amounts that are calculated alike, the second of which is no more. -/
abbrev SharesAlike : Except ArithmeticError Amount → Except ArithmeticError Amount → Prop :=
  Alike fun share share' => share' ≤ share

theorem Decimal.percentOf_alike {points : Decimal} (h : points.IsPercentage)
    (hplaces : points.FitsPlaces 6) (hle : base' ≤ base) :
    SharesAlike (points.percentOf base) (points.percentOf base') := by
  obtain ⟨share, hshare, -⟩ := percentOf_isPartOf h base
  obtain ⟨share', hshare', -⟩ := percentOf_isPartOf h base'
  have hmono := percentOf_mono_base h hplaces hle hshare' hshare
  rw [hshare, hshare']
  exact .ok hmono

theorem Amount.capped_mono {a b : Amount} (h : a ≤ b) (cap : Option Amount) :
    a.capped cap ≤ b.capped cap := by
  cases cap with
  | none => exact h
  | some cap =>
    have hle := Amount.le_iff.1 h
    unfold capped
    rw [Amount.le_iff, toInt_min, toInt_min]
    omega

theorem Decimal.cappedPercentOf_alike {points : Decimal} (h : points.IsPercentage)
    (hplaces : points.FitsPlaces 6) (hle : base' ≤ base) (cap : Option Amount) :
    SharesAlike (points.cappedPercentOf base cap) (points.cappedPercentOf base' cap) := by
  unfold cappedPercentOf
  rcases (percentOf_alike h hplaces hle).ok_or_error with ⟨a, b, ha, hb, hab⟩ | ⟨e, ha, hb⟩
  · rw [ha, hb]
    exact .ok (Amount.capped_mono hab cap)
  · rw [ha, hb]
    exact .error e

theorem DiscountValue.of_alike {value : DiscountValue} (h : value.WellFormed)
    (hplaces : ∀ points, value.percentage? = some points → points.FitsPlaces 6)
    (hle : base' ≤ base) (cap : Option Amount) :
    SharesAlike (value.of cap base) (value.of cap base') := by
  cases value with
  | percent points =>
    exact Decimal.cappedPercentOf_alike h.isPercentage (hplaces points rfl) hle cap
  | amount value => exact .ok (Int.le_refl _)

end Shares

/-! ## Formulas -/

section Formulas

variable {b : Basis} {base : Amount}

/-- An amount of the base is granted as it is. -/
theorem Judged.noLess_of_shares {x y : Except ArithmeticError Amount} (h : SharesAlike x y)
    (benefit : Benefit) (affected : List Nat) :
    Alike Grant.NoLess (do return { discount := ← x, benefit, affected } : Judged Grant)
      (do return { discount := ← y, benefit, affected }) :=
  (liftM_alike h).bind fun _ _ hle => .ok ⟨rfl, rfl, hle⟩

theorem HappyHour.grant_noLess {r : HappyHour} (hr : r.WellFormed)
    (hplaces : ∀ points, (Rule.happyHour r).percentage? = some points → points.FitsPlaces 6)
    (hle : base ≤ b.base) :
    Alike Grant.NoLess (r.grant b) (r.grant { b with base := base }) := by
  have hpricing := hr.pricing
  unfold Rule.percentage? at hplaces
  unfold grant
  dsimp only at hplaces ⊢
  cases hkind : r.pricing with
  | percent points =>
    rw [hkind] at hpricing hplaces
    exact noLess_of_shares (Decimal.percentOf_alike hpricing.isPercentage (hplaces points rfl) hle)
      .discount _
  | amount amount =>
    refine .ok ⟨rfl, rfl, ?_⟩
    have hbase := Amount.le_iff.1 hle
    rw [Amount.le_iff, Amount.toInt_min, Amount.toInt_min]
    omega
  | specialPrice price => exact (Alike.refl _).mono fun _ _ h => h ▸ .refl _

/-- A formula grants no more where the base is less, unless it chooses a tier by it. -/
theorem Rule.formula_noLess {rule : Rule} (hrule : rule.WellFormed)
    (htier : ∀ r, rule ≠ .thresholdTier r)
    (hplaces : ∀ points, rule.percentage? = some points → points.FitsPlaces 6)
    (hle : base ≤ b.base) :
    Alike Grant.NoLess (rule.formula b) (rule.formula { b with base := base }) := by
  -- most formulas look at the lines alone
  have hsame (h : rule.formula b = rule.formula { b with base := base }) :
      Alike Grant.NoLess (rule.formula b) (rule.formula { b with base := base }) :=
    (Alike.of_eq h).mono fun _ _ heq => heq ▸ .refl _
  cases rule with
  | percentDiscount r =>
    refine .bind_same (b.requireMinimum r.minPurchase) fun _ => ?_
    exact noLess_of_shares (Decimal.cappedPercentOf_alike hrule.percent.isPercentage
      (hplaces _ rfl) hle r.maxCap) .discount _
  | amountDiscount r => exact hsame rfl
  | buyXGetY r => exact hsame rfl
  | combo r => exact hsame rfl
  | freeItem r => exact hsame rfl
  | happyHour r => exact HappyHour.grant_noLess hrule hplaces hle
  | cashback r =>
    refine .bind_same (b.requirePayment r.paymentMethods) fun _ => ?_
    refine .bind_same (b.requireMinimum r.minPurchase) fun _ => ?_
    exact noLess_of_shares (DiscountValue.of_alike hrule.value hplaces hle r.maxCap) .cashback _
  | paymentDiscount r =>
    refine .bind_same (b.requirePayment r.paymentMethods) fun _ => ?_
    refine .bind_same (b.requireMinimum r.minPurchase) fun _ => ?_
    exact noLess_of_shares (DiscountValue.of_alike hrule.value hplaces hle r.maxCap) .discount _
  | package r => exact hsame rfl
  | mixMatch r => exact hsame rfl
  | upsell r => exact hsame rfl
  | thresholdTier r => exact absurd rfl (htier r)

theorem Rule.grant_noLess {rule : Rule} (hrule : rule.WellFormed)
    (htier : ∀ r, rule ≠ .thresholdTier r)
    (hplaces : ∀ points, rule.percentage? = some points → points.FitsPlaces 6)
    (hle : base ≤ b.base) :
    Alike Grant.NoLess (rule.grant b) (rule.grant { b with base := base }) := by
  unfold grant
  refine (formula_noLess hrule htier hplaces hle).bind fun g g' hg =>
    .ok ⟨hg.benefit, hg.affected, ?_⟩
  have hdiscount := Amount.le_iff.1 hg.discount
  have hbase := Amount.le_iff.1 hle
  show Amount.clamp g'.discount base ≤ Amount.clamp g.discount b.base
  rw [Amount.le_iff, Amount.toInt_clamp, Amount.toInt_clamp]
  omega

end Formulas

/-! ## Documents -/

namespace Document

variable {d : Document} {ctx : Context} {p q : Amount}

/-- After more was taken off the bill, the base is no more. -/
theorem base_anti (d : Document) (ctx : Context) (hle : p ≤ q) (e : EligibleLines) :
    d.base { ctx with priorDiscount := q } e ≤ d.base { ctx with priorDiscount := p } e := by
  have hprior := Amount.le_iff.1 hle
  rw [Amount.le_iff, toInt_base, toInt_base]
  dsimp only
  split <;> omega

theorem base_of_not_billScoped (h : d.targeting.applyTo.isBillScoped = false)
    (e : EligibleLines) :
    d.base { ctx with priorDiscount := p } e = e.subtotal := by
  unfold base
  rw [h]
  rfl

/-- Only the base tells of what was taken off the bill before. -/
theorem judge_prior {R : Grant → Grant → Prop}
    (h : ∀ e, Alike R
      (d.rule.grant ⟨ctx.bill, ctx.catalog, e, d.base { ctx with priorDiscount := p } e⟩)
      (d.rule.grant ⟨ctx.bill, ctx.catalog, e, d.base { ctx with priorDiscount := q } e⟩)) :
    Alike R (d.judge { ctx with priorDiscount := p })
      (d.judge { ctx with priorDiscount := q }) := by
  unfold judge
  dsimp only
  cases d.checkForm ctx.bill with
  | error fault => exact .error _
  | ok done =>
    refine .bind_same (d.validityGate ctx) fun _ => ?_
    refine .bind_same (d.scopeGate ctx) fun _ => ?_
    refine .bind_same _ fun e => ?_
    refine .bind_same (d.targetingGate e) fun _ => ?_
    refine .bind_same (d.customerGate ctx) fun _ => ?_
    refine .bind_same (d.thresholdGate e) fun _ => ?_
    exact .bind_same (d.limitGate ctx) fun _ => h e

end Document

/-- After more was taken off the bill before, a document that was compiled from a promotion without
tiers gives the same verdict for no more. A document that is not for the bill as a whole gives the
very same. -/
theorem Compiler.evaluate_prior_mono {c : Compiler} {p : Promotion} {compiledAt : Timestamp}
    {d : Document} (hd : c.compile p compiledAt = .ok d) (htier : ∀ r, d.rule ≠ .thresholdTier r)
    (hplaces : ∀ points, d.rule.percentage? = some points → points.FitsPlaces 6) (ctx : Context)
    {less more : Amount} (hle : less ≤ more) :
    (d.evaluate { ctx with priorDiscount := less }).verdict.NoLess
        (d.evaluate { ctx with priorDiscount := more }).verdict ∧
      (d.targeting.applyTo = .all ∨ d.targeting.applyTo = .category ∨
          d.targeting.applyTo = .product →
        (d.evaluate { ctx with priorDiscount := less }).verdict =
          (d.evaluate { ctx with priorDiscount := more }).verdict) := by
  have hrule := (compile_wellFormed hd).rule
  constructor
  · refine Verdict.noLess_ofJudged (Document.judge_prior fun e => ?_)
    exact Rule.grant_noLess hrule htier hplaces (d.base_anti ctx hle e)
  · intro happlyTo
    have hscope : d.targeting.applyTo.isBillScoped = false := by
      rcases happlyTo with h | h | h <;> rw [h] <;> rfl
    refine congrArg Verdict.ofJudged (Alike.eq (Document.judge_prior fun e => ?_))
    rw [Document.base_of_not_billScoped hscope, Document.base_of_not_billScoped hscope]
    exact Alike.refl _

/-- An eighth off the bill. -/
def Sample.eighthOff : Promotion :=
  { Promotion.new .percentDiscount (id 8) (id 1) "E" date date with
    applyTo := .bill
    discountPercent := some eighth }

/-- An eighth of the bill is thirteen, and ten after twenty were taken off it. -/
theorem Compiler.evaluate_prior_mono_shop :
    ∃ d, Sample.compiler.compile Sample.eighthOff .epoch = .ok d ∧
      (d.evaluate { Sample.context with priorDiscount := 0 }).verdict.NoLess
        (d.evaluate { Sample.context with priorDiscount := Sample.amount 20 }).verdict ∧
      (d.evaluate { Sample.context with priorDiscount := Sample.amount 20 }).verdict =
        .eligible ⟨Sample.amount 10, .discount, [0, 1]⟩ := by
  obtain ⟨d, hd⟩ : ∃ d, Sample.compiler.compile Sample.eighthOff .epoch = .ok d := ⟨_, rfl⟩
  have hrule : Sample.eighthOff.rule = .ok (.percentDiscount ⟨Sample.eighth, none, 0⟩) := rfl
  have hcompiled := (compiles_of_compile hd).rule
  have hpercent := Except.ok.inj (hrule.symm.trans hcompiled)
  have htier : ∀ r, d.rule ≠ .thresholdTier r := by
    rw [← hpercent]
    exact fun _ => nofun
  have hplaces : ∀ points, d.rule.percentage? = some points → points.FitsPlaces 6 := by
    rw [← hpercent]
    intro points hpoints
    obtain rfl := Option.some.inj hpoints
    exact ⟨12500000, by norm_num [Decimal.value, Sample.eighth]⟩
  have hle : (0 : Amount) ≤ Sample.amount 20 := by decide
  have hmono := (evaluate_prior_mono hd htier hplaces Sample.context hle).1
  refine ⟨d, hd, hmono, ?_⟩
  obtain rfl := Except.ok.inj hd
  decide +kernel

end Promotions

import Promotions.Eligibility
import Promotions.Proofs.Fallible

/-!
# Proofs: what the gates let pass

A document grants something only for a bill that passes every gate, so what a gate asks for holds of
the bill. A bill that does not pass is rejected for a reason of the gate that rejects it, and never
for a condition that holds.
-/

namespace Promotions

open Fallible

namespace Judged

variable {α β : Type} {P Q : Reason → Prop}

theorem require_eq_ok_iff {condition : Bool} {reason : Reason} {done : Unit} :
    require condition reason = .ok done ↔ condition = true := by
  by_cases h : condition = true <;> simp [require, h]

theorem lift_eq_ok_iff {x : Except ArithmeticError α} {a : α} :
    (liftM x : Judged α) = .ok a ↔ x = .ok a := by
  cases x with
  | ok b => simp
  | error e => simp

/-- If the bill is rejected, it is for one of the reasons. -/
def RejectsFor (P : Reason → Prop) (x : Judged α) : Prop :=
  ∀ reason, x = .error (.ineligible reason) → P reason

theorem RejectsFor.fault (fault : Fault) :
    RejectsFor P (.error (.fault fault) : Judged α) := by
  intro reason h
  cases h

/-- What stops the computation is one of the reasons, or an amount that cannot be calculated. -/
def StopsFor (P : Reason → Prop) (x : Judged α) : Prop :=
  ∀ rejection, x = .error rejection →
    (∃ reason, rejection = .ineligible reason ∧ P reason) ∨
      ∃ e, rejection = .fault (.arithmetic e)

namespace StopsFor

theorem ok (a : α) : StopsFor P (.ok a : Judged α) := by
  intro rejection h
  cases h

theorem lift (x : Except ArithmeticError α) : StopsFor P (liftM x : Judged α) := by
  intro rejection h
  cases x with
  | ok a => cases h
  | error e =>
    rw [liftM_error] at h
    exact .inr ⟨e, (Except.error.inj h).symm⟩

theorem require {condition : Bool} {reason : Reason} (h : condition = false → P reason) :
    StopsFor P (Judged.require condition reason) := by
  intro rejection hstop
  cases condition with
  | true => cases hstop
  | false => exact .inl ⟨reason, (Except.error.inj hstop).symm, h rfl⟩

theorem orReject {reason : Reason} {a? : Option α} (h : P reason) :
    StopsFor P (Judged.orReject reason a?) := by
  intro rejection hstop
  cases a? with
  | some a => cases hstop
  | none => exact .inl ⟨reason, (Except.error.inj hstop).symm, h⟩

theorem bind {x : Judged α} {f : α → Judged β} (hx : StopsFor P x) (hf : ∀ a, StopsFor P (f a)) :
    StopsFor P (x >>= f) := by
  intro rejection h
  rcases bind_eq_error_iff.1 h with h | ⟨a, -, h⟩
  · exact hx rejection h
  · exact hf a rejection h

theorem foldlM {σ : Type} {step : σ → α → Judged σ} (hstep : ∀ s a, StopsFor P (step s a))
    (as : List α) (s : σ) : StopsFor P (as.foldlM step s) := by
  induction as generalizing s with
  | nil => exact ok s
  | cons a as ih =>
    rw [List.foldlM_cons]
    exact (hstep s a).bind ih

theorem mono {x : Judged α} (h : StopsFor P x) (hPQ : ∀ reason, P reason → Q reason) :
    StopsFor Q x := by
  intro rejection hstop
  rcases h rejection hstop with ⟨reason, hreason, hP⟩ | hfault
  · exact .inl ⟨reason, hreason, hPQ reason hP⟩
  · exact .inr hfault

theorem rejectsFor {x : Judged α} (h : StopsFor P x) : RejectsFor P x := by
  intro reason hreject
  rcases h _ hreject with ⟨reason', hreason, hP⟩ | ⟨e, hfault⟩
  · cases hreason
    exact hP
  · cases hfault

theorem arithmetic {x : Judged α} (h : StopsFor P x) {fault : Fault}
    (hfault : x = .error (.fault fault)) : ∃ e, fault = .arithmetic e := by
  rcases h _ hfault with ⟨reason, hreason, -⟩ | ⟨e, he⟩
  · cases hreason
  · cases he
    exact ⟨e, rfl⟩

end StopsFor

end Judged

open Judged

/-- A reason that has nothing to do with the date, the store or the brand. -/
abbrev Reason.IsBeyondPlace (reason : Reason) : Prop :=
  reason ≠ .outsideDateRange ∧ reason ≠ .storeNotInScope ∧ reason ≠ .brandNotInScope

/-! ## Formulas -/

/-- The least purchase that a rule asks for itself. -/
def Rule.minPurchase? : Rule → Option Amount
  | percentDiscount r => some r.minPurchase
  | amountDiscount r => some r.minPurchase
  | cashback r => some r.minPurchase
  | paymentDiscount r => some r.minPurchase
  | _ => none

/-- A reason that a formula may give. It is the least purchase only where the eligible lines do not
reach it. -/
def Basis.Rejects (b : Basis) (least? : Option Amount) (reason : Reason) : Prop :=
  reason.gate = .rule ∧
    (reason = .ruleMinimumNotMet → ∃ least, least? = some least ∧ ¬least ≤ b.lines.subtotal)

namespace Basis

variable {least? : Option Amount} {reason : Reason}

theorem stopsFor_require (b : Basis) {condition : Bool} (hgate : reason.gate = .rule)
    (hother : reason ≠ .ruleMinimumNotMet) :
    StopsFor (b.Rejects least?) (require condition reason) :=
  StopsFor.require fun _ => ⟨hgate, fun h => absurd h hother⟩

theorem stopsFor_orReject (b : Basis) {α : Type} {a? : Option α} (hgate : reason.gate = .rule)
    (hother : reason ≠ .ruleMinimumNotMet) :
    StopsFor (b.Rejects least?) (orReject reason a?) :=
  StopsFor.orReject ⟨hgate, fun h => absurd h hother⟩

theorem stopsFor_requireMinimum (b : Basis) (least : Amount) :
    StopsFor (b.Rejects (some least)) (b.requireMinimum least) :=
  StopsFor.require fun h => ⟨rfl, fun _ => ⟨least, rfl, of_decide_eq_false h⟩⟩

theorem stopsFor_requirePayment (b : Basis) (methods : SortedSet String) :
    StopsFor (b.Rejects least?) (b.requirePayment methods) := by
  refine StopsFor.bind (b.stopsFor_orReject rfl nofun) fun method => ?_
  exact b.stopsFor_require rfl nofun

end Basis

theorem PercentDiscount.stopsFor_grant (r : PercentDiscount) (b : Basis) :
    StopsFor (b.Rejects (some r.minPurchase)) (r.grant b) := by
  refine (b.stopsFor_requireMinimum _).bind fun _ => ?_
  exact (StopsFor.lift _).bind fun _ => StopsFor.ok _

theorem AmountDiscount.stopsFor_grant (r : AmountDiscount) (b : Basis) :
    StopsFor (b.Rejects (some r.minPurchase)) (r.grant b) :=
  (b.stopsFor_requireMinimum _).bind fun _ => StopsFor.ok _

theorem BuyXGetY.stopsFor_grant (r : BuyXGetY) (b : Basis) :
    StopsFor (b.Rejects none) (r.grant b) := by
  rw [grant]
  split
  · refine StopsFor.bind (b.stopsFor_orReject rfl nofun) fun p => ?_
    refine (StopsFor.lift _).bind fun value => ?_
    exact (StopsFor.lift _).bind fun _ => StopsFor.ok _
  · refine StopsFor.bind (b.stopsFor_require rfl nofun) fun _ => ?_
    refine StopsFor.bind (b.stopsFor_orReject rfl nofun) fun price => ?_
    refine (StopsFor.lift _).bind fun value => ?_
    exact (StopsFor.lift _).bind fun _ => StopsFor.ok _

theorem Combo.stopsFor_setValue (r : Combo) (b : Basis) :
    StopsFor (b.Rejects none) (r.setValue b) := by
  refine StopsFor.foldlM (fun value product => ?_) _ _
  refine StopsFor.bind (b.stopsFor_orReject rfl nofun) fun price => ?_
  exact StopsFor.lift _

theorem Combo.stopsFor_grant (r : Combo) (b : Basis) :
    StopsFor (b.Rejects none) (r.grant b) := by
  refine StopsFor.bind (b.stopsFor_require rfl nofun) fun _ => ?_
  refine (r.stopsFor_setValue b).bind fun value => ?_
  exact (StopsFor.lift _).bind fun _ => StopsFor.ok _

theorem FreeItem.stopsFor_grant (r : FreeItem) (b : Basis) :
    StopsFor (b.Rejects none) (r.grant b) := by
  refine StopsFor.bind (b.stopsFor_require rfl nofun) fun _ => ?_
  refine StopsFor.bind (b.stopsFor_orReject rfl nofun) fun product => ?_
  refine StopsFor.bind (b.stopsFor_orReject rfl nofun) fun price => ?_
  exact (StopsFor.lift _).bind fun _ => StopsFor.ok _

theorem HappyHour.stopsFor_grant (r : HappyHour) (b : Basis) :
    StopsFor (b.Rejects none) (r.grant b) := by
  rw [grant]
  split
  · exact (StopsFor.lift _).bind fun _ => StopsFor.ok _
  · exact StopsFor.ok _
  · exact (StopsFor.lift _).bind fun _ => StopsFor.ok _

theorem Cashback.stopsFor_grant (r : Cashback) (b : Basis) :
    StopsFor (b.Rejects (some r.minPurchase)) (r.grant b) := by
  refine (b.stopsFor_requirePayment _).bind fun _ => ?_
  refine (b.stopsFor_requireMinimum _).bind fun _ => ?_
  exact (StopsFor.lift _).bind fun _ => StopsFor.ok _

theorem PaymentDiscount.stopsFor_grant (r : PaymentDiscount) (b : Basis) :
    StopsFor (b.Rejects (some r.minPurchase)) (r.grant b) := by
  refine (b.stopsFor_requirePayment _).bind fun _ => ?_
  refine (b.stopsFor_requireMinimum _).bind fun _ => ?_
  exact (StopsFor.lift _).bind fun _ => StopsFor.ok _

/-- A component that is not on the bill is no reason yet. -/
theorem Component.stopsFor_find (c : Component) (b : Basis) :
    StopsFor (b.Rejects none) (c.find b) := by
  rw [find]
  split
  · rw [findFixed]
    split
    · split
      · exact (StopsFor.lift _).bind fun _ => StopsFor.ok _
      · exact StopsFor.ok _
    · exact StopsFor.ok _
  · rw [findChoice]
    split
    · exact (StopsFor.lift _).bind fun _ => StopsFor.ok _
    · exact StopsFor.ok _
  · exact StopsFor.ok _

theorem Package.stopsFor_step (b : Basis) (p : Progress) (c : Component) :
    StopsFor (b.Rejects none) (p.step b c) := by
  refine (c.stopsFor_find b).bind fun found => ?_
  cases found with
  | some component => exact (StopsFor.lift _).bind fun _ => StopsFor.ok _
  | none => exact StopsFor.bind (b.stopsFor_require rfl nofun) fun _ => StopsFor.ok _

theorem Package.stopsFor_grant (r : Package) (b : Basis) :
    StopsFor (b.Rejects none) (r.grant b) := by
  refine (StopsFor.foldlM (stopsFor_step b) _ _).bind fun progress => ?_
  exact StopsFor.bind (b.stopsFor_require rfl nofun) fun _ => StopsFor.ok _

theorem MixMatch.stopsFor_grant (r : MixMatch) (b : Basis) :
    StopsFor (b.Rejects none) (r.grant b) := by
  refine (StopsFor.lift _).bind fun groups => ?_
  exact StopsFor.bind (b.stopsFor_require rfl nofun) fun _ => StopsFor.ok _

theorem Upsell.stopsFor_grant (r : Upsell) (b : Basis) :
    StopsFor (b.Rejects none) (r.grant b) := by
  refine StopsFor.bind (b.stopsFor_require rfl nofun) fun _ => ?_
  exact StopsFor.bind (b.stopsFor_orReject rfl nofun) fun _ => StopsFor.ok _

theorem TierBenefit.stopsFor_grant (t : TierBenefit) (b : Basis) :
    StopsFor (b.Rejects none) (t.grant b) := by
  cases t with
  | percent points => exact (StopsFor.lift _).bind fun _ => StopsFor.ok _
  | amount value => exact StopsFor.ok _
  | freeProduct product => exact StopsFor.bind (b.stopsFor_orReject rfl nofun) fun _ => StopsFor.ok _
  | pointsMultiplier multiplier => exact StopsFor.ok _

theorem ThresholdTier.stopsFor_grant (r : ThresholdTier) (b : Basis) :
    StopsFor (b.Rejects none) (r.grant b) :=
  StopsFor.bind (b.stopsFor_orReject rfl nofun) fun (tier : Tier) => tier.benefit.stopsFor_grant b

theorem Rule.stopsFor_formula (r : Rule) (b : Basis) :
    StopsFor (b.Rejects r.minPurchase?) (r.formula b) := by
  cases r with
  | percentDiscount r => exact r.stopsFor_grant b
  | amountDiscount r => exact r.stopsFor_grant b
  | buyXGetY r => exact r.stopsFor_grant b
  | combo r => exact r.stopsFor_grant b
  | freeItem r => exact r.stopsFor_grant b
  | happyHour r => exact r.stopsFor_grant b
  | cashback r => exact r.stopsFor_grant b
  | paymentDiscount r => exact r.stopsFor_grant b
  | package r => exact r.stopsFor_grant b
  | mixMatch r => exact r.stopsFor_grant b
  | upsell r => exact r.stopsFor_grant b
  | thresholdTier r => exact r.stopsFor_grant b

theorem Rule.stopsFor_grant (r : Rule) (b : Basis) :
    StopsFor (b.Rejects r.minPurchase?) (r.grant b) :=
  (r.stopsFor_formula b).bind fun _ => StopsFor.ok _

/-- What is granted is between nothing and the base. -/
theorem Rule.discount_of_grant {r : Rule} {b : Basis} {g : Grant} (h : r.grant b = .ok g) :
    0 ≤ g.discount.toInt ∧ g.discount.toInt ≤ max 0 b.base.toInt := by
  obtain ⟨raw, -, h⟩ := bind_eq_ok_iff.1 h
  obtain rfl := pure_eq_ok_iff.1 h
  have hclamp := Amount.toInt_clamp raw.discount b.base
  dsimp only
  omega

namespace Document

variable {d : Document} {ctx : Context} {grant : Grant}

/-! ## Passing -/

/-- The bill passes every gate of the document, with the eligible lines. -/
structure Passes (d : Document) (ctx : Context) (lines : EligibleLines) : Prop where
  form : d.checkForm ctx.bill = .ok ()
  validity : d.validityGate ctx = .ok ()
  scope : d.scopeGate ctx = .ok ()
  select : EligibleLines.select d.targeting ctx.bill ctx.catalog = .ok lines
  targeting : d.targetingGate lines = .ok ()
  customer : d.customerGate ctx = .ok ()
  threshold : d.thresholdGate lines = .ok ()
  limit : d.limitGate ctx = .ok ()

theorem judge_eq_ok_iff :
    d.judge ctx = .ok grant ↔ ∃ lines, d.Passes ctx lines ∧
      d.rule.grant { bill := ctx.bill, catalog := ctx.catalog, lines, base := d.base ctx lines } =
        .ok grant := by
  rw [judge]
  cases hform : d.checkForm ctx.bill with
  | error fault =>
    simp only [reduceCtorEq, false_iff, not_exists, not_and]
    intro lines hpasses
    rw [hpasses.form] at hform
    cases hform
  | ok form =>
    simp only [bind_eq_ok_iff, lift_eq_ok_iff]
    constructor
    · rintro ⟨_, hvalidity, _, hscope, lines, hlines, _, htargeting, _, hcustomer, _, hthreshold,
        _, hlimit, hgrant⟩
      exact ⟨lines, ⟨hform, hvalidity, hscope, hlines, htargeting, hcustomer, hthreshold, hlimit⟩,
        hgrant⟩
    · rintro ⟨lines, h, hgrant⟩
      exact ⟨(), h.validity, (), h.scope, lines, h.select, (), h.targeting, (), h.customer, (),
        h.threshold, (), h.limit, hgrant⟩

/-- What comes of a bill that passes is what the rule grants. -/
theorem Passes.judge_eq {lines : EligibleLines} (h : d.Passes ctx lines) :
    d.judge ctx = d.rule.grant
      { bill := ctx.bill, catalog := ctx.catalog, lines, base := d.base ctx lines } := by
  rw [judge, h.form]
  dsimp only
  rw [h.validity, ok_bind, h.scope, ok_bind, h.select, liftM_ok, ok_bind, h.targeting, ok_bind,
    h.customer, ok_bind, h.threshold, ok_bind, h.limit, ok_bind]

/-- The base is the price of the eligible lines; for the bill as a whole it is what is left of that,
if anything is. -/
theorem toInt_base (d : Document) (ctx : Context) (lines : EligibleLines) :
    (d.base ctx lines).toInt =
      if d.targeting.applyTo.isBillScoped then
        max 0 (lines.subtotal.toInt - max 0 ctx.priorDiscount.toInt)
      else lines.subtotal.toInt := by
  have hprior : (max ctx.priorDiscount 0).toInt = max 0 ctx.priorDiscount.toInt := by
    rw [Amount.toInt_max, Amount.toInt_zero, Int.max_comm]
  have hnonneg : 0 ≤ max ctx.priorDiscount 0 := Amount.le_iff.2 (hprior ▸ Int.le_max_left 0 _)
  rw [base]
  split
  · rw [Amount.toInt_excess hnonneg, hprior]
  · rfl

theorem verdict_eq_eligible_iff :
    (d.evaluate ctx).verdict = .eligible grant ↔ d.judge ctx = .ok grant := by
  show Verdict.ofJudged (d.judge ctx) = _ ↔ _
  rcases d.judge ctx with (reason | fault) | granted <;> simp [Verdict.ofJudged]

theorem verdict_eq_ineligible_iff {reason : Reason} :
    (d.evaluate ctx).verdict = .ineligible reason ↔
      d.judge ctx = .error (.ineligible reason) := by
  show Verdict.ofJudged (d.judge ctx) = _ ↔ _
  rcases d.judge ctx with (reason | fault) | granted <;> simp [Verdict.ofJudged]

theorem verdict_eq_error_iff {fault : Fault} :
    (d.evaluate ctx).verdict = .error fault ↔ d.judge ctx = .error (.fault fault) := by
  show Verdict.ofJudged (d.judge ctx) = _ ↔ _
  rcases d.judge ctx with (reason | fault) | granted <;> simp [Verdict.ofJudged]

theorem grant?_evaluate : (d.evaluate ctx).grant? = some grant ↔ d.judge ctx = .ok grant := by
  rw [← verdict_eq_eligible_iff, EligibilityResult.grant?]
  cases (d.evaluate ctx).verdict <;> simp

theorem reason?_evaluate {reason : Reason} :
    (d.evaluate ctx).reason? = some reason ↔ d.judge ctx = .error (.ineligible reason) := by
  rw [← verdict_eq_ineligible_iff, EligibilityResult.reason?]
  cases (d.evaluate ctx).verdict <;> simp

theorem coversDate_of_validityGate (h : d.validityGate ctx = .ok ()) :
    d.validity.coversDate ctx.bill.localTime.date = true := by
  obtain ⟨_, hdate, _⟩ := bind_eq_ok_iff.1 h
  exact require_eq_ok_iff.1 hdate

theorem coversTime_of_validityGate (h : d.validityGate ctx = .ok ()) :
    d.validity.coversTime ctx.bill.localTime.clock = true ∧
      d.validity.weekdays.allows ctx.bill.localTime.date.weekday = true := by
  obtain ⟨_, _, h⟩ := bind_eq_ok_iff.1 h
  obtain ⟨_, htime, h⟩ := bind_eq_ok_iff.1 h
  obtain ⟨_, hweekday, _⟩ := bind_eq_ok_iff.1 h
  exact ⟨require_eq_ok_iff.1 htime, require_eq_ok_iff.1 hweekday⟩

theorem minPurchase_of_thresholdGate {lines : EligibleLines}
    (h : d.thresholdGate lines = .ok ()) : d.requirements.minPurchase ≤ lines.subtotal := by
  obtain ⟨_, hleast, _⟩ := bind_eq_ok_iff.1 h
  exact of_decide_eq_true (require_eq_ok_iff.1 hleast)

theorem includes_of_scopeGate (h : d.scopeGate ctx = .ok ()) :
    d.scope.stores.includes ctx.bill.storeId = true ∧
      d.scope.coversBrand ctx.bill.brandId = true := by
  obtain ⟨_, hstore, h⟩ := bind_eq_ok_iff.1 h
  obtain ⟨_, hbrand, _⟩ := bind_eq_ok_iff.1 h
  exact ⟨require_eq_ok_iff.1 hstore, require_eq_ok_iff.1 hbrand⟩

/-- What the limits are measured against. -/
def usageSeen (d : Document) (ctx : Context) : Usage :=
  (ctx.usage.bind (·.find? d.id)).getD { total := d.limits.currentUses }

theorem isBelow_iff {count : Count} {limit : Option Count} :
    isBelow count limit = true ↔ ∀ max, limit = some max → count < max := by
  simp [isBelow, Option.all_eq_true]

theorem limitGate_eq_ok_iff :
    d.limitGate ctx = .ok () ↔ isBelow (d.usageSeen ctx).total d.limits.maxUses = true ∧
      isBelow (d.usageSeen ctx).today d.limits.maxUsesPerDay = true ∧
      (ctx.bill.member.isSome = true →
        isBelow (d.usageSeen ctx).byCustomer d.limits.maxUsesPerCustomer = true) := by
  rw [limitGate]
  simp only [bind_eq_ok_iff, require_eq_ok_iff, exists_const, Bool.or_eq_true]
  cases ctx.bill.member with
  | none => simp [usageSeen]
  | some member => simp [usageSeen]

/-! ## Being rejected -/

/-- The gate of validity rejects for its reasons, and never for a date that is covered. -/
theorem stopsFor_validityGate :
    StopsFor (fun reason => reason.gate = .validity ∧
      (reason = .outsideDateRange → d.validity.coversDate ctx.bill.localTime.date = false))
      (d.validityGate ctx) := by
  refine StopsFor.bind (StopsFor.require fun hdate => ⟨rfl, fun _ => hdate⟩) fun _ => ?_
  refine StopsFor.bind (StopsFor.require fun _ => ⟨rfl, nofun⟩) fun _ => ?_
  refine StopsFor.bind (StopsFor.require fun _ => ⟨rfl, nofun⟩) fun _ => ?_
  exact StopsFor.require fun _ => ⟨rfl, nofun⟩

/-- The gate of scope rejects for its reasons, and never for a store or a brand that is covered. -/
theorem stopsFor_scopeGate :
    StopsFor (fun reason => reason.gate = .scope ∧
      (reason = .storeNotInScope → d.scope.stores.includes ctx.bill.storeId = false) ∧
      (reason = .brandNotInScope → d.scope.coversBrand ctx.bill.brandId = false))
      (d.scopeGate ctx) := by
  refine StopsFor.bind (StopsFor.require fun hstore => ⟨rfl, fun _ => hstore, nofun⟩) fun _ => ?_
  refine StopsFor.bind (StopsFor.require fun hbrand => ⟨rfl, nofun, fun _ => hbrand⟩) fun _ => ?_
  refine StopsFor.bind (StopsFor.require fun _ => ⟨rfl, nofun, nofun⟩) fun _ => ?_
  split
  · refine (StopsFor.lift _).bind fun _ => ?_
    exact StopsFor.require fun _ => ⟨rfl, nofun, nofun⟩
  · exact StopsFor.ok _

theorem stopsFor_targetingGate (lines : EligibleLines) :
    StopsFor (·.gate = .targeting) (d.targetingGate lines) :=
  StopsFor.require fun _ => rfl

theorem stopsFor_customerGate : StopsFor (·.gate = .customer) (d.customerGate ctx) := by
  refine StopsFor.bind (StopsFor.require fun _ => rfl) fun _ => ?_
  refine StopsFor.bind (StopsFor.require fun _ => rfl) fun _ => ?_
  refine StopsFor.bind (StopsFor.require fun _ => rfl) fun _ => ?_
  exact StopsFor.require fun _ => rfl

theorem stopsFor_thresholdGate (lines : EligibleLines) :
    StopsFor (·.gate = .threshold) (d.thresholdGate lines) := by
  refine StopsFor.bind (StopsFor.require fun _ => rfl) fun _ => ?_
  refine StopsFor.bind (StopsFor.require fun _ => rfl) fun _ => ?_
  exact StopsFor.require fun _ => rfl

theorem stopsFor_limitGate : StopsFor (·.gate = .limit) (d.limitGate ctx) := by
  refine StopsFor.bind (StopsFor.require fun _ => rfl) fun _ => ?_
  refine StopsFor.bind (StopsFor.require fun _ => rfl) fun _ => ?_
  exact StopsFor.require fun _ => rfl

/-- A bill of a date, store and brand that the document covers is rejected for other reasons. -/
theorem rejectsFor_judge (hdate : d.validity.coversDate ctx.bill.localTime.date = true)
    (hstore : d.scope.stores.includes ctx.bill.storeId = true)
    (hbrand : d.scope.coversBrand ctx.bill.brandId = true) :
    RejectsFor Reason.IsBeyondPlace (d.judge ctx) := by
  have hvalidity : ∀ reason : Reason, reason.gate = .validity ∧ (reason = .outsideDateRange →
      d.validity.coversDate ctx.bill.localTime.date = false) → reason.IsBeyondPlace := by
    rintro reason ⟨hgate, hother⟩
    refine ⟨fun h => ?_, ?_, ?_⟩
    · exact absurd hdate (by simp [hother h])
    · rintro rfl
      cases hgate
    · rintro rfl
      cases hgate
  have hscope : ∀ reason : Reason, reason.gate = .scope ∧ (reason = .storeNotInScope →
      d.scope.stores.includes ctx.bill.storeId = false) ∧ (reason = .brandNotInScope →
      d.scope.coversBrand ctx.bill.brandId = false) → reason.IsBeyondPlace := by
    rintro reason ⟨hgate, hotherStore, hotherBrand⟩
    refine ⟨?_, fun h => ?_, fun h => ?_⟩
    · rintro rfl
      cases hgate
    · exact absurd hstore (by simp [hotherStore h])
    · exact absurd hbrand (by simp [hotherBrand h])
  have hlater : ∀ {gate : Gate}, gate ≠ .validity → gate ≠ .scope → ∀ reason : Reason,
      reason.gate = gate → reason.IsBeyondPlace := by
    rintro gate hnotValidity hnotScope reason rfl
    refine ⟨?_, ?_, ?_⟩
    · rintro rfl
      exact hnotValidity rfl
    · rintro rfl
      exact hnotScope rfl
    · rintro rfl
      exact hnotScope rfl
  rw [judge]
  split
  · exact RejectsFor.fault _
  · refine StopsFor.rejectsFor ?_
    refine (stopsFor_validityGate.mono hvalidity).bind fun _ => ?_
    refine (stopsFor_scopeGate.mono hscope).bind fun _ => ?_
    refine (StopsFor.lift _).bind fun lines => ?_
    refine ((stopsFor_targetingGate lines).mono (hlater nofun nofun)).bind fun _ => ?_
    refine (stopsFor_customerGate.mono (hlater nofun nofun)).bind fun _ => ?_
    refine ((stopsFor_thresholdGate lines).mono (hlater nofun nofun)).bind fun _ => ?_
    refine (stopsFor_limitGate.mono (hlater nofun nofun)).bind fun _ => ?_
    exact (d.rule.stopsFor_grant _).mono fun reason h => hlater (by decide) (by decide) reason h.1

end Document

end Promotions

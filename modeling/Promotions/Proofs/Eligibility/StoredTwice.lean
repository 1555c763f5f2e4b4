import Promotions.Proofs.Compile.Checks
import Promotions.Proofs.Eligibility.GateOrder

/-!
# Proofs: what a document stores twice

Three archetypes hold the least purchase of the promotion in their rule, where every document holds
it among its requirements, and a happy hour holds its hours and weekdays, which are also when the
document is valid. The gates look at one copy. The other is the same, so a rule does not ask for
more than the gates have asked for, and the hours of a rule are kept although no formula looks at
them. Only a discount for a method of payment has a least purchase of its own.
-/

namespace Promotions

open Fallible Judged

/-! ## Both copies -/

/-- What the document stores twice is the same in both places. -/
structure Document.StoredAlike (d : Document) : Prop where
  minPurchase : d.rule.archetype ≠ .paymentDiscount →
    ∀ least, d.rule.minPurchase? = some least → least = d.requirements.minPurchase
  window : ∀ r, d.rule = .happyHour r → d.validity.window = some r.window
  weekdays : ∀ r, d.rule = .happyHour r → d.validity.weekdays = r.weekdays

namespace Promotion

variable {p : Promotion}

/-- A rule is one of the archetype that the promotion names. -/
theorem ruleOf_archetype {rule : Rule} (h : p.rule = .ok rule) :
    p.ruleOf rule.archetype = .ok rule := by
  unfold Promotion.rule at h
  split at h
  · rename_i archetype _
    cases archetype <;>
      · obtain ⟨r, hr, rfl⟩ := map_eq_ok_iff.1 h
        exact map_eq_ok_iff.2 ⟨r, hr, rfl⟩
  · cases h

theorem percentDiscount_minPurchase {r : PercentDiscount} (h : p.percentDiscount = .ok r) :
    p.leastPurchase = .ok r.minPurchase := by
  obtain ⟨percent?, -, h⟩ := bind_eq_ok_iff.1 h
  obtain ⟨percent, -, h⟩ := bind_eq_ok_iff.1 h
  obtain ⟨cap, -, h⟩ := bind_eq_ok_iff.1 h
  obtain ⟨least, hleast, h⟩ := bind_eq_ok_iff.1 h
  obtain rfl := pure_eq_ok_iff.1 h
  exact hleast

theorem amountDiscount_minPurchase {r : AmountDiscount} (h : p.amountDiscount = .ok r) :
    p.leastPurchase = .ok r.minPurchase := by
  obtain ⟨amount?, -, h⟩ := bind_eq_ok_iff.1 h
  obtain ⟨amount, -, h⟩ := bind_eq_ok_iff.1 h
  obtain ⟨least, hleast, h⟩ := bind_eq_ok_iff.1 h
  obtain rfl := pure_eq_ok_iff.1 h
  exact hleast

theorem cashback_minPurchase {r : Cashback} (h : p.cashback = .ok r) :
    p.leastPurchase = .ok r.minPurchase := by
  obtain ⟨value, -, h⟩ := bind_eq_ok_iff.1 h
  obtain ⟨cap, -, h⟩ := bind_eq_ok_iff.1 h
  obtain ⟨least, hleast, h⟩ := bind_eq_ok_iff.1 h
  obtain rfl := pure_eq_ok_iff.1 h
  exact hleast

theorem requirements_minPurchase {q : Requirements} (h : p.requirements = .ok q) :
    p.leastPurchase = .ok q.minPurchase := by
  obtain ⟨least, hleast, h⟩ := bind_eq_ok_iff.1 h
  obtain rfl := pure_eq_ok_iff.1 h
  exact hleast

/-- The least purchase of a rule is that of the promotion, but where it is for the payment. -/
theorem rule_minPurchase {rule : Rule} (h : p.rule = .ok rule)
    (hother : rule.archetype ≠ .paymentDiscount) {least : Amount}
    (hleast : rule.minPurchase? = some least) : p.leastPurchase = .ok least := by
  have hrule := ruleOf_archetype h
  cases rule with
  | percentDiscount r =>
    obtain ⟨_, hr, ⟨⟩⟩ := map_eq_ok_iff.1 hrule
    obtain rfl := Option.some.inj hleast
    exact percentDiscount_minPurchase hr
  | amountDiscount r =>
    obtain ⟨_, hr, ⟨⟩⟩ := map_eq_ok_iff.1 hrule
    obtain rfl := Option.some.inj hleast
    exact amountDiscount_minPurchase hr
  | cashback r =>
    obtain ⟨_, hr, ⟨⟩⟩ := map_eq_ok_iff.1 hrule
    obtain rfl := Option.some.inj hleast
    exact cashback_minPurchase hr
  | paymentDiscount r => exact absurd rfl hother
  | _ => cases hleast

/-- A happy hour has both ends of its hours, and its weekdays. -/
theorem happyHour_times {r : HappyHour} (h : p.happyHour = .ok r) :
    p.timeWindow? = .ok (some r.window) ∧ p.weekdays = .ok r.weekdays := by
  obtain ⟨percent?, -, h⟩ := bind_eq_ok_iff.1 h
  obtain ⟨amount?, -, h⟩ := bind_eq_ok_iff.1 h
  obtain ⟨price?, -, h⟩ := bind_eq_ok_iff.1 h
  obtain ⟨pricing, -, h⟩ := bind_eq_ok_iff.1 h
  split at h
  · rename_i start finish hstart hfinish
    obtain ⟨days, hdays, h⟩ := bind_eq_ok_iff.1 h
    obtain rfl := pure_eq_ok_iff.1 h
    refine ⟨?_, hdays⟩
    unfold timeWindow?
    rw [hstart, hfinish]
  · cases h

theorem validity_times {v : Validity} (h : p.validity = .ok v) :
    p.timeWindow? = .ok v.window ∧ p.weekdays = .ok v.weekdays := by
  unfold validity at h
  split at h
  · cases h
  · obtain ⟨window, hwindow, h⟩ := bind_eq_ok_iff.1 h
    obtain ⟨days, hdays, h⟩ := bind_eq_ok_iff.1 h
    obtain rfl := pure_eq_ok_iff.1 h
    exact ⟨hwindow, hdays⟩

end Promotion

/-- Both copies are of the same settings of the promotion. -/
theorem Compiler.storedAlike_of_compile {c : Compiler} {p : Promotion} {compiledAt : Timestamp}
    {d : Document} (hd : c.compile p compiledAt = .ok d) : d.StoredAlike := by
  have hcompiles := compiles_of_compile hd
  have htimes : ∀ r, d.rule = .happyHour r →
      d.validity.window = some r.window ∧ d.validity.weekdays = r.weekdays := by
    intro r hr
    have hrule := Promotion.ruleOf_archetype hcompiles.rule
    rw [hr] at hrule
    obtain ⟨_, hhour, ⟨⟩⟩ := map_eq_ok_iff.1 hrule
    obtain ⟨hwindow, hweekdays⟩ := Promotion.happyHour_times hhour
    obtain ⟨hwindow', hweekdays'⟩ := Promotion.validity_times hcompiles.validity
    exact ⟨Except.ok.inj (hwindow'.symm.trans hwindow),
      Except.ok.inj (hweekdays'.symm.trans hweekdays)⟩
  refine ⟨fun hother least hleast => ?_, fun r hr => (htimes r hr).1, fun r hr => (htimes r hr).2⟩
  have hrule := Promotion.rule_minPurchase hcompiles.rule hother hleast
  exact Except.ok.inj (hrule.symm.trans (Promotion.requirements_minPurchase hcompiles.requirements))

/-! ## Evaluation -/

namespace Document

variable {d : Document} {ctx : Context}

/-- A bill that a rule rejects for its least purchase falls short of it, though it reaches what the
document requires. -/
theorem exists_least_of_ruleMinimumNotMet
    (h : (d.evaluate ctx).verdict = .ineligible .ruleMinimumNotMet) :
    ∃ least, d.rule.minPurchase? = some least ∧ ¬least ≤ d.requirements.minPurchase := by
  have hstops : d.StopsAt ctx .rule (.ineligible .ruleMinimumNotMet) :=
    verdict_eq_ineligible_iff_stopsAt.1 h
  obtain ⟨lines, hlines, hthreshold⟩ := bind_eq_ok_iff.1 (hstops.before .threshold (by decide))
  have hrequired := minPurchase_of_thresholdGate hthreshold
  -- the formula has the lines on which the gate has measured
  have hgranted := hstops.here
  unfold ask granted at hgranted
  rw [hlines, ok_bind] at hgranted
  rcases bind_eq_error_iff.1 hgranted with hgrant | ⟨_, -, hdone⟩
  · obtain ⟨-, hleast⟩ := (d.rule.stopsFor_grant _).rejectsFor _ hgrant
    obtain ⟨least, hrule, hshort⟩ := hleast rfl
    exact ⟨least, hrule, fun hle => hshort (Int.le_trans hle hrequired)⟩
  · cases hdone

theorem StoredAlike.archetype_of_ruleMinimumNotMet (hd : d.StoredAlike)
    (h : (d.evaluate ctx).verdict = .ineligible .ruleMinimumNotMet) :
    d.rule.archetype = .paymentDiscount := by
  obtain ⟨least, hrule, hshort⟩ := exists_least_of_ruleMinimumNotMet h
  by_contra hother
  rw [hd.minPurchase hother least hrule] at hshort
  exact hshort (Int.le_refl _)

theorem StoredAlike.inside_of_eligible (hd : d.StoredAlike) {r : HappyHour} {grant : Grant}
    (hrule : d.rule = .happyHour r) (h : (d.evaluate ctx).verdict = .eligible grant) :
    r.window.contains ctx.bill.localTime.clock = true ∧
      r.weekdays.allows ctx.bill.localTime.date.weekday = true := by
  obtain ⟨lines, hpasses, -⟩ := judge_eq_ok_iff.1 (verdict_eq_eligible_iff.1 h)
  obtain ⟨htime, hweekday⟩ := coversTime_of_validityGate hpasses.validity
  unfold Validity.coversTime at htime
  rw [hd.window r hrule] at htime
  rw [hd.weekdays r hrule] at hweekday
  exact ⟨htime, hweekday⟩

end Document

/-- Of a document that was compiled, only a discount for a method of payment rejects a bill for the
least purchase of its rule, and a happy hour grants something only in the hours and on the weekdays
of its rule. -/
theorem Compiler.evaluate_stored_twice {c : Compiler} {p : Promotion} {compiledAt : Timestamp}
    {d : Document} (hd : c.compile p compiledAt = .ok d) (ctx : Context) :
    ((d.evaluate ctx).verdict = .ineligible .ruleMinimumNotMet →
      d.rule.archetype = .paymentDiscount) ∧
    ∀ r grant, d.rule = .happyHour r → (d.evaluate ctx).verdict = .eligible grant →
      r.window.contains ctx.bill.localTime.clock = true ∧
        r.weekdays.allows ctx.bill.localTime.date.weekday = true := by
  have halike := storedAlike_of_compile hd
  refine ⟨halike.archetype_of_ruleMinimumNotMet, fun r grant hrule hverdict => ?_⟩
  exact halike.inside_of_eligible hrule hverdict

/-- Ten off the bill in the hours about midnight. -/
def Sample.lateHour : Promotion :=
  { Promotion.new .happyHour (id 6) (id 1) "H" date date with
    applyTo := .bill
    discountAmount := some (amount 10)
    validTimeStart := some ⟨79200000000000, by decide⟩
    validTimeEnd := some ⟨3600000000000, by decide⟩ }

/-- The happy hour of the shop takes ten off the bill of midnight. -/
theorem Compiler.evaluate_stored_twice_shop :
    ∃ d r, Sample.compiler.compile Sample.lateHour .epoch = .ok d ∧ d.rule = .happyHour r ∧
      (d.evaluate Sample.context).verdict =
        .eligible { discount := Sample.amount 10, affected := [0, 1] } ∧
      r.window.contains Sample.context.bill.localTime.clock = true := by
  obtain ⟨d, hd, hrule, hverdict⟩ : ∃ d, Sample.compiler.compile Sample.lateHour .epoch = .ok d ∧
      (∃ r, d.rule = .happyHour r) ∧ (d.evaluate Sample.context).verdict =
        .eligible { discount := Sample.amount 10, affected := [0, 1] } :=
    ⟨_, rfl, ⟨_, rfl⟩, by decide +kernel⟩
  obtain ⟨r, hr⟩ := hrule
  obtain ⟨-, hinside⟩ := evaluate_stored_twice hd Sample.context
  exact ⟨d, r, hd, hr, hverdict, (hinside r _ hr hverdict).1⟩

end Promotions

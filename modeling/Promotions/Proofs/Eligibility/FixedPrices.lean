import Promotions.Proofs.Eligibility.Ordinary
import Promotions.Proofs.Grouping.Formed

/-!
# Proofs: advertised prices are kept

A combo, a group of units, a further product and the units of a happy hour have a price. What is
granted for them is what they cost above it, each set, group or unit being counted once, so what is
left to be paid is never less than the price of all of them.
-/

namespace Promotions

open Fallible Judged UnitRuns

/-! ## What is left to be paid -/

namespace EligibleLines

/-- What the eligible lines of some products cost. -/
def totalOf (e : EligibleLines) (keep : ProductId → Bool) : Int :=
  ((e.linesOf keep).map fun line => line.unitPrice.toInt * (line.quantity.toNat : Int)).sum

end EligibleLines

/-- The sets are as many as there are units of the product with the fewest, and each is paid with
the price of the combo at least. -/
def Combo.KeepsPrice (r : Combo) (e : EligibleLines) (discount : Amount) : Prop :=
  ∃ sets, (r.products.toList.map e.unitCount).min? = some sets ∧
    discount.toInt + sets * r.price.toInt ≤ e.totalOf fun q => decide (q ∈ r.products)

/-- The product is one of the category. -/
def MixMatch.covers (r : MixMatch) (catalog : Catalog) (product : ProductId) : Bool :=
  decide (catalog.categoryOf product = some r.category)

/-- Every group that is formed and worth more than the special price is paid with it at least. The
lines form the groups worth these values and no others. -/
def MixMatch.KeepsPrice (r : MixMatch) (catalog : Catalog) (e : EligibleLines) (discount : Amount) :
    Prop :=
  ∃ values, (∀ formed, r.FormsGroups (e.linesOf (r.covers catalog)) formed ↔ formed = values) ∧
    discount.toInt + countAbove r.specialPrice values * r.specialPrice.toInt ≤
      e.totalOf (r.covers catalog)

/-- The further product is paid with its special price at least. -/
def Upsell.KeepsPrice (r : Upsell) (e : EligibleLines) (discount : Amount) : Prop :=
  discount.toInt + r.specialPrice.toInt ≤ e.totalOf fun q => decide (q = r.upsellProduct)

/-- Every unit is paid with the price of the happy hour at least, or with its own if that is
lower. -/
def HappyHour.KeepsPrice (price : Amount) (e : EligibleLines) (discount : Amount) : Prop :=
  discount.toInt + (e.lines.map fun p =>
    min p.line.unitPrice.toInt price.toInt * (p.line.quantity.toNat : Int)).sum ≤
      e.totalOf fun _ => true

/-! ## Eligible lines -/

namespace EligibleLines

variable {e : EligibleLines}

theorem totalOf_eq (e : EligibleLines) (keep : ProductId → Bool) :
    e.totalOf keep = (pricesOfLines (e.linesOf keep)).sum := by
  rw [totalOf, sum_pricesOfLines]

theorem costOf_eq_totalOf (e : EligibleLines) (product : ProductId) :
    e.costOf product = e.totalOf fun q => decide (q = product) := by
  rw [costOf, totalOf_eq]

namespace ArePayable

/-- Different products cost together what their lines do. -/
theorem sum_costOf_le_totalOf (h : e.ArePayable) (products : SortedSet ProductId) :
    (products.toList.map e.costOf).sum ≤ e.totalOf fun q => decide (q ∈ products) := by
  let listed (q : ProductId) : Bool := decide (q ∈ products)
  have hcost : ∀ product ∈ products.toList, e.costOf product = (pricesOfLines
      ((e.linesOf listed).filter fun line => decide (line.product = product))).sum := by
    intro product hproduct
    rw [costOf, linesOf_eq, linesOf_eq, List.filter_filter]
    refine congrArg (fun lines => (pricesOfLines lines).sum) (List.filter_congr fun line _ => ?_)
    by_cases hline : line.product = product
    · have hlisted : listed line.product = true := decide_eq_true (hline ▸ hproduct)
      rw [hlisted, Bool.and_true]
    · rw [decide_eq_false hline, Bool.false_and]
  rw [List.map_congr_left hcost, totalOf_eq]
  exact sum_keys_le (·.product) (h.linesOf listed).prices products.nodup_toList

end ArePayable

end EligibleLines

section Prices

variable {b : Basis} {raw : Grant} {discount : Amount}

/-! ## Combos -/

/-- As many sets as there are units of each product cost no more than these units, a set being one
unit of each at the price of the cheapest. -/
theorem Combo.setValue_mul_le {r : Combo} (h : b.lines.ArePayable) {n : Nat}
    (hn : ∀ product ∈ r.products, n ≤ b.lines.unitCount product) {value : Amount}
    (hvalue : r.setValue b = .ok value) :
    value.toInt * n ≤ (r.products.toList.map b.lines.costOf).sum := by
  have hfold : ∀ (products : List ProductId) (start : Amount), products ⊆ r.products.toList →
      products.foldlM (fun value product => do
        let price ← orReject .comboIncomplete (b.lines.cheapestOf? product)
        value.add price) start = (.ok value : Judged Amount) →
      value.toInt * n ≤ start.toInt * n + (products.map b.lines.costOf).sum := by
    intro products start hproducts hfold
    induction products generalizing start with
    | nil =>
      obtain rfl := foldlM_nil_eq_ok_iff.1 hfold
      simp
    | cons product products ih =>
      obtain ⟨next, hstep, hrest⟩ := foldlM_cons_eq_ok_iff.1 hfold
      obtain ⟨price, hprice, hadd⟩ := bind_eq_ok_iff.1 hstep
      obtain ⟨hproduct, hproducts⟩ := List.cons_subset.1 hproducts
      have hcost := h.mul_le_costOf (orReject_eq_ok_iff.1 hprice) (hn product hproduct)
      have hsum := ih next hproducts hrest
      rw [Amount.add_eq_ok_iff.1 (lift_eq_ok_iff.1 hadd), Int.add_mul] at hsum
      rw [List.map_cons, List.sum_cons]
      omega
  have hall := hfold r.products.toList 0 (fun _ => id) hvalue
  rwa [Amount.toInt_zero, Int.zero_mul, Int.zero_add] at hall

/-- One of the products has the fewest units. The rule counts no more sets than these. -/
theorem Combo.exists_fewest {r : Combo} (hr : r.WellFormed) (b : Basis) :
    ∃ sets, (r.products.toList.map b.lines.unitCount).min? = some sets ∧
      (r.sets b).toNat ≤ sets ∧ ∀ product ∈ r.products, sets ≤ b.lines.unitCount product := by
  obtain ⟨sets, hsets⟩ : ∃ sets, (r.products.toList.map b.lines.unitCount).min? = some sets := by
    refine Option.isSome_iff_exists.1 ?_
    rw [List.isSome_min?_iff]
    simpa using hr.products
  obtain ⟨hfewest, hall⟩ := List.min?_eq_some_iff.1 hsets
  obtain ⟨fewest, hproduct, hcount⟩ := List.mem_map.1 hfewest
  refine ⟨sets, hsets, ?_, fun product hmem => hall _ (List.mem_map_of_mem hmem)⟩
  rw [← hcount]
  exact r.sets_le_unitCount b hproduct

/-- Each set saves what it costs above the price, so with the price it is paid in full. -/
theorem Combo.keepsPrice {r : Combo} (hr : r.WellFormed) (h : b.lines.ArePayable)
    (hraw : r.grant b = .ok raw) (hpos : 0 < discount.toInt)
    (hle : discount.toInt ≤ raw.discount.toInt) : r.KeepsPrice b.lines discount := by
  obtain ⟨_, -, hraw⟩ := bind_eq_ok_iff.1 hraw
  obtain ⟨value, hvalue, hraw⟩ := bind_eq_ok_iff.1 hraw
  obtain ⟨saved, hsaved, hraw⟩ := bind_eq_ok_iff.1 hraw
  obtain rfl := pure_eq_ok_iff.1 hraw
  obtain ⟨sets, hsets, hcounted, hn⟩ := exists_fewest hr b
  refine ⟨sets, hsets, ?_⟩
  have hmany := r.setValue_mul_le h hn hvalue
  have htotal := h.sum_costOf_le_totalOf r.products
  have hprice : 0 < r.price.toInt := hr.price
  have hexcess := Amount.toInt_excess (a := value) (Int.le_of_lt hprice)
  have hsaved := Amount.times_eq_ok_iff.1 (lift_eq_ok_iff.1 hsaved)
  have hdiscount : discount.toInt ≤ saved.toInt := hle
  have hsaves : r.price.toInt < value.toInt := by
    by_contra hcheap
    have hnone : (value.excess r.price).toInt = 0 := by omega
    rw [hnone, Int.zero_mul] at hsaved
    omega
  have hexact : (value.excess r.price).toInt = value.toInt - r.price.toInt := by omega
  have hsavedLe : saved.toInt ≤ (value.toInt - r.price.toInt) * sets := by
    rw [hsaved, hexact]
    exact Int.mul_le_mul_of_nonneg_left (Int.ofNat_le.2 hcounted) (by omega)
  calc discount.toInt + sets * r.price.toInt
      ≤ (value.toInt - r.price.toInt) * sets + sets * r.price.toInt :=
        Int.add_le_add_right (hdiscount.trans hsavedLe) _
    _ = value.toInt * sets := by ring
    _ ≤ _ := hmany.trans htotal

/-! ## Groups -/

theorem MixMatch.keepsPrice {r : MixMatch} (hr : r.WellFormed) (h : b.lines.ArePayable)
    (hraw : r.grant b = .ok raw) (hle : discount.toInt ≤ raw.discount.toInt) :
    r.KeepsPrice b.catalog b.lines discount := by
  obtain ⟨groups, hgroups, hraw⟩ := bind_eq_ok_iff.1 hraw
  obtain ⟨_, -, hraw⟩ := bind_eq_ok_iff.1 hraw
  obtain rfl := pure_eq_ok_iff.1 hraw
  have hlines : r.groups (b.lines.linesOf (r.covers b.catalog)) = .ok groups :=
    lift_eq_ok_iff.1 hgroups
  have hsize : 0 < r.groupSize.toNat := UInt32.le_iff_toNat_le.1 hr.groupSize
  obtain ⟨values, hformed, hsaved⟩ := exists_formsGroups hsize hr.specialPrice hlines
  obtain ⟨hvalues, hsum⟩ := hformed.sum_le (h.linesOf _).prices
  have hpaid := savedBy_add_le r.specialPrice hvalues
  refine ⟨values, fun formed => ⟨fun h => h.unique hformed, fun h => h ▸ hformed⟩, ?_⟩
  rw [EligibleLines.totalOf_eq]
  have hdiscount : discount.toInt ≤ savedBy r.specialPrice values := hsaved ▸ hle
  omega

/-! ## Further products -/

theorem Upsell.keepsPrice {r : Upsell} (hr : r.WellFormed) (h : b.lines.ArePayable)
    (hraw : r.grant b = .ok raw) (hpos : 0 < discount.toInt)
    (hle : discount.toInt ≤ raw.discount.toInt) : r.KeepsPrice b.lines discount := by
  obtain ⟨_, -, hraw⟩ := bind_eq_ok_iff.1 hraw
  obtain ⟨price, hprice, hraw⟩ := bind_eq_ok_iff.1 hraw
  obtain rfl := pure_eq_ok_iff.1 hraw
  have hcost := (h.le_costOf (orReject_eq_ok_iff.1 hprice)).2
  have hexcess := Amount.toInt_excess (a := price) hr.specialPrice
  have hdiscount : discount.toInt ≤ (price.excess r.specialPrice).toInt := hle
  unfold Upsell.KeepsPrice
  rw [← EligibleLines.costOf_eq_totalOf]
  omega

/-! ## Happy hours -/

/-- At a special price the formula yields what the units cost above it. -/
theorem HappyHour.savings_of_grant {r : HappyHour} {price : Amount}
    (hpricing : r.pricing = .specialPrice price) (hraw : r.grant b = .ok raw) :
    HappyHour.savings price b.lines.lines = .ok raw.discount := by
  unfold HappyHour.grant at hraw
  rw [hpricing] at hraw
  obtain ⟨saved, hsaved, hraw⟩ := bind_eq_ok_iff.1 hraw
  obtain rfl := pure_eq_ok_iff.1 hraw
  exact lift_eq_ok_iff.1 hsaved

theorem HappyHour.keepsPrice {price : Amount} (hprice : 0 < price) (h : b.lines.ArePayable)
    {saved : Amount} (hsaved : HappyHour.savings price b.lines.lines = .ok saved)
    (hle : discount.toInt ≤ saved.toInt) : HappyHour.KeepsPrice price b.lines discount := by
  let lines := b.lines.linesOf fun _ => true
  have hlines : lines = b.lines.lines.map (·.line) := by
    show (b.lines.lines.filter fun _ => true).map (·.line) = _
    rw [List.filter_true]
  have hpos : 0 < price.toInt := hprice
  -- what a unit costs above the price, and the price or its own if that is lower, are what it costs
  have hunit : ∀ p ∈ pricesOfLines lines, excessOver price p + min p price.toInt = p := by
    intro p hp
    have hnonneg := nonneg_of_mem_pricesOfLines (h.linesOf _).prices hp
    obtain ⟨line, -, -, rfl⟩ := mem_pricesOfLines.1 hp
    have hfits := line.unitPrice.upper
    rw [excessOver]
    omega
  have hsavings : saved.toInt = ((pricesOfLines lines).map (excessOver price)).sum := by
    rw [EligibleLines.savings_eq, savingsAbove_eq_checked] at hsaved
    exact Amount.checked_eq_ok_iff.1 hsaved
  have hkept : (b.lines.lines.map fun p =>
      min p.line.unitPrice.toInt price.toInt * (p.line.quantity.toNat : Int)).sum =
        ((pricesOfLines lines).map fun p => min p price.toInt).sum := by
    rw [sum_map_pricesOfLines, hlines, List.map_map]
    rfl
  unfold HappyHour.KeepsPrice
  calc discount.toInt + _
      ≤ saved.toInt + ((pricesOfLines lines).map fun p => min p price.toInt).sum := by
        rw [hkept]
        exact Int.add_le_add_right hle _
    _ = ((pricesOfLines lines).map fun p => excessOver price p + min p price.toInt).sum := by
        rw [hsavings, ← List.sum_map_add]
    _ = (pricesOfLines lines).sum := by rw [List.map_congr_left hunit, List.map_id']
    _ = b.lines.totalOf fun _ => true := (b.lines.totalOf_eq _).symm

end Prices

/-! ## Evaluation -/

/-- What is granted, if it is anything, is not more than what the formula yields. -/
theorem Rule.formula_of_grant {rule : Rule} {b : Basis} {grant : Grant}
    (h : rule.grant b = .ok grant) (hpos : 0 < grant.discount) :
    ∃ raw, rule.formula b = .ok raw ∧ grant.discount.toInt ≤ raw.discount.toInt := by
  obtain ⟨raw, hraw, h⟩ := bind_eq_ok_iff.1 h
  obtain rfl := pure_eq_ok_iff.1 h
  refine ⟨raw, hraw, ?_⟩
  have hclamp := Amount.toInt_clamp raw.discount b.base
  have hpos' : 0 < (Amount.clamp raw.discount b.base).toInt := hpos
  show (Amount.clamp raw.discount b.base).toInt ≤ raw.discount.toInt
  omega

/-- The lines that are selected from lines without negative prices cost what fits an amount. -/
theorem EligibleLines.arePayable_of_select {t : Targeting} {bill : Bill} {catalog : Catalog}
    {e : EligibleLines} (h : select t bill catalog = .ok e)
    (hprices : ∀ line ∈ bill.lines, 0 ≤ line.unitPrice) : e.ArePayable := by
  let keep (line : BillLine) : Bool := t.applyTo.isBillScoped || t.selects catalog line
  have hselect : ofLines (bill.placedLines.filter fun p => keep p.line) = .ok e := h
  rw [ofLines_eq, bill.map_line_filter keep] at hselect
  obtain ⟨subtotal, hsubtotal, rfl⟩ := map_eq_ok_iff.1 hselect
  show Payable ((bill.placedLines.filter fun p => keep p.line).map (·.line))
  rw [bill.map_line_filter keep]
  exact .of_totalOf (fun line hline => hprices line (List.mem_filter.1 hline).1) hsubtotal

/-- Where no price of the bill is negative, a discount that a document grants which was compiled
leaves the price of the offer to be paid: of every set of a combo, of every group that is worth more
than its price, of the further product, or of every unit in a happy hour. -/
theorem Compiler.evaluate_keeps_price {c : Compiler} {p : Promotion} {compiledAt : Timestamp}
    {d : Document} (hd : c.compile p compiledAt = .ok d) (ctx : Context)
    (hprices : ∀ line ∈ ctx.bill.lines, 0 ≤ line.unitPrice) {grant : Grant}
    (hverdict : (d.evaluate ctx).verdict = .eligible grant) (hpos : 0 < grant.discount) :
    ∃ e, EligibleLines.select d.targeting ctx.bill ctx.catalog = .ok e ∧
      (∀ r, d.rule = .combo r → r.KeepsPrice e grant.discount) ∧
      (∀ r, d.rule = .mixMatch r → r.KeepsPrice ctx.catalog e grant.discount) ∧
      (∀ r, d.rule = .upsell r → r.KeepsPrice e grant.discount) ∧
      ∀ r price, d.rule = .happyHour r → r.pricing = .specialPrice price →
        HappyHour.KeepsPrice price e grant.discount := by
  obtain ⟨e, hpasses, hgrant⟩ :=
    Document.judge_eq_ok_iff.1 (Document.verdict_eq_eligible_iff.1 hverdict)
  obtain ⟨raw, hraw, hle⟩ := Rule.formula_of_grant hgrant hpos
  have hselect := hpasses.select
  have he : e.ArePayable := EligibleLines.arePayable_of_select hselect hprices
  have hrule := (compile_wellFormed hd).rule
  refine ⟨e, hselect, fun r hr => ?_, fun r hr => ?_, fun r hr => ?_, fun r price hr hpricing => ?_⟩
  · rw [hr] at hraw hrule
    exact Combo.keepsPrice hrule he hraw hpos hle
  · rw [hr] at hraw hrule
    exact MixMatch.keepsPrice hrule he hraw hle
  · rw [hr] at hraw hrule
    exact Upsell.keepsPrice hrule he hraw hpos hle
  · rw [hr] at hraw hrule
    have hsaved := HappyHour.savings_of_grant hpricing hraw
    have hprice : 0 < price := by
      have hpositive := (show r.WellFormed from hrule).pricing
      rwa [hpricing] at hpositive
    exact HappyHour.keepsPrice hprice he hsaved hle

/-- Both products together for fifty. -/
def Sample.pair : Promotion :=
  { Promotion.new .combo (id 7) (id 1) "K" date date with
    applyTo := .bill
    comboPrice := some (amount 50)
    comboProducts := [id 1, id 2] }

/-- The pair is on the bill once, at sixty, so ten are granted and fifty are left to be paid. -/
theorem Compiler.evaluate_keeps_price_shop :
    ∃ d r e, Sample.compiler.compile Sample.pair .epoch = .ok d ∧ d.rule = .combo r ∧
      (d.evaluate Sample.context).verdict =
        .eligible { discount := Sample.amount 10, affected := [0, 1] } ∧
      EligibleLines.select d.targeting Sample.bill .empty = .ok e ∧
      r.KeepsPrice e (Sample.amount 10) := by
  obtain ⟨d, hd, hrule, hverdict⟩ : ∃ d, Sample.compiler.compile Sample.pair .epoch = .ok d ∧
      (∃ r, d.rule = .combo r) ∧ (d.evaluate Sample.context).verdict =
        .eligible { discount := Sample.amount 10, affected := [0, 1] } :=
    ⟨_, rfl, ⟨_, rfl⟩, by decide +kernel⟩
  obtain ⟨r, hr⟩ := hrule
  obtain ⟨e, hselect, hcombo, -⟩ :=
    evaluate_keeps_price hd Sample.context (by decide) hverdict (by decide)
  exact ⟨d, r, e, hd, hr, hverdict, hselect, hcombo r hr⟩

end Promotions

import Promotions.Proofs.Eligibility.Alike
import Promotions.Proofs.Eligibility.BrandSpend
import Promotions.Proofs.Eligibility.Gates
import Promotions.Proofs.Grouping.MixMatch
import Promotions.Proofs.Grouping.Units

/-!
# Proofs: how units are laid out in lines

Where no price is negative it does not matter in which lines the units of a bill stand: each reads
as a unit of its product, of the brand that sold it, with its price. Every total is a sum over
units, and partial sums only grow, so also what does not fit an amount does not fit it in any order.

What counts lines is left out: a least number of lines, and units that are granted on one line.
-/

namespace Promotions

open Fallible Judged UnitRuns

/-! ## Units -/

/-- A unit on a bill. -/
structure BillUnit where
  /-- The product. -/
  product : ProductId
  /-- The brand that sold it. -/
  brand : BrandId
  /-- The price. -/
  price : Amount

/-- The units of lines, one by one. -/
def Context.unitsOf (ctx : Context) (lines : List BillLine) : List BillUnit :=
  lines.flatMap fun line =>
    List.replicate line.quantity.toNat ⟨line.product, ctx.brandOf line, line.unitPrice⟩

/-- No line is voided and no price negative. -/
structure OrdinaryLines (lines : List BillLine) : Prop where
  units : ∀ line ∈ lines, line.quantity ≠ 0
  prices : ∀ line ∈ lines, 0 ≤ line.unitPrice

theorem OrdinaryLines.filter {lines : List BillLine} (h : OrdinaryLines lines)
    (keep : BillLine → Bool) : OrdinaryLines (lines.filter keep) where
  units line hline := h.units line (List.mem_filter.1 hline).1
  prices line hline := h.prices line (List.mem_filter.1 hline).1

section Units

variable {ctx : Context} {lines : List BillLine}

theorem mem_unitsOf {u : BillUnit} :
    u ∈ ctx.unitsOf lines ↔ ∃ line ∈ lines, line.quantity ≠ 0 ∧
      u = ⟨line.product, ctx.brandOf line, line.unitPrice⟩ := by
  rw [Context.unitsOf, List.mem_flatMap]
  refine exists_congr fun line => and_congr_right fun _ => ?_
  rw [List.mem_replicate, Ne, Ne, ← UInt32.toNat_inj]
  exact Iff.rfl

theorem map_price_unitsOf (ctx : Context) (lines : List BillLine) :
    (ctx.unitsOf lines).map (·.price.toInt) = pricesOfLines lines := by
  rw [Context.unitsOf, List.map_flatMap, pricesOfLines]
  simp only [List.map_replicate]

/-- Lines are picked by their units. -/
theorem unitsOf_filter {keep : BillLine → Bool} (keepUnit : BillUnit → Bool)
    (h : ∀ line, keepUnit ⟨line.product, ctx.brandOf line, line.unitPrice⟩ = keep line)
    (lines : List BillLine) :
    ctx.unitsOf (lines.filter keep) = (ctx.unitsOf lines).filter keepUnit := by
  induction lines with
  | nil => rfl
  | cons line lines ih =>
    have hcons (lines : List BillLine) : ctx.unitsOf (line :: lines) =
        List.replicate line.quantity.toNat ⟨line.product, ctx.brandOf line, line.unitPrice⟩ ++
          ctx.unitsOf lines := List.flatMap_cons
    rw [hcons, List.filter_append, List.filter_replicate, h, ← ih]
    by_cases hkeep : keep line = true
    · rw [List.filter_cons_of_pos hkeep, hcons, if_pos hkeep]
    · rw [List.filter_cons_of_neg hkeep, if_neg hkeep, List.nil_append]

end Units

/-! ## What formulas read of lines -/

section Lines

variable {lines lines' : List BillLine}

theorem prices_ofLines_congr (h : (pricesOfLines lines).Perm (pricesOfLines lines')) :
    (ofLines lines).prices = (ofLines lines').prices := by
  have hperm := ((prices_ofLines_perm lines).trans h).trans (prices_ofLines_perm lines').symm
  exact hperm.eq_of_pairwise (fun _ _ _ _ hba hab => Int.le_antisymm hab hba)
    (pairwise_prices_ofLines lines) (pairwise_prices_ofLines lines')

/-- Lines with the same units of each product come to the same. -/
theorem linesAlike_of_perm (hlines : Payable lines)
    (h : (pricesOfLines lines).Perm (pricesOfLines lines'))
    (hproducts : ∀ product,
      (pricesOfLines (lines.filter fun line => line.product = product)).Perm
        (pricesOfLines (lines'.filter fun line => line.product = product))) :
    LinesAlike lines lines' where
  units := by
    refine UInt32.toNat_inj.1 ?_
    have hlength := h.length_eq
    rw [length_pricesOfLines, length_pricesOfLines] at hlength
    rw [Count.toNat_sum, Count.toNat_sum, List.map_map, List.map_map]
    exact congrArg (min · _) hlength
  cheapest := by
    refine Option.ext fun price => ?_
    rw [cheapestUnit?_eq_some_iff, cheapestUnit?_eq_some_iff]
    simp only [h.mem_iff]
  savings price := by
    rw [savingsAbove_eq_checked, savingsAbove_eq_checked, (h.map _).sum_eq]
  runUnits := units_eq_of_prices_eq (prices_ofLines_congr h)
  taken count :=
    (take_congr (prices_ofLines_congr h) (magnitude_prices_lt hlines) count).1
  groups r := MixMatch.groups_congr
    (MixMatch.groupUnits_congr (prices_ofLines_congr h) (magnitude_prices_lt hlines))
    fun product => amounts_eq_of_prices_eq (prices_ofLines_congr (hproducts product))

end Lines

/-! ## Two layouts of the same units -/

/-- Lines in another layout: the same units, none on a voided line and none at a negative price. -/
structure SameUnits (ctx : Context) (lines lines' : List BillLine) : Prop where
  ordinary : OrdinaryLines lines
  ordinary' : OrdinaryLines lines'
  perm : (ctx.unitsOf lines).Perm (ctx.unitsOf lines')

section Layouts

variable {ctx : Context} {lines lines' : List BillLine}

namespace SameUnits

theorem prices (h : SameUnits ctx lines lines') :
    (pricesOfLines lines).Perm (pricesOfLines lines') := by
  rw [← map_price_unitsOf ctx, ← map_price_unitsOf ctx]
  exact h.perm.map _

theorem filter (h : SameUnits ctx lines lines') {keep : BillLine → Bool}
    (keepUnit : BillUnit → Bool)
    (hkeep : ∀ line, keepUnit ⟨line.product, ctx.brandOf line, line.unitPrice⟩ = keep line) :
    SameUnits ctx (lines.filter keep) (lines'.filter keep) where
  ordinary := h.ordinary.filter keep
  ordinary' := h.ordinary'.filter keep
  perm := by
    rw [unitsOf_filter keepUnit hkeep, unitsOf_filter keepUnit hkeep]
    exact h.perm.filter keepUnit

theorem ofProducts (h : SameUnits ctx lines lines') (keep : ProductId → Bool) :
    SameUnits ctx (lines.filter fun line => keep line.product)
      (lines'.filter fun line => keep line.product) :=
  h.filter (fun u => keep u.product) fun _ => rfl

theorem linesAlike (h : SameUnits ctx lines lines')
    (hfits : (pricesOfLines lines).sum < 9223372036854775808) : LinesAlike lines lines' :=
  linesAlike_of_perm ⟨h.ordinary.prices, hfits⟩ h.prices fun product =>
    (h.ofProducts fun q => decide (q = product)).prices

/-- The same brands have lines, since every line has a unit. -/
theorem exists_brand_iff (h : SameUnits ctx lines lines') (brand : BrandId) :
    (∃ line ∈ lines, ctx.brandOf line = brand) ↔ ∃ line ∈ lines', ctx.brandOf line = brand := by
  have hunits {lines : List BillLine} (hlines : OrdinaryLines lines) :
      (∃ line ∈ lines, ctx.brandOf line = brand) ↔ ∃ u ∈ ctx.unitsOf lines, u.brand = brand := by
    constructor
    · rintro ⟨line, hline, rfl⟩
      exact ⟨_, mem_unitsOf.2 ⟨line, hline, hlines.units line hline, rfl⟩, rfl⟩
    · rintro ⟨u, hu, rfl⟩
      obtain ⟨line, hline, -, rfl⟩ := mem_unitsOf.1 hu
      exact ⟨line, hline, rfl⟩
  rw [hunits h.ordinary, hunits h.ordinary']
  exact exists_congr fun u => and_congr_left fun _ => h.perm.mem_iff

theorem isEmpty_eq (h : SameUnits ctx lines lines') : lines.isEmpty = lines'.isEmpty := by
  have hunits {lines : List BillLine} (hlines : OrdinaryLines lines) :
      (pricesOfLines lines).isEmpty = lines.isEmpty := by
    cases lines with
    | nil => rfl
    | cons line lines =>
      have hmem : line.unitPrice.toInt ∈ pricesOfLines (line :: lines) :=
        mem_pricesOfLines.2
          ⟨line, List.mem_cons_self, hlines.units line List.mem_cons_self, rfl⟩
      exact List.isEmpty_eq_false_iff.2 (List.ne_nil_of_mem hmem)
  rw [← hunits h.ordinary, ← hunits h.ordinary', h.prices.isEmpty_eq]

end SameUnits

/-! ### Eligible lines -/

/-- The lines of a product are eligible, unless they are voided. -/
def Targeting.takes (t : Targeting) (catalog : Catalog) (product : ProductId) : Bool :=
  t.applyTo.isBillScoped || t.selects catalog { product, quantity := 1, unitPrice := 0 }

theorem Targeting.takes_eq (t : Targeting) (catalog : Catalog) {line : BillLine}
    (h : line.quantity ≠ 0) :
    (t.applyTo.isBillScoped || t.selects catalog line) = t.takes catalog line.product := by
  have hone : ((1 : Count) == 0) = false := by decide
  rw [takes, selects, selects, beq_false_of_ne h, hone]

/-- The eligible lines without voided ones are those of some products. -/
theorem EligibleLines.select_eq (t : Targeting) (bill : Bill) (catalog : Catalog)
    (h : OrdinaryLines bill.lines) :
    ∃ selected : List PlacedLine,
      selected.map (·.line) = bill.lines.filter (fun line => t.takes catalog line.product) ∧
      select t bill catalog =
        (Amount.checked (pricesOfLines
          (bill.lines.filter fun line => t.takes catalog line.product)).sum).map fun subtotal =>
            { lines := selected, subtotal
              quantity := Count.sum ((bill.lines.filter fun line =>
                t.takes catalog line.product).map (·.quantity)) } := by
  have hselected : (bill.placedLines.filter fun p =>
        t.applyTo.isBillScoped || t.selects catalog p.line).map (·.line) =
      bill.lines.filter fun line => t.takes catalog line.product := by
    have hlines : bill.lines.filter (fun line => t.takes catalog line.product) =
        bill.lines.filter fun line => t.applyTo.isBillScoped || t.selects catalog line :=
      List.filter_congr fun line hline => (t.takes_eq catalog (h.units line hline)).symm
    rw [hlines]
    exact bill.map_line_filter fun line => t.applyTo.isBillScoped || t.selects catalog line
  refine ⟨_, hselected, ?_⟩
  rw [select, ofLines_eq, hselected, totalOf_eq_checked (h.filter _).prices, ← hselected,
    List.map_map]
  rfl

/-- Eligible lines in two layouts fare alike where lines are not counted. -/
theorem Document.select_layout {d : Document} (hitems : d.requirements.minItems = 0)
    (hrule : ∀ r, d.rule = .buyXGetY r → r.getProduct ≠ none)
    (h : SameUnits ctx ctx.bill.lines lines) :
    Alike (d.FareAlike (fun _ => False) fun _ _ => True)
      (EligibleLines.select d.targeting ctx.bill ctx.catalog)
      (EligibleLines.select d.targeting (ctx.withLines lines).bill ctx.catalog) := by
  let takes (line : BillLine) : Bool := d.targeting.takes ctx.catalog line.product
  obtain ⟨selected, hlines, hselect⟩ :=
    EligibleLines.select_eq d.targeting ctx.bill ctx.catalog h.ordinary
  obtain ⟨selected', hlines', hselect'⟩ :=
    EligibleLines.select_eq d.targeting (ctx.withLines lines).bill ctx.catalog h.ordinary'
  have htaken : SameUnits ctx (ctx.bill.lines.filter takes)
      ((ctx.withLines lines).bill.lines.filter takes) :=
    h.ofProducts (d.targeting.takes ctx.catalog)
  rw [hselect, hselect', ← htaken.prices.sum_eq]
  cases htotal : Amount.checked (pricesOfLines (ctx.bill.lines.filter takes)).sum with
  | error e => exact .error e
  | ok subtotal =>
    have hpayable : Payable (ctx.bill.lines.filter takes) :=
      ⟨htaken.ordinary.prices, Amount.checked_eq_ok_iff.1 htotal ▸ subtotal.upper⟩
    have hquantity := (htaken.linesAlike hpayable.fits).units
    have hempty : selected.isEmpty = selected'.isEmpty := by
      have hsame := htaken.isEmpty_eq
      rwa [← hlines, ← hlines', List.isEmpty_map, List.isEmpty_map] at hsame
    refine .ok ⟨⟨rfl, hquantity, fun keep => ?_, fun _ => trivial⟩, ?_, .inr ?_,
      fun r hr hproduct => ?_⟩
    · rw [EligibleLines.linesOf_eq, EligibleLines.linesOf_eq, hlines, hlines']
      exact (htaken.ofProducts keep).linesAlike (hpayable.filter _).fits
    · rw [targetingGate, targetingGate, EligibleLines.isEmpty, EligibleLines.isEmpty, hempty]
    · have hany (n : Nat) : decide ((0 : Count).toNat ≤ n) = true := decide_eq_true n.zero_le
      rw [thresholdGate, thresholdGate, hitems, hany, hany, hquantity]
      exact (Alike.refl _).mono fun _ _ _ => trivial
    · exact absurd hproduct (hrule r hr)

/-! ### Brands -/

/-- What is spent at each brand is the same, and so are the brands on the receipt. -/
theorem BrandSpend.onBill_layout (h : SameUnits ctx ctx.bill.lines lines) :
    Alike (fun s s' => (∀ brand, BrandSpend.amountAt s brand = BrandSpend.amountAt s' brand) ∧
        s.keys = s'.keys) (onBill ctx) (onBill (ctx.withLines lines)) := by
  have hcost (brand : BrandId) : costAt ctx ctx.bill.lines brand =
      costAt (ctx.withLines lines) lines brand :=
    (h.filter (fun u => decide (u.brand = brand)) fun _ => rfl).prices.sum_eq
  -- what a brand comes to in one layout fits an amount, so it fits in the other
  have hfits {s : BrandSpend} {brand : BrandId}
      (hs : (s.amountAt brand).toInt = costAt ctx ctx.bill.lines brand) :
      costAt ctx ctx.bill.lines brand < 9223372036854775808 :=
    hs ▸ (s.amountAt brand).upper
  rcases onBill_cases ctx h.ordinary.prices with
    ⟨s, hs, hvalue⟩ | ⟨hover, brand, hrange⟩
  · rcases onBill_cases (ctx.withLines lines) h.ordinary'.prices with
      ⟨s', hs', hvalue'⟩ | ⟨-, brand, hrange⟩
    · rw [hs, hs']
      refine .ok ⟨fun brand => Amount.ext ?_, ?_⟩
      · rw [hvalue, hvalue', hcost]
        rfl
      · refine congrArg SortedSet.toList (SortedSet.ext_mem (s := s.keySet) (t := s'.keySet) ?_)
        intro brand
        exact (mem_keys_onBill hs brand).trans
          ((h.exists_brand_iff brand).trans (mem_keys_onBill hs' brand).symm)
    · have hlt := hfits (hvalue brand)
      rw [hcost] at hlt
      exact absurd hrange (Int.not_le_of_gt hlt)
  · rcases onBill_cases (ctx.withLines lines) h.ordinary'.prices with
      ⟨s', hs', hvalue'⟩ | ⟨hover', -⟩
    · have hlt := hfits ((hvalue' brand).trans (hcost brand).symm)
      exact absurd hrange (Int.not_le_of_gt hlt)
    · rw [hover, hover']
      exact .error _

theorem CrossBrand.isMet_layout (h : SameUnits ctx ctx.bill.lines lines) (c : CrossBrand) :
    c.isMet ctx = c.isMet (ctx.withLines lines) := by
  refine ((BrandSpend.onBill_layout h).bind fun s s' hsame => Alike.of_eq ?_).eq
  obtain ⟨hsame, hkeys⟩ := hsame
  have hsize : s.size = s'.size := by
    have hlength (m : BrandSpend) : m.size = m.keys.length := (List.length_map Prod.fst).symm
    rw [hlength, hlength, hkeys]
  cases c.kind with
  | triggerBenefit =>
    dsimp only
    rw [triggerMet, spendAt_congr ctx hsame]
    rfl
  | multiBrandSpend => exact c.multiBrandMet_congr ctx hsame
  | crossBrandBundle =>
    dsimp only
    rw [hsize, hkeys]
  | sameReceipt =>
    dsimp only
    rw [hkeys]
  | loyaltyAccumulate => rfl

/-! ### Documents -/

theorem Document.scopeGate_layout (d : Document) (h : SameUnits ctx ctx.bill.lines lines) :
    d.scopeGate ctx = d.scopeGate (ctx.withLines lines) := by
  rw [scopeGate, scopeGate]
  cases d.crossBrand with
  | none => rfl
  | some c =>
    dsimp only
    rw [c.isMet_layout h]
    rfl

end Layouts

namespace Document

/-- A document that counts no lines grants the same, for the same reason grants nothing, or fails
alike, in whatever lines the units of a bill stand. -/
theorem evaluate_layout (d : Document) (ctx : Context) (lines : List BillLine)
    (hitems : d.requirements.minItems = 0)
    (hrule : ∀ r, d.rule = .buyXGetY r → r.getProduct ≠ none)
    (h : OrdinaryLines ctx.bill.lines) (h' : OrdinaryLines lines)
    (hperm : (ctx.unitsOf ctx.bill.lines).Perm (ctx.unitsOf lines)) :
    (d.evaluate (ctx.withLines lines)).verdict.mapPlaces (fun _ => []) =
      (d.evaluate ctx).verdict.mapPlaces fun _ => [] := by
  have hsame : SameUnits ctx ctx.bill.lines lines := ⟨h, h', hperm⟩
  have hscope : AlikeUnless (fun _ => False) (fun _ _ => True) (d.scopeGate ctx)
      (d.scopeGate (ctx.withLines lines)) :=
    .inr ((Alike.of_eq (d.scopeGate_layout hsame)).mono fun _ _ _ => trivial)
  obtain ⟨_, hnever, -⟩ | hjudge :=
    judge_alike ⟨trivial, fun _ _ => trivial, fun _ => trivial⟩ hscope
      (select_layout hitems hrule hsame)
  · exact hnever.elim
  · exact (Verdict.mapPlaces_eq (hjudge.mono fun _ _ hgrant =>
      ⟨hgrant.discount, hgrant.benefit, rfl⟩)).symm

end Document

namespace Sample

/-- A promotion that stacks and applies by itself. -/
def policy (stage : Stage) : ConflictPolicy where
  isStackable := true
  executionPriority := 500
  stage := stage
  cannotCombineWith := .empty
  isAutoApply := true
  requireVoucher := false
  priority := 0

/-- A promotion of some minor units off the bill. -/
def document (n : UInt8) (code : String) (discount : Int) (conflict : ConflictPolicy) :
    Document where
  id := id n
  code := code
  name := code
  description := ""
  terms := ""
  companyId := id 1
  brandId := none
  currency := "IDR"
  version := Document.currentVersion
  compiledAt := ⟨⟨date, .midnight⟩, by decide, by decide⟩
  fingerprint := ""
  storeId := none
  rule := .amountDiscount ⟨amount discount, 0⟩
  validity := ⟨date, date, none, ⟨[]⟩, false⟩
  scope := ⟨.all, .company, .empty, .empty, .empty⟩
  targeting := ⟨.bill, .empty, .empty, .empty, .empty⟩
  audience := ⟨false, .empty, .empty, .all, 30⟩
  requirements := ⟨0, 0, 0⟩
  limits := ⟨none, none, none, 0⟩
  conflict := conflict
  crossBrand := none

/-- The context of the bill, of which nothing else is known. -/
def context : Context := { bill }

/-- The context of a bill with the products of the catalog. -/
def contextOf (bill : Bill) : Context := { bill, catalog }

/-- Three units of the category for seventy, of the bill as a whole. -/
def trio : Document := { document 1 "A" 0 (policy .itemLevel) with rule := .mixMatch mixMatch }

end Sample

/-- Three units of a category for one price, where one of the two that are the same stands apart. -/
theorem Document.evaluate_layout_shop :
    let ctx := Sample.contextOf Sample.bill
    let lines : List BillLine := [⟨Sample.id 1, none, 1, Sample.amount 40⟩,
      ⟨Sample.id 2, none, 1, Sample.amount 20⟩, ⟨Sample.id 1, none, 1, Sample.amount 40⟩]
    (ctx.unitsOf ctx.bill.lines).Perm (ctx.unitsOf lines) ∧
      (Sample.trio.evaluate (ctx.withLines lines)).verdict.mapPlaces (fun _ => []) =
        .eligible ⟨Sample.amount 30, .discount, []⟩ := by
  intro ctx lines
  have hperm : (ctx.unitsOf ctx.bill.lines).Perm (ctx.unitsOf lines) :=
    .cons _ (.swap _ _ _)
  have hpasses : Sample.trio.Passes (Sample.contextOf Sample.bill) Sample.basis.lines :=
    ⟨rfl, rfl, rfl, rfl, rfl, rfl, rfl, rfl⟩
  have hverdict : (Sample.trio.evaluate ctx).verdict =
      .eligible ⟨Sample.amount 30, .discount, [0, 1]⟩ := by
    rw [verdict_eq_eligible_iff, hpasses.judge_eq]
    cbv
  have hrule : ∀ r, Sample.trio.rule = .buyXGetY r → r.getProduct ≠ none := by
    intro r hr
    cases hr
  refine ⟨hperm, (evaluate_layout Sample.trio ctx lines rfl hrule ⟨?_, ?_⟩ ⟨?_, ?_⟩ hperm).trans ?_⟩
  · decide
  · decide
  · decide
  · decide
  · exact congrArg (·.mapPlaces fun _ => []) hverdict

end Promotions

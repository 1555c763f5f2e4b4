import Promotions.Proofs.Eligibility.FixedPrices
import Promotions.Proofs.Grouping.UnitByUnit

/-!
# Proofs: products under other identifiers on a bill

Where products are given other identifiers on the bill, in the catalog and in a document, the same
lines are eligible, at the same places and with the same totals, and every gate says the same. Only
a rule for groups of different products looks at identifiers, to break ties. It grants the same if
ties are broken as before, and as long as groups can be counted it rejects the bill for the same
reason.
-/

namespace Promotions

open Fallible Judged UnitRuns

variable {σ : ProductId → ProductId}

/-! ## Other identifiers -/

/-- The catalog with its products under other identifiers. -/
def Catalog.rename (σ : ProductId → ProductId) (c : Catalog) : Catalog :=
  .ofList (c.entries.map fun entry => (σ entry.1, entry.2))

/-- The targeting with its products under other identifiers. -/
def Targeting.rename (σ : ProductId → ProductId) (t : Targeting) : Targeting :=
  { t with
    products := .ofList (t.products.toList.map σ)
    excludeProducts := .ofList (t.excludeProducts.toList.map σ) }

/-- The document with the products that it targets under other identifiers. A rule for groups names
no product. -/
def Document.rename (σ : ProductId → ProductId) (d : Document) : Document :=
  { d with targeting := d.targeting.rename σ }

/-- The bill with its products under other identifiers. -/
def Bill.rename (σ : ProductId → ProductId) (bill : Bill) : Bill :=
  { bill with lines := bill.lines.map (BillLine.rename σ) }

/-- The facts with the products of the bill and of the catalog under other identifiers. -/
def Context.rename (σ : ProductId → ProductId) (ctx : Context) : Context :=
  { ctx with bill := ctx.bill.rename σ, catalog := ctx.catalog.rename σ }

/-- The line with its product under another identifier, at the same place. -/
def PlacedLine.rename (σ : ProductId → ProductId) (p : PlacedLine) : PlacedLine :=
  { p with line := p.line.rename σ }

/-- The eligible lines with their products under other identifiers. -/
def EligibleLines.rename (σ : ProductId → ProductId) (e : EligibleLines) : EligibleLines :=
  { e with lines := e.lines.map (PlacedLine.rename σ) }

/-- What formulas work on with products under other identifiers. -/
def Basis.rename (σ : ProductId → ProductId) (b : Basis) : Basis :=
  { b with bill := b.bill.rename σ, catalog := b.catalog.rename σ, lines := b.lines.rename σ }

/-! ## Selection -/

theorem SortedSet.mem_rename_iff (hσ : Function.Injective σ) {s : SortedSet ProductId}
    {product : ProductId} : σ product ∈ SortedSet.ofList (s.toList.map σ) ↔ product ∈ s := by
  rw [SortedSet.mem_ofList, List.mem_map_of_injective hσ]
  rfl

theorem Catalog.find?_rename (hσ : Function.Injective σ) (c : Catalog) (product : ProductId) :
    (c.rename σ).find? (σ product) = c.find? product := by
  have hkeys : (c.entries.map (·.1)).Nodup :=
    List.pairwise_map.2 (c.sorted.imp fun h => Ordered.ne_of_before h)
  have hsame : (fun entry : ProductId × CatalogEntry => decide (σ entry.1 = σ product)) =
      fun entry => decide (entry.1 = product) :=
    funext fun _ => decide_eq_decide.2 hσ.eq_iff
  unfold rename
  rw [SortedMap.find?_ofList, ← List.map_reverse, List.find?_map, Option.map_map]
  show (c.entries.reverse.find? fun entry => decide (σ entry.1 = σ product)).map _ = _
  rw [hsame, ← Keyed.find?_perm (List.reverse_perm _).symm hkeys]
  rfl

theorem Catalog.categoryOf_rename (hσ : Function.Injective σ) (c : Catalog) (product : ProductId) :
    (c.rename σ).categoryOf (σ product) = c.categoryOf product := by
  rw [categoryOf, c.find?_rename hσ]
  rfl

theorem Catalog.brandOf_rename (hσ : Function.Injective σ) (c : Catalog) (product : ProductId) :
    (c.rename σ).brandOf (σ product) = c.brandOf product := by
  rw [brandOf, c.find?_rename hσ]
  rfl

theorem Targeting.selects_rename (hσ : Function.Injective σ) (t : Targeting) (catalog : Catalog)
    (line : BillLine) :
    (t.rename σ).selects (catalog.rename σ) (line.rename σ) = t.selects catalog line := by
  have hcategory : (catalog.rename σ).categoryOf (line.rename σ).product =
      catalog.categoryOf line.product := catalog.categoryOf_rename hσ line.product
  have hproducts : decide ((line.rename σ).product ∈ (t.rename σ).products) =
      decide (line.product ∈ t.products) := decide_eq_decide.2 (SortedSet.mem_rename_iff hσ)
  have hexcluded : decide ((line.rename σ).product ∈ (t.rename σ).excludeProducts) =
      decide (line.product ∈ t.excludeProducts) := decide_eq_decide.2 (SortedSet.mem_rename_iff hσ)
  unfold selects
  rw [hcategory, hproducts, hexcluded]
  rfl

theorem Bill.placedLines_rename (σ : ProductId → ProductId) (bill : Bill) :
    (bill.rename σ).placedLines = bill.placedLines.map (PlacedLine.rename σ) := by
  unfold placedLines Bill.rename
  rw [List.zipIdx_map, List.map_map, List.map_map]
  rfl

theorem EligibleLines.ofLines_rename (σ : ProductId → ProductId) (lines : List PlacedLine) :
    ofLines (lines.map (PlacedLine.rename σ)) = (ofLines lines).map (rename σ) := by
  rw [ofLines, ofLines, List.mapM_map, map_bind]
  refine congrArg _ (funext fun amounts => ?_)
  rw [map_bind]
  refine congrArg _ (funext fun subtotal => ?_)
  rw [List.map_map]
  rfl

theorem EligibleLines.select_rename (hσ : Function.Injective σ) (t : Targeting) (bill : Bill)
    (catalog : Catalog) :
    select (t.rename σ) (bill.rename σ) (catalog.rename σ) =
      (select t bill catalog).map (rename σ) := by
  have hkept : ∀ p : PlacedLine, ((t.rename σ).applyTo.isBillScoped ||
      (t.rename σ).selects (catalog.rename σ) (p.rename σ).line) =
        (t.applyTo.isBillScoped || t.selects catalog p.line) := by
    intro p
    have hselects := t.selects_rename hσ catalog p.line
    exact congrArg (t.applyTo.isBillScoped || ·) hselects
  unfold select
  rw [bill.placedLines_rename, List.filter_map, ← ofLines_rename]
  exact congrArg (fun lines => ofLines (lines.map (PlacedLine.rename σ)))
    (List.filter_congr fun p _ => hkept p)

/-! ## Brands -/

theorem BrandSpend.onBill_rename (hσ : Function.Injective σ) (ctx : Context) :
    onBill (ctx.rename σ) = onBill ctx := by
  have hline : ∀ s line, addLine (ctx.rename σ) s (line.rename σ) = addLine ctx s line := by
    intro s line
    have hbrand : (ctx.rename σ).bill.lineBrand (line.rename σ) (ctx.rename σ).catalog =
        ctx.bill.lineBrand line ctx.catalog :=
      congrArg (fun brand => (line.brand.or brand).getD ctx.bill.brandId)
        (ctx.catalog.brandOf_rename hσ line.product)
    rw [addLine, addLine, hbrand]
    rfl
  show (ctx.bill.lines.map (BillLine.rename σ)).foldlM (addLine (ctx.rename σ)) .empty = _
  rw [List.foldlM_map]
  exact congrArg (ctx.bill.lines.foldlM · .empty) (funext fun s => funext (hline s))

theorem CrossBrand.isMet_rename (hσ : Function.Injective σ) (c : CrossBrand) (ctx : Context) :
    c.isMet (ctx.rename σ) = c.isMet ctx := by
  unfold isMet
  rw [BrandSpend.onBill_rename hσ]
  rfl

theorem Document.scopeGate_rename (hσ : Function.Injective σ) (d : Document) (ctx : Context) :
    (d.rename σ).scopeGate (ctx.rename σ) = d.scopeGate ctx := by
  have hmet (c : CrossBrand) : c.isMet (ctx.rename σ) = c.isMet ctx := c.isMet_rename hσ ctx
  unfold scopeGate
  rw [show (d.rename σ).crossBrand = d.crossBrand from rfl]
  cases d.crossBrand with
  | none => rfl
  | some c =>
    dsimp only
    rw [hmet]
    rfl

/-! ## Judging -/

/-- What holds of any failure and of what the rule comes to holds of what a document grants with its
products under other identifiers and with its own. -/
theorem Document.judge_rename (hσ : Function.Injective σ) (d : Document) (ctx : Context)
    {P : Judged Grant → Judged Grant → Prop} (herror : ∀ e, P (.error e) (.error e))
    (hgrant : ∀ e, EligibleLines.select d.targeting ctx.bill ctx.catalog = .ok e →
      P (d.rule.grant (Basis.rename σ ⟨ctx.bill, ctx.catalog, e, d.base ctx e⟩))
        (d.rule.grant ⟨ctx.bill, ctx.catalog, e, d.base ctx e⟩)) :
    P ((d.rename σ).judge (ctx.rename σ)) (d.judge ctx) := by
  have hbind {α : Type} {f g : α → Judged Grant} (x : Judged α)
      (h : ∀ a, x = .ok a → P (f a) (g a)) : P (x >>= f) (x >>= g) := by
    cases x with
    | error e => exact herror e
    | ok a => exact h a rfl
  have hform : (d.rename σ).checkForm (ctx.rename σ).bill = d.checkForm ctx.bill := rfl
  have hvalidity : (d.rename σ).validityGate (ctx.rename σ) = d.validityGate ctx := rfl
  have hcustomer : (d.rename σ).customerGate (ctx.rename σ) = d.customerGate ctx := rfl
  have hlimit : (d.rename σ).limitGate (ctx.rename σ) = d.limitGate ctx := rfl
  have hselect : EligibleLines.select (d.rename σ).targeting (ctx.rename σ).bill
      (ctx.rename σ).catalog = (EligibleLines.select d.targeting ctx.bill ctx.catalog).map
        (EligibleLines.rename σ) :=
    EligibleLines.select_rename hσ d.targeting ctx.bill ctx.catalog
  rw [judge, judge, hform, hvalidity, d.scopeGate_rename hσ, hcustomer, hlimit, hselect]
  split
  · exact herror _
  · refine hbind _ fun _ _ => hbind _ fun _ _ => ?_
    cases hlines : EligibleLines.select d.targeting ctx.bill ctx.catalog with
    | error e => exact herror _
    | ok e =>
      have htargeting : (d.rename σ).targetingGate (e.rename σ) = d.targetingGate e := by
        have hempty : (e.rename σ).isEmpty = e.isEmpty := List.isEmpty_map
        rw [targetingGate, targetingGate, hempty]
        rfl
      have hthreshold : (d.rename σ).thresholdGate (e.rename σ) = d.thresholdGate e := by
        have hsize : (e.rename σ).size = e.size := List.length_map _
        rw [thresholdGate, thresholdGate, hsize]
        rfl
      show P ((d.rename σ).targetingGate (e.rename σ) >>= fun _ => _)
        (d.targetingGate e >>= fun _ => _)
      rw [htargeting, hthreshold]
      exact hbind _ fun _ _ => hbind _ fun _ _ => hbind _ fun _ _ => hbind _ fun _ _ =>
        hgrant e hlines

/-! ## Groups -/

namespace Judged

variable {α : Type} {x y : Judged α}

/-- Both come to an answer, or both to the same rejection. -/
def SameStatus (x y : Judged α) : Prop := (∃ a b, x = .ok a ∧ y = .ok b) ∨ x = y

/-- Both are rejected for the same reason, or neither is for any. -/
def SameReasons (x y : Judged α) : Prop :=
  ∀ reason, x = .error (.ineligible reason) ↔ y = .error (.ineligible reason)

theorem SameReasons.sameStatus (h : SameReasons x y) (hx : Decides x) (hy : Decides y) :
    SameStatus x y := by
  rcases x with (reason | fault) | a
  · exact .inr ((h reason).1 rfl).symm
  · exact absurd rfl (hx fault)
  · rcases y with (reason | fault) | b
    · cases (h reason).2 rfl
    · exact absurd rfl (hy fault)
    · exact .inl ⟨a, b, rfl, rfl⟩

theorem map_eq_ineligible_iff {β : Type} {f : α → β} {reason : Reason} :
    x.map f = .error (.ineligible reason) ↔ x = .error (.ineligible reason) := by
  cases x <;> simp [Except.map]

theorem SameStatus.map {β : Type} (h : SameStatus x y) (f : α → β) :
    SameStatus (x.map f) (y.map f) := by
  obtain ⟨a, b, rfl, rfl⟩ | rfl := h
  · exact .inl ⟨f a, f b, rfl, rfl⟩
  · exact .inr rfl

end Judged

/-- Both grant something, or they are the same. -/
def Verdict.SameStatus (v v' : Verdict) : Prop :=
  (∃ grant grant', v = .eligible grant ∧ v' = .eligible grant') ∨ v = v'

theorem Verdict.sameStatus_ofJudged {x y : Judged Grant} (h : Judged.SameStatus x y) :
    (ofJudged x).SameStatus (ofJudged y) := by
  obtain ⟨grant, grant', rfl, rfl⟩ | rfl := h
  · exact .inl ⟨grant, grant', rfl, rfl⟩
  · exact .inr rfl

namespace MixMatch

variable {r : MixMatch} {b : Basis}

/-- The lines of the category are the same at the same places, under other identifiers. -/
theorem ofCategory_rename (hσ : Function.Injective σ) (b : Basis) (category : CategoryId) :
    (b.rename σ).lines.ofCategory (b.rename σ).catalog category =
      (b.lines.ofCategory b.catalog category).map (PlacedLine.rename σ) := by
  have hcategory (p : PlacedLine) :
      decide ((b.catalog.rename σ).categoryOf (p.rename σ).line.product = some category) =
        decide (b.catalog.categoryOf p.line.product = some category) :=
    decide_eq_decide.2 (b.catalog.categoryOf_rename hσ p.line.product ▸ Iff.rfl)
  show (b.lines.lines.map (PlacedLine.rename σ)).filter _ = _
  rw [List.filter_map]
  exact congrArg (List.map _) (List.filter_congr fun p _ => hcategory p)

theorem linesOf_rename (hσ : Function.Injective σ) (r : MixMatch) (b : Basis) :
    r.linesOf (b.rename σ) = (r.linesOf b).map (BillLine.rename σ) := by
  unfold linesOf
  rw [ofCategory_rename hσ, List.map_map, List.map_map]
  rfl

theorem grant_eq (r : MixMatch) (b : Basis) :
    r.grant b = (liftM (r.groups (r.linesOf b)) >>= fun groups =>
      require (decide (groups.count ≠ 0)) .mixMatchQuantityNotMet >>= fun _ =>
        .ok { discount := groups.saved
              affected := EligibleLines.indicesOf (b.lines.ofCategory b.catalog r.category) }) :=
  rfl

/-- A group rule rejects the bill just where no group is counted. -/
theorem grant_eq_ineligible_iff {reason : Reason} :
    r.grant b = .error (.ineligible reason) ↔ reason = .mixMatchQuantityNotMet ∧
      ∃ g, r.groups (r.linesOf b) = .ok g ∧ g.count = 0 := by
  cases hgroups : r.groups (r.linesOf b) with
  | error e =>
    rw [grant_of_groups_error hgroups]
    simp
  | ok g =>
    rw [grant_of_groups_ok hgroups]
    by_cases hcount : g.count = 0
    · simp [hcount, eq_comm]
    · simp [hcount]

theorem grant_rename_eq (hr : r.allowSameProduct = false) (hσ : Function.Injective σ)
    (h : KeepsTies σ (r.linesOf b)) : r.grant (b.rename σ) = r.grant b := by
  have hplaces : ((b.lines.ofCategory b.catalog r.category).map (PlacedLine.rename σ)).map
      (·.index) = (b.lines.ofCategory b.catalog r.category).map (·.index) := List.map_map
  rw [grant_eq, grant_eq, linesOf_rename hσ, groups_rename hr hσ h, ofCategory_rename hσ,
    EligibleLines.indicesOf, EligibleLines.indicesOf, hplaces]

/-- There are as many units under other identifiers. -/
theorem card_rename (σ : ProductId → ProductId) (lines : List BillLine) :
    Fintype.card (UnitOf (lines.map (BillLine.rename σ))) = Fintype.card (UnitOf lines) := by
  rw [UnitOf.card_eq_units, UnitOf.card_eq_units, ofLines_rename]

theorem productsOf_rename (hσ : Function.Injective σ) (lines : List BillLine) :
    productsOf (lines.map (BillLine.rename σ)) = σ '' productsOf lines := by
  ext p
  rw [Set.mem_image, mem_productsOf_iff]
  constructor
  · intro hunits
    obtain ⟨line', hline', rfl⟩ := ProductRow.exists_line_of_amounts hunits
    obtain ⟨line, -, rfl⟩ := List.mem_map.1 hline'
    refine ⟨line.product, mem_productsOf_iff.2 ?_, rfl⟩
    rwa [← amountsOf_rename hσ]
  · rintro ⟨q, hq, rfl⟩
    rw [amountsOf_rename hσ]
    exact mem_productsOf_iff.1 hq

/-- As long as groups can be counted, none is counted under other identifiers just where none is
counted. -/
theorem groups_none_rename_iff (hr : r.allowSameProduct = false) (hσ : Function.Injective σ)
    {lines : List BillLine}
    (hunits : Fintype.card (UnitOf lines) / r.groupSize.toNat < 2 ^ 32) :
    (∃ g, r.groups (lines.map (BillLine.rename σ)) = .ok g ∧ g.count = 0) ↔
      ∃ g, r.groups lines = .ok g ∧ g.count = 0 := by
  rw [groups_none_iff hr hunits, groups_none_iff hr (by rwa [card_rename]), productsOf_rename hσ,
    hσ.encard_image]

/-- The bill is rejected for the same reason, whatever products are called, if groups can be counted
where the reason is that there are none. -/
theorem grant_rename_ineligible_iff (hr : r.allowSameProduct = false) (hσ : Function.Injective σ)
    {reason : Reason} (hunits : reason = .mixMatchQuantityNotMet →
      Fintype.card (UnitOf (r.linesOf b)) / r.groupSize.toNat < 2 ^ 32) :
    r.grant (b.rename σ) = .error (.ineligible reason) ↔
      r.grant b = .error (.ineligible reason) := by
  rw [grant_eq_ineligible_iff, grant_eq_ineligible_iff, linesOf_rename hσ]
  exact and_congr_right fun hreason => groups_none_rename_iff hr hσ (hunits hreason)

theorem arePayable_rename (h : b.lines.ArePayable) : (b.rename σ).lines.ArePayable := by
  have hlines : (b.rename σ).lines.lines.map (·.line) =
      (b.lines.lines.map (·.line)).map (BillLine.rename σ) := by
    show (b.lines.lines.map (PlacedLine.rename σ)).map _ = _
    rw [List.map_map, List.map_map]
    rfl
  have hprices : pricesOfLines ((b.lines.lines.map (·.line)).map (BillLine.rename σ)) =
      pricesOfLines (b.lines.lines.map (·.line)) := List.flatMap_map ..
  show Payable ((b.rename σ).lines.lines.map (·.line))
  rw [hlines]
  exact ⟨List.forall_mem_map.2 h.prices, hprices ▸ h.fits⟩

/-- Without negative prices the bill is rejected or not, whatever products are called. -/
theorem sameStatus_grant_rename (hr : r.allowSameProduct = false) (hσ : Function.Injective σ)
    (hunits : Fintype.card (UnitOf (r.linesOf b)) / r.groupSize.toNat < 2 ^ 32)
    (hprice : 0 ≤ r.specialPrice) (h : b.lines.ArePayable) :
    SameStatus (r.grant (b.rename σ)) (r.grant b) := by
  have hreasons : SameReasons (r.grant (b.rename σ)) (r.grant b) :=
    fun _ => grant_rename_ineligible_iff hr hσ fun _ => hunits
  exact hreasons.sameStatus (decides_grant hprice (arePayable_rename h)) (decides_grant hprice h)

end MixMatch

theorem Rule.grant_eq_map (rule : Rule) (b : Basis) :
    rule.grant b = (rule.formula b).map fun grant =>
      { grant with discount := Amount.clamp grant.discount b.base } := by
  unfold grant
  cases rule.formula b <;> rfl

/-! ## Evaluation -/

namespace Document

variable {d : Document} {r : MixMatch} {ctx : Context}

/-- The eligible lines of the category. -/
def groupLines (d : Document) (ctx : Context) (r : MixMatch) : List BillLine :=
  (ctx.bill.lines.filter fun line => d.targeting.applyTo.isBillScoped ||
    d.targeting.selects ctx.catalog line).filter fun line => r.covers ctx.catalog line.product

theorem linesOf_eq_groupLines {e : EligibleLines}
    (h : EligibleLines.select d.targeting ctx.bill ctx.catalog = .ok e) (base : Amount) :
    r.linesOf ⟨ctx.bill, ctx.catalog, e, base⟩ = d.groupLines ctx r := by
  show e.linesOf (r.covers ctx.catalog) = _
  rw [EligibleLines.linesOf_eq, EligibleLines.lines_of_ofLines h,
    ctx.bill.map_line_filter fun line => d.targeting.applyTo.isBillScoped ||
      d.targeting.selects ctx.catalog line]
  rfl

/-- What a document grants for groups of different products depends on the identifiers of products
only where they break ties. However they are called, the bill is rejected for the same reason or for
none as long as the groups can be counted, and without negative prices it is then judged the same
but for what is granted. If products with units of one price keep their order, but for an exchange of
products with the same units, the same is granted at the same places, so that products with the same
units can be exchanged. -/
theorem evaluate_rename (d : Document) (hrule : d.rule = .mixMatch r)
    (hr : r.allowSameProduct = false) (ctx : Context) (hσ : Function.Injective σ) :
    (∀ reason, (reason = .mixMatchQuantityNotMet →
          Fintype.card (UnitOf (d.groupLines ctx r)) / r.groupSize.toNat < 2 ^ 32) →
        (((d.rename σ).evaluate (ctx.rename σ)).verdict = .ineligible reason ↔
          (d.evaluate ctx).verdict = .ineligible reason)) ∧
      (Fintype.card (UnitOf (d.groupLines ctx r)) / r.groupSize.toNat < 2 ^ 32 →
        0 ≤ r.specialPrice → (∀ line ∈ ctx.bill.lines, 0 ≤ line.unitPrice) →
        ((d.rename σ).evaluate (ctx.rename σ)).verdict.SameStatus (d.evaluate ctx).verdict) ∧
      (KeepsTies σ (d.groupLines ctx r) →
        ((d.rename σ).evaluate (ctx.rename σ)).verdict = (d.evaluate ctx).verdict) ∧
      ∀ p q, amountsOf (d.groupLines ctx r) p = amountsOf (d.groupLines ctx r) q →
        σ = Equiv.swap p q →
          ((d.rename σ).evaluate (ctx.rename σ)).verdict = (d.evaluate ctx).verdict := by
  have hties (hkeeps : KeepsTies σ (d.groupLines ctx r)) :
      ((d.rename σ).evaluate (ctx.rename σ)).verdict = (d.evaluate ctx).verdict := by
    refine congrArg Verdict.ofJudged (d.judge_rename hσ ctx (fun _ => rfl) fun e he => ?_)
    rw [← linesOf_eq_groupLines he (d.base ctx e)] at hkeeps
    rw [hrule, Rule.grant_eq_map, Rule.grant_eq_map]
    exact congrArg (Except.map _) (MixMatch.grant_rename_eq hr hσ hkeeps)
  refine ⟨fun reason hunits => ?_, fun hunits hprice hprices => ?_, hties, ?_⟩
  · rw [verdict_eq_ineligible_iff, verdict_eq_ineligible_iff]
    refine d.judge_rename hσ ctx (P := fun x y => x = .error (.ineligible reason) ↔
      y = .error (.ineligible reason)) (fun _ => Iff.rfl) fun e he => ?_
    rw [← linesOf_eq_groupLines he (d.base ctx e)] at hunits
    rw [hrule, Rule.grant_eq_map, Rule.grant_eq_map, map_eq_ineligible_iff, map_eq_ineligible_iff]
    exact MixMatch.grant_rename_ineligible_iff hr hσ hunits
  · refine Verdict.sameStatus_ofJudged (d.judge_rename hσ ctx (fun _ => .inr rfl) fun e he => ?_)
    have hpayable : e.ArePayable := EligibleLines.arePayable_of_select he hprices
    rw [← linesOf_eq_groupLines he (d.base ctx e)] at hunits
    rw [hrule, Rule.grant_eq_map, Rule.grant_eq_map]
    exact (MixMatch.sameStatus_grant_rename hr hσ hunits hprice hpayable).map _
  · rintro p q hsame rfl
    exact hties (keepsTies_swap hsame)

end Document

namespace Sample

/-- The document of that rule, for the bill as a whole. -/
def pairsDocument : Document :=
  { document 1 "A" 0 (policy .itemLevel) with rule := .mixMatch pairs }

/-- Three products of one category at one price, two units of the first, one of each other. -/
def evenContext : Context where
  bill := { bill with lines := [⟨id 1, none, 2, amount 40⟩, ⟨id 2, none, 1, amount 40⟩,
    ⟨id 3, none, 1, amount 40⟩] }
  catalog := .ofList [(id 1, { category := some (id 1) }), (id 2, { category := some (id 1) }),
    (id 3, { category := some (id 1) })]

/-- The lines of that bill, which are all eligible. -/
def evenLines : EligibleLines := ⟨evenContext.bill.placedLines, amount 160, 4⟩

/-- The identifiers of the first product and of the third exchanged. -/
def exchange : ProductId → ProductId := Equiv.swap (id 1) (id 3)

end Sample

/-- Sixty are granted on the bill of three products at one price, also where the third is called
otherwise and still comes last, and where the two of one unit are exchanged. -/
theorem Document.evaluate_rename_shop :
    let lines := Sample.pairsDocument.groupLines Sample.evenContext Sample.pairs
    let renamed (σ : ProductId → ProductId) :=
      ((Sample.pairsDocument.rename σ).evaluate (Sample.evenContext.rename σ)).verdict
    let granted := Verdict.eligible ⟨Sample.amount 60, .discount, [0, 1, 2]⟩
    (Sample.pairsDocument.evaluate Sample.evenContext).verdict = granted ∧
      KeepsTies (Equiv.swap (Sample.id 3) (Sample.id 9)) lines ∧
      renamed (Equiv.swap (Sample.id 3) (Sample.id 9)) = granted ∧
      amountsOf lines (Sample.id 2) = amountsOf lines (Sample.id 3) ∧
      renamed (Equiv.swap (Sample.id 2) (Sample.id 3)) = granted ∧
      Fintype.card (UnitOf lines) / Sample.pairs.groupSize.toNat = 2 ∧
      (∀ line ∈ Sample.evenContext.bill.lines, 0 ≤ line.unitPrice) ∧
      (renamed Sample.exchange).SameStatus granted := by
  intro lines renamed granted
  have hpasses : Sample.pairsDocument.Passes Sample.evenContext Sample.evenLines :=
    ⟨rfl, rfl, rfl, rfl, rfl, rfl, rfl, rfl⟩
  have hgranted : (Sample.pairsDocument.evaluate Sample.evenContext).verdict = granted := by
    rw [verdict_eq_eligible_iff, hpasses.judge_eq]
    cbv
  have hlines : lines = Sample.evenContext.bill.lines := by cbv
  have hkeeps : KeepsTies (Equiv.swap (Sample.id 3) (Sample.id 9)) lines := by
    rw [hlines]
    exact keepsTies_of_lines (by decide)
  have hsame : amountsOf lines (Sample.id 2) = amountsOf lines (Sample.id 3) := by
    rw [hlines]
    cbv
  have hcounted : Fintype.card (UnitOf lines) / Sample.pairs.groupSize.toNat = 2 := by
    rw [hlines, UnitOf.card_eq_units]
    cbv
  have hprices : ∀ line ∈ Sample.evenContext.bill.lines, 0 ≤ line.unitPrice := by decide
  have hshop {σ : ProductId → ProductId} (hσ : Function.Injective σ) :=
    evaluate_rename Sample.pairsDocument rfl rfl Sample.evenContext hσ
  refine ⟨hgranted, hkeeps, ?_, hsame, ?_, hcounted, hprices, ?_⟩
  · obtain ⟨-, -, hties, -⟩ := hshop (Equiv.injective _)
    exact (hties hkeeps).trans hgranted
  · obtain ⟨-, -, -, hswap⟩ := hshop (Equiv.injective _)
    exact (hswap _ _ hsame rfl).trans hgranted
  · obtain ⟨-, hstatus, -⟩ := hshop (Equiv.injective _)
    exact hgranted ▸ hstatus (by rw [hcounted]; decide) (by decide) hprices

namespace Sample

/-- The same products at a price of which two groups do not fit an amount, after one of a negative
price. -/
def refundContext : Context where
  bill := { bill with lines := [⟨id 4, none, 1, amount (-2 ^ 61)⟩,
    ⟨id 1, none, 2, amount (2 ^ 61 + 50)⟩, ⟨id 2, none, 1, amount (2 ^ 61 + 50)⟩,
    ⟨id 3, none, 1, amount (2 ^ 61 + 50)⟩] }
  catalog := .ofList [(id 1, { category := some (id 1) }), (id 2, { category := some (id 1) }),
    (id 3, { category := some (id 1) }), (id 4, { category := some (id 1) })]

/-- The lines of that bill, which are all eligible. -/
def refundLines : EligibleLines :=
  ⟨refundContext.bill.placedLines, amount (3 * 2 ^ 61 + 200), 5⟩

end Sample

/-- If the product of two units no longer comes first, thirty are granted in place of sixty, and
with a negative price on the bill an amount in place of a fault. -/
theorem Document.evaluate_rename_breaks_ties :
    Function.Injective Sample.exchange ∧ Sample.pairsDocument.rule = .mixMatch Sample.pairs ∧
      Sample.pairs.allowSameProduct = false ∧
      (Sample.pairsDocument.evaluate Sample.evenContext).verdict =
        .eligible ⟨Sample.amount 60, .discount, [0, 1, 2]⟩ ∧
      ((Sample.pairsDocument.rename Sample.exchange).evaluate
          (Sample.evenContext.rename Sample.exchange)).verdict =
        .eligible ⟨Sample.amount 30, .discount, [0, 1, 2]⟩ ∧
      (Sample.pairsDocument.evaluate Sample.refundContext).verdict =
        .error (.arithmetic .overflow) ∧
      ((Sample.pairsDocument.rename Sample.exchange).evaluate
          (Sample.refundContext.rename Sample.exchange)).verdict =
        .eligible ⟨Sample.amount (2 ^ 62 + 50), .discount, [0, 1, 2, 3]⟩ := by
  have heven : Sample.pairsDocument.Passes Sample.evenContext Sample.evenLines :=
    ⟨rfl, rfl, rfl, rfl, rfl, rfl, rfl, rfl⟩
  have heven' : (Sample.pairsDocument.rename Sample.exchange).Passes
      (Sample.evenContext.rename Sample.exchange) (Sample.evenLines.rename Sample.exchange) :=
    ⟨rfl, rfl, rfl, rfl, rfl, rfl, rfl, rfl⟩
  have hrefund : Sample.pairsDocument.Passes Sample.refundContext Sample.refundLines :=
    ⟨rfl, rfl, rfl, rfl, rfl, rfl, rfl, rfl⟩
  have hrefund' : (Sample.pairsDocument.rename Sample.exchange).Passes
      (Sample.refundContext.rename Sample.exchange) (Sample.refundLines.rename Sample.exchange) :=
    ⟨rfl, rfl, rfl, rfl, rfl, rfl, rfl, rfl⟩
  refine ⟨Equiv.injective _, rfl, rfl, ?_, ?_, ?_, ?_⟩
  · rw [verdict_eq_eligible_iff, heven.judge_eq]
    cbv
  · rw [verdict_eq_eligible_iff, heven'.judge_eq]
    cbv
  · rw [verdict_eq_error_iff, hrefund.judge_eq]
    cbv
  · rw [verdict_eq_eligible_iff, hrefund'.judge_eq]
    cbv

end Promotions

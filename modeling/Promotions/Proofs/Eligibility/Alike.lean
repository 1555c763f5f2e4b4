import Promotions.Eligibility
import Promotions.Proofs.Fallible

/-!
# Proofs: eligible lines that come to the same

No formula reads the eligible lines one by one. It reads their totals and, of the lines of some
products, how many units there are, what the cheapest costs, what they cost above a price, and what
choices and groups of them come to. So two bills on which these are the same fare the same at a
document, and only the places of the lines it grants something for can differ.

The exception are units that are granted on one line, for which a formula looks line by line.
-/

namespace Promotions

open Fallible

/-! ## What is the same -/

/-- The price of the cheapest unit of lines. -/
def cheapestUnit? (lines : List BillLine) : Option Amount :=
  ((lines.filter fun line => line.quantity != 0).map (·.unitPrice)).min?

/-- What the units of lines cost above a price. -/
def savingsAbove (price : Amount) (lines : List BillLine) : Except ArithmeticError Amount :=
  lines.foldlM (fun total line => do
    total.add (← (line.unitPrice.excess price).times line.quantity.toNat)) 0

/-- Lines come to the same in everything that formulas read of them. -/
structure LinesAlike (lines lines' : List BillLine) : Prop where
  units : Count.sum (lines.map (·.quantity)) = Count.sum (lines'.map (·.quantity))
  cheapest : cheapestUnit? lines = cheapestUnit? lines'
  savings (price : Amount) : savingsAbove price lines = savingsAbove price lines'
  runUnits : (UnitRuns.ofLines lines).units = (UnitRuns.ofLines lines').units
  taken (count : Nat) :
    ((UnitRuns.ofLines lines).take count).1 = ((UnitRuns.ofLines lines').take count).1
  groups (r : MixMatch) : r.groups lines = r.groups lines'

namespace EligibleLines

/-- The eligible lines of some products, without their places. -/
def linesOf (e : EligibleLines) (keep : ProductId → Bool) : List BillLine :=
  (e.lines.filter fun p => keep p.line.product).map (·.line)

/-- The places of the eligible lines of some products. -/
def placesOf (e : EligibleLines) (keep : ProductId → Bool) : List Nat :=
  indicesOf (e.lines.filter fun p => keep p.line.product)

/-- The eligible lines of one bill and of another come to the same, product by product. The places
of the lines are related by `R`. -/
structure Like (R : List Nat → List Nat → Prop) (e e' : EligibleLines) : Prop where
  subtotal : e.subtotal = e'.subtotal
  quantity : e.quantity = e'.quantity
  lines (keep : ProductId → Bool) : LinesAlike (e.linesOf keep) (e'.linesOf keep)
  places (keep : ProductId → Bool) : R (e.placesOf keep) (e'.placesOf keep)

end EligibleLines

/-- A relation of places that can be put together as formulas do it: one after the other, and in
order without repetitions. -/
structure PlacesRelation (R : List Nat → List Nat → Prop) : Prop where
  nil : R [] []
  append {a a' b b' : List Nat} : R a a' → R b b' → R (a ++ b) (a' ++ b')
  toSet {a a' : List Nat} : R a a' → R (SortedSet.ofList a).toList (SortedSet.ofList a').toList

/-- What formulas work on is the same but for the lines, which come to the same. -/
structure Basis.Like (R : List Nat → List Nat → Prop) (b b' : Basis) : Prop where
  paymentMethod : b.bill.paymentMethod = b'.bill.paymentMethod
  catalog : b.catalog = b'.catalog
  base : b.base = b'.base
  lines : b.lines.Like R b'.lines

/-- The same is granted, for lines whose places are related. -/
structure Grant.Like (R : List Nat → List Nat → Prop) (g g' : Grant) : Prop where
  discount : g.discount = g'.discount
  benefit : g.benefit = g'.benefit
  affected : R g.affected g'.affected

/-- The same is granted or nothing is, for the same reason. -/
abbrev GrantsAlike (R : List Nat → List Nat → Prop) : Judged Grant → Judged Grant → Prop :=
  Alike (Grant.Like R)

namespace EligibleLines

variable {R : List Nat → List Nat → Prop} {e e' : EligibleLines}

theorem unitsOf_filter (e : EligibleLines) (keep : ProductId → Bool) :
    unitsOf (e.lines.filter fun p => keep p.line.product) =
      Count.sum ((e.linesOf keep).map (·.quantity)) := by
  rw [unitsOf, linesOf, List.map_map]
  rfl

theorem cheapestOf?_eq (e : EligibleLines) (product : ProductId) :
    e.cheapestOf? product = cheapestUnit? (e.linesOf fun q => decide (q = product)) := by
  rw [cheapestOf?, cheapestUnit?, linesOf, ofProduct, List.filter_map, List.map_map]
  rfl

theorem savings_eq (price : Amount) (e : EligibleLines) :
    HappyHour.savings price e.lines = savingsAbove price (e.linesOf fun _ => true) := by
  rw [HappyHour.savings, savingsAbove, linesOf, List.filter_true, List.foldlM_map]

theorem placesOf_all (e : EligibleLines) : e.placesOf (fun _ => true) = e.indices := by
  rw [placesOf, List.filter_true]
  rfl

namespace Like

theorem indices (h : e.Like R e') : R e.indices e'.indices := by
  rw [← placesOf_all, ← placesOf_all]
  exact h.places _

theorem unitsOf (h : e.Like R e') (keep : ProductId → Bool) :
    unitsOf (e.lines.filter fun p => keep p.line.product) =
      EligibleLines.unitsOf (e'.lines.filter fun p => keep p.line.product) := by
  rw [unitsOf_filter, unitsOf_filter, (h.lines keep).units]

theorem quantityOf (h : e.Like R e') (product : ProductId) :
    e.quantityOf product = e'.quantityOf product :=
  h.unitsOf fun q => decide (q = product)

theorem cheapestOf? (h : e.Like R e') (product : ProductId) :
    e.cheapestOf? product = e'.cheapestOf? product := by
  rw [cheapestOf?_eq, cheapestOf?_eq, (h.lines _).cheapest]

theorem savings (h : e.Like R e') (price : Amount) :
    HappyHour.savings price e.lines = HappyHour.savings price e'.lines := by
  rw [savings_eq, savings_eq, (h.lines _).savings]

theorem ofProduct (h : e.Like R e') (product : ProductId) :
    R (indicesOf (e.ofProduct product)) (indicesOf (e'.ofProduct product)) :=
  h.places fun q => decide (q = product)

end Like

end EligibleLines

/-! ## Formulas -/

section Formulas

variable {R : List Nat → List Nat → Prop} {b b' : Basis}

namespace Basis.Like

theorem requireMinimum (h : b.Like R b') (minPurchase : Amount) :
    b.requireMinimum minPurchase = b'.requireMinimum minPurchase := by
  rw [Basis.requireMinimum, Basis.requireMinimum, h.lines.subtotal]

theorem requirePayment (h : b.Like R b') (methods : SortedSet String) :
    b.requirePayment methods = b'.requirePayment methods := by
  rw [Basis.requirePayment, Basis.requirePayment, h.paymentMethod]

end Basis.Like

theorem PercentDiscount.grant_alike (h : b.Like R b') (r : PercentDiscount) :
    GrantsAlike R (r.grant b) (r.grant b') := by
  rw [grant, grant, h.requireMinimum, h.base]
  exact .bind_same _ fun _ => .bind_same _ fun _ => .ok ⟨rfl, rfl, h.lines.indices⟩

theorem AmountDiscount.grant_alike (h : b.Like R b') (r : AmountDiscount) :
    GrantsAlike R (r.grant b) (r.grant b') := by
  rw [grant, grant, h.requireMinimum]
  exact .bind_same _ fun _ => .ok ⟨rfl, rfl, h.lines.indices⟩

theorem BuyXGetY.grantOther_alike (h : b.Like R b') (r : BuyXGetY) (product : ProductId) :
    GrantsAlike R (r.grantOther b product) (r.grantOther b' product) := by
  have hothers := h.lines.unitsOf fun q => decide (q ≠ product)
  simp only [grantOther, hothers, h.lines.cheapestOf?, h.lines.quantityOf]
  exact .bind_same _ fun _ => .bind_same _ fun _ => .bind_same _ fun _ => .bind_same _ fun _ =>
    .ok ⟨rfl, rfl, h.lines.indices⟩

theorem Combo.grant_alike (h : b.Like R b') (r : Combo) :
    GrantsAlike R (r.grant b) (r.grant b') := by
  have hvalue : r.setValue b = r.setValue b' := by
    simp only [setValue, h.lines.cheapestOf?]
  have hsets : r.sets b = r.sets b' := by
    rw [sets, sets, funext h.lines.quantityOf]
  rw [grant, grant, hvalue, hsets]
  exact .bind_same _ fun _ => .bind_same _ fun _ => .bind_same _ fun _ =>
    .ok ⟨rfl, rfl, h.lines.places fun q => decide (q ∈ r.products)⟩

theorem FreeItem.grant_alike (h : b.Like R b') (r : FreeItem) :
    GrantsAlike R (r.grant b) (r.grant b') := by
  simp only [grant, h.lines.cheapestOf?, h.lines.quantityOf]
  exact .bind_same _ fun _ => .bind_same _ fun product => .bind_same _ fun _ =>
    .bind_same _ fun _ => .ok ⟨rfl, rfl, h.lines.ofProduct product⟩

theorem HappyHour.grant_alike (h : b.Like R b') (r : HappyHour) :
    GrantsAlike R (r.grant b) (r.grant b') := by
  simp only [grant, h.base, h.lines.savings]
  cases r.pricing with
  | percent | amount | specialPrice =>
    exact .bind_same _ fun _ => .ok ⟨rfl, rfl, h.lines.indices⟩

theorem Cashback.grant_alike (h : b.Like R b') (r : Cashback) :
    GrantsAlike R (r.grant b) (r.grant b') := by
  rw [grant, grant, h.requireMinimum, h.requirePayment, h.base]
  exact .bind_same _ fun _ => .bind_same _ fun _ => .bind_same _ fun _ =>
    .ok ⟨rfl, rfl, h.lines.indices⟩

theorem PaymentDiscount.grant_alike (h : b.Like R b') (r : PaymentDiscount) :
    GrantsAlike R (r.grant b) (r.grant b') := by
  rw [grant, grant, h.requireMinimum, h.requirePayment, h.base]
  exact .bind_same _ fun _ => .bind_same _ fun _ => .bind_same _ fun _ =>
    .ok ⟨rfl, rfl, h.lines.indices⟩

theorem MixMatch.grant_alike (h : b.Like R b') (r : MixMatch) :
    GrantsAlike R (r.grant b) (r.grant b') := by
  have hgroups : r.groups ((b.lines.ofCategory b.catalog r.category).map (·.line)) =
      r.groups ((b'.lines.ofCategory b.catalog r.category).map (·.line)) :=
    (h.lines.lines fun q => decide (b.catalog.categoryOf q = some r.category)).groups r
  rw [grant, grant, ← h.catalog, hgroups]
  exact .bind_same _ fun _ => .bind_same _ fun _ =>
    .ok ⟨rfl, rfl, h.lines.places fun q => decide (b.catalog.categoryOf q = some r.category)⟩

theorem Upsell.grant_alike (h : b.Like R b') (r : Upsell) :
    GrantsAlike R (r.grant b) (r.grant b') := by
  simp only [grant, h.lines.cheapestOf?, h.lines.quantityOf]
  exact .bind_same _ fun _ => .bind_same _ fun _ => .ok ⟨rfl, rfl, h.lines.ofProduct _⟩

theorem TierBenefit.grant_alike (h : b.Like R b') (t : TierBenefit) :
    GrantsAlike R (t.grant b) (t.grant b') := by
  cases t with
  | percent points =>
    simp only [grant, h.base]
    exact .bind_same _ fun _ => .ok ⟨rfl, rfl, h.lines.indices⟩
  | amount value => exact .ok ⟨rfl, rfl, h.lines.indices⟩
  | freeProduct product =>
    simp only [grant, h.lines.cheapestOf?]
    exact .bind_same _ fun _ => .ok ⟨rfl, rfl, h.lines.ofProduct product⟩
  | pointsMultiplier multiplier => exact .ok ⟨rfl, rfl, h.lines.indices⟩

theorem ThresholdTier.grant_alike (h : b.Like R b') (r : ThresholdTier) :
    GrantsAlike R (r.grant b) (r.grant b') := by
  rw [grant, grant, h.base]
  exact .bind_same _ fun tier => tier.benefit.grant_alike h

/-! ### Packages -/

/-- The same is found, on lines whose places are related. -/
structure FoundComponent.Like (R : List Nat → List Nat → Prop) (f f' : FoundComponent) :
    Prop where
  value : f.value = f'.value
  indices : R f.indices f'.indices

/-- As much was found so far. -/
structure Package.Progress.Like (R : List Nat → List Nat → Prop) (p p' : Package.Progress) :
    Prop where
  value : p.value = p'.value
  found : p.found = p'.found
  indices : R p.indices p'.indices

theorem Component.find_alike (h : b.Like R b') (c : Component) :
    Alike (Option.Rel (FoundComponent.Like R)) (c.find b) (c.find b') := by
  have hfixed (product : ProductId) : Alike (Option.Rel (FoundComponent.Like R))
      (c.findFixed b product) (c.findFixed b' product) := by
    rw [findFixed, findFixed, h.lines.cheapestOf?, h.lines.quantityOf]
    split
    · split
      · exact .bind_same _ fun _ => .ok (.some ⟨rfl, h.lines.ofProduct product⟩)
      · exact .ok .none
    · exact .ok .none
  have hchoice (category : CategoryId) : Alike (Option.Rel (FoundComponent.Like R))
      (c.findChoice b category) (c.findChoice b' category) := by
    let keep (q : ProductId) : Bool := decide (b.catalog.categoryOf q = some category)
    have hunits : (UnitRuns.ofLines ((b.lines.ofCategory b.catalog category).map (·.line))).units =
        (UnitRuns.ofLines ((b'.lines.ofCategory b.catalog category).map (·.line))).units :=
      (h.lines.lines keep).runUnits
    have htaken (count : Nat) :
        ((UnitRuns.ofLines ((b.lines.ofCategory b.catalog category).map (·.line))).take count).1 =
          ((UnitRuns.ofLines
            ((b'.lines.ofCategory b.catalog category).map (·.line))).take count).1 :=
      (h.lines.lines keep).taken count
    simp only [findChoice, ← h.catalog, hunits, htaken]
    split
    · refine .bind_same _ fun value => .ok ?_
      cases value with
      | none => exact .none
      | some value => exact .some ⟨rfl, h.lines.places keep⟩
    · exact .ok .none
  unfold find
  split
  · exact hfixed _
  · exact hchoice _
  · exact .ok .none

theorem Package.step_alike (hR : PlacesRelation R) (h : b.Like R b') {p p' : Package.Progress}
    (hp : p.Like R p') (c : Component) :
    Alike (Package.Progress.Like R) (p.step b c) (p'.step b' c) := by
  rw [Progress.step, Progress.step]
  refine (c.find_alike h).bind fun found found' hfound => ?_
  cases hfound with
  | none => exact .bind_same _ fun _ => .ok hp
  | some hsame =>
    simp only [hp.value, hsame.value]
    exact .bind_same _ fun _ =>
      .ok ⟨rfl, congrArg (· + 1) hp.found, hR.append hp.indices hsame.indices⟩

theorem Package.grant_alike (hR : PlacesRelation R) (h : b.Like R b') (r : Package) :
    GrantsAlike R (r.grant b) (r.grant b') := by
  rw [grant, grant]
  refine (Alike.foldlM (fun p p' c hp => step_alike hR h hp c) r.components
    ⟨rfl, rfl, hR.nil⟩).bind fun progress progress' hp => ?_
  rw [hp.found, hp.value]
  exact .bind_same _ fun _ => .ok ⟨rfl, rfl, hR.toSet hp.indices⟩

/-! ### All rules -/

/-- Where the lines come to the same, a rule grants the same, if it does so for units that are
granted on one line. -/
theorem Rule.grant_alike (hR : PlacesRelation R) (h : b.Like R b') (rule : Rule)
    (hsame : ∀ r, rule = .buyXGetY r → r.getProduct = none →
      GrantsAlike R (r.grantSame b) (r.grantSame b')) :
    GrantsAlike R (rule.grant b) (rule.grant b') := by
  have hformula : GrantsAlike R (rule.formula b) (rule.formula b') := by
    cases rule with
    | percentDiscount r => exact r.grant_alike h
    | amountDiscount r => exact r.grant_alike h
    | buyXGetY r =>
      cases hproduct : r.getProduct with
      | none =>
        simp only [formula, BuyXGetY.grant, hproduct]
        exact hsame r rfl hproduct
      | some product =>
        simp only [formula, BuyXGetY.grant, hproduct]
        exact r.grantOther_alike h product
    | combo r => exact r.grant_alike h
    | freeItem r => exact r.grant_alike h
    | happyHour r => exact r.grant_alike h
    | cashback r => exact r.grant_alike h
    | paymentDiscount r => exact r.grant_alike h
    | package r => exact r.grant_alike hR h
    | mixMatch r => exact r.grant_alike h
    | upsell r => exact r.grant_alike h
    | thresholdTier r => exact r.grant_alike h
  rw [grant, grant, h.base]
  exact hformula.bind fun g g' hg => .ok ⟨by rw [hg.discount], hg.benefit, hg.affected⟩

end Formulas

/-! ## Documents -/

namespace Judged

variable {α β α' β' : Type} {E : Reason → Prop} {R : α → β → Prop} {S : α' → β' → Prop}

/-- The second computation is rejected for one of some reasons. Else both fail for the same reason,
or come to answers that are related. -/
def AlikeUnless (E : Reason → Prop) (R : α → β → Prop) (x : Judged α) (y : Judged β) : Prop :=
  (∃ reason, E reason ∧ y = .error (.ineligible reason)) ∨ Alike R x y

theorem AlikeUnless.bind {x : Judged α} {y : Judged β} {f : α → Judged α'} {g : β → Judged β'}
    (hxy : AlikeUnless E R x y) (hfg : ∀ a b, R a b → AlikeUnless E S (f a) (g b)) :
    AlikeUnless E S (x >>= f) (y >>= g) := by
  obtain ⟨reason, hreason, rfl⟩ | hxy := hxy
  · exact .inl ⟨reason, hreason, rfl⟩
  · cases hxy with
    | ok h => exact hfg _ _ h
    | error e => exact .inr (.error e)

theorem AlikeUnless.bind_same (x : Judged α) {f : α → Judged α'} {g : α → Judged β'}
    (hfg : ∀ a, AlikeUnless E S (f a) (g a)) : AlikeUnless E S (x >>= f) (x >>= g) :=
  AlikeUnless.bind (.inr (Alike.refl x)) fun a _ h => h ▸ hfg a

theorem liftM_alike {x : Except ArithmeticError α} {y : Except ArithmeticError β}
    (h : Alike R x y) : Alike R (liftM x : Judged α) (liftM y : Judged β) := by
  cases h with
  | ok h => exact .ok h
  | error e => exact .error _

end Judged

open Judged

/-- The facts with another list of lines on the bill. -/
def Context.withLines (ctx : Context) (lines : List BillLine) : Context :=
  { ctx with bill := { ctx.bill with lines } }

/-- The verdict with other places in it. -/
def Verdict.mapPlaces (f : List Nat → List Nat) : Verdict → Verdict
  | eligible grant => eligible { grant with affected := f grant.affected }
  | ineligible reason => ineligible reason
  | error fault => error fault

theorem Verdict.mapPlaces_of_same {f : List Nat → List Nat} (h : ∀ places, f places = places)
    (v : Verdict) : v.mapPlaces f = v := by
  cases v with
  | eligible grant => rw [mapPlaces, h]
  | ineligible reason => rfl
  | error fault => rfl

/-- Where the same is granted but for the places, the verdicts are the same but for them. -/
theorem Verdict.mapPlaces_eq {f g : List Nat → List Nat} {x y : Judged Grant}
    (h : GrantsAlike (fun a a' => f a = g a') x y) :
    (ofJudged x).mapPlaces f = (ofJudged y).mapPlaces g := by
  cases h with
  | ok hgrant =>
    obtain ⟨hdiscount, hbenefit, haffected⟩ := hgrant
    simp only [ofJudged, mapPlaces, hdiscount, hbenefit, haffected]
  | error e => cases e <;> rfl

/-- Verdicts are the same but for the places in them, which are related. -/
inductive Verdict.Like (R : List Nat → List Nat → Prop) : Verdict → Verdict → Prop where
  | eligible {g g' : Grant} (h : g.Like R g') : Like R (.eligible g) (.eligible g')
  | ineligible (reason : Reason) : Like R (.ineligible reason) (.ineligible reason)
  | error (fault : Fault) : Like R (.error fault) (.error fault)

theorem Verdict.like_ofJudged {R : List Nat → List Nat → Prop} {x y : Judged Grant}
    (h : GrantsAlike R x y) : (ofJudged x).Like R (ofJudged y) := by
  cases h with
  | ok hgrant => exact .eligible hgrant
  | error e =>
    cases e with
    | ineligible reason => exact .ineligible reason
    | fault fault => exact .error fault

namespace Document

variable {d : Document} {E : Reason → Prop} {R : List Nat → List Nat → Prop}

/-- Eligible lines of one bill and of another fare alike at a document, unless those of the other
are rejected for one of some reasons. -/
structure FareAlike (d : Document) (E : Reason → Prop) (R : List Nat → List Nat → Prop)
    (e e' : EligibleLines) : Prop where
  like : e.Like R e'
  targeting : d.targetingGate e = d.targetingGate e'
  threshold : AlikeUnless E (fun _ _ => True) (d.thresholdGate e) (d.thresholdGate e')
  grantSame (r : BuyXGetY) : d.rule = .buyXGetY r → r.getProduct = none →
    ∀ b b' : Basis, b.lines = e → b'.lines = e' → GrantsAlike R (r.grantSame b) (r.grantSame b')

/-- Bills that differ in their lines are judged alike if the gate of scopes and the eligible lines
of both allow it: every other gate looks at something else. -/
theorem judge_alike (hR : PlacesRelation R) {ctx : Context} {lines : List BillLine}
    (hscope : AlikeUnless E (fun _ _ => True) (d.scopeGate ctx)
      (d.scopeGate (ctx.withLines lines)))
    (hselect : Alike (d.FareAlike E R) (EligibleLines.select d.targeting ctx.bill ctx.catalog)
      (EligibleLines.select d.targeting (ctx.withLines lines).bill ctx.catalog)) :
    AlikeUnless E (Grant.Like R) (d.judge ctx) (d.judge (ctx.withLines lines)) := by
  have hform : d.checkForm (ctx.withLines lines).bill = d.checkForm ctx.bill := rfl
  have hvalidity : d.validityGate (ctx.withLines lines) = d.validityGate ctx := rfl
  have hcustomer : d.customerGate (ctx.withLines lines) = d.customerGate ctx := rfl
  have hlimit : d.limitGate (ctx.withLines lines) = d.limitGate ctx := rfl
  rw [judge, judge, hform, hvalidity, hcustomer, hlimit]
  split
  · exact .inr (.error _)
  · refine .bind_same _ fun _ => hscope.bind fun _ _ _ =>
      AlikeUnless.bind (.inr (liftM_alike hselect)) fun e e' h => ?_
    have hbase : d.base (ctx.withLines lines) e' = d.base ctx e := by
      rw [base, base, h.like.subtotal]
      rfl
    have hbasis : Basis.Like R ⟨ctx.bill, ctx.catalog, e, d.base ctx e⟩
        ⟨(ctx.withLines lines).bill, ctx.catalog, e', d.base ctx e⟩ :=
      ⟨rfl, rfl, rfl, h.like⟩
    rw [h.targeting, hbase]
    refine .bind_same _ fun _ => .bind_same _ fun _ => h.threshold.bind fun _ _ _ =>
      .bind_same _ fun _ => .inr (Rule.grant_alike hR hbasis _ ?_)
    exact fun r hr hproduct => h.grantSame r hr hproduct _ _ rfl rfl

end Document

end Promotions

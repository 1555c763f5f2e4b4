import Promotions.Proofs.Compile.Checks
import Promotions.Proofs.Decimal.Percent
import Promotions.Proofs.Eligibility.BrandSpend
import Promotions.Proofs.Eligibility.Gates
import Promotions.Proofs.Eligibility.Layout
import Promotions.Proofs.Grouping.Rows

/-!
# Proofs: ordinary bills are judged

A bill is ordinary if no price on it is negative and its total fits an amount. A document that was
compiled for the currency of such a bill always says what it grants or why it grants nothing. Every
number on the way is a part of the total: what some of the units cost, a percentage of that, or a
number of units at the price of the cheapest of at least as many.

Two things are not parts of the total. The components of a package may ask for the same units, and
what a customer spent before comes on top of what is spent on the bill.
-/

namespace Promotions

open Fallible Judged UnitRuns

/-! ## Computations that decide -/

namespace Judged

variable {α β : Type}

/-- The computation comes to an answer, or the bill is rejected for a reason. -/
def Decides (x : Judged α) : Prop := ∀ fault, x ≠ .error (.fault fault)

theorem orReject_eq_ok_iff {reason : Reason} {a? : Option α} {a : α} :
    orReject reason a? = .ok a ↔ a? = some a := by
  cases a? with
  | none => simp [orReject]
  | some b => simp [orReject]

namespace Decides

theorem ok (a : α) : Decides (.ok a : Judged α) := nofun

theorem require (condition : Bool) (reason : Reason) :
    Decides (Judged.require condition reason) := by
  cases condition <;> exact nofun

theorem orReject (reason : Reason) (a? : Option α) : Decides (Judged.orReject reason a?) := by
  cases a? <;> exact nofun

theorem lift {x : Except ArithmeticError α} (h : ∃ a, x = .ok a) :
    Decides (liftM x : Judged α) := by
  obtain ⟨a, rfl⟩ := h
  exact ok a

theorem bind {x : Judged α} {f : α → Judged β} (hx : Decides x)
    (hf : ∀ a, x = .ok a → Decides (f a)) : Decides (x >>= f) := by
  intro fault h
  rcases bind_eq_error_iff.1 h with h | ⟨a, ha, h⟩
  · exact hx fault h
  · exact hf a ha fault h

/-- A fold decides if every step does and keeps what the next needs. `P` says what that is, for the
elements that are left. -/
theorem foldlM {σ : Type} {step : σ → α → Judged σ} {P : List α → σ → Prop}
    (hstep : ∀ a as s, P (a :: as) s → Decides (step s a) ∧ ∀ t, step s a = .ok t → P as t)
    {as : List α} {s : σ} (hs : P as s) :
    Decides (as.foldlM step s) ∧ ∀ t, as.foldlM step s = .ok t → P [] t := by
  induction as generalizing s with
  | nil => exact ⟨ok s, fun t ht => foldlM_nil_eq_ok_iff.1 ht ▸ hs⟩
  | cons a as ih =>
    obtain ⟨hdecides, hkeeps⟩ := hstep a as s hs
    constructor
    · rw [List.foldlM_cons]
      exact hdecides.bind fun t ht => (ih (hkeeps t ht)).1
    · intro t ht
      obtain ⟨u, hu, ht⟩ := foldlM_cons_eq_ok_iff.1 ht
      exact (ih (hkeeps u hu)).2 t ht

end Decides

end Judged

/-! ## Eligible lines -/

namespace EligibleLines

/-- No eligible line has a negative price, and what they cost fits an amount. -/
abbrev ArePayable (e : EligibleLines) : Prop := Payable (e.lines.map (·.line))

/-- What the eligible units of a product cost. -/
def costOf (e : EligibleLines) (product : ProductId) : Int :=
  (pricesOfLines (e.linesOf fun q => decide (q = product))).sum

/-- The number of eligible units of a product, however many they are. -/
def unitCount (e : EligibleLines) (product : ProductId) : Nat :=
  ((e.linesOf fun q => decide (q = product)).map fun line => line.quantity.toNat).sum

/-- No more units are counted than there are. -/
theorem quantityOf_le_unitCount (e : EligibleLines) (product : ProductId) :
    (e.quantityOf product).toNat ≤ e.unitCount product := by
  rw [quantityOf, ofProduct, unitsOf_filter e fun q => decide (q = product), unitCount,
    ← length_pricesOfLines]
  exact sum_quantities_le _

namespace ArePayable

variable {e : EligibleLines} {product : ProductId} {price : Amount}

theorem price_nonneg (h : e.ArePayable) {p : PlacedLine} (hp : p ∈ e.lines) :
    0 ≤ p.line.unitPrice :=
  h.prices p.line (List.mem_map_of_mem hp)

theorem linesOf (h : e.ArePayable) (keep : ProductId → Bool) : Payable (e.linesOf keep) := by
  rw [linesOf_eq]
  exact Payable.filter h _

theorem sum_costOf_le (h : e.ArePayable) {products : List ProductId} (hproducts : products.Nodup) :
    (products.map e.costOf).sum ≤ (pricesOfLines (e.lines.map (·.line))).sum := by
  have hcost (product : ProductId) : e.costOf product = (pricesOfLines
      ((e.lines.map (·.line)).filter fun line => decide (line.product = product))).sum := by
    rw [costOf, linesOf_eq]
  rw [funext hcost]
  exact sum_keys_le (·.product) h.prices hproducts

theorem costOf_nonneg (h : e.ArePayable) (product : ProductId) : 0 ≤ e.costOf product :=
  (h.linesOf _).sum_nonneg

/-- The cheapest unit of a product costs no more than all of them. -/
theorem le_costOf (h : e.ArePayable) (hprice : e.cheapestOf? product = some price) :
    0 ≤ price.toInt ∧ price.toInt ≤ e.costOf product := by
  rw [cheapestOf?_eq] at hprice
  have hunit := List.length_pos_of_mem (cheapestUnit?_eq_some_iff.1 hprice).1
  obtain ⟨hnonneg, hle⟩ := cheapestUnit?_mul_le (h.linesOf _).prices hprice hunit
  rw [Int.natCast_one, Int.mul_one] at hle
  exact ⟨hnonneg, hle⟩

/-- At the price of the cheapest, the units of a product cost no more than they do. -/
theorem mul_le_costOf (h : e.ArePayable) (hprice : e.cheapestOf? product = some price) {n : Nat}
    (hn : n ≤ e.unitCount product) : price.toInt * n ≤ e.costOf product := by
  rw [cheapestOf?_eq] at hprice
  rw [unitCount, ← length_pricesOfLines] at hn
  exact (cheapestUnit?_mul_le (h.linesOf _).prices hprice hn).2

theorem times_ok (h : e.ArePayable) (hprice : e.cheapestOf? product = some price) {n : Nat}
    (hn : n ≤ (e.quantityOf product).toNat) : ∃ value, price.times n = .ok value := by
  have hfits := (h.linesOf fun q => decide (q = product)).fits
  have hle := h.mul_le_costOf hprice (hn.trans (e.quantityOf_le_unitCount product))
  exact Amount.checked_ok (Int.mul_nonneg (h.le_costOf hprice).1 (Int.natCast_nonneg n))
    (Int.lt_of_le_of_lt hle hfits)

end ArePayable

end EligibleLines

/-! ## Formulas -/

theorem Decimal.IsPercentage.percentOf_ok {points : Decimal} (h : points.IsPercentage)
    (base : Amount) : ∃ share, points.percentOf base = .ok share := by
  obtain ⟨share, hshare, -⟩ := percentOf_isPartOf h base
  exact ⟨share, hshare⟩

theorem Decimal.IsPercentage.cappedPercentOf_ok {points : Decimal} (h : points.IsPercentage)
    (base : Amount) (cap : Option Amount) :
    ∃ share, points.cappedPercentOf base cap = .ok share := by
  obtain ⟨share, hshare⟩ := h.percentOf_ok base
  exact ⟨share.capped cap, by rw [cappedPercentOf, hshare]; rfl⟩

theorem DiscountValue.of_ok {value : DiscountValue} (h : value.WellFormed) (cap : Option Amount)
    (base : Amount) : ∃ discount, value.of cap base = .ok discount := by
  cases value with
  | percent points => exact h.isPercentage.cappedPercentOf_ok base cap
  | amount value => exact ⟨value.capped cap, rfl⟩

section Formulas

variable {b : Basis}

theorem Basis.decides_requireMinimum (b : Basis) (minPurchase : Amount) :
    Decides (b.requireMinimum minPurchase) :=
  .require _ _

theorem Basis.decides_requirePayment (b : Basis) (methods : SortedSet String) :
    Decides (b.requirePayment methods) :=
  (Decides.orReject _ _).bind fun _ _ => .require _ _

theorem PercentDiscount.decides_grant {r : PercentDiscount} (hr : r.WellFormed) (b : Basis) :
    Decides (r.grant b) :=
  (b.decides_requireMinimum _).bind fun _ _ =>
    (Decides.lift (hr.percent.isPercentage.cappedPercentOf_ok _ _)).bind fun _ _ => .ok _

theorem AmountDiscount.decides_grant (r : AmountDiscount) (b : Basis) : Decides (r.grant b) :=
  (b.decides_requireMinimum _).bind fun _ _ => .ok _

namespace BuyXGetY

variable {r : BuyXGetY}

/-- Of a line no more units are granted than it has. -/
theorem freeUnits_le (r : BuyXGetY) (line : BillLine) :
    (r.freeUnits line).toNat ≤ line.quantity.toNat := by
  have hget : r.getQuantity.toNat ≤ (Count.addSat r.buyQuantity r.getQuantity).toNat := by
    have hlt := r.getQuantity.toNat_lt
    rw [Count.addSat, Count.toNat_saturate]
    omega
  rw [freeUnits]
  split
  · exact Nat.zero_le _
  · rw [Count.mulSat, Count.toNat_saturate, UInt32.toNat_div]
    calc min (line.quantity.toNat / (Count.addSat r.buyQuantity r.getQuantity).toNat *
          r.getQuantity.toNat) 4294967295
        ≤ line.quantity.toNat / (Count.addSat r.buyQuantity r.getQuantity).toNat *
          r.getQuantity.toNat := Nat.min_le_left _ _
      _ ≤ line.quantity.toNat / (Count.addSat r.buyQuantity r.getQuantity).toNat *
          (Count.addSat r.buyQuantity r.getQuantity).toNat := Nat.mul_le_mul_left _ hget
      _ ≤ line.quantity.toNat := Nat.div_mul_le_self _ _

theorem decides_grantSame (hr : r.WellFormed) (h : b.lines.ArePayable) :
    Decides (r.grantSame b) := by
  refine (Decides.orReject _ _).bind fun p hp => ?_
  have hline : p.line ∈ b.lines.lines.map (·.line) :=
    List.mem_map_of_mem (List.mem_filter.1 (mem_of_foldl_cheaper (orReject_eq_ok_iff.1 hp))).1
  have hprice : 0 ≤ p.line.unitPrice.toInt := h.prices p.line hline
  have hcost := cost_le_sum_pricesOfLines h.prices hline
  have hfree : p.line.unitPrice.toInt * ((r.freeUnits p.line).toNat : Int) ≤
      p.line.unitPrice.toInt * (p.line.quantity.toNat : Int) :=
    Int.mul_le_mul_of_nonneg_left (Int.ofNat_le.2 (r.freeUnits_le p.line)) hprice
  have hfits := h.fits
  refine (Decides.lift (Amount.checked_ok ?_ (by omega))).bind fun value _ => ?_
  · exact Int.mul_nonneg hprice (Int.natCast_nonneg _)
  · exact (Decides.lift (hr.percent.isPercentage.percentOf_ok _)).bind fun _ _ => .ok _

theorem decides_grantOther (hr : r.WellFormed) (h : b.lines.ArePayable) (product : ProductId) :
    Decides (r.grantOther b product) := by
  refine (Decides.require _ _).bind fun _ _ => (Decides.orReject _ _).bind fun price hprice => ?_
  refine (Decides.lift (h.times_ok (orReject_eq_ok_iff.1 hprice) ?_)).bind fun value _ => ?_
  · exact UInt32.le_iff_toNat_le.1 Std.min_le_right
  · exact (Decides.lift (hr.percent.isPercentage.percentOf_ok _)).bind fun _ _ => .ok _

theorem decides_grant (hr : r.WellFormed) (h : b.lines.ArePayable) : Decides (r.grant b) := by
  rw [grant]
  split
  · exact decides_grantSame hr h
  · exact decides_grantOther hr h _

end BuyXGetY

namespace Combo

variable {r : Combo}

/-- A set costs so much so far, some products being left. The sets that there are cost no more than
all units of the products. -/
structure Adding (r : Combo) (b : Basis) (rest : List ProductId) (value : Amount) : Prop where
  products : rest ⊆ r.products.toList
  nonneg : 0 ≤ value.toInt
  value_le : value.toInt + (rest.map b.lines.costOf).sum ≤
    (r.products.toList.map b.lines.costOf).sum
  sets_le : value.toInt * (r.sets b).toNat + (rest.map b.lines.costOf).sum ≤
    (r.products.toList.map b.lines.costOf).sum

theorem sets_le_unitCount (r : Combo) (b : Basis) {product : ProductId}
    (hproduct : product ∈ r.products.toList) :
    (r.sets b).toNat ≤ b.lines.unitCount product := by
  have hcounted : (r.sets b).toNat ≤ (b.lines.quantityOf product).toNat :=
    UInt32.le_iff_toNat_le.1 ((Count.foldl_min_le _ _).2 _ (List.mem_map_of_mem hproduct))
  exact hcounted.trans (b.lines.quantityOf_le_unitCount product)

theorem sum_costOf_lt (r : Combo) (h : b.lines.ArePayable) :
    (r.products.toList.map b.lines.costOf).sum < 9223372036854775808 :=
  Int.lt_of_le_of_lt (h.sum_costOf_le r.products.nodup_toList) h.fits

theorem setValue_spec (r : Combo) (h : b.lines.ArePayable) :
    Decides (r.setValue b) ∧ ∀ value, r.setValue b = .ok value → r.Adding b [] value := by
  refine Decides.foldlM (P := r.Adding b) (fun product rest value hvalue => ?_) ?_
  · obtain ⟨hproducts, hnonneg, hle, hsets⟩ := hvalue
    rw [List.map_cons, List.sum_cons] at hle hsets
    have hproduct := hproducts List.mem_cons_self
    have hrest : 0 ≤ (rest.map b.lines.costOf).sum :=
      List.sum_nonneg (List.forall_mem_map.2 fun product _ => h.costOf_nonneg product)
    have htotal := r.sum_costOf_lt h
    -- the units of the product pay for one at the cheapest price, and for one in every set
    have hadd {price : Amount} (hprice : b.lines.cheapestOf? product = some price) :
        ∃ next, value.add price = .ok next ∧ r.Adding b rest next := by
      obtain ⟨hpos, hcost⟩ := h.le_costOf hprice
      have hmany := h.mul_le_costOf hprice (r.sets_le_unitCount b hproduct)
      obtain ⟨next, hnext⟩ : ∃ next, value.add price = .ok next :=
        Amount.checked_ok (by omega) (by omega)
      have hsum := Amount.add_eq_ok_iff.1 hnext
      have hleft : rest ⊆ r.products.toList := fun q hq => hproducts (List.mem_cons_of_mem _ hq)
      refine ⟨next, hnext, hleft, by omega, by omega, ?_⟩
      rw [hsum, Int.add_mul]
      omega
    refine ⟨(Decides.orReject _ _).bind fun price hprice => ?_, fun next hstep => ?_⟩
    · obtain ⟨next, hnext, -⟩ := hadd (orReject_eq_ok_iff.1 hprice)
      exact .lift ⟨next, hnext⟩
    · obtain ⟨price, hprice, hstep⟩ := bind_eq_ok_iff.1 hstep
      obtain ⟨next', hnext, hadding⟩ := hadd (orReject_eq_ok_iff.1 hprice)
      obtain rfl := Except.ok.inj (hnext.symm.trans (lift_eq_ok_iff.1 hstep))
      exact hadding
  · refine ⟨fun _ => id, Int.le_refl _, ?_, ?_⟩ <;> simp

theorem decides_grant (hr : r.WellFormed) (h : b.lines.ArePayable) : Decides (r.grant b) := by
  obtain ⟨hdecides, hadding⟩ := r.setValue_spec h
  refine (Decides.require _ _).bind fun _ _ => hdecides.bind fun value hvalue => ?_
  obtain ⟨-, hnonneg, -, hsets⟩ := hadding value hvalue
  have hprice : 0 < r.price.toInt := hr.price
  have hsaving := Amount.toInt_excess (a := value) (Int.le_of_lt hprice)
  have hmany : (value.excess r.price).toInt * ((r.sets b).toNat : Int) ≤
      value.toInt * ((r.sets b).toNat : Int) :=
    Int.mul_le_mul_of_nonneg_right (by omega) (Int.natCast_nonneg _)
  have htotal := r.sum_costOf_lt h
  rw [List.map_nil, List.sum_nil, Int.add_zero] at hsets
  refine (Decides.lift (Amount.checked_ok ?_ (by omega))).bind fun _ _ => .ok _
  exact Int.mul_nonneg (by omega) (Int.natCast_nonneg _)

end Combo

theorem FreeItem.decides_grant (r : FreeItem) (h : b.lines.ArePayable) : Decides (r.grant b) := by
  refine (Decides.require _ _).bind fun _ _ => (Decides.orReject _ _).bind fun product _ => ?_
  refine (Decides.orReject _ _).bind fun price hprice => ?_
  refine (Decides.lift (h.times_ok (orReject_eq_ok_iff.1 hprice) ?_)).bind fun _ _ => .ok _
  exact UInt32.le_iff_toNat_le.1 Std.min_le_right

/-- No unit costs less above a price than in all. -/
theorem HappyHour.savings_ok {price : Amount} (hprice : 0 < price) {e : EligibleLines}
    (h : e.ArePayable) : ∃ saved, HappyHour.savings price e.lines = .ok saved := by
  rw [EligibleLines.savings_eq, savingsAbove_eq_checked]
  have hlines := h.linesOf fun _ => true
  have hexcess : ∀ p ∈ pricesOfLines (e.linesOf fun _ => true),
      0 ≤ excessOver price p ∧ excessOver price p ≤ p := by
    intro p hp
    have hnonneg := nonneg_of_mem_pricesOfLines hlines.prices hp
    have hpos : 0 < price.toInt := hprice
    rw [excessOver]
    omega
  refine Amount.checked_ok ?_ (Int.lt_of_le_of_lt ?_ hlines.fits)
  · exact List.sum_nonneg (List.forall_mem_map.2 fun p hp => (hexcess p hp).1)
  · refine (List.sum_le_sum fun p hp => (hexcess p hp).2).trans (Int.le_of_eq ?_)
    rw [List.map_id']

theorem HappyHour.decides_grant {r : HappyHour} (hr : r.WellFormed) (h : b.lines.ArePayable) :
    Decides (r.grant b) := by
  have hpricing := hr.pricing
  rw [grant]
  cases hkind : r.pricing with
  | percent points =>
    rw [hkind] at hpricing
    exact (Decides.lift (hpricing.isPercentage.percentOf_ok _)).bind fun _ _ => .ok _
  | amount value => exact .ok _
  | specialPrice price =>
    rw [hkind] at hpricing
    exact (Decides.lift (savings_ok hpricing h)).bind fun _ _ => .ok _

theorem Cashback.decides_grant {r : Cashback} (hr : r.WellFormed) (b : Basis) :
    Decides (r.grant b) :=
  (b.decides_requirePayment _).bind fun _ _ => (b.decides_requireMinimum _).bind fun _ _ =>
    (Decides.lift (DiscountValue.of_ok hr.value _ _)).bind fun _ _ => .ok _

theorem PaymentDiscount.decides_grant {r : PaymentDiscount} (hr : r.WellFormed) (b : Basis) :
    Decides (r.grant b) :=
  (b.decides_requirePayment _).bind fun _ _ => (b.decides_requireMinimum _).bind fun _ _ =>
    (Decides.lift (DiscountValue.of_ok hr.value _ _)).bind fun _ _ => .ok _

theorem MixMatch.decides_grant {r : MixMatch} (hprice : 0 ≤ r.specialPrice)
    (h : b.lines.ArePayable) : Decides (r.grant b) := by
  let keep (q : ProductId) : Bool := decide (b.catalog.categoryOf q = some r.category)
  have hgroups : ∃ g, r.groups ((b.lines.ofCategory b.catalog r.category).map (·.line)) = .ok g :=
    exists_groups hprice (h.linesOf keep)
  exact (Decides.lift hgroups).bind fun _ _ => (Decides.require _ _).bind fun _ _ => .ok _

theorem Upsell.decides_grant (r : Upsell) (b : Basis) : Decides (r.grant b) :=
  (Decides.require _ _).bind fun _ _ => (Decides.orReject _ _).bind fun _ _ => .ok _

theorem TierBenefit.decides_grant {t : TierBenefit} (ht : t.WellFormed) (b : Basis) :
    Decides (t.grant b) := by
  cases t with
  | percent points => exact (Decides.lift (ht.percentOf_ok _)).bind fun _ _ => .ok _
  | amount value => exact .ok _
  | freeProduct product => exact (Decides.orReject _ _).bind fun _ _ => .ok _
  | pointsMultiplier multiplier => exact .ok _

theorem Tier.mem_of_select? {tiers : List Tier} {base : Amount} {t : Tier}
    (h : select? tiers base = some t) : t ∈ tiers := by
  refine (List.mem_filter.1 ((StableOrder.mem_of_foldl (fun best t => ?_) h).resolve_right
    nofun)).1
  cases best with
  | none => exact .inr rfl
  | some b =>
    rw [keepRicher]
    split
    · exact .inl rfl
    · exact .inr rfl

theorem ThresholdTier.decides_grant {r : ThresholdTier} (hr : r.WellFormed) (b : Basis) :
    Decides (r.grant b) := by
  refine (Decides.orReject _ _).bind fun tier htier => TierBenefit.decides_grant ?_ b
  exact (hr.tiers tier (Tier.mem_of_select? (orReject_eq_ok_iff.1 htier))).benefit

/-- On ordinary lines every rule but that of a package grants something or says why not. -/
theorem Rule.decides_grant {rule : Rule} (hrule : rule.WellFormed)
    (hpackage : ∀ r, rule ≠ .package r) (h : b.lines.ArePayable) : Decides (rule.grant b) := by
  refine Decides.bind ?_ fun _ _ => .ok _
  cases rule with
  | percentDiscount r => exact PercentDiscount.decides_grant hrule b
  | amountDiscount r => exact r.decides_grant b
  | buyXGetY r => exact BuyXGetY.decides_grant hrule h
  | combo r => exact Combo.decides_grant hrule h
  | freeItem r => exact r.decides_grant h
  | happyHour r => exact HappyHour.decides_grant hrule h
  | cashback r => exact Cashback.decides_grant hrule b
  | paymentDiscount r => exact PaymentDiscount.decides_grant hrule b
  | package r => exact absurd rfl (hpackage r)
  | mixMatch r => exact MixMatch.decides_grant hrule.specialPrice h
  | upsell r => exact r.decides_grant b
  | thresholdTier r => exact ThresholdTier.decides_grant hrule b

end Formulas

/-! ## Conditions across brands -/

namespace CrossBrand

variable {ctx : Context} {s : BrandSpend}

/-- Of a customer nothing is known, so what is spent at a brand is what is spent on the bill. -/
theorem toInt_spendAt (hcustomer : ctx.customer = none)
    (hs : ∀ brand, (s.amountAt brand).toInt = BrandSpend.costAt ctx ctx.bill.lines brand)
    (brand : BrandId) :
    (spendAt ctx s brand).toInt = BrandSpend.costAt ctx ctx.bill.lines brand := by
  have hlower := (s.amountAt brand).lower
  have hupper := (s.amountAt brand).upper
  rw [spendAt, hcustomer, Amount.addSat, Amount.toInt_saturate, ← hs, Amount.toInt_zero]
  omega

/-- What is spent at different brands is a part of the total. -/
theorem sum_spendAt_ok (hcustomer : ctx.customer = none)
    (hlines : Payable ctx.bill.lines)
    (hs : ∀ brand, (s.amountAt brand).toInt = BrandSpend.costAt ctx ctx.bill.lines brand)
    {brands : List BrandId} (hbrands : brands.Nodup) :
    ∃ total, Amount.sum (brands.map (spendAt ctx s)) = .ok total := by
  have hspend := toInt_spendAt hcustomer hs
  have hnonneg : ∀ amount ∈ brands.map (spendAt ctx s), 0 ≤ amount.toInt := by
    refine List.forall_mem_map.2 fun brand _ => ?_
    rw [hspend]
    exact BrandSpend.costAt_nonneg ctx hlines.prices brand
  have hsum : ((brands.map (spendAt ctx s)).map Amount.toInt).sum ≤
      (pricesOfLines ctx.bill.lines).sum := by
    have hcosts : Amount.toInt ∘ spendAt ctx s = BrandSpend.costAt ctx ctx.bill.lines :=
      funext hspend
    rw [List.map_map, hcosts]
    exact sum_keys_le ctx.brandOf hlines.prices hbrands
  rw [Amount.sum_eq_checked hnonneg]
  exact Amount.checked_ok (List.sum_nonneg (List.forall_mem_map.2 hnonneg))
    (Int.lt_of_le_of_lt hsum hlines.fits)

/-- Where nothing is known of the customer, a condition across brands is met or not. -/
theorem isMet_ok (c : CrossBrand) (hcustomer : ctx.customer = none)
    (hlines : Payable ctx.bill.lines) :
    ∃ met, c.isMet ctx = .ok met := by
  obtain ⟨s, honBill, hs⟩ : ∃ s, BrandSpend.onBill ctx = .ok s ∧
      ∀ brand, (s.amountAt brand).toInt = BrandSpend.costAt ctx ctx.bill.lines brand := by
    refine (BrandSpend.onBill_cases ctx hlines.prices).resolve_right ?_
    rintro ⟨-, brand, hrange⟩
    -- what the lines of one brand cost is a part of the total
    exact absurd (hlines.filter fun line => decide (ctx.brandOf line = brand)).fits
      (Int.not_lt_of_ge hrange)
  have hsum {brands : List BrandId} (hbrands : brands.Nodup) :=
    sum_spendAt_ok hcustomer hlines hs hbrands
  rw [isMet, honBill, ok_bind]
  cases c.kind with
  | triggerBenefit =>
    obtain ⟨total, htotal⟩ := hsum c.triggerBrands.nodup_toList
    dsimp only
    rw [triggerMet]
    split
    · exact ⟨_, rfl⟩
    · rw [htotal, ok_bind]
      split <;> exact ⟨_, rfl⟩
  | multiBrandSpend =>
    have hknown : (knownBrands ctx s).Nodup := SortedSet.nodup_toList _
    obtain ⟨total, htotal⟩ := hsum ((hknown.filter c.isTrigger).filter
      ((fun spend => decide (0 < spend)) ∘ spendAt ctx s))
    dsimp only
    rw [multiBrandMet, List.filter_map]
    split
    · exact ⟨_, rfl⟩
    · rw [htotal]
      exact ⟨_, rfl⟩
  | crossBrandBundle =>
    dsimp only
    split <;> exact ⟨_, rfl⟩
  | sameReceipt => exact ⟨_, rfl⟩
  | loyaltyAccumulate => exact ⟨_, rfl⟩

end CrossBrand

/-! ## Documents -/

namespace Document

variable {d : Document} {ctx : Context}

theorem decides_validityGate (d : Document) (ctx : Context) : Decides (d.validityGate ctx) :=
  (Decides.require _ _).bind fun _ _ => (Decides.require _ _).bind fun _ _ =>
    (Decides.require _ _).bind fun _ _ => .require _ _

theorem decides_customerGate (d : Document) (ctx : Context) : Decides (d.customerGate ctx) :=
  (Decides.require _ _).bind fun _ _ => (Decides.require _ _).bind fun _ _ =>
    (Decides.require _ _).bind fun _ _ => .require _ _

theorem decides_thresholdGate (d : Document) (lines : EligibleLines) :
    Decides (d.thresholdGate lines) :=
  (Decides.require _ _).bind fun _ _ => (Decides.require _ _).bind fun _ _ => .require _ _

theorem decides_limitGate (d : Document) (ctx : Context) : Decides (d.limitGate ctx) :=
  (Decides.require _ _).bind fun _ _ => (Decides.require _ _).bind fun _ _ => .require _ _

theorem decides_scopeGate (hcross : d.crossBrand = none ∨ ctx.customer = none)
    (hlines : Payable ctx.bill.lines) :
    Decides (d.scopeGate ctx) := by
  refine (Decides.require _ _).bind fun _ _ => (Decides.require _ _).bind fun _ _ =>
    (Decides.require _ _).bind fun _ _ => ?_
  cases hcondition : d.crossBrand with
  | none => exact .ok _
  | some c =>
    have hcustomer := hcross.resolve_left (by rw [hcondition]; exact nofun)
    exact (Decides.lift (c.isMet_ok hcustomer hlines)).bind fun _ _ => .require _ _

/-- Of lines that are payable, those that are eligible are payable. -/
theorem select_ok (t : Targeting) {bill : Bill} (catalog : Catalog) (hlines : Payable bill.lines) :
    ∃ e, EligibleLines.select t bill catalog = .ok e ∧ e.ArePayable := by
  let keep (line : BillLine) : Bool := t.applyTo.isBillScoped || t.selects catalog line
  let selected := bill.placedLines.filter fun p => keep p.line
  have hselected : Payable (selected.map (·.line)) := by
    rw [bill.map_line_filter keep]
    exact hlines.filter keep
  obtain ⟨subtotal, hsubtotal⟩ := hselected.exists_totalOf
  refine ⟨⟨selected, subtotal, Count.sum (selected.map (·.line.quantity))⟩, ?_, hselected⟩
  have hselect : EligibleLines.select t bill catalog = EligibleLines.ofLines selected := rfl
  rw [hselect, EligibleLines.ofLines_eq, hsubtotal]
  rfl

/-- A document that can be evaluated judges an ordinary bill in its currency. -/
theorem decides_judge (hform : d.checkForm ctx.bill = .ok ()) (hrule : d.rule.WellFormed)
    (hpackage : ∀ r, d.rule ≠ .package r) (hcross : d.crossBrand = none ∨ ctx.customer = none)
    (hlines : Payable ctx.bill.lines) :
    Decides (d.judge ctx) := by
  obtain ⟨e, hselect, he⟩ := select_ok d.targeting ctx.catalog hlines
  rw [judge, hform, hselect]
  dsimp only
  refine (d.decides_validityGate ctx).bind fun _ _ =>
    (decides_scopeGate hcross hlines).bind fun _ _ => ?_
  rw [liftM_ok, ok_bind]
  exact (Decides.require _ _).bind fun _ _ => (d.decides_customerGate ctx).bind fun _ _ =>
    (d.decides_thresholdGate e).bind fun _ _ => (d.decides_limitGate ctx).bind fun _ _ =>
      Rule.decides_grant hrule hpackage he

end Document

/-- A document that was compiled, but not for a package, judges every bill in its currency on which
no price is negative and whose total fits an amount. What was spent before must not come into it. -/
theorem Compiler.evaluate_decided {c : Compiler} {p : Promotion} {compiledAt : Timestamp}
    {d : Document} (hd : c.compile p compiledAt = .ok d) (hpackage : ∀ r, d.rule ≠ .package r)
    (ctx : Context)
    (hcurrency : Text.sameIgnoringCase d.currency (Text.trim ctx.bill.currency) = true)
    (hprices : ∀ line ∈ ctx.bill.lines, 0 ≤ line.unitPrice) {subtotal : Amount}
    (hsubtotal : ctx.bill.subtotal = .ok subtotal)
    (hcross : d.crossBrand = none ∨ ctx.customer = none) :
    (∃ grant, (d.evaluate ctx).verdict = .eligible grant) ∨
      ∃ reason, (d.evaluate ctx).verdict = .ineligible reason := by
  rw [Bill.subtotal_eq] at hsubtotal
  have hlines : Payable ctx.bill.lines := .of_totalOf hprices hsubtotal
  have hform : d.checkForm ctx.bill = .ok () := by
    rw [Document.checkForm, isSupported_of_compile hd, hasCurrency_of_compile hd, hcurrency]
    rfl
  have hdecides :=
    Document.decides_judge hform (compile_wellFormed hd).rule hpackage hcross hlines
  rw [Document.evaluate]
  dsimp only
  cases hjudge : d.judge ctx with
  | ok grant => exact .inl ⟨grant, rfl⟩
  | error rejection =>
    cases rejection with
    | ineligible reason => exact .inr ⟨reason, rfl⟩
    | fault fault => exact absurd hjudge (hdecides fault)

/-- Some minor units off the bill on its day, as it is configured. -/
def Sample.offer (n : UInt8) (code : String) (discount : Int) : Promotion :=
  { Promotion.new .amountDiscount (id n) (id 1) code date date with
    applyTo := .bill
    discountAmount := some (amount discount)
    isStackable := true }

/-- Ten off the bill of the shop. -/
theorem Compiler.evaluate_decided_shop :
    ∃ d, Sample.compiler.compile (Sample.offer 1 "A" 10) .epoch = .ok d ∧
      Sample.context.bill.subtotal = .ok (Sample.amount 100) ∧
      ((∃ grant, (d.evaluate Sample.context).verdict = .eligible grant) ∨
        ∃ reason, (d.evaluate Sample.context).verdict = .ineligible reason) := by
  obtain ⟨d, hd⟩ : ∃ d, Sample.compiler.compile (Sample.offer 1 "A" 10) .epoch = .ok d := ⟨_, rfl⟩
  have hrule : (Sample.offer 1 "A" 10).rule = .ok (.amountDiscount ⟨Sample.amount 10, 0⟩) := rfl
  have hpackage : ∀ r, d.rule ≠ .package r := by
    rw [← Except.ok.inj (hrule.symm.trans (compiles_of_compile hd).rule)]
    exact fun _ => nofun
  have hcurrency : Text.sameIgnoringCase d.currency (Text.trim Sample.context.bill.currency) =
      true := by
    rw [(stamp_of_compile hd).2]
    decide
  have hsubtotal : Sample.context.bill.subtotal = .ok (Sample.amount 100) := rfl
  exact ⟨d, hd, hsubtotal, evaluate_decided hd hpackage Sample.context hcurrency (by decide)
    hsubtotal (.inr rfl)⟩

end Promotions

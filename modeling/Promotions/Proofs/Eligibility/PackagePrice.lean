import Mathlib.Algebra.BigOperators.Ring.Finset
import Promotions.Proofs.Eligibility.FixedPrices

/-!
# Proofs: when the price of a package is kept

A package saves what its components cost together above its price. Each component is looked for on
its own, so one unit can stand for several of them, and then the package is sold below its price.
Where every component has units of its own, what the components cost is a part of what the lines
cost, and the price is left to be paid.
-/

namespace Promotions

open Fallible Judged UnitRuns

/-! ## Units of lines -/

namespace EligibleLines

/-- What some units of each line cost. -/
def worthOf (lines : List PlacedLine) (units : PlacedLine → Nat) : Int :=
  (lines.map fun p => p.line.unitPrice.toInt * (units p : Int)).sum

variable {lines : List PlacedLine} {units : PlacedLine → Nat}

theorem worthOf_nonneg (hprices : ∀ p ∈ lines, 0 ≤ p.line.unitPrice) : 0 ≤ worthOf lines units :=
  List.sum_nonneg (List.forall_mem_map.2 fun p hp =>
    Int.mul_nonneg (hprices p hp) (Int.natCast_nonneg _))

theorem worthOf_filter_le (hprices : ∀ p ∈ lines, 0 ≤ p.line.unitPrice) (keep : PlacedLine → Bool) :
    worthOf (lines.filter keep) units ≤ worthOf lines units := by
  unfold worthOf
  refine (List.filter_sublist.map _).sum_le_sum (List.forall_mem_map.2 fun p hp => ?_)
  exact Int.mul_nonneg (hprices p hp) (Int.natCast_nonneg _)

theorem worthOf_mono (hprices : ∀ p ∈ lines, 0 ≤ p.line.unitPrice) {more : PlacedLine → Nat}
    (hmore : ∀ p ∈ lines, units p ≤ more p) : worthOf lines units ≤ worthOf lines more :=
  List.sum_le_sum fun p hp =>
    Int.mul_le_mul_of_nonneg_left (Int.ofNat_le.2 (hmore p hp)) (hprices p hp)

theorem worthOf_add (lines : List PlacedLine) (units more : PlacedLine → Nat) :
    worthOf lines (fun p => units p + more p) = worthOf lines units + worthOf lines more := by
  unfold worthOf
  rw [← List.sum_map_add]
  refine congrArg List.sum (List.map_congr_left fun p _ => ?_)
  rw [Nat.cast_add, Int.mul_add]

theorem sum_map_mul (m : Int) (lines : List PlacedLine) (units : PlacedLine → Nat) :
    (lines.map fun p => m * (units p : Int)).sum = m * ((lines.map units).sum : Nat) := by
  rw [List.sum_map_mul_left, Nat.cast_list_sum, List.map_map]
  rfl

/-- Units of no less than a price cost no less than as many at that price. -/
theorem mul_le_worthOf {m : Int} (h : ∀ p ∈ lines, units p ≠ 0 → m ≤ p.line.unitPrice.toInt) :
    m * ((lines.map units).sum : Nat) ≤ worthOf lines units := by
  rw [← sum_map_mul]
  refine List.sum_le_sum fun p hp => ?_
  by_cases hnone : units p = 0
  · rw [hnone]
    simp
  · exact Int.mul_le_mul_of_nonneg_right (h p hp hnone) (Int.natCast_nonneg _)

/-- No unit that is left is dearer than one that is taken. -/
def AreDearest (lines : List PlacedLine) (units : PlacedLine → Nat) : Prop :=
  ∀ p ∈ lines, ∀ q ∈ lines, units p ≠ 0 → units q < q.line.quantity.toNat →
    q.line.unitPrice ≤ p.line.unitPrice

/-- The dearest units cost as many times the price of the cheapest of them, and what all units cost
above that. -/
theorem worthOf_eq_of_dearest (hunits : ∀ p ∈ lines, units p ≤ p.line.quantity.toNat) {m : Int}
    (htaken : ∀ p ∈ lines, units p ≠ 0 → m ≤ p.line.unitPrice.toInt)
    (hleft : ∀ p ∈ lines, units p < p.line.quantity.toNat → p.line.unitPrice.toInt ≤ m) :
    worthOf lines units = m * ((lines.map units).sum : Nat) +
      ((pricesOfLines (lines.map (·.line))).map fun x => max 0 (x - m)).sum := by
  rw [sum_map_pricesOfLines, List.map_map, ← sum_map_mul, ← List.sum_map_add]
  refine congrArg List.sum (List.map_congr_left fun p hp => ?_)
  dsimp only [Function.comp_apply]
  rcases Nat.lt_or_eq_of_le (hunits p hp) with hlt | hall
  · -- a unit is left, so that those that are taken cost the least
    have hprice := hleft p hp hlt
    have hnothing : max 0 (p.line.unitPrice.toInt - m) = 0 := by omega
    rw [hnothing, Int.zero_mul, Int.add_zero]
    by_cases hnone : units p = 0
    · rw [hnone]
      simp
    · have hsame : p.line.unitPrice.toInt = m := by
        have hle := htaken p hp hnone
        omega
      rw [hsame]
  · rw [← hall]
    by_cases hnone : units p = 0
    · rw [hnone]
      simp
    · have hle := htaken p hp hnone
      have hexcess : max 0 (p.line.unitPrice.toInt - m) = p.line.unitPrice.toInt - m := by omega
      rw [hexcess]
      ring

/-- Units from all prices cost no more than as many times any price, and what all cost above it. -/
theorem sum_le_mul_add {prices sub : List Int} (hsub : sub.Sublist prices) (m : Int) :
    sub.sum ≤ m * (sub.length : Int) + (prices.map fun x => max 0 (x - m)).sum := by
  have hexcess : (sub.map fun x => max 0 (x - m)).sum ≤ (prices.map fun x => max 0 (x - m)).sum :=
    (hsub.map _).sum_le_sum (List.forall_mem_map.2 fun x _ => Int.le_max_left _ _)
  have hsplit : sub.sum ≤ m * (sub.length : Int) + (sub.map fun x => max 0 (x - m)).sum := by
    clear hsub hexcess
    induction sub with
    | nil => simp
    | cons x sub ih =>
      rw [List.sum_cons, List.map_cons, List.sum_cons, List.length_cons, Nat.cast_add, mul_add]
      push_cast
      omega
  omega

/-- The dearest units cost no less than any others of which there are as many. -/
theorem sum_le_worthOf (hprices : ∀ p ∈ lines, 0 ≤ p.line.unitPrice)
    (hunits : ∀ p ∈ lines, units p ≤ p.line.quantity.toNat) (hdearest : AreDearest lines units)
    {prices sub : List Int} (hperm : prices.Perm (pricesOfLines (lines.map (·.line))))
    (hsub : sub.Sublist prices) (hcount : (lines.map units).sum = sub.length) :
    sub.sum ≤ worthOf lines units := by
  cases hcheapest : ((lines.filter fun p => units p != 0).map (·.line.unitPrice.toInt)).min? with
  | none =>
    -- no unit is taken
    have hempty := List.map_eq_nil_iff.1 (List.min?_eq_none_iff.1 hcheapest)
    have hnone : ∀ p ∈ lines, units p = 0 := by
      intro p hp
      simpa using List.filter_eq_nil_iff.1 hempty p hp
    have hzero : (lines.map units).sum = 0 := List.sum_eq_zero (List.forall_mem_map.2 hnone)
    have hnil : sub = [] := List.eq_nil_of_length_eq_zero (hcount.symm.trans hzero)
    rw [hnil, List.sum_nil]
    exact worthOf_nonneg hprices
  | some m =>
    obtain ⟨hmem, hleast⟩ := List.min?_eq_some_iff.1 hcheapest
    obtain ⟨p, hp, rfl⟩ := List.mem_map.1 hmem
    obtain ⟨hp, htakenp⟩ := List.mem_filter.1 hp
    have htaken : ∀ q ∈ lines, units q ≠ 0 → p.line.unitPrice.toInt ≤ q.line.unitPrice.toInt := by
      intro q hq hunit
      exact hleast _ (List.mem_map_of_mem (List.mem_filter.2 ⟨hq, bne_iff_ne.2 hunit⟩))
    have hleft : ∀ q ∈ lines, units q < q.line.quantity.toNat →
        q.line.unitPrice.toInt ≤ p.line.unitPrice.toInt :=
      fun q hq hlt => hdearest p hp q hq (bne_iff_ne.1 htakenp) hlt
    rw [worthOf_eq_of_dearest hunits htaken hleft, hcount, ← (hperm.map _).sum_eq]
    exact sum_le_mul_add hsub _

end EligibleLines

open EligibleLines

/-! ## Components -/

section Components

variable {b : Basis} {c : Component} {units : PlacedLine → Nat}

/-- The component is served with units of its lines, so many of each: as many of its product as it
asks for, or the dearest of its category, as many as may be chosen. -/
def Component.ServedBy (c : Component) (b : Basis) (units : PlacedLine → Nat) : Prop :=
  match c.kind, c.product, c.category with
  | .fixed, some product, _ =>
    ((b.lines.ofProduct product).map units).sum = c.quantity.toNat
  | .choice, _, some category =>
    let lines := b.lines.ofCategory b.catalog category
    (lines.map units).sum =
        min (lines.map (·.line.quantity.toNat)).sum c.greatestUnits.toNat ∧
      AreDearest lines units
  | _, _, _ => True

/-- Every component that is found is served, and no unit serves two of them. -/
def Package.IsServed (r : Package) (b : Basis) : Prop :=
  ∃ servings : List (PlacedLine → Nat),
    List.Forall₂ (fun c units => (∃ found, c.find b = .ok (some found)) → c.ServedBy b units)
      r.components servings ∧
    ∀ p ∈ b.lines.lines, (servings.map fun units => units p).sum ≤ p.line.quantity.toNat

namespace Component

theorem value_findFixed_le (h : b.lines.ArePayable)
    (hunits : ∀ p ∈ b.lines.lines, units p ≤ p.line.quantity.toNat) {product : ProductId}
    (hserved : ((b.lines.ofProduct product).map units).sum = c.quantity.toNat)
    {found : FoundComponent} (hfound : c.findFixed b product = .ok (some found)) :
    found.value.toInt ≤ worthOf b.lines.lines units := by
  have hprices : ∀ p ∈ b.lines.lines, 0 ≤ p.line.unitPrice := fun _ => h.price_nonneg
  unfold findFixed at hfound
  cases hprice : b.lines.cheapestOf? product with
  | none =>
    rw [hprice] at hfound
    cases hfound
  | some price =>
    rw [hprice] at hfound
    dsimp only at hfound
    split at hfound
    · obtain ⟨value, hvalue, hfound⟩ := bind_eq_ok_iff.1 hfound
      obtain rfl := Option.some.inj (pure_eq_ok_iff.1 hfound)
      rw [cheapestOf?_eq] at hprice
      have hcheapest := (cheapestUnit?_eq_some_iff.1 hprice).2
      have hleast : ∀ p ∈ b.lines.ofProduct product, units p ≠ 0 →
          price.toInt ≤ p.line.unitPrice.toInt := by
        intro p hp hunit
        have hline := (List.mem_filter.1 hp).1
        have hquantity : p.line.quantity ≠ 0 := by
          intro hzero
          have hle := hunits p hline
          rw [hzero] at hle
          exact hunit (Nat.le_zero.1 hle)
        refine hcheapest _ (mem_pricesOfLines.2 ⟨p.line, ?_, hquantity, rfl⟩)
        exact List.mem_map_of_mem hp
      have hworth := mul_le_worthOf hleast
      rw [hserved] at hworth
      calc value.toInt = price.toInt * (c.quantity.toNat : Int) :=
            Amount.times_eq_ok_iff.1 (lift_eq_ok_iff.1 hvalue)
        _ ≤ worthOf (b.lines.ofProduct product) units := hworth
        _ ≤ worthOf b.lines.lines units := worthOf_filter_le hprices _
    · cases hfound

theorem value_findChoice_le (h : b.lines.ArePayable)
    (hunits : ∀ p ∈ b.lines.lines, units p ≤ p.line.quantity.toNat) {category : CategoryId}
    (hserved : ((b.lines.ofCategory b.catalog category).map units).sum =
      min ((b.lines.ofCategory b.catalog category).map (·.line.quantity.toNat)).sum
        c.greatestUnits.toNat)
    (hdearest : AreDearest (b.lines.ofCategory b.catalog category) units)
    {found : FoundComponent} (hfound : c.findChoice b category = .ok (some found)) :
    found.value.toInt ≤ worthOf b.lines.lines units := by
  have hprices : ∀ p ∈ b.lines.lines, 0 ≤ p.line.unitPrice := fun _ => h.price_nonneg
  let lines := b.lines.ofCategory b.catalog category
  have hlines : ∀ p ∈ lines, p ∈ b.lines.lines := fun p hp => (List.mem_filter.1 hp).1
  let runs := UnitRuns.ofLines (lines.map (·.line))
  have hperm : runs.prices.Perm (pricesOfLines (lines.map (·.line))) := prices_ofLines_perm _
  have hcount : runs.units = (lines.map (·.line.quantity.toNat)).sum := by
    rw [← length_prices, hperm.length_eq, length_pricesOfLines, List.map_map]
    rfl
  unfold findChoice at hfound
  dsimp only at hfound
  split at hfound
  · obtain ⟨taken?, htaken, hfound⟩ := bind_eq_ok_iff.1 hfound
    obtain ⟨taken, rfl, rfl⟩ := Option.map_eq_some_iff.1 (pure_eq_ok_iff.1 hfound)
    obtain ⟨-, hvalue, -⟩ := take_some_spec (Prod.ext (lift_eq_ok_iff.1 htaken) rfl)
    have hlength : (lines.map units).sum =
        (runs.prices.take (min runs.units c.greatestUnits.toNat)).length := by
      rw [List.length_take, length_prices, Nat.min_eq_left (Nat.min_le_left _ _), hcount]
      exact hserved
    calc taken.toInt = (runs.prices.take (min runs.units c.greatestUnits.toNat)).sum := hvalue
      _ ≤ worthOf lines units := sum_le_worthOf (fun p hp => hprices p (hlines p hp))
          (fun p hp => hunits p (hlines p hp)) hdearest hperm (List.take_sublist _ _) hlength
      _ ≤ worthOf b.lines.lines units := worthOf_filter_le hprices _
  · cases hfound

theorem value_find_le (h : b.lines.ArePayable)
    (hunits : ∀ p ∈ b.lines.lines, units p ≤ p.line.quantity.toNat)
    {found : FoundComponent} (hfound : c.find b = .ok (some found)) (hserved : c.ServedBy b units) :
    found.value.toInt ≤ worthOf b.lines.lines units := by
  unfold ServedBy at hserved
  unfold find at hfound
  split at hfound
  · rename_i product _ hkind hproduct
    rw [hkind, hproduct] at hserved
    exact value_findFixed_le h hunits hserved hfound
  · rename_i category hkind hcategory
    rw [hkind, hcategory] at hserved
    exact value_findChoice_le h hunits hserved.1 hserved.2 hfound
  · cases hfound

end Component

namespace Package

variable {progress next : Progress}

/-- A component that is looked for adds what its units cost, if it is found. -/
theorem Progress.value_step_le (h : b.lines.ArePayable)
    (hunits : ∀ p ∈ b.lines.lines, units p ≤ p.line.quantity.toNat)
    (hserved : (∃ found, c.find b = .ok (some found)) → c.ServedBy b units)
    (hstep : progress.step b c = .ok next) :
    next.value.toInt ≤ progress.value.toInt + worthOf b.lines.lines units := by
  obtain ⟨found?, hfind, hstep⟩ := bind_eq_ok_iff.1 hstep
  cases found? with
  | none =>
    obtain ⟨_, -, hstep⟩ := bind_eq_ok_iff.1 hstep
    obtain rfl := pure_eq_ok_iff.1 hstep
    have hnonneg : 0 ≤ worthOf b.lines.lines units := worthOf_nonneg fun _ => h.price_nonneg
    omega
  | some found =>
    obtain ⟨value, hvalue, hstep⟩ := bind_eq_ok_iff.1 hstep
    obtain rfl := pure_eq_ok_iff.1 hstep
    have hsum := Amount.add_eq_ok_iff.1 (lift_eq_ok_iff.1 hvalue)
    have hfound := Component.value_find_le h hunits hfind (hserved ⟨found, hfind⟩)
    show value.toInt ≤ _
    omega

/-- Components that are served add what the units of all of them cost together. -/
theorem Progress.value_foldlM_le (h : b.lines.ArePayable) {components : List Component}
    {servings : List (PlacedLine → Nat)}
    (hserved : List.Forall₂
      (fun c units => (∃ found, c.find b = .ok (some found)) → c.ServedBy b units)
      components servings)
    (hunits : ∀ p ∈ b.lines.lines,
      (servings.map fun units => units p).sum ≤ p.line.quantity.toNat)
    (hrun : components.foldlM (Progress.step b) progress = .ok next) :
    next.value.toInt ≤ progress.value.toInt +
      worthOf b.lines.lines fun p => (servings.map fun units => units p).sum := by
  induction hserved generalizing progress with
  | nil =>
    obtain rfl := foldlM_nil_eq_ok_iff.1 hrun
    exact Int.le_add_of_nonneg_right (worthOf_nonneg fun _ => h.price_nonneg)
  | @cons c units components servings hcomponent _ ih =>
    obtain ⟨middle, hstep, hrest⟩ := foldlM_cons_eq_ok_iff.1 hrun
    simp only [List.map_cons, List.sum_cons] at hunits ⊢
    have hfirst := Progress.value_step_le h
      (fun p hp => (Nat.le_add_right _ _).trans (hunits p hp)) hcomponent hstep
    have hothers := ih (fun p hp => (Nat.le_add_left _ _).trans (hunits p hp)) hrest
    rw [worthOf_add]
    omega

/-- Components without a unit in common cost together no more than the lines. -/
theorem grant_add_price_le {r : Package} (hr : r.WellFormed) (h : b.lines.ArePayable)
    (hserved : r.IsServed b) {raw : Grant} (hraw : r.grant b = .ok raw) {discount : Amount}
    (hpos : 0 < discount.toInt) (hle : discount.toInt ≤ raw.discount.toInt) :
    discount.toInt + r.price.toInt ≤
      worthOf b.lines.lines fun p => p.line.quantity.toNat := by
  obtain ⟨progress, hrun, hraw⟩ := bind_eq_ok_iff.1 hraw
  obtain ⟨_, -, hraw⟩ := bind_eq_ok_iff.1 hraw
  obtain rfl := pure_eq_ok_iff.1 hraw
  obtain ⟨servings, hcomponents, hunits⟩ := hserved
  have hvalue := Progress.value_foldlM_le h hcomponents hunits hrun
  have hall := worthOf_mono (fun _ => h.price_nonneg) hunits
  have hexcess := Amount.toInt_excess (a := progress.value) hr.price
  have hdiscount : discount.toInt ≤ (progress.value.excess r.price).toInt := hle
  have hstart : ({} : Progress).value.toInt = 0 := rfl
  omega

end Package

end Components

/-! ## Evaluation -/

/-- Where no price of the bill is negative and no unit serves two components, a discount that a
compiled package grants leaves the price of the package to be paid. -/
theorem Compiler.evaluate_keeps_package_price {c : Compiler} {p : Promotion}
    {compiledAt : Timestamp} {d : Document} (hd : c.compile p compiledAt = .ok d) {r : Package}
    (hr : d.rule = .package r) (ctx : Context)
    (hprices : ∀ line ∈ ctx.bill.lines, 0 ≤ line.unitPrice) {grant : Grant}
    (hverdict : (d.evaluate ctx).verdict = .eligible grant) (hpos : 0 < grant.discount) :
    ∃ e, EligibleLines.select d.targeting ctx.bill ctx.catalog = .ok e ∧
      (r.IsServed ⟨ctx.bill, ctx.catalog, e, d.base ctx e⟩ →
        grant.discount.toInt + r.price.toInt ≤ e.subtotal.toInt) := by
  obtain ⟨e, hpasses, hgrant⟩ :=
    Document.judge_eq_ok_iff.1 (Document.verdict_eq_eligible_iff.1 hverdict)
  obtain ⟨raw, hraw, hle⟩ := Rule.formula_of_grant hgrant hpos
  have hselect := hpasses.select
  have he : e.ArePayable := EligibleLines.arePayable_of_select hselect hprices
  have hrule := (compile_wellFormed hd).rule
  rw [hr] at hraw hrule
  refine ⟨e, hselect, fun hserved => ?_⟩
  rw [EligibleLines.subtotal_of_ofLines hselect]
  exact Package.grant_add_price_le hrule he hserved hraw hpos hle

namespace Sample

/-- The first product and one of its category to choose, for fifty. -/
def menu : Promotion :=
  { Promotion.new .package (id 9) (id 1) "M" date date with
    applyTo := .bill
    package := some
      { name := "menu"
        price := amount 50
        items :=
          [{ kind := .fixed, product := some (id 1) },
           { kind := .choice, category := some (id 1) }] } }

/-- What the menu is compiled to. -/
def setMenu : Package where
  name := "menu"
  components :=
    [⟨.fixed, some (id 1), none, 1, true, 0, 1⟩, ⟨.choice, none, some (id 1), 1, true, 0, 1⟩]
  price := amount 50
  allowModification := false

/-- The document of the menu, but for its fingerprint. -/
def menuDocument : Document :=
  { document 9 "M" 0 { policy .itemLevel with isStackable := false } with
    compiledAt := .epoch
    rule := .package setMenu }

/-- One unit of each product. -/
def smallBill : Bill :=
  { bill with lines := [⟨id 1, none, 1, amount 40⟩, ⟨id 2, none, 1, amount 20⟩] }

/-- The lines of the small bill, which are all eligible. -/
def smallLines : EligibleLines := ⟨smallBill.placedLines, amount 60, 2⟩

theorem compile_menu :
    ∃ d, compiler.compile menu .epoch = .ok d ∧ { d with fingerprint := "" } = menuDocument := by
  have hrule : menu.rule = .ok (.package setMenu) := by cbv
  unfold Compiler.compile
  rw [hrule]
  exact ⟨_, rfl, rfl⟩

/-- The menu is sold for what its rule grants, on whatever bill of the shop. -/
theorem verdict_menu {d : Document} (hd : { d with fingerprint := "" } = menuDocument)
    {ctx : Context} {e : EligibleLines} {grant : Grant} (hpasses : menuDocument.Passes ctx e)
    (hgrant : (Rule.package setMenu).grant ⟨ctx.bill, ctx.catalog, e, menuDocument.base ctx e⟩ =
      .ok grant) : (d.evaluate ctx).verdict = .eligible grant := by
  show ({ d with fingerprint := "" }.evaluate ctx).verdict = .eligible grant
  rw [hd, Document.verdict_eq_eligible_iff, Document.judge_eq_ok_iff]
  exact ⟨e, hpasses, hgrant⟩

end Sample

/-- Both units of the menu are of the first line, at forty each. Thirty are granted, and seventy are
left to be paid. -/
theorem Compiler.evaluate_keeps_package_price_shop :
    ∃ d e, Sample.compiler.compile Sample.menu .epoch = .ok d ∧ d.rule = .package Sample.setMenu ∧
      (d.evaluate (Sample.contextOf Sample.bill)).verdict =
        .eligible ⟨Sample.amount 30, .discount, [0, 1]⟩ ∧
      EligibleLines.select d.targeting Sample.bill Sample.catalog = .ok e ∧
      Sample.setMenu.IsServed
        ⟨Sample.bill, Sample.catalog, e, d.base (Sample.contextOf Sample.bill) e⟩ ∧
      (Sample.amount 30).toInt + Sample.setMenu.price.toInt ≤ e.subtotal.toInt := by
  obtain ⟨d, hd, hdocument⟩ := Sample.compile_menu
  have hr : d.rule = .package Sample.setMenu := congrArg Document.rule hdocument
  have hpasses : Sample.menuDocument.Passes (Sample.contextOf Sample.bill) Sample.basis.lines :=
    ⟨rfl, rfl, rfl, rfl, rfl, rfl, rfl, rfl⟩
  have hverdict : (d.evaluate (Sample.contextOf Sample.bill)).verdict =
      .eligible ⟨Sample.amount 30, .discount, [0, 1]⟩ :=
    Sample.verdict_menu hdocument hpasses (by cbv)
  obtain ⟨e, hselect, hkeeps⟩ := evaluate_keeps_package_price hd hr (Sample.contextOf Sample.bill)
    (by decide) hverdict (by decide)
  have hserved : Sample.setMenu.IsServed
      ⟨Sample.bill, Sample.catalog, e, d.base (Sample.contextOf Sample.bill) e⟩ := by
    have htargeting : d.targeting = Sample.menuDocument.targeting := by rw [← hdocument]
    rw [htargeting] at hselect
    obtain rfl : Sample.basis.lines = e := Except.ok.inj hselect
    let one (p : PlacedLine) : Nat := if p.index = 0 then 1 else 0
    refine ⟨[one, one], .cons (fun _ => rfl) (.cons (fun _ => ⟨rfl, ?_⟩) .nil), ?_⟩
    · show EligibleLines.AreDearest (Sample.basis.lines.ofCategory Sample.catalog (Sample.id 1)) one
      unfold EligibleLines.AreDearest
      decide +kernel
    · show ∀ p ∈ Sample.basis.lines.lines, _
      decide +kernel
  exact ⟨d, e, hd, hr, hverdict, hselect, hserved, hkeeps hserved⟩

/-- On a bill with one unit of the first product and one of the second, that of the first product is
valued for both components of the menu. Thirty are granted, and of the price of fifty only thirty
are left to be paid. -/
theorem Compiler.package_below_price :
    ∃ d e, Sample.compiler.compile Sample.menu .epoch = .ok d ∧ d.rule = .package Sample.setMenu ∧
      (∀ line ∈ Sample.smallBill.lines, 0 ≤ line.unitPrice) ∧
      (d.evaluate (Sample.contextOf Sample.smallBill)).verdict =
        .eligible ⟨Sample.amount 30, .discount, [0, 1]⟩ ∧
      EligibleLines.select d.targeting Sample.smallBill Sample.catalog = .ok e ∧
      e.subtotal.toInt - (Sample.amount 30).toInt < Sample.setMenu.price.toInt := by
  obtain ⟨d, hd, hdocument⟩ := Sample.compile_menu
  have htargeting : d.targeting = Sample.menuDocument.targeting := by rw [← hdocument]
  have hpasses : Sample.menuDocument.Passes (Sample.contextOf Sample.smallBill) Sample.smallLines :=
    ⟨rfl, rfl, rfl, rfl, rfl, rfl, rfl, rfl⟩
  have hverdict : (d.evaluate (Sample.contextOf Sample.smallBill)).verdict =
      .eligible ⟨Sample.amount 30, .discount, [0, 1]⟩ :=
    Sample.verdict_menu hdocument hpasses (by cbv)
  refine ⟨d, Sample.smallLines, hd, congrArg Document.rule hdocument, by decide, hverdict, ?_,
    by decide⟩
  rw [htargeting]
  rfl

end Promotions

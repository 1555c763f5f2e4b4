import Promotions.Proofs.Eligibility.Ordinary
import Promotions.Proofs.Eligibility.Places

/-!
# Proofs: what an eligible verdict says

Whatever a document asks for and whatever stands on the bill, a verdict that the bill is eligible
says things that go together: an amount between zero and what there is to grant, the places of lines
the document takes, in order and each once, and a benefit that the amount and the places bear out.
The amount is seen to after the formula; the places and the benefit are right in every formula on
its own.
-/

namespace Promotions

open Fallible Judged UnitRuns

/-! ## Places -/

namespace EligibleLines

variable {e : EligibleLines} {lines : List PlacedLine} {product : ProductId} {price : Amount}

/-- The places of the lines go up. -/
def ArePlaced (e : EligibleLines) : Prop := e.indices.Pairwise (· < ·)

theorem indices_subset (h : lines.Sublist e.lines) : indicesOf lines ⊆ e.indices :=
  (h.map _).subset

theorem ArePlaced.sublist (he : e.ArePlaced) (h : lines.Sublist e.lines) :
    (indicesOf lines).Pairwise (· < ·) :=
  List.Pairwise.sublist (h.map _) he

theorem indicesOf_ne_nil (h : lines ≠ []) : indicesOf lines ≠ [] :=
  mt List.map_eq_nil_iff.1 h

theorem ofProduct_ne_nil (h : e.cheapestOf? product = some price) : e.ofProduct product ≠ [] := by
  intro hnil
  rw [cheapestOf?, hnil] at h
  cases h

end EligibleLines

open EligibleLines

/-! ## Grants on lines -/

/-- What a benefit says of the amount and of the places it is granted with. -/
def Grant.BearsOut (g : Grant) (e : EligibleLines) : Benefit → Prop
  | .discount | .cashback => True
  | .pointsMultiplier _ => g.discount = 0
  | .freeProduct product => g.affected = indicesOf (e.ofProduct product)

/-- A grant is laid out on lines: it names places of theirs in order, at least one if there is one,
and its benefit is borne out. -/
structure Grant.FitsLines (g : Grant) (e : EligibleLines) : Prop where
  ascending : g.affected.Pairwise (· < ·)
  subset : g.affected ⊆ e.indices
  nonempty : e.lines ≠ [] → g.affected ≠ []
  benefit : g.BearsOut e g.benefit

namespace Grant

variable {e : EligibleLines} {lines : List PlacedLine} {discount : Amount} {benefit : Benefit}

/-- A grant for some of the lines. -/
theorem fitsLines_of_sublist (he : e.ArePlaced) (hlines : lines.Sublist e.lines)
    (hne : e.lines ≠ [] → lines ≠ [])
    (hbenefit : BearsOut ⟨discount, benefit, indicesOf lines⟩ e benefit) :
    FitsLines ⟨discount, benefit, indicesOf lines⟩ e where
  ascending := he.sublist hlines
  subset := indices_subset hlines
  nonempty h := indicesOf_ne_nil (hne h)
  benefit := hbenefit

/-- A grant for all lines. -/
theorem fitsLines_all (he : e.ArePlaced)
    (hbenefit : BearsOut ⟨discount, benefit, e.indices⟩ e benefit) :
    FitsLines ⟨discount, benefit, e.indices⟩ e :=
  fitsLines_of_sublist he (List.Sublist.refl _) id hbenefit

/-- A grant for the lines of a product that there is. -/
theorem fitsLines_ofProduct (he : e.ArePlaced) {product : ProductId} {price : Amount}
    (hprice : e.cheapestOf? product = some price)
    (hbenefit : BearsOut ⟨discount, benefit, indicesOf (e.ofProduct product)⟩ e benefit) :
    FitsLines ⟨discount, benefit, indicesOf (e.ofProduct product)⟩ e :=
  fitsLines_of_sublist he List.filter_sublist (fun _ => ofProduct_ne_nil hprice) hbenefit

/-- Only the amount is brought to its bounds, and nothing stays nothing. -/
theorem FitsLines.clamp {g : Grant} (h : g.FitsLines e) (ceiling : Amount) :
    FitsLines { g with discount := Amount.clamp g.discount ceiling } e := by
  refine ⟨h.ascending, h.subset, h.nonempty, ?_⟩
  obtain ⟨discount, benefit, affected⟩ := g
  have hbenefit := h.benefit
  cases benefit with
  | discount => trivial
  | cashback => trivial
  | pointsMultiplier multiplier =>
    obtain rfl : discount = 0 := hbenefit
    have hclamp := Amount.toInt_clamp 0 ceiling
    rw [Amount.toInt_zero] at hclamp
    exact Amount.toInt_inj.1 (by rw [hclamp, Amount.toInt_zero]; omega)
  | freeProduct product => exact hbenefit

end Grant

/-! ## What is found on lines -/

section Found

variable {b : Basis} {g : Grant}

theorem UnitRuns.units_ofLines_nil : (UnitRuns.ofLines []).units = 0 := by
  simp [UnitRuns.ofLines, units, UnitRuns.unitsOf]

/-- A choice is never of no unit. -/
theorem Component.leastUnits_pos (c : Component) : 0 < c.leastUnits.toNat := by
  show 0 < (if c.minSelection ≤ 1 then 1 else c.minSelection : Count).toNat
  split
  · decide
  · rename_i hmany
    have hlt := UInt32.lt_iff_toNat_lt.1 (UInt32.not_le.1 hmany)
    omega

/-- Of a set that has a value, a product is on the bill. -/
theorem Combo.exists_line_of_setValue {r : Combo} {value : Amount}
    (hproducts : r.products.isEmpty = false) (h : r.setValue b = .ok value) :
    ∃ p ∈ b.lines.lines, p.line.product ∈ r.products := by
  unfold setValue at h
  cases hlist : r.products.toList with
  | nil =>
    rw [SortedSet.isEmpty, hlist] at hproducts
    cases hproducts
  | cons product rest =>
    rw [hlist] at h
    obtain ⟨_, hfirst, -⟩ := foldlM_cons_eq_ok_iff.1 h
    obtain ⟨price, hprice, -⟩ := bind_eq_ok_iff.1 hfirst
    have hne := ofProduct_ne_nil (orReject_eq_ok_iff.1 hprice)
    obtain ⟨p, hp⟩ := List.exists_mem_of_ne_nil _ hne
    obtain ⟨hline, hproduct⟩ := List.mem_filter.1 hp
    refine ⟨p, hline, ?_⟩
    show p.line.product ∈ r.products.toList
    rw [hlist, of_decide_eq_true hproduct]
    exact List.mem_cons_self

/-- No group is formed of no lines. -/
theorem MixMatch.groups_nil (r : MixMatch) : r.groups [] = .ok {} := by
  have hrows : ProductRow.ofLines [] = [] := rfl
  unfold groups
  rw [hrows]
  by_cases hsize : 0 < r.groupSize.toNat
  · have hunits : (UnitRuns.ofLines []).units < r.groupSize.toNat := by rwa [units_ofLines_nil]
    rw [groupUnits_eq hsize, take, if_pos hunits, groupProducts_eq hsize, dearestFronts?,
      List.filterMap_nil, List.length_nil, if_neg (Nat.not_le_of_lt hsize)]
    split <;> rfl
  · rw [groupUnits, groupProducts, dif_neg hsize, dif_neg hsize]
    split <;> rfl

/-- What is found for a component stands on eligible lines, and on at least one. -/
structure FoundComponent.IsPlaced (found : FoundComponent) (e : EligibleLines) : Prop where
  subset : found.indices ⊆ e.indices
  nonempty : found.indices ≠ []

namespace Component

variable {c : Component} {found : FoundComponent}

theorem isPlaced_of_findFixed {product : ProductId}
    (h : c.findFixed b product = .ok (some found)) : found.IsPlaced b.lines := by
  unfold findFixed at h
  cases hprice : b.lines.cheapestOf? product with
  | none =>
    rw [hprice] at h
    cases h
  | some price =>
    rw [hprice] at h
    dsimp only at h
    split at h
    · obtain ⟨value, -, h⟩ := bind_eq_ok_iff.1 h
      obtain rfl := Option.some.inj (pure_eq_ok_iff.1 h)
      exact ⟨indices_subset List.filter_sublist, indicesOf_ne_nil (ofProduct_ne_nil hprice)⟩
    · cases h

theorem isPlaced_of_findChoice {category : CategoryId}
    (h : c.findChoice b category = .ok (some found)) : found.IsPlaced b.lines := by
  unfold findChoice at h
  dsimp only at h
  split at h
  · rename_i henough
    obtain ⟨value?, -, h⟩ := bind_eq_ok_iff.1 h
    obtain ⟨value, -, rfl⟩ := Option.map_eq_some_iff.1 (pure_eq_ok_iff.1 h)
    refine ⟨indices_subset List.filter_sublist, indicesOf_ne_nil fun hnil => ?_⟩
    -- without lines there is no unit, and at least one is asked for
    have hleast := c.leastUnits_pos
    rw [hnil, List.map_nil, units_ofLines_nil] at henough
    omega
  · cases h

theorem isPlaced_of_find (h : c.find b = .ok (some found)) : found.IsPlaced b.lines := by
  unfold find at h
  split at h
  · exact isPlaced_of_findFixed h
  · exact isPlaced_of_findChoice h
  · cases h

end Component

namespace Package

variable {c : Component} {progress next : Progress}

/-- What was found so far stands on eligible lines, and on at least one if anything was found. -/
structure Progress.IsPlaced (progress : Progress) (e : EligibleLines) : Prop where
  subset : progress.indices ⊆ e.indices
  nonempty : 0 < progress.found → progress.indices ≠ []

theorem Progress.isPlaced_of_step (hprogress : progress.IsPlaced b.lines)
    (h : progress.step b c = .ok next) : next.IsPlaced b.lines := by
  obtain ⟨found?, hfind, h⟩ := bind_eq_ok_iff.1 h
  cases found? with
  | none =>
    obtain ⟨_, -, h⟩ := bind_eq_ok_iff.1 h
    obtain rfl := pure_eq_ok_iff.1 h
    exact hprogress
  | some found =>
    obtain ⟨value, -, h⟩ := bind_eq_ok_iff.1 h
    obtain rfl := pure_eq_ok_iff.1 h
    have hfound := Component.isPlaced_of_find hfind
    exact ⟨List.append_subset.2 ⟨hprogress.subset, hfound.subset⟩,
      fun _ => List.append_ne_nil_of_right_ne_nil _ hfound.nonempty⟩

theorem fitsLines_of_grant {r : Package} (h : r.grant b = .ok g) : g.FitsLines b.lines := by
  obtain ⟨progress, hrun, h⟩ := bind_eq_ok_iff.1 h
  obtain ⟨_, hfound, h⟩ := bind_eq_ok_iff.1 h
  obtain rfl := pure_eq_ok_iff.1 h
  have hplaced : progress.IsPlaced b.lines :=
    foldlM_invariant (fun _ _ _ => Progress.isPlaced_of_step)
      ⟨List.nil_subset _, fun h => absurd h (Nat.lt_irrefl 0)⟩ hrun
  have hnonempty := hplaced.nonempty (of_decide_eq_true (require_eq_ok_iff.1 hfound))
  -- the places of several components are sorted anew, so that each is named once
  exact
    { ascending := (SortedSet.sorted _).imp of_decide_eq_true
      subset := fun i hi => hplaced.subset (SortedSet.mem_ofList.1 hi)
      nonempty := fun _ => by
        obtain ⟨i, hi⟩ := List.exists_mem_of_ne_nil _ hnonempty
        exact List.ne_nil_of_mem (SortedSet.mem_ofList.2 hi)
      benefit := trivial }

end Package

end Found

/-! ## Formulas -/

section Formulas

variable {b : Basis} {g : Grant} (he : b.lines.ArePlaced)

include he

theorem PercentDiscount.fitsLines_of_grant {r : PercentDiscount} (h : r.grant b = .ok g) :
    g.FitsLines b.lines := by
  obtain ⟨_, -, h⟩ := bind_eq_ok_iff.1 h
  obtain ⟨discount, -, h⟩ := bind_eq_ok_iff.1 h
  obtain rfl := pure_eq_ok_iff.1 h
  exact Grant.fitsLines_all he trivial

theorem AmountDiscount.fitsLines_of_grant {r : AmountDiscount} (h : r.grant b = .ok g) :
    g.FitsLines b.lines := by
  obtain ⟨_, -, h⟩ := bind_eq_ok_iff.1 h
  obtain rfl := pure_eq_ok_iff.1 h
  exact Grant.fitsLines_all he trivial

namespace BuyXGetY

variable {r : BuyXGetY}

theorem fitsLines_of_grantSame (h : r.grantSame b = .ok g) : g.FitsLines b.lines := by
  obtain ⟨p, hp, h⟩ := bind_eq_ok_iff.1 h
  obtain ⟨value, -, h⟩ := bind_eq_ok_iff.1 h
  obtain ⟨discount, -, h⟩ := bind_eq_ok_iff.1 h
  obtain rfl := pure_eq_ok_iff.1 h
  have hline : p ∈ b.lines.lines :=
    (List.mem_filter.1 (mem_of_foldl_cheaper (orReject_eq_ok_iff.1 hp))).1
  exact Grant.fitsLines_of_sublist he (List.singleton_sublist.2 hline)
    (fun _ => List.cons_ne_nil p []) trivial

theorem fitsLines_of_grantOther {product : ProductId} (h : r.grantOther b product = .ok g) :
    g.FitsLines b.lines := by
  obtain ⟨_, -, h⟩ := bind_eq_ok_iff.1 h
  obtain ⟨price, -, h⟩ := bind_eq_ok_iff.1 h
  obtain ⟨value, -, h⟩ := bind_eq_ok_iff.1 h
  obtain ⟨discount, -, h⟩ := bind_eq_ok_iff.1 h
  obtain rfl := pure_eq_ok_iff.1 h
  exact Grant.fitsLines_all he trivial

theorem fitsLines_of_grant (h : r.grant b = .ok g) : g.FitsLines b.lines := by
  unfold grant at h
  split at h
  · exact fitsLines_of_grantSame he h
  · exact fitsLines_of_grantOther he h

end BuyXGetY

theorem Combo.fitsLines_of_grant {r : Combo} (h : r.grant b = .ok g) : g.FitsLines b.lines := by
  obtain ⟨_, hproducts, h⟩ := bind_eq_ok_iff.1 h
  obtain ⟨value, hvalue, h⟩ := bind_eq_ok_iff.1 h
  obtain ⟨discount, -, h⟩ := bind_eq_ok_iff.1 h
  obtain rfl := pure_eq_ok_iff.1 h
  rw [require_eq_ok_iff, Bool.not_eq_true'] at hproducts
  obtain ⟨p, hp, hproduct⟩ := exists_line_of_setValue hproducts hvalue
  exact Grant.fitsLines_of_sublist he List.filter_sublist
    (fun _ => List.ne_nil_of_mem (List.mem_filter.2 ⟨hp, decide_eq_true hproduct⟩)) trivial

theorem FreeItem.fitsLines_of_grant {r : FreeItem} (h : r.grant b = .ok g) :
    g.FitsLines b.lines := by
  obtain ⟨_, -, h⟩ := bind_eq_ok_iff.1 h
  obtain ⟨product, -, h⟩ := bind_eq_ok_iff.1 h
  obtain ⟨price, hprice, h⟩ := bind_eq_ok_iff.1 h
  obtain ⟨discount, -, h⟩ := bind_eq_ok_iff.1 h
  obtain rfl := pure_eq_ok_iff.1 h
  exact Grant.fitsLines_ofProduct he (orReject_eq_ok_iff.1 hprice) rfl

theorem HappyHour.fitsLines_of_grant {r : HappyHour} (h : r.grant b = .ok g) :
    g.FitsLines b.lines := by
  unfold grant at h
  cases hpricing : r.pricing <;> rw [hpricing] at h <;>
    obtain ⟨discount, -, h⟩ := bind_eq_ok_iff.1 h <;>
    obtain rfl := pure_eq_ok_iff.1 h <;>
    exact Grant.fitsLines_all he trivial

theorem Cashback.fitsLines_of_grant {r : Cashback} (h : r.grant b = .ok g) :
    g.FitsLines b.lines := by
  obtain ⟨_, -, h⟩ := bind_eq_ok_iff.1 h
  obtain ⟨_, -, h⟩ := bind_eq_ok_iff.1 h
  obtain ⟨discount, -, h⟩ := bind_eq_ok_iff.1 h
  obtain rfl := pure_eq_ok_iff.1 h
  exact Grant.fitsLines_all he trivial

theorem PaymentDiscount.fitsLines_of_grant {r : PaymentDiscount} (h : r.grant b = .ok g) :
    g.FitsLines b.lines := by
  obtain ⟨_, -, h⟩ := bind_eq_ok_iff.1 h
  obtain ⟨_, -, h⟩ := bind_eq_ok_iff.1 h
  obtain ⟨discount, -, h⟩ := bind_eq_ok_iff.1 h
  obtain rfl := pure_eq_ok_iff.1 h
  exact Grant.fitsLines_all he trivial

theorem MixMatch.fitsLines_of_grant {r : MixMatch} (h : r.grant b = .ok g) :
    g.FitsLines b.lines := by
  obtain ⟨groups, hgroups, h⟩ := bind_eq_ok_iff.1 h
  obtain ⟨_, hcount, h⟩ := bind_eq_ok_iff.1 h
  obtain rfl := pure_eq_ok_iff.1 h
  have hne : b.lines.ofCategory b.catalog r.category ≠ [] := by
    intro hnil
    have hnone := lift_eq_ok_iff.1 hgroups
    rw [hnil, List.map_nil, groups_nil] at hnone
    rw [← Except.ok.inj hnone] at hcount
    cases require_eq_ok_iff.1 hcount
  exact Grant.fitsLines_of_sublist he List.filter_sublist (fun _ => hne) trivial

theorem Upsell.fitsLines_of_grant {r : Upsell} (h : r.grant b = .ok g) : g.FitsLines b.lines := by
  obtain ⟨_, -, h⟩ := bind_eq_ok_iff.1 h
  obtain ⟨price, hprice, h⟩ := bind_eq_ok_iff.1 h
  obtain rfl := pure_eq_ok_iff.1 h
  exact Grant.fitsLines_ofProduct he (orReject_eq_ok_iff.1 hprice) trivial

theorem TierBenefit.fitsLines_of_grant {t : TierBenefit} (h : t.grant b = .ok g) :
    g.FitsLines b.lines := by
  cases t with
  | percent points =>
    obtain ⟨discount, -, h⟩ := bind_eq_ok_iff.1 h
    obtain rfl := pure_eq_ok_iff.1 h
    exact Grant.fitsLines_all he trivial
  | amount value =>
    obtain rfl := pure_eq_ok_iff.1 h
    exact Grant.fitsLines_all he trivial
  | freeProduct product =>
    obtain ⟨price, hprice, h⟩ := bind_eq_ok_iff.1 h
    obtain rfl := pure_eq_ok_iff.1 h
    exact Grant.fitsLines_ofProduct he (orReject_eq_ok_iff.1 hprice) rfl
  | pointsMultiplier multiplier =>
    obtain rfl := pure_eq_ok_iff.1 h
    exact Grant.fitsLines_all he rfl

theorem ThresholdTier.fitsLines_of_grant {r : ThresholdTier} (h : r.grant b = .ok g) :
    g.FitsLines b.lines := by
  obtain ⟨tier, -, h⟩ := bind_eq_ok_iff.1 h
  exact TierBenefit.fitsLines_of_grant he h

/-- The benefit and the places are right in every formula. -/
theorem Rule.fitsLines_of_formula {rule : Rule} (h : rule.formula b = .ok g) :
    g.FitsLines b.lines := by
  cases rule with
  | percentDiscount r => exact PercentDiscount.fitsLines_of_grant he h
  | amountDiscount r => exact AmountDiscount.fitsLines_of_grant he h
  | buyXGetY r => exact BuyXGetY.fitsLines_of_grant he h
  | combo r => exact Combo.fitsLines_of_grant he h
  | freeItem r => exact FreeItem.fitsLines_of_grant he h
  | happyHour r => exact HappyHour.fitsLines_of_grant he h
  | cashback r => exact Cashback.fitsLines_of_grant he h
  | paymentDiscount r => exact PaymentDiscount.fitsLines_of_grant he h
  | package r => exact Package.fitsLines_of_grant h
  | mixMatch r => exact MixMatch.fitsLines_of_grant he h
  | upsell r => exact Upsell.fitsLines_of_grant he h
  | thresholdTier r => exact ThresholdTier.fitsLines_of_grant he h

theorem Rule.fitsLines_of_grant {rule : Rule} (h : rule.grant b = .ok g) :
    g.FitsLines b.lines := by
  obtain ⟨raw, hraw, h⟩ := bind_eq_ok_iff.1 h
  obtain rfl := pure_eq_ok_iff.1 h
  exact (fitsLines_of_formula he hraw).clamp b.base

end Formulas

/-! ## Selected lines -/

/-- The document takes a line: any line if it is for the bill as a whole, and otherwise those that
its targeting selects. -/
def Document.takes (d : Document) (ctx : Context) (line : BillLine) : Bool :=
  d.targeting.applyTo.isBillScoped || d.targeting.selects ctx.catalog line

/-- What all units of the lines cost that the document takes. -/
def Document.eligibleCost (d : Document) (ctx : Context) : Int :=
  ((ctx.bill.lines.filter (d.takes ctx)).map fun line =>
    line.unitPrice.toInt * (line.quantity.toNat : Int)).sum

section Select

variable {d : Document} {ctx : Context} {e : EligibleLines}

theorem EligibleLines.lines_of_select (h : select d.targeting ctx.bill ctx.catalog = .ok e) :
    e.lines = ctx.bill.placedLines.filter fun p => d.takes ctx p.line :=
  lines_of_ofLines h

theorem EligibleLines.mem_indicesOf_filter_iff (h : select d.targeting ctx.bill ctx.catalog = .ok e)
    (keep : BillLine → Bool) (i : Nat) :
    i ∈ indicesOf (e.lines.filter fun p => keep p.line) ↔
      ∃ line, ctx.bill.lines[i]? = some line ∧ d.takes ctx line = true ∧ keep line = true := by
  rw [lines_of_select h, indicesOf, List.mem_map]
  constructor
  · rintro ⟨p, hp, rfl⟩
    obtain ⟨hp, hkeep⟩ := List.mem_filter.1 hp
    obtain ⟨hp, htakes⟩ := List.mem_filter.1 hp
    exact ⟨p.line, mem_placedLines_iff.1 hp, htakes, hkeep⟩
  · rintro ⟨line, hline, htakes, hkeep⟩
    have hp : (⟨i, line⟩ : PlacedLine) ∈ ctx.bill.placedLines := mem_placedLines_iff.2 hline
    exact ⟨⟨i, line⟩, List.mem_filter.2 ⟨List.mem_filter.2 ⟨hp, htakes⟩, hkeep⟩, rfl⟩

theorem EligibleLines.mem_indices_iff (h : select d.targeting ctx.bill ctx.catalog = .ok e)
    (i : Nat) :
    i ∈ e.indices ↔ ∃ line, ctx.bill.lines[i]? = some line ∧ d.takes ctx line = true := by
  have hall := mem_indicesOf_filter_iff h (fun _ => true) i
  rw [List.filter_true] at hall
  exact hall.trans (by simp only [and_true])

theorem EligibleLines.arePlaced_of_select (h : select d.targeting ctx.bill ctx.catalog = .ok e) :
    e.ArePlaced := by
  have hall : (ctx.bill.placedLines.map (·.index)).Pairwise (· < ·) := by
    rw [Bill.placedLines, List.map_map]
    exact (List.zipIdx_map_snd 0 ctx.bill.lines).symm ▸ List.pairwise_lt_range'
  rw [ArePlaced, indices, lines_of_select h]
  exact hall.sublist (List.filter_sublist.map _)

theorem EligibleLines.subtotal_eq_eligibleCost
    (h : select d.targeting ctx.bill ctx.catalog = .ok e) :
    e.subtotal.toInt = d.eligibleCost ctx := by
  rw [subtotal_of_ofLines h, lines_of_select h, Document.eligibleCost,
    ← ctx.bill.map_line_filter (d.takes ctx), List.map_map]
  rfl

end Select

/-! ## Verdicts -/

/-- What goes together in a grant of a document. -/
structure Grant.IsWellFormed (g : Grant) (d : Document) (ctx : Context) : Prop where
  nonneg : 0 ≤ g.discount.toInt
  le_cost : g.discount.toInt ≤ max 0 (d.eligibleCost ctx)
  le_left : d.targeting.applyTo.isBillScoped = true →
    g.discount.toInt ≤ max 0 (d.eligibleCost ctx - max 0 ctx.priorDiscount.toInt)
  ascending : g.affected.Pairwise (· < ·)
  taken : ∀ i ∈ g.affected, ∃ line, ctx.bill.lines[i]? = some line ∧ d.takes ctx line = true
  nonempty : d.targeting.applyTo.isBillScoped = false → g.affected ≠ []
  pointsMultiplier : ∀ multiplier, g.benefit = .pointsMultiplier multiplier → g.discount = 0
  freeProduct : ∀ product, g.benefit = .freeProduct product → ∀ i, i ∈ g.affected ↔
    ∃ line, ctx.bill.lines[i]? = some line ∧ d.takes ctx line = true ∧ line.product = product

/-- Whatever stands in a document and on a bill, what is granted goes together. -/
theorem Document.evaluate_wellFormed {d : Document} {ctx : Context} {g : Grant}
    (h : (d.evaluate ctx).verdict = .eligible g) : g.IsWellFormed d ctx := by
  obtain ⟨e, hpasses, hgrant⟩ := judge_eq_ok_iff.1 (verdict_eq_eligible_iff.1 h)
  have hselect := hpasses.select
  have he : e.ArePlaced := EligibleLines.arePlaced_of_select hselect
  have hfits := Rule.fitsLines_of_grant he hgrant
  obtain ⟨hnonneg, hle⟩ := Rule.discount_of_grant hgrant
  replace hle : g.discount.toInt ≤ max 0 (d.base ctx e).toInt := hle
  have hbase := d.toInt_base ctx e
  rw [EligibleLines.subtotal_eq_eligibleCost hselect] at hbase
  have hbenefit := hfits.benefit
  refine ⟨hnonneg, ?_, fun hbill => ?_, hfits.ascending,
    fun i hi => (EligibleLines.mem_indices_iff hselect i).1 (hfits.subset hi), fun hlines => ?_,
    fun multiplier hpoints => ?_, fun product hfree i => ?_⟩
  · split at hbase <;> omega
  · rw [if_pos hbill] at hbase
    omega
  · refine hfits.nonempty fun hnil => ?_
    have htargeting := require_eq_ok_iff.1 hpasses.targeting
    rw [hlines, EligibleLines.isEmpty, hnil] at htargeting
    cases htargeting
  · rw [hpoints] at hbenefit
    exact hbenefit
  · rw [hfree] at hbenefit
    rw [hbenefit, EligibleLines.ofProduct,
      EligibleLines.mem_indicesOf_filter_iff hselect fun line => decide (line.product = product)]
    simp only [decide_eq_true_eq]

/-- A unit of the second product, free of charge, goes together with its price and its line. -/
theorem Document.evaluate_wellFormed_shop :
    let d := { Sample.document 1 "A" 0 (Sample.policy .itemLevel) with
      rule := .freeItem ⟨some (Sample.id 1), 2, some (Sample.id 2), 1⟩
      targeting := ⟨.all, .empty, .empty, .empty, .empty⟩ }
    let g : Grant := ⟨Sample.amount 20, .freeProduct (Sample.id 2), [1]⟩
    (d.evaluate Sample.context).verdict = .eligible g ∧ d.eligibleCost Sample.context = 100 ∧
      g.IsWellFormed d Sample.context := by
  intro d g
  have hverdict : (d.evaluate Sample.context).verdict = .eligible g := by decide +kernel
  exact ⟨hverdict, by decide +kernel, evaluate_wellFormed hverdict⟩

end Promotions

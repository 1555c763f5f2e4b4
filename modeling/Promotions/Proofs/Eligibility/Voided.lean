import Promotions.Proofs.Eligibility.BrandSpend
import Promotions.Proofs.Eligibility.Layout
import Promotions.Proofs.Eligibility.Lines
import Promotions.Proofs.Eligibility.Places
import Promotions.Proofs.Grouping.Units

/-!
# Proofs: voided lines

A voided line has no units. It adds nothing to any total, and a formula finds nothing on it, so it
can be taken off a bill without a change to the verdict. There are two exceptions, where lines
themselves are counted: the least number of lines of a promotion for the bill as a whole, and the
brands that have to be on the receipt.
-/

namespace Promotions

open Fallible Judged

/-! ## Lines without units -/

/-- The line has units. -/
def BillLine.hasUnits (line : BillLine) : Bool := line.quantity != 0

theorem BillLine.quantity_of_voided {line : BillLine} (h : ¬line.hasUnits = true) :
    line.quantity = 0 := by
  simpa [hasUnits] using h

namespace Amount

theorem times_zero (a : Amount) : a.times 0 = .ok 0 :=
  times_eq_ok_iff.2 (Int.mul_zero _).symm

theorem add_zero (a : Amount) : a.add 0 = .ok a :=
  add_eq_ok_iff.2 (Int.add_zero _).symm

end Amount

theorem Count.addSat_zero (a : Count) : Count.addSat a 0 = a := by
  have hle : a.toNat ≤ 4294967295 := Nat.le_of_lt_succ a.toNat_lt
  refine UInt32.toNat_inj.1 ?_
  rw [addSat, toNat_saturate]
  exact Nat.min_eq_left hle

theorem BillLine.amount_of_voided {line : BillLine} (h : ¬line.hasUnits = true) :
    line.amount = .ok 0 := by
  rw [amount, quantity_of_voided h]
  exact line.unitPrice.times_zero

section Lines

variable (lines : List BillLine)

theorem totalOf_hasUnits : totalOf lines = totalOf (lines.filter BillLine.hasUnits) := by
  have hamounts : Alike (fun as as' => ∀ total : Amount, as.foldlM Amount.add total =
      as'.foldlM Amount.add total) (lines.mapM BillLine.amount)
        ((lines.filter BillLine.hasUnits).mapM BillLine.amount) := by
    induction lines with
    | nil => exact .ok fun _ => rfl
    | cons line lines ih =>
      by_cases hunits : line.hasUnits = true
      · rw [List.filter_cons_of_pos hunits, List.mapM_cons, List.mapM_cons]
        refine .bind_same _ fun price => ih.bind fun as as' hsame => .ok fun total => ?_
        rw [List.foldlM_cons, List.foldlM_cons]
        exact congrArg _ (funext hsame)
      · rw [List.filter_cons_of_neg hunits, List.mapM_cons, line.amount_of_voided hunits, ok_bind,
          ← bind_pure ((lines.filter BillLine.hasUnits).mapM BillLine.amount)]
        refine ih.bind fun as as' hsame => .ok fun total => ?_
        rw [List.foldlM_cons, total.add_zero]
        exact hsame total
  exact (hamounts.bind fun as as' hsame => Alike.of_eq (hsame 0)).eq

theorem sum_quantity_hasUnits : Count.sum (lines.map (·.quantity)) =
    Count.sum ((lines.filter BillLine.hasUnits).map (·.quantity)) := by
  rw [Count.sum, Count.sum]
  generalize (0 : Count) = total
  induction lines generalizing total with
  | nil => rfl
  | cons line lines ih =>
    by_cases hunits : line.hasUnits = true
    · rw [List.filter_cons_of_pos hunits]
      exact ih _
    · rw [List.filter_cons_of_neg hunits, List.map_cons, List.foldl_cons,
        BillLine.quantity_of_voided hunits, Count.addSat_zero]
      exact ih total

theorem savingsAbove_hasUnits (price : Amount) :
    savingsAbove price lines = savingsAbove price (lines.filter BillLine.hasUnits) := by
  rw [savingsAbove, savingsAbove]
  generalize (0 : Amount) = total
  induction lines generalizing total with
  | nil => rfl
  | cons line lines ih =>
    by_cases hunits : line.hasUnits = true
    · rw [List.filter_cons_of_pos hunits, List.foldlM_cons, List.foldlM_cons]
      exact congrArg _ (funext ih)
    · rw [List.filter_cons_of_neg hunits, List.foldlM_cons, BillLine.quantity_of_voided hunits,
        show (0 : Count).toNat = 0 from rfl, Amount.times_zero, ok_bind, Amount.add_zero, ok_bind]
      exact ih total

theorem ofLines_hasUnits :
    UnitRuns.ofLines lines = UnitRuns.ofLines (lines.filter BillLine.hasUnits) := by
  have hagain : (lines.filter BillLine.hasUnits).filter (fun line => line.quantity != 0) =
      lines.filter fun line => line.quantity != 0 := by
    rw [List.filter_filter]
    exact List.filter_congr fun line _ => Bool.and_self _
  rw [UnitRuns.ofLines, UnitRuns.ofLines, hagain]

/-- Lines without units can be left out of all that formulas read. -/
theorem linesAlike_hasUnits : LinesAlike lines (lines.filter BillLine.hasUnits) where
  units := sum_quantity_hasUnits lines
  cheapest := by
    rw [cheapestUnit?, cheapestUnit?, List.filter_filter]
    congr 2
    exact List.filter_congr fun line _ => (Bool.and_self _).symm
  savings := savingsAbove_hasUnits lines
  runUnits := by rw [ofLines_hasUnits]
  taken count := by rw [ofLines_hasUnits]
  groups r := by
    refine MixMatch.groups_congr (by rw [ofLines_hasUnits]) fun product => ?_
    rw [ofLines_hasUnits, List.filter_comm]

end Lines

/-! ## Eligible lines -/

/-- The bill without its voided lines. -/
def Context.withoutVoided (ctx : Context) : Context :=
  ctx.withLines (ctx.bill.lines.filter BillLine.hasUnits)

namespace Bill

/-- A line at its place on the bill without the voided lines. -/
def moveUp (bill : Bill) (p : PlacedLine) : PlacedLine :=
  ⟨keptBefore BillLine.hasUnits bill.lines p.index, p.line⟩

/-- The place of a line on the bill without the voided lines; these have none. -/
def placeWithoutVoided? (bill : Bill) : Nat → Option Nat :=
  placeAmong? BillLine.hasUnits bill.lines

end Bill

namespace EligibleLines

/-- Eligible lines, and what they are on the bill without its voided lines. -/
structure Without (bill : Bill) (e e' : EligibleLines) : Prop where
  ofBill : ∀ p ∈ e.lines, p ∈ bill.placedLines
  lines : e'.lines = (e.lines.filter fun p => p.line.hasUnits).map bill.moveUp
  subtotal : e.subtotal = e'.subtotal
  quantity : e.quantity = e'.quantity

namespace Without

variable {bill : Bill} {e e' : EligibleLines}

theorem linesOf (h : Without bill e e') (keep : ProductId → Bool) :
    e'.linesOf keep = (e.linesOf keep).filter BillLine.hasUnits := by
  rw [EligibleLines.linesOf, EligibleLines.linesOf, h.lines, List.filter_map, List.map_map,
    List.filter_comm, List.filter_map]
  rfl

theorem placesOf (h : Without bill e e') (keep : ProductId → Bool) :
    (e.placesOf keep).filterMap bill.placeWithoutVoided? = e'.placesOf keep := by
  have hofBill : ∀ p ∈ e.lines.filter fun p => keep p.line.product, p ∈ bill.placedLines :=
    fun p hp => h.ofBill p (List.mem_filter.1 hp).1
  rw [EligibleLines.placesOf, EligibleLines.placesOf, Bill.placeWithoutVoided?,
    filterMap_placeAmong? hofBill, h.lines, List.filter_map, indicesOf, List.map_map,
    List.filter_comm]
  rfl

theorem like (h : Without bill e e') : e.Like (MeetAt bill.placeWithoutVoided? some) e' where
  subtotal := h.subtotal
  quantity := h.quantity
  lines keep := h.linesOf keep ▸ linesAlike_hasUnits _
  places keep := by
    rw [MeetAt, List.filterMap_some]
    exact h.placesOf keep

end Without

/-- What is selected of the bill without its voided lines is what was selected, without them. -/
theorem select_withoutVoided (t : Targeting) (ctx : Context) :
    Alike (Without ctx.bill) (select t ctx.bill ctx.catalog)
      (select t ctx.withoutVoided.bill ctx.catalog) := by
  let selected := ctx.bill.placedLines.filter fun p =>
    t.applyTo.isBillScoped || t.selects ctx.catalog p.line
  let rest := (selected.filter fun p => p.line.hasUnits).map ctx.bill.moveUp
  have hplaced : ctx.withoutVoided.bill.placedLines =
      (ctx.bill.placedLines.filter fun p => p.line.hasUnits).map ctx.bill.moveUp :=
    placedLines_filter ctx.bill BillLine.hasUnits
  have hselect : select t ctx.withoutVoided.bill ctx.catalog = ofLines rest := by
    rw [select, hplaced, List.filter_map, List.filter_comm]
    rfl
  have hlines : rest.map (·.line) = (selected.map (·.line)).filter BillLine.hasUnits := by
    rw [List.filter_map, List.map_map]
    rfl
  have hquantity : Count.sum (selected.map (·.line.quantity)) =
      Count.sum (rest.map (·.line.quantity)) := by
    have hsum := sum_quantity_hasUnits (selected.map (·.line))
    rw [← hlines, List.map_map, List.map_map] at hsum
    exact hsum
  rw [hselect, select, ofLines_eq, ofLines_eq, hlines, ← totalOf_hasUnits]
  cases totalOf (selected.map (·.line)) with
  | error e => exact .error e
  | ok subtotal =>
    exact .ok ⟨fun p hp => (List.mem_filter.1 hp).1, rfl, rfl, hquantity⟩

end EligibleLines

/-- Only lines with units are targeted. -/
theorem Targeting.hasUnits_of_selects {t : Targeting} {catalog : Catalog} {line : BillLine}
    (h : t.selects catalog line = true) : line.hasUnits = true := by
  by_contra hvoided
  rw [selects, BillLine.quantity_of_voided hvoided] at h
  simp at h

/-! ### Units granted on one line -/

namespace BuyXGetY

variable {r : BuyXGetY}

theorem freeUnits_of_voided {line : BillLine} (h : ¬line.hasUnits = true) :
    r.freeUnits line = 0 := by
  rw [freeUnits, BillLine.quantity_of_voided h]
  split
  · rfl
  · rw [UInt32.zero_div]
    refine UInt32.toNat_inj.1 ?_
    rw [Count.mulSat, Count.toNat_saturate]
    simp

/-- Which line is the cheapest does not depend on where the lines stand. -/
theorem foldl_cheaper_map (move : PlacedLine → PlacedLine) (hmove : ∀ p, (move p).line = p.line)
    (placed : List PlacedLine) (best : Option PlacedLine) :
    (placed.map move).foldl cheaper (best.map move) = (placed.foldl cheaper best).map move := by
  induction placed generalizing best with
  | nil => rfl
  | cons p placed ih =>
    have hstep : cheaper (best.map move) (move p) = (cheaper best p).map move := by
      cases best with
      | none => rfl
      | some q =>
        simp only [Option.map_some, cheaper, hmove]
        split <;> rfl
    rw [List.map_cons, List.foldl_cons, hstep, List.foldl_cons]
    exact ih _

theorem grantSame_withoutVoided {bill : Bill} {b b' : Basis}
    (h : EligibleLines.Without bill b.lines b'.lines) :
    GrantsAlike (MeetAt bill.placeWithoutVoided? some) (r.grantSame b) (r.grantSame b') := by
  have hearning : b'.lines.lines.filter (fun p => r.freeUnits p.line != 0) =
      (b.lines.lines.filter fun p => r.freeUnits p.line != 0).map bill.moveUp := by
    rw [h.lines, List.filter_map, List.filter_filter]
    refine congrArg _ (List.filter_congr fun p _ => ?_)
    by_cases hunits : p.line.hasUnits = true
    · rw [hunits, Bool.and_true]
      rfl
    · rw [freeUnits_of_voided hunits]
      simp [Bill.moveUp, freeUnits_of_voided hunits]
  have hcheapest := foldl_cheaper_map bill.moveUp (fun _ => rfl)
    (b.lines.lines.filter fun p => r.freeUnits p.line != 0) none
  rw [grantSame, grantSame, hearning,
    show (none : Option PlacedLine) = none.map bill.moveUp from rfl, hcheapest, Option.map_none]
  cases hfold : (b.lines.lines.filter fun p => r.freeUnits p.line != 0).foldl cheaper none with
  | none => exact .error _
  | some p =>
    have hearns : p ∈ b.lines.lines.filter fun p => r.freeUnits p.line != 0 :=
      mem_of_foldl_cheaper hfold
    obtain ⟨hp, hfree⟩ := List.mem_filter.1 hearns
    have hunits : p.line.hasUnits = true := by
      by_contra hvoided
      rw [freeUnits_of_voided hvoided] at hfree
      cases hfree
    have hplace : bill.placeWithoutVoided? p.index = some (bill.moveUp p).index := by
      rw [Bill.placeWithoutVoided?, placeAmong?_of_mem_placedLines _ (h.ofBill p hp), if_pos hunits]
      rfl
    refine .bind_same _ fun value => .bind_same _ fun discount => .ok ⟨rfl, rfl, ?_⟩
    rw [MeetAt, List.filterMap_some, List.filterMap_cons, hplace]
    rfl

end BuyXGetY

/-! ## Brands on the receipt -/

namespace BrandSpend

theorem foldlM_withoutVoided (ctx : Context) (lines : List BillLine) {s s' : BrandSpend}
    (h : ∀ brand, s.amountAt brand = s'.amountAt brand) :
    Alike (fun s s' => ∀ brand, BrandSpend.amountAt s brand = BrandSpend.amountAt s' brand)
      (lines.foldlM (addLine ctx) s)
      ((lines.filter BillLine.hasUnits).foldlM (addLine ctx) s') := by
  induction lines generalizing s s' with
  | nil => exact .ok h
  | cons line lines ih =>
    by_cases hunits : line.hasUnits = true
    · rw [List.filter_cons_of_pos hunits, List.foldlM_cons, List.foldlM_cons, addLine, addLine, h]
      simp only [bind_assoc]
      refine .bind_same _ fun price => .bind_same _ fun total => ih fun brand => ?_
      rw [amountAt_insert, amountAt_insert, h]
    · have hsame (brand : BrandId) : BrandSpend.amountAt
          (s.insert (ctx.brandOf line) (s.amountAt (ctx.brandOf line))) brand =
            s.amountAt brand := by
        rw [amountAt_insert]
        split
        · rename_i heq
          rw [heq]
        · rfl
      rw [List.filter_cons_of_neg hunits, List.foldlM_cons, addLine, line.amount_of_voided hunits,
        ok_bind, Amount.add_zero, ok_bind]
      exact ih fun brand => (hsame brand).trans (h brand)

/-- Without the voided lines as much is spent at each brand. -/
theorem onBill_withoutVoided (ctx : Context) :
    Alike (fun s s' => ∀ brand, BrandSpend.amountAt s brand = BrandSpend.amountAt s' brand)
      (onBill ctx) (onBill ctx.withoutVoided) :=
  foldlM_withoutVoided ctx ctx.bill.lines fun _ => rfl

end BrandSpend

namespace CrossBrand

variable {c : CrossBrand} {ctx : Context}

/-- A brand that counts is on the receipt with voided lines only. -/
def HasVoidedBrand (c : CrossBrand) (ctx : Context) : Prop :=
  ∃ line ∈ ctx.bill.lines, c.isTrigger (ctx.brandOf line) = true ∧
    ∀ other ∈ ctx.bill.lines, ctx.brandOf other = ctx.brandOf line → other.quantity = 0

/-- The brands on the receipt are counted, and one that counts has voided lines only. -/
def RestsOnVoided (c : CrossBrand) (ctx : Context) : Prop :=
  (c.kind = .crossBrandBundle ∨ c.kind = .sameReceipt) ∧ c.HasVoidedBrand ctx

section Receipt

variable {s s' : BrandSpend} (hs : BrandSpend.onBill ctx = .ok s)
  (hs' : BrandSpend.onBill ctx.withoutVoided = .ok s')

include hs hs'

theorem mem_keys_of_withoutVoided {brand : BrandId} (h : brand ∈ s'.keys) : brand ∈ s.keys := by
  obtain ⟨line, hline, rfl⟩ := (BrandSpend.mem_keys_onBill hs' brand).1 h
  exact (BrandSpend.mem_keys_onBill hs _).2 ⟨line, (List.mem_filter.1 hline).1, rfl⟩

theorem mem_keys_withoutVoided (hnone : ¬c.HasVoidedBrand ctx) {brand : BrandId}
    (htrigger : c.isTrigger brand = true) : brand ∈ s.keys ↔ brand ∈ s'.keys := by
  refine ⟨fun h => ?_, mem_keys_of_withoutVoided hs hs'⟩
  obtain ⟨line, hline, rfl⟩ := (BrandSpend.mem_keys_onBill hs brand).1 h
  by_contra hgone
  refine hnone ⟨line, hline, htrigger, fun other hother hbrand => ?_⟩
  by_contra hunits
  refine hgone ((BrandSpend.mem_keys_onBill hs' _).2
    ⟨other, List.mem_filter.2 ⟨hother, ?_⟩, hbrand⟩)
  exact bne_iff_ne.2 hunits

/-- The number of brands that count can only become smaller, and only if one had voided lines only.
-/
theorem enough_withoutVoided (least : Nat) :
    decide (least ≤ (s.keys.filter c.isTrigger).length) =
        decide (least ≤ (s'.keys.filter c.isTrigger).length) ∨
      decide (least ≤ (s'.keys.filter c.isTrigger).length) = false ∧ c.HasVoidedBrand ctx := by
  by_cases hvoided : c.HasVoidedBrand ctx
  · have hsub : s'.keys.filter c.isTrigger ⊆ s.keys.filter c.isTrigger := fun brand hbrand =>
      List.mem_filter.2 ⟨mem_keys_of_withoutVoided hs hs' (List.mem_filter.1 hbrand).1,
        (List.mem_filter.1 hbrand).2⟩
    have hnodup : (s'.keys.filter c.isTrigger).Nodup :=
      (SortedSet.nodup_toList s'.keySet).filter _
    have hle := (List.subperm_of_subset hnodup hsub).length_le
    by_cases henough : least ≤ (s'.keys.filter c.isTrigger).length
    · exact .inl ((decide_eq_true (Nat.le_trans henough hle)).trans (decide_eq_true henough).symm)
    · exact .inr ⟨decide_eq_false henough, hvoided⟩
  · have hkeys : s.keys.filter c.isTrigger = s'.keys.filter c.isTrigger :=
      SortedSet.filter_toList_congr (s := s.keySet) (t := s'.keySet) fun brand =>
        and_congr_left fun htrigger => mem_keys_withoutVoided hs hs' hvoided htrigger
    exact .inl (by rw [hkeys])

theorem allTriggers_withoutVoided :
    (c.triggerBrands.toList.all fun brand => s.keys.contains brand) =
        (c.triggerBrands.toList.all fun brand => s'.keys.contains brand) ∨
      (c.triggerBrands.toList.all fun brand => s'.keys.contains brand) = false ∧
        c.HasVoidedBrand ctx := by
  by_cases hvoided : c.HasVoidedBrand ctx
  · cases hall : c.triggerBrands.toList.all fun brand => s'.keys.contains brand with
    | true =>
      refine .inl (List.all_eq_true.2 fun brand hbrand => ?_)
      have hkept := List.all_eq_true.1 hall brand hbrand
      exact List.contains_iff_mem.2
        (mem_keys_of_withoutVoided hs hs' (List.contains_iff_mem.1 hkept))
    | false => exact .inr ⟨rfl, hvoided⟩
  · refine .inl (Bool.eq_iff_iff.2 ?_)
    simp only [List.all_eq_true, List.contains_iff_mem]
    refine forall₂_congr fun brand hbrand => mem_keys_withoutVoided hs hs' hvoided ?_
    exact Bool.or_eq_true_iff.2 (.inr (decide_eq_true hbrand))

end Receipt

/-- Without the voided lines the condition across brands holds as it did, unless it rested on them.
-/
theorem isMet_withoutVoided (c : CrossBrand) (ctx : Context) :
    Alike (fun met met' => met = met' ∨ met' = false ∧ c.RestsOnVoided ctx) (c.isMet ctx)
      (c.isMet ctx.withoutVoided) := by
  rw [isMet, isMet]
  obtain ⟨s, s', hs, hs', hsame⟩ | ⟨e, hs, hs'⟩ :=
    (BrandSpend.onBill_withoutVoided ctx).ok_or_error
  · rw [hs, hs', ok_bind, ok_bind]
    cases hkind : c.kind with
    | triggerBenefit =>
      have htrigger : c.triggerMet ctx s = c.triggerMet ctx.withoutVoided s' := by
        rw [triggerMet, spendAt_congr ctx hsame]
        rfl
      exact (Alike.of_eq htrigger).mono fun _ _ => .inl
    | multiBrandSpend =>
      have hmulti : c.multiBrandMet ctx s = c.multiBrandMet ctx.withoutVoided s' :=
        c.multiBrandMet_congr ctx hsame
      exact (Alike.of_eq hmulti).mono fun _ _ => .inl
    | crossBrandBundle =>
      dsimp only
      split
      · rename_i hempty
        have hall (keys : List BrandId) : keys.filter c.isTrigger = keys :=
          List.filter_eq_self.2 fun brand _ => by rw [isTrigger, hempty, Bool.true_or]
        have hsize (s : BrandSpend) : s.size = (s.keys.filter c.isTrigger).length := by
          rw [hall, SortedMap.keys, List.length_map, SortedMap.size]
        rw [hsize, hsize]
        exact .ok ((enough_withoutVoided hs hs' _).imp_right fun h => ⟨h.1, .inl hkind, h.2⟩)
      · exact .ok ((allTriggers_withoutVoided hs hs').imp_right fun h => ⟨h.1, .inl hkind, h.2⟩)
    | sameReceipt =>
      exact .ok ((enough_withoutVoided hs hs' _).imp_right fun h => ⟨h.1, .inr hkind, h.2⟩)
    | loyaltyAccumulate => exact .ok (.inl rfl)
  · rw [hs, hs']
    exact .error e

end CrossBrand

/-! ## Documents -/

namespace Document

variable {d : Document} {ctx : Context}

/-- Lines are counted, and the voided ones are needed. -/
def RestsOnVoided (d : Document) (ctx : Context) : Prop :=
  d.targeting.applyTo.isBillScoped = true ∧
    (ctx.bill.lines.filter BillLine.hasUnits).length < d.requirements.minItems.toNat ∧
    d.requirements.minItems.toNat ≤ ctx.bill.lines.length

/-- What a bill can be rejected for only when its voided lines are taken off. -/
def RejectsWithoutVoided (d : Document) (ctx : Context) (reason : Reason) : Prop :=
  (reason = .crossBrandConditionNotMet ∧ ∃ c, d.crossBrand = some c ∧ c.RestsOnVoided ctx) ∨
    reason = .minItemsNotMet ∧ d.RestsOnVoided ctx

theorem scopeGate_withoutVoided (d : Document) (ctx : Context) :
    AlikeUnless (d.RejectsWithoutVoided ctx) (fun _ _ => True) (d.scopeGate ctx)
      (d.scopeGate ctx.withoutVoided) := by
  rw [scopeGate, scopeGate]
  refine .bind_same _ fun _ => .bind_same _ fun _ => .bind_same _ fun _ => ?_
  cases hcross : d.crossBrand with
  | none => exact .inr (.ok trivial)
  | some c =>
    refine AlikeUnless.bind (.inr (liftM_alike (c.isMet_withoutVoided ctx))) ?_
    rintro met met' (rfl | ⟨rfl, hvoided⟩)
    · exact .inr ((Alike.refl _).mono fun _ _ _ => trivial)
    · exact .inl ⟨.crossBrandConditionNotMet, .inl ⟨rfl, c, hcross, hvoided⟩, rfl⟩

theorem fareAlike_withoutVoided {e e' : EligibleLines} (h : EligibleLines.Without ctx.bill e e')
    (he : e.lines = ctx.bill.placedLines.filter fun p =>
      d.targeting.applyTo.isBillScoped || d.targeting.selects ctx.catalog p.line) :
    d.FareAlike (d.RejectsWithoutVoided ctx) (MeetAt ctx.bill.placeWithoutVoided? some) e e' := by
  have hsize : e'.size = (e.lines.filter fun p => p.line.hasUnits).length := by
    rw [EligibleLines.size, h.lines, List.length_map]
  have hitems : d.targeting.applyTo.isBillScoped = false →
      e.lines.filter (fun p => p.line.hasUnits) = e.lines := by
    intro hscope
    refine List.filter_eq_self.2 fun p hp => ?_
    have hselected : d.targeting.selects ctx.catalog p.line = true := by
      rw [he, hscope] at hp
      exact (List.mem_filter.1 hp).2
    exact Targeting.hasUnits_of_selects hselected
  have hbill : d.targeting.applyTo.isBillScoped = true → e.size = ctx.bill.lines.length ∧
      e'.size = (ctx.bill.lines.filter BillLine.hasUnits).length := by
    intro hscope
    have hall : e.lines = ctx.bill.placedLines := by
      rw [he, hscope]
      exact List.filter_true _
    have hlines := ctx.bill.map_line_placedLines
    refine ⟨by rw [EligibleLines.size, hall, ← hlines, List.length_map], ?_⟩
    rw [hsize, hall, ← hlines, List.filter_map, List.length_map]
    rfl
  refine ⟨h.like, ?_, ?_, fun r _ _ b b' hb hb' => ?_⟩
  · rw [targetingGate, targetingGate]
    cases hscope : d.targeting.applyTo.isBillScoped with
    | true => rfl
    | false => rw [EligibleLines.isEmpty, EligibleLines.isEmpty, h.lines, List.isEmpty_map,
        hitems hscope]
  · rw [thresholdGate, thresholdGate, h.subtotal, h.quantity]
    refine .bind_same _ fun _ => .bind_same _ fun _ => ?_
    by_cases henough : d.requirements.minItems.toNat ≤ e'.size
    · have hmore : d.requirements.minItems.toNat ≤ e.size :=
        Nat.le_trans henough (hsize ▸ List.length_filter_le _ _)
      rw [require_of (decide_eq_true henough), require_of (decide_eq_true hmore)]
      exact .inr (.ok trivial)
    · by_cases hmore : d.requirements.minItems.toNat ≤ e.size
      · refine .inl ⟨.minItemsNotMet, .inr ⟨rfl, ?_⟩,
          require_of_not (mt of_decide_eq_true henough) _⟩
        cases hscope : d.targeting.applyTo.isBillScoped with
        | true =>
          obtain ⟨hlength, hlength'⟩ := hbill hscope
          exact ⟨hscope, hlength' ▸ Nat.lt_of_not_le henough, hlength ▸ hmore⟩
        | false =>
          rw [hsize, hitems hscope] at henough
          exact absurd hmore henough
      · rw [require_of_not (mt of_decide_eq_true henough),
          require_of_not (mt of_decide_eq_true hmore)]
        exact .inr (.error _)
  · exact BuyXGetY.grantSame_withoutVoided (hb ▸ hb' ▸ h)

/-- Taking the voided lines off a bill leaves the verdict as it was, the lines that are left being
at their new places. Else the bill is rejected without them because lines are counted: those of a
promotion for the bill as a whole are too few, or a brand that counts on the receipt had no others.
-/
theorem evaluate_withoutVoided (d : Document) (ctx : Context) :
    (d.evaluate ctx.withoutVoided).verdict =
        (d.evaluate ctx).verdict.mapPlaces (·.filterMap ctx.bill.placeWithoutVoided?) ∨
      ((d.evaluate ctx.withoutVoided).verdict = .ineligible .crossBrandConditionNotMet ∧
        ∃ c, d.crossBrand = some c ∧ c.RestsOnVoided ctx) ∨
      ((d.evaluate ctx.withoutVoided).verdict = .ineligible .minItemsNotMet ∧
        d.RestsOnVoided ctx) := by
  have hselect : Alike
      (d.FareAlike (d.RejectsWithoutVoided ctx) (MeetAt ctx.bill.placeWithoutVoided? some))
      (EligibleLines.select d.targeting ctx.bill ctx.catalog)
      (EligibleLines.select d.targeting ctx.withoutVoided.bill ctx.catalog) := by
    obtain ⟨e, e', he, he', h⟩ | ⟨e, he, he'⟩ :=
      (EligibleLines.select_withoutVoided d.targeting ctx).ok_or_error
    · rw [he, he']
      exact .ok (fareAlike_withoutVoided h (EligibleLines.lines_of_ofLines he))
    · rw [he, he']
      exact .error e
  have hR := placesRelation_meetAt (keepsOrder_placeAmong? BillLine.hasUnits ctx.bill.lines)
    keepsOrder_some
  obtain ⟨reason, hreason, hjudge⟩ | hjudge :=
    judge_alike hR (d.scopeGate_withoutVoided ctx) hselect
  · have hverdict : (d.evaluate ctx.withoutVoided).verdict = .ineligible reason := by
      rw [evaluate, Context.withoutVoided, hjudge]
      rfl
    obtain ⟨rfl, hcross⟩ | ⟨rfl, hitems⟩ := hreason
    · exact .inr (.inl ⟨hverdict, hcross⟩)
    · exact .inr (.inr ⟨hverdict, hitems⟩)
  · refine .inl ?_
    have hplaces := Verdict.mapPlaces_eq hjudge
    rw [Verdict.mapPlaces_of_same fun _ => List.filterMap_some] at hplaces
    exact hplaces.symm

/-- A promotion for two lines grants seventy for a line and a voided one, and nothing for the line
alone. So does a promotion for two brands if the voided line is of another brand. -/
theorem evaluate_counts_voided :
    (∃ (d : Document) (ctx : Context),
      (d.evaluate ctx).verdict = .eligible ⟨Sample.amount 70, .discount, [0, 1]⟩ ∧
      (d.evaluate ctx.withoutVoided).verdict = .ineligible .minItemsNotMet) ∧
    ∃ (d : Document) (ctx : Context),
      (d.evaluate ctx).verdict = .eligible ⟨Sample.amount 70, .discount, [0, 1]⟩ ∧
      (d.evaluate ctx.withoutVoided).verdict = .ineligible .crossBrandConditionNotMet := by
  let offer := Sample.document 1 "A" 70 (Sample.policy .cartLevel)
  let ctx := Sample.context.withLines [⟨Sample.id 1, none, 2, Sample.amount 40⟩,
    ⟨Sample.id 2, some (Sample.id 2), 0, Sample.amount 20⟩]
  have hitems : let d := { offer with requirements := ⟨0, 0, 2⟩ }
      (d.evaluate ctx).verdict = .eligible ⟨Sample.amount 70, .discount, [0, 1]⟩ ∧
      (d.evaluate ctx.withoutVoided).verdict = .ineligible .minItemsNotMet := by
    decide +kernel
  have hbrands : let d := { offer with crossBrand := some ⟨.sameReceipt, .empty, .empty, none, 2⟩ }
      (d.evaluate ctx).verdict = .eligible ⟨Sample.amount 70, .discount, [0, 1]⟩ ∧
      (d.evaluate ctx.withoutVoided).verdict = .ineligible .crossBrandConditionNotMet := by
    decide +kernel
  exact ⟨⟨_, ctx, hitems⟩, ⟨_, ctx, hbrands⟩⟩

end Document

end Promotions

import Mathlib.Data.List.Flatten
import Promotions.Proofs.Amounts
import Promotions.Proofs.Eligibility.Alike
import Promotions.Proofs.Grouping.UnitPrices
import Promotions.Proofs.StableOrder

/-!
# Proofs: what formulas read of lines

Lines are eligible together with the total of their prices. Where no price is negative there is a
total just if the prices of all units, one by one, come to what fits an amount. Everything else that
a formula reads of lines can be told from the prices of their units as well, and none of it is more
than the total.
-/

namespace Promotions

open Fallible

/-- The price of all lines. -/
def totalOf (lines : List BillLine) : Except ArithmeticError Amount :=
  lines.mapM BillLine.amount >>= Amount.sum

theorem Bill.subtotal_eq (b : Bill) : b.subtotal = totalOf b.lines := rfl

theorem Bill.map_line_placedLines (b : Bill) : b.placedLines.map (·.line) = b.lines := by
  rw [placedLines, List.map_map]
  exact List.zipIdx_map_fst 0 _

theorem Bill.map_line_filter (b : Bill) (keep : BillLine → Bool) :
    (b.placedLines.filter fun p => keep p.line).map (·.line) = b.lines.filter keep := by
  rw [← b.map_line_placedLines, List.filter_map]
  rfl

namespace UnitRuns

theorem pricesOfLines_cons (line : BillLine) (lines : List BillLine) :
    pricesOfLines (line :: lines) =
      List.replicate line.quantity.toNat line.unitPrice.toInt ++ pricesOfLines lines :=
  List.flatMap_cons

/-- The prices of units come to the same one by one and line by line, whatever is made of them. -/
theorem sum_map_pricesOfLines (f : Int → Int) (lines : List BillLine) :
    ((pricesOfLines lines).map f).sum =
      (lines.map fun line => f line.unitPrice.toInt * (line.quantity.toNat : Int)).sum := by
  induction lines with
  | nil => rfl
  | cons line lines ih =>
    rw [pricesOfLines_cons, List.map_append, List.sum_append, List.map_replicate,
      List.sum_replicate_int, ih, List.map_cons, List.sum_cons, Int.mul_comm]

theorem sum_pricesOfLines (lines : List BillLine) :
    (pricesOfLines lines).sum =
      (lines.map fun line => line.unitPrice.toInt * (line.quantity.toNat : Int)).sum := by
  have hsum := sum_map_pricesOfLines (fun p => p) lines
  rwa [List.map_id'] at hsum

theorem length_pricesOfLines (lines : List BillLine) :
    (pricesOfLines lines).length = (lines.map fun line => line.quantity.toNat).sum := by
  rw [pricesOfLines, List.length_flatMap]
  simp only [List.length_replicate]

theorem nonneg_of_mem_pricesOfLines {lines : List BillLine} (h : ∀ line ∈ lines, 0 ≤ line.unitPrice)
    {price : Int} (hprice : price ∈ pricesOfLines lines) : 0 ≤ price := by
  obtain ⟨line, hline, hprice⟩ := List.mem_flatMap.1 hprice
  rw [List.eq_of_mem_replicate hprice]
  exact h line hline

theorem cost_le_sum_pricesOfLines {lines : List BillLine} (h : ∀ line ∈ lines, 0 ≤ line.unitPrice)
    {line : BillLine} (hline : line ∈ lines) :
    line.unitPrice.toInt * (line.quantity.toNat : Int) ≤ (pricesOfLines lines).sum := by
  rw [sum_pricesOfLines]
  refine List.single_le_sum (List.forall_mem_map.2 fun line hline => ?_) _
    (List.mem_map_of_mem hline)
  exact Int.mul_nonneg (h line hline) (Int.natCast_nonneg _)

/-- Of lines without negative prices no part costs more than all. -/
theorem sum_pricesOfLines_filter_le {lines : List BillLine} (h : ∀ line ∈ lines, 0 ≤ line.unitPrice)
    (keep : BillLine → Bool) :
    (pricesOfLines (lines.filter keep)).sum ≤ (pricesOfLines lines).sum :=
  (List.filter_sublist.flatMap _).sum_le_sum fun _ => nonneg_of_mem_pricesOfLines h

end UnitRuns

open UnitRuns

theorem map_toInt_of_mapM_amount {lines : List BillLine} {amounts : List Amount}
    (h : lines.mapM BillLine.amount = .ok amounts) :
    amounts.map Amount.toInt =
      lines.map fun line => line.unitPrice.toInt * (line.quantity.toNat : Int) := by
  have heach := forall₂_of_mapM h
  clear h
  induction heach with
  | nil => rfl
  | cons hamount _ ih => rw [List.map_cons, List.map_cons, ih, Amount.times_eq_ok_iff.1 hamount]

/-- A total is what all units cost, whatever the prices. -/
theorem toInt_of_totalOf {lines : List BillLine} {total : Amount} (h : totalOf lines = .ok total) :
    total.toInt =
      (lines.map fun line => line.unitPrice.toInt * (line.quantity.toNat : Int)).sum := by
  obtain ⟨amounts, hamounts, hsum⟩ := bind_eq_ok_iff.1 h
  rw [← map_toInt_of_mapM_amount hamounts]
  rcases Amount.sum_cases amounts with ⟨total', htotal, hvalue⟩ | hoverflow
  · obtain rfl := Except.ok.inj (htotal.symm.trans hsum)
    exact hvalue
  · rw [hoverflow] at hsum
    cases hsum

/-- Without negative prices the total is exact, if it fits. -/
theorem totalOf_eq_checked {lines : List BillLine} (h : ∀ line ∈ lines, 0 ≤ line.unitPrice) :
    totalOf lines = Amount.checked (pricesOfLines lines).sum := by
  have hcost : ∀ line ∈ lines, 0 ≤ line.unitPrice.toInt * (line.quantity.toNat : Int) :=
    fun line hline => Int.mul_nonneg (h line hline) (Int.natCast_nonneg _)
  rw [totalOf]
  cases hamounts : lines.mapM BillLine.amount with
  | error e =>
    obtain ⟨line, hline, hoverflow⟩ := exists_of_mapM_error hamounts
    have hle := cost_le_sum_pricesOfLines h hline
    rw [error_bind, Amount.checked_of_overflow (hcost line hline) hle hoverflow]
  | ok amounts =>
    have hvalues := map_toInt_of_mapM_amount hamounts
    have hnonneg : ∀ a ∈ amounts, 0 ≤ a.toInt := by
      refine List.forall_mem_map.1 ?_
      rw [hvalues]
      exact List.forall_mem_map.2 hcost
    rw [ok_bind, Amount.sum_eq_checked hnonneg, hvalues, ← sum_pricesOfLines]

/-- No price of the lines is negative, and what they cost fits an amount. -/
structure Payable (lines : List BillLine) : Prop where
  prices : ∀ line ∈ lines, 0 ≤ line.unitPrice
  fits : (pricesOfLines lines).sum < 9223372036854775808

namespace Payable

variable {lines : List BillLine}

theorem filter (h : Payable lines) (keep : BillLine → Bool) : Payable (lines.filter keep) where
  prices line hline := h.prices line (List.mem_filter.1 hline).1
  fits := Int.lt_of_le_of_lt (sum_pricesOfLines_filter_le h.prices keep) h.fits

theorem sum_nonneg (h : Payable lines) : 0 ≤ (pricesOfLines lines).sum :=
  List.sum_nonneg fun _ hprice => nonneg_of_mem_pricesOfLines h.prices hprice

theorem of_totalOf (hprices : ∀ line ∈ lines, 0 ≤ line.unitPrice) {total : Amount}
    (h : totalOf lines = .ok total) : Payable lines := by
  rw [totalOf_eq_checked hprices] at h
  exact ⟨hprices, Amount.checked_eq_ok_iff.1 h ▸ total.upper⟩

theorem exists_totalOf (h : Payable lines) : ∃ total, totalOf lines = .ok total := by
  rw [totalOf_eq_checked h.prices]
  exact Amount.checked_ok h.sum_nonneg h.fits

end Payable

namespace EligibleLines

/-- Lines are eligible with the total of their prices, if it fits. -/
theorem ofLines_eq (lines : List PlacedLine) :
    ofLines lines = (totalOf (lines.map (·.line))).map fun subtotal =>
      { lines, subtotal, quantity := Count.sum (lines.map (·.line.quantity)) } := by
  rw [ofLines, totalOf, map_bind, List.mapM_map]
  rfl

theorem lines_of_ofLines {lines : List PlacedLine} {e : EligibleLines} (h : ofLines lines = .ok e) :
    e.lines = lines := by
  rw [ofLines_eq] at h
  obtain ⟨subtotal, -, rfl⟩ := map_eq_ok_iff.1 h
  rfl

/-- The subtotal of lines is what all their units cost. -/
theorem subtotal_of_ofLines {lines : List PlacedLine} {e : EligibleLines}
    (h : ofLines lines = .ok e) :
    e.subtotal.toInt =
      (e.lines.map fun p => p.line.unitPrice.toInt * (p.line.quantity.toNat : Int)).sum := by
  rw [ofLines_eq] at h
  obtain ⟨subtotal, hsubtotal, rfl⟩ := map_eq_ok_iff.1 h
  have hvalue := toInt_of_totalOf hsubtotal
  rwa [List.map_map] at hvalue

/-- The eligible lines of some products are those of the lines that are of these products. -/
theorem linesOf_eq (e : EligibleLines) (keep : ProductId → Bool) :
    e.linesOf keep = (e.lines.map (·.line)).filter fun line => keep line.product := by
  rw [linesOf, List.filter_map]
  rfl

end EligibleLines

theorem BuyXGetY.mem_of_foldl_cheaper {placed : List PlacedLine} {p : PlacedLine}
    (h : placed.foldl cheaper none = some p) : p ∈ placed := by
  refine (StableOrder.mem_of_foldl (fun best q => ?_) h).resolve_right nofun
  cases best with
  | none => exact .inr rfl
  | some b =>
    rw [cheaper]
    split
    · exact .inr rfl
    · exact .inl rfl

/-! ## Units -/

section Units

variable {lines : List BillLine}

theorem mem_pricesOfLines {price : Int} :
    price ∈ pricesOfLines lines ↔
      ∃ line ∈ lines, line.quantity ≠ 0 ∧ line.unitPrice.toInt = price := by
  rw [pricesOfLines, List.mem_flatMap]
  refine exists_congr fun line => and_congr_right fun _ => ?_
  rw [List.mem_replicate, eq_comm, Ne, Ne, ← UInt32.toNat_inj]
  exact Iff.rfl

theorem cheapestUnit?_eq_some_iff {price : Amount} :
    cheapestUnit? lines = some price ↔
      price.toInt ∈ pricesOfLines lines ∧ ∀ p ∈ pricesOfLines lines, price.toInt ≤ p := by
  have hmem {a : Amount} : a ∈ (lines.filter fun line => line.quantity != 0).map (·.unitPrice) ↔
      a.toInt ∈ pricesOfLines lines := by
    simp only [mem_pricesOfLines, List.mem_map, List.mem_filter, bne_iff_ne, and_assoc,
      Amount.toInt_inj]
  rw [cheapestUnit?, List.min?_eq_some_iff, hmem]
  refine and_congr_right fun _ => ⟨fun h p hp => ?_, fun h a ha => h _ (hmem.1 ha)⟩
  obtain ⟨line, hline, hunits, rfl⟩ := mem_pricesOfLines.1 hp
  exact h _ (hmem.2 hp)

/-- What a price is above another, as a number. -/
def excessOver (price : Amount) (p : Int) : Int :=
  max 0 (max (-9223372036854775808) (min (p - price.toInt) 9223372036854775807))

theorem savingsAbove_eq_checked (price : Amount) (lines : List BillLine) :
    savingsAbove price lines =
      Amount.checked ((pricesOfLines lines).map (excessOver price)).sum := by
  have hexcess (line : BillLine) :
      (line.unitPrice.excess price).toInt = excessOver price line.unitPrice.toInt := by
    rw [Amount.excess, Amount.toInt_max, Amount.toInt_subSat]
    rfl
  have hnonneg (line : BillLine) : 0 ≤ (line.unitPrice.excess price).toInt :=
    hexcess line ▸ Int.le_max_left _ _
  have hsum : ((pricesOfLines lines).map (excessOver price)).sum =
      (lines.map fun line =>
        (line.unitPrice.excess price).toInt * (line.quantity.toNat : Int)).sum := by
    rw [sum_map_pricesOfLines]
    simp only [hexcess]
  have hfold := Amount.foldlM_eq_checked
    (fun (total : Amount) (line : BillLine) => do
      total.add (← (line.unitPrice.excess price).times line.quantity.toNat))
    (fun line => (line.unitPrice.excess price).toInt * (line.quantity.toNat : Int))
    (fun line (_ : line ∈ lines) => Int.mul_nonneg (hnonneg line) (Int.natCast_nonneg _))
    (fun total line _ htotal => Amount.times_bind_add htotal (hnonneg line) _)
    (Int.le_refl (0 : Amount).toInt)
  rw [savingsAbove, hfold, hsum, Amount.toInt_zero, Int.zero_add]

/-- Units come to little if their total fits an amount. -/
theorem magnitude_prices_lt (h : Payable lines) :
    magnitude (ofLines lines).prices < 2 ^ 63 := by
  have hsum (prices : List Int) (hnonneg : ∀ p ∈ prices, 0 ≤ p) :
      (magnitude prices : Int) = prices.sum := by
    induction prices with
    | nil => rfl
    | cons p prices ih =>
      have hp := hnonneg p List.mem_cons_self
      have hrest := ih fun q hq => hnonneg q (List.mem_cons_of_mem _ hq)
      have hcons : magnitude (p :: prices) = p.natAbs + magnitude prices := List.sum_cons
      rw [List.sum_cons, hcons]
      omega
  have hperm := prices_ofLines_perm lines
  have hvalue := hsum _ fun p hp =>
    nonneg_of_mem_pricesOfLines h.prices (hperm.mem_iff.1 hp)
  rw [hperm.sum_eq] at hvalue
  have hfits := h.fits
  omega

/-! ### Parts of the total -/

theorem sum_quantities_le (lines : List BillLine) :
    (Count.sum (lines.map (·.quantity))).toNat ≤ (pricesOfLines lines).length := by
  rw [Count.toNat_sum, length_pricesOfLines, List.map_map]
  exact Nat.min_le_left _ _

/-- Units at the price of the cheapest cost no more than those that there are. -/
theorem cheapestUnit?_mul_le (h : ∀ line ∈ lines, 0 ≤ line.unitPrice) {price : Amount}
    (hprice : cheapestUnit? lines = some price) {n : Nat} (hn : n ≤ (pricesOfLines lines).length) :
    0 ≤ price.toInt ∧ price.toInt * n ≤ (pricesOfLines lines).sum := by
  obtain ⟨hmem, hcheapest⟩ := cheapestUnit?_eq_some_iff.1 hprice
  have hnonneg := nonneg_of_mem_pricesOfLines h hmem
  refine ⟨hnonneg, ?_⟩
  calc price.toInt * n
      ≤ price.toInt * (pricesOfLines lines).length :=
        Int.mul_le_mul_of_nonneg_left (Int.ofNat_le.2 hn) hnonneg
    _ = (pricesOfLines lines).length • price.toInt := by rw [nsmul_eq_mul, mul_comm]
    _ ≤ (pricesOfLines lines).sum := List.card_nsmul_le_sum _ _ hcheapest

/-- What lines cost that have different keys is no more than what all lines cost. -/
theorem sum_keys_le {κ : Type} [DecidableEq κ] (key : BillLine → κ)
    (h : ∀ line ∈ lines, 0 ≤ line.unitPrice) {keys : List κ} (hkeys : keys.Nodup) :
    (keys.map fun k => (pricesOfLines (lines.filter fun line => decide (key line = k))).sum).sum ≤
      (pricesOfLines lines).sum := by
  induction keys generalizing lines with
  | nil => exact List.sum_nonneg fun _ hprice => nonneg_of_mem_pricesOfLines h hprice
  | cons k keys ih =>
    obtain ⟨hk, hkeys⟩ := List.nodup_cons.1 hkeys
    let others := lines.filter fun line => !decide (key line = k)
    have hothers : ∀ line ∈ others, 0 ≤ line.unitPrice :=
      fun line hline => h line (List.mem_filter.1 hline).1
    -- the lines with another key are among the others
    have hsame : ∀ k' ∈ keys, lines.filter (fun line => decide (key line = k')) =
        others.filter fun line => decide (key line = k') := by
      intro k' hk'
      rw [List.filter_filter]
      refine List.filter_congr fun line _ => ?_
      by_cases hkey : key line = k'
      · have hne : k' ≠ k := fun heq => hk (heq ▸ hk')
        simp [hkey, hne]
      · simp [hkey]
    have hsplit : (pricesOfLines lines).sum =
        (pricesOfLines (lines.filter fun line => decide (key line = k))).sum +
          (pricesOfLines others).sum := by
      rw [← List.sum_append, pricesOfLines, pricesOfLines, pricesOfLines, ← List.flatMap_append]
      exact ((List.filter_append_perm _ lines).flatMap_right _).symm.sum_eq
    rw [List.map_cons, List.sum_cons, hsplit,
      List.map_congr_left fun k' hk' => congrArg (fun l => (pricesOfLines l).sum) (hsame k' hk')]
    exact Int.add_le_add_left (ih hothers hkeys) _

end Units

end Promotions

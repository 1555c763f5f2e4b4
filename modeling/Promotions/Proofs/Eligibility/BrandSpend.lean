import Promotions.Eligibility.CrossBrand
import Promotions.Proofs.Eligibility.Lines
import Promotions.Proofs.Sorted

/-!
# Proofs: what is spent at which brands

The spending on a bill is added up line by line. A brand is recorded as soon as a line is of it,
whatever the line costs.
-/

namespace Promotions

open Fallible

/-- The brand of a line of the bill. -/
abbrev Context.brandOf (ctx : Context) (line : BillLine) : BrandId :=
  ctx.bill.lineBrand line ctx.catalog

namespace BrandSpend

variable {ctx : Context} {s s' : BrandSpend} {line : BillLine}

theorem amountAt_of_not_mem {brand : BrandId} (h : brand ∉ s.keys) : s.amountAt brand = 0 := by
  rw [SortedMap.mem_keys_iff, Option.not_isSome_iff_eq_none] at h
  rw [amountAt, h]
  rfl

theorem amountAt_insert (s : BrandSpend) (brand : BrandId) (amount : Amount) (other : BrandId) :
    BrandSpend.amountAt (s.insert brand amount) other =
      if other = brand then amount else s.amountAt other := by
  rw [amountAt, SortedMap.find?_insert]
  split <;> rfl

theorem addLine_eq_ok_iff :
    addLine ctx s line = .ok s' ↔ ∃ price total, line.amount = .ok price ∧
      (s.amountAt (ctx.brandOf line)).add price = .ok total ∧
      s.insert (ctx.brandOf line) total = s' := by
  simp only [addLine, bind_eq_ok_iff, pure_eq_ok_iff]
  exact ⟨fun ⟨price, hprice, total, htotal, hs⟩ => ⟨price, total, hprice, htotal, hs⟩,
    fun ⟨price, total, hprice, htotal, hs⟩ => ⟨price, hprice, total, htotal, hs⟩⟩

theorem mem_keys_insert {brand other : BrandId} {amount : Amount} :
    other ∈ (s.insert brand amount).keys ↔ other = brand ∨ other ∈ s.keys :=
  SortedMap.mem_keys_insertInto

theorem mem_keys_of_foldlM {lines : List BillLine} (h : lines.foldlM (addLine ctx) s = .ok s')
    (brand : BrandId) :
    brand ∈ s'.keys ↔ brand ∈ s.keys ∨ ∃ line ∈ lines, ctx.brandOf line = brand := by
  induction lines generalizing s with
  | nil =>
    obtain rfl := foldlM_nil_eq_ok_iff.1 h
    simp
  | cons line lines ih =>
    obtain ⟨t, ht, h⟩ := foldlM_cons_eq_ok_iff.1 h
    obtain ⟨price, total, -, -, rfl⟩ := addLine_eq_ok_iff.1 ht
    rw [ih h, mem_keys_insert, List.exists_mem_cons_iff, or_assoc, or_left_comm, eq_comm]

/-- The brands that are recorded are those of the lines. -/
theorem mem_keys_onBill (h : onBill ctx = .ok s) (brand : BrandId) :
    brand ∈ s.keys ↔ ∃ line ∈ ctx.bill.lines, ctx.brandOf line = brand := by
  have hnone : brand ∉ (SortedMap.empty : BrandSpend).keys := List.not_mem_nil
  rw [mem_keys_of_foldlM h]
  simp only [hnone, false_or]

/-! ### Without negative prices -/

/-- What the lines of a brand cost. -/
def costAt (ctx : Context) (lines : List BillLine) (brand : BrandId) : Int :=
  (UnitRuns.pricesOfLines (lines.filter fun line => decide (ctx.brandOf line = brand))).sum

theorem costAt_cons (line : BillLine) (lines : List BillLine) (brand : BrandId) :
    costAt ctx (line :: lines) brand =
      (if ctx.brandOf line = brand then line.unitPrice.toInt * line.quantity.toNat else 0) +
        costAt ctx lines brand := by
  rw [costAt, costAt, List.filter_cons]
  by_cases hbrand : ctx.brandOf line = brand
  · rw [if_pos (decide_eq_true hbrand), if_pos hbrand, UnitRuns.sum_pricesOfLines, List.map_cons,
      List.sum_cons, UnitRuns.sum_pricesOfLines]
  · rw [if_neg (mt of_decide_eq_true hbrand), if_neg hbrand, Int.zero_add]

theorem costAt_nonneg (ctx : Context) {lines : List BillLine}
    (h : ∀ line ∈ lines, 0 ≤ line.unitPrice) (brand : BrandId) : 0 ≤ costAt ctx lines brand :=
  List.sum_nonneg fun _ hprice => UnitRuns.nonneg_of_mem_pricesOfLines
    (fun line hline => h line (List.mem_filter.1 hline).1) hprice

/-- Lines are added to the spending, each at its brand, unless what is spent at a brand is too much
for an amount. -/
theorem foldlM_addLine (ctx : Context) {lines : List BillLine}
    (hprices : ∀ line ∈ lines, 0 ≤ line.unitPrice)
    (hs : ∀ brand, 0 ≤ (s.amountAt brand).toInt) :
    (∃ s', lines.foldlM (addLine ctx) s = .ok s' ∧
        ∀ brand, (s'.amountAt brand).toInt = (s.amountAt brand).toInt + costAt ctx lines brand) ∨
      lines.foldlM (addLine ctx) s = .error .overflow ∧
        ∃ brand, 9223372036854775808 ≤ (s.amountAt brand).toInt + costAt ctx lines brand := by
  induction lines generalizing s with
  | nil => exact .inl ⟨s, rfl, fun brand => (Int.add_zero _).symm⟩
  | cons line lines ih =>
    have hrest : ∀ line ∈ lines, 0 ≤ line.unitPrice :=
      fun line hline => hprices line (List.mem_cons_of_mem _ hline)
    have hprice : 0 ≤ line.unitPrice.toInt := hprices line List.mem_cons_self
    have hadd := Amount.times_bind_add (hs (ctx.brandOf line)) hprice line.quantity.toNat
    have hstep : addLine ctx s line = (line.amount >>= (s.amountAt (ctx.brandOf line)).add).map
        fun total => s.insert (ctx.brandOf line) total := by
      rw [addLine, map_bind]
      rfl
    rw [List.foldlM_cons, hstep, BillLine.amount, hadd]
    cases htotal : Amount.checked ((s.amountAt (ctx.brandOf line)).toInt +
        line.unitPrice.toInt * line.quantity.toNat) with
    | error e =>
      obtain ⟨rfl, hrange⟩ := Amount.checked_eq_error_iff.1 htotal
      have hcost : 0 ≤ line.unitPrice.toInt * (line.quantity.toNat : Int) :=
        Int.mul_nonneg hprice (Int.natCast_nonneg _)
      have hothers := costAt_nonneg ctx hrest (ctx.brandOf line)
      have hbrand := hs (ctx.brandOf line)
      refine .inr ⟨rfl, ctx.brandOf line, ?_⟩
      rw [costAt_cons, if_pos rfl]
      omega
    | ok total =>
      have hvalue := Amount.checked_eq_ok_iff.1 htotal
      have hinsert (brand : BrandId) :
          (BrandSpend.amountAt (s.insert (ctx.brandOf line) total) brand).toInt =
            (s.amountAt brand).toInt + if ctx.brandOf line = brand then
              line.unitPrice.toInt * line.quantity.toNat else 0 := by
        rw [amountAt_insert]
        by_cases hbrand : ctx.brandOf line = brand
        · rw [if_pos hbrand.symm, if_pos hbrand, hvalue, hbrand]
        · rw [if_neg (Ne.symm hbrand), if_neg hbrand, Int.add_zero]
      have hnonneg (brand : BrandId) :
          0 ≤ (BrandSpend.amountAt (s.insert (ctx.brandOf line) total) brand).toInt := by
        have hcost : 0 ≤ line.unitPrice.toInt * (line.quantity.toNat : Int) :=
          Int.mul_nonneg hprice (Int.natCast_nonneg _)
        have hbrand := hs brand
        rw [hinsert]
        split <;> omega
      rcases ih hrest hnonneg with ⟨s', hs', hsame⟩ | ⟨hoverflow, brand, hrange⟩
      · refine .inl ⟨s', hs', fun brand => ?_⟩
        rw [hsame, hinsert, costAt_cons, Int.add_assoc]
      · refine .inr ⟨hoverflow, brand, ?_⟩
        rwa [hinsert, Int.add_assoc, ← costAt_cons] at hrange

/-- What is spent at each brand of the bill is what its lines cost, unless that is too much for an
amount at some brand. -/
theorem onBill_cases (ctx : Context) (hprices : ∀ line ∈ ctx.bill.lines, 0 ≤ line.unitPrice) :
    (∃ s, onBill ctx = .ok s ∧
        ∀ brand, (s.amountAt brand).toInt = costAt ctx ctx.bill.lines brand) ∨
      onBill ctx = .error .overflow ∧
        ∃ brand, 9223372036854775808 ≤ costAt ctx ctx.bill.lines brand := by
  have hempty (brand : BrandId) :
      (BrandSpend.amountAt SortedMap.empty brand).toInt = 0 := rfl
  have hcases := foldlM_addLine ctx hprices
    (s := SortedMap.empty) fun brand => Int.le_of_eq (hempty brand).symm
  simp only [hempty, Int.zero_add] at hcases
  exact hcases

end BrandSpend

namespace CrossBrand

variable {ctx : Context} {s s' : BrandSpend}

/-- The spending at a brand is that of the bill on top of what was spent before. -/
theorem spendAt_congr (ctx : Context) (h : ∀ brand, s.amountAt brand = s'.amountAt brand) :
    spendAt ctx s = spendAt ctx s' := by
  funext brand
  rw [spendAt, spendAt, h]

theorem mem_knownBrands_iff {brand : BrandId} :
    brand ∈ knownBrands ctx s ↔ brand ∈ s.keys ∨
      ∃ customer, ctx.customer = some customer ∧ brand ∈ customer.brandSpend.keys := by
  refine SortedSet.mem_ofList.trans (List.mem_append.trans (or_congr_right ?_))
  cases ctx.customer with
  | none => simp
  | some customer => simp

/-- Where nothing is recorded nothing is spent. -/
theorem spendAt_of_not_mem {brand : BrandId} (h : brand ∉ knownBrands ctx s) :
    spendAt ctx s brand = 0 := by
  rw [mem_knownBrands_iff, not_or] at h
  obtain ⟨honBill, hprior⟩ := h
  rw [spendAt, BrandSpend.amountAt_of_not_mem honBill]
  cases hcustomer : ctx.customer with
  | none => rfl
  | some customer =>
    have hnone : brand ∉ customer.brandSpend.keys := fun h => hprior ⟨customer, hcustomer, h⟩
    rw [SortedMap.mem_keys_iff, Option.not_isSome_iff_eq_none] at hnone
    simp only [Customer.spendAt, hnone]
    rfl

theorem mem_knownBrands_of_pos {brand : BrandId} (h : 0 < spendAt ctx s brand) :
    brand ∈ knownBrands ctx s := by
  by_contra hunknown
  rw [spendAt_of_not_mem hunknown] at h
  exact absurd h (by decide)

/-- The brands that count for spending at several brands: trigger brands at which something is
spent. -/
def earningBrands (c : CrossBrand) (ctx : Context) (s : BrandSpend) : List BrandId :=
  (knownBrands ctx s).filter fun brand => decide (0 < spendAt ctx s brand) && c.isTrigger brand

theorem mem_earningBrands_iff {c : CrossBrand} {brand : BrandId} :
    brand ∈ c.earningBrands ctx s ↔ 0 < spendAt ctx s brand ∧ c.isTrigger brand = true := by
  rw [earningBrands, List.mem_filter, Bool.and_eq_true, decide_eq_true_eq]
  exact and_iff_right_of_imp fun h => mem_knownBrands_of_pos h.1

theorem nodup_earningBrands (c : CrossBrand) (ctx : Context) (s : BrandSpend) :
    (c.earningBrands ctx s).Nodup :=
  (SortedSet.nodup_toList _).filter _

theorem multiBrandMet_eq (c : CrossBrand) (ctx : Context) (s : BrandSpend) :
    c.multiBrandMet ctx s =
      if (c.earningBrands ctx s).length < c.minDistinctBrands.toNat then .ok false
      else do return decide (c.triggerMinAmount.getD 0 ≤
        (← Amount.sum ((c.earningBrands ctx s).map (spendAt ctx s)))) := by
  have hspends : (((knownBrands ctx s).filter c.isTrigger).map (spendAt ctx s)).filter
      (fun spend => decide (0 < spend)) = (c.earningBrands ctx s).map (spendAt ctx s) := by
    rw [List.filter_map, List.filter_filter]
    rfl
  rw [multiBrandMet, hspends, List.length_map]
  rfl

/-- A brand at which nothing is spent does not count for spending at several brands. -/
theorem multiBrandMet_congr (c : CrossBrand) (ctx : Context)
    (h : ∀ brand, s.amountAt brand = s'.amountAt brand) :
    c.multiBrandMet ctx s = c.multiBrandMet ctx s' := by
  have hbrands : c.earningBrands ctx s = c.earningBrands ctx s' := by
    refine SortedSet.filter_toList_congr fun brand => ?_
    rw [spendAt_congr ctx h]
    refine and_congr_left fun hcounts => ?_
    have hpos : 0 < spendAt ctx s' brand :=
      of_decide_eq_true (Bool.and_eq_true_iff.1 hcounts).1
    exact iff_of_true (mem_knownBrands_of_pos (spendAt_congr ctx h ▸ hpos))
      (mem_knownBrands_of_pos hpos)
  rw [multiBrandMet_eq, multiBrandMet_eq, hbrands, spendAt_congr ctx h]

end CrossBrand

end Promotions

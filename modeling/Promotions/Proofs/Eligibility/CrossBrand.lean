import Promotions.Proofs.Eligibility.BrandSpend
import Promotions.Proofs.Eligibility.Layout

/-!
# Proofs: spending more across brands

A condition across brands is earned by spending, so it is not lost by spending more: neither by
further lines on the bill, whatever brand they turn out to be of, nor by a higher record of what was
spent before. All that can go wrong is that an amount becomes too large.
-/

namespace Promotions

open Fallible

/-- What is on record as spent at a brand before the bill. -/
def Context.spentBefore (ctx : Context) (brand : BrandId) : Amount :=
  match ctx.customer with
  | some customer => customer.spendAt brand
  | none => 0

/-- The context with other lines on the bill and another record of the customer. -/
def Context.withSpending (ctx : Context) (lines : List BillLine) (customer : Option Customer) :
    Context :=
  { ctx.withLines lines with customer }

/-- Of some things and others, each of which counts no less and each of the others at least nothing,
the sum is no less. -/
theorem sum_map_le_of_subset {α : Type} [DecidableEq α] {f g : α → Int} {l l' : List α}
    (hl : l.Nodup) (hl' : l'.Nodup) (hsub : l ⊆ l') (hle : ∀ a ∈ l, f a ≤ g a)
    (hothers : ∀ a ∈ l', a ∉ l → 0 ≤ g a) : (l.map f).sum ≤ (l'.map g).sum := by
  obtain ⟨same, hsame, hsublist⟩ := List.subperm_of_subset hl hsub
  obtain ⟨rest, hrest⟩ := hsublist.exists_perm_append
  have hperm : l'.Perm (l ++ rest) := hrest.trans (hsame.append_right rest)
  have hdisjoint := (List.nodup_append'.1 (hperm.nodup_iff.1 hl')).2.2
  have hmore : 0 ≤ (rest.map g).sum := List.sum_nonneg <| List.forall_mem_map.2 fun a ha =>
    hothers a (hperm.mem_iff.2 (List.mem_append_right l ha)) fun hin => hdisjoint hin ha
  calc (l.map f).sum ≤ (l.map g).sum := List.sum_le_sum hle
    _ ≤ (l.map g).sum + (rest.map g).sum := Int.le_add_of_nonneg_right hmore
    _ = (l'.map g).sum := by rw [(hperm.map g).sum_eq, List.map_append, List.sum_append]

namespace BrandSpend

variable {ctx : Context} {s : BrandSpend}

theorem toInt_amountAt (hprices : ∀ line ∈ ctx.bill.lines, 0 ≤ line.unitPrice)
    (hs : onBill ctx = .ok s) (brand : BrandId) :
    (s.amountAt brand).toInt = costAt ctx ctx.bill.lines brand := by
  rcases onBill_cases ctx hprices with ⟨s', hs', hvalue⟩ | ⟨hoverflow, -⟩
  · obtain rfl : s = s' := Except.ok.inj (hs.symm.trans hs')
    exact hvalue brand
  · rw [hs] at hoverflow
    cases hoverflow

theorem eq_overflow_of_onBill (hprices : ∀ line ∈ ctx.bill.lines, 0 ≤ line.unitPrice)
    {e : ArithmeticError} (he : onBill ctx = .error e) : e = .overflow := by
  rcases onBill_cases ctx hprices with ⟨s', hs', -⟩ | ⟨hoverflow, -⟩
  · rw [he] at hs'
    cases hs'
  · exact Except.error.inj (he.symm.trans hoverflow)

theorem costAt_le_of_perm {lines lines' added : List BillLine}
    (hperm : lines'.Perm (lines ++ added)) (hadded : ∀ line ∈ added, 0 ≤ line.unitPrice)
    (brand : BrandId) :
    costAt ctx lines brand ≤ costAt ctx lines' brand := by
  have hsplit : costAt ctx lines' brand = costAt ctx lines brand + costAt ctx added brand := by
    rw [costAt, costAt, costAt, ← List.sum_append, UnitRuns.pricesOfLines, UnitRuns.pricesOfLines,
      UnitRuns.pricesOfLines, ← List.flatMap_append, ← List.filter_append]
    exact ((hperm.filter _).flatMap_right _).sum_eq
  have hnonneg := costAt_nonneg ctx hadded brand
  omega

end BrandSpend

namespace CrossBrand

variable {c : CrossBrand} {ctx ctx' : Context} {s s' : BrandSpend}

/-- The condition holds, or an amount is too large to tell. -/
def HoldsOrOverflows (met : Except ArithmeticError Bool) : Prop :=
  met = .ok true ∨ met = .error .overflow

/-- A bill of the same brand has lines of no fewer brands, and no less is spent at any of them, on
the bill and before it. -/
structure Outspends (ctx : Context) (s : BrandSpend) (ctx' : Context) (s' : BrandSpend) : Prop where
  brandId : ctx'.bill.brandId = ctx.bill.brandId
  keys : s.keys ⊆ s'.keys
  spend : ∀ brand, (spendAt ctx s brand).toInt ≤ (spendAt ctx' s' brand).toInt

namespace Outspends

/-- A condition on what is spent at some brands that holds also holds of what is spent at them and
at others, if all of that fits an amount. -/
theorem holds_of_sum (h : Outspends ctx s ctx' s') {brands brands' : List BrandId}
    (hbrands : brands.Nodup) (hbrands' : brands'.Nodup) (hsub : brands ⊆ brands')
    (hothers : ∀ brand ∈ brands', brand ∉ brands → 0 ≤ (spendAt ctx' s' brand).toInt)
    {test : Amount → Bool} (htest : ∀ a b, a ≤ b → test a = true → test b = true)
    (hmet : (Amount.sum (brands.map (spendAt ctx s))).map test = .ok true) :
    HoldsOrOverflows ((Amount.sum (brands'.map (spendAt ctx' s'))).map test) := by
  obtain ⟨spend, hspend, hreached⟩ := map_eq_ok_iff.1 hmet
  obtain ⟨spend₀, hspend₀, hvalue⟩ := (Amount.sum_cases _).resolve_right
    (fun hoverflow => by rw [hspend] at hoverflow; cases hoverflow)
  obtain rfl : spend = spend₀ := Except.ok.inj (hspend.symm.trans hspend₀)
  rcases Amount.sum_cases (brands'.map (spendAt ctx' s')) with
    ⟨spend', hspend', hvalue'⟩ | hoverflow
  · have hle : spend ≤ spend' := by
      rw [Amount.le_iff, hvalue, hvalue', List.map_map, List.map_map]
      exact sum_map_le_of_subset hbrands hbrands' hsub (fun brand _ => h.spend brand) hothers
    rw [hspend']
    exact .inl (congrArg Except.ok (htest _ _ hle hreached))
  · rw [hoverflow]
    exact .inr rfl

/-- Enough at the trigger brands stays enough. -/
theorem triggerMet (h : Outspends ctx s ctx' s') (hmet : c.triggerMet ctx s = .ok true) :
    HoldsOrOverflows (c.triggerMet ctx' s') := by
  rw [CrossBrand.triggerMet] at hmet ⊢
  rw [h.brandId]
  split at hmet
  · cases hmet
  · rename_i hbenefit
    rw [if_neg hbenefit]
    have hsame := c.triggerBrands.nodup_toList
    have hothers : ∀ brand ∈ c.triggerBrands.toList, brand ∉ c.triggerBrands.toList →
        0 ≤ (spendAt ctx' s' brand).toInt :=
      fun brand hbrand hother => absurd hbrand hother
    cases hminimum : c.triggerMinAmount with
    | some minimum =>
      rw [hminimum] at hmet
      refine h.holds_of_sum hsame hsame (fun _ => id) hothers (fun a b hab ha => ?_) hmet
      exact decide_eq_true (Int.le_trans (of_decide_eq_true ha) hab)
    | none =>
      rw [hminimum] at hmet
      refine h.holds_of_sum hsame hsame (fun _ => id) hothers (fun a b hab ha => ?_) hmet
      exact decide_eq_true (Int.lt_of_lt_of_le (of_decide_eq_true ha) hab)

theorem earningBrands_subset (h : Outspends ctx s ctx' s') (c : CrossBrand) :
    c.earningBrands ctx s ⊆ c.earningBrands ctx' s' := by
  intro brand hbrand
  obtain ⟨hpos, htrigger⟩ := mem_earningBrands_iff.1 hbrand
  exact mem_earningBrands_iff.2 ⟨Int.lt_of_lt_of_le hpos (h.spend brand), htrigger⟩

/-- Enough brands stay enough, and so does what is spent at them. -/
theorem multiBrandMet (h : Outspends ctx s ctx' s') (hmet : c.multiBrandMet ctx s = .ok true) :
    HoldsOrOverflows (c.multiBrandMet ctx' s') := by
  have hsub := h.earningBrands_subset c
  have hnodup := c.nodup_earningBrands ctx s
  have hlength := (List.subperm_of_subset hnodup hsub).length_le
  rw [multiBrandMet_eq] at hmet ⊢
  split at hmet
  · cases hmet
  · rename_i henough
    rw [if_neg (by omega)]
    refine h.holds_of_sum hnodup (c.nodup_earningBrands ctx' s') hsub (fun brand hbrand _ => ?_)
      (fun a b hab ha => ?_) hmet
    · exact Int.le_of_lt (mem_earningBrands_iff.1 hbrand).1
    · exact decide_eq_true (Int.le_trans (of_decide_eq_true ha) hab)

end Outspends

/-- Every condition that is met stays so, if what is spent at each brand fits an amount. -/
theorem Outspends.isMet (h : Outspends ctx s ctx' s') (hs : BrandSpend.onBill ctx = .ok s)
    (hs' : BrandSpend.onBill ctx' = .ok s') (hmet : c.isMet ctx = .ok true) :
    HoldsOrOverflows (c.isMet ctx') := by
  have hnodup : s.keys.Nodup := s.keySet.nodup_toList
  have hcount := (List.subperm_of_subset hnodup h.keys).length_le
  rw [CrossBrand.isMet, hs, ok_bind] at hmet
  rw [CrossBrand.isMet, hs', ok_bind]
  cases hkind : c.kind with
  | triggerBenefit =>
    rw [hkind] at hmet
    exact h.triggerMet hmet
  | multiBrandSpend =>
    rw [hkind] at hmet
    exact h.multiBrandMet hmet
  | crossBrandBundle =>
    rw [hkind] at hmet
    dsimp only at hmet ⊢
    split at hmet
    · rename_i hany
      have hleast := of_decide_eq_true (Except.ok.inj hmet)
      have hsize (m : BrandSpend) : m.size = m.keys.length := (List.length_map Prod.fst).symm
      rw [hsize] at hleast
      rw [if_pos hany, hsize]
      exact .inl (congrArg Except.ok (decide_eq_true (Nat.le_trans hleast hcount)))
    · rename_i hlisted
      have hall := List.all_eq_true.1 (Except.ok.inj hmet)
      rw [if_neg hlisted]
      refine .inl (congrArg Except.ok (List.all_eq_true.2 fun brand hbrand => ?_))
      rw [List.contains_iff_mem]
      exact h.keys (List.contains_iff_mem.1 (hall brand hbrand))
  | sameReceipt =>
    rw [hkind] at hmet
    have hleast := of_decide_eq_true (Except.ok.inj hmet)
    have htriggers := (List.subperm_of_subset (hnodup.filter c.isTrigger)
      (List.filter_subset _ h.keys)).length_le
    exact .inl (congrArg Except.ok (decide_eq_true (Nat.le_trans hleast htriggers)))
  | loyaltyAccumulate => exact .inl rfl

theorem toInt_spendAt_eq (ctx : Context) (s : BrandSpend) (brand : BrandId) :
    (spendAt ctx s brand).toInt = max (-9223372036854775808)
      (min ((ctx.spentBefore brand).toInt + (s.amountAt brand).toInt) 9223372036854775807) :=
  Amount.toInt_saturate _

section Enlarged

variable {lines added : List BillLine} {customer : Option Customer}
  (hprices : ∀ line ∈ ctx.bill.lines, 0 ≤ line.unitPrice)
  (hadded : ∀ line ∈ added, 0 ≤ line.unitPrice) (hlines : lines.Perm (ctx.bill.lines ++ added))

include hprices hadded hlines

theorem prices_enlarged : ∀ line ∈ lines, 0 ≤ line.unitPrice := by
  intro line hline
  rcases List.mem_append.1 (hlines.mem_iff.1 hline) with hline | hline
  · exact hprices line hline
  · exact hadded line hline

/-- Of whatever brands the further lines are, at none is less spent. -/
theorem outspends_withSpending
    (hspent : ∀ brand, ctx.spentBefore brand ≤ (ctx.withSpending lines customer).spentBefore brand)
    (hs : BrandSpend.onBill ctx = .ok s)
    (hs' : BrandSpend.onBill (ctx.withSpending lines customer) = .ok s') :
    Outspends ctx s (ctx.withSpending lines customer) s' := by
  refine ⟨rfl, fun brand hbrand => ?_, fun brand => ?_⟩
  · obtain ⟨line, hline, hlineBrand⟩ := (BrandSpend.mem_keys_onBill hs brand).1 hbrand
    exact (BrandSpend.mem_keys_onBill hs' brand).2
      ⟨line, hlines.mem_iff.2 (List.mem_append_left _ hline), hlineBrand⟩
  · have hbefore := Amount.le_iff.1 (hspent brand)
    have honBill : (s.amountAt brand).toInt ≤ (s'.amountAt brand).toInt := by
      rw [BrandSpend.toInt_amountAt hprices hs,
        BrandSpend.toInt_amountAt (prices_enlarged hprices hadded hlines) hs']
      exact BrandSpend.costAt_le_of_perm hlines hadded brand
    rw [toInt_spendAt_eq, toInt_spendAt_eq]
    omega

/-- A condition across brands that a bill without negative prices meets is also met with further
lines, wherever they stand on the bill, and with a higher record of what was spent before, unless an
amount no longer fits. -/
theorem isMet_mono (c : CrossBrand)
    (hspent : ∀ brand, ctx.spentBefore brand ≤ (ctx.withSpending lines customer).spentBefore brand)
    (hmet : c.isMet ctx = .ok true)
    (hfits : c.isMet (ctx.withSpending lines customer) ≠ .error .overflow) :
    c.isMet (ctx.withSpending lines customer) = .ok true := by
  refine Or.resolve_right ?_ hfits
  obtain ⟨s, hs, -⟩ := bind_eq_ok_iff.1 hmet
  cases hs' : BrandSpend.onBill (ctx.withSpending lines customer) with
  | ok s' =>
    exact (outspends_withSpending hprices hadded hlines hspent hs hs').isMet hs hs' hmet
  | error e =>
    obtain rfl := BrandSpend.eq_overflow_of_onBill (prices_enlarged hprices hadded hlines) hs'
    rw [isMet, hs']
    exact .inr rfl

end Enlarged

/-- Two brands at which something is spent, the bill's and one on record, still are two when a line
of a third, at which too much was given back before, comes to the front and the record is raised. -/
theorem isMet_mono_shop :
    let record (third : Int) : SortedMap BrandId Amount :=
      .ofList [(Sample.id 2, Sample.amount (-5)), (Sample.id 3, Sample.amount third)]
    let c : CrossBrand := ⟨.multiBrandSpend, .empty, .empty, some (Sample.amount 105), 2⟩
    let ctx : Context :=
      { bill := Sample.bill
        catalog := .ofList [(Sample.id 4, { brand := some (Sample.id 2) })]
        customer := some { brandSpend := record 10 } }
    let added : List BillLine := [⟨Sample.id 4, none, 1, Sample.amount 3⟩]
    let enlarged := ctx.withSpending (added ++ ctx.bill.lines) (some { brandSpend := record 12 })
    (∀ line ∈ ctx.bill.lines, 0 ≤ line.unitPrice) ∧ (∀ line ∈ added, 0 ≤ line.unitPrice) ∧
      (added ++ ctx.bill.lines).Perm (ctx.bill.lines ++ added) ∧
      (∀ brand, ctx.spentBefore brand ≤ enlarged.spentBefore brand) ∧
      c.isMet ctx = .ok true ∧ c.isMet enlarged ≠ .error .overflow ∧
      c.isMet enlarged = .ok true := by
  intro record c ctx added enlarged
  have hprices : ∀ line ∈ ctx.bill.lines, 0 ≤ line.unitPrice := by decide
  have hadded : ∀ line ∈ added, 0 ≤ line.unitPrice := by decide
  have hlines : (added ++ ctx.bill.lines).Perm (ctx.bill.lines ++ added) := List.perm_append_comm
  have hfind (third : Int) (brand : BrandId) : (record third).find? brand =
      if brand = Sample.id 3 then some (Sample.amount third)
      else if brand = Sample.id 2 then some (Sample.amount (-5)) else none := by
    simp only [record, SortedMap.ofList, List.foldl_cons, List.foldl_nil, SortedMap.find?_insert]
    rfl
  have hspent (brand : BrandId) : ctx.spentBefore brand ≤ enlarged.spentBefore brand := by
    show ((record 10).find? brand).getD 0 ≤ ((record 12).find? brand).getD 0
    rw [hfind, hfind]
    split
    · decide
    · exact Int.le_refl _
  have hmet : c.isMet ctx = .ok true := by decide +kernel
  have hfits : c.isMet enlarged ≠ .error .overflow := by decide +kernel
  exact ⟨hprices, hadded, hlines, hspent, hmet, hfits,
    isMet_mono hprices hadded hlines c hspent hmet hfits⟩

end CrossBrand

end Promotions

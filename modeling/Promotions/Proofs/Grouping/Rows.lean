import Mathlib.Algebra.Order.BigOperators.Group.List
import Promotions.Proofs.Eligibility.Lines
import Promotions.Proofs.Grouping.MixMatch
import Promotions.Proofs.Grouping.Units

/-!
# Proofs: groups of different products

A group takes one unit off each of some rows, so what it is worth is gone from the rows. All groups
together save no more than the rows were worth, and where that fits an amount every group does.
-/

namespace Promotions

open Fallible

theorem UnitRuns.Proper.prices_of_peek? {r : UnitRuns} (h : r.Proper) {front : Amount}
    (hfront : r.peek? = some front) : r.prices = front.toInt :: r.pop.prices := by
  rw [h.peek?_eq] at hfront
  obtain ⟨rest, hamounts⟩ := List.head?_eq_some_iff.1 hfront
  rw [← map_toInt_amounts, ← map_toInt_amounts, h.amounts_pop, hamounts]
  rfl

namespace ProductRow

variable {rows : List ProductRow}

/-- What the units of rows cost. -/
def worth (rows : List ProductRow) : Int := (rows.map fun row => row.runs.prices.sum).sum

/-- No unit has a negative price. -/
def Nonneg (rows : List ProductRow) : Prop := ∀ row ∈ rows, ∀ price ∈ row.runs.prices, 0 ≤ price

theorem worth_nonneg (h : Nonneg rows) : 0 ≤ worth rows :=
  List.sum_nonneg (List.forall_mem_map.2 fun row hrow => List.sum_nonneg (h row hrow))

/-- The row of the front is one of which a front is taken. -/
def isTaken (taken : List Front) (front : Front) : Bool :=
  (taken.map (·.product)).contains front.product

/-- The unit that a row loses is its front, if its product is taken. -/
theorem prices_removeFront {row : ProductRow} (h : row.runs.Proper) (taken : List Front) :
    row.runs.prices = (row.front?.toList.filter (isTaken taken)).map (·.price.toInt) ++
      (row.removeFront taken).runs.prices := by
  rw [front?, removeFront]
  cases hpeek : row.runs.peek? with
  | none =>
    -- a row without a front has no runs
    have hpop : row.runs.pop = row.runs := by
      rw [UnitRuns.peek?, Option.map_eq_none_iff, List.head?_eq_none_iff] at hpeek
      rw [UnitRuns.pop, hpeek]
    rw [hpop, ite_self]
    rfl
  | some price =>
    let front : Front := ⟨price, row.product⟩
    by_cases hmem : row.product ∈ taken.map (·.product)
    · have htaken : isTaken taken front = true := List.contains_iff_mem.2 hmem
      rw [if_pos hmem, h.prices_of_peek? hpeek, Option.map_some, Option.toList_some,
        List.filter_cons_of_pos htaken]
      rfl
    · have htaken : ¬isTaken taken front = true := mt List.contains_iff_mem.1 hmem
      rw [if_neg hmem, Option.map_some, Option.toList_some, List.filter_cons_of_neg htaken]
      rfl

theorem Nonneg.removeFronts (hrows : Proper rows) (h : Nonneg rows) (taken : List Front) :
    Nonneg (removeFronts taken rows) := by
  intro row hrow price hprice
  obtain ⟨row', hrow', rfl⟩ := List.mem_map.1 hrow
  refine h row' hrow' price ?_
  rw [prices_removeFront (hrows row' hrow') taken]
  exact List.mem_append_right _ hprice

theorem Nonneg.fronts (hrows : Proper rows) (h : Nonneg rows) {front : Front}
    (hfront : front ∈ rows.filterMap front?) : 0 ≤ front.price.toInt := by
  obtain ⟨row, hrow, hfront⟩ := List.mem_filterMap.1 hfront
  obtain ⟨price, hpeek, rfl⟩ := Option.map_eq_some_iff.1 hfront
  refine h row hrow _ ?_
  rw [(hrows row hrow).prices_of_peek? hpeek]
  exact List.mem_cons_self

theorem worth_cons (row : ProductRow) (rows : List ProductRow) :
    worth (row :: rows) = row.runs.prices.sum + worth rows := List.sum_cons

/-- What is taken off rows is gone from their worth. -/
theorem worth_eq_add (hrows : Proper rows) (taken : List Front) :
    worth rows = (((rows.filterMap front?).filter (isTaken taken)).map (·.price.toInt)).sum +
      worth (removeFronts taken rows) := by
  induction rows with
  | nil => rfl
  | cons row rows ih =>
    have hrow := congrArg List.sum (prices_removeFront (hrows row List.mem_cons_self) taken)
    have hrest := ih fun row hrow => hrows row (List.mem_cons_of_mem _ hrow)
    have hremove : worth (removeFronts taken (row :: rows)) =
        (row.removeFront taken).runs.prices.sum + worth (removeFronts taken rows) :=
      worth_cons _ _
    rw [List.filterMap_eq_flatMap_toList] at hrest ⊢
    rw [List.flatMap_cons, List.filter_append, List.map_append, List.sum_append, worth_cons, hrow,
      hrest, hremove, List.sum_append]
    omega

/-- Fronts that are taken together are worth no more than what the rows lose. -/
theorem sum_add_worth_le (hrows : Proper rows) (h : Nonneg rows) {taken : List Front}
    (htaken : taken.Subperm (rows.filterMap front?)) :
    (taken.map (·.price.toInt)).sum + worth (removeFronts taken rows) ≤ worth rows := by
  have hall : taken.filter (isTaken taken) = taken :=
    List.filter_eq_self.2 fun f hf => List.contains_iff_mem.2 (List.mem_map_of_mem hf)
  obtain ⟨fronts, hperm, hsublist⟩ := htaken.filter (isTaken taken)
  rw [hall] at hperm
  rw [worth_eq_add hrows taken, ← (hperm.map _).sum_eq]
  refine Int.add_le_add_right ((hsublist.map _).sum_le_sum (List.forall_mem_map.2 ?_)) _
  exact fun front hfront => h.fronts hrows (List.mem_filter.1 hfront).1

/-! ### The rows of lines -/

variable {lines : List BillLine}

theorem nonneg_ofLines (h : ∀ line ∈ lines, 0 ≤ line.unitPrice) : Nonneg (ofLines lines) := by
  intro row hrow price hprice
  obtain ⟨product, -, rfl⟩ := List.mem_map.1 hrow
  refine UnitRuns.nonneg_of_mem_pricesOfLines (fun line hline => ?_)
    ((UnitRuns.prices_ofLines_perm _).mem_iff.1 hprice)
  exact h line (List.mem_filter.1 hline).1

/-- The rows of lines are worth no more than the lines cost. -/
theorem worth_ofLines_le (h : ∀ line ∈ lines, 0 ≤ line.unitPrice) :
    worth (ofLines lines) ≤ (UnitRuns.pricesOfLines lines).sum := by
  rw [worth, ofLines, List.map_map]
  refine Int.le_trans (Int.le_of_eq (congrArg List.sum (List.map_congr_left fun product _ => ?_)))
    (sum_keys_le (·.product) h (SortedSet.nodup_toList (.ofList (lines.map (·.product)))))
  exact (UnitRuns.prices_ofLines_perm _).sum_eq

end ProductRow

namespace MixMatch

variable {size : Nat} {price : Amount} {g : Groups} {rows : List ProductRow}

theorem dearestFronts?_subperm {fronts : List Front} (h : dearestFronts? size rows = some fronts) :
    fronts.Subperm (rows.filterMap ProductRow.front?) := by
  simp only [dearestFronts?] at h
  split at h
  · obtain rfl := Option.some.inj h
    exact (List.take_sublist _ _).subperm.trans (List.mergeSort_perm _ _).subperm
  · cases h

/-- A group that is worth what fits an amount, with what was saved before, is formed. -/
theorem add_ok {value : Amount} (hprice : 0 ≤ price) (hsaved : 0 ≤ g.saved.toInt)
    (hvalue : 0 ≤ value.toInt) (hfits : g.saved.toInt + value.toInt < 9223372036854775808) :
    ∃ g', g.add price value = .ok g' := by
  cases hadd : g.add price value with
  | ok g' => exact ⟨g', rfl⟩
  | error e =>
    have hrange := (add_error hprice hadd).2
    omega

/-- Of rows that are worth what fits an amount a group can be formed, and what is left with the
savings still fits. -/
theorem group_ok {fronts : List Front} (hprice : 0 ≤ price) (hrows : ProductRow.Proper rows)
    (hnonneg : ProductRow.Nonneg rows) (hsaved : 0 ≤ g.saved.toInt)
    (hfits : g.saved.toInt + ProductRow.worth rows < 9223372036854775808)
    (hfronts : dearestFronts? size rows = some fronts) :
    ∃ g', (Amount.sum (fronts.map (·.price))).bind (g.add price) = .ok g' ∧
      0 ≤ g'.saved.toInt ∧
      g'.saved.toInt + ProductRow.worth (ProductRow.removeFronts fronts rows) <
        9223372036854775808 := by
  have hsubperm := dearestFronts?_subperm hfronts
  have hle := ProductRow.sum_add_worth_le hrows hnonneg hsubperm
  have hrest := ProductRow.worth_nonneg (hnonneg.removeFronts hrows fronts)
  have hprices : ∀ amount ∈ fronts.map (·.price), 0 ≤ amount.toInt :=
    List.forall_mem_map.2 fun front hfront => hnonneg.fronts hrows (hsubperm.subset hfront)
  have hsum : 0 ≤ (fronts.map (·.price.toInt)).sum :=
    List.sum_nonneg (List.forall_mem_map.2 fun front hfront =>
      hprices _ (List.mem_map_of_mem hfront))
  obtain ⟨value, hvalue⟩ : ∃ value, Amount.checked (fronts.map (·.price.toInt)).sum = .ok value :=
    Amount.checked_ok (by omega) (by omega)
  have hworth := Amount.checked_eq_ok_iff.1 hvalue
  have hnonneg' : 0 ≤ value.toInt := by omega
  have hroom : g.saved.toInt + value.toInt < 9223372036854775808 := by omega
  obtain ⟨g', hadd⟩ := add_ok hprice hsaved hnonneg' hroom
  obtain ⟨hsaved', -⟩ := toInt_saved_add hprice hadd
  have hprice' : 0 ≤ price.toInt := hprice
  refine ⟨g', ?_, by omega, by omega⟩
  rw [Amount.sum_eq_checked hprices, List.map_map]
  exact (congrArg (·.bind (g.add price)) hvalue).trans hadd

/-- Rows that are worth what fits an amount can always be grouped. -/
theorem groupProducts_ok (hprice : 0 ≤ price) (hrows : ProductRow.Proper rows)
    (hnonneg : ProductRow.Nonneg rows) (hsaved : 0 ≤ g.saved.toInt)
    (hfits : g.saved.toInt + ProductRow.worth rows < 9223372036854775808) :
    ∃ g', groupProducts size price g rows = .ok g' := by
  -- no group raises what is saved and what the rows are worth together
  fun_induction groupProducts size price g rows with
  | case1 g rows => exact ⟨g, rfl⟩
  | case2 g rows hsize fronts hf hless e hadd =>
    obtain ⟨g', hok, -⟩ := group_ok hprice hrows hnonneg hsaved hfits hf
    rw [hadd] at hok
    cases hok
  | case3 g rows hsize fronts hf hless g₁ hadd ih =>
    obtain ⟨g', hok, hsaved', hfits'⟩ := group_ok hprice hrows hnonneg hsaved hfits hf
    obtain rfl := Except.ok.inj (hadd.symm.trans hok)
    exact ih (hrows.removeFronts fronts) (hnonneg.removeFronts hrows fronts) hsaved' hfits'
  | case4 g rows => exact ⟨g, rfl⟩

/-- Lines that cost what fits an amount can always be grouped. -/
theorem exists_groups {r : MixMatch} {lines : List BillLine} (hprice : 0 ≤ r.specialPrice)
    (hlines : Payable lines) : ∃ g, r.groups lines = .ok g := by
  have hzero : ({} : Groups).saved.toInt = 0 := rfl
  have hnone : 0 ≤ ({} : Groups).saved.toInt := Int.le_of_eq hzero.symm
  rw [groups]
  split
  · cases hgroups : groupUnits r.groupSize.toNat r.specialPrice {} (.ofLines lines) with
    | ok g => exact ⟨g, rfl⟩
    | error e =>
      have hover := (groupUnits_error hprice hnone hgroups).2.2
      have hsmall := magnitude_prices_lt hlines
      omega
  · have hworth := ProductRow.worth_ofLines_le hlines.prices
    have hfits := hlines.fits
    exact groupProducts_ok hprice (ProductRow.proper_ofLines lines)
      (ProductRow.nonneg_ofLines hlines.prices) hnone (by omega)

end MixMatch

end Promotions

import Promotions.Eligibility.MixMatch
import Promotions.Proofs.Fallible
import Promotions.Proofs.Grouping.UnitPrices
import Promotions.Proofs.Sorted

/-!
# Proofs: groups depend on the units alone

Lines give runs, and runs are taken apart as groups are formed. But a group only sees the prices of
units one by one, so it does not matter into which runs they were put. Nor does a row of a product
matter that has no units.
-/

namespace Promotions

open Fallible

namespace UnitRuns

variable {r r' : UnitRuns}

/-- The prices of the units as amounts, one by one. -/
def amounts (r : UnitRuns) : List Amount :=
  r.runs.flatMap fun run => List.replicate run.units run.price

/-- No run is without units. -/
def Proper (r : UnitRuns) : Prop := ∀ run ∈ r.runs, 0 < run.units

theorem map_toInt_amounts (r : UnitRuns) : r.amounts.map Amount.toInt = r.prices := by
  rw [amounts, List.map_flatMap, prices, pricesOf]
  simp only [List.map_replicate]

theorem amounts_eq_of_prices_eq (h : r.prices = r'.prices) : r.amounts = r'.amounts := by
  have hinj : Function.Injective Amount.toInt := fun _ _ => Amount.ext
  rw [← map_toInt_amounts, ← map_toInt_amounts] at h
  exact hinj.list_map h

theorem units_eq_of_prices_eq (h : r.prices = r'.prices) : r.units = r'.units := by
  rw [← length_prices, ← length_prices, h]

/-! ## Taking units -/

/-- Taking units from equal prices that come to little is the same, and leaves the same. -/
theorem take_congr (h : r.prices = r'.prices) (hsmall : magnitude r.prices < 2 ^ 63) (count : Nat) :
    (r.take count).1 = (r'.take count).1 ∧
      (r.take count).2.prices = (r'.take count).2.prices := by
  have hunits := units_eq_of_prices_eq h
  rcases ht : r.take count with ⟨taken, rest⟩
  rcases ht' : r'.take count with ⟨taken', rest'⟩
  have hneverError {s rest : UnitRuns} {e : ArithmeticError} (hs : s.prices = r.prices)
      (he : s.take count = (.error e, rest)) : False := by
    have hlarge := (take_error_spec he).2.2
    rw [hs] at hlarge
    exact absurd hsmall (Nat.not_lt_of_le hlarge)
  cases taken with
  | error e => exact (hneverError rfl ht).elim
  | ok paid =>
    cases taken' with
    | error e => exact (hneverError h.symm ht').elim
    | ok paid' =>
      cases paid with
      | none =>
        obtain ⟨hfew, rfl⟩ := take_none_spec ht
        cases paid' with
        | none =>
          obtain ⟨-, rfl⟩ := take_none_spec ht'
          exact ⟨rfl, h⟩
        | some paid' =>
          have henough := (take_some_spec ht').1
          omega
      | some paid =>
        obtain ⟨henough, hpaid, hrest⟩ := take_some_spec ht
        cases paid' with
        | none =>
          have hfew := (take_none_spec ht').1
          omega
        | some paid' =>
          obtain ⟨-, hpaid', hrest'⟩ := take_some_spec ht'
          have hsame : paid = paid' := Amount.ext (by rw [hpaid, hpaid', h])
          exact ⟨by rw [hsame], by rw [hrest, hrest', h]⟩

/-! ## Front units -/

theorem amounts_cons (run : UnitRun) (runs : List UnitRun) :
    amounts ⟨run :: runs⟩ = List.replicate run.units run.price ++ amounts ⟨runs⟩ :=
  List.flatMap_cons

theorem proper_ofLines (lines : List BillLine) : (ofLines lines).Proper := by
  intro run hrun
  obtain ⟨line, hline, rfl⟩ := List.mem_map.1 (List.mem_mergeSort.1 hrun)
  have hquantity : line.quantity ≠ 0 := by simpa using (List.mem_filter.1 hline).2
  exact Nat.pos_of_ne_zero fun h => hquantity (UInt32.toNat_inj.1 h)

theorem pop_cons (run : UnitRun) (rest : List UnitRun) :
    pop ⟨run :: rest⟩ =
      if run.units ≤ 1 then ⟨rest⟩ else ⟨{ run with units := run.units - 1 } :: rest⟩ := by
  by_cases h : run.units ≤ 1 <;> simp [pop, h]

theorem Proper.pop (h : r.Proper) : r.pop.Proper := by
  obtain ⟨runs⟩ := r
  cases runs with
  | nil => exact h
  | cons run rest =>
    have hrest : Proper ⟨rest⟩ := fun run' hrun' => h run' (List.mem_cons_of_mem _ hrun')
    rw [pop_cons]
    split
    · exact hrest
    · rename_i hmore
      intro run' hrun'
      rcases List.mem_cons.1 hrun' with rfl | hrun'
      · exact Nat.sub_pos_of_lt (Nat.lt_of_not_le hmore)
      · exact hrest run' hrun'

/-- The first run has a unit, which is the front. -/
theorem Proper.amounts_cons (run : UnitRun) (rest : List UnitRun) (h : Proper ⟨run :: rest⟩) :
    amounts ⟨run :: rest⟩ =
      run.price :: (List.replicate (run.units - 1) run.price ++ amounts ⟨rest⟩) := by
  have hunits : run.units = run.units - 1 + 1 := by
    have hpos : 0 < run.units := h run List.mem_cons_self
    omega
  rw [UnitRuns.amounts_cons, hunits, List.replicate_succ, List.cons_append]
  rfl

theorem Proper.peek?_eq (h : r.Proper) : r.peek? = r.amounts.head? := by
  obtain ⟨runs⟩ := r
  cases runs with
  | nil => rfl
  | cons run rest =>
    rw [Proper.amounts_cons run rest h]
    rfl

theorem Proper.amounts_pop (h : r.Proper) : r.pop.amounts = r.amounts.tail := by
  obtain ⟨runs⟩ := r
  cases runs with
  | nil => rfl
  | cons run rest =>
    rw [Proper.amounts_cons run rest h, pop_cons, List.tail_cons]
    split
    · rename_i hone
      rw [Nat.sub_eq_zero_of_le hone, List.replicate_zero, List.nil_append]
    · exact UnitRuns.amounts_cons _ _

end UnitRuns

/-! ## Rows -/

namespace ProductRow

variable {rows rows' : List ProductRow}

/-- The products that have units, with the prices of these. -/
def stock (rows : List ProductRow) : List (ProductId × List Amount) :=
  (rows.map fun row => (row.product, row.runs.amounts)).filter fun s => !s.2.isEmpty

/-- No row has a run without units. -/
def Proper (rows : List ProductRow) : Prop := ∀ row ∈ rows, row.runs.Proper

theorem proper_ofLines (lines : List BillLine) : Proper (ofLines lines) := by
  intro row hrow
  obtain ⟨product, -, rfl⟩ := List.mem_map.1 hrow
  exact UnitRuns.proper_ofLines _

theorem Proper.removeFronts (h : Proper rows) (taken : List Front) :
    Proper (removeFronts taken rows) := by
  intro row hrow
  obtain ⟨row', hrow', rfl⟩ := List.mem_map.1 hrow
  rw [removeFront]
  split
  · exact (h row' hrow').pop
  · exact h row' hrow'

/-- The fronts are the first units of the products in stock. -/
theorem filterMap_front? (h : Proper rows) :
    rows.filterMap front? = (stock rows).filterMap fun s => s.2.head?.map (⟨·, s.1⟩) := by
  induction rows with
  | nil => rfl
  | cons row rows ih =>
    have hrow := h row List.mem_cons_self
    have hrest := ih fun row hrow => h row (List.mem_cons_of_mem _ hrow)
    have hfront : row.front? = row.runs.amounts.head?.map (⟨·, row.product⟩) := by
      rw [front?, hrow.peek?_eq]
    rw [stock] at hrest ⊢
    rw [List.filterMap_cons, List.map_cons, List.filter_cons, hfront, hrest]
    cases row.runs.amounts with
    | nil => rfl
    | cons amount amounts => rfl

/-- Fronts that are taken leave the stock. -/
theorem stock_removeFronts (h : Proper rows) (taken : List Front) :
    stock (removeFronts taken rows) =
      ((stock rows).map fun s =>
        if s.1 ∈ taken.map (·.product) then (s.1, s.2.tail) else s).filter
          fun s => !s.2.isEmpty := by
  induction rows with
  | nil => rfl
  | cons row rows ih =>
    have hrow := h row List.mem_cons_self
    have hrest := ih fun row hrow => h row (List.mem_cons_of_mem _ hrow)
    have hamounts : (removeFront taken row).runs.amounts =
        if row.product ∈ taken.map (·.product) then row.runs.amounts.tail
        else row.runs.amounts := by
      rw [removeFront]
      split
      · exact hrow.amounts_pop
      · rfl
    have hproduct : (removeFront taken row).product = row.product := by
      rw [removeFront]
      split <;> rfl
    have hstock : stock (row :: rows) =
        if !row.runs.amounts.isEmpty then (row.product, row.runs.amounts) :: stock rows
        else stock rows :=
      List.filter_cons
    rw [removeFronts, stock] at hrest ⊢
    rw [List.map_cons, List.map_cons, List.filter_cons, hrest, hamounts, hproduct, hstock]
    cases row.runs.amounts with
    | nil => simp [stock]
    | cons amount amounts =>
      rw [List.isEmpty_cons, Bool.not_false, if_pos rfl, List.map_cons, List.filter_cons]
      by_cases hmem : row.product ∈ taken.map (·.product)
      · simp only [if_pos hmem, List.tail_cons, stock]
      · simp only [if_neg hmem, stock]

/-- A product with units has a line. -/
theorem exists_line_of_amounts {lines : List BillLine} {product : ProductId}
    (h : (UnitRuns.ofLines (lines.filter fun line => line.product = product)).amounts ≠ []) :
    ∃ line ∈ lines, line.product = product := by
  by_contra hnone
  have hempty : (lines.filter fun line => line.product = product) = [] :=
    List.filter_eq_nil_iff.2 fun line hline hproduct =>
      hnone ⟨line, hline, of_decide_eq_true hproduct⟩
  rw [hempty] at h
  exact h (by simp [UnitRuns.ofLines, UnitRuns.amounts])

/-- Rows of lines with the same units of each product have the same stock. -/
theorem stock_ofLines_congr {lines lines' : List BillLine}
    (h : ∀ product, (UnitRuns.ofLines (lines.filter fun line => line.product = product)).amounts =
      (UnitRuns.ofLines (lines'.filter fun line => line.product = product)).amounts) :
    stock (ofLines lines) = stock (ofLines lines') := by
  have hstock (lines : List BillLine) : stock (ofLines lines) =
      (((SortedSet.ofList (lines.map (·.product))).toList.filter fun product =>
          !(UnitRuns.ofLines (lines.filter fun line => line.product = product)).amounts.isEmpty).map
        fun product =>
          (product,
            (UnitRuns.ofLines (lines.filter fun line => line.product = product)).amounts)) := by
    rw [stock, ofLines, List.map_map, List.filter_map]
    rfl
  have hmem (lines : List BillLine) (product : ProductId)
      (hunits : (!(UnitRuns.ofLines
        (lines.filter fun line => line.product = product)).amounts.isEmpty) = true) :
      product ∈ SortedSet.ofList (lines.map (·.product)) := by
    obtain ⟨line, hline, rfl⟩ := exists_line_of_amounts (by simpa using hunits)
    exact SortedSet.mem_ofList.2 (List.mem_map_of_mem hline)
  have hproducts := SortedSet.filter_toList_congr
    (s := SortedSet.ofList (lines.map (·.product)))
    (t := SortedSet.ofList (lines'.map (·.product)))
    (P := fun product =>
      !(UnitRuns.ofLines (lines.filter fun line => line.product = product)).amounts.isEmpty)
    (Q := fun product =>
      !(UnitRuns.ofLines (lines'.filter fun line => line.product = product)).amounts.isEmpty)
    fun product => by
      rw [h product]
      exact ⟨fun hp => ⟨hmem lines' product hp.2, hp.2⟩,
        fun hp => ⟨hmem lines product (h product ▸ hp.2), hp.2⟩⟩
  rw [hstock, hstock, hproducts]
  exact List.map_congr_left fun product _ => by rw [h product]

end ProductRow

/-! ## Groups -/

namespace MixMatch

variable {size : Nat} {price : Amount} {g : Groups}

theorem groupUnits_eq (hsize : 0 < size) (runs : UnitRuns) :
    groupUnits size price g runs = (runs.take size).1 >>= fun value? =>
      match value? with
      | none => .ok g
      | some value =>
        g.add price value >>= fun g => groupUnits size price g (runs.take size).2 := by
  rw [groupUnits, dif_pos hsize]
  split
  · rename_i e rest h
    conv_rhs => rw [h]
    rfl
  · rename_i rest h
    conv_rhs => rw [h]
    rfl
  · rename_i value rest h
    conv_rhs => rw [h]
    dsimp only [ok_bind]
    cases g.add price value <;> rfl

/-- Units that come to little give the same groups in whatever runs they are. -/
theorem groupUnits_congr {runs runs' : UnitRuns} (h : runs.prices = runs'.prices)
    (hsmall : UnitRuns.magnitude runs.prices < 2 ^ 63) :
    groupUnits size price g runs = groupUnits size price g runs' := by
  fun_induction groupUnits size price g runs generalizing runs' with
  | case1 g runs hsize e rest ht =>
    obtain ⟨htaken, -⟩ := UnitRuns.take_congr h hsmall size
    rw [groupUnits_eq hsize runs', ← htaken, ht]
    rfl
  | case2 g runs hsize rest ht =>
    obtain ⟨htaken, -⟩ := UnitRuns.take_congr h hsmall size
    rw [groupUnits_eq hsize runs', ← htaken, ht]
    rfl
  | case3 g runs hsize value rest ht hrest e hadd =>
    obtain ⟨htaken, -⟩ := UnitRuns.take_congr h hsmall size
    rw [groupUnits_eq hsize runs', ← htaken, ht]
    dsimp only [ok_bind]
    rw [hadd]
    rfl
  | case4 g runs hsize value rest ht hrest g₁ hadd ih =>
    obtain ⟨htaken, hleft⟩ := UnitRuns.take_congr h hsmall size
    have hsplit := UnitRuns.magnitude_take_add_drop size runs.prices
    have hdrop : rest.prices = runs.prices.drop size := (UnitRuns.take_some_spec ht).2.2
    rw [groupUnits_eq hsize runs', ← htaken, ht]
    dsimp only [ok_bind]
    rw [hadd]
    rw [ht] at hleft
    exact ih hleft (by rw [hdrop]; omega)
  | case5 g runs hzero => rw [groupUnits, dif_neg hzero]

theorem groupProducts_eq (hsize : 0 < size) (rows : List ProductRow) :
    groupProducts size price g rows =
      match dearestFronts? size rows with
      | none => .ok g
      | some fronts =>
        (Amount.sum (fronts.map (·.price))).bind (g.add price) >>= fun g =>
          groupProducts size price g (ProductRow.removeFronts fronts rows) := by
  rw [groupProducts, dif_pos hsize]
  split
  · rename_i h
    rw [h]
  · rename_i fronts h
    conv_rhs => rw [h]
    dsimp only
    cases (Amount.sum (fronts.map (·.price))).bind (g.add price) <;> rfl

/-- Rows with the same stock give the same groups. -/
theorem groupProducts_congr {rows rows' : List ProductRow} (hrows : ProductRow.Proper rows)
    (hrows' : ProductRow.Proper rows') (h : ProductRow.stock rows = ProductRow.stock rows') :
    groupProducts size price g rows = groupProducts size price g rows' := by
  have hfronts {rows rows' : List ProductRow} (hrows : ProductRow.Proper rows)
      (hrows' : ProductRow.Proper rows') (h : ProductRow.stock rows = ProductRow.stock rows') :
      dearestFronts? size rows = dearestFronts? size rows' := by
    rw [dearestFronts?, dearestFronts?, ProductRow.filterMap_front? hrows,
      ProductRow.filterMap_front? hrows', h]
  fun_induction groupProducts size price g rows generalizing rows' with
  | case1 g rows hsize hf =>
    rw [groupProducts_eq hsize rows', ← hfronts hrows hrows' h, hf]
  | case2 g rows hsize fronts hf hless e hadd =>
    rw [groupProducts_eq hsize rows', ← hfronts hrows hrows' h, hf]
    dsimp only
    rw [hadd]
    rfl
  | case3 g rows hsize fronts hf hless g₁ hadd ih =>
    have hstock : ProductRow.stock (ProductRow.removeFronts fronts rows) =
        ProductRow.stock (ProductRow.removeFronts fronts rows') := by
      rw [ProductRow.stock_removeFronts hrows, ProductRow.stock_removeFronts hrows', h]
    rw [groupProducts_eq hsize rows', ← hfronts hrows hrows' h, hf]
    dsimp only
    rw [hadd]
    exact ih (hrows.removeFronts fronts) (hrows'.removeFronts fronts) hstock
  | case4 g rows hzero => rw [groupProducts, dif_neg hzero]

/-- Lines give the same groups if all their units do and each product has the same units. -/
theorem groups_congr {r : MixMatch} {lines lines' : List BillLine}
    (hall : groupUnits r.groupSize.toNat r.specialPrice {} (.ofLines lines) =
      groupUnits r.groupSize.toNat r.specialPrice {} (.ofLines lines'))
    (hproducts : ∀ product,
      (UnitRuns.ofLines (lines.filter fun line => line.product = product)).amounts =
        (UnitRuns.ofLines (lines'.filter fun line => line.product = product)).amounts) :
    r.groups lines = r.groups lines' := by
  rw [groups, groups]
  split
  · exact hall
  · exact groupProducts_congr (ProductRow.proper_ofLines lines) (ProductRow.proper_ofLines lines')
      (ProductRow.stock_ofLines_congr hproducts)

end MixMatch

end Promotions

import Promotions.Proofs.Grouping.Rows

/-!
# Proofs: what each group is worth

Forming groups keeps only how many there are and what they save. Here they are formed with what each
of them is worth. A group takes its units off those that are left, so no unit is in two of them, and
together they are worth no more than the units cost.
-/

namespace Promotions.MixMatch

open Fallible

variable {σ : Type} {size : Nat} {price : Amount} {g g' : Groups}

/-! ## One group after the other -/

/-- What the group of the dearest units is worth and the units without it, if there are enough. -/
def nextOfUnits (size : Nat) (runs : UnitRuns) :
    Except ArithmeticError (Option (Amount × UnitRuns)) :=
  (runs.take size).1.map fun value? => value?.map fun value => (value, (runs.take size).2)

/-- What the group of the dearest fronts is worth and the rows without it, if there are enough. -/
def nextOfProducts (size : Nat) (rows : List ProductRow) :
    Except ArithmeticError (Option (Amount × List ProductRow)) :=
  match dearestFronts? size rows with
  | none => .ok none
  | some fronts =>
    (Amount.sum (fronts.map (·.price))).map fun value =>
      some (value, ProductRow.removeFronts fronts rows)

/-- Groups that are worth so much each are formed one after the other, until there are too few units
for another. -/
inductive Formed (next : σ → Except ArithmeticError (Option (Amount × σ))) :
    σ → List Amount → Prop
  | done {s : σ} (h : next s = .ok none) : Formed next s []
  | group {s rest : σ} {value : Amount} {values : List Amount}
      (h : next s = .ok (some (value, rest))) (hrest : Formed next rest values) :
      Formed next s (value :: values)

/-- The groups of a category, of units that may be of one product or may not. -/
def FormsGroups (r : MixMatch) (lines : List BillLine) (values : List Amount) : Prop :=
  if r.allowSameProduct then Formed (nextOfUnits r.groupSize.toNat) (.ofLines lines) values
  else Formed (nextOfProducts r.groupSize.toNat) (ProductRow.ofLines lines) values

/-- What groups save that are worth so much each. -/
def savedBy (price : Amount) (values : List Amount) : Int :=
  (values.map fun value => max 0 (value.toInt - price.toInt)).sum

/-- The number of groups that are worth more than the price. -/
def countAbove (price : Amount) (values : List Amount) : Nat :=
  values.countP fun value => price < value

namespace Formed

variable {next : σ → Except ArithmeticError (Option (Amount × σ))} {s : σ} {values : List Amount}

theorem unique {values' : List Amount} (h : Formed next s values) (h' : Formed next s values') :
    values = values' := by
  induction h generalizing values' with
  | done h =>
    cases h' with
    | done => rfl
    | group h' => cases h.symm.trans h'
  | group h _ ih =>
    cases h' with
    | done h' => cases h.symm.trans h'
    | group h' hrest =>
      cases h.symm.trans h'
      rw [ih hrest]

/-- Where every group takes its worth off what is left, all groups are worth no more than there was
at first. `P` is what the steps keep. -/
theorem sum_le {P : σ → Prop} {worth : σ → Int} (hworth : ∀ s, P s → 0 ≤ worth s)
    (hstep : ∀ s value rest, P s → next s = .ok (some (value, rest)) →
      P rest ∧ 0 ≤ value.toInt ∧ value.toInt + worth rest ≤ worth s)
    (h : Formed next s values) (hs : P s) :
    (∀ value ∈ values, 0 ≤ value.toInt) ∧ (values.map Amount.toInt).sum ≤ worth s := by
  induction h with
  | done => exact ⟨List.forall_mem_nil _, hworth _ hs⟩
  | group h _ ih =>
    obtain ⟨hrest, hvalue, hless⟩ := hstep _ _ _ hs h
    obtain ⟨hvalues, hsum⟩ := ih hrest
    rw [List.map_cons, List.sum_cons]
    exact ⟨List.forall_mem_cons.2 ⟨hvalue, hvalues⟩, by omega⟩

end Formed

theorem FormsGroups.unique {r : MixMatch} {lines : List BillLine} {values values' : List Amount}
    (h : r.FormsGroups lines values) (h' : r.FormsGroups lines values') : values = values' := by
  unfold FormsGroups at h h'
  split at h
  · rw [if_pos (by assumption)] at h'
    exact h.unique h'
  · rw [if_neg (by assumption)] at h'
    exact h.unique h'

/-! ## What is saved -/

theorem savedBy_cons (price value : Amount) (values : List Amount) :
    savedBy price (value :: values) =
      max 0 (value.toInt - price.toInt) + savedBy price values := List.sum_cons

/-- What is saved and the price of each group that saves something come to no more than the groups
are worth. -/
theorem savedBy_add_le (price : Amount) {values : List Amount}
    (h : ∀ value ∈ values, 0 ≤ value.toInt) :
    savedBy price values + countAbove price values * price.toInt ≤
      (values.map Amount.toInt).sum := by
  induction values with
  | nil => simp [savedBy, countAbove]
  | cons value values ih =>
    obtain ⟨hvalue, hvalues⟩ := List.forall_mem_cons.1 h
    have hrest := ih hvalues
    unfold countAbove at hrest ⊢
    rw [savedBy_cons, List.countP_cons, List.map_cons, List.sum_cons]
    by_cases hsaves : price < value
    · have hlt : price.toInt < value.toInt := hsaves
      rw [if_pos (decide_eq_true hsaves), Nat.cast_add, Int.add_mul, Nat.cast_one, Int.one_mul]
      omega
    · have hle : value.toInt ≤ price.toInt := Int.not_lt.1 hsaves
      rw [if_neg (by simpa using hsaves), Nat.add_zero]
      omega

theorem exists_formed_units (hsize : 0 < size) (hprice : 0 ≤ price) {runs : UnitRuns}
    (h : groupUnits size price g runs = .ok g') :
    ∃ values, Formed (nextOfUnits size) runs values ∧
      g'.saved.toInt = g.saved.toInt + savedBy price values := by
  fun_induction groupUnits size price g runs with
  | case1 => cases h
  | case2 g runs _ rest ht =>
    obtain rfl := Except.ok.inj h
    refine ⟨[], .done ?_, (Int.add_zero _).symm⟩
    unfold nextOfUnits
    rw [ht]
    rfl
  | case3 => cases h
  | case4 g runs _ value rest ht hrest g₁ hadd ih =>
    obtain ⟨values, hformed, hsaved⟩ := ih h
    have hadded := (toInt_saved_add hprice hadd).1
    refine ⟨value :: values, .group ?_ hformed, ?_⟩
    · unfold nextOfUnits
      rw [ht]
      rfl
    · rw [hsaved, hadded, savedBy_cons, Int.add_assoc]
  | case5 _ _ hzero => exact absurd hsize hzero

theorem exists_formed_products (hsize : 0 < size) (hprice : 0 ≤ price) {rows : List ProductRow}
    (h : groupProducts size price g rows = .ok g') :
    ∃ values, Formed (nextOfProducts size) rows values ∧
      g'.saved.toInt = g.saved.toInt + savedBy price values := by
  fun_induction groupProducts size price g rows with
  | case1 g rows _ hf =>
    obtain rfl := Except.ok.inj h
    refine ⟨[], .done ?_, (Int.add_zero _).symm⟩
    unfold nextOfProducts
    rw [hf]
  | case2 => cases h
  | case3 g rows _ fronts hf hless g₁ hadd ih =>
    obtain ⟨values, hformed, hsaved⟩ := ih h
    obtain ⟨value, hvalue, hadd⟩ := bind_eq_ok_iff.1 hadd
    have hadded := (toInt_saved_add hprice hadd).1
    refine ⟨value :: values, .group ?_ hformed, ?_⟩
    · unfold nextOfProducts
      rw [hf]
      dsimp only
      rw [hvalue]
      rfl
    · rw [hsaved, hadded, savedBy_cons, Int.add_assoc]
  | case4 _ _ hzero => exact absurd hsize hzero

/-- What a group rule saves is what its groups save that are worth more than its price. -/
theorem exists_formsGroups {r : MixMatch} (hsize : 0 < r.groupSize.toNat)
    (hprice : 0 ≤ r.specialPrice) {lines : List BillLine} (h : r.groups lines = .ok g) :
    ∃ values, r.FormsGroups lines values ∧ g.saved.toInt = savedBy r.specialPrice values := by
  have hnone : ({} : Groups).saved.toInt = 0 := rfl
  unfold groups at h
  unfold FormsGroups
  split at h
  · rename_i hsame
    obtain ⟨values, hformed, hsaved⟩ := exists_formed_units hsize hprice h
    rw [hnone, Int.zero_add] at hsaved
    exact ⟨values, by rwa [if_pos hsame], hsaved⟩
  · rename_i hdifferent
    obtain ⟨values, hformed, hsaved⟩ := exists_formed_products hsize hprice h
    rw [hnone, Int.zero_add] at hsaved
    exact ⟨values, by rwa [if_neg hdifferent], hsaved⟩

/-! ## What groups are worth -/

theorem nextOfUnits_spec {runs rest : UnitRuns} {value : Amount}
    (hnonneg : ∀ p ∈ runs.prices, 0 ≤ p) (h : nextOfUnits size runs = .ok (some (value, rest))) :
    (∀ p ∈ rest.prices, 0 ≤ p) ∧ 0 ≤ value.toInt ∧
      value.toInt + rest.prices.sum ≤ runs.prices.sum := by
  obtain ⟨taken?, htaken, h⟩ := map_eq_ok_iff.1 h
  obtain ⟨taken, rfl, hgroup⟩ := Option.map_eq_some_iff.1 h
  obtain ⟨rfl, rfl⟩ := Prod.mk.inj hgroup
  obtain ⟨-, hvalue, hrest⟩ := UnitRuns.take_some_spec (Prod.ext htaken rfl)
  have hsplit := List.sum_take_add_sum_drop runs.prices size
  refine ⟨?_, ?_, ?_⟩
  · rw [hrest]
    exact fun p hp => hnonneg p (List.mem_of_mem_drop hp)
  · rw [hvalue]
    exact List.sum_nonneg fun p hp => hnonneg p (List.mem_of_mem_take hp)
  · rw [hvalue, hrest]
    omega

theorem nextOfProducts_spec {rows rest : List ProductRow} {value : Amount}
    (hrows : ProductRow.Proper rows ∧ ProductRow.Nonneg rows)
    (h : nextOfProducts size rows = .ok (some (value, rest))) :
    (ProductRow.Proper rest ∧ ProductRow.Nonneg rest) ∧ 0 ≤ value.toInt ∧
      value.toInt + ProductRow.worth rest ≤ ProductRow.worth rows := by
  unfold nextOfProducts at h
  split at h
  · cases h
  · rename_i fronts hfronts
    obtain ⟨_, hsum, h⟩ := map_eq_ok_iff.1 h
    obtain ⟨rfl, rfl⟩ := Prod.mk.inj (Option.some.inj h)
    obtain ⟨hproper, hnonneg⟩ := hrows
    have hsubperm := dearestFronts?_subperm hfronts
    have hprices : ∀ amount ∈ fronts.map (·.price), 0 ≤ amount.toInt :=
      List.forall_mem_map.2 fun front hfront => hnonneg.fronts hproper (hsubperm.subset hfront)
    rw [Amount.sum_eq_checked hprices, Amount.checked_eq_ok_iff, List.map_map] at hsum
    refine ⟨⟨hproper.removeFronts fronts, hnonneg.removeFronts hproper fronts⟩, ?_, ?_⟩
    · rw [hsum]
      exact List.sum_nonneg (List.forall_mem_map.2 fun front hfront =>
        hprices _ (List.mem_map_of_mem hfront))
    · rw [hsum]
      exact ProductRow.sum_add_worth_le hproper hnonneg hsubperm

/-- All groups of lines without negative prices are together worth no more than the lines cost. -/
theorem FormsGroups.sum_le {r : MixMatch} {lines : List BillLine} {values : List Amount}
    (h : r.FormsGroups lines values) (hprices : ∀ line ∈ lines, 0 ≤ line.unitPrice) :
    (∀ value ∈ values, 0 ≤ value.toInt) ∧
      (values.map Amount.toInt).sum ≤ (UnitRuns.pricesOfLines lines).sum := by
  unfold FormsGroups at h
  split at h
  · have hperm := UnitRuns.prices_ofLines_perm lines
    have hnonneg : ∀ p ∈ (UnitRuns.ofLines lines).prices, 0 ≤ p := fun p hp =>
      UnitRuns.nonneg_of_mem_pricesOfLines hprices (hperm.mem_iff.1 hp)
    obtain ⟨hvalues, hsum⟩ := h.sum_le (P := fun runs => ∀ p ∈ runs.prices, 0 ≤ p)
      (fun _ hs => List.sum_nonneg hs) (fun _ _ _ => nextOfUnits_spec) hnonneg
    exact ⟨hvalues, hsum.trans (Int.le_of_eq hperm.sum_eq)⟩
  · have hrows := ProductRow.nonneg_ofLines hprices
    obtain ⟨hvalues, hsum⟩ := h.sum_le (fun _ hs => ProductRow.worth_nonneg hs.2)
      (fun _ _ _ => nextOfProducts_spec) ⟨ProductRow.proper_ofLines lines, hrows⟩
    exact ⟨hvalues, hsum.trans (ProductRow.worth_ofLines_le hprices)⟩

end Promotions.MixMatch

import Promotions.Proofs.Grouping.Renamed
import Promotions.Proofs.Grouping.Rounds
import Promotions.Proofs.Grouping.Rows

/-!
# Proofs: rows yield the groups of single units

Rows keep the units of a product as runs, and the fronts of a group are those that sorting puts
first. Rows that show what stands on shelves still show it after a group was taken, and the group is
the one that single units form. So a rule grants what those groups save.
-/

namespace Promotions

open Fallible MixMatch

variable {lines : List BillLine}

/-- A front that is there can be taken as one unit: it never costs too much, and it is what leaves
the runs. -/
theorem UnitRuns.Proper.take_one {r : UnitRuns} (h : r.Proper) {front : Amount}
    (hfront : r.peek? = some front) : r.take 1 = (.ok (some front), r.pop) := by
  obtain ⟨runs⟩ := r
  cases runs with
  | nil => cases hfront
  | cons run runs =>
    obtain rfl : run.price = front := Option.some.inj hfront
    have hunits : 0 < run.units := h run List.mem_cons_self
    have hone : min run.units 1 = 1 := by omega
    have hpaid : (run.price.times 1).bind (0 : Amount).add = .ok run.price := by
      have hprice : run.price.times 1 = .ok run.price :=
        Amount.times_eq_ok_iff.2 (Int.mul_one _).symm
      rw [hprice]
      exact Amount.add_eq_ok_iff.2 (Int.zero_add _).symm
    have henough : ¬UnitRuns.units ⟨run :: runs⟩ < 1 := by
      unfold UnitRuns.units UnitRuns.unitsOf
      omega
    rw [take, if_neg henough, pop_cons, takeFrom, hone, hpaid]
    dsimp only
    rw [Nat.zero_add]
    split
    · rename_i hlast
      rw [Nat.sub_eq_zero_of_le hunits]
      cases runs <;> rfl
    · rfl

namespace UnitOf

open Finset

/-- The price of a unit as an amount. -/
def amount (u : UnitOf lines) : Amount := (lines.get u.1).unitPrice

/-- The unit as the front of the row of its product. -/
def front (u : UnitOf lines) : Front := ⟨u.amount, u.product⟩

theorem comesBefore_of_dearerFront {u v : UnitOf lines} (h : dearerFront u.front v.front = true)
    (hproduct : u.product ≠ v.product) : u.ComesBefore v := by
  rcases dearerFront_iff.1 h with hprice | ⟨hprice, hbefore⟩
  · exact .inl hprice
  · refine .inr ⟨congrArg Amount.toInt hprice, ?_⟩
    by_contra hnot
    exact hproduct (Ordered.eq_of_not_before (Bool.eq_false_of_not_eq_true hnot) hbefore)

/-- The units of a product are those of the lines that have it. -/
theorem map_price_filter (lines : List BillLine) (p : ProductId) :
    ((univ : Finset (UnitOf lines)).filter fun u => u.product = p).val.map price =
      (UnitRuns.pricesOfLines (lines.filter fun line => line.product = p) : Multiset Int) := by
  have huniv : (univ : Finset (UnitOf lines)).val =
      (univ : Finset (Fin lines.length)).val.bind fun i =>
        (univ : Finset (Fin (lines.get i).quantity.toNat)).val.map (Sigma.mk i) := rfl
  have hlines : (lines : Multiset BillLine) =
      (univ : Finset (Fin lines.length)).val.map lines.get := by
    rw [Fin.univ_val_map, List.ofFn_get]
  rw [UnitRuns.pricesOfLines, ← Multiset.coe_bind, ← Multiset.filter_coe, Multiset.bind_filter,
    hlines, Multiset.bind_map, filter_val, huniv, Multiset.filter_bind, Multiset.map_bind]
  refine Multiset.bind_congr fun i _ => ?_
  rw [Multiset.filter_map, Multiset.map_map]
  by_cases hproduct : (lines.get i).product = p
  · have hall : ((univ : Finset (Fin (lines.get i).quantity.toNat)).val.filter
        ((fun u : UnitOf lines => u.product = p) ∘ Sigma.mk i)) = univ.val :=
      Multiset.filter_eq_self.2 fun _ _ => hproduct
    have hline : price ∘ Sigma.mk i =
        fun _ : Fin (lines.get i).quantity.toNat => (lines.get i).unitPrice.toInt := rfl
    rw [hall, if_pos hproduct, hline, Multiset.map_const', card_val, card_univ, Fintype.card_fin,
      Multiset.coe_replicate]
  · have hnone : ((univ : Finset (Fin (lines.get i).quantity.toNat)).val.filter
        ((fun u : UnitOf lines => u.product = p) ∘ Sigma.mk i)) = 0 :=
      Multiset.filter_eq_nil.2 fun _ _ => hproduct
    rw [hnone, if_neg hproduct, Multiset.map_zero]

end UnitOf

/-- The groups with one more of some units. -/
def MixMatch.Groups.addUnits (price : Amount) (g : Groups) (group : List (UnitOf lines)) :
    Except ArithmeticError Groups :=
  (Amount.sum (group.map UnitOf.amount)).bind (g.add price)

/-! ## Rows and shelves -/

namespace ProductRow

theorem product_removeFront (taken : List Front) (row : ProductRow) :
    (row.removeFront taken).product = row.product := by
  rw [removeFront]
  split <;> rfl

theorem map_product_removeFronts (taken : List Front) (rows : List ProductRow) :
    (removeFronts taken rows).map (·.product) = rows.map (·.product) := by
  rw [removeFronts, List.map_map]
  exact List.map_congr_left fun row _ => product_removeFront taken row

end ProductRow

/-- The fronts of a group are so many, and come before the others. -/
theorem MixMatch.dearestFronts?_spec {size : Nat} {rows : List ProductRow} {fronts : List Front}
    (h : dearestFronts? size rows = some fronts) :
    fronts.length = size ∧ fronts.Pairwise (fun f f' => dearerFront f f' = true) ∧
      ∀ f ∈ fronts, ∀ f' ∈ rows.filterMap ProductRow.front?, f' ∉ fronts →
        dearerFront f f' = true := by
  have hsplit := List.take_append_drop size
    ((rows.filterMap ProductRow.front?).mergeSort dearerFront)
  have hsorted := isRanking_dearerFront.pairwise_mergeSort (rows.filterMap ProductRow.front?)
  rw [← hsplit, List.pairwise_append] at hsorted
  simp only [dearestFronts?] at h
  split at h
  · rename_i henough
    obtain rfl := Option.some.inj h
    refine ⟨?_, hsorted.1, fun f hf f' hf' hout => hsorted.2.2 f hf f' ?_⟩
    · rw [List.length_take, List.length_mergeSort, Nat.min_eq_left henough]
    · have hmem : f' ∈ (rows.filterMap ProductRow.front?).mergeSort dearerFront :=
        List.mem_mergeSort.2 hf'
      rw [← hsplit, List.mem_append] at hmem
      exact hmem.resolve_left hout
  · cases h

/-- Rows keep, for each product that has units left, the prices of what stands on its shelf. -/
structure Shows (rows : List ProductRow) (shelves : Shelves lines) : Prop where
  proper : ProductRow.Proper rows
  nodup : (rows.map (·.product)).Nodup
  amounts : ∀ row ∈ rows, row.runs.amounts = (shelves row.product).map UnitOf.amount
  empty : ∀ p, p ∉ rows.map (·.product) → shelves p = []
  own : ∀ p, ∀ u ∈ shelves p, u.product = p

namespace Shows

variable {rows : List ProductRow} {shelves : Shelves lines} {size : Nat} {fronts : List Front}

/-- The fronts are the first units of the shelves. -/
theorem mem_fronts_iff (h : Shows rows shelves) {front : Front} :
    front ∈ rows.filterMap ProductRow.front? ↔
      ∃ u : UnitOf lines, (shelves u.product).head? = some u ∧ u.front = front := by
  have hfront : ∀ row ∈ rows, row.front? =
      (shelves row.product).head?.map fun u => ⟨u.amount, row.product⟩ := by
    intro row hrow
    rw [ProductRow.front?, (h.proper row hrow).peek?_eq, h.amounts row hrow, List.head?_map,
      Option.map_map]
    rfl
  rw [List.mem_filterMap]
  constructor
  · rintro ⟨row, hrow, hsome⟩
    rw [hfront row hrow] at hsome
    obtain ⟨u, hu, rfl⟩ := Option.map_eq_some_iff.1 hsome
    have hproduct := h.own row.product u (List.mem_of_head? hu)
    rw [← hproduct] at hu ⊢
    exact ⟨u, hu, rfl⟩
  · rintro ⟨u, hu, rfl⟩
    have hproduct : u.product ∈ rows.map (·.product) := by
      by_contra hnone
      rw [h.empty u.product hnone] at hu
      cases hu
    obtain ⟨row, hrow, hsame⟩ := List.mem_map.1 hproduct
    refine ⟨row, hrow, ?_⟩
    rw [hfront row hrow, hsame, hu]
    rfl

theorem nodup_fronts (h : Shows rows shelves) :
    ((rows.filterMap ProductRow.front?).map (·.product)).Nodup := by
  refine List.pairwise_map.2 ((List.pairwise_map.1 h.nodup).filterMap _ ?_)
  intro row row' hne front hfront front' hfront'
  obtain ⟨price, -, rfl⟩ := Option.map_eq_some_iff.1 hfront
  obtain ⟨price', -, rfl⟩ := Option.map_eq_some_iff.1 hfront'
  exact hne

/-- There are as many fronts as products with units left. -/
theorem encard_products (h : Shows rows shelves) :
    shelves.products.encard = (rows.filterMap ProductRow.front?).length := by
  have hproducts : shelves.products =
      (((rows.filterMap ProductRow.front?).map (·.product)).toFinset : Set ProductId) := by
    ext p
    rw [List.coe_toFinset, Set.mem_ofPred_eq, List.mem_map]
    constructor
    · intro hunits
      obtain ⟨u, hu⟩ := Option.ne_none_iff_exists'.1 (mt List.head?_eq_none_iff.1 hunits)
      obtain rfl := h.own p u (List.mem_of_head? hu)
      exact ⟨u.front, h.mem_fronts_iff.2 ⟨u, hu, rfl⟩, rfl⟩
    · rintro ⟨front, hfront, rfl⟩
      obtain ⟨u, hu, rfl⟩ := h.mem_fronts_iff.1 hfront
      exact List.ne_nil_of_mem (List.mem_of_head? hu)
  rw [hproducts, Set.encard_coe_eq_coe_finsetCard, List.toFinset_card_of_nodup h.nodup_fronts,
    List.length_map]

theorem few_iff (h : Shows rows shelves) :
    dearestFronts? size rows = none ↔ shelves.products.encard < size := by
  rw [dearestFronts?_eq_none_iff, h.encard_products, Nat.cast_lt]

/-- The fronts of a group are the fronts of units that stand first. -/
theorem exists_group (h : Shows rows shelves)
    (hfronts : fronts ⊆ rows.filterMap ProductRow.front?) :
    ∃ group : List (UnitOf lines), group.map UnitOf.front = fronts ∧
      ∀ u ∈ group, (shelves u.product).head? = some u := by
  induction fronts with
  | nil => exact ⟨[], rfl, List.forall_mem_nil _⟩
  | cons front fronts ih =>
    obtain ⟨hfront, hrest⟩ := List.cons_subset.1 hfronts
    obtain ⟨u, hu, rfl⟩ := h.mem_fronts_iff.1 hfront
    obtain ⟨group, rfl, hgroup⟩ := ih hrest
    exact ⟨u :: group, rfl, List.forall_mem_cons.2 ⟨hu, hgroup⟩⟩

/-- The units whose fronts come first are a group. -/
theorem isRound (h : Shows rows shelves) {group : List (UnitOf lines)}
    (hfronts : dearestFronts? size rows = some (group.map UnitOf.front))
    (hfirst : ∀ u ∈ group, (shelves u.product).head? = some u) :
    IsRound size shelves group fun p =>
      if p ∈ group.map UnitOf.product then (shelves p).tail else shelves p := by
  obtain ⟨hlength, hordered, hdearest⟩ := dearestFronts?_spec hfronts
  have hdifferent : (group.map UnitOf.product).Nodup := by
    obtain ⟨fronts, hperm, hsublist⟩ := dearestFronts?_subperm hfronts
    have hnodup := (hperm.map (·.product)).nodup_iff.1 (h.nodup_fronts.sublist (hsublist.map _))
    rwa [List.map_map] at hnodup
  -- the first unit of a product of the group is the one in the group
  have hin : ∀ u ∈ group, ∀ v, (shelves v.product).head? = some v → u.product = v.product →
      v ∈ group := by
    intro u hu v hv hproduct
    have hsame := hfirst u hu
    rw [hproduct, hv] at hsame
    obtain rfl := Option.some.inj hsame
    exact hu
  refine
    { length := by rwa [List.length_map] at hlength
      ordered := ?_
      first := hfirst
      dearest := fun u hu v hv hout => ?_
      rest := fun _ => rfl }
  · exact (List.pairwise_map.1 hordered).imp₂ (fun _ _ => UnitOf.comesBefore_of_dearerFront)
      (List.pairwise_map.1 hdifferent)
  · have hfar : v.front ∉ group.map UnitOf.front := by
      intro hmem
      obtain ⟨w, hw, hfront⟩ := List.mem_map.1 hmem
      exact hout (hin w hw v hv (congrArg Front.product hfront))
    exact UnitOf.comesBefore_of_dearerFront
      (hdearest _ (List.mem_map_of_mem hu) _ (h.mem_fronts_iff.2 ⟨v, hv, rfl⟩) hfar)
      fun hproduct => hout (hin u hu v hv hproduct)

/-- What stays in rows is what a group leaves on the shelves. -/
theorem removeFronts (h : Shows rows shelves) {next : Shelves lines} {group : List (UnitOf lines)}
    (hround : IsRound size shelves group next) :
    Shows (ProductRow.removeFronts (group.map UnitOf.front) rows) next := by
  have htaken : (group.map UnitOf.front).map (·.product) = group.map UnitOf.product :=
    List.map_map
  refine
    { proper := h.proper.removeFronts _
      nodup := ?_
      amounts := fun row' hrow' => ?_
      empty := fun p hp => ?_
      own := fun p u hu => ?_ }
  · rw [ProductRow.map_product_removeFronts]
    exact h.nodup
  · obtain ⟨row, hrow, rfl⟩ := List.mem_map.1 hrow'
    rw [ProductRow.product_removeFront, hround.rest, ProductRow.removeFront, htaken]
    split
    · rw [List.map_tail, ← h.amounts row hrow]
      exact (h.proper row hrow).amounts_pop
    · exact h.amounts row hrow
  · rw [ProductRow.map_product_removeFronts] at hp
    rw [hround.rest, h.empty p hp, List.tail_nil, ite_self]
  · rw [hround.rest] at hu
    split at hu
    · exact h.own p u (List.mem_of_mem_tail hu)
    · exact h.own p u hu

/-- The groups of rows are those of the units that the rows show, formed one after the other. -/
theorem exists_rounds (hsize : 0 < size) {rows : List ProductRow} {shelves : Shelves lines}
    (h : Shows rows shelves) :
    ∃ groups rest, Rounds size shelves groups rest ∧
      ∀ price g, groupProducts size price g rows = groups.foldlM (Groups.addUnits price) g := by
  -- a group takes weight off the rows, and those that are left show what it leaves on the shelves
  cases hfronts : dearestFronts? size rows with
  | none =>
    refine ⟨[], shelves, .done (h.few_iff.1 hfronts), fun price g => ?_⟩
    rw [groupProducts_eq hsize, hfronts]
    rfl
  | some fronts =>
    obtain ⟨group, rfl, hfirst⟩ := h.exists_group (dearestFronts?_subperm hfronts).subset
    have hround := h.isRound hfronts hfirst
    obtain ⟨groups, rest, hrest, hfold⟩ := exists_rounds hsize (h.removeFronts hround)
    refine ⟨group :: groups, rest, .group hround hrest, fun price g => ?_⟩
    have hprices : (group.map UnitOf.front).map (·.price) = group.map UnitOf.amount :=
      List.map_map
    rw [groupProducts_eq hsize, hfronts, List.foldlM_cons]
    dsimp only
    simp only [hprices, hfold]
    rfl
termination_by ProductRow.weight rows
decreasing_by exact weight_dearestFronts_lt hsize hfronts

end Shows

/-! ## The rows of lines -/

section Lines

variable {shelves : Shelves lines}

/-- What stands on a shelf has the prices of the runs of its product. -/
theorem Shelves.IsListing.amountsOf_eq (h : shelves.IsListing) (p : ProductId) :
    UnitRuns.amountsOf lines p = (shelves p).map UnitOf.amount := by
  have hunits : ((Finset.univ : Finset (UnitOf lines)).filter fun u => u.product = p).val =
      (shelves p : Multiset (UnitOf lines)) := by
    refine (Multiset.Nodup.ext (Finset.nodup _) (Multiset.coe_nodup.2 (h.nodup p))).2 fun u => ?_
    rw [Finset.mem_val, Finset.mem_filter_univ, Multiset.mem_coe, h.mem_iff]
  have hperm := UnitOf.map_price_filter lines p
  rw [hunits, Multiset.map_coe, Multiset.coe_eq_coe] at hperm
  have hprices := ((UnitRuns.prices_ofLines_perm _).trans hperm.symm).eq_of_pairwise
    (fun _ _ _ _ hba hab => Int.le_antisymm hab hba) (UnitRuns.pairwise_prices_ofLines _)
    (List.pairwise_map.2 (h.descending p))
  have hinj : Function.Injective Amount.toInt := fun _ _ => Amount.ext
  refine hinj.list_map ?_
  rw [UnitRuns.amountsOf, UnitRuns.map_toInt_amounts, hprices, List.map_map]
  rfl

theorem Shelves.IsListing.shows (h : shelves.IsListing) :
    Shows (ProductRow.ofLines lines) shelves where
  proper := ProductRow.proper_ofLines lines
  nodup := by
    rw [ProductRow.ofLines, List.map_map]
    exact (SortedSet.nodup_toList _).map Function.injective_id
  amounts := by
    intro row hrow
    obtain ⟨p, -, rfl⟩ := List.mem_map.1 hrow
    exact h.amountsOf_eq p
  empty := by
    intro p hp
    by_contra hunits
    obtain ⟨u, hu⟩ := List.exists_mem_of_ne_nil _ hunits
    rw [ProductRow.ofLines, List.map_map] at hp
    obtain rfl := (h.mem_iff p u).1 hu
    refine hp (List.mem_map.2 ⟨u.product, ?_, rfl⟩)
    exact SortedSet.mem_ofList.2 (List.mem_map_of_mem (List.get_mem lines u.1))
  own := fun p u => (h.mem_iff p u).1

theorem mem_productsOf_iff {p : ProductId} :
    p ∈ productsOf lines ↔ UnitRuns.amountsOf lines p ≠ [] := by
  obtain ⟨shelves, hshelves⟩ := Shelves.exists_isListing lines
  rw [← hshelves.products_eq, hshelves.amountsOf_eq, Ne, List.map_eq_nil_iff]
  rfl

end Lines

/-! ## What groups save -/

theorem Amount.toInt_excess_eq_min (a b : Amount) :
    (excess a b).toInt = min (max 0 (a.toInt - b.toInt)) 9223372036854775807 := by
  rw [excess, toInt_max, toInt_subSat, toInt_zero]
  omega

theorem Amount.foldlM_add_error {amounts : List Amount} {start : Amount} {e : ArithmeticError}
    (h : amounts.foldlM add start = .error e) :
    e = .overflow ∧ 2 ^ 63 ≤ start.toInt.natAbs + UnitRuns.magnitude (amounts.map toInt) := by
  induction amounts generalizing start with
  | nil => cases h
  | cons a amounts ih =>
    have hcons : UnitRuns.magnitude ((a :: amounts).map toInt) =
        a.toInt.natAbs + UnitRuns.magnitude (amounts.map toInt) := List.sum_cons
    rw [List.foldlM_cons] at h
    rcases bind_eq_error_iff.1 h with h | ⟨next, hnext, h⟩
    · obtain ⟨he, hrange⟩ := add_eq_error_iff.1 h
      exact ⟨he, by omega⟩
    · obtain ⟨he, hrange⟩ := ih h
      rw [add_eq_ok_iff.1 hnext] at hrange
      exact ⟨he, by omega⟩

namespace MixMatch

/-- What a group saves whose units are had for a price together. -/
def groupSaving (price : Int) (group : List (UnitOf lines)) : Int :=
  max 0 ((group.map UnitOf.price).sum - price)

variable {price : Amount} {g g' : Groups} {group : List (UnitOf lines)}
  {groups : List (List (UnitOf lines))} {e : ArithmeticError}

theorem map_toInt_amount (group : List (UnitOf lines)) :
    (group.map UnitOf.amount).map Amount.toInt = group.map UnitOf.price := List.map_map

theorem toInt_sum_amount {value : Amount} (h : Amount.sum (group.map UnitOf.amount) = .ok value) :
    value.toInt = (group.map UnitOf.price).sum := by
  rcases Amount.sum_cases (group.map UnitOf.amount) with ⟨total, htotal, hexact⟩ | hover
  · rw [htotal] at h
    obtain rfl := Except.ok.inj h
    rw [hexact, map_toInt_amount]
  · rw [hover] at h
    cases h

theorem count_addUnits (h : g.addUnits price group = .ok g') : g'.count = g.count + 1 := by
  obtain ⟨_, -, hadd⟩ := bind_eq_ok_iff.1 h
  obtain ⟨_, -, hg'⟩ := bind_eq_ok_iff.1 hadd
  obtain rfl := pure_eq_ok_iff.1 hg'
  rfl

/-- Each of the groups is counted. -/
theorem count_foldlM_addUnits (h : groups.foldlM (Groups.addUnits price) g = .ok g') :
    g'.count = g.count + UInt32.ofNat groups.length := by
  induction groups generalizing g with
  | nil =>
    obtain rfl := pure_eq_ok_iff.1 h
    exact (UInt32.add_zero _).symm
  | cons group groups ih =>
    rw [List.foldlM_cons] at h
    obtain ⟨g₁, hadd, h⟩ := bind_eq_ok_iff.1 h
    rw [ih h, count_addUnits hadd, List.length_cons, Nat.add_comm _ 1, UInt32.ofNat_add,
      ← UInt32.add_assoc]
    rfl

/-- What is saved goes up by what the group saves, and not above the greatest amount. -/
theorem saved_addUnits (hsaved : 0 ≤ g.saved.toInt) (h : g.addUnits price group = .ok g') :
    g'.saved.toInt =
      min (g.saved.toInt + groupSaving price.toInt group) 9223372036854775807 := by
  obtain ⟨value, hvalue, hadd⟩ := bind_eq_ok_iff.1 h
  obtain ⟨saved, hsum, hg'⟩ := bind_eq_ok_iff.1 hadd
  obtain rfl := pure_eq_ok_iff.1 hg'
  have hexact := Amount.add_eq_ok_iff.1 hsum
  have hfits := saved.upper
  rw [Amount.toInt_excess_eq_min, toInt_sum_amount hvalue] at hexact
  -- a saving that is cut off fits only where nothing was saved before
  unfold groupSaving
  dsimp only
  omega

theorem addUnits_error (h : g.addUnits price group = .error e) :
    e = .overflow ∧ 2 ^ 63 ≤ g.saved.toInt.natAbs +
      (UnitRuns.magnitude (group.map UnitOf.price) + (-price.toInt).toNat) := by
  rcases bind_eq_error_iff.1 h with h | ⟨value, hvalue, hadd⟩
  · obtain ⟨he, hrange⟩ := Amount.foldlM_add_error h
    rw [map_toInt_amount, Amount.toInt_zero] at hrange
    exact ⟨he, by omega⟩
  · rcases bind_eq_error_iff.1 hadd with h | ⟨saved, -, h⟩
    · obtain ⟨he, hrange⟩ := Amount.add_eq_error_iff.1 h
      have hgroup := UnitRuns.natAbs_sum_le_magnitude (group.map UnitOf.price)
      rw [Amount.toInt_excess_eq_min, toInt_sum_amount hvalue] at hrange
      exact ⟨he, by omega⟩
    · cases h

/-- Groups that are formed one after the other save what each of them saves, and not more than the
greatest amount. -/
theorem saved_foldlM_addUnits (hsaved : 0 ≤ g.saved.toInt)
    (h : groups.foldlM (Groups.addUnits price) g = .ok g') :
    g'.saved.toInt =
      min (g.saved.toInt + (groups.map (groupSaving price.toInt)).sum) 9223372036854775807 := by
  induction groups generalizing g with
  | nil =>
    obtain rfl := pure_eq_ok_iff.1 h
    have hfits := g.saved.upper
    rw [List.map_nil, List.sum_nil]
    omega
  | cons group groups ih =>
    rw [List.foldlM_cons] at h
    obtain ⟨g₁, hadd, h⟩ := bind_eq_ok_iff.1 h
    have hsaved₁ := saved_addUnits hsaved hadd
    have hgroup : 0 ≤ groupSaving price.toInt group := Int.le_max_left _ _
    have hgroups : 0 ≤ (groups.map (groupSaving price.toInt)).sum :=
      List.sum_nonneg (List.forall_mem_map.2 fun _ _ => Int.le_max_left _ _)
    have hsaved' := ih (by omega) h
    rw [hsaved', hsaved₁, List.map_cons, List.sum_cons]
    omega

/-- Groups are not formed only where their units, with what a negative price adds to each of them,
come to more than the greatest amount. -/
theorem foldlM_addUnits_error (hsaved : 0 ≤ g.saved.toInt)
    (h : groups.foldlM (Groups.addUnits price) g = .error e) :
    e = .overflow ∧ 2 ^ 63 ≤ g.saved.toInt.natAbs +
      (UnitRuns.magnitude (groups.flatten.map UnitOf.price) +
        groups.length * (-price.toInt).toNat) := by
  induction groups generalizing g with
  | nil => cases h
  | cons group groups ih =>
    rw [List.flatten_cons, List.map_append, UnitRuns.magnitude_append, List.length_cons,
      Nat.succ_mul]
    rw [List.foldlM_cons] at h
    rcases bind_eq_error_iff.1 h with h | ⟨g₁, hadd, h⟩
    · obtain ⟨he, hrange⟩ := addUnits_error h
      exact ⟨he, by omega⟩
    · have hsaved₁ := saved_addUnits hsaved hadd
      have hgroup := UnitRuns.natAbs_sum_le_magnitude (group.map UnitOf.price)
      unfold groupSaving at hsaved₁
      obtain ⟨he, hrange⟩ := ih (by omega) h
      exact ⟨he, by omega⟩

/-- Groups that share no units come to no more than all units. -/
theorem magnitude_flatten_le (h : groups.flatten.Nodup) :
    UnitRuns.magnitude (groups.flatten.map UnitOf.price) ≤
      ∑ u : UnitOf lines, u.price.natAbs := by
  have hsum := List.sum_toFinset (fun u : UnitOf lines => u.price.natAbs) h
  rw [UnitRuns.magnitude, List.map_map]
  exact hsum.symm.trans_le (Finset.sum_le_univ_sum_of_nonneg fun _ => Nat.zero_le _)

/-! ## What is granted -/

variable {r : MixMatch} {b : Basis}

/-- The groups of a rule are those that units form one by one. -/
theorem exists_rounds (hsize : 1 ≤ r.groupSize.toNat) (hdifferent : r.allowSameProduct = false)
    {shelves : Shelves lines} (hshelves : shelves.IsListing) :
    ∃ groups rest, Rounds r.groupSize.toNat shelves groups rest ∧
      r.groups lines = groups.foldlM (Groups.addUnits r.specialPrice) {} := by
  obtain ⟨groups, rest, hrounds, hfold⟩ := hshelves.shows.exists_rounds hsize
  refine ⟨groups, rest, hrounds, ?_⟩
  rw [MixMatch.groups, if_neg (by simp [hdifferent]), hfold]

/-- As long as groups can be counted, none is counted just where none is formed. -/
theorem count_eq_zero_iff (hgroups : groups.length < 2 ^ 32)
    (h : groups.foldlM (Groups.addUnits price) {} = .ok g) : g.count = 0 ↔ groups = [] := by
  have hcount : g.count = UInt32.ofNat groups.length :=
    (count_foldlM_addUnits h).trans (UInt32.zero_add _)
  rw [hcount, ofNat_count_eq_zero_iff hgroups, List.length_eq_zero_iff]

/-- As long as the groups of lines can be counted, none is counted just where too few products have
units. -/
theorem groups_none_iff (hdifferent : r.allowSameProduct = false)
    (hunits : Fintype.card (UnitOf lines) / r.groupSize.toNat < 2 ^ 32) :
    (∃ g, r.groups lines = .ok g ∧ g.count = 0) ↔
      r.groupSize.toNat = 0 ∨ (productsOf lines).encard < r.groupSize.toNat := by
  rcases Nat.eq_zero_or_pos r.groupSize.toNat with hzero | hsize
  · have hnone : r.groups lines = .ok {} := by
      rw [MixMatch.groups, if_neg (by simp [hdifferent]), groupProducts,
        dif_neg (Nat.not_lt.2 (Nat.le_of_eq hzero))]
    exact ⟨fun _ => .inl hzero, fun _ => ⟨{}, hnone, rfl⟩⟩
  · obtain ⟨shelves, hshelves⟩ := Shelves.exists_isListing lines
    obtain ⟨groups, rest, hrounds, hgroups⟩ := exists_rounds hsize hdifferent hshelves
    have hlength : groups.length < 2 ^ 32 :=
      ((Nat.le_div_iff_mul_le hsize).2 (hrounds.isDealt hshelves.nodup).bound).trans_lt hunits
    rw [← hshelves.products_eq, ← hrounds.eq_nil_iff, hgroups]
    constructor
    · rintro ⟨g, hformed, hcount⟩
      exact .inr ((count_eq_zero_iff hlength hformed).1 hcount)
    · rintro (hzero | rfl)
      · exact absurd hzero (Nat.ne_of_gt hsize)
      · exact ⟨{}, rfl, rfl⟩

/-- A rule whose groups are these grants what they save, if there are any and they can be
counted. -/
theorem grant_of_units {groups : List (List (UnitOf (r.linesOf b)))}
    (hgroups : r.groups (r.linesOf b) = groups.foldlM (Groups.addUnits r.specialPrice) {})
    (hnodup : groups.flatten.Nodup) :
    (groups.length < 2 ^ 32 →
      (r.grant b = .error (.ineligible .mixMatchQuantityNotMet) ↔ groups = [])) ∧
    (groups.length < 2 ^ 32 → groups ≠ [] →
      r.grant b ≠ .error (.fault (.arithmetic .overflow)) → ∃ grant, r.grant b = .ok grant) ∧
    (∀ grant, r.grant b = .ok grant → grant.discount.toInt =
      min (groups.map (groupSaving r.specialPrice.toInt)).sum (2 ^ 63 - 1)) ∧
    (∑ u : UnitOf (r.linesOf b), u.price.natAbs +
        groups.length * (-r.specialPrice.toInt).toNat < 2 ^ 63 →
      r.grant b ≠ .error (.fault (.arithmetic .overflow))) := by
  have hzero : ({} : Groups).saved.toInt = 0 := rfl
  have hnone : 0 ≤ ({} : Groups).saved.toInt := Int.le_of_eq hzero.symm
  cases hformed : groups.foldlM (Groups.addUnits r.specialPrice) {} with
  | error e =>
    obtain ⟨rfl, hrange⟩ := foldlM_addUnits_error hnone hformed
    have hnonempty : groups ≠ [] := by
      rintro rfl
      cases hformed
    have hmagnitude := magnitude_flatten_le hnodup
    rw [grant_of_groups_error (hgroups.trans hformed)]
    refine ⟨fun _ => ⟨nofun, fun h => absurd h hnonempty⟩, fun _ _ h => absurd rfl h,
      fun _ => nofun, fun h => ?_⟩
    rw [hzero, Int.natAbs_zero] at hrange
    omega
  | ok g =>
    have hsaved := saved_foldlM_addUnits hnone hformed
    rw [grant_of_groups_ok (hgroups.trans hformed)]
    by_cases hcount : g.count = 0
    · rw [if_pos hcount]
      have hempty (hlength : groups.length < 2 ^ 32) : groups = [] :=
        (count_eq_zero_iff hlength hformed).1 hcount
      exact ⟨fun hlength => ⟨fun _ => hempty hlength, fun _ => rfl⟩,
        fun hlength h => absurd (hempty hlength) h, fun _ => nofun, fun _ => nofun⟩
    · rw [if_neg hcount]
      have hnonempty (hlength : groups.length < 2 ^ 32) : groups ≠ [] :=
        mt (count_eq_zero_iff hlength hformed).2 hcount
      refine ⟨fun hlength => ⟨nofun, fun h => absurd h (hnonempty hlength)⟩,
        fun _ _ _ => ⟨_, rfl⟩, ?_, fun _ => nofun⟩
      rintro grant ⟨⟩
      rw [hsaved, hzero, Int.zero_add]
      rfl

/-- What a rule grants whose groups are of different products is what the groups save that units
form one by one, and these are settled by the units. They never share a unit, and end only where too
few products have units left. As long as they can be counted, the rule does not apply just where too
few products have units at all. Units that come to less than the greatest amount can always be
grouped. -/
theorem grant_eq_rounds (r : MixMatch) (b : Basis) (hsize : 1 ≤ r.groupSize.toNat)
    (hdifferent : r.allowSameProduct = false) {shelves : Shelves (r.linesOf b)}
    (hshelves : shelves.IsListing) :
    ∃ groups rest, Rounds r.groupSize.toNat shelves groups rest ∧
      (∀ groups' rest', Rounds r.groupSize.toNat shelves groups' rest' →
        groups' = groups ∧ rest' = rest) ∧
      IsDealt r.groupSize.toNat shelves groups rest ∧
      (groups.length < 2 ^ 32 →
        (r.grant b = .error (.ineligible .mixMatchQuantityNotMet) ↔
          (productsOf (r.linesOf b)).encard < r.groupSize.toNat)) ∧
      (groups.length < 2 ^ 32 → r.groupSize.toNat ≤ (productsOf (r.linesOf b)).encard →
        r.grant b ≠ .error (.fault (.arithmetic .overflow)) → ∃ grant, r.grant b = .ok grant) ∧
      (∀ grant, r.grant b = .ok grant → grant.discount.toInt =
        min (groups.map (groupSaving r.specialPrice.toInt)).sum (2 ^ 63 - 1)) ∧
      (∑ u : UnitOf (r.linesOf b), u.price.natAbs +
          groups.length * (-r.specialPrice.toInt).toNat < 2 ^ 63 →
        r.grant b ≠ .error (.fault (.arithmetic .overflow))) := by
  obtain ⟨groups, rest, hrounds, hgroups⟩ := exists_rounds hsize hdifferent hshelves
  have hdealt := hrounds.isDealt hshelves.nodup
  have hfew := hrounds.eq_nil_iff
  rw [hshelves.products_eq] at hfew
  obtain ⟨hnotMet, hgrant, hdiscount, hfits⟩ := grant_of_units hgroups hdealt.nodup
  have hunique : ∀ groups' rest', Rounds r.groupSize.toNat shelves groups' rest' →
      groups' = groups ∧ rest' = rest := fun _ _ hrounds' => hrounds'.unique hrounds
  refine ⟨groups, rest, hrounds, hunique, hdealt, fun hlength => (hnotMet hlength).trans hfew,
    fun hlength henough => ?_, hdiscount, hfits⟩
  exact hgrant hlength fun hempty => not_lt_of_ge henough (hfew.1 hempty)

end MixMatch

/-- Two units of different products of the category for fifty. -/
def Sample.pairs : MixMatch := ⟨id 1, 2, amount 50, false⟩

/-- The three units of the bill give one pair, of both products, and it saves ten. -/
theorem MixMatch.grant_eq_rounds_shop :
    (1 ≤ Sample.pairs.groupSize.toNat ∧ Sample.pairs.allowSameProduct = false) ∧
    ∃ (shelves rest : Shelves (Sample.pairs.linesOf Sample.basis))
      (groups : List (List (UnitOf (Sample.pairs.linesOf Sample.basis)))),
      shelves.IsListing ∧ Rounds 2 shelves groups rest ∧ rest.products.encard < 2 ∧
        groups.length = 1 ∧ (groups.map (groupSaving 50)).sum = 10 := by
  have hrule : 1 ≤ Sample.pairs.groupSize.toNat ∧ Sample.pairs.allowSameProduct = false := by
    decide
  refine ⟨hrule, ?_⟩
  obtain ⟨shelves, hshelves⟩ := Shelves.exists_isListing (Sample.pairs.linesOf Sample.basis)
  obtain ⟨groups, rest, hrounds, -, hdealt, -, -, hdiscount, -⟩ :=
    grant_eq_rounds Sample.pairs Sample.basis hrule.1 hrule.2 hshelves
  have hpair : Sample.pairs.grant Sample.basis =
      .ok { discount := Sample.amount 10, affected := [0, 1] } := by
    cbv
  replace hdiscount := hdiscount _ hpair
  have hten : (Sample.amount 10).toInt = 10 := by decide
  have hspecial : Sample.pairs.specialPrice.toInt = 50 := by decide
  rw [hspecial] at hdiscount
  dsimp only at hdiscount
  have hsaving : (groups.map (groupSaving 50)).sum = 10 := by omega
  have hnonempty : 0 < groups.length := by
    rw [List.length_pos_iff]
    rintro rfl
    cases hsaving
  have hunits : Fintype.card (UnitOf (Sample.pairs.linesOf Sample.basis)) = 3 := by
    rw [UnitOf.card_eq_units]
    cbv
  have hbound : groups.length * 2 ≤ 3 := hunits ▸ hdealt.bound
  exact ⟨shelves, rest, groups, hshelves, hrounds, hdealt.few_left, by omega, hsaving⟩

end Promotions

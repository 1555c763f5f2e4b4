import Promotions.Proofs.Grouping.Units
import Promotions.Proofs.StableOrder

/-!
# Proofs: products under other identifiers

Of fronts that are as dear, a group takes those first whose identifiers come first. So what groups
of different products save depends on the identifiers, but only through the order in which they put
products with units of one price.
-/

namespace Promotions

open Fallible StableOrder MixMatch

theorem Ordered.before_map_eq {α β : Type} [Ordered α] [Ordered β] {f : α → β} {a b : α}
    (hab : before a b = true → before (f a) (f b) = true)
    (hba : before b a = true → before (f b) (f a) = true) :
    before (f a) (f b) = before a b := by
  cases h : before a b with
  | true => exact hab h
  | false =>
    cases h' : before b a with
    | true => exact asymm (hba h')
    | false =>
      rw [eq_of_not_before h h']
      exact irrefl _

/-! ## Rankings of fronts -/

namespace MixMatch

theorem dearerFront_iff {a b : Front} : dearerFront a b = true ↔
    b.price < a.price ∨ a.price = b.price ∧ Ordered.before b.product a.product = false := by
  simp [dearerFront]

theorem isRanking_dearerFront : IsRanking dearerFront := by
  refine ⟨fun a b c hab hbc => ?_, fun a b => ?_⟩
  · rw [dearerFront_iff, Amount.lt_iff] at hab hbc ⊢
    rcases hab with hab | ⟨hab, hproduct⟩
    · rcases hbc with hbc | ⟨hbc, -⟩
      · exact .inl (hbc.trans hab)
      · exact .inl (hbc ▸ hab)
    · rcases hbc with hbc | ⟨hbc, hproduct'⟩
      · exact .inl (hab ▸ hbc)
      · exact .inr ⟨hab.trans hbc, Ordered.not_before_trans hproduct hproduct'⟩
  · rw [Bool.or_eq_true, dearerFront_iff, dearerFront_iff, Amount.lt_iff, Amount.lt_iff]
    rcases Int.lt_trichotomy a.price.toInt b.price.toInt with hlt | heq | hgt
    · exact .inr (.inl hlt)
    · have hprice : a.price = b.price := Amount.ext heq
      cases hbefore : Ordered.before b.product a.product with
      | false => exact .inl (.inr ⟨hprice, rfl⟩)
      | true => exact .inr (.inr ⟨hprice.symm, Ordered.asymm hbefore⟩)
    · exact .inl (.inl hgt)

/-- No two fronts are tied. -/
theorem dearerFront_antisymm {a b : Front} (hab : dearerFront a b = true)
    (hba : dearerFront b a = true) : a = b := by
  rw [dearerFront_iff, Amount.lt_iff] at hab hba
  rcases hab with hab | ⟨hprice, hproduct⟩
  · rcases hba with hba | ⟨hprice, -⟩
    · omega
    · rw [hprice] at hab
      omega
  · rcases hba with hba | ⟨-, hproduct'⟩
    · rw [hprice] at hba
      omega
    · obtain ⟨price, product⟩ := a
      obtain rfl : price = b.price := hprice
      obtain rfl : product = b.product := Ordered.eq_of_not_before hproduct' hproduct
      rfl

end MixMatch

/-! ## Renamed stocks -/

/-- The front with its product under another identifier. -/
def Front.rename (τ : ProductId → ProductId) (front : Front) : Front :=
  { front with product := τ front.product }

namespace ProductRow

variable {τ : ProductId → ProductId} {rows rows' : List ProductRow}

/-- The units of a product under another identifier. -/
def renameUnits (τ : ProductId → ProductId) (s : ProductId × List Amount) :
    ProductId × List Amount :=
  (τ s.1, s.2)

/-- What a product is called does not change whether it loses its dearest unit. -/
theorem leave_renameUnits (hτ : Function.Injective τ) (taken : List Front)
    (s : ProductId × List Amount) :
    (if (renameUnits τ s).1 ∈ (taken.map (Front.rename τ)).map (·.product)
      then ((renameUnits τ s).1, (renameUnits τ s).2.tail) else renameUnits τ s) =
      renameUnits τ (if s.1 ∈ taken.map (·.product) then (s.1, s.2.tail) else s) := by
  have hproducts : (taken.map (Front.rename τ)).map (·.product) =
      (taken.map (·.product)).map τ := by
    rw [List.map_map, List.map_map]
    rfl
  have hmem : (renameUnits τ s).1 ∈ (taken.map (Front.rename τ)).map (·.product) ↔
      s.1 ∈ taken.map (·.product) := by
    rw [hproducts]
    exact List.mem_map_of_injective hτ
  rw [apply_ite (renameUnits τ)]
  exact if_congr hmem rfl rfl

/-- The rows have the same stock, under other identifiers of its products. -/
structure Renamed (τ : ProductId → ProductId) (rows rows' : List ProductRow) : Prop where
  injective : Function.Injective τ
  proper : Proper rows
  proper' : Proper rows'
  stock : (stock rows').Perm ((stock rows).map (renameUnits τ))

/-- Products with units of one price keep their order. -/
def KeepsOrder (τ : ProductId → ProductId) (rows : List ProductRow) : Prop :=
  ∀ s ∈ stock rows, ∀ t ∈ stock rows, (∃ price ∈ s.2, price ∈ t.2) →
    Ordered.before s.1 t.1 = true → Ordered.before (τ s.1) (τ t.1) = true

/-- A product keeps those of its units that are not taken. -/
theorem mem_stock_removeFronts (h : Proper rows) {taken : List Front}
    {s : ProductId × List Amount} (hs : s ∈ stock (removeFronts taken rows)) :
    ∃ t ∈ stock rows, s.1 = t.1 ∧ s.2 ⊆ t.2 := by
  rw [stock_removeFronts h] at hs
  obtain ⟨t, ht, rfl⟩ := List.mem_map.1 (List.mem_filter.1 hs).1
  refine ⟨t, ht, ?_⟩
  split
  · exact ⟨rfl, fun _ => List.mem_of_mem_tail⟩
  · exact ⟨rfl, fun _ => id⟩

theorem KeepsOrder.removeFronts (h : KeepsOrder τ rows) (hrows : Proper rows)
    (taken : List Front) : KeepsOrder τ (removeFronts taken rows) := by
  intro s hs t ht hprice hbefore
  obtain ⟨s', hs', hsame, hunits⟩ := mem_stock_removeFronts hrows hs
  obtain ⟨t', ht', hsame', hunits'⟩ := mem_stock_removeFronts hrows ht
  obtain ⟨price, hprice, hprice'⟩ := hprice
  rw [hsame, hsame'] at hbefore ⊢
  exact h s' hs' t' ht' ⟨price, hunits hprice, hunits' hprice'⟩ hbefore

/-- The price of a front is that of a unit of its product. -/
theorem mem_stock_of_front (h : Proper rows) {front : Front}
    (hfront : front ∈ rows.filterMap front?) :
    ∃ s ∈ stock rows, s.1 = front.product ∧ front.price ∈ s.2 := by
  rw [filterMap_front? h] at hfront
  obtain ⟨s, hs, hhead⟩ := List.mem_filterMap.1 hfront
  obtain ⟨price, hprice, rfl⟩ := Option.map_eq_some_iff.1 hhead
  exact ⟨s, hs, rfl, List.mem_of_head? hprice⟩

theorem KeepsOrder.dearerFront_rename (h : KeepsOrder τ rows) (hrows : Proper rows) {a b : Front}
    (ha : a ∈ rows.filterMap front?) (hb : b ∈ rows.filterMap front?) :
    dearerFront (a.rename τ) (b.rename τ) = dearerFront a b := by
  obtain ⟨s, hs, hproduct, hprice⟩ := mem_stock_of_front hrows ha
  obtain ⟨t, ht, hproduct', hprice'⟩ := mem_stock_of_front hrows hb
  unfold dearerFront Front.rename
  by_cases htie : a.price = b.price
  · have hbefore : Ordered.before (τ b.product) (τ a.product) =
        Ordered.before b.product a.product := by
      rw [← hproduct, ← hproduct']
      exact Ordered.before_map_eq (h t ht s hs ⟨b.price, hprice', htie ▸ hprice⟩)
        (h s hs t ht ⟨a.price, hprice, htie ▸ hprice'⟩)
    rw [hbefore]
  · rw [beq_false_of_ne htie, Bool.false_and, Bool.false_and]

namespace Renamed

theorem fronts (h : Renamed τ rows rows') :
    (rows'.filterMap front?).Perm ((rows.filterMap front?).map (Front.rename τ)) := by
  rw [filterMap_front? h.proper, filterMap_front? h.proper', List.map_filterMap]
  refine (h.stock.filterMap _).trans (List.Perm.of_eq ?_)
  rw [List.filterMap_map]
  refine List.filterMap_congr fun s _ => ?_
  dsimp only [Function.comp_apply]
  rw [Option.map_map]
  rfl

theorem removeFronts (h : Renamed τ rows rows') (taken : List Front) :
    Renamed τ (removeFronts taken rows) (removeFronts (taken.map (Front.rename τ)) rows') where
  injective := h.injective
  proper := h.proper.removeFronts taken
  proper' := h.proper'.removeFronts _
  stock := by
    rw [stock_removeFronts h.proper, stock_removeFronts h.proper']
    refine ((h.stock.map _).filter _).trans (List.Perm.of_eq ?_)
    have hleave : ((ProductRow.stock rows).map (renameUnits τ)).map (fun s =>
          if s.1 ∈ (taken.map (Front.rename τ)).map (·.product) then (s.1, s.2.tail) else s) =
        ((ProductRow.stock rows).map fun s =>
          if s.1 ∈ taken.map (·.product) then (s.1, s.2.tail) else s).map (renameUnits τ) := by
      rw [List.map_map (f := renameUnits τ), List.map_map (g := renameUnits τ)]
      exact List.map_congr_left fun s _ => leave_renameUnits h.injective taken s
    rw [hleave, List.filter_map]
    rfl

/-- The dearest fronts of one stock are those of the other, if no tie is broken in another way. -/
theorem dearestFronts?_eq (h : Renamed τ rows rows') (horder : KeepsOrder τ rows) (size : Nat) :
    dearestFronts? size rows' = (dearestFronts? size rows).map (List.map (Front.rename τ)) := by
  have hrank : ∀ a ∈ rows.filterMap front?, ∀ b ∈ rows.filterMap front?,
      dearerFront a b = dearerFront (a.rename τ) (b.rename τ) :=
    fun a ha b hb => (horder.dearerFront_rename h.proper ha hb).symm
  have hsorted := isRanking_dearerFront.mergeSort_eq_of_perm h.fronts
    fun _ _ _ _ => dearerFront_antisymm
  unfold dearestFronts?
  dsimp only
  rw [hsorted, ← List.map_mergeSort hrank, h.fronts.length_eq, List.length_map]
  split
  · rw [Option.map_some, List.map_take]
  · rfl

end Renamed

end ProductRow

/-! ## Renamed groups -/

namespace MixMatch

variable {size : Nat} {price : Amount} {g g' : Groups} {τ : ProductId → ProductId}
  {rows rows' : List ProductRow}

/-- The same stock gives the same groups under other identifiers, if products with units of one
price keep their order. -/
theorem groupProducts_renamed (h : ProductRow.Renamed τ rows rows')
    (horder : ProductRow.KeepsOrder τ rows) :
    groupProducts size price g rows' = groupProducts size price g rows := by
  have hprices (fronts : List Front) :
      (fronts.map (Front.rename τ)).map (·.price) = fronts.map (·.price) := by
    rw [List.map_map]
    rfl
  fun_induction groupProducts size price g rows generalizing rows' with
  | case1 g rows hsize hf =>
    rw [groupProducts_eq hsize, h.dearestFronts?_eq horder, hf]
    rfl
  | case2 g rows hsize fronts hf hless e hadd =>
    rw [groupProducts_eq hsize, h.dearestFronts?_eq horder, hf, Option.map_some]
    dsimp only
    rw [hprices, hadd]
    rfl
  | case3 g rows hsize fronts hf hless g₁ hadd ih =>
    rw [groupProducts_eq hsize, h.dearestFronts?_eq horder, hf, Option.map_some]
    dsimp only
    rw [hprices, hadd]
    exact ih (h.removeFronts fronts) (horder.removeFronts h.proper fronts)
  | case4 g rows hzero => rw [groupProducts, dif_neg hzero]

theorem dearestFronts?_eq_none_iff :
    dearestFronts? size rows = none ↔ (rows.filterMap ProductRow.front?).length < size := by
  unfold dearestFronts?
  dsimp only
  split
  · rename_i henough
    constructor
    · intro hsome
      cases hsome
    · intro hfew
      omega
  · rename_i hfew
    exact ⟨fun _ => Nat.lt_of_not_le hfew, fun _ => rfl⟩

end MixMatch

/-! ## Renamed lines -/

/-- The prices of the units of a product, the dearest first. -/
def UnitRuns.amountsOf (lines : List BillLine) (product : ProductId) : List Amount :=
  (ofLines (lines.filter fun line => line.product = product)).amounts

open UnitRuns

/-- The line with its product under another identifier. -/
def BillLine.rename (σ : ProductId → ProductId) (line : BillLine) : BillLine :=
  { line with product := σ line.product }

/-- But for an exchange of products with the same units, products with units of one price keep their
order under other identifiers. -/
def KeepsTies (σ : ProductId → ProductId) (lines : List BillLine) : Prop :=
  ∃ ρ : Equiv.Perm ProductId, (∀ p, amountsOf lines (ρ p) = amountsOf lines p) ∧
    ∀ p q, (∃ price ∈ amountsOf lines p, price ∈ amountsOf lines q) →
      Ordered.before p q = true → Ordered.before (σ (ρ p)) (σ (ρ q)) = true

section Lines

variable {σ : ProductId → ProductId} {lines : List BillLine}

theorem keepsTies_of_lines
    (h : ∀ line ∈ lines, ∀ line' ∈ lines, Ordered.before line.product line'.product = true →
      Ordered.before (σ line.product) (σ line'.product) = true) : KeepsTies σ lines := by
  refine ⟨Equiv.refl _, fun _ => rfl, fun p q hprice hbefore => ?_⟩
  obtain ⟨price, hp, hq⟩ := hprice
  obtain ⟨line, hline, rfl⟩ := ProductRow.exists_line_of_amounts (List.ne_nil_of_mem hp)
  obtain ⟨line', hline', rfl⟩ := ProductRow.exists_line_of_amounts (List.ne_nil_of_mem hq)
  exact h line hline line' hline' hbefore

/-- Products with the same units can be exchanged. -/
theorem keepsTies_swap {p q : ProductId} (h : amountsOf lines p = amountsOf lines q) :
    KeepsTies (Equiv.swap p q) lines := by
  refine ⟨Equiv.swap p q, fun product => ?_, fun product other _ hbefore => ?_⟩
  · by_cases hp : product = p
    · rw [hp, Equiv.swap_apply_left, h]
    · by_cases hq : product = q
      · rw [hq, Equiv.swap_apply_right, h]
      · rw [Equiv.swap_apply_of_ne_of_ne hp hq]
  · rwa [Equiv.swap_apply_self, Equiv.swap_apply_self]

theorem ofLines_rename (σ : ProductId → ProductId) (lines : List BillLine) :
    UnitRuns.ofLines (lines.map (BillLine.rename σ)) = UnitRuns.ofLines lines := by
  unfold UnitRuns.ofLines
  rw [List.filter_map, List.map_map]
  rfl

theorem amountsOf_rename (hσ : Function.Injective σ) (lines : List BillLine)
    (product : ProductId) :
    amountsOf (lines.map (BillLine.rename σ)) (σ product) = amountsOf lines product := by
  unfold amountsOf
  rw [List.filter_map, ofLines_rename]
  exact congrArg (fun lines => (UnitRuns.ofLines lines).amounts)
    (List.filter_congr fun _ _ => decide_eq_decide.2 hσ.eq_iff)

namespace ProductRow

theorem mem_stock_ofLines {s : ProductId × List Amount} :
    s ∈ stock (ofLines lines) ↔ s.2 = amountsOf lines s.1 ∧ s.2 ≠ [] := by
  unfold stock
  rw [List.mem_filter, List.mem_map]
  constructor
  · rintro ⟨⟨row, hrow, rfl⟩, hunits⟩
    obtain ⟨product, -, rfl⟩ := List.mem_map.1 hrow
    exact ⟨rfl, by simpa using hunits⟩
  · rintro ⟨hunits, hne⟩
    obtain ⟨product, amounts⟩ := s
    obtain rfl : amounts = amountsOf lines product := hunits
    obtain ⟨line, hline, rfl⟩ := exists_line_of_amounts hne
    have hproduct : line.product ∈ SortedSet.ofList (lines.map (·.product)) :=
      SortedSet.mem_ofList.2 (List.mem_map_of_mem hline)
    exact ⟨⟨_, List.mem_map_of_mem hproduct, rfl⟩, by simpa using hne⟩

theorem nodup_stock_ofLines (lines : List BillLine) : (stock (ofLines lines)).Nodup := by
  unfold stock ofLines
  rw [List.map_map]
  exact ((SortedSet.nodup_toList _).map fun _ _ h => congrArg Prod.fst h).filter _

theorem renamed_ofLines (hσ : Function.Injective σ) {ρ : Equiv.Perm ProductId}
    (hρ : ∀ p, amountsOf lines (ρ p) = amountsOf lines p) :
    Renamed (σ ∘ ρ) (ofLines lines) (ofLines (lines.map (BillLine.rename σ))) where
  injective := hσ.comp ρ.injective
  proper := proper_ofLines _
  proper' := proper_ofLines _
  stock := by
    have hinj : Function.Injective (renameUnits (σ ∘ ρ)) :=
      (hσ.comp ρ.injective).prodMap Function.injective_id
    refine (List.perm_ext_iff_of_nodup (nodup_stock_ofLines _)
      ((nodup_stock_ofLines _).map hinj)).2 fun t => ?_
    rw [mem_stock_ofLines, List.mem_map]
    constructor
    · -- a product with units is the new identifier of one that had them before
      rintro ⟨hunits, hne⟩
      obtain ⟨line', hline', hproduct⟩ := exists_line_of_amounts (hunits ▸ hne)
      obtain ⟨line, -, rfl⟩ := List.mem_map.1 hline'
      have hsame : t.2 = amountsOf lines (ρ.symm line.product) := by
        rw [hunits, ← hproduct, ← hρ, ρ.apply_symm_apply]
        exact amountsOf_rename hσ lines line.product
      refine ⟨(ρ.symm line.product, t.2), mem_stock_ofLines.2 ⟨hsame, hne⟩, ?_⟩
      exact Prod.ext ((congrArg σ (ρ.apply_symm_apply _)).trans hproduct) rfl
    · rintro ⟨s, hs, rfl⟩
      obtain ⟨hunits, hne⟩ := mem_stock_ofLines.1 hs
      refine ⟨?_, hne⟩
      show s.2 = amountsOf _ (σ (ρ s.1))
      rw [hunits, ← hρ]
      exact (amountsOf_rename hσ lines (ρ s.1)).symm

end ProductRow

namespace MixMatch

variable {r : MixMatch}

/-- Groups of different products save the same under other identifiers that keep ties. -/
theorem groups_rename (hr : r.allowSameProduct = false) (hσ : Function.Injective σ)
    (h : KeepsTies σ lines) : r.groups (lines.map (BillLine.rename σ)) = r.groups lines := by
  obtain ⟨ρ, hunits, horder⟩ := h
  have hties : ProductRow.KeepsOrder (σ ∘ ρ) (ProductRow.ofLines lines) := by
    intro s hs t ht hprice
    obtain ⟨hs, -⟩ := ProductRow.mem_stock_ofLines.1 hs
    obtain ⟨ht, -⟩ := ProductRow.mem_stock_ofLines.1 ht
    rw [hs, ht] at hprice
    exact horder s.1 t.1 hprice
  unfold groups
  rw [if_neg (by simp [hr]), if_neg (by simp [hr])]
  exact groupProducts_renamed (ProductRow.renamed_ofLines hσ hunits) hties

end MixMatch

end Lines

end Promotions

import Promotions.Eligibility.MixMatch
import Promotions.Proofs.Fallible
import Promotions.Proofs.Grouping.Greedy
import Promotions.Proofs.Grouping.UnitPrices

/-!
# Proofs: a group rule grants the best groups

The units of the lines of a category are single things with prices, and where a group may hold
several units of a product, any of them may be put together. Of all the ways to do so the one that
is granted saves the most.
-/

namespace Promotions

/-- One of the units of lines: its line, and its number on the line. -/
abbrev UnitOf (lines : List BillLine) : Type :=
  (i : Fin lines.length) × Fin (lines.get i).quantity.toNat

/-- The price of a unit. -/
def UnitOf.price {lines : List BillLine} (u : UnitOf lines) : Int :=
  (lines.get u.1).unitPrice.toInt

namespace UnitOf

open Finset

/-- The units are those of the runs, one by one. -/
theorem map_price_univ (lines : List BillLine) :
    (univ : Finset (UnitOf lines)).val.map price =
      ((UnitRuns.ofLines lines).prices : Multiset Int) := by
  have huniv : (univ : Finset (UnitOf lines)).val =
      (univ : Finset (Fin lines.length)).val.bind fun i =>
        (univ : Finset (Fin (lines.get i).quantity.toNat)).val.map (Sigma.mk i) := rfl
  have hprices : UnitRuns.pricesOfLines lines =
      (List.finRange lines.length).flatMap fun i =>
        List.replicate (lines.get i).quantity.toNat (lines.get i).unitPrice.toInt := by
    have hget := congrArg UnitRuns.pricesOfLines (List.map_get_finRange lines)
    rw [← hget, UnitRuns.pricesOfLines, List.flatMap_map]
  rw [Multiset.coe_eq_coe.2 (UnitRuns.prices_ofLines_perm lines), hprices, ← Multiset.coe_bind,
    huniv, Multiset.map_bind]
  refine Multiset.bind_congr fun i _ => ?_
  have hline : price ∘ Sigma.mk i =
      fun _ : Fin (lines.get i).quantity.toNat => (lines.get i).unitPrice.toInt := rfl
  rw [Multiset.map_map, hline, Multiset.map_const', card_val, card_univ, Fintype.card_fin,
    Multiset.coe_replicate]

theorem card_eq_units (lines : List BillLine) :
    Fintype.card (UnitOf lines) = (UnitRuns.ofLines lines).units := by
  have hcard := congrArg Multiset.card (map_price_univ lines)
  rw [Multiset.card_map, Multiset.coe_card, UnitRuns.length_prices] at hcard
  exact hcard

theorem sum_natAbs_price (lines : List BillLine) :
    ∑ u : UnitOf lines, u.price.natAbs =
      UnitRuns.magnitude (UnitRuns.ofLines lines).prices := by
  rw [UnitRuns.magnitude, ← Multiset.sum_coe, ← Multiset.map_coe, ← map_price_univ,
    Multiset.map_map]
  rfl

end UnitOf

namespace MixMatch

open Grouping

/-- A count that does not start again is zero only where nothing is counted. -/
theorem ofNat_count_eq_zero_iff {n : Nat} (h : n < 2 ^ 32) : UInt32.ofNat n = 0 ↔ n = 0 := by
  rw [← UInt32.toNat_inj, UInt32.toNat_ofNat_of_lt' h]
  rfl

variable {size : Nat} {price : Amount} {g g' : Groups} {runs : UnitRuns}

theorem toInt_saved_add {value : Amount} (hprice : 0 ≤ price) (h : g.add price value = .ok g') :
    g'.saved.toInt = g.saved.toInt + max 0 (value.toInt - price.toInt) ∧
      g'.count = g.count + 1 := by
  obtain ⟨saved, hsaved, hg'⟩ := Fallible.bind_eq_ok_iff.1 h
  obtain rfl := Fallible.pure_eq_ok_iff.1 hg'
  exact ⟨by rw [Amount.add_eq_ok_iff.1 hsaved, Amount.toInt_excess hprice], rfl⟩

theorem add_error {value : Amount} {e : ArithmeticError} (hprice : 0 ≤ price)
    (h : g.add price value = .error e) :
    e = .overflow ∧ 2 ^ 63 ≤ g.saved.toInt.natAbs + value.toInt.natAbs := by
  rcases Fallible.bind_eq_error_iff.1 h with h | ⟨saved, -, h⟩
  · obtain ⟨he, hrange⟩ := Amount.add_eq_error_iff.1 h
    rw [Amount.toInt_excess hprice] at hrange
    have hprice' : (0 : Int) ≤ price.toInt := hprice
    exact ⟨he, by omega⟩
  · cases h

/-- The groups that runs yield save what groups of the dearest units save. They are counted as the
number of groups that the units fill. -/
theorem groupUnits_spec (hsize : 0 < size) (hprice : 0 ≤ price)
    (h : groupUnits size price g runs = .ok g') :
    g'.saved.toInt = g.saved.toInt + saving size price.toInt runs.prices ∧
      g'.count = g.count + UInt32.ofNat (runs.units / size) := by
  fun_induction groupUnits size price g runs with
  | case1 => cases h
  | case2 g runs _ rest ht =>
    -- too few units are left for a group
    obtain ⟨hlt, -⟩ := UnitRuns.take_none_spec ht
    obtain rfl := Except.ok.inj h
    rw [saving_of_lt (by rwa [UnitRuns.length_prices]), Nat.div_eq_of_lt hlt]
    exact ⟨(Int.add_zero _).symm, (UInt32.add_zero _).symm⟩
  | case3 => cases h
  | case4 g runs _ value rest ht hrest g₁ hadd ih =>
    obtain ⟨hle, hvalue, hprices⟩ := UnitRuns.take_some_spec ht
    obtain ⟨hsaved, hcount⟩ := toInt_saved_add hprice hadd
    obtain ⟨hsaved', hcount'⟩ := ih h
    have hlen : size ≤ runs.prices.length := by rwa [UnitRuns.length_prices]
    have hunits : runs.units = rest.units + size := (UnitRuns.units_take ht).symm
    constructor
    · rw [hsaved', hsaved, hprices, saving_of_le hsize hlen, hvalue, Int.add_assoc]
    · rw [hcount', hcount, hunits, Nat.add_div_right _ hsize, Nat.add_comm _ 1,
        UInt32.ofNat_add, ← UInt32.add_assoc]
      rfl
  | case5 _ _ hzero => exact absurd hsize hzero

/-- Groups are not formed only where there are units for one, and they or the savings do not fit an
amount. -/
theorem groupUnits_error (hprice : 0 ≤ price) (hsaved : 0 ≤ g.saved.toInt)
    {e : ArithmeticError} (h : groupUnits size price g runs = .error e) :
    size ≤ runs.units ∧ e = .overflow ∧
      2 ^ 63 ≤ g.saved.toInt.natAbs + UnitRuns.magnitude runs.prices := by
  fun_induction groupUnits size price g runs with
  | case1 g runs _ e' rest ht =>
    obtain ⟨hle, hover, hrange⟩ := UnitRuns.take_error_spec ht
    obtain rfl := Except.error.inj h
    exact ⟨hle, hover, by omega⟩
  | case2 => cases h
  | case3 g runs _ value rest ht _ e' hadd =>
    obtain ⟨hle, hvalue, -⟩ := UnitRuns.take_some_spec ht
    obtain rfl := Except.error.inj h
    obtain ⟨hover, hrange⟩ := add_error hprice hadd
    have hgroup := UnitRuns.natAbs_sum_le_magnitude (runs.prices.take size)
    have hsplit := UnitRuns.magnitude_take_add_drop size runs.prices
    rw [hvalue] at hrange
    exact ⟨hle, hover, by omega⟩
  | case4 g runs _ value rest ht hrest g₁ hadd ih =>
    obtain ⟨hle, hvalue, hprices⟩ := UnitRuns.take_some_spec ht
    obtain ⟨hsaved₁, -⟩ := toInt_saved_add hprice hadd
    obtain ⟨-, hover, hrange⟩ := ih (by omega) h
    have hprice' : (0 : Int) ≤ price.toInt := hprice
    have hgroup := UnitRuns.natAbs_sum_le_magnitude (runs.prices.take size)
    have hsplit := UnitRuns.magnitude_take_add_drop size runs.prices
    rw [hprices, hsaved₁, hvalue] at hrange
    exact ⟨hle, hover, by omega⟩
  | case5 => cases h

/-! ## What is granted -/

/-- The lines that groups are formed of. -/
def linesOf (r : MixMatch) (b : Basis) : List BillLine :=
  (b.lines.ofCategory b.catalog r.category).map (·.line)

variable {r : MixMatch} {b : Basis} {lines : List BillLine} {e : ArithmeticError}

theorem groups_ok (hsize : 1 ≤ r.groupSize.toNat) (hprice : 0 ≤ r.specialPrice)
    (hsame : r.allowSameProduct = true) (h : r.groups lines = .ok g) :
    IsGreatest {v | ∃ F : Finset (Finset (UnitOf lines)), IsFamily r.groupSize.toNat F ∧
        v = familySaving UnitOf.price r.specialPrice.toInt F} g.saved.toInt ∧
      g.count = UInt32.ofNat (Fintype.card (UnitOf lines) / r.groupSize.toNat) := by
  rw [groups, if_pos hsame] at h
  obtain ⟨hsaved, hcount⟩ := groupUnits_spec hsize hprice h
  have hsaved' : g.saved.toInt =
      saving r.groupSize.toNat r.specialPrice.toInt (UnitRuns.ofLines lines).prices := by
    rw [hsaved]
    exact Int.zero_add _
  constructor
  · rw [hsaved']
    exact isGreatest_saving hsize (UnitOf.map_price_univ lines)
      (UnitRuns.pairwise_prices_ofLines lines)
  · rw [hcount, UnitOf.card_eq_units]
    exact UInt32.zero_add _

theorem groups_error (hprice : 0 ≤ r.specialPrice)
    (hsame : r.allowSameProduct = true) (h : r.groups lines = .error e) :
    r.groupSize.toNat ≤ Fintype.card (UnitOf lines) ∧ e = .overflow ∧
      2 ^ 63 ≤ ∑ u : UnitOf lines, u.price.natAbs := by
  rw [groups, if_pos hsame] at h
  have hzero : (0 : Int) ≤ ({} : Groups).saved.toInt := Int.le_refl 0
  obtain ⟨hunits, hover, hrange⟩ := groupUnits_error hprice hzero h
  rw [UnitOf.card_eq_units, UnitOf.sum_natAbs_price]
  refine ⟨hunits, hover, ?_⟩
  simpa using hrange

theorem grant_of_groups_ok (h : r.groups (r.linesOf b) = .ok g) :
    r.grant b =
      if g.count = 0 then .error (.ineligible .mixMatchQuantityNotMet)
      else
        .ok { discount := g.saved,
              affected := EligibleLines.indicesOf (b.lines.ofCategory b.catalog r.category) } := by
  rw [linesOf] at h
  unfold MixMatch.grant
  simp only [h, Judged.liftM_ok, Fallible.ok_bind]
  by_cases hcount : g.count = 0
  · rw [if_pos hcount, Judged.require_of_not (by simpa using hcount), Fallible.error_bind]
  · rw [if_neg hcount, Judged.require_of (decide_eq_true hcount), Fallible.ok_bind]
    rfl

theorem grant_of_groups_error (h : r.groups (r.linesOf b) = .error e) :
    r.grant b = .error (.fault (.arithmetic e)) := by
  rw [linesOf] at h
  unfold MixMatch.grant
  simp only [h, Judged.liftM_error, Fallible.error_bind]

/-- What a rule grants whose groups may hold several units of a product is the most that any
family of groups of units of its category saves. As long as the groups can be counted, the rule does
not apply just where there are too few units for a group. Units that come to less than the greatest
amount can always be grouped. -/
theorem grant_isGreatest (r : MixMatch) (b : Basis) (hsize : 1 ≤ r.groupSize.toNat)
    (hprice : 0 ≤ r.specialPrice) (hsame : r.allowSameProduct = true) :
    (Fintype.card (UnitOf (r.linesOf b)) / r.groupSize.toNat < 2 ^ 32 →
      (r.grant b = .error (.ineligible .mixMatchQuantityNotMet) ↔
        Fintype.card (UnitOf (r.linesOf b)) < r.groupSize.toNat)) ∧
    (Fintype.card (UnitOf (r.linesOf b)) / r.groupSize.toNat < 2 ^ 32 →
      r.groupSize.toNat ≤ Fintype.card (UnitOf (r.linesOf b)) →
      r.grant b ≠ .error (.fault (.arithmetic .overflow)) → ∃ grant, r.grant b = .ok grant) ∧
    (∀ grant, r.grant b = .ok grant →
      IsGreatest {v | ∃ F : Finset (Finset (UnitOf (r.linesOf b))),
        IsFamily r.groupSize.toNat F ∧
          v = familySaving UnitOf.price r.specialPrice.toInt F} grant.discount.toInt) ∧
    (∑ u : UnitOf (r.linesOf b), u.price.natAbs < 2 ^ 63 →
      r.grant b ≠ .error (.fault (.arithmetic .overflow))) := by
  cases hgroups : r.groups (r.linesOf b) with
  | error e =>
    obtain ⟨hcard, rfl, hrange⟩ := groups_error hprice hsame hgroups
    have hgrant := grant_of_groups_error hgroups
    rw [hgrant]
    refine ⟨fun _ => ⟨nofun, fun h => absurd hcard (Nat.not_le_of_lt h)⟩, ?_, fun _ => nofun, ?_⟩
    · exact fun _ _ h => absurd rfl h
    · exact fun h => absurd hrange (Nat.not_le_of_lt h)
  | ok g =>
    obtain ⟨hgreatest, hcount⟩ := groups_ok hsize hprice hsame hgroups
    have hnone (hunits : Fintype.card (UnitOf (r.linesOf b)) / r.groupSize.toNat < 2 ^ 32) :
        g.count = 0 ↔ Fintype.card (UnitOf (r.linesOf b)) < r.groupSize.toNat := by
      rw [hcount, ofNat_count_eq_zero_iff hunits, Nat.div_eq_zero_iff_lt hsize]
    have hgrant := grant_of_groups_ok hgroups
    rw [hgrant]
    by_cases hzero : g.count = 0
    · rw [if_pos hzero]
      refine ⟨fun hunits => ⟨fun _ => (hnone hunits).1 hzero, fun _ => rfl⟩, ?_, ?_, ?_⟩
      · exact fun hunits h => absurd ((hnone hunits).1 hzero) (Nat.not_lt_of_le h)
      · exact fun _ => nofun
      · exact fun _ => nofun
    · rw [if_neg hzero]
      refine ⟨fun hunits => ⟨nofun, fun h => absurd ((hnone hunits).2 h) hzero⟩, ?_, ?_, ?_⟩
      · exact fun _ _ _ => ⟨_, rfl⟩
      · rintro grant ⟨⟩
        exact hgreatest
      · exact fun _ => nofun

end MixMatch

namespace Sample

/-- An identifier with a small number. -/
def id {kind : Kind} (n : UInt8) : Id kind := ⟨⟨n.toNat, Nat.lt_trans n.toNat_lt (by decide)⟩⟩

/-- Some minor units. -/
def amount (n : Int) : Amount := .saturate n

/-- The day of the bill. -/
def date : Date := ⟨2026, 3, 14, by decide⟩

/-- Three units for one hundred, with the promotion of code `B` asked for. -/
def bill : Bill where
  storeId := id 1
  brandId := id 1
  currency := "IDR"
  channel := "dine_in"
  localTime := ⟨date, .midnight⟩
  lines := [⟨id 1, none, 2, amount 40⟩, ⟨id 2, none, 1, amount 20⟩]
  requestedPromotions := .ofList ["b"]

/-- The products of the bill, which are in one category. -/
def catalog : Catalog :=
  .ofList [(id 1, { category := some (id 1) }), (id 2, { category := some (id 1) })]

/-- The bill with all its lines eligible. -/
def basis : Basis where
  bill := bill
  catalog := catalog
  lines := ⟨bill.placedLines, amount 100, 3⟩
  base := amount 100

/-- Three units of the category for seventy. -/
def mixMatch : MixMatch := ⟨id 1, 3, amount 70, true⟩

end Sample

/-- The three units of the bill, from both lines, are the best group and save thirty. -/
theorem MixMatch.grant_isGreatest_shop :
    (1 ≤ Sample.mixMatch.groupSize.toNat ∧ 0 ≤ Sample.mixMatch.specialPrice ∧
      Sample.mixMatch.allowSameProduct = true) ∧
    IsGreatest {v | ∃ F : Finset (Finset (UnitOf (Sample.mixMatch.linesOf Sample.basis))),
      Grouping.IsFamily 3 F ∧ v = Grouping.familySaving UnitOf.price 70 F} 30 := by
  have hrule : 1 ≤ Sample.mixMatch.groupSize.toNat ∧ 0 ≤ Sample.mixMatch.specialPrice ∧
      Sample.mixMatch.allowSameProduct = true := by decide
  refine ⟨hrule, ?_⟩
  obtain ⟨-, -, hgreatest, -⟩ :=
    grant_isGreatest Sample.mixMatch Sample.basis hrule.1 hrule.2.1 hrule.2.2
  have hgrant : Sample.mixMatch.grant Sample.basis =
      .ok { discount := Sample.amount 30, affected := [0, 1] } := by
    cbv
  exact hgreatest _ hgrant

end Promotions

import Mathlib.Algebra.BigOperators.Intervals
import Mathlib.Algebra.Order.BigOperators.Group.Finset
import Mathlib.Data.Finset.Card
import Mathlib.Data.Fintype.Basic
import Mathlib.Data.List.Perm.Subperm
import Mathlib.Order.Bounds.Basic
import Mathlib.Tactic

/-!
# Proofs: groups of the dearest units

Things with prices are put together in groups of one size, and each group saves what it is worth
above a price, or nothing. Groups of the dearest things, formed one after the other, save the most:
the groups of any family that save something are together worth no more than as many groups of the
dearest things, and those are among the groups that are formed.
-/

namespace Promotions.Grouping

open Finset

/-- What is saved by the groups of `size` that a list of prices falls into from the front; what is
left over is in no group. -/
def saving (size : ℕ) (price : ℤ) (prices : List ℤ) : ℤ :=
  ∑ i ∈ range (prices.length / size), max 0 (((prices.drop (i * size)).take size).sum - price)

/-- A family of groups of `size` things of which no thing is in two. -/
structure IsFamily {α : Type} (size : ℕ) (F : Finset (Finset α)) : Prop where
  card_eq : ∀ g ∈ F, g.card = size
  disjoint : (F : Set (Finset α)).PairwiseDisjoint id

/-- What a family of groups saves. -/
def familySaving {α : Type} (worth : α → ℤ) (price : ℤ) (F : Finset (Finset α)) : ℤ :=
  ∑ g ∈ F, max 0 (∑ a ∈ g, worth a - price)

/-! ## Groups from the front -/

theorem saving_of_lt {size : ℕ} {price : ℤ} {prices : List ℤ} (h : prices.length < size) :
    saving size price prices = 0 := by
  rw [saving, Nat.div_eq_of_lt h, range_zero, sum_empty]

/-- The first group is that of the first prices. -/
theorem saving_of_le {size : ℕ} {price : ℤ} {prices : List ℤ} (hsize : 0 < size)
    (h : size ≤ prices.length) :
    saving size price prices =
      max 0 ((prices.take size).sum - price) + saving size price (prices.drop size) := by
  have hlen : prices.length / size = (prices.length - size) / size + 1 :=
    Nat.div_eq_sub_div hsize h
  rw [saving, hlen, sum_range_succ', add_comm, saving, List.length_drop]
  congr 1
  · simp
  · refine sum_congr rfl fun i _ => ?_
    rw [List.drop_drop, Nat.succ_mul, Nat.add_comm]

/-! ## Families of groups -/

section Family

variable {α : Type} {worth : α → ℤ} {size : ℕ} {price : ℤ} {F : Finset (Finset α)}

/-- Only the groups that are worth more than the price count. -/
theorem familySaving_eq_filter (F : Finset (Finset α)) :
    familySaving worth price F =
      ∑ g ∈ F with price < ∑ a ∈ g, worth a, (∑ a ∈ g, worth a - price) := by
  rw [familySaving, sum_filter]
  refine sum_congr rfl fun g _ => ?_
  split
  · exact max_eq_right (by linarith)
  · exact max_eq_left (by linarith)

theorem IsFamily.subset {F' : Finset (Finset α)} (hF : IsFamily size F) (h : F' ⊆ F) :
    IsFamily size F' :=
  ⟨fun g hg => hF.card_eq g (h hg), hF.disjoint.subset (coe_subset.2 h)⟩

theorem IsFamily.card_biUnion [DecidableEq α] (hF : IsFamily size F) :
    (F.biUnion id).card = F.card * size := by
  have hcard : ∀ g ∈ F, (id g).card = size := hF.card_eq
  rw [Finset.card_biUnion hF.disjoint, sum_congr rfl hcard, sum_const, smul_eq_mul]

theorem IsFamily.empty : IsFamily size (∅ : Finset (Finset α)) :=
  ⟨by simp, by simp⟩

theorem IsFamily.insert [DecidableEq α] {g : Finset α} (hF : IsFamily size F) (hg : g.card = size)
    (hdisjoint : ∀ g' ∈ F, Disjoint g g') : IsFamily size (insert g F) := by
  refine ⟨fun g' hg' => ?_, ?_⟩
  · rcases mem_insert.1 hg' with rfl | hg'
    · exact hg
    · exact hF.card_eq g' hg'
  · rw [coe_insert]
    exact hF.disjoint.insert fun g' hg' _ => hdisjoint g' hg'

theorem notMem_of_disjoint {g : Finset α} (hsize : 0 < size) (hg : g.card = size)
    (hdisjoint : ∀ g' ∈ F, Disjoint g g') : g ∉ F := by
  intro hmem
  have hempty := disjoint_self.1 (hdisjoint _ hmem)
  rw [hempty, bot_eq_empty, card_empty] at hg
  omega

theorem familySaving_insert [DecidableEq α] {g : Finset α} (hg : g ∉ F) :
    familySaving worth price (insert g F) =
      max 0 (∑ a ∈ g, worth a - price) + familySaving worth price F :=
  sum_insert hg

variable (worth) in
/-- Things in a row, put together in groups from the front, are a family. -/
theorem exists_family [DecidableEq α] (hsize : 0 < size) (things : List α)
    (hnodup : things.Nodup) :
    ∃ F, IsFamily size F ∧ (∀ g ∈ F, g ⊆ things.toFinset) ∧
      familySaving worth price F = saving size price (things.map worth) := by
  induction hn : things.length using Nat.strong_induction_on generalizing things with
  | _ n ih =>
    by_cases hlt : things.length < size
    · refine ⟨∅, IsFamily.empty, by simp, ?_⟩
      rw [saving_of_lt (by rwa [List.length_map]), familySaving, sum_empty]
    · have hle : size ≤ things.length := Nat.le_of_not_lt hlt
      have hshorter : (things.drop size).length < n := by
        rw [List.length_drop]
        omega
      have hsplit : (things.take size ++ things.drop size).Nodup := by
        rwa [List.take_append_drop]
      obtain ⟨hfirst, hrest, hapart⟩ := List.nodup_append.1 hsplit
      -- the groups of the rest stay inside the rest, so the first group is apart from them
      obtain ⟨F, hF, hsub, hsaving⟩ := ih _ hshorter (things.drop size) hrest rfl
      have hcard : (things.take size).toFinset.card = size := by
        rw [List.toFinset_card_of_nodup hfirst, List.length_take, Nat.min_eq_left hle]
      have hdisjoint : ∀ g ∈ F, Disjoint (things.take size).toFinset g := by
        intro g hg
        refine disjoint_left.2 fun a ha hag => ?_
        exact hapart a (List.mem_toFinset.1 ha) a (List.mem_toFinset.1 (hsub g hg hag)) rfl
      have hnew := notMem_of_disjoint hsize hcard hdisjoint
      refine ⟨insert (things.take size).toFinset F, hF.insert hcard hdisjoint, ?_, ?_⟩
      · intro g hg a ha
        rcases mem_insert.1 hg with rfl | hg
        · exact List.mem_toFinset.2 (List.mem_of_mem_take (List.mem_toFinset.1 ha))
        · exact List.mem_toFinset.2 (List.mem_of_mem_drop (List.mem_toFinset.1 (hsub g hg ha)))
      · have hlen : size ≤ (things.map worth).length := by rwa [List.length_map]
        rw [familySaving_insert hnew, hsaving, saving_of_le hsize hlen,
          List.sum_toFinset _ hfirst, List.map_take, List.map_drop]

end Family

/-! ## No family saves more -/

theorem sum_take_le_sum_take_cons {p : ℤ} {prices : List ℤ}
    (hdesc : (p :: prices).Pairwise fun p q => q ≤ p) {n : ℕ} (hn : n ≤ prices.length) :
    (prices.take n).sum ≤ ((p :: prices).take n).sum := by
  cases n with
  | zero => simp
  | succ n =>
    have hlt : n < prices.length := hn
    have hle : prices[n] ≤ p := (List.pairwise_cons.1 hdesc).1 _ (List.getElem_mem hlt)
    rw [List.sum_take_succ _ _ hlt, List.take_succ_cons, List.sum_cons]
    linarith

/-- The first prices of a descending list are together the highest. -/
theorem sum_le_sum_take {prices sub : List ℤ} (hdesc : prices.Pairwise fun p q => q ≤ p)
    (hsub : sub.Sublist prices) : sub.sum ≤ (prices.take sub.length).sum := by
  induction hsub with
  | slnil => simp
  | @cons sub prices p hsub ih =>
    have hstep := sum_take_le_sum_take_cons hdesc hsub.length_le
    exact (ih (List.pairwise_cons.1 hdesc).2).trans hstep
  | @cons_cons sub prices p hsub ih =>
    have := ih (List.pairwise_cons.1 hdesc).2
    simpa using this

theorem sum_take_mul (size m : ℕ) (prices : List ℤ) :
    (prices.take (m * size)).sum =
      ∑ i ∈ range m, ((prices.drop (i * size)).take size).sum := by
  induction m with
  | zero => simp
  | succ m ih => rw [Nat.succ_mul, List.take_add, List.sum_append, ih, sum_range_succ]

section Finite

variable {α : Type} [Fintype α] {worth : α → ℤ} {prices : List ℤ} {size : ℕ} {price : ℤ}
  {F : Finset (Finset α)}

/-- Some things are worth no more together than as many of the dearest. -/
theorem sum_worth_le (hall : univ.val.map worth = (prices : Multiset ℤ))
    (hdesc : prices.Pairwise fun p q => q ≤ p) (U : Finset α) :
    ∑ a ∈ U, worth a ≤ (prices.take U.card).sum := by
  have hle : U.val.map worth ≤ (prices : Multiset ℤ) := by
    rw [← hall]
    exact Multiset.map_le_map (val_le_iff.2 (subset_univ U))
  obtain ⟨worths, hworths⟩ := Quot.exists_rep (U.val.map worth)
  have hworths' : (worths : Multiset ℤ) = U.val.map worth := hworths
  rw [← hworths', Multiset.coe_le] at hle
  obtain ⟨sub, hperm, hsub⟩ := hle
  have hcard : sub.length = U.card := by
    rw [hperm.length_eq, ← Multiset.coe_card, hworths', Multiset.card_map]
    rfl
  calc ∑ a ∈ U, worth a = sub.sum := by
        rw [Finset.sum, ← hworths', Multiset.sum_coe, hperm.sum_eq]
    _ ≤ (prices.take U.card).sum := by
        rw [← hcard]
        exact sum_le_sum_take hdesc hsub

/-- No family of groups saves more than the groups of the dearest things. -/
theorem familySaving_le (hsize : 0 < size) (hall : univ.val.map worth = (prices : Multiset ℤ))
    (hdesc : prices.Pairwise fun p q => q ≤ p) (hF : IsFamily size F) :
    familySaving worth price F ≤ saving size price prices := by
  classical
  -- of the groups that save something each is worth exactly the price more than it saves
  set F' := F.filter fun g => price < ∑ a ∈ g, worth a with hF'
  have hfamily : IsFamily size F' := hF.subset (filter_subset _ _)
  have hcard := hfamily.card_biUnion
  have hlen : F'.card * size ≤ prices.length := by
    rw [← hcard, ← Multiset.coe_card, ← hall, Multiset.card_map]
    exact card_le_univ _
  have hcount : F'.card ≤ prices.length / size := (Nat.le_div_iff_mul_le hsize).2 hlen
  calc familySaving worth price F
      = ∑ a ∈ F'.biUnion id, worth a - F'.card * price := by
        rw [familySaving_eq_filter, ← hF', sum_sub_distrib, sum_const, nsmul_eq_mul,
          sum_biUnion hfamily.disjoint]
        rfl
    _ ≤ (prices.take (F'.card * size)).sum - F'.card * price := by
        rw [← hcard]
        exact sub_le_sub_right (sum_worth_le hall hdesc _) _
    _ = ∑ i ∈ range F'.card, (((prices.drop (i * size)).take size).sum - price) := by
        rw [sum_take_mul, sum_sub_distrib, sum_const, card_range, nsmul_eq_mul]
    _ ≤ ∑ i ∈ range F'.card, max 0 (((prices.drop (i * size)).take size).sum - price) :=
        sum_le_sum fun i _ => le_max_right _ _
    _ ≤ saving size price prices :=
        sum_le_sum_of_subset_of_nonneg (range_subset_range.2 hcount) fun i _ _ => le_max_left _ _

/-! ## The most that is saved -/

theorem exists_list_map_eq (hall : univ.val.map worth = (prices : Multiset ℤ)) :
    ∃ things : List α, things.Nodup ∧ things.map worth = prices := by
  have hperm : prices.Perm (univ.toList.map worth) := by
    rw [← Multiset.coe_eq_coe, ← hall, ← Multiset.map_coe, coe_toList]
  rw [← congrFun₂ (List.eq_map_comp_perm worth) prices univ.toList] at hperm
  obtain ⟨things, hworth, hthings⟩ := hperm
  exact ⟨things, hthings.nodup_iff.2 (nodup_toList _), hworth.symm⟩

/-- Groups of the dearest things save the most. -/
theorem isGreatest_saving (hsize : 0 < size) (hall : univ.val.map worth = (prices : Multiset ℤ))
    (hdesc : prices.Pairwise fun p q => q ≤ p) :
    IsGreatest {v | ∃ F, IsFamily size F ∧ v = familySaving worth price F}
      (saving size price prices) := by
  classical
  refine ⟨?_, ?_⟩
  · obtain ⟨things, hnodup, rfl⟩ := exists_list_map_eq hall
    obtain ⟨F, hF, -, hsaving⟩ := exists_family worth hsize things hnodup
    exact ⟨F, hF, hsaving.symm⟩
  · rintro v ⟨F, hF, rfl⟩
    exact familySaving_le hsize hall hdesc hF

end Finite

end Promotions.Grouping

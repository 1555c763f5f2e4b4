import Mathlib.Data.Set.Card
import Promotions.Proofs.Grouping.MixMatch
import Promotions.Proofs.StableOrder

/-!
# Proofs: groups of different products, unit by unit

The units of each product stand on a shelf of their own, the dearest first. While enough products
have units left, a group takes the first units of those products whose first units are dearest. This
says what groups of different products are without runs, rows or sorting, and it leaves nothing
open: the same shelves give the same groups.
-/

namespace Promotions

open StableOrder

variable {lines : List BillLine}

namespace UnitOf

/-- The product of a unit. -/
def product (u : UnitOf lines) : ProductId := (lines.get u.1).product

/-- A unit is taken before another that is cheaper, or as dear and of a product that comes later. -/
def ComesBefore (u v : UnitOf lines) : Prop :=
  v.price < u.price ∨ u.price = v.price ∧ Ordered.before u.product v.product = true

theorem ComesBefore.asymm {u v : UnitOf lines} (h : u.ComesBefore v) : ¬v.ComesBefore u := by
  intro h'
  rcases h with hlt | ⟨heq, hbefore⟩
  · rcases h' with hlt' | ⟨heq', -⟩
    · omega
    · omega
  · rcases h' with hlt' | ⟨-, hbefore'⟩
    · omega
    · rw [Ordered.asymm hbefore] at hbefore'
      cases hbefore'

instance : Std.Irrefl (@ComesBefore lines) := ⟨fun _ h => h.asymm h⟩

/-- One unit may stand before another that is not dearer. -/
def dearerOrSame (u v : UnitOf lines) : Bool := decide (v.price ≤ u.price)

theorem isRanking_dearerOrSame : IsRanking (@dearerOrSame lines) := by
  refine ⟨fun u v w huv hvw => ?_, fun u v => ?_⟩
  · exact decide_eq_true (Int.le_trans (of_decide_eq_true hvw) (of_decide_eq_true huv))
  · rw [Bool.or_eq_true, dearerOrSame, dearerOrSame, decide_eq_true_iff, decide_eq_true_iff]
    exact Int.le_total _ _

end UnitOf

/-- The units of each product that are left, the next to be taken first. -/
abbrev Shelves (lines : List BillLine) : Type := ProductId → List (UnitOf lines)

/-- The products of which lines have units. -/
def productsOf (lines : List BillLine) : Set ProductId := {p | ∃ u : UnitOf lines, u.product = p}

namespace Shelves

/-- All units of lines stand on the shelves of their products by descending price. -/
structure IsListing (shelves : Shelves lines) : Prop where
  mem_iff : ∀ p u, u ∈ shelves p ↔ u.product = p
  nodup : ∀ p, (shelves p).Nodup
  descending : ∀ p, (shelves p).Pairwise fun u v => v.price ≤ u.price

/-- The products that have units left. -/
def products (shelves : Shelves lines) : Set ProductId := {p | shelves p ≠ []}

/-- Units can be listed, whatever the lines are. -/
theorem exists_isListing (lines : List BillLine) :
    ∃ shelves : Shelves lines, shelves.IsListing := by
  refine ⟨fun p =>
    (Finset.univ.toList.filter fun u => u.product = p).mergeSort UnitOf.dearerOrSame, ?_⟩
  exact
    { mem_iff := fun p u => by simp
      nodup := fun p =>
        (List.mergeSort_perm _ _).nodup_iff.2 ((Finset.nodup_toList _).filter _)
      descending := fun p =>
        (UnitOf.isRanking_dearerOrSame.pairwise_mergeSort _).imp fun h => of_decide_eq_true h }

theorem IsListing.products_eq {shelves : Shelves lines} (h : shelves.IsListing) :
    shelves.products = productsOf lines := by
  ext p
  constructor
  · intro hunits
    obtain ⟨u, hu⟩ := List.exists_mem_of_ne_nil _ hunits
    exact ⟨u, (h.mem_iff p u).1 hu⟩
  · rintro ⟨u, rfl⟩
    exact List.ne_nil_of_mem ((h.mem_iff _ u).2 rfl)

end Shelves

/-! ## One group -/

/-- A group of the first units of the products whose first units are dearest is taken off the
shelves. -/
structure IsRound (size : Nat) (shelves : Shelves lines) (group : List (UnitOf lines))
    (rest : Shelves lines) : Prop where
  length : group.length = size
  ordered : group.Pairwise UnitOf.ComesBefore
  first : ∀ u ∈ group, (shelves u.product).head? = some u
  dearest : ∀ u ∈ group, ∀ v, (shelves v.product).head? = some v → v ∉ group → u.ComesBefore v
  rest : ∀ p, rest p = if p ∈ group.map UnitOf.product then (shelves p).tail else shelves p

namespace IsRound

variable {size : Nat} {shelves next next' : Shelves lines} {group group' : List (UnitOf lines)}

theorem nodup (h : IsRound size shelves group next) : group.Nodup := h.ordered.nodup

/-- A product has one first unit, so the products of a group are different. -/
theorem nodup_products (h : IsRound size shelves group next) :
    (group.map UnitOf.product).Nodup := by
  refine List.Nodup.map_on (fun u hu v hv hproduct => ?_) h.nodup
  have hu := h.first u hu
  rw [hproduct, h.first v hv] at hu
  exact (Option.some.inj hu).symm

theorem le_encard (h : IsRound size shelves group next) :
    (size : ℕ∞) ≤ shelves.products.encard := by
  have hsubset : ((group.map UnitOf.product).toFinset : Set ProductId) ⊆ shelves.products := by
    intro p hp
    obtain ⟨u, hu, rfl⟩ := List.mem_map.1 (List.mem_toFinset.1 hp)
    exact List.ne_nil_of_mem (List.mem_of_head? (h.first u hu))
  have hcard := Set.encard_le_encard hsubset
  rwa [Set.encard_coe_eq_coe_finsetCard, List.toFinset_card_of_nodup h.nodup_products,
    List.length_map, h.length] at hcard

theorem subset_of (h : IsRound size shelves group next) (h' : IsRound size shelves group' next') :
    group ⊆ group' := by
  intro u hu
  by_contra hout
  -- then another unit is in the other group only, and each of both comes before the other
  have hother : ∃ v ∈ group', v ∉ group := by
    by_contra hall
    push Not at hall
    have hperm := (h'.nodup.subperm hall).perm_of_length_le (by rw [h.length, h'.length])
    exact hout (hperm.mem_iff.2 hu)
  obtain ⟨v, hv, hvout⟩ := hother
  have huv := h.dearest u hu v (h'.first v hv) hvout
  exact huv.asymm (h'.dearest v hv u (h.first u hu) hout)

theorem unique (h : IsRound size shelves group next) (h' : IsRound size shelves group' next') :
    group = group' ∧ next = next' := by
  have hperm : group.Perm group' :=
    (List.perm_ext_iff_of_nodup h.nodup h'.nodup).2 fun _ =>
      ⟨fun hu => h.subset_of h' hu, fun hu => h'.subset_of h hu⟩
  obtain rfl := hperm.eq_of_pairwise (fun _ _ _ _ huv hvu => (huv.asymm hvu).elim)
    h.ordered h'.ordered
  exact ⟨rfl, funext fun p => by rw [h.rest, h'.rest]⟩

/-- What is taken off a shelf is its unit of the group. -/
theorem shelf_eq (h : IsRound size shelves group next) (p : ProductId) :
    shelves p = (group.filter fun u => u.product = p) ++ next p := by
  rw [h.rest]
  by_cases hp : p ∈ group.map UnitOf.product
  · obtain ⟨u, hu, rfl⟩ := List.mem_map.1 hp
    have hfilter : (group.filter fun v => v.product = u.product) = [u] := by
      refine List.perm_singleton.1 ((List.perm_ext_iff_of_nodup (h.nodup.filter _)
        (List.nodup_singleton u)).2 fun v => ?_)
      rw [List.mem_filter, List.mem_singleton, decide_eq_true_iff]
      constructor
      · rintro ⟨hv, hproduct⟩
        exact List.inj_on_of_nodup_map h.nodup_products hv hu hproduct
      · rintro rfl
        exact ⟨hu, rfl⟩
    rw [if_pos hp, hfilter]
    exact (List.cons_head?_tail (h.first u hu)).symm
  · have hfilter : (group.filter fun u => u.product = p) = [] :=
      List.filter_eq_nil_iff.2 fun u hu hproduct =>
        hp (List.mem_map.2 ⟨u, hu, of_decide_eq_true hproduct⟩)
    rw [if_neg hp, hfilter, List.nil_append]

end IsRound

/-! ## All groups -/

/-- Groups are taken off the shelves, one after the other, until too few products have units left
for another. -/
inductive Rounds (size : Nat) :
    Shelves lines → List (List (UnitOf lines)) → Shelves lines → Prop
  | done {shelves : Shelves lines} (h : shelves.products.encard < size) :
      Rounds size shelves [] shelves
  | group {shelves next rest : Shelves lines} {group : List (UnitOf lines)}
      {groups : List (List (UnitOf lines))} (h : IsRound size shelves group next)
      (hrest : Rounds size next groups rest) : Rounds size shelves (group :: groups) rest

namespace Rounds

variable {size : Nat} {shelves rest rest' : Shelves lines}
  {groups groups' : List (List (UnitOf lines))}

theorem unique (h : Rounds size shelves groups rest) (h' : Rounds size shelves groups' rest') :
    groups = groups' ∧ rest = rest' := by
  induction h generalizing groups' with
  | done hfew =>
    cases h' with
    | done => exact ⟨rfl, rfl⟩
    | group h' => exact absurd hfew (not_lt_of_ge h'.le_encard)
  | group h _ ih =>
    cases h' with
    | done hfew => exact absurd hfew (not_lt_of_ge h.le_encard)
    | group h' hrest =>
      obtain ⟨rfl, rfl⟩ := h.unique h'
      obtain ⟨rfl, rfl⟩ := ih hrest
      exact ⟨rfl, rfl⟩

theorem few_left (h : Rounds size shelves groups rest) : rest.products.encard < size := by
  induction h with
  | done h => exact h
  | group _ _ ih => exact ih

theorem eq_nil_iff (h : Rounds size shelves groups rest) :
    groups = [] ↔ shelves.products.encard < size := by
  cases h with
  | done h => exact ⟨fun _ => h, fun _ => rfl⟩
  | group h => exact ⟨nofun, fun hfew => absurd hfew (not_lt_of_ge h.le_encard)⟩

theorem length_and_nodup (h : Rounds size shelves groups rest) :
    ∀ group ∈ groups, group.length = size ∧ (group.map UnitOf.product).Nodup := by
  induction h with
  | done => exact List.forall_mem_nil _
  | group h _ ih => exact List.forall_mem_cons.2 ⟨⟨h.length, h.nodup_products⟩, ih⟩

/-- What stood on a shelf is what groups took off it, in their order, and what is left. -/
theorem shelf_eq (h : Rounds size shelves groups rest) (p : ProductId) :
    shelves p = (groups.flatten.filter fun u => u.product = p) ++ rest p := by
  induction h with
  | done => rfl
  | group h _ ih =>
    rw [h.shelf_eq, ih, List.flatten_cons, List.filter_append, List.append_assoc]

/-- Groups share no units, as no unit stood on its shelf twice. -/
theorem nodup_flatten (h : Rounds size shelves groups rest) (hshelves : ∀ p, (shelves p).Nodup) :
    groups.flatten.Nodup := by
  refine List.nodup_iff_count_le_one.2 fun u => ?_
  -- a unit is only taken off the shelf of its product
  have hown : (groups.flatten.filter fun v => v.product = u.product).count u =
      groups.flatten.count u := List.count_filter (decide_eq_true rfl)
  have hshelf := hshelves u.product
  rw [h.shelf_eq] at hshelf
  rw [← hown]
  exact List.nodup_iff_count_le_one.1 (List.nodup_append.1 hshelf).1 u

end Rounds

/-- Units are dealt into groups of different products, as far as they go. -/
structure IsDealt (size : Nat) (shelves : Shelves lines) (groups : List (List (UnitOf lines)))
    (rest : Shelves lines) : Prop where
  /-- Groups are of one size. -/
  length : ∀ group ∈ groups, group.length = size
  /-- The products of a group are different. -/
  different : ∀ group ∈ groups, (group.map UnitOf.product).Nodup
  /-- No unit is used twice. -/
  nodup : groups.flatten.Nodup
  /-- Of each product the dearest units are used, in order, and the others are left. -/
  shelf_eq : ∀ p, shelves p = (groups.flatten.filter fun u => u.product = p) ++ rest p
  /-- Too few products have units left for another group. -/
  few_left : rest.products.encard < size
  /-- There are no more groups than there are units for. -/
  bound : groups.length * size ≤ Fintype.card (UnitOf lines)

theorem Rounds.isDealt {size : Nat} {shelves rest : Shelves lines}
    {groups : List (List (UnitOf lines))} (h : Rounds size shelves groups rest)
    (hshelves : ∀ p, (shelves p).Nodup) : IsDealt size shelves groups rest where
  length := fun group hgroup => (h.length_and_nodup group hgroup).1
  different := fun group hgroup => (h.length_and_nodup group hgroup).2
  nodup := h.nodup_flatten hshelves
  shelf_eq := h.shelf_eq
  few_left := h.few_left
  bound := by
    have hlengths : groups.map List.length = List.replicate groups.length size :=
      List.map_eq_replicate_iff.2 fun group hgroup => (h.length_and_nodup group hgroup).1
    have hcard := (h.nodup_flatten hshelves).length_le_card
    rwa [List.length_flatten, hlengths, List.sum_replicate_nat] at hcard

end Promotions

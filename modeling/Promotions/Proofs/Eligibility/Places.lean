import Promotions.Proofs.Eligibility.Alike
import Promotions.Proofs.Sorted

/-!
# Proofs: the places of lines

When only some lines of a bill are kept, each of them comes to stand where as many of those that are
kept stood before it. So the lines that are kept stay in order, and what formulas put together of
their places moves with them.
-/

namespace Promotions

/-! ## Keeping some lines -/

/-- The number of lines that are kept before a place. -/
def keptBefore (keep : BillLine → Bool) (lines : List BillLine) (i : Nat) : Nat :=
  (lines.take i).countP keep

/-- The place at which a line comes to stand, if it is kept. -/
def placeAmong? (keep : BillLine → Bool) (lines : List BillLine) (i : Nat) : Option Nat :=
  if lines[i]?.any keep then some (keptBefore keep lines i) else none

variable {keep : BillLine → Bool} {lines : List BillLine}

theorem keptBefore_cons_succ (line : BillLine) (i : Nat) :
    keptBefore keep (line :: lines) (i + 1) =
      keptBefore keep lines i + if keep line then 1 else 0 := by
  rw [keptBefore, List.take_succ_cons, List.countP_cons]
  rfl

theorem zipIdx_filter (keep : BillLine → Bool) (lines : List BillLine) (n m : Nat) :
    (lines.filter keep).zipIdx n =
      ((lines.zipIdx m).filter fun x => keep x.1).map fun x =>
        (x.1, n + keptBefore keep lines (x.2 - m)) := by
  induction lines generalizing n m with
  | nil => rfl
  | cons line lines ih =>
    have hshift : ∀ x ∈ (lines.zipIdx (m + 1)).filter fun x => keep x.1,
        keptBefore keep (line :: lines) (x.2 - m) =
          keptBefore keep lines (x.2 - (m + 1)) + if keep line then 1 else 0 := by
      intro x hx
      have hle : m + 1 ≤ x.2 := List.le_snd_of_mem_zipIdx (List.mem_filter.1 hx).1
      rw [← keptBefore_cons_succ]
      congr 1
      omega
    rw [List.zipIdx_cons, List.filter_cons, List.filter_cons]
    by_cases hkeep : keep line = true
    · rw [if_pos hkeep, if_pos hkeep, List.zipIdx_cons, List.map_cons, Nat.sub_self,
        ih (n + 1) (m + 1)]
      refine congrArg _ (List.map_congr_left fun x hx => ?_)
      rw [hshift x hx, if_pos hkeep, Nat.add_right_comm, Nat.add_assoc]
    · rw [if_neg hkeep, if_neg hkeep, ih n (m + 1)]
      refine List.map_congr_left fun x hx => ?_
      rw [hshift x hx, if_neg hkeep]
      rfl

/-- The lines that are kept, where they come to stand. -/
theorem placedLines_filter (bill : Bill) (keep : BillLine → Bool) :
    Bill.placedLines { bill with lines := bill.lines.filter keep } =
      (bill.placedLines.filter fun p => keep p.line).map fun p =>
        ⟨keptBefore keep bill.lines p.index, p.line⟩ := by
  rw [Bill.placedLines, Bill.placedLines, zipIdx_filter keep bill.lines 0 0, List.filter_map,
    List.map_map, List.map_map]
  refine List.map_congr_left fun x _ => ?_
  simp only [Function.comp_apply, Nat.zero_add, Nat.sub_zero]

theorem mem_placedLines_iff {bill : Bill} {p : PlacedLine} :
    p ∈ bill.placedLines ↔ bill.lines[p.index]? = some p.line := by
  rw [Bill.placedLines, List.mem_map, ← List.mk_mem_zipIdx_iff_getElem?]
  constructor
  · rintro ⟨x, hx, rfl⟩
    exact hx
  · intro hp
    exact ⟨_, hp, rfl⟩

theorem placeAmong?_of_mem_placedLines (keep : BillLine → Bool) {bill : Bill} {p : PlacedLine}
    (h : p ∈ bill.placedLines) :
    placeAmong? keep bill.lines p.index =
      if keep p.line then some (keptBefore keep bill.lines p.index) else none := by
  rw [placeAmong?, mem_placedLines_iff.1 h]
  rfl

/-- Of the places of lines those stay that are kept. -/
theorem filterMap_placeAmong? {bill : Bill} {placed : List PlacedLine}
    (h : ∀ p ∈ placed, p ∈ bill.placedLines) :
    (EligibleLines.indicesOf placed).filterMap (placeAmong? keep bill.lines) =
      (placed.filter fun p => keep p.line).map fun p => keptBefore keep bill.lines p.index := by
  induction placed with
  | nil => rfl
  | cons p placed ih =>
    have hp := placeAmong?_of_mem_placedLines keep (h p List.mem_cons_self)
    have hrest := ih fun q hq => h q (List.mem_cons_of_mem _ hq)
    rw [EligibleLines.indicesOf] at hrest ⊢
    rw [List.map_cons, List.filterMap_cons, hp, hrest]
    by_cases hkeep : keep p.line = true
    · rw [if_pos hkeep, List.filter_cons_of_pos (by exact hkeep), List.map_cons]
    · rw [if_neg hkeep, List.filter_cons_of_neg (by exact hkeep)]

/-! ## Places that move -/

/-- Places move, some of them away, and those that stay keep their order. -/
def KeepsOrder (move : Nat → Option Nat) : Prop :=
  ∀ i j i' j', move i = some i' → move j = some j' → i < j → i' < j'

theorem keptBefore_lt {i j : Nat} (hkept : lines[i]?.any keep = true) (hij : i < j) :
    keptBefore keep lines i < keptBefore keep lines j := by
  obtain ⟨line, hline, hkeep⟩ := (Option.any_eq_true _ _).1 hkept
  have htake : lines.take (i + 1) = lines.take i ++ [line] := by
    rw [List.take_add_one, hline]
    rfl
  calc keptBefore keep lines i
      < keptBefore keep lines i + [line].countP keep := by simp [hkeep]
    _ = (lines.take (i + 1)).countP keep := by rw [htake, List.countP_append, keptBefore]
    _ ≤ keptBefore keep lines j := (List.take_sublist_take_left hij).countP_le

theorem keepsOrder_placeAmong? (keep : BillLine → Bool) (lines : List BillLine) :
    KeepsOrder (placeAmong? keep lines) := by
  intro i j i' j' hi hj hij
  obtain ⟨hkept, hi⟩ := Option.ite_none_right_eq_some.1 hi
  obtain ⟨-, hj⟩ := Option.ite_none_right_eq_some.1 hj
  obtain rfl := Option.some.inj hi
  obtain rfl := Option.some.inj hj
  exact keptBefore_lt hkept hij

theorem keepsOrder_some : KeepsOrder some := by
  intro i j i' j' hi hj hij
  obtain rfl := Option.some.inj hi
  obtain rfl := Option.some.inj hj
  exact hij

theorem filterMap_toSet {move : Nat → Option Nat} (h : KeepsOrder move) (places : List Nat) :
    (SortedSet.ofList places).toList.filterMap move =
      (SortedSet.ofList (places.filterMap move)).toList := by
  have hsorted : ((SortedSet.ofList places).toList.filterMap move).Pairwise
      fun a b => Ordered.before a b = true := by
    refine List.pairwise_filterMap.2 ((SortedSet.ofList places).sorted.imp ?_)
    exact fun hij i' hi j' hj => decide_eq_true (h _ _ _ _ hi hj (of_decide_eq_true hij))
  refine congrArg SortedSet.toList (SortedSet.ext_mem (s := ⟨_, hsorted⟩) fun place => ?_)
  rw [SortedSet.mem_ofList, List.mem_filterMap]
  refine List.mem_filterMap.trans (exists_congr fun i => and_congr_left fun _ => ?_)
  exact SortedSet.mem_ofList

/-- Places of two bills that move to the same places. -/
def MeetAt (move move' : Nat → Option Nat) (places places' : List Nat) : Prop :=
  places.filterMap move = places'.filterMap move'

theorem placesRelation_meetAt {move move' : Nat → Option Nat} (h : KeepsOrder move)
    (h' : KeepsOrder move') : PlacesRelation (MeetAt move move') where
  nil := rfl
  append ha hb := by
    rw [MeetAt, List.filterMap_append, List.filterMap_append, ha, hb]
  toSet ha := by
    rw [MeetAt, filterMap_toSet h, filterMap_toSet h', ha]

end Promotions

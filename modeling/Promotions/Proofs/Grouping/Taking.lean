import Promotions.Proofs.Amounts
import Promotions.Proofs.Grouping.MixMatch
import Promotions.Proofs.Grouping.Units

/-!
# Proofs: units that are taken one time after the other

However often units are taken of the runs of lines, also where a sum did not fit, what is left is
the end of the list of unit prices: no run is empty, the dearest unit stands in front, and the next
units to be taken are the dearest of those that are left.
-/

namespace Promotions

namespace UnitRuns

variable {r rest : UnitRuns} {count : Nat}

/-! ## What is left of runs -/

/-- What units that are taken from the front leave of runs. -/
inductive LeftOf (runs : List UnitRun) : List UnitRun → Prop
  /-- The last runs as they are. -/
  | runs {rest : List UnitRun} (h : rest <:+ runs) : LeftOf runs rest
  /-- Some units of a run, and the runs behind it. -/
  | units {run : UnitRun} {tail : List UnitRun} {units : Nat} (h : run :: tail <:+ runs)
      (hpos : 0 < units) (hlt : units < run.units) : LeftOf runs ({ run with units } :: tail)

theorem LeftOf.cons {runs rest : List UnitRun} (run : UnitRun) (h : LeftOf runs rest) :
    LeftOf (run :: runs) rest := by
  cases h with
  | runs h => exact .runs (h.trans (List.suffix_cons _ _))
  | units h hpos hlt => exact .units (h.trans (List.suffix_cons _ _)) hpos hlt

theorem leftOf_takeFrom (total : Amount) (count : Nat) (runs : List UnitRun) :
    LeftOf runs (takeFrom total count runs).2 := by
  induction runs generalizing total count with
  | nil => cases count <;> exact .runs List.suffix_rfl
  | cons run runs ih =>
    cases count with
    | zero => exact .runs List.suffix_rfl
    | succ count =>
      simp only [takeFrom]
      split
      · -- the sum does not fit, and the run stays as it is
        exact .runs List.suffix_rfl
      · split
        · exact (ih _ _).cons run
        · exact .units List.suffix_rfl (by omega) (by omega)

theorem leftOf_take (r : UnitRuns) (count : Nat) : LeftOf r.runs (r.take count).2.runs := by
  rw [take]
  split
  · exact .runs List.suffix_rfl
  · exact leftOf_takeFrom 0 count r.runs

theorem pricesOf_suffix {runs rest : List UnitRun} (h : rest <:+ runs) :
    pricesOf rest <:+ pricesOf runs := by
  obtain ⟨taken, rfl⟩ := h
  exact ⟨pricesOf taken, List.flatMap_append.symm⟩

namespace LeftOf

variable {runs rest : List UnitRun}

theorem prices (h : LeftOf runs rest) : pricesOf rest <:+ pricesOf runs := by
  cases h with
  | runs h => exact pricesOf_suffix h
  | @units run tail units h _ hlt =>
    refine List.IsSuffix.trans ⟨List.replicate (run.units - units) run.price.toInt, ?_⟩
      (pricesOf_suffix h)
    have hunits : run.units = run.units - units + units := by omega
    rw [pricesOf_cons, pricesOf_cons, ← List.append_assoc, ← List.replicate_add, ← hunits]

theorem positive (h : LeftOf runs rest) (hruns : ∀ run ∈ runs, 0 < run.units) :
    ∀ run ∈ rest, 0 < run.units := by
  cases h with
  | runs h => exact fun run hrun => hruns run (h.mem hrun)
  | units h hpos _ =>
    exact List.forall_mem_cons.2
      ⟨hpos, fun run hrun => hruns run (h.mem (List.mem_cons_of_mem _ hrun))⟩

theorem descending (h : LeftOf runs rest)
    (hruns : runs.Pairwise fun a b => b.price.toInt ≤ a.price.toInt) :
    rest.Pairwise fun a b => b.price.toInt ≤ a.price.toInt := by
  cases h with
  | runs h => exact hruns.sublist h.sublist
  | units h _ _ => exact List.pairwise_cons.2 (List.pairwise_cons.1 (hruns.sublist h.sublist))

end LeftOf

/-! ## Sums that do not fit -/

/-- Units without negative prices are paid exactly, or their price does not fit an amount. -/
theorem takeFrom_eq_checked {total : Amount} {runs : List UnitRun} (htotal : 0 ≤ total.toInt)
    (hruns : ∀ run ∈ runs, 0 ≤ run.price.toInt) (count : Nat) :
    (takeFrom total count runs).1 =
      Amount.checked (total.toInt + ((pricesOf runs).take count).sum) := by
  induction runs generalizing total count with
  | nil => cases count <;> simp [takeFrom, pricesOf, Amount.checked_toInt]
  | cons run runs ih =>
    cases count with
    | zero => simp [takeFrom, Amount.checked_toInt]
    | succ count =>
      obtain ⟨hrun, hrest⟩ := List.forall_mem_cons.1 hruns
      have hpaid : (run.price.times (min run.units (count + 1))).bind total.add = _ :=
        Amount.times_bind_add htotal hrun (min run.units (count + 1))
      have hcost : 0 ≤ run.price.toInt * (min run.units (count + 1) : Nat) :=
        Int.mul_nonneg hrun (Int.natCast_nonneg _)
      have hbehind : 0 ≤ ((pricesOf runs).take (count + 1 - run.units)).sum := by
        refine List.sum_nonneg fun p hp => ?_
        obtain ⟨run', hrun', hp⟩ := List.mem_flatMap.1 (List.mem_of_mem_take hp)
        rw [List.eq_of_mem_replicate hp]
        exact hrest run' hrun'
      rw [take_pricesOf_cons, List.sum_append, List.sum_replicate_int, Int.mul_comm,
        ← Int.add_assoc]
      simp only [takeFrom, hpaid]
      cases hchecked : Amount.checked
          (total.toInt + run.price.toInt * (min run.units (count + 1) : Nat)) with
      | error e => exact (Amount.checked_of_overflow (by omega) (by omega) hchecked).symm
      | ok subtotal =>
        have hsubtotal := Amount.checked_eq_ok_iff.1 hchecked
        dsimp only
        split
        · rw [ih (by omega) hrest, hsubtotal]
        · have hall : count + 1 - run.units = 0 := by omega
          rw [hall, List.take_zero, List.sum_nil, Int.add_zero, ← hsubtotal,
            Amount.checked_toInt]

theorem Proper.price_mem (h : r.Proper) {run : UnitRun} (hrun : run ∈ r.runs) :
    run.price.toInt ∈ r.prices :=
  List.mem_flatMap.2 ⟨run, hrun, List.mem_replicate.2 ⟨Nat.ne_of_gt (h run hrun), rfl⟩⟩

theorem take_eq_none_iff : (r.take count).1 = .ok none ↔ r.prices.length < count := by
  rw [length_prices]
  constructor
  · exact fun h => (take_none_spec (Prod.ext h rfl)).1
  · intro hfew
    rw [take, if_pos hfew]

/-- Of units without negative prices there are enough, and yet none are had, just where they cost
more than the greatest amount. -/
theorem take_eq_error_iff (h : r.Proper) (hprices : ∀ p ∈ r.prices, 0 ≤ p) {e : ArithmeticError} :
    (r.take count).1 = .error e ↔
      e = .overflow ∧ count ≤ r.prices.length ∧ 2 ^ 63 - 1 < (r.prices.take count).sum := by
  have hpaid : (takeFrom 0 count r.runs).1 = Amount.checked (r.prices.take count).sum := by
    rw [takeFrom_eq_checked (Int.le_refl 0) (fun run hrun => hprices _ (h.price_mem hrun)),
      Amount.toInt_zero, Int.zero_add, prices]
  have hsum : 0 ≤ (r.prices.take count).sum :=
    List.sum_nonneg fun p hp => hprices p (List.mem_of_mem_take hp)
  rw [length_prices, take]
  split
  · rename_i hfew
    constructor
    · intro h
      cases h
    · exact fun h => absurd h.2.1 (Nat.not_le_of_lt hfew)
  · rename_i henough
    have hmap : (Amount.checked (r.prices.take count).sum).map some = .error e ↔
        Amount.checked (r.prices.take count).sum = .error e := by
      cases Amount.checked (r.prices.take count).sum <;> simp [Except.map]
    dsimp only
    rw [hpaid, hmap, Amount.checked_eq_error_iff]
    have hle := Nat.le_of_not_lt henough
    constructor
    · rintro ⟨he, hrange⟩
      exact ⟨he, hle, by omega⟩
    · rintro ⟨he, -, hrange⟩
      exact ⟨he, by omega⟩

/-! ## Runs of lines after units were taken -/

/-- The runs after units were asked for, so many each time. -/
def takeAll (r : UnitRuns) (counts : List Nat) : UnitRuns :=
  counts.foldl (fun r count => (r.take count).2) r

/-- Runs that are what is left of the units of lines. -/
structure RestOf (lines : List BillLine) (r : UnitRuns) : Prop where
  prices : r.prices <:+ (ofLines lines).prices
  proper : r.Proper
  descending : r.runs.Pairwise fun a b => b.price.toInt ≤ a.price.toInt

variable {lines : List BillLine}

theorem restOf_ofLines (lines : List BillLine) : RestOf lines (ofLines lines) where
  prices := List.suffix_rfl
  proper := proper_ofLines lines
  descending := pairwise_runs_ofLines lines

theorem RestOf.take (h : RestOf lines r) (count : Nat) : RestOf lines (r.take count).2 where
  prices := (leftOf_take r count).prices.trans h.prices
  proper := (leftOf_take r count).positive h.proper
  descending := (leftOf_take r count).descending h.descending

theorem RestOf.takeAll (h : RestOf lines r) (counts : List Nat) :
    RestOf lines (r.takeAll counts) := by
  induction counts generalizing r with
  | nil => exact h
  | cons count counts ih => exact ih (h.take count)

theorem RestOf.pairwise_prices (h : RestOf lines r) : r.prices.Pairwise fun p q => q ≤ p :=
  (pairwise_prices_ofLines lines).sublist h.prices.sublist

/-- The front is the dearest unit. -/
theorem RestOf.peek?_spec (h : RestOf lines r) :
    (r.peek? = none ↔ r.prices = []) ∧
      ∀ front, r.peek? = some front → front.toInt ∈ r.prices ∧ ∀ p ∈ r.prices, p ≤ front.toInt := by
  have hprices := h.pairwise_prices
  rw [← map_toInt_amounts r] at hprices ⊢
  rw [h.proper.peek?_eq]
  cases hamounts : r.amounts with
  | nil => exact ⟨by simp, fun _ hfront => nomatch hfront⟩
  | cons front amounts =>
    rw [hamounts, List.map_cons] at hprices
    refine ⟨by simp, fun a ha => ?_⟩
    obtain rfl := Option.some.inj ha
    refine ⟨List.mem_cons_self, List.forall_mem_cons.2 ⟨Int.le_refl _, ?_⟩⟩
    exact (List.pairwise_cons.1 hprices).1

/-- Runs are used as the list of the prices of their units, of which the dearest are taken first. -/
structure ActsAsList (r : UnitRuns) : Prop where
  /-- No run is without units. -/
  proper : ∀ run ∈ r.runs, 0 < run.units
  /-- The prices go down. -/
  descending : r.prices.Pairwise fun p q => q ≤ p
  /-- There is no front just where no unit is left. -/
  peek_none : r.peek? = none ↔ r.prices = []
  /-- The front is the dearest unit. -/
  peek_some : ∀ front, r.peek? = some front →
    front.toInt ∈ r.prices ∧ ∀ p ∈ r.prices, p ≤ front.toInt
  /-- Nothing is had just where there are too few units. -/
  take_none : ∀ count, (r.take count).1 = .ok none ↔ r.prices.length < count
  /-- Where there are too few units they all stay. -/
  take_few : ∀ count, r.prices.length < count → (r.take count).2 = r
  /-- What is paid is the price of the dearest units, and the others stay. -/
  take_some : ∀ count total, (r.take count).1 = .ok (some total) →
    total.toInt = (r.prices.take count).sum ∧ (r.take count).2.prices = r.prices.drop count
  /-- If no price is negative, enough units are refused just where they cost more than the greatest
  amount. -/
  take_error : (∀ p ∈ r.prices, 0 ≤ p) → ∀ count e, (r.take count).1 = .error e ↔
    e = .overflow ∧ count ≤ r.prices.length ∧ 2 ^ 63 - 1 < (r.prices.take count).sum

/-- The runs of lines are used as the list of the prices of all their units. However often units
were taken, also where a price did not fit, what is left is the end of that list and is used in the
same way. -/
theorem actsAsList_takeAll (lines : List BillLine) (counts : List Nat) :
    (ofLines lines).prices.Perm (pricesOfLines lines) ∧
      ((ofLines lines).takeAll counts).prices <:+ (ofLines lines).prices ∧
      ((ofLines lines).takeAll counts).ActsAsList := by
  have hrest := (restOf_ofLines lines).takeAll counts
  obtain ⟨hnone, hfront⟩ := hrest.peek?_spec
  refine ⟨prices_ofLines_perm lines, hrest.prices, ?_⟩
  exact
    { proper := hrest.proper
      descending := hrest.pairwise_prices
      peek_none := hnone
      peek_some := hfront
      take_none := fun _ => take_eq_none_iff
      take_few := fun _ hfew => (take_none_spec (Prod.ext (take_eq_none_iff.2 hfew) rfl)).2
      take_some := fun _ _ hpaid => (take_some_spec (Prod.ext hpaid rfl)).2
      take_error := fun hprices _ _ => take_eq_error_iff hrest.proper hprices }

end UnitRuns

open UnitRuns

/-- Two units of which one fits an amount and both together do not, and one of twenty. -/
def Sample.bars : List BillLine := [⟨id 1, none, 2, amount (2 ^ 62)⟩, ⟨id 2, none, 1, amount 20⟩]

/-- The two cannot be had together, but one after the other; three are not left then. -/
theorem UnitRuns.actsAsList_takeAll_shop :
    ((ofLines Sample.bars).take 2).1 = .error .overflow ∧
    (((ofLines Sample.bars).takeAll [2, 1]).take 3).2 = (ofLines Sample.bars).takeAll [2, 1] ∧
    (((ofLines Sample.bars).takeAll [2, 1]).take 2).2.prices = [] := by
  have hruns : ofLines Sample.bars =
      ⟨[⟨Sample.amount (2 ^ 62), 2⟩, ⟨Sample.amount 20, 1⟩]⟩ := by
    cbv
  have hleft : (ofLines Sample.bars).takeAll [2, 1] =
      ⟨[⟨Sample.amount (2 ^ 62), 1⟩, ⟨Sample.amount 20, 1⟩]⟩ := by
    rw [hruns]
    decide +kernel
  have hstart : (ofLines Sample.bars).ActsAsList := (actsAsList_takeAll Sample.bars []).2.2
  have hrest := (actsAsList_takeAll Sample.bars [2, 1]).2.2
  rw [hruns] at hstart
  rw [hleft] at hrest ⊢
  rw [hruns]
  refine ⟨?_, hrest.take_few 3 (by decide +kernel), ?_⟩
  · exact (hstart.take_error (by decide +kernel) 2 .overflow).2 (by decide +kernel)
  · rw [(hrest.take_some 2 (Sample.amount (2 ^ 62 + 20)) (by decide +kernel)).2]
    decide +kernel

end Promotions

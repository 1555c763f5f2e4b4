import Promotions.Bill

/-!
# Runs of units

Units of one price form a run, so that groups can be formed of thousands of units without listing
them one by one. The dearest run comes first, and units are taken from the front.
-/

namespace Promotions

/-- Some units of one price. -/
structure UnitRun where
  /-- The price of a unit. -/
  price : Amount
  /-- The number of units. -/
  units : Nat
  deriving DecidableEq

/-- Units by price, the dearest first. -/
structure UnitRuns where
  /-- The runs. -/
  runs : List UnitRun
  deriving DecidableEq

namespace UnitRuns

/-- The units of lines. -/
def ofLines (lines : List BillLine) : UnitRuns :=
  let runs := (lines.filter fun line => line.quantity != 0).map fun line =>
    (⟨line.unitPrice, line.quantity.toNat⟩ : UnitRun)
  ⟨runs.mergeSort fun a b => decide (b.price ≤ a.price)⟩

/-- The number of units of runs. -/
def unitsOf : List UnitRun → Nat
  | [] => 0
  | run :: runs => run.units + unitsOf runs

/-- The number of units. -/
def units (r : UnitRuns) : Nat := unitsOf r.runs

/-- The price of the dearest unit. -/
def peek? (r : UnitRuns) : Option Amount := r.runs.head?.map (·.price)

/-- The price of `count` units from the front, added to `total`, and the runs that are left. Runs
that were used up before a sum did not fit are gone. -/
def takeFrom (total : Amount) : Nat → List UnitRun → Except ArithmeticError Amount × List UnitRun
  | 0, runs => (.ok total, runs)
  | _, [] => (.ok total, [])
  | count + 1, run :: rest =>
    match (run.price.times (min run.units (count + 1))).bind total.add with
    | .error e => (.error e, run :: rest)
    | .ok total =>
      if run.units ≤ count + 1 then takeFrom total (count + 1 - run.units) rest
      else (.ok total, { run with units := run.units - (count + 1) } :: rest)

/-- The price of the `count` dearest units and the runs without them; nothing is taken if there are
too few. -/
def take (r : UnitRuns) (count : Nat) : Except ArithmeticError (Option Amount) × UnitRuns :=
  if r.units < count then (.ok none, r)
  else
    let (total, runs) := takeFrom 0 count r.runs
    (total.map some, ⟨runs⟩)

theorem sum_units_takeFrom_lt {total paid : Amount} {count : Nat} {runs rest : List UnitRun}
    (h : takeFrom total count runs = (.ok paid, rest)) :
    unitsOf rest + min count (unitsOf runs) = unitsOf runs := by
  induction runs generalizing total count with
  | nil => cases count <;> simp [takeFrom] at h <;> simp [h.2, unitsOf]
  | cons run tail ih =>
    cases count with
    | zero => simp [takeFrom] at h; simp [← h.2]
    | succ count =>
      simp only [takeFrom] at h
      split at h
      · simp at h
      · split at h
        · have := ih h
          simp only [unitsOf]
          omega
        · simp only [Prod.mk.injEq] at h
          rw [← h.2]
          simp only [unitsOf]
          omega

/-- Taking units leaves the others. -/
theorem units_take {r rest : UnitRuns} {count : Nat} {paid : Amount}
    (h : r.take count = (.ok (some paid), rest)) : rest.units + count = r.units := by
  unfold take at h
  split at h
  · simp at h
  · rename_i hcount
    rcases ht : takeFrom 0 count r.runs with ⟨total, runs⟩
    rw [ht] at h
    cases total with
    | error e => simp [Except.map] at h
    | ok total =>
      simp only [Except.map, Prod.mk.injEq] at h
      have := sum_units_takeFrom_lt ht
      rw [← h.2]
      simp only [units] at hcount ⊢
      omega

theorem units_take_lt {r rest : UnitRuns} {count : Nat} {paid : Amount} (hcount : 0 < count)
    (h : r.take count = (.ok (some paid), rest)) : rest.units < r.units := by
  have := units_take h
  omega

end UnitRuns

end Promotions

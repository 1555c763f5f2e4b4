import Promotions.Eligibility.Grant
import Promotions.Eligibility.UnitRuns
import Promotions.Rule

/-!
# Groups of units

Groups are formed of the dearest units first. Where a group may hold several units of a product, the
units of all products stand in one row. Where it may not, each product has a row of its own, and a
group takes the front unit of the rows whose front units are dearest. Forming a group uses up units,
so it comes to an end.
-/

namespace Promotions

namespace UnitRuns

/-- The runs without their first unit. -/
def pop (r : UnitRuns) : UnitRuns :=
  match r.runs with
  | [] => r
  | run :: rest => ⟨if run.units ≤ 1 then rest else { run with units := run.units - 1 } :: rest⟩

/-- A number that becomes smaller with every unit and every run. -/
def weight (r : UnitRuns) : Nat := r.runs.foldr (fun run total => run.units + 1 + total) 0

theorem weight_pop_lt {r : UnitRuns} (h : r.peek? ≠ none) : r.pop.weight < r.weight := by
  obtain ⟨runs⟩ := r
  cases runs with
  | nil => simp [peek?] at h
  | cons run rest =>
    simp only [pop, weight]
    split
    · simp
    · simp; omega

theorem weight_pop_le (r : UnitRuns) : r.pop.weight ≤ r.weight := by
  by_cases h : r.peek? = none
  · obtain ⟨runs⟩ := r
    cases runs <;> simp [peek?] at h
    simp [pop]
  · exact Nat.le_of_lt (weight_pop_lt h)

end UnitRuns

/-- The units of a product. -/
structure ProductRow where
  /-- The product. -/
  product : ProductId
  /-- Its units, the dearest first. -/
  runs : UnitRuns
  deriving DecidableEq

/-- The first unit of a row. -/
structure Front where
  /-- Its price. -/
  price : Amount
  /-- Its product. -/
  product : ProductId
  deriving DecidableEq

namespace ProductRow

/-- The rows of lines, one for each product. -/
def ofLines (lines : List BillLine) : List ProductRow :=
  (SortedSet.ofList (lines.map (·.product))).toList.map fun product =>
    ⟨product, .ofLines (lines.filter fun line => line.product = product)⟩

/-- The front of a row. -/
def front? (row : ProductRow) : Option Front :=
  row.runs.peek?.map fun price => ⟨price, row.product⟩

/-- The row without its front, if that is one of those taken. -/
def removeFront (taken : List Front) (row : ProductRow) : ProductRow :=
  if row.product ∈ taken.map (·.product) then { row with runs := row.runs.pop } else row

/-- The rows without the fronts that are taken. -/
def removeFronts (taken : List Front) (rows : List ProductRow) : List ProductRow :=
  rows.map (removeFront taken)

/-- The total weight of rows. -/
def weight (rows : List ProductRow) : Nat := rows.foldr (fun row total => row.runs.weight + total) 0

theorem weight_removeFront_le (taken : List Front) (row : ProductRow) :
    (row.removeFront taken).runs.weight ≤ row.runs.weight := by
  unfold removeFront
  split
  · exact row.runs.weight_pop_le
  · exact Nat.le_refl _

theorem weight_removeFronts_le (taken : List Front) (rows : List ProductRow) :
    weight (removeFronts taken rows) ≤ weight rows := by
  induction rows with
  | nil => simp [weight, removeFronts]
  | cons row rest ih =>
    have := weight_removeFront_le taken row
    simp only [weight, removeFronts, List.map_cons, List.foldr_cons] at ih ⊢
    omega

theorem weight_removeFronts_lt {taken : List Front} {rows : List ProductRow} {front : Front}
    (htaken : front ∈ taken) (hrows : front ∈ rows.filterMap front?) :
    weight (removeFronts taken rows) < weight rows := by
  induction rows with
  | nil => simp at hrows
  | cons row rest ih =>
    have hrow := weight_removeFront_le taken row
    have hrest := weight_removeFronts_le taken rest
    simp only [weight, removeFronts, List.map_cons, List.foldr_cons] at ih hrest ⊢
    rcases List.mem_filterMap.1 hrows with ⟨r, hr, hfront⟩
    rcases List.mem_cons.1 hr with rfl | hr
    · have hproduct : front.product = r.product := by
        simp only [front?, Option.map_eq_some_iff] at hfront
        obtain ⟨_, _, rfl⟩ := hfront
        rfl
      have hpeek : r.runs.peek? ≠ none := by
        intro h
        simp [front?, h] at hfront
      have hlt : (r.removeFront taken).runs.weight < r.runs.weight := by
        have hmem : r.product ∈ taken.map (·.product) :=
          List.mem_map.2 ⟨front, htaken, hproduct⟩
        simp only [removeFront, hmem, if_true]
        exact UnitRuns.weight_pop_lt hpeek
      omega
    · have := ih (List.mem_filterMap.2 ⟨r, hr, hfront⟩)
      omega

end ProductRow

namespace MixMatch

/-- Groups that were formed. -/
structure Groups where
  /-- What is saved by them. -/
  saved : Amount := 0
  /-- How many there are, as a count that starts again at zero after the greatest one. -/
  count : Count := 0

/-- The groups with one more, which is worth `value`. -/
def Groups.add (g : Groups) (price value : Amount) : Except ArithmeticError Groups := do
  return { saved := ← g.saved.add (value.excess price), count := g.count + 1 }

/-- The groups of `size` units that a row yields. -/
def groupUnits (size : Nat) (price : Amount) (g : Groups) (runs : UnitRuns) :
    Except ArithmeticError Groups :=
  if hsize : 0 < size then
    match ht : runs.take size with
    | (.error e, _) => .error e
    | (.ok none, _) => .ok g
    | (.ok (some value), rest) =>
      have : rest.units < runs.units := UnitRuns.units_take_lt hsize ht
      match g.add price value with
      | .error e => .error e
      | .ok g => groupUnits size price g rest
  else .ok g
termination_by runs.units

/-- One front stands before another if it is dearer, or as dear and its product comes first. -/
def dearerFront (a b : Front) : Bool :=
  decide (b.price < a.price) ||
    (a.price == b.price && !Ordered.before b.product a.product)

/-- The `size` dearest fronts of rows, if there are so many. -/
def dearestFronts? (size : Nat) (rows : List ProductRow) : Option (List Front) :=
  let fronts := rows.filterMap ProductRow.front?
  if size ≤ fronts.length then some ((fronts.mergeSort dearerFront).take size) else none

theorem weight_dearestFronts_lt {size : Nat} {rows : List ProductRow} {fronts : List Front}
    (hsize : 0 < size) (h : dearestFronts? size rows = some fronts) :
    ProductRow.weight (ProductRow.removeFronts fronts rows) < ProductRow.weight rows := by
  simp only [dearestFronts?] at h
  split at h
  · rename_i hlen
    cases h
    have hne :
        0 < (((rows.filterMap ProductRow.front?).mergeSort dearerFront).take size).length := by
      simp only [List.length_take, List.length_mergeSort]
      omega
    obtain ⟨front, hfront⟩ := List.exists_mem_of_length_pos hne
    exact ProductRow.weight_removeFronts_lt hfront
      (List.mem_mergeSort.1 (List.mem_of_mem_take hfront))
  · simp at h

/-- The groups of `size` different products that rows yield. -/
def groupProducts (size : Nat) (price : Amount) (g : Groups) (rows : List ProductRow) :
    Except ArithmeticError Groups :=
  if hsize : 0 < size then
    match hf : dearestFronts? size rows with
    | none => .ok g
    | some fronts =>
      have := weight_dearestFronts_lt hsize hf
      match (Amount.sum (fronts.map (·.price))).bind (g.add price) with
      | .error e => .error e
      | .ok g => groupProducts size price g (ProductRow.removeFronts fronts rows)
  else .ok g
termination_by ProductRow.weight rows

/-- The groups that lines yield. -/
def groups (r : MixMatch) (lines : List BillLine) : Except ArithmeticError Groups :=
  if r.allowSameProduct then
    groupUnits r.groupSize.toNat r.specialPrice {} (.ofLines lines)
  else groupProducts r.groupSize.toNat r.specialPrice {} (ProductRow.ofLines lines)

/-- What a group rule grants. -/
def grant (r : MixMatch) (b : Basis) : Judged Grant := do
  let lines := b.lines.ofCategory b.catalog r.category
  let groups ← r.groups (lines.map (·.line))
  Judged.require (groups.count ≠ 0) .mixMatchQuantityNotMet
  return { discount := groups.saved, affected := EligibleLines.indicesOf lines }

end MixMatch

end Promotions

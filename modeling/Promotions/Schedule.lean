import Promotions.Calendar.Text
import Promotions.Json.Record
import Promotions.Sorted.Set

/-!
# Times of day and weekdays

A window of time contains its start and not its end. One that ends before it starts runs past
midnight. A set of weekdays counts from Monday, and an empty one allows every day.
-/

namespace Promotions

/-- A window of the day in local time. -/
structure TimeWindow where
  /-- The first time inside. -/
  start : Clock
  /-- The first time after it. -/
  finish : Clock
  deriving DecidableEq

/-- The time lies in the window. -/
def TimeWindow.contains (w : TimeWindow) (t : Clock) : Bool :=
  if w.start ≤ w.finish then decide (w.start ≤ t) && decide (t < w.finish)
  else decide (w.start ≤ t) || decide (t < w.finish)

instance : JsonCodec TimeWindow where
  toJson w := .obj [("start", toJson w.start), ("end", toJson w.finish)]
  readJson? reading j := do
    let ms ← Json.record? reading ["start", "end"] 2 j
    return ⟨← Json.required ms "start", ← Json.required ms "end"⟩

instance : Ordered UInt8 := Ordered.lift UInt8.toNat UInt8.toNat.inj

/-- Weekdays as offsets from Monday. -/
structure WeekdaySet where
  /-- The offsets. -/
  offsets : List UInt8
  deriving DecidableEq, Inhabited

namespace WeekdaySet

/-- The set of some offsets, in ascending order and without repetitions; the error is the first
offset that is not a weekday. -/
def ofOffsets (offsets : List UInt8) : Except UInt8 WeekdaySet :=
  match offsets.find? fun d => 6 < d with
  | some d => .error d
  | none => .ok ⟨(SortedSet.ofList offsets).toList⟩

/-- The set restricts nothing. -/
def isUnrestricted (s : WeekdaySet) : Bool := s.offsets.isEmpty

/-- The weekday, given as an offset from Monday, is allowed. -/
def allows (s : WeekdaySet) (weekday : Nat) : Bool :=
  s.isUnrestricted || s.offsets.any fun d => d.toNat == weekday

instance : JsonCodec WeekdaySet where
  toJson s := toJson s.offsets
  readJson? reading j := (readJson? reading j).map .mk

end WeekdaySet

end Promotions

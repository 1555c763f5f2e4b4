import Promotions.Id
import Promotions.Json.Record

/-!
# Usage

How often promotions have been used, as it stands just before a bill is judged.
-/

namespace Promotions

/-- How often a promotion has been used. -/
structure Usage where
  /-- In all. -/
  total : Count := 0
  /-- On the day of the bill. -/
  today : Count := 0
  /-- By the customer on the bill. -/
  byCustomer : Count := 0
  deriving DecidableEq

instance : JsonCodec Usage where
  toJson u :=
    .obj
      [("total", toJson u.total),
       ("today", toJson u.today),
       ("by_customer", toJson u.byCustomer)]
  readJson? reading j := do
    let ms ← Json.record? reading ["total", "today", "by_customer"] 1 j
    return {
      total := ← Json.required ms "total"
      today := ← Json.defaulted ms "today" 0
      byCustomer := ← Json.defaulted ms "by_customer" 0
    }

/-- How often each of some promotions has been used. -/
abbrev UsageFacts := SortedMap PromotionId Usage

end Promotions

import Promotions.Eligibility.Record
import Promotions.Resolution

/-!
# Resolutions as JSON

What is decided for a bill is written and never read.
-/

namespace Promotions

/-- A promotion that is applied as JSON. -/
protected def AppliedPromotion.toJson (a : AppliedPromotion) : Json :=
  .obj
    [("promotion_id", toJson a.promotionId),
     ("code", toJson a.code),
     ("stage", toJson a.stage),
     ("amount", toJson a.amount),
     ("benefit", toJson a.benefit),
     ("affected_lines", toJson a.affected)]

/-- A promotion that is suppressed as JSON. -/
protected def SuppressedPromotion.toJson (s : SuppressedPromotion) : Json :=
  .obj
    [("promotion_id", toJson s.promotionId),
     ("code", toJson s.code),
     ("reason", toJson s.reason)]

/-- The members of a resolution. -/
def Resolution.members (r : Resolution) : List (String × Json) :=
  [("currency", toJson r.currency),
   ("applied", .arr (r.applied.map AppliedPromotion.toJson)),
   ("suppressed", .arr (r.suppressed.map SuppressedPromotion.toJson)),
   ("total_discount", toJson r.totalDiscount),
   ("total_cashback", toJson r.totalCashback)]

/-- A resolution as JSON. -/
protected def Resolution.toJson (r : Resolution) : Json := .obj r.members

end Promotions

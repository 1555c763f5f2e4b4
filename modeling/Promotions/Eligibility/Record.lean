import Promotions.Document.Record
import Promotions.Eligibility

/-!
# Verdicts as JSON

What evaluation says is written and never read. A verdict is told by its `status`, and a fault by
its `kind`.
-/

namespace Promotions

/-- A fault as JSON. -/
protected def Fault.toJson : Fault → Json
  | .unsupportedVersion version =>
    .obj [("kind", .str "unsupported_version"), ("version", .str version)]
  | .currencyMismatch document bill =>
    .obj [("kind", .str "currency_mismatch"), ("document", .str document), ("bill", .str bill)]
  | .unknownCurrency code => .obj [("kind", .str "unknown_currency"), ("code", .str code)]
  | .arithmetic source => .obj [("kind", .str "arithmetic"), ("source", .str source.kind)]

/-- A verdict as JSON. -/
protected def Verdict.toJson : Verdict → Json
  | .eligible grant =>
    .obj
      [("status", .str "eligible"),
       ("discount", toJson grant.discount),
       ("benefit", toJson grant.benefit),
       ("affected_lines", toJson grant.affected)]
  | .ineligible reason => .obj [("status", .str "ineligible"), ("reason", toJson reason)]
  | .error fault => .obj [("status", .str "error"), ("fault", fault.toJson)]

/-- The members of a result. -/
def EligibilityResult.members (r : EligibilityResult) : List (String × Json) :=
  [("promotion_id", toJson r.promotionId),
   ("code", toJson r.code),
   ("promo_type", toJson r.archetype),
   ("currency", toJson r.currency),
   ("conflict", toJson r.conflict),
   ("verdict", r.verdict.toJson)]

/-- A result as JSON. -/
protected def EligibilityResult.toJson (r : EligibilityResult) : Json := .obj r.members

end Promotions

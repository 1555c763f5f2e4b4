import Promotions.Batch.Record
import Promotions.Resolution.Record
import Promotions.Service

/-!
# Answers of the service as JSON

Evaluations and redemptions are written and never read. The members of the outcome stand beside
those of the evaluation.
-/

namespace Promotions

/-- What came of recording a bill as JSON. -/
protected def Redemption.toJson (r : Redemption) : Json :=
  .obj [("recorded", toJson r.recorded), ("refused", toJson r.refused)]

/-- What came of judging a bill as JSON. -/
protected def BillEvaluation.toJson (e : BillEvaluation) : Json :=
  .obj
    [("store_id", toJson e.storeId),
     ("documents", toJson e.documents),
     ("results", .arr (e.outcome.results.map EligibilityResult.toJson)),
     ("resolution", e.outcome.resolution.toJson)]

/-- A bill that is settled as JSON. -/
protected def SettledBill.toJson (s : SettledBill) : Json :=
  .obj [("evaluation", s.evaluation.toJson), ("redemption", s.redemption.toJson)]

end Promotions

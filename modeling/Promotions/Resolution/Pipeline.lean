import Promotions.Resolution

/-!
# Stage after stage

The documents of a stage are evaluated and resolved before those of the next, so that a promotion
for the bill as a whole sees what earlier stages took off it.
-/

namespace Promotions

/-- What comes of applying documents to a bill. -/
structure Outcome where
  /-- What evaluation says of each document, in the order of the stages. -/
  results : List EligibilityResult
  /-- What is decided. -/
  resolution : Resolution
  deriving DecidableEq

namespace Outcome

/-- How far the stages have come. -/
structure Progress where
  /-- The results so far. -/
  results : List EligibilityResult := []
  /-- The resolver. -/
  resolver : Resolver

/-- What evaluation says of the documents of a stage. -/
def evaluateStage (documents : List Document) (ctx : Context) (stage : Stage) :
    List EligibilityResult :=
  (documents.filter fun d => d.conflict.stage = stage).map (·.evaluate ctx)

/-- The progress after a stage. -/
def step (documents : List Document) (ctx : Context) (p : Progress) (stage : Stage) :
    Except ArithmeticError Progress := do
  let priorDiscount ← ctx.priorDiscount.add p.resolver.billDiscount
  let results := evaluateStage documents { ctx with priorDiscount } stage
  return {
    results := p.results ++ results
    resolver := ← p.resolver.afterStage stage results
  }

end Outcome

/-- What comes of applying documents to the bill of a context. -/
def applyPromotions (documents : List Document) (ctx : Context) :
    Except ArithmeticError Outcome := do
  let progress ← Stage.inOrder.foldlM (Outcome.step documents ctx)
    { resolver := ← Resolver.start ctx.bill }
  return { results := progress.results, resolution := progress.resolver.resolution }

end Promotions

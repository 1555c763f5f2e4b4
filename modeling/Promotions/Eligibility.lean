import Promotions.Document
import Promotions.Eligibility.Formula
import Promotions.Eligibility.Gates

/-!
# Eligibility

Evaluation puts a bill before the gates of a document, one after the other, and works out what the
rule grants if all of them let it pass. It reads nothing but the document and the context, and its
verdict is always one of three: eligible, ineligible for a reason, or not to be judged.
-/

namespace Promotions

/-- What evaluation says of a promotion and a bill. -/
inductive Verdict where
  /-- The promotion grants something. -/
  | eligible (grant : Grant)
  /-- A gate rejects the bill. -/
  | ineligible (reason : Reason)
  /-- The promotion could not be judged. -/
  | error (fault : Fault)
  deriving DecidableEq

/-- The verdict that what was worked out comes to. -/
def Verdict.ofJudged : Judged Grant → Verdict
  | .ok grant => .eligible grant
  | .error (.ineligible reason) => .ineligible reason
  | .error (.fault fault) => .error fault

/-- What evaluation says, with what later steps need of the document. -/
structure EligibilityResult where
  /-- Identifies the promotion. -/
  promotionId : PromotionId
  /-- The code people know it by. -/
  code : String
  /-- Its archetype. -/
  archetype : Archetype
  /-- The code of the currency of the document. -/
  currency : String
  /-- How it gets along with others. -/
  conflict : ConflictPolicy
  /-- The verdict. -/
  verdict : Verdict
  deriving DecidableEq

namespace EligibilityResult

/-- What is granted. -/
def grant? (r : EligibilityResult) : Option Grant :=
  match r.verdict with
  | .eligible grant => some grant
  | _ => none

/-- The promotion grants something. -/
def isEligible (r : EligibilityResult) : Bool := r.grant?.isSome

/-- The discount, which is zero unless the promotion grants something. -/
def discount (r : EligibilityResult) : Amount :=
  match r.grant? with
  | some grant => grant.discount
  | none => 0

/-- The benefit. -/
def benefit? (r : EligibilityResult) : Option Benefit := r.grant?.map (·.benefit)

/-- The reason for which the bill is rejected. -/
def reason? (r : EligibilityResult) : Option Reason :=
  match r.verdict with
  | .ineligible reason => some reason
  | _ => none

/-- Why the promotion could not be judged. -/
def fault? (r : EligibilityResult) : Option Fault :=
  match r.verdict with
  | .error fault => some fault
  | _ => none

/-- The discount as money, which there is in a known currency only. -/
def money? (r : EligibilityResult) : Option Amount :=
  if isCurrency r.currency then some r.discount else none

end EligibilityResult

namespace Document

/-- The most that can be granted. For the bill as a whole it is what earlier stages left of it. -/
def base (d : Document) (ctx : Context) (lines : EligibleLines) : Amount :=
  if d.targeting.applyTo.isBillScoped then lines.subtotal.excess (max ctx.priorDiscount 0)
  else lines.subtotal

/-- What the document grants for a bill, or why not. -/
def judge (d : Document) (ctx : Context) : Judged Grant := do
  match d.checkForm ctx.bill with
  | .error fault => .error (.fault fault)
  | .ok () =>
    d.validityGate ctx
    d.scopeGate ctx
    let lines ← EligibleLines.select d.targeting ctx.bill ctx.catalog
    d.targetingGate lines
    d.customerGate ctx
    d.thresholdGate lines
    d.limitGate ctx
    d.rule.grant
      { bill := ctx.bill, catalog := ctx.catalog, lines, base := d.base ctx lines }

/-- The verdict on a document and a bill. -/
def evaluate (d : Document) (ctx : Context) : EligibilityResult where
  promotionId := d.id
  code := d.code
  archetype := d.rule.archetype
  currency := d.currency
  conflict := d.conflict
  verdict := .ofJudged (d.judge ctx)

end Document

end Promotions

import Promotions.Batch.Company
import Promotions.Fixture
import Promotions.Ledger
import Promotions.Resolution.Pipeline

/-!
# The service

The service compiles for the stores of a company and judges bills. For a bill it compiles what the
store would hold on that day, reads the ledger, and applies the promotions; a bill that is settled
is recorded in the ledger as well.
-/

namespace Promotions

/-- Why something cannot be had from where the service reads. -/
inductive SourceError where
  /-- The fixture does not have it. -/
  | fixture (error : FixtureError)
  /-- No bill has the key. -/
  | billNotFound (key : String)
  /-- No customer has the key. -/
  | customerNotFound (key : String)

namespace SourceError

/-- The error that one of the fixture comes to. -/
def ofFixture : FixtureError → SourceError
  | .billNotFound key => billNotFound key
  | error => fixture error

/-- The short name of the error. -/
def kind : SourceError → String
  | fixture _ => "fixture"
  | billNotFound _ => "bill_not_found"
  | customerNotFound _ => "customer_not_found"

/-- The wording of the error. -/
def message : SourceError → String
  | fixture _ => "failed to load fixtures"
  | billNotFound key => s!"bill not found: {key}"
  | customerNotFound key => s!"customer not found: {key}"

end SourceError

/-- Why the service has no answer. -/
inductive ServiceError where
  /-- Something cannot be read. -/
  | source (error : SourceError)
  /-- The currency of the company is not known. -/
  | compiler (error : CompileError)
  /-- The company has no such store. -/
  | storeNotFound (store : StoreId)
  /-- The store is not open. -/
  | storeInactive (store : StoreId)
  /-- The totals of a bill do not fit. -/
  | discount (error : ArithmeticError)

namespace ServiceError

/-- The short name of the error. -/
def kind : ServiceError → String
  | source _ => "source"
  | compiler _ => "compiler"
  | storeNotFound _ => "store_not_found"
  | storeInactive _ => "store_inactive"
  | discount _ => "discount"

/-- The wording of the error. -/
def message : ServiceError → String
  | source _ => "failed to read promotion source"
  | compiler _ => "failed to build compiler"
  | storeNotFound store => s!"store not found: {store.toText}"
  | storeInactive store => s!"store is inactive: {store.toText}"
  | discount _ => "failed to resolve promotions"

end ServiceError

/-- A bill that is to be judged. -/
structure EvaluationRequest where
  /-- The key of the bill. -/
  bill : String
  /-- The key of the customer. -/
  customer : Option String := none
  /-- The time that is stamped on the documents. -/
  compiledAt : Timestamp := .epoch

/-- What comes of judging a bill. -/
structure BillEvaluation where
  /-- The store. -/
  storeId : StoreId
  /-- The number of documents the store would hold. -/
  documents : Nat
  /-- The results and what is decided. -/
  outcome : Outcome

/-- A bill that is settled. -/
structure SettledBill where
  /-- What came of judging it. -/
  evaluation : BillEvaluation
  /-- What came of recording it. -/
  redemption : Redemption

namespace Service

/-- The reference data. -/
def reference (f : Fixture) : Except ServiceError Reference :=
  match f.loadedReference with
  | .ok reference => .ok reference
  | .error e => .error (.source (.ofFixture e))

/-- The compiler of the company. -/
def compilerOf (r : Reference) : Except ServiceError Compiler :=
  match Compiler.ofCode r.company.currency with
  | .ok compiler => .ok compiler
  | .error e => .error (.compiler e)

/-- The store of the company with an identifier, which has to be open. -/
def openStore (r : Reference) (id : StoreId) : Except ServiceError Store :=
  match (r.store? id).filter fun s => s.companyId = r.company.id with
  | none => .error (.storeNotFound id)
  | some store => if store.isActive then .ok store else .error (.storeInactive id)

/-- What is compiled for a store. -/
def compileStore (f : Fixture) (id : StoreId) (options : BatchOptions) :
    Except ServiceError StoreCompilation := do
  let reference ← reference f
  let compiler ← compilerOf reference
  let store ← openStore reference id
  return compiler.compileForStore store f.promotions options

/-- What is compiled for the open stores of the company, one after the other. -/
def compileCompany (f : Fixture) (options : BatchOptions) :
    Except ServiceError CompanyCompilation := do
  let reference ← reference f
  let compiler ← compilerOf reference
  return compiler.compileForCompany reference f.promotions options

/-- The bill of a request. -/
def billOf (f : Fixture) (key : String) : Except ServiceError Bill :=
  match f.bill key with
  | .ok bill => .ok bill
  | .error e => .error (.source (.ofFixture e))

/-- What is known of the customer of a request. -/
def customerOf (f : Fixture) : Option String → Except ServiceError (Option Customer)
  | none => .ok none
  | some key =>
    match f.customer? key with
    | some customer => .ok (some customer)
    | none => .error (.source (.customerNotFound key))

/-- What comes of judging a bill, with the bill and the documents it was judged by. -/
structure Judgement where
  /-- The bill. -/
  bill : Bill
  /-- The documents. -/
  documents : List Document
  /-- What comes of it. -/
  outcome : Outcome

/-- What comes of judging a bill. -/
def judge (f : Fixture) (ledger : Ledger) (request : EvaluationRequest) :
    Except ServiceError Judgement := do
  let bill ← billOf f request.bill
  let customer ← customerOf f request.customer
  let options : BatchOptions :=
    { today := bill.localTime.date, compiledAt := request.compiledAt }
  let reference ← reference f
  let documents := (← compileStore f bill.storeId options).documents
  let ctx : Context := {
    bill
    catalog := reference.catalog
    holidays := reference.holidays
    customer
    usage := some (ledger.snapshot documents bill)
  }
  match applyPromotions documents ctx with
  | .ok outcome => return { bill, documents, outcome }
  | .error e => throw (.discount e)

/-- The evaluation that a judgement comes to. -/
def Judgement.evaluation (j : Judgement) : BillEvaluation where
  storeId := j.bill.storeId
  documents := j.documents.length
  outcome := j.outcome

/-- What comes of judging a bill. -/
def evaluate (f : Fixture) (ledger : Ledger) (request : EvaluationRequest) :
    Except ServiceError BillEvaluation :=
  (judge f ledger request).map (·.evaluation)

/-- What comes of judging a bill and recording the promotions applied to it, and the ledger
afterwards. -/
def settle (f : Fixture) (ledger : Ledger) (request : EvaluationRequest) :
    Except ServiceError (SettledBill × Ledger) := do
  let j ← judge f ledger request
  let (ledger, redemption) :=
    ledger.record j.documents j.bill (j.outcome.resolution.applied.map (·.promotionId))
  return ({ evaluation := j.evaluation, redemption }, ledger)

end Service

end Promotions

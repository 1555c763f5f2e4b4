import Promotions.Compile
import Promotions.Json.Record
import Promotions.Reference

/-!
# Batches

A batch compiles the promotions that run at a store and are selected by date. A promotion that does
not compile is reported among the failures and stops nothing. The documents come in the order in
which promotions are worked out: by stage, execution priority and code.
-/

namespace Promotions

/-- Which promotions a batch selects by date. -/
inductive SelectionWindow where
  /-- Those that are valid today. -/
  | currentOnly
  /-- Those that are valid today, start soon or ended lately. -/
  | includeFuture (futureDays pastDays : Count)
  /-- All. -/
  | allActive
  deriving DecidableEq

namespace SelectionWindow

/-- A promotion that is valid from `startDate` to `endDate` is selected. -/
def selects (w : SelectionWindow) (startDate endDate today : Date) : Bool :=
  match w with
  | currentOnly => decide (startDate ≤ today) && decide (today ≤ endDate)
  | includeFuture futureDays pastDays =>
    decide (startDate ≤ today.shift futureDays.toNat) &&
      decide (today.shift (-(pastDays.toNat : Int)) ≤ endDate)
  | allActive => true

instance : JsonCodec SelectionWindow where
  toJson
    | currentOnly => .obj [("strategy", .str "current_only")]
    | includeFuture futureDays pastDays =>
      .obj
        [("strategy", .str "include_future"),
         ("future_days", toJson futureDays),
         ("past_days", toJson pastDays)]
    | allActive => .obj [("strategy", .str "all_active")]
  readJson? _ j :=
    match Json.variant? "strategy" j with
    | some ("current_only", rest) => if Json.isUnit rest then some currentOnly else none
    | some ("include_future", rest) => do
      let ms ← Json.record? .held ["future_days", "past_days"] 2 rest
      return includeFuture (← Json.required ms "future_days") (← Json.required ms "past_days")
    | some ("all_active", rest) => if Json.isUnit rest then some allActive else none
    | _ => none

end SelectionWindow

/-- What all stores of a batch have in common. -/
structure BatchOptions where
  /-- The date by which promotions are selected. -/
  today : Date
  /-- The time that is stamped on the documents. -/
  compiledAt : Timestamp := .epoch
  /-- Which promotions are selected. -/
  window : SelectionWindow := .currentOnly
  deriving DecidableEq

namespace Promotion

/-- The promotion is valid on a date. -/
def isCalendarActive (p : Promotion) (date : Date) : Bool :=
  decide (p.startDate ≤ date) && decide (date ≤ p.endDate)

/-- The promotion runs for a brand. -/
def coversBrand (p : Promotion) (brand : BrandId) : Bool :=
  !decide (brand ∈ p.excludeBrands) &&
    match p.brandScope with
    | .company => true
    | .brands => decide (brand ∈ p.brands)
    | .single => decide (p.brandId = some brand)

/-- The promotion is switched on and runs at a store. -/
def appliesToStore (p : Promotion) (store : Store) : Bool :=
  p.isActive && decide (p.companyId = store.companyId) &&
    (p.allStores || decide (store.id ∈ p.stores)) && p.coversBrand store.brandId

/-- The promotion is compiled in a batch for a store. -/
def isSelected (p : Promotion) (store : Store) (options : BatchOptions) : Bool :=
  p.appliesToStore store && options.window.selects p.startDate p.endDate options.today

end Promotion

/-- A promotion that does not compile. -/
structure CompileFailure where
  /-- Identifies the promotion. -/
  promotionId : PromotionId
  /-- The code people know it by. -/
  code : String
  /-- Why it does not compile. -/
  error : CompileError

/-- The failure of a promotion. -/
def CompileFailure.of (p : Promotion) (error : CompileError) : CompileFailure :=
  { promotionId := p.id, code := p.code, error }

/-- What is compiled for a store. -/
structure StoreCompilation where
  /-- The store. -/
  storeId : StoreId
  /-- The brand of the store. -/
  brandId : BrandId
  /-- The time of the batch. -/
  compiledAt : Timestamp
  /-- The documents. -/
  documents : List Document
  /-- The promotions that do not compile. -/
  failures : List CompileFailure

namespace Document

/-- `a` is worked out no later than `b`. -/
def notAfter (a b : Document) : Bool :=
  let s := a.conflict.stage.rank
  let t := b.conflict.stage.rank
  let p := a.conflict.executionPriority
  let q := b.conflict.executionPriority
  decide (s < t) ||
    (s == t && (decide (p < q) || (p == q && !Ordered.before b.code a.code)))

/-- The documents in the order in which promotions are worked out. -/
def inOrder (documents : List Document) : List Document := documents.mergeSort notAfter

end Document

namespace Compiler

/-- What one promotion of a batch comes to. -/
abbrev Compiled := Promotion × Except CompileError Document

/-- The documents among what promotions come to. -/
def documentsOf (compiled : List Compiled) : List Document :=
  compiled.filterMap fun
    | (_, .ok d) => some d
    | (_, .error _) => none

/-- The failures among what promotions come to. -/
def failuresOf (compiled : List Compiled) : List CompileFailure :=
  compiled.filterMap fun
    | (_, .ok _) => none
    | (p, .error e) => some (.of p e)

/-- The document of a promotion for a store. -/
def compileAt (c : Compiler) (store : Store) (compiledAt : Timestamp) (p : Promotion) : Compiled :=
  (p, (c.compile p compiledAt).map fun d => { d with storeId := some store.id })

/-- What is compiled for a store. -/
def compileForStore (c : Compiler) (store : Store) (promotions : List Promotion)
    (options : BatchOptions) : StoreCompilation :=
  let compiled := (promotions.filter (·.isSelected store options)).map
    (c.compileAt store options.compiledAt)
  { storeId := store.id
    brandId := store.brandId
    compiledAt := options.compiledAt
    documents := Document.inOrder (documentsOf compiled)
    failures := failuresOf compiled }

end Compiler

end Promotions

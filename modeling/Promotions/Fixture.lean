import Promotions.Bill
import Promotions.Compile
import Promotions.Customer
import Promotions.Json.Record
import Promotions.Promotion.Record
import Promotions.Reference

/-!
# Fixtures

A fixture holds what the program works on: reference data, promotions and bills under short keys. It
is loaded from files, of which each set has three. The entries of a file are taken up in ascending
order of their keys; an entry that does not belong to the company of the reference data ends the
loading, and the entries before it stay.
-/

namespace Promotions

/-- Why something cannot be had from a fixture. -/
inductive FixtureError where
  /-- A file cannot be read. -/
  | unreadable
  /-- A file does not hold what it should. -/
  | malformed
  /-- No reference data is loaded. -/
  | noReference
  /-- No promotion has the key. -/
  | promotionNotFound (key : String)
  /-- No bill has the key. -/
  | billNotFound (key : String)
  /-- A promotion belongs to another company. -/
  | companyMismatch (code : String)
  /-- A bill is in another currency. -/
  | currencyMismatch (expected found : String)
  /-- The currency of the company is not known. -/
  | compiler (error : CompileError)

namespace FixtureError

/-- The short name of the error. -/
def kind : FixtureError → String
  | unreadable => "io"
  | malformed => "yaml"
  | noReference => "no_reference"
  | promotionNotFound _ => "promotion_not_found"
  | billNotFound _ => "bill_not_found"
  | companyMismatch _ => "company_mismatch"
  | currencyMismatch _ _ => "currency_mismatch"
  | compiler _ => "compiler"

/-- The wording of the error; for a file there is none. -/
def message? : FixtureError → Option String
  | unreadable => none
  | malformed => none
  | noReference => some "No reference data loaded yet"
  | promotionNotFound key => some s!"Promotion not found: {key}"
  | billNotFound key => some s!"Bill not found: {key}"
  | companyMismatch code => some s!"Promotion {code} belongs to another company"
  | currencyMismatch expected found =>
    some s!"Currency mismatch: expected {expected}, found {found}"
  | compiler error => some s!"Failed to build compiler: {error.message}"

end FixtureError

/-- What was read of a file. -/
abbrev FileContent := Except FixtureError Json

/-- The files of a set. -/
structure FixtureFiles where
  /-- The reference data. -/
  reference : FileContent
  /-- The promotions. -/
  promotions : FileContent
  /-- The bills. -/
  bills : FileContent

/-- What the program works on. -/
structure Fixture where
  /-- The reference data. -/
  reference : Option Reference := none
  /-- The promotions, each once, in the order in which they were loaded. -/
  promotions : List Promotion := []
  /-- The identifiers of the promotions by their keys. -/
  promotionKeys : SortedMap String PromotionId := .empty
  /-- The bills by their keys. -/
  bills : SortedMap String Bill := .empty
  /-- What is known of customers by their keys. -/
  customers : SortedMap String Customer := .empty

namespace Fixture

/-! ## Loading -/

/-- What loading came to, and the fixture afterwards. -/
abbrev Loaded := Except FixtureError Unit × Fixture

/-- The value that a file holds. -/
def decode {α : Type} (read : Json → Option α) (file : FileContent) : Except FixtureError α := do
  match read (← file) with
  | some a => return a
  | none => throw .malformed

/-- Reference data loaded from a file. -/
def loadReference (f : Fixture) (file : FileContent) : Loaded :=
  match decode (readJson? .file) file with
  | .error e => (.error e, f)
  | .ok reference => (.ok (), { f with reference := some reference })

/-- The fixture with a promotion under a key; it takes the place of one with its identifier. -/
def addPromotion (f : Fixture) (key : String) (p : Promotion) : Fixture :=
  { f with
    promotionKeys := f.promotionKeys.insert key p.id
    promotions := (f.promotions.filter fun q => q.id ≠ p.id) ++ [p] }

/-- The promotion belongs to the company of the reference data, if that is loaded. -/
def acceptsPromotion (f : Fixture) (p : Promotion) : Bool :=
  f.reference.all fun r => p.companyId = r.company.id

/-- Promotions taken up one after the other. -/
def addPromotions (f : Fixture) : List (String × Promotion) → Loaded
  | [] => (.ok (), f)
  | (key, p) :: rest =>
    if f.acceptsPromotion p then addPromotions (f.addPromotion key p) rest
    else (.error (.companyMismatch p.code), f)

/-- The promotions of a file by their keys. -/
def promotionsOf? (j : Json) : Option (SortedMap String Promotion) := do
  Json.required (← Json.record? .file ["promotions"] 1 j) "promotions"

/-- Promotions loaded from a file. -/
def loadPromotions (f : Fixture) (file : FileContent) : Loaded :=
  match decode promotionsOf? file with
  | .error e => (.error e, f)
  | .ok promotions => f.addPromotions promotions.entries

/-- Bills taken up one after the other. They have to be in the currency of the company of the
reference data, if that is loaded. -/
def addBills (f : Fixture) : List (String × Bill) → Loaded
  | [] => (.ok (), f)
  | (key, bill) :: rest =>
    let currency := (f.reference.map (·.company.currency)).getD bill.currency
    if Text.sameIgnoringCase bill.currency currency then
      addBills { f with bills := f.bills.insert key bill } rest
    else (.error (.currencyMismatch currency bill.currency), f)

/-- The bills and customers of a file by their keys. -/
def billsOf? (j : Json) : Option (SortedMap String Bill × SortedMap String Customer) := do
  let ms ← Json.record? .file ["bills", "customers"] 1 j
  return (← Json.required ms "bills", ← Json.defaulted ms "customers" .empty)

/-- The fixture with customers, who take the place of those under their keys. -/
def addCustomers (f : Fixture) (customers : SortedMap String Customer) : Fixture :=
  { f with customers := customers.entries.foldl (fun m e => m.insert e.1 e.2) f.customers }

/-- Bills loaded from a file, and then what it knows of customers. -/
def loadBills (f : Fixture) (file : FileContent) : Loaded :=
  match decode billsOf? file with
  | .error e => (.error e, f)
  | .ok (bills, customers) =>
    match f.addBills bills.entries with
    | (.error e, f) => (.error e, f)
    | (.ok (), f) => (.ok (), f.addCustomers customers)

/-- A step of loading that has to succeed. -/
def required : Loaded → Except FixtureError Fixture
  | (.ok (), f) => .ok f
  | (.error e, _) => .error e

/-- The fixture of a set. -/
def ofSet (files : FixtureFiles) : Except FixtureError Fixture := do
  let f ← required (loadReference {} files.reference)
  let f ← required (f.loadPromotions files.promotions)
  required (f.loadBills files.bills)

/-! ## What it holds -/

/-- The reference data. -/
def loadedReference (f : Fixture) : Except FixtureError Reference :=
  match f.reference with
  | some reference => .ok reference
  | none => .error .noReference

/-- The compiler for the currency of the company. -/
def compilerOf (f : Fixture) : Except FixtureError Compiler := do
  let reference ← f.loadedReference
  match Compiler.ofCode reference.company.currency with
  | .ok compiler => return compiler
  | .error e => throw (.compiler e)

/-- The identifier of the promotion under a key. -/
def promotionId (f : Fixture) (key : String) : Except FixtureError PromotionId :=
  match f.promotionKeys.find? key with
  | some id => .ok id
  | none => .error (.promotionNotFound key)

/-- The promotion under a key. -/
def promotion (f : Fixture) (key : String) : Except FixtureError Promotion := do
  let id ← f.promotionId key
  match f.promotions.find? fun p => p.id = id with
  | some p => return p
  | none => throw (.promotionNotFound key)

/-- The bill under a key. -/
def bill (f : Fixture) (key : String) : Except FixtureError Bill :=
  match f.bills.find? key with
  | some bill => .ok bill
  | none => .error (.billNotFound key)

/-- What is known of the customer under a key. -/
def customer? (f : Fixture) (key : String) : Option Customer := f.customers.find? key

end Fixture

end Promotions

import Promotions.Calendar.Moment
import Promotions.Currency
import Promotions.Facet
import Promotions.Rule

/-!
# Documents

A document is a promotion as terminals receive it: its rule and its facets, with everything needed
to judge a bill without asking anyone. Its version names the form it has, and its fingerprint stands
for its content.
-/

namespace Promotions

/-- A compiled promotion. -/
structure Document where
  /-- Identifies the promotion. -/
  id : PromotionId
  /-- The code people know it by. -/
  code : String
  /-- The name it is shown under. -/
  name : String
  /-- What it is about. -/
  description : String
  /-- Its terms and conditions. -/
  terms : String
  /-- The company it belongs to. -/
  companyId : CompanyId
  /-- The brand, where it is for one. -/
  brandId : Option BrandId
  /-- The code of the currency of every amount. -/
  currency : String
  /-- The version of its form, a major and a minor number with a point between them. -/
  version : String
  /-- When it was compiled. -/
  compiledAt : Timestamp
  /-- The hash of its content. -/
  fingerprint : String
  /-- The store it was compiled for. -/
  storeId : Option StoreId
  /-- What it grants. -/
  rule : Rule
  /-- When it is valid. -/
  validity : Validity
  /-- Where it is valid. -/
  scope : Scope
  /-- Which lines it is for. -/
  targeting : Targeting
  /-- Which customers it is for. -/
  audience : Audience
  /-- What the lines have to reach. -/
  requirements : Requirements
  /-- How often it may be used. -/
  limits : Limits
  /-- How it gets along with others. -/
  conflict : ConflictPolicy
  /-- How it is earned across brands. -/
  crossBrand : Option CrossBrand
  deriving DecidableEq

namespace Document

/-- The version of the documents that are compiled. -/
def currentVersion : String := "1.0"

/-- The major version that can be evaluated. -/
def supportedMajorVersion : Nat := 1

/-- The number that a text of digits stands for, with an optional plus sign, if it fits thirty-two
bits. -/
def majorNumber? (s : List Char) : Option Nat :=
  let digits := match s with
    | '+' :: rest => rest
    | s => s
  (Digits.read? digits).bind fun n => if n < UInt32.size then some n else none

/-- The major part of the version, which stands before its first point. -/
def majorVersion? (d : Document) : Option Nat :=
  majorNumber? (d.version.toList.takeWhile (· ≠ '.'))

/-- The document can be evaluated. -/
def isSupported (d : Document) : Bool := d.majorVersion? == some supportedMajorVersion

/-- The currency is known, its code being taken as it is. -/
def hasCurrency (d : Document) : Bool := isCurrency d.currency

end Document

end Promotions

import Promotions.Batch

/-!
# Batches for a company

The compilations of the stores of a company are gathered one by one, in any order, and counted as
they come. A store that comes again takes the place of what was recorded for it.
-/

namespace Promotions

/-- The counts of a brand. -/
structure BrandSummary where
  /-- The number of stores. -/
  stores : Nat := 0
  /-- The number of documents at these stores. -/
  promotions : Nat := 0
  deriving DecidableEq

/-- The counts of a company. -/
structure CompanySummary where
  /-- The number of stores. -/
  totalStores : Nat := 0
  /-- The number of documents at all stores. -/
  totalPromotions : Nat := 0
  /-- The number of stores that have a document. -/
  storesWithPromotions : Nat := 0
  /-- The number of failures at all stores. -/
  failures : Nat := 0
  /-- The counts of each brand that has a store. -/
  byBrand : SortedMap BrandId BrandSummary := .empty
  deriving DecidableEq

namespace CompanySummary

/-- One, if the store has a document. -/
def filled (s : StoreCompilation) : Nat := if s.documents.isEmpty then 0 else 1

/-- The counts of brands with a store more. -/
def addToBrands (brands : SortedMap BrandId BrandSummary) (s : StoreCompilation) :
    SortedMap BrandId BrandSummary :=
  let brand := (brands.find? s.brandId).getD {}
  brands.insert s.brandId
    { stores := brand.stores + 1, promotions := brand.promotions + s.documents.length }

/-- The counts of brands with a store less; a brand without stores is left out. -/
def removeFromBrands (brands : SortedMap BrandId BrandSummary) (s : StoreCompilation) :
    SortedMap BrandId BrandSummary :=
  match brands.find? s.brandId with
  | none => brands
  | some brand =>
    if brand.stores ≤ 1 then brands.erase s.brandId
    else
      brands.insert s.brandId
        { stores := brand.stores - 1, promotions := brand.promotions - s.documents.length }

/-- The counts with a store more. -/
def add (c : CompanySummary) (s : StoreCompilation) : CompanySummary where
  totalStores := c.totalStores + 1
  totalPromotions := c.totalPromotions + s.documents.length
  storesWithPromotions := c.storesWithPromotions + filled s
  failures := c.failures + s.failures.length
  byBrand := addToBrands c.byBrand s

/-- The counts with a store less. -/
def remove (c : CompanySummary) (s : StoreCompilation) : CompanySummary where
  totalStores := c.totalStores - 1
  totalPromotions := c.totalPromotions - s.documents.length
  storesWithPromotions := c.storesWithPromotions - filled s
  failures := c.failures - s.failures.length
  byBrand := removeFromBrands c.byBrand s

end CompanySummary

/-- What is compiled for the stores of a company. -/
structure CompanyCompilation where
  /-- The company. -/
  companyId : CompanyId
  /-- The time of the batch. -/
  compiledAt : Timestamp
  /-- What is compiled for each store. -/
  stores : SortedMap StoreId StoreCompilation := .empty
  /-- The counts. -/
  summary : CompanySummary := {}

/-- The compilation of a company with that of a store recorded. -/
def CompanyCompilation.record (c : CompanyCompilation) (s : StoreCompilation) :
    CompanyCompilation :=
  let added := c.summary.add s
  { c with
    stores := c.stores.insert s.storeId s
    summary :=
      match c.stores.find? s.storeId with
      | some previous => added.remove previous
      | none => added }

/-- What is compiled for the open stores of a company. -/
def Compiler.compileForCompany (c : Compiler) (reference : Reference)
    (promotions : List Promotion) (options : BatchOptions) : CompanyCompilation :=
  let start : CompanyCompilation :=
    { companyId := reference.company.id, compiledAt := options.compiledAt }
  reference.activeStores.foldl
    (fun company store => company.record (c.compileForStore store promotions options)) start

end Promotions

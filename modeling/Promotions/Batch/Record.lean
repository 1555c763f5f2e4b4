import Promotions.Batch.Company
import Promotions.Document.Record

/-!
# Batches as JSON

What a batch compiles is written and never read.
-/

namespace Promotions

/-- A failure as JSON. -/
protected def CompileFailure.toJson (f : CompileFailure) : Json :=
  .obj
    [("promotion_id", toJson f.promotionId),
     ("code", toJson f.code),
     ("error", .obj [("kind", .str f.error.kind), ("message", .str f.error.message)])]

/-- The compilation of a store as JSON. -/
protected def StoreCompilation.toJson (s : StoreCompilation) : Json :=
  .obj
    [("store_id", toJson s.storeId),
     ("brand_id", toJson s.brandId),
     ("compiled_at", toJson s.compiledAt),
     ("compiler_version", .str Document.currentVersion),
     ("documents", toJson s.documents),
     ("failures", .arr (s.failures.map CompileFailure.toJson))]

/-- The counts of a brand as JSON. -/
protected def BrandSummary.toJson (b : BrandSummary) : Json :=
  .obj [("stores", toJson b.stores), ("promotions", toJson b.promotions)]

/-- The counts of a company as JSON. -/
protected def CompanySummary.toJson (c : CompanySummary) : Json :=
  .obj
    [("total_stores", toJson c.totalStores),
     ("total_promotions", toJson c.totalPromotions),
     ("stores_with_promotions", toJson c.storesWithPromotions),
     ("failures", toJson c.failures),
     ("by_brand", .obj (c.byBrand.entries.map fun (id, brand) => (id.toText, brand.toJson)))]

/-- The compilation of a company as JSON. -/
protected def CompanyCompilation.toJson (c : CompanyCompilation) : Json :=
  .obj
    [("company_id", toJson c.companyId),
     ("compiled_at", toJson c.compiledAt),
     ("compiler_version", .str Document.currentVersion),
     ("stores", .obj (c.stores.entries.map fun (id, store) => (id.toText, store.toJson))),
     ("summary", c.summary.toJson)]

end Promotions

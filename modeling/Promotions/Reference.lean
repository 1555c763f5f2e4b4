import Promotions.Calendar.Text
import Promotions.Catalog
import Promotions.Json.Record

/-!
# Reference data

What a company is made of: its stores, its catalog and its holidays. Compilation reads it and never
changes it.
-/

namespace Promotions

/-- A company. -/
structure Company where
  /-- Identifies the company. -/
  id : CompanyId
  /-- The name it is shown under. -/
  name : String
  /-- The code of the currency of all its stores. -/
  currency : String
  deriving DecidableEq

instance : JsonCodec Company where
  toJson c :=
    .obj [("id", toJson c.id), ("name", toJson c.name), ("currency", toJson c.currency)]
  readJson? reading j := do
    let ms ← Json.record? reading ["id", "name", "currency"] 3 j
    return {
      id := ← Json.required ms "id"
      name := ← Json.required ms "name"
      currency := ← Json.required ms "currency"
    }

/-- A store of a brand. -/
structure Store where
  /-- Identifies the store. -/
  id : StoreId
  /-- The company it belongs to. -/
  companyId : CompanyId
  /-- The brand it trades as. -/
  brandId : BrandId
  /-- The code people know it by. -/
  code : String
  /-- The name it is shown under. -/
  name : String := ""
  /-- It is open. -/
  isActive : Bool := true
  deriving DecidableEq

instance : JsonCodec Store where
  toJson s :=
    .obj
      [("id", toJson s.id),
       ("company_id", toJson s.companyId),
       ("brand_id", toJson s.brandId),
       ("code", toJson s.code),
       ("name", toJson s.name),
       ("is_active", toJson s.isActive)]
  readJson? reading j := do
    let names := ["id", "company_id", "brand_id", "code", "name", "is_active"]
    let ms ← Json.record? reading names 4 j
    return {
      id := ← Json.required ms "id"
      companyId := ← Json.required ms "company_id"
      brandId := ← Json.required ms "brand_id"
      code := ← Json.required ms "code"
      name := ← Json.defaulted ms "name" ""
      isActive := ← Json.defaulted ms "is_active" true
    }

/-- The days that are holidays. -/
abbrev Holidays := SortedSet Date

/-- What a company is made of. -/
structure Reference where
  /-- The company. -/
  company : Company
  /-- The stores, open or not. -/
  stores : List Store := []
  /-- The catalog. -/
  catalog : Catalog := .empty
  /-- The holidays. -/
  holidays : Holidays := .empty
  deriving DecidableEq

namespace Reference

/-- The store of an identifier; of several the first. -/
def store? (r : Reference) (id : StoreId) : Option Store := r.stores.find? fun s => s.id = id

/-- The stores of the company that are open. -/
def activeStores (r : Reference) : List Store :=
  r.stores.filter fun s => s.isActive && decide (s.companyId = r.company.id)

instance : JsonCodec Reference where
  toJson r :=
    .obj
      [("company", toJson r.company),
       ("stores", toJson r.stores),
       ("catalog", toJson r.catalog),
       ("holidays", toJson r.holidays)]
  readJson? reading j := do
    let ms ← Json.record? reading ["company", "stores", "catalog", "holidays"] 1 j
    return {
      company := ← Json.required ms "company"
      stores := ← Json.defaulted ms "stores" []
      catalog := ← Json.defaulted ms "catalog" .empty
      holidays := ← Json.defaulted ms "holidays" .empty
    }

end Reference

end Promotions

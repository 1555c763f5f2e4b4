import Promotions.Id
import Promotions.Json.Record

/-!
# The catalog

What is known of products: the category each belongs to and the brand that sells it. A catalog may
lag behind the bills; a product it does not know has neither.
-/

namespace Promotions

/-- What is known of a product. -/
structure CatalogEntry where
  /-- Its category. -/
  category : Option CategoryId := none
  /-- The brand that sells it. -/
  brand : Option BrandId := none
  deriving DecidableEq

instance : JsonCodec CatalogEntry where
  toJson e := .obj [("category_id", toJson e.category), ("brand_id", toJson e.brand)]
  readJson? reading j := do
    let ms ← Json.record? reading ["category_id", "brand_id"] 0 j
    return {
      category := ← Json.optional ms "category_id"
      brand := ← Json.optional ms "brand_id"
    }

/-- The known products. -/
abbrev Catalog := SortedMap ProductId CatalogEntry

namespace Catalog

/-- The category of a product, where it is known. -/
def categoryOf (c : Catalog) (product : ProductId) : Option CategoryId :=
  (c.find? product).bind (·.category)

/-- The brand of a product, where it is known. -/
def brandOf (c : Catalog) (product : ProductId) : Option BrandId :=
  (c.find? product).bind (·.brand)

end Catalog

end Promotions

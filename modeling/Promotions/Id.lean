import Promotions.Json.Codec
import Promotions.Uuid

/-!
# Identifiers of things

Promotions, companies, brands, stores, products, categories and members are identified by UUIDs.
The kind of thing is part of the type, so that the identifier of one kind is never taken for that of
another.
-/

namespace Promotions

/-- The kinds of things that have identifiers. -/
inductive Kind where
  /-- A promotion. -/
  | promotion
  /-- A company, the owner of brands and promotions. -/
  | company
  /-- A brand of a company. -/
  | brand
  /-- A store of a brand. -/
  | store
  /-- A product on sale. -/
  | product
  /-- A category of products. -/
  | category
  /-- A member of a loyalty programme. -/
  | member
  deriving DecidableEq, Repr

/-- The identifier of a thing of a kind. -/
structure Id (kind : Kind) where
  /-- The identifying number. -/
  uuid : Uuid
  deriving DecidableEq, Repr

/-- The identifier of a promotion. -/
abbrev PromotionId := Id .promotion

/-- The identifier of a company. -/
abbrev CompanyId := Id .company

/-- The identifier of a brand. -/
abbrev BrandId := Id .brand

/-- The identifier of a store. -/
abbrev StoreId := Id .store

/-- The identifier of a product. -/
abbrev ProductId := Id .product

/-- The identifier of a category. -/
abbrev CategoryId := Id .category

/-- The identifier of a member. -/
abbrev MemberId := Id .member

namespace Id

variable {kind : Kind}

theorem uuid_injective {a b : Id kind} (h : a.uuid = b.uuid) : a = b := by
  cases a; cases b; simp_all

instance : Ordered (Id kind) := Ordered.lift uuid uuid_injective

/-- The text of an identifier. -/
def toText (id : Id kind) : String := id.uuid.toText

/-- The identifier that a text stands for. -/
def ofText? (s : String) : Option (Id kind) := (Uuid.ofText? s).map .mk

instance : JsonCodec (Id kind) where
  toJson id := .str id.toText
  readJson? reading j := (Json.text? reading j).bind ofText?

instance : JsonKey (Id kind) where
  toKey := toText
  ofKey? := ofText?

end Id

end Promotions

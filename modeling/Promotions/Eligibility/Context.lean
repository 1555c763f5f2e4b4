import Promotions.Bill
import Promotions.Customer
import Promotions.Reference
import Promotions.Usage

/-!
# What evaluation reads

Everything that is read besides the document, so that evaluation asks nobody.
-/

namespace Promotions

/-- What evaluation reads besides the document. -/
structure Context where
  /-- The bill. -/
  bill : Bill
  /-- The catalog. -/
  catalog : Catalog := .empty
  /-- The holidays. -/
  holidays : Holidays := .empty
  /-- What is known of the customer. -/
  customer : Option Customer := none
  /-- How often promotions have been used, where that was asked. -/
  usage : Option UsageFacts := none
  /-- What earlier stages took off the bill. -/
  priorDiscount : Amount := 0

end Promotions

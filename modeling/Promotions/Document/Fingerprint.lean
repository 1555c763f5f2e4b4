import Promotions.Blake3
import Promotions.Document.Record

/-!
# Fingerprints

A document is fingerprinted by the text of what it says, leaving out when and for which store it was
compiled and the fingerprint itself. So one promotion has one fingerprint at every store and at
every time, and terminals need to fetch only the documents whose fingerprint changed.
-/

namespace Promotions.Document

/-- The document without the time, the store and the fingerprint. -/
def content (d : Document) : Document :=
  { d with compiledAt := .epoch, storeId := none, fingerprint := "" }

/-- The bytes that are hashed. -/
def contentBytes (d : Document) : List UInt8 := (toJson d.content).toText.toUTF8.toList

/-- The hash of the content under any hash function. -/
def hashWith {α : Type} (hash : List UInt8 → α) (d : Document) : α := hash d.contentBytes

/-- Bytes as hexadecimal digits. -/
def hexadecimal (bytes : List UInt8) : String :=
  String.ofList (bytes.flatMap fun b => Digits.writeFixed 16 2 b.toNat)

/-- The fingerprint of the content. -/
def computeFingerprint (d : Document) : String := hexadecimal (d.hashWith Blake3.hash)

end Promotions.Document

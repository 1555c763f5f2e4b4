import Promotions.Batch

/-!
# Keeping terminals up to date

Terminals hold documents and know their fingerprints. Promotions are compiled again, and only the
documents whose fingerprint changed have to be sent. A promotion that does not compile any more
leaves what terminals hold as it is.
-/

namespace Promotions

/-- The fingerprints that terminals know. -/
abbrev Fingerprints := SortedMap PromotionId String

/-- What compiling again comes to. -/
structure Recompilation where
  /-- The documents that are new or whose fingerprint changed. -/
  changed : List Document
  /-- The promotions whose fingerprint is the same. -/
  unchanged : SortedSet PromotionId
  /-- The promotions that are gone. -/
  removed : SortedSet PromotionId
  /-- The promotions that do not compile. -/
  failures : List CompileFailure

namespace Recompilation

/-- Nothing has to be sent. -/
def isEmpty (r : Recompilation) : Bool := r.changed.isEmpty && r.removed.isEmpty

/-- What terminals know after a recompilation was sent to them. -/
def applyTo (r : Recompilation) (known : Fingerprints) : Fingerprints :=
  r.changed.foldl (fun known d => known.insert d.id d.fingerprint)
    (r.removed.toList.foldl SortedMap.erase known)

end Recompilation

/-- The document is known with its fingerprint. -/
def Fingerprints.knows (known : Fingerprints) (d : Document) : Bool :=
  decide (known.find? d.id = some d.fingerprint)

/-- What compiling again comes to, where terminals know some fingerprints. -/
def Compiler.recompile (c : Compiler) (known : Fingerprints) (promotions : List Promotion)
    (compiledAt : Timestamp) : Recompilation :=
  let compiled := promotions.map fun p => (p, c.compile p compiledAt)
  let documents := Compiler.documentsOf compiled
  { changed := documents.filter fun d => !known.knows d
    unchanged := .ofList ((documents.filter fun d => known.knows d).map (·.id))
    removed := .ofList (known.keys.filter fun id => !(promotions.map (·.id)).contains id)
    failures := Compiler.failuresOf compiled }

end Promotions

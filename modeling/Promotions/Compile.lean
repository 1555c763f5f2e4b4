import Promotions.Compile.Facet
import Promotions.Compile.Rule
import Promotions.Document.Fingerprint

/-!
# Compiling promotions

A compiler belongs to a company and stamps the currency of the company on every document. Compiling
asks neither the clock nor anyone else: the same promotion gives the same document, but for the time
that is stamped on it.
-/

namespace Promotions

/-- A known currency in which documents are compiled. -/
structure Compiler where
  /-- The code of the currency. -/
  currency : String
  /-- The currency is known. -/
  isCurrency : isCurrency currency = true

namespace Compiler

/-- The compiler for a currency code, whatever blanks surround it. -/
def ofCode (code : String) : Except CompileError Compiler :=
  if h : Promotions.isCurrency (Text.trim code) = true then .ok ⟨Text.trim code, h⟩
  else .error (.unknownCurrency code)

/-- The document of a promotion. -/
def compile (c : Compiler) (p : Promotion) (compiledAt : Timestamp) :
    Except CompileError Document := do
  let rule ← p.rule
  let validity ← p.validity
  let scope ← p.scope
  let requirements ← p.requirements
  let conflict ← p.conflict
  let crossBrand ← p.crossBrand?
  let document : Document := {
    id := p.id
    code := p.code
    name := p.name
    description := p.description
    terms := p.terms
    companyId := p.companyId
    brandId := p.brandId
    currency := c.currency
    version := Document.currentVersion
    compiledAt
    fingerprint := ""
    storeId := none
    rule, validity, scope, requirements, conflict, crossBrand
    targeting := p.targeting
    audience := p.audience
    limits := p.limits
  }
  return { document with fingerprint := document.computeFingerprint }

end Compiler

end Promotions

import Promotions.Document.Fingerprint
import Promotions.Proofs.Document.Record

/-!
# Proofs: documents and their fingerprints

The text of a document determines the document, since it is read back from it, and hexadecimal
digits determine bytes. So as far as the hash keeps contents apart, two documents have one
fingerprint if and only if they say the same: when and for which store they were compiled does not
count.
-/

namespace Promotions

theorem Blake3.pieces_ne_nil (size : Nat) (bytes : List UInt8) : pieces size bytes ≠ [] := by
  rw [pieces]
  split <;> simp

theorem Blake3.length_hash (bytes : List UInt8) : (hash bytes).length = 32 := by
  rw [hash]
  split
  case h_1 hnodes => exact absurd hnodes (by simpa using pieces_ne_nil 1024 bytes)
  case h_2 first rest hnodes =>
    simp only [List.length_flatMap, List.length_cons, List.length_nil]
    simp

/-- The hash of some bytes with the bytes behind it. -/
def Blake3.sealed (bytes : List UInt8) : List UInt8 := hash bytes ++ bytes

theorem Blake3.sealed_injective : Function.Injective sealed := fun x y h =>
  (List.append_inj h (by rw [length_hash, length_hash])).2

namespace Document

instance : Shallow Json.greatestDepth Document := inferInstanceAs (Shallow (122 + 5) Document)

/-- A document is read back from its text, and so is its fingerprint. -/
theorem ofJson?_ofText?_toText (d : Document) :
    (Json.ofText? (toJson d).toText).bind ofJson? = some d ∧
      ((Json.ofText? (toJson d).toText).bind ofJson?).map computeFingerprint =
        some d.computeFingerprint := by
  have hread : (Json.ofText? (toJson d).toText).bind ofJson? = some d := ofText?_toText_bind d
  exact ⟨hread, by rw [hread, Option.map_some]⟩

/-! ## What is hashed -/

/-- Two documents say the same. When they were compiled, for which store, and which fingerprint they
carry does not count. -/
structure Agree (d₁ d₂ : Document) : Prop where
  id : d₁.id = d₂.id
  code : d₁.code = d₂.code
  name : d₁.name = d₂.name
  description : d₁.description = d₂.description
  terms : d₁.terms = d₂.terms
  companyId : d₁.companyId = d₂.companyId
  brandId : d₁.brandId = d₂.brandId
  currency : d₁.currency = d₂.currency
  version : d₁.version = d₂.version
  rule : d₁.rule = d₂.rule
  validity : d₁.validity = d₂.validity
  scope : d₁.scope = d₂.scope
  targeting : d₁.targeting = d₂.targeting
  audience : d₁.audience = d₂.audience
  requirements : d₁.requirements = d₂.requirements
  limits : d₁.limits = d₂.limits
  conflict : d₁.conflict = d₂.conflict
  crossBrand : d₁.crossBrand = d₂.crossBrand

variable {d₁ d₂ : Document}

theorem agree_iff_content : Agree d₁ d₂ ↔ d₁.content = d₂.content := by
  constructor
  · rintro ⟨hid, hcode, hname, hdescription, hterms, hcompanyId, hbrandId, hcurrency, hversion,
      hrule, hvalidity, hscope, htargeting, haudience, hrequirements, hlimits, hconflict,
      hcrossBrand⟩
    simp only [content, *]
  · intro h
    simp only [content, Document.mk.injEq, true_and] at h
    obtain ⟨hid, hcode, hname, hdescription, hterms, hcompanyId, hbrandId, hcurrency, hversion,
      hrule, hvalidity, hscope, htargeting, haudience, hrequirements, hlimits, hconflict,
      hcrossBrand⟩ := h
    constructor <;> assumption

theorem toList_loop (bytes : ByteArray) (i : Nat) (read : List UInt8) :
    ByteArray.toList.loop bytes i read = read.reverse ++ bytes.data.toList.drop i := by
  fun_induction ByteArray.toList.loop bytes i read with
  | case1 i read h ih =>
    have hget : bytes.get! i = bytes.data.toList[i] := by
      rw [Array.getElem_toList]
      exact getElem!_pos bytes.data i h
    rw [ih, List.drop_eq_getElem_cons h, hget, List.reverse_cons, List.append_assoc]
    rfl
  | case2 i read h =>
    rw [List.drop_eq_nil_of_le (Nat.le_of_not_lt h), List.append_nil]

theorem toList_injective {x y : ByteArray} (h : x.toList = y.toList) : x = y := by
  rw [ByteArray.toList, ByteArray.toList, toList_loop, toList_loop] at h
  exact ByteArray.ext (Array.toList_inj.1 h)

/-- What is hashed determines what the document says. -/
theorem contentBytes_inj : d₁.contentBytes = d₂.contentBytes ↔ d₁.content = d₂.content := by
  constructor
  · intro h
    have htext : (toJson d₁.content).toText = (toJson d₂.content).toText :=
      String.toByteArray_inj.1 (toList_injective h)
    have hread := ofText?_toText_bind d₁.content
    rw [htext, ofText?_toText_bind] at hread
    exact (Option.some.inj hread).symm
  · intro h
    rw [contentBytes, contentBytes, h]

/-! ## Hexadecimal digits -/

theorem readHex_writeFixed_two (a : UInt8) :
    Uuid.readHex 0 (Digits.writeFixed 16 2 a.toNat) = some a.toNat := by
  rw [Uuid.readHex_writeFixed 0 a.toNat_lt, Nat.zero_mul, Nat.zero_add]

theorem writeFixed_two_inj {a b : UInt8}
    (h : Digits.writeFixed 16 2 a.toNat = Digits.writeFixed 16 2 b.toNat) : a = b := by
  have hread := readHex_writeFixed_two a
  rw [h, readHex_writeFixed_two b] at hread
  exact UInt8.toNat_inj.1 (Option.some.inj hread).symm

theorem hexadecimal_injective : Function.Injective hexadecimal := by
  intro x y h
  have hchars := String.ofList_injective h
  induction x generalizing y with
  | nil =>
    cases y with
    | nil => rfl
    | cons b y => simp [Digits.writeFixed] at hchars
  | cons a x ih =>
    cases y with
    | nil => simp [Digits.writeFixed] at hchars
    | cons b y =>
      rw [List.flatMap_cons, List.flatMap_cons] at hchars
      obtain ⟨hhead, htail⟩ := List.append_inj hchars (by simp [Digits.writeFixed])
      rw [writeFixed_two_inj hhead, ih (congrArg String.ofList htail) htail]

/-- The fingerprint of the content under any hash. -/
def fingerprintWith (hash : List UInt8 → List UInt8) (d : Document) : String :=
  hexadecimal (d.hashWith hash)

theorem Agree.computeFingerprint_eq (h : Agree d₁ d₂) :
    d₁.computeFingerprint = d₂.computeFingerprint := by
  rw [computeFingerprint, computeFingerprint, hashWith, hashWith, contentBytes, contentBytes,
    agree_iff_content.1 h]

/-- Where the hash keeps two contents apart, fingerprints tell whether two documents say the same.
-/
theorem fingerprintWith_eq_iff {hash : List UInt8 → List UInt8}
    (happart : hash d₁.contentBytes = hash d₂.contentBytes → d₁.contentBytes = d₂.contentBytes) :
    d₁.fingerprintWith hash = d₂.fingerprintWith hash ↔ Agree d₁ d₂ := by
  rw [agree_iff_content, ← contentBytes_inj]
  constructor
  · exact fun h => happart (hexadecimal_injective h)
  · intro h
    rw [fingerprintWith, fingerprintWith, hashWith, hashWith, h]

end Document

end Promotions

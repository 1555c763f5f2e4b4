import Promotions.Proofs.Batch.Store
import Promotions.Proofs.Compile.Documents
import Promotions.Proofs.Document.Fingerprint
import Promotions.Sync

/-!
# Proofs: what fingerprints say of promotions

Compiling asks no clock: at another time the same document comes out with another stamp, or the
same failure. Every document carries the fingerprint of its own content, so a promotion has one
fingerprint at all stores and at all times.
-/

namespace Promotions

open Fallible

namespace Compiler

variable {c : Compiler} {p : Promotion} {promotions : List Promotion} {compiledAt : Timestamp}
  {d : Document}

/-- At another time a promotion comes to the same, but for the stamp. -/
theorem compile_eq_map (c : Compiler) (p : Promotion) (compiledAt otherTime : Timestamp) :
    c.compile p otherTime =
      (c.compile p compiledAt).map fun d => { d with compiledAt := otherTime } := by
  simp only [compile, map_bind]
  rfl

theorem fingerprint_eq_of_compile (h : c.compile p compiledAt = .ok d) :
    d.fingerprint = d.computeFingerprint := by
  obtain ⟨rule, -, h⟩ := bind_eq_ok_iff.1 h
  obtain ⟨validity, -, h⟩ := bind_eq_ok_iff.1 h
  obtain ⟨scope, -, h⟩ := bind_eq_ok_iff.1 h
  obtain ⟨requirements, -, h⟩ := bind_eq_ok_iff.1 h
  obtain ⟨conflict, -, h⟩ := bind_eq_ok_iff.1 h
  obtain ⟨crossBrand, -, h⟩ := bind_eq_ok_iff.1 h
  obtain rfl := pure_eq_ok_iff.1 h
  exact Document.Agree.computeFingerprint_eq (Document.agree_iff_content.2 rfl)

/-- A document of a promotion carries the fingerprint of its content, and the promotion comes to a
document with that fingerprint whenever it is compiled. -/
structure Fingerprinted (c : Compiler) (p : Promotion) (d : Document) : Prop where
  id : d.id = p.id
  own : d.fingerprint = d.computeFingerprint
  always (compiledAt : Timestamp) :
    ∃ e, c.compile p compiledAt = .ok e ∧ e.fingerprint = d.fingerprint

theorem fingerprinted_of_compile (h : c.compile p compiledAt = .ok d) : Fingerprinted c p d where
  id := (compiles_of_compile h).id
  own := fingerprint_eq_of_compile h
  always otherTime := by
    refine ⟨{ d with compiledAt := otherTime }, ?_, rfl⟩
    rw [c.compile_eq_map p compiledAt otherTime, h]
    rfl

/-- For which store a document is does not count. -/
theorem Fingerprinted.atStore (h : Fingerprinted c p d) (storeId : Option StoreId) :
    Fingerprinted c p { d with storeId } where
  id := h.id
  own := h.own.trans (Document.Agree.computeFingerprint_eq (Document.agree_iff_content.2 rfl))
  always := h.always

/-- The documents that promotions come to. -/
def freshDocuments (c : Compiler) (promotions : List Promotion) (compiledAt : Timestamp) :
    List Document :=
  documentsOf (promotions.map fun p => (p, c.compile p compiledAt))

theorem mem_freshDocuments_iff :
    d ∈ c.freshDocuments promotions compiledAt ↔
      ∃ p ∈ promotions, c.compile p compiledAt = .ok d := by
  simp only [freshDocuments, mem_documentsOf_iff, List.mem_map, Prod.mk.injEq]
  constructor
  · rintro ⟨_, p, hp, rfl, h⟩
    exact ⟨p, hp, h⟩
  · rintro ⟨p, hp, h⟩
    exact ⟨p, p, hp, rfl, h⟩

theorem mem_changed_iff {known : Fingerprints} :
    d ∈ (c.recompile known promotions compiledAt).changed ↔
      d ∈ c.freshDocuments promotions compiledAt ∧ known.find? d.id ≠ some d.fingerprint := by
  simp [recompile, freshDocuments, Fingerprints.knows]

/-- Under a hash that keeps apart what it is given, two documents have one fingerprint if and only
if they say the same. Every document that is compiled, in a batch or again, carries the fingerprint
of its content, and its promotion has that fingerprint at all times. -/
theorem fingerprint_identifies (hash : List UInt8 → List UInt8) (hinj : Function.Injective hash)
    (c : Compiler) (promotions : List Promotion) :
    (∀ d₁ d₂ : Document, d₁.fingerprintWith hash = d₂.fingerprintWith hash ↔ d₁.Agree d₂) ∧
    (∀ d₁ d₂ : Document, (Blake3.hash d₁.contentBytes = Blake3.hash d₂.contentBytes →
        d₁.contentBytes = d₂.contentBytes) →
      (d₁.computeFingerprint = d₂.computeFingerprint ↔ d₁.Agree d₂)) ∧
    (∀ p compiledAt d, c.compile p compiledAt = .ok d → c.Fingerprinted p d) ∧
    (∀ store options, ∀ d ∈ (c.compileForStore store promotions options).documents,
      ∃ p ∈ promotions, c.Fingerprinted p d) ∧
    ∀ known compiledAt, ∀ d ∈ (c.recompile known promotions compiledAt).changed,
      ∃ p ∈ promotions, c.Fingerprinted p d := by
  refine ⟨fun d₁ d₂ => ?_, fun d₁ d₂ happart => ?_, fun p compiledAt d h => ?_,
    fun store options d hd => ?_, fun known compiledAt d hd => ?_⟩
  · exact Document.fingerprintWith_eq_iff fun h => hinj h
  · exact Document.fingerprintWith_eq_iff happart
  · exact fingerprinted_of_compile h
  · obtain ⟨p, hp, -, e, he, rfl⟩ := mem_documents_iff.1 hd
    exact ⟨p, hp, (fingerprinted_of_compile he).atStore (some store.id)⟩
  · obtain ⟨p, hp, h⟩ := mem_freshDocuments_iff.1 (mem_changed_iff.1 hd).1
    exact ⟨p, hp, fingerprinted_of_compile h⟩

/-- Two offers are told apart, one is known again later and at a store, and what is compiled for the
store is known by the fingerprint of its content. -/
theorem fingerprint_identifies_shop :
    let d := Sample.document 1 "A" 70 (Sample.policy .cartLevel)
    let other := Sample.document 1 "A" 50 (Sample.policy .cartLevel)
    let again := { d with compiledAt := .epoch, storeId := some (Sample.id 1), fingerprint := "A" }
    let batch := Sample.compiler.compileForStore Sample.store Sample.offers { today := Sample.date }
    Function.Injective Blake3.sealed ∧
    d.fingerprintWith Blake3.sealed ≠ other.fingerprintWith Blake3.sealed ∧
    (Blake3.hash d.contentBytes = Blake3.hash again.contentBytes →
      d.contentBytes = again.contentBytes) ∧
    d.computeFingerprint = again.computeFingerprint ∧
    ∃ e ∈ batch.documents, e.fingerprint = e.computeFingerprint := by
  intro d other again batch
  obtain ⟨hsealed, hhash, hcompile, hbatch, -⟩ := fingerprint_identifies Blake3.sealed
    Blake3.sealed_injective Sample.compiler Sample.offers
  have hagree : d.Agree again := Document.agree_iff_content.2 rfl
  have hsame : d.contentBytes = again.contentBytes :=
    Document.contentBytes_inj.2 (Document.agree_iff_content.1 hagree)
  refine ⟨Blake3.sealed_injective, fun h => ?_, fun _ => hsame, ?_, ?_⟩
  · exact absurd ((hsealed d other).1 h).rule (by decide)
  · exact (hhash d again fun _ => hsame).2 hagree
  · obtain ⟨e, he⟩ : ∃ e, Sample.compiler.compile (Sample.offer 1 "A" 10) .epoch = .ok e := ⟨_, rfl⟩
    have hmem : { e with storeId := some Sample.store.id } ∈ batch.documents :=
      mem_documents_iff.2 ⟨Sample.offer 1 "A" 10, List.mem_cons_self, by decide, e, he, rfl⟩
    obtain ⟨p, -, hp⟩ := hbatch Sample.store { today := Sample.date } _ hmem
    exact ⟨_, hmem, hp.own⟩

end Compiler

end Promotions

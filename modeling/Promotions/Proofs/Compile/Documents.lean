import Mathlib.Data.List.Perm.Basic
import Promotions.Batch
import Promotions.Proofs.Fallible

/-!
# Proofs: the documents of promotions

A document says of itself what its promotion says, and holds the facets that the settings of the
promotion come to. The documents of a batch are those of the promotions it selects.
-/

namespace Promotions

open Fallible

namespace Compiler

variable {c : Compiler} {p : Promotion} {compiledAt : Timestamp} {d : Document}

/-- What a document has of its promotion. -/
structure Compiles (p : Promotion) (d : Document) : Prop where
  id : d.id = p.id
  code : d.code = p.code
  companyId : d.companyId = p.companyId
  rule : p.rule = .ok d.rule
  validity : p.validity = .ok d.validity
  scope : p.scope = .ok d.scope
  targeting : d.targeting = p.targeting
  audience : d.audience = p.audience
  requirements : p.requirements = .ok d.requirements
  limits : d.limits = p.limits
  conflict : p.conflict = .ok d.conflict
  crossBrand : p.crossBrand? = .ok d.crossBrand

theorem compiles_of_compile (h : c.compile p compiledAt = .ok d) : Compiles p d := by
  obtain ⟨rule, hrule, h⟩ := bind_eq_ok_iff.1 h
  obtain ⟨validity, hvalidity, h⟩ := bind_eq_ok_iff.1 h
  obtain ⟨scope, hscope, h⟩ := bind_eq_ok_iff.1 h
  obtain ⟨requirements, hrequirements, h⟩ := bind_eq_ok_iff.1 h
  obtain ⟨conflict, hconflict, h⟩ := bind_eq_ok_iff.1 h
  obtain ⟨crossBrand, hcrossBrand, h⟩ := bind_eq_ok_iff.1 h
  obtain rfl := pure_eq_ok_iff.1 h
  exact
    { id := rfl
      code := rfl
      companyId := rfl
      rule := hrule
      validity := hvalidity
      scope := hscope
      targeting := rfl
      audience := rfl
      requirements := hrequirements
      limits := rfl
      conflict := hconflict
      crossBrand := hcrossBrand }

/-- A document is stamped with the version of documents and with the currency of the compiler. -/
theorem stamp_of_compile (h : c.compile p compiledAt = .ok d) :
    d.version = Document.currentVersion ∧ d.currency = c.currency := by
  obtain ⟨rule, -, h⟩ := bind_eq_ok_iff.1 h
  obtain ⟨validity, -, h⟩ := bind_eq_ok_iff.1 h
  obtain ⟨scope, -, h⟩ := bind_eq_ok_iff.1 h
  obtain ⟨requirements, -, h⟩ := bind_eq_ok_iff.1 h
  obtain ⟨conflict, -, h⟩ := bind_eq_ok_iff.1 h
  obtain ⟨crossBrand, -, h⟩ := bind_eq_ok_iff.1 h
  obtain rfl := pure_eq_ok_iff.1 h
  exact ⟨rfl, rfl⟩

theorem isSupported_of_compile (h : c.compile p compiledAt = .ok d) : d.isSupported = true := by
  rw [Document.isSupported, Document.majorVersion?, (stamp_of_compile h).1]
  decide

theorem hasCurrency_of_compile (h : c.compile p compiledAt = .ok d) : d.hasCurrency = true := by
  rw [Document.hasCurrency, (stamp_of_compile h).2]
  exact c.isCurrency

/-! ## Batches -/

theorem mem_documentsOf_iff {compiled : List Compiled} :
    d ∈ documentsOf compiled ↔ ∃ p, (p, .ok d) ∈ compiled := by
  rw [documentsOf, List.mem_filterMap]
  constructor
  · rintro ⟨⟨p, x⟩, hmem, hx⟩
    cases x with
    | ok e =>
      obtain rfl := Option.some.inj hx
      exact ⟨p, hmem⟩
    | error e => cases hx
  · rintro ⟨p, hmem⟩
    exact ⟨(p, .ok d), hmem, rfl⟩

/-- What is told of documents and of failures is told of all that promotions come to, once each. -/
theorem documentsOf_append_failuresOf_perm {β : Type} {document : Document → β}
    {failure : CompileFailure → β} {entry : Compiled → β} {compiled : List Compiled}
    (hdocument : ∀ p d, (p, .ok d) ∈ compiled → document d = entry (p, .ok d))
    (hfailure : ∀ p e, (p, .error e) ∈ compiled → failure (.of p e) = entry (p, .error e)) :
    ((documentsOf compiled).map document ++ (failuresOf compiled).map failure).Perm
      (compiled.map entry) := by
  induction compiled with
  | nil => exact .nil
  | cons x compiled ih =>
    have hrest := ih (fun p d h => hdocument p d (List.mem_cons_of_mem _ h))
      fun p e h => hfailure p e (List.mem_cons_of_mem _ h)
    obtain ⟨p, result⟩ := x
    cases result with
    | ok d =>
      rw [List.map_cons, ← hdocument p d List.mem_cons_self]
      exact hrest.cons (document d)
    | error e =>
      rw [List.map_cons, ← hfailure p e List.mem_cons_self]
      exact List.perm_middle.trans (hrest.cons (failure (.of p e)))

variable {store : Store} {promotions : List Promotion} {options : BatchOptions}

theorem compileAt_eq_ok_iff {q : Promotion} :
    c.compileAt store compiledAt q = (p, .ok d) ↔
      q = p ∧ ∃ e, c.compile p compiledAt = .ok e ∧ { e with storeId := some store.id } = d := by
  rw [compileAt, Prod.mk.injEq]
  refine and_congr_right fun hq => ?_
  rw [hq]
  cases c.compile p compiledAt with
  | ok e => simp [Except.map]
  | error e => simp [Except.map]

/-- The document of a promotion in the batch of the store, if it has one. -/
def documentAt? (c : Compiler) (store : Store) (options : BatchOptions) (p : Promotion) :
    Option Document :=
  if p.isSelected store options then
    (c.compile p options.compiledAt).toOption.map fun d => { d with storeId := some store.id }
  else none

theorem documents_eq (promotions : List Promotion) :
    (c.compileForStore store promotions options).documents =
      Document.inOrder (promotions.filterMap (c.documentAt? store options)) := by
  refine congrArg Document.inOrder ?_
  rw [documentsOf, List.filterMap_map, List.filterMap_filter]
  refine List.filterMap_congr fun p _ => ?_
  cases hcompile : c.compile p options.compiledAt <;>
    simp [documentAt?, compileAt, hcompile, Except.map, Except.toOption]

theorem documentAt?_eq_some_iff :
    c.documentAt? store options p = some d ↔ p.isSelected store options = true ∧
      ∃ e, c.compile p options.compiledAt = .ok e ∧ { e with storeId := some store.id } = d := by
  rw [documentAt?, Option.ite_none_right_eq_some, Option.map_eq_some_iff]
  refine and_congr_right fun _ => exists_congr fun e => and_congr_left fun _ => ?_
  cases c.compile p options.compiledAt <;> simp [Except.toOption]

theorem mem_documents_iff :
    d ∈ (c.compileForStore store promotions options).documents ↔
      ∃ p ∈ promotions, p.isSelected store options = true ∧
        ∃ e, c.compile p options.compiledAt = .ok e ∧ { e with storeId := some store.id } = d := by
  rw [documents_eq, Document.inOrder, List.mem_mergeSort, List.mem_filterMap]
  simp only [documentAt?_eq_some_iff]

/-- A document of a batch is that of a promotion that the batch selects. -/
theorem exists_compiles (h : d ∈ (c.compileForStore store promotions options).documents) :
    ∃ p ∈ promotions, p.isSelected store options = true ∧ Compiles p d := by
  obtain ⟨p, hp, hselected, e, he, rfl⟩ := mem_documents_iff.1 h
  have hcompiles := compiles_of_compile he
  exact ⟨p, hp, hselected, { hcompiles with }⟩

theorem map_id_documentsOf_sublist {compiled : List Compiled}
    (hids : ∀ p d, (p, .ok d) ∈ compiled → d.id = p.id) :
    ((documentsOf compiled).map (·.id)).Sublist (compiled.map (·.1.id)) := by
  induction compiled with
  | nil => exact List.Sublist.slnil
  | cons x compiled ih =>
    have hrest := ih fun p d h => hids p d (List.mem_cons_of_mem _ h)
    obtain ⟨p, result⟩ := x
    cases result with
    | ok d =>
      have hid : d.id = p.id := hids p d List.mem_cons_self
      rw [List.map_cons, ← hid]
      exact hrest.cons_cons d.id
    | error e => exact hrest.cons p.id

/-- Where promotions have an identifier each, so have the documents of a batch. -/
theorem nodup_ids_compileForStore (hids : (promotions.map (·.id)).Nodup) :
    ((c.compileForStore store promotions options).documents.map (·.id)).Nodup := by
  have hperm := (List.mergeSort_perm (documentsOf ((promotions.filter
    (·.isSelected store options)).map (c.compileAt store options.compiledAt)))
    Document.notAfter).map (·.id)
  rw [compileForStore, Document.inOrder, hperm.nodup_iff]
  refine List.Nodup.sublist (map_id_documentsOf_sublist fun p d hmem => ?_) ?_
  · obtain ⟨q, -, hat⟩ := List.mem_map.1 hmem
    obtain ⟨-, e, he, rfl⟩ := compileAt_eq_ok_iff.1 hat
    exact (compiles_of_compile he).id
  · rw [List.map_map]
    exact hids.sublist (List.filter_sublist.map _)

end Compiler

end Promotions

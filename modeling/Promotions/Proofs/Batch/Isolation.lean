import Promotions.Proofs.Batch.Store

/-!
# Proofs: one entry for each promotion of a batch

A promotion that a batch selects comes to one entry, its document or its failure, and to nothing
else: the failure of one promotion leaves no trace among the documents of the others. The documents
are sorted by their turns, so where no two share one it does not matter how the promotions come.
-/

namespace Promotions

open StableOrder

/-! ## Turns -/

namespace Turn

/-- A turn is in an earlier stage than another, or in the same stage with a lower priority, or at
the same priority with a code that does not come later. -/
def NoLater (s t : Turn) : Prop :=
  s.1.rank < t.1.rank ∨ s.1 = t.1 ∧ (s.2.1 < t.2.1 ∨ s.2.1 = t.2.1 ∧ s.2.2 ≤ t.2.2)

theorem NoLater.antisymm {s t : Turn} (h : s.NoLater t) (h' : t.NoLater s) : s = t := by
  obtain ⟨stage, priority, code⟩ := s
  obtain ⟨stage', priority', code'⟩ := t
  obtain rfl : stage = stage' := by
    rcases h with hlt | ⟨hstage, -⟩
    · rcases h' with hlt' | ⟨hstage', -⟩
      · exact absurd hlt (Nat.lt_asymm hlt')
      · exact hstage'.symm
    · exact hstage
  have h := (h.resolve_left (Nat.lt_irrefl _)).2
  have h' := (h'.resolve_left (Nat.lt_irrefl _)).2
  obtain rfl : priority = priority' := by
    rcases h with hlt | ⟨hpriority, -⟩
    · rcases h' with hlt' | ⟨hpriority', -⟩
      · exact absurd hlt (UInt16.lt_asymm hlt')
      · exact hpriority'.symm
    · exact hpriority
  have hcode := (h.resolve_left (UInt16.lt_irrefl _)).2
  have hcode' := (h'.resolve_left (UInt16.lt_irrefl _)).2
  obtain rfl : code = code' := String.le_antisymm hcode hcode'
  rfl

end Turn

namespace Document

theorem notAfter_iff {d e : Document} : d.notAfter e = true ↔ d.turn.NoLater e.turn := by
  have hrank : ∀ {s t : Stage}, s.rank = t.rank ↔ s = t := by
    intro s t
    cases s <;> cases t <;> decide
  have hcode : ∀ {s t : String}, Ordered.before t s = false ↔ s ≤ t := by
    intro s t
    exact decide_eq_false_iff_not.trans String.not_lt
  simp [notAfter, Turn.NoLater, turn, hrank, hcode]

/-- Documents that each have a turn of their own are put in one order, however they come. -/
theorem inOrder_eq_of_perm {ds es : List Document} (hperm : ds.Perm es)
    (hturns : (ds.map turn).Nodup) : inOrder ds = inOrder es := by
  refine isRanking_notAfter.mergeSort_eq_of_perm hperm fun d hd e he hde hed => ?_
  have hturn := (notAfter_iff.1 hde).antisymm (notAfter_iff.1 hed)
  exact List.inj_on_of_nodup_map hturns hd he hturn

end Document

/-- The turn that a promotion has if it compiles. -/
def Promotion.turn (p : Promotion) : Turn := (p.stage, p.executionPriority, p.code)

namespace Compiler

theorem Compiles.turn {p : Promotion} {d : Document} (h : Compiles p d) : d.turn = p.turn := by
  have hconflict := h.conflict
  rw [Promotion.conflict] at hconflict
  split at hconflict
  · rw [Document.turn, ← Except.ok.inj hconflict, h.code]
    rfl
  · cases hconflict

variable {c : Compiler} {store : Store} {options : BatchOptions}

/-! ## The document of a promotion -/

/-- The promotion is selected for the store and compiles. -/
def isHeld (c : Compiler) (store : Store) (options : BatchOptions) (p : Promotion) : Bool :=
  p.isSelected store options && (c.compile p options.compiledAt).isOk

theorem documentAt?_eq_none {p : Promotion}
    (h : ∃ e, c.compile p options.compiledAt = .error e) :
    c.documentAt? store options p = none := by
  obtain ⟨e, he⟩ := h
  rw [documentAt?, he]
  split <;> rfl

theorem map_turn_documentAt? (p : Promotion) :
    (c.documentAt? store options p).map Document.turn =
      if c.isHeld store options p then some p.turn else none := by
  rw [documentAt?, isHeld]
  by_cases hselected : p.isSelected store options = true
  · cases hcompile : c.compile p options.compiledAt with
    | ok d =>
      have hturn : d.turn = p.turn := (compiles_of_compile hcompile).turn
      simp [hselected, Except.isOk, Except.toBool, Except.toOption, ← hturn, Document.turn]
    | error e => simp [Except.isOk, Except.toBool, Except.toOption]
  · simp [hselected]

theorem map_turn_documents (promotions : List Promotion) :
    (promotions.filterMap (c.documentAt? store options)).map Document.turn =
      (promotions.filter (c.isHeld store options)).map Promotion.turn := by
  rw [List.map_filterMap, ← List.filterMap_eq_map, List.filterMap_filter]
  exact List.filterMap_congr fun p _ => map_turn_documentAt? p

/-- The order of promotions, and those that fail, are forgotten in the documents. -/
theorem documents_eq_of_perm_append {promotions promotions' broken : List Promotion}
    (hperm : promotions'.Perm (promotions ++ broken))
    (hbroken : ∀ p ∈ broken, ∃ e, c.compile p options.compiledAt = .error e)
    (hturns : ((promotions.filter (c.isHeld store options)).map Promotion.turn).Nodup) :
    (c.compileForStore store promotions' options).documents =
      (c.compileForStore store promotions options).documents := by
  have hnone : broken.filterMap (c.documentAt? store options) = [] :=
    List.filterMap_eq_nil_iff.2 fun p hp => documentAt?_eq_none (hbroken p hp)
  have hdocuments := hperm.filterMap (c.documentAt? store options)
  rw [List.filterMap_append, hnone, List.append_nil] at hdocuments
  rw [← map_turn_documents] at hturns
  rw [documents_eq, documents_eq, Document.inOrder_eq_of_perm hdocuments.symm hturns]

end Compiler

/-! ## Entries -/

/-- What a batch says of a promotion. -/
inductive StoreCompilation.Entry where
  /-- It compiles to a document. -/
  | document (d : Document)
  /-- It does not compile. -/
  | failure (f : CompileFailure)

/-- The documents and the failures. -/
def StoreCompilation.entries (batch : StoreCompilation) : List Entry :=
  batch.documents.map .document ++ batch.failures.map .failure

namespace Compiler

open StoreCompilation

variable {c : Compiler} {store : Store} {compiledAt : Timestamp}

/-- What the batch of a store says of a promotion that it selects. -/
def entryAt (c : Compiler) (store : Store) (compiledAt : Timestamp) (p : Promotion) : Entry :=
  match c.compile p compiledAt with
  | .ok d => .document { d with storeId := some store.id }
  | .error e => .failure (.of p e)

/-- The entry of what a promotion comes to. -/
def entryOf : Compiled → Entry
  | (_, .ok d) => .document d
  | (p, .error e) => .failure (.of p e)

theorem entryOf_comp_compileAt :
    entryOf ∘ c.compileAt store compiledAt = c.entryAt store compiledAt := by
  funext p
  rw [Function.comp_apply, compileAt, entryAt]
  cases c.compile p compiledAt <;> rfl

/-- A batch does with each promotion what it does with it alone. Promotions that fail, and the order
in which promotions come, have no part in the documents if those that compile each have a turn of
their own; the documents are sorted by their turns; and each promotion that applies to the store and
is in the window has one entry, the others have none. -/
theorem compileForStore_isolates (c : Compiler) (store : Store) (options : BatchOptions) :
    (∀ promotions promotions' broken : List Promotion,
      promotions'.Perm (promotions ++ broken) →
      (∀ p ∈ broken, ∃ e, c.compile p options.compiledAt = .error e) →
      ((promotions.filter (c.isHeld store options)).map Promotion.turn).Nodup →
        (c.compileForStore store promotions' options).documents =
          (c.compileForStore store promotions options).documents) ∧
    (∀ promotions : List Promotion,
      (c.compileForStore store promotions options).documents.Pairwise fun d e =>
        d.turn.NoLater e.turn) ∧
    ∀ promotions : List Promotion,
      (c.compileForStore store promotions options).entries.Perm
        ((promotions.filter fun p => p.appliesToStore store &&
          options.window.selects p.startDate p.endDate options.today).map
            (c.entryAt store options.compiledAt)) := by
  refine ⟨fun promotions promotions' broken => documents_eq_of_perm_append, fun promotions => ?_,
    fun promotions => ?_⟩
  · have hsorted := Document.isRanking_notAfter.pairwise_mergeSort
      (promotions.filterMap (c.documentAt? store options))
    rw [documents_eq]
    exact hsorted.imp Document.notAfter_iff.1
  · let compiled := (promotions.filter (·.isSelected store options)).map
      (c.compileAt store options.compiledAt)
    have hdocuments := List.mergeSort_perm (documentsOf compiled) Document.notAfter
    have hentries : ((documentsOf compiled).map Entry.document ++
        (failuresOf compiled).map Entry.failure).Perm (compiled.map entryOf) :=
      documentsOf_append_failuresOf_perm (fun _ _ _ => rfl) fun _ _ _ => rfl
    rw [List.map_map, entryOf_comp_compileAt] at hentries
    exact ((hdocuments.map Entry.document).append_right _).trans hentries

/-- The offer of another store and one that does not compile leave the other two as they are, also
when all come the other way round. -/
theorem compileForStore_isolates_shop :
    let promotions := Sample.offers ++ [Sample.offer 3 "C" 30]
    let broken := { Sample.offer 4 "D" 40 with discountAmount := none }
    let options : BatchOptions := { today := Sample.date }
    let batch := Sample.compiler.compileForStore Sample.store promotions options
    let batch' := Sample.compiler.compileForStore Sample.store
      (promotions ++ [broken]).reverse options
    batch'.documents = batch.documents ∧ batch'.documents.map (·.code) = ["A", "C"] ∧
      batch'.failures.map (·.code) = ["D"] := by
  intro promotions broken options batch batch'
  have hbroken : ∀ p ∈ [broken], ∃ e, Sample.compiler.compile p options.compiledAt = .error e := by
    intro p hp
    rw [List.mem_singleton.1 hp]
    exact ⟨_, rfl⟩
  have hturns : ((promotions.filter (Sample.compiler.isHeld Sample.store options)).map
      Promotion.turn).Nodup := by
    decide +kernel
  have hsame := (compileForStore_isolates Sample.compiler Sample.store options).1 promotions
    (promotions ++ [broken]).reverse [broken] (List.reverse_perm _) hbroken hturns
  refine ⟨hsame, ?_, ?_⟩
  · have hsorted : (promotions.filterMap
        (Sample.compiler.documentAt? Sample.store options)).Pairwise fun d e =>
          d.notAfter e = true := by
      decide +kernel
    rw [hsame, documents_eq, Document.inOrder, List.mergeSort_of_pairwise hsorted]
    decide +kernel
  · decide +kernel

end Compiler

end Promotions

import Mathlib.Logic.Relation
import Promotions.Proofs.Batch.Company
import Promotions.Proofs.Fallible
import Promotions.Proofs.Service.Settle
import Promotions.Service.FanOut

/-!
# Proofs: compiling for a company and for one of its stores

The stores of a company are compiled side by side, and what is finished is recorded as it comes. At
any time what is recorded, what waits to be recorded and what is still to come are together the
compilations of all stores, so in the end they are recorded in some order, and the order does not
matter. What is recorded for a store is what compiling for that store alone gives.
-/

namespace Promotions

open Fallible

/-- The company has a store with the identifier that is not open. -/
def Reference.listsClosed (r : Reference) (id : StoreId) : Bool :=
  r.stores.any fun s => decide (s.id = id) && decide (s.companyId = r.company.id) && !s.isActive

namespace FanOut

/-- The number of steps that are left. -/
def left (s : FanOut) : Nat := 2 * s.running.length + s.finished.length

variable {work : Store → StoreCompilation} {s t : FanOut} {r : Reference} {compiledAt : Timestamp}

theorem Step.left_lt (h : Step work s t) : t.left < s.left := by
  cases h with
  | finish before store after finished company =>
    simp only [left, List.length_append, List.length_cons, List.length_nil]
    omega
  | record running before c after company =>
    simp only [left, List.length_append, List.length_cons]
    omega

/-- It goes on until everything is recorded. -/
theorem exists_step (h : ¬s.IsDone) : ∃ t, Step work s t := by
  obtain ⟨running, finished, company⟩ := s
  cases running with
  | cons store running => exact ⟨_, .finish [] store running finished company⟩
  | nil =>
    cases finished with
    | cons c finished => exact ⟨_, .record [] [] c finished company⟩
    | nil => exact absurd ⟨rfl, rfl⟩ h

/-- Each store may be finished and recorded before the next one. -/
theorem run_foldl (stores : List Store) (company : CompanyCompilation) :
    Relation.ReflTransGen (Step work) ⟨stores, [], company⟩
      ⟨[], [], stores.foldl (fun company store => company.record (work store)) company⟩ := by
  induction stores generalizing company with
  | nil => exact .refl
  | cons store stores ih =>
    have hfinish : Step work ⟨store :: stores, [], company⟩ ⟨stores, [work store], company⟩ :=
      .finish [] store stores [] company
    have hrecord : Step work ⟨stores, [work store], company⟩
        ⟨stores, [], company.record (work store)⟩ := .record stores [] (work store) [] company
    exact .head hfinish (.head hrecord (ih _))

/-! ## What is recorded -/

/-- What is recorded, what waits and what is to come are the compilations of the open stores. -/
def Accounts (work : Store → StoreCompilation) (r : Reference) (compiledAt : Timestamp)
    (s : FanOut) : Prop :=
  ∃ recorded : List StoreCompilation,
    s.company = recorded.foldl CompanyCompilation.record (start r compiledAt).company ∧
      (recorded ++ s.finished ++ s.running.map work).Perm (r.activeStores.map work)

theorem accounts_start : Accounts work r compiledAt (start r compiledAt) :=
  ⟨[], rfl, List.Perm.refl _⟩

theorem Accounts.step (h : Accounts work r compiledAt s) (hstep : Step work s t) :
    Accounts work r compiledAt t := by
  obtain ⟨recorded, hcompany, hperm⟩ := h
  cases hstep with
  | finish before store after finished company =>
    refine ⟨recorded, hcompany, List.Perm.trans ?_ hperm⟩
    simp only [List.map_append, List.map_cons, List.append_assoc, List.cons_append, List.nil_append]
    exact ((List.perm_middle.symm).append_left _).append_left _
  | record running before c after company =>
    refine ⟨recorded ++ [c], ?_, List.Perm.trans ?_ hperm⟩
    · rw [List.foldl_append, ← hcompany]
      rfl
    · simp only [List.append_assoc, List.cons_append, List.nil_append]
      exact List.perm_middle.symm.append_left _

theorem Accounts.run (h : Relation.ReflTransGen (Step work) (start r compiledAt) s) :
    Accounts work r compiledAt s := by
  induction h with
  | refl => exact accounts_start
  | tail _ hstep ih => exact ih.step hstep

/-- Whatever the order, in the end the company is what recording store after store gives. -/
theorem company_eq_foldl (hids : ((r.activeStores.map work).map (·.storeId)).Nodup)
    (h : Relation.ReflTransGen (Step work) (start r compiledAt) s) (hdone : s.IsDone) :
    s.company = (r.activeStores.map work).foldl CompanyCompilation.record
      { companyId := r.company.id, compiledAt } := by
  obtain ⟨recorded, hcompany, hperm⟩ := Accounts.run h
  rw [hdone.1, hdone.2, List.map_nil, List.append_nil, List.append_nil] at hperm
  rw [hcompany]
  exact (CompanyCompilation.foldl_record_perm CompanyCompilation.isCounted_empty hperm.symm
    hids).symm

end FanOut

/-! ## One store -/

section OneStore

variable {r : Reference} {id : StoreId} {store : Store}

theorem Reference.find?_activeStores (hids : (r.stores.map (·.id)).Nodup) :
    (r.activeStores.find? fun s => s.id = id) = some store ↔
      store ∈ r.stores ∧ store.id = id ∧ store.companyId = r.company.id ∧ store.isActive = true := by
  have hactive : (r.activeStores.map (·.id)).Nodup := hids.sublist (List.filter_sublist.map _)
  rw [Keyed.find?_eq_some_iff hactive, activeStores, List.mem_filter, Bool.and_eq_true,
    decide_eq_true_eq]
  constructor
  · rintro ⟨⟨hmem, hopen, hcompany⟩, hid⟩
    exact ⟨hmem, hid, hcompany, hopen⟩
  · rintro ⟨hmem, hid, hcompany, hopen⟩
    exact ⟨⟨hmem, hopen, hcompany⟩, hid⟩

theorem Reference.filter_store? (hids : (r.stores.map (·.id)).Nodup) :
    (r.store? id).filter (fun s => s.companyId = r.company.id) = some store ↔
      store ∈ r.stores ∧ store.id = id ∧ store.companyId = r.company.id := by
  rw [Option.filter_eq_some_iff, store?, Keyed.find?_eq_some_iff hids, decide_eq_true_eq, and_assoc]

theorem Reference.listsClosed_iff :
    r.listsClosed id = true ↔ ∃ store ∈ r.stores, store.id = id ∧
      store.companyId = r.company.id ∧ store.isActive = false := by
  simp only [listsClosed, List.any_eq_true, Bool.and_eq_true, decide_eq_true_eq,
    Bool.not_eq_true', and_assoc]

/-- To look for the store and then ask whether it is of the company and open comes to the same as to
look among the open stores of the company, if no two stores have the same identifier. -/
theorem Service.openStore_eq (hids : (r.stores.map (·.id)).Nodup) :
    openStore r id =
      match r.activeStores.find? fun s => s.id = id with
      | some store => .ok store
      | none => .error (if r.listsClosed id then .storeInactive id else .storeNotFound id) := by
  rw [openStore]
  cases hlisted : (r.store? id).filter fun s => s.companyId = r.company.id with
  | none =>
    have hnone : ∀ store ∈ r.stores, store.id = id → store.companyId ≠ r.company.id := by
      intro store hmem hid hcompany
      have hsome := (Reference.filter_store? hids).2 ⟨hmem, hid, hcompany⟩
      rw [hlisted] at hsome
      cases hsome
    have hactive : (r.activeStores.find? fun s => s.id = id) = none := by
      refine Option.eq_none_iff_forall_ne_some.2 fun store hfind => ?_
      obtain ⟨hmem, hid, hcompany, -⟩ := (Reference.find?_activeStores hids).1 hfind
      exact hnone store hmem hid hcompany
    have hclosed : ¬r.listsClosed id = true := by
      intro h
      obtain ⟨store, hmem, hid, hcompany, -⟩ := Reference.listsClosed_iff.1 h
      exact hnone store hmem hid hcompany
    rw [hactive]
    exact congrArg Except.error (if_neg hclosed).symm
  | some store =>
    obtain ⟨hmem, hid, hcompany⟩ := (Reference.filter_store? hids).1 hlisted
    by_cases hopen : store.isActive = true
    · rw [(Reference.find?_activeStores hids).2 ⟨hmem, hid, hcompany, hopen⟩]
      exact if_pos hopen
    · have hactive : (r.activeStores.find? fun s => s.id = id) = none := by
        refine Option.eq_none_iff_forall_ne_some.2 fun other hfind => ?_
        obtain ⟨hother, hotherId, -, hotherOpen⟩ := (Reference.find?_activeStores hids).1 hfind
        obtain rfl := List.inj_on_of_nodup_map hids hother hmem (hotherId.trans hid.symm)
        exact hopen hotherOpen
      have hclosed : r.listsClosed id = true :=
        Reference.listsClosed_iff.2 ⟨store, hmem, hid, hcompany, Bool.eq_false_iff.2 hopen⟩
      rw [hactive]
      exact (if_neg hopen).trans (congrArg Except.error (if_pos hclosed).symm)

end OneStore

/-! ## The company and its stores -/

namespace Compiler

variable {c : Compiler} {r : Reference} {promotions : List Promotion} {options : BatchOptions}

theorem compileForCompany_eq :
    c.compileForCompany r promotions options =
      (r.activeStores.map fun store => c.compileForStore store promotions options).foldl
        CompanyCompilation.record
        { companyId := r.company.id, compiledAt := options.compiledAt } := by
  rw [List.foldl_map]
  rfl

/-- Compiling one store after the other is one of the ways in which a company may be compiled. -/
theorem run_compileForCompany :
    Relation.ReflTransGen (FanOut.Step fun store => c.compileForStore store promotions options)
      (FanOut.start r options.compiledAt) ⟨[], [], c.compileForCompany r promotions options⟩ :=
  FanOut.run_foldl r.activeStores _

theorem nodup_storeIds (hids : (r.stores.map (·.id)).Nodup) :
    ((r.activeStores.map fun store => c.compileForStore store promotions options).map
      (·.storeId)).Nodup := by
  rw [List.map_map]
  exact hids.sublist (List.filter_sublist.map _)

/-- The company has for a store what is compiled for it, if it is one of the open ones. -/
theorem find?_compileForCompany (hids : (r.stores.map (·.id)).Nodup) (id : StoreId) :
    (c.compileForCompany r promotions options).stores.find? id =
      (r.activeStores.find? fun s => s.id = id).map fun store =>
        c.compileForStore store promotions options := by
  have hids' : ((r.activeStores.map fun store => c.compileForStore store promotions options).map
      (·.storeId)).Nodup := nodup_storeIds hids
  have hnone : (SortedMap.empty : SortedMap StoreId StoreCompilation).find? id = none := rfl
  rw [compileForCompany_eq, CompanyCompilation.find?_foldl_record, hnone, Option.or_none,
    Keyed.find?_perm (List.reverse_perm _) (by rwa [List.map_reverse, List.nodup_reverse]),
    List.find?_map]
  rfl

end Compiler

namespace Service

variable {f : Fixture} {r : Reference} {c : Compiler}

theorem compileStore_eq (hr : f.loadedReference = .ok r)
    (hc : Compiler.ofCode r.company.currency = .ok c) (id : StoreId) (options : BatchOptions) :
    compileStore f id options =
      (openStore r id).map fun store => c.compileForStore store f.promotions options := by
  rw [compileStore, reference, hr, ok_bind, compilerOf, hc, ok_bind]
  cases openStore r id with
  | error e => rfl
  | ok store => rfl

/-- Compiling for a company gives the same in whatever order its stores are finished, and never goes
on forever. What it has for a store is what compiling for that store alone gives, which fails for
the others: for those of the company that are not open because they are not, and for the rest
because there is none. -/
theorem compileCompany_spec (hr : f.loadedReference = .ok r)
    (hc : Compiler.ofCode r.company.currency = .ok c) (hids : (r.stores.map (·.id)).Nodup)
    (options : BatchOptions) :
    let work (store : Store) := c.compileForStore store f.promotions options
    let company := c.compileForCompany r f.promotions options
    compileCompany f options = .ok company ∧
    (∀ s, Relation.ReflTransGen (FanOut.Step work) (FanOut.start r options.compiledAt) s →
      (s.IsDone → s.company = company) ∧ (¬s.IsDone → ∃ t, FanOut.Step work s t)) ∧
    (∀ s t, FanOut.Step work s t → t.left < s.left) ∧
    ∀ id, compileStore f id options =
      match company.stores.find? id with
      | some compilation => .ok compilation
      | none => .error (if r.listsClosed id then .storeInactive id else .storeNotFound id) := by
  intro work company
  have hcompany : company = (r.activeStores.map work).foldl CompanyCompilation.record
      { companyId := r.company.id, compiledAt := options.compiledAt } := Compiler.compileForCompany_eq
  refine ⟨?_, fun s hrun => ⟨fun hdone => ?_, FanOut.exists_step⟩, fun s t => FanOut.Step.left_lt,
    fun id => ?_⟩
  · rw [compileCompany, reference, hr, ok_bind, compilerOf, hc, ok_bind]
    rfl
  · rw [hcompany]
    exact FanOut.company_eq_foldl (Compiler.nodup_storeIds hids) hrun hdone
  · rw [compileStore_eq hr hc, openStore_eq hids, Compiler.find?_compileForCompany hids]
    cases r.activeStores.find? fun s => s.id = id with
    | some store => rfl
    | none => rfl

end Service

/-- Two open stores of the company, one that is not open and one of another company. -/
def Sample.stores : List Store :=
  [store, { store with id := id 2 }, { store with id := id 3, isActive := false },
   { store with id := id 4, companyId := id 2 }]

/-- The company of these stores. -/
def Sample.chain : Reference where
  company := { id := id 1, name := "shop", currency := "IDR" }
  stores := stores

/-- The shop with these stores. -/
def Sample.chainFixture : Fixture := { fixture offers with reference := some chain }

/-- Of the two open stores the second may be finished first; there is nothing for the others. -/
theorem Service.compileCompany_spec_shop :
    let options : BatchOptions := { today := Sample.date }
    let work (store : Store) :=
      Sample.compiler.compileForStore store Sample.chainFixture.promotions options
    Sample.chainFixture.loadedReference = .ok Sample.chain ∧
    Compiler.ofCode Sample.chain.company.currency = .ok Sample.compiler ∧
    (Sample.chain.stores.map (·.id)).Nodup ∧
    (∃ s, Relation.ReflTransGen (FanOut.Step work) (FanOut.start Sample.chain .epoch) s ∧
      s.IsDone ∧ compileCompany Sample.chainFixture options = .ok s.company) ∧
    compileStore Sample.chainFixture (Sample.id 3) options = .error (.storeInactive (Sample.id 3)) ∧
    compileStore Sample.chainFixture (Sample.id 4) options = .error (.storeNotFound (Sample.id 4)) := by
  intro options work
  have hr : Sample.chainFixture.loadedReference = .ok Sample.chain := rfl
  have hc : Compiler.ofCode Sample.chain.company.currency = .ok Sample.compiler := rfl
  have hids : (Sample.chain.stores.map (·.id)).Nodup := by decide
  obtain ⟨hcompany, hruns, -, hstore⟩ := compileCompany_spec hr hc hids options
  let first : Store := Sample.store
  let second : Store := { first with id := Sample.id 2 }
  let company : CompanyCompilation := { companyId := Sample.id 1, compiledAt := .epoch }
  have hactive : Sample.chain.activeStores = [first, second] := by decide
  have hstart : FanOut.start Sample.chain .epoch = ⟨[first, second], [], company⟩ :=
    congrArg (FanOut.mk · [] company) hactive
  have hrun : Relation.ReflTransGen (FanOut.Step work) (FanOut.start Sample.chain .epoch)
      ⟨[], [], (company.record (work second)).record (work first)⟩ := by
    rw [hstart]
    refine .head (.finish [first] second [] [] company) ?_
    refine .head (.finish [] first [] [work second] company) ?_
    refine .head (.record [] [] (work second) [work first] company) ?_
    exact .single (.record [] [] (work first) [] _)
  have hdone := (hruns _ hrun).1 ⟨rfl, rfl⟩
  refine ⟨hr, hc, hids, ⟨_, hrun, ⟨rfl, rfl⟩, by rw [hdone]; exact hcompany⟩, ?_, ?_⟩
  · rw [hstore, Compiler.find?_compileForCompany hids, hactive]
    rfl
  · rw [hstore, Compiler.find?_compileForCompany hids, hactive]
    rfl

end Promotions

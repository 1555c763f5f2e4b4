import Promotions.Proofs.Compile.Documents
import Promotions.Proofs.Compile.Settings
import Promotions.Proofs.Eligibility.Ordinary
import Promotions.Proofs.Resolution.Order

/-!
# Proofs: what a store holds

A batch for a store selects promotions by what they say of dates, stores and brands; a bill is judged
by what their documents say of them. The two agree, so a promotion that the batch leaves out would
reject every bill of that store and day, and one that it holds never rejects such a bill for its
date, store or brand. Judging the bill by the batch of its store therefore decides the same as judging
it by everything the company has.
-/

namespace Promotions

open Fallible Judged StableOrder

/-- The documents of the promotions of a company that are switched on and compile, as they come. -/
def Compiler.companyDocuments (c : Compiler) (company : CompanyId) (promotions : List Promotion)
    (compiledAt : Timestamp) : List Document :=
  (promotions.filter fun p => p.isActive && decide (p.companyId = company)).filterMap fun p =>
    (c.compile p compiledAt).toOption

/-- The document is for a store of a brand on a date. -/
def Document.covers (d : Document) (store : StoreId) (brand : BrandId) (date : Date) : Bool :=
  d.validity.coversDate date && d.scope.stores.includes store && d.scope.coversBrand brand

/-! ## Selection -/

namespace Compiler

variable {c : Compiler} {p : Promotion} {d : Document}

theorem Compiles.coversDate (h : Compiles p d) (date : Date) :
    d.validity.coversDate date = p.isCalendarActive date := by
  have hvalidity := h.validity
  rw [Promotion.validity] at hvalidity
  split at hvalidity
  · cases hvalidity
  · obtain ⟨window, -, hvalidity⟩ := bind_eq_ok_iff.1 hvalidity
    obtain ⟨days, -, hvalidity⟩ := bind_eq_ok_iff.1 hvalidity
    rw [← pure_eq_ok_iff.1 hvalidity]
    rfl

theorem Compiles.includes (h : Compiles p d) (store : StoreId) :
    d.scope.stores.includes store = (p.allStores || decide (store ∈ p.stores)) := by
  obtain ⟨stores, hstores, hscope⟩ := bind_eq_ok_iff.1 h.scope
  obtain ⟨brands, -, hscope⟩ := bind_eq_ok_iff.1 hscope
  rw [← pure_eq_ok_iff.1 hscope]
  rw [Promotion.storeScope] at hstores
  split at hstores
  · rename_i hall
    rw [← Except.ok.inj hstores, hall]
    rfl
  · rename_i hlisted
    split at hstores
    · cases hstores
    · rw [← Except.ok.inj hstores, Bool.eq_false_iff.2 hlisted]
      rfl

theorem Compiles.coversBrand (h : Compiles p d) (brand : BrandId) :
    d.scope.coversBrand brand = p.coversBrand brand := by
  obtain ⟨stores, -, hscope⟩ := bind_eq_ok_iff.1 h.scope
  obtain ⟨brands, hbrands, hscope⟩ := bind_eq_ok_iff.1 hscope
  rw [← pure_eq_ok_iff.1 hscope, Scope.coversBrand, Promotion.coversBrand]
  by_cases hexcluded : brand ∈ p.excludeBrands
  · simp [hexcluded]
  · rw [if_neg hexcluded, decide_eq_false hexcluded, Bool.not_false, Bool.true_and]
    rw [Promotion.brandCoverage] at hbrands
    cases hkind : p.brandScope with
    | company =>
      rw [hkind] at hbrands
      rw [← Except.ok.inj hbrands]
    | brands =>
      rw [hkind] at hbrands
      dsimp only at hbrands
      split at hbrands
      · cases hbrands
      · rw [← Except.ok.inj hbrands]
    | single =>
      rw [hkind] at hbrands
      obtain ⟨single, hsingle, hlisted⟩ := map_eq_ok_iff.1 hbrands
      rw [← hlisted, Setting.require_eq_ok_iff.1 hsingle]
      simp [SortedSet.mem_ofList, eq_comm]

variable {store : Store} {promotions : List Promotion} {today : Date} {compiledAt : Timestamp}

/-- A promotion of the company is selected for a store if its document is for it. -/
theorem Compiles.isSelected (h : Compiles p d) :
    p.isSelected store { today, compiledAt, window := .currentOnly } =
      ((p.isActive && decide (p.companyId = store.companyId)) &&
        d.covers store.id store.brandId today) := by
  have hdate : SelectionWindow.currentOnly.selects p.startDate p.endDate today =
      p.isCalendarActive today := rfl
  rw [Promotion.isSelected, Promotion.appliesToStore, hdate, Document.covers, h.coversDate,
    h.includes, h.coversBrand]
  ac_rfl

theorem documents_compileForStore :
    (c.compileForStore store promotions { today, compiledAt, window := .currentOnly }).documents =
      Document.inOrder (((c.companyDocuments store.companyId promotions compiledAt).filter
        (·.covers store.id store.brandId today)).map fun d =>
          { d with storeId := some store.id }) := by
  rw [documents_eq, companyDocuments, List.filterMap_filter, List.filter_filterMap,
    List.map_filterMap]
  refine congrArg Document.inOrder (List.filterMap_congr fun p _ => ?_)
  rw [documentAt?]
  cases hcompile : c.compile p compiledAt with
  | error e => simp [Except.toOption]
  | ok d =>
    rw [(compiles_of_compile hcompile).isSelected]
    by_cases hcompany : (p.isActive && decide (p.companyId = store.companyId)) = true
    · by_cases hcovers : d.covers store.id store.brandId today = true <;>
        simp [Except.toOption, hcompany, hcovers]
    · simp [hcompany]

end Compiler

/-! ## What is considered of a stage -/

/-- The candidate that a document comes to, if the bill is eligible for it. -/
def Document.candidate? (ctx : Context) (d : Document) : Option Candidate :=
  (d.evaluate ctx).grant?.map fun grant => ⟨d.evaluate ctx, grant⟩

/-- A document ranks as the candidate it comes to. -/
theorem Document.notAfter_of_candidate? {ctx : Context} {d e : Document} {a b : Candidate}
    (ha : d.candidate? ctx = some a) (hb : e.candidate? ctx = some b) :
    d.notAfter e = a.notLater b := by
  obtain ⟨grant, -, rfl⟩ := Option.map_eq_some_iff.1 ha
  obtain ⟨grant', -, rfl⟩ := Option.map_eq_some_iff.1 hb
  rfl

theorem Document.isRanking_notAfter : IsRanking notAfter :=
  -- neither the bill nor what is granted for it has a part in the rank
  let grant : Grant := { discount := 0, affected := [] }
  Candidate.isRanking_notLater.comap fun d : Document =>
    ⟨⟨d.id, d.code, d.rule.archetype, d.currency, d.conflict, .eligible grant⟩, grant⟩

namespace Outcome

variable {ctx : Context} {documents : List Document} {stage : Stage}

/-- The candidates of a stage in the order in which they are considered. -/
def considered (documents : List Document) (ctx : Context) (stage : Stage) : List Candidate :=
  Candidate.inOrder (Candidate.ofResults stage (evaluateStage documents ctx stage))

theorem considered_eq (documents : List Document) (ctx : Context) (stage : Stage) :
    considered documents ctx stage =
      (((documents.filter fun d => d.conflict.stage = stage).filterMap
        (·.candidate? ctx)).mergeSort Candidate.notLater).filter
          fun c => c.result.conflict.stage = stage := by
  rw [considered, Candidate.inOrder_ofResults, Candidate.eligible, evaluateStage,
    List.filterMap_map]
  rfl

/-- Documents may be put in order beforehand, since candidates are. -/
theorem considered_inOrder (documents : List Document) (ctx : Context) (stage : Stage) :
    considered (Document.inOrder documents) ctx stage = considered documents ctx stage := by
  have hranking := Document.isRanking_notAfter
  rw [considered_eq, considered_eq, Document.inOrder, hranking.filter_mergeSort,
    hranking.filterMap_mergeSort fun d e a b => Document.notAfter_of_candidate?,
    List.mergeSort_of_pairwise (Candidate.isRanking_notLater.pairwise_mergeSort _)]

/-- Documents of which the bill is not eligible may be left out. -/
theorem considered_filter {keep : Document → Bool}
    (hkeep : ∀ d ∈ documents, (d.candidate? ctx).isSome = true → keep d = true) :
    considered (documents.filter keep) ctx stage = considered documents ctx stage := by
  rw [considered_eq, considered_eq, List.filterMap_filter, List.filterMap_filter,
    List.filterMap_filter]
  have hsame : ∀ d ∈ documents,
      (if keep d then if decide (d.conflict.stage = stage) then d.candidate? ctx else none
        else none) = if decide (d.conflict.stage = stage) then d.candidate? ctx else none := by
    intro d hd
    cases hcandidate : d.candidate? ctx with
    | none => simp
    | some c => rw [if_pos (hkeep d hd (by rw [hcandidate]; rfl))]
  rw [List.filterMap_congr hsame]

/-- The store that a document was compiled for has no part in what is considered. -/
theorem considered_map_store (store : StoreId) :
    considered (documents.map fun d => { d with storeId := some store }) ctx stage =
      considered documents ctx stage := by
  rw [considered_eq, considered_eq, List.filter_map, List.filterMap_map]
  rfl

end Outcome

/-- Where the same candidates are considered in each stage, the same is decided. -/
theorem applyPromotions_congr {ds es : List Document} {ctx : Context}
    (h : ∀ priorDiscount stage, Outcome.considered ds { ctx with priorDiscount } stage =
      Outcome.considered es { ctx with priorDiscount } stage) :
    (applyPromotions ds ctx).map (·.resolution) = (applyPromotions es ctx).map (·.resolution) := by
  have hstep : ∀ (p q : Outcome.Progress) (stage : Stage), p.resolver = q.resolver →
      Alike (fun p q => p.resolver = q.resolver) (Outcome.step ds ctx p stage)
        (Outcome.step es ctx q stage) := by
    intro p q stage hresolver
    rw [Outcome.step, Outcome.step, hresolver]
    refine (Alike.refl (ctx.priorDiscount.add q.resolver.billDiscount)).bind ?_
    rintro priorDiscount _ rfl
    have hstage : q.resolver.afterStage stage
          (Outcome.evaluateStage ds { ctx with priorDiscount } stage) =
        q.resolver.afterStage stage
          (Outcome.evaluateStage es { ctx with priorDiscount } stage) := by
      rw [Resolver.afterStage_eq_run, Resolver.afterStage_eq_run]
      exact congrArg q.resolver.run (h priorDiscount stage)
    dsimp only
    rw [hstage]
    refine (Alike.refl (q.resolver.afterStage stage _)).bind ?_
    rintro r _ rfl
    exact Alike.ok rfl
  refine Alike.map_eq (R := fun out out' => out.resolution = out'.resolution) ?_ fun _ _ => id
  rw [applyPromotions, applyPromotions]
  refine (Alike.refl (Resolver.start ctx.bill)).bind ?_
  rintro r _ rfl
  have hstages : Alike (fun p q => p.resolver = q.resolver)
      (Stage.inOrder.foldlM (Outcome.step ds ctx) { resolver := r })
      (Stage.inOrder.foldlM (Outcome.step es ctx) { resolver := r }) :=
    Alike.foldlM hstep Stage.inOrder rfl
  refine hstages.bind ?_
  intro p q hresolver
  exact Alike.ok (congrArg (·.resolution) hresolver)

/-! ## The batch of a store -/

theorem Document.covers_of_candidate? {d : Document} {ctx : Context}
    (h : (d.candidate? ctx).isSome = true) :
    d.covers ctx.bill.storeId ctx.bill.brandId ctx.bill.localTime.date = true := by
  obtain ⟨c, hc⟩ := Option.isSome_iff_exists.1 h
  obtain ⟨grant, hgrant, -⟩ := Option.map_eq_some_iff.1 hc
  obtain ⟨lines, hpasses, -⟩ := judge_eq_ok_iff.1 (grant?_evaluate.1 hgrant)
  obtain ⟨hstore, hbrand⟩ := includes_of_scopeGate hpasses.scope
  rw [covers, coversDate_of_validityGate hpasses.validity, hstore, hbrand]
  rfl

/-- A document that is for the store, the brand and the day of a bill rejects it for other
reasons. -/
theorem Document.isBeyondPlace_of_covers {d : Document} (ctx : Context) {reason : Reason}
    (hcovers : d.covers ctx.bill.storeId ctx.bill.brandId ctx.bill.localTime.date = true)
    (h : (d.evaluate ctx).reason? = some reason) : reason.IsBeyondPlace := by
  rw [covers, Bool.and_eq_true, Bool.and_eq_true] at hcovers
  obtain ⟨⟨hdate, hstore⟩, hbrand⟩ := hcovers
  exact rejectsFor_judge hdate hstore hbrand reason (reason?_evaluate.1 h)

theorem Outcome.isBeyondPlace_of_covers {documents : List Document} {ctx : Context} {out : Outcome}
    (hcovers : ∀ d ∈ documents,
      d.covers ctx.bill.storeId ctx.bill.brandId ctx.bill.localTime.date = true)
    (h : applyPromotions documents ctx = .ok out) :
    ∀ result ∈ out.results, ∀ reason, result.reason? = some reason → reason.IsBeyondPlace := by
  intro result hresult reason hreason
  obtain ⟨d, hd, priorDiscount, -, hevaluate⟩ :=
    Correspondence.exists_left (applyPromotions_spec h).2 hresult
  rw [hevaluate] at hreason
  have hmem := (Document.inStageOrder_perm documents).mem_iff.1 hd
  exact Document.isBeyondPlace_of_covers { ctx with priorDiscount } (hcovers d hmem) hreason

/-- For a bill of a store, the batch of the store on the day of the bill decides what all documents
of the company decide, and what the batch holds is not rejected for its date, store or brand. -/
theorem applyPromotions_compileForStore (c : Compiler) (store : Store) (promotions : List Promotion)
    (compiledAt : Timestamp) (ctx : Context) (hstore : ctx.bill.storeId = store.id)
    (hbrand : ctx.bill.brandId = store.brandId) :
    let batch := c.compileForStore store promotions
      { today := ctx.bill.localTime.date, compiledAt, window := .currentOnly }
    let company := c.companyDocuments store.companyId promotions compiledAt
    (applyPromotions batch.documents ctx).map (·.resolution) =
        (applyPromotions company ctx).map (·.resolution) ∧
      ∀ out, applyPromotions batch.documents ctx = .ok out → ∀ result ∈ out.results,
        result.reason? ≠ some .outsideDateRange ∧ result.reason? ≠ some .storeNotInScope ∧
          result.reason? ≠ some .brandNotInScope := by
  dsimp only
  rw [Compiler.documents_compileForStore, ← hstore, ← hbrand]
  constructor
  · refine applyPromotions_congr fun priorDiscount stage => ?_
    rw [Outcome.considered_inOrder, Outcome.considered_map_store]
    refine Outcome.considered_filter fun d _ hcandidate => ?_
    have hcovers := Document.covers_of_candidate? hcandidate
    exact hcovers
  · intro out hout result hresult
    have hbeyond := Outcome.isBeyondPlace_of_covers (fun d hd => ?_) hout result hresult
    · refine ⟨fun h => ?_, fun h => ?_, fun h => ?_⟩
      · exact (hbeyond _ h).1 rfl
      · exact (hbeyond _ h).2.1 rfl
      · exact (hbeyond _ h).2.2 rfl
    · rw [Document.inOrder, List.mem_mergeSort] at hd
      obtain ⟨e, he, rfl⟩ := List.mem_map.1 hd
      exact (List.mem_filter.1 he).2

namespace Sample

/-- The store of the bill. -/
def store : Store where
  id := id 1
  companyId := id 1
  brandId := id 1
  code := "S"

/-- An offer at the store and one at another store. -/
def offers : List Promotion :=
  [offer 1 "A" 10, { offer 2 "B" 20 with allStores := false, stores := .ofList [id 2] }]

end Sample

/-- The shop decides the same without the offer of another store. -/
theorem applyPromotions_compileForStore_shop :
    let batch := Sample.compiler.compileForStore Sample.store Sample.offers
      { today := Sample.date, compiledAt := .epoch, window := .currentOnly }
    let company := Sample.compiler.companyDocuments Sample.store.companyId Sample.offers .epoch
    Sample.bill.storeId = Sample.store.id ∧ Sample.bill.brandId = Sample.store.brandId ∧
      batch.documents.map (·.code) = ["A"] ∧ company.map (·.code) = ["A", "B"] ∧
      (applyPromotions batch.documents Sample.context).map (·.resolution) =
        (applyPromotions company Sample.context).map (·.resolution) := by
  have hdecides := applyPromotions_compileForStore Sample.compiler Sample.store Sample.offers .epoch
    Sample.context rfl rfl
  refine ⟨rfl, rfl, ?_, ?_, hdecides.1⟩
  · decide +kernel
  · decide +kernel

end Promotions

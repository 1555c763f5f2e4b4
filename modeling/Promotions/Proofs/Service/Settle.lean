import Promotions.Proofs.Batch.Store
import Promotions.Proofs.Compile.Documents
import Promotions.Proofs.Eligibility.Gates
import Promotions.Proofs.Ledger.Alone
import Promotions.Proofs.Resolution.Removal
import Promotions.Service

/-!
# Proofs: settling a bill

A promotion that is applied has passed the gate of limits, which was shown the counts of the ledger
as they are when its uses are counted. So each of its counters has room for one more use: nothing is
refused, every applied promotion is recorded, and no other counter is touched.
-/

namespace Promotions

open Fallible

/-! ## What is applied passed the gates -/

theorem applyPromotions_applied_passes {documents : List Document} {ctx : Context} {out : Outcome}
    (h : applyPromotions documents ctx = .ok out) {id : PromotionId}
    (hid : id ∈ out.resolution.applied.map (·.promotionId)) :
    ∃ d ∈ documents, d.id = id ∧ ∃ priorDiscount lines, d.Passes { ctx with priorDiscount } lines := by
  obtain ⟨a, ha, rfl⟩ := List.mem_map.1 hid
  obtain ⟨hresolve, hall⟩ := applyPromotions_spec h
  obtain ⟨c, hc, hgrants⟩ := Correspondence.exists_left (resolve_applied hresolve) ha
  obtain ⟨hresult, hgrant⟩ :=
    Candidate.mem_considered_iff.1 ((takenFrom_sublist hresolve).subset hc)
  obtain ⟨d, hd, priorDiscount, -, hevaluate⟩ := Correspondence.exists_left hall hresult
  rw [hevaluate] at hgrant
  obtain ⟨lines, hpasses, -⟩ := Document.judge_eq_ok_iff.1 (Document.grant?_evaluate.1 hgrant)
  refine ⟨d, (Document.inStageOrder_perm documents).mem_iff.1 hd, ?_, priorDiscount, lines, hpasses⟩
  rw [hgrants.entry]
  exact (congrArg EligibilityResult.promotionId hevaluate).symm

/-! ## What the gate of limits is shown -/

namespace Ledger

variable {documents : List Document} {d : Document}

/-- A promotion with a limit has its uses in the snapshot, those of a document with its
identifier. -/
theorem find?_snapshot (l : Ledger) (bill : Bill) (hd : d ∈ documents) (hlimited : d.limits.isUnlimited = false) :
    ∃ e ∈ documents, e.id = d.id ∧
      (l.snapshot documents bill).find? d.id = some (l.usageOf bill e) := by
  rw [snapshot, SortedMap.find?_ofList]
  have hmem : (d.id, l.usageOf bill d) ∈ ((documents.filter fun d => !d.limits.isUnlimited).map
      fun d => (d.id, l.usageOf bill d)).reverse :=
    List.mem_reverse.2 (List.mem_map.2 ⟨d, List.mem_filter.2 ⟨hd, by simp [hlimited]⟩, rfl⟩)
  obtain ⟨entry, hentry⟩ := Option.isSome_iff_exists.1
    ((List.find?_isSome (p := fun e => decide (e.1 = d.id))).2 ⟨_, hmem, decide_eq_true rfl⟩)
  have hkey : entry.1 = d.id := by simpa using List.find?_some hentry
  obtain ⟨e, he, rfl⟩ := List.mem_map.1 (List.mem_reverse.1 (List.mem_of_find?_eq_some hentry))
  exact ⟨e, (List.mem_filter.1 he).1, hkey, by rw [hentry]; rfl⟩

end Ledger

theorem Document.usageSeen_snapshot {d : Document} {ctx : Context} {l : Ledger}
    {documents : List Document} (husage : ctx.usage = some (l.snapshot documents ctx.bill))
    (hd : d ∈ documents) (hlimited : d.limits.isUnlimited = false) :
    ∃ e ∈ documents, e.id = d.id ∧ d.usageSeen ctx = l.usageOf ctx.bill e := by
  obtain ⟨e, he, hid, hfind⟩ := Ledger.find?_snapshot l ctx.bill hd hlimited
  exact ⟨e, he, hid, by simp [usageSeen, husage, hfind]⟩

theorem Bill.mem_usageScopes_iff {bill : Bill} {scope : UsageScope} :
    scope ∈ bill.usageScopes ↔ scope = .total ∨ scope = .day bill.localTime.date ∨
      ∃ member, bill.member = some member ∧ scope = .customer member.id := by
  cases h : bill.member <;> simp [usageScopes, h]

theorem Limits.isUnlimited_eq_false {limits : Limits} (scope : UsageScope) {limit : Count}
    (h : limits.on scope = some limit) : limits.isUnlimited = false := by
  cases scope <;> simp_all [on, isUnlimited]

theorem Count.max_lt_iff {a b c : Count} : max a b < c ↔ a < c ∧ b < c := by
  have hmax : (max a b).toNat = max a.toNat b.toNat := by
    show (if a ≤ b then b else a).toNat = _
    split <;> simp_all only [UInt32.le_iff_toNat_le] <;> omega
  rw [UInt32.lt_iff_toNat_lt, UInt32.lt_iff_toNat_lt, UInt32.lt_iff_toNat_lt, hmax]
  exact Nat.max_lt

/-- Where documents have an identifier each, every counter of one that passes has room. -/
theorem Document.Passes.room {d : Document} {ctx : Context} {lines : EligibleLines} {l : Ledger}
    {documents : List Document} (hpasses : d.Passes ctx lines)
    (husage : ctx.usage = some (l.snapshot documents ctx.bill)) (hd : d ∈ documents)
    (hids : (documents.map (·.id)).Nodup) {scope : UsageScope}
    (hscope : scope ∈ ctx.bill.usageScopes) {limit : Count} (hlimit : d.limits.on scope = some limit) :
    l.count ⟨d.id, scope⟩ < limit := by
  obtain ⟨htotal, hday, hcustomer⟩ := limitGate_eq_ok_iff.1 hpasses.limit
  obtain ⟨e, he, hid, hseen⟩ :=
    usageSeen_snapshot husage hd (Limits.isUnlimited_eq_false scope hlimit)
  obtain rfl : e = d := List.inj_on_of_nodup_map hids he hd hid
  rw [hseen] at htotal hday hcustomer
  rcases Bill.mem_usageScopes_iff.1 hscope with rfl | rfl | ⟨member, hmember, rfl⟩
  · exact (Count.max_lt_iff.1 (isBelow_iff.1 htotal limit hlimit)).1
  · exact isBelow_iff.1 hday limit hlimit
  · have hbelow := isBelow_iff.1 (hcustomer (by rw [hmember]; rfl)) limit hlimit
    rwa [Ledger.usageOf, hmember] at hbelow

/-! ## What settling goes through -/

namespace Service

variable {f : Fixture} {l l' : Ledger} {request : EvaluationRequest} {j : Judgement}
  {settled : SettledBill}

/-- What a judgement is made of: the bill, what a store would hold of the promotions, and what comes
of them when the ledger is as it is. -/
structure Judges (f : Fixture) (l : Ledger) (request : EvaluationRequest) (j : Judgement) :
    Prop where
  bill : f.bill request.bill = .ok j.bill
  documents : ∃ (c : Compiler) (store : Store) (options : BatchOptions),
    j.documents = (c.compileForStore store f.promotions options).documents
  outcome : ∃ ctx : Context, ctx.bill = j.bill ∧
    ctx.usage = some (l.snapshot j.documents ctx.bill) ∧ applyPromotions j.documents ctx = .ok j.outcome

theorem bill_of_billOf {key : String} {bill : Bill} (h : billOf f key = .ok bill) :
    f.bill key = .ok bill := by
  rw [billOf] at h
  split at h
  · rename_i bill' hbill
    rw [hbill, Except.ok.inj h]
  · cases h

theorem judges_of_judge (h : judge f l request = .ok j) : Judges f l request j := by
  obtain ⟨bill, hbill, h⟩ := bind_eq_ok_iff.1 h
  obtain ⟨customer, -, h⟩ := bind_eq_ok_iff.1 h
  obtain ⟨reference, -, h⟩ := bind_eq_ok_iff.1 h
  obtain ⟨compilation, hcompilation, h⟩ := bind_eq_ok_iff.1 h
  obtain ⟨reference', -, hcompilation⟩ := bind_eq_ok_iff.1 hcompilation
  obtain ⟨c, -, hcompilation⟩ := bind_eq_ok_iff.1 hcompilation
  obtain ⟨store, -, hcompilation⟩ := bind_eq_ok_iff.1 hcompilation
  obtain rfl := pure_eq_ok_iff.1 hcompilation
  dsimp only at h
  split at h
  · rename_i outcome houtcome
    obtain rfl := pure_eq_ok_iff.1 h
    exact ⟨bill_of_billOf hbill, ⟨c, store, _, rfl⟩, _, rfl, rfl, houtcome⟩
  · cases h

/-- The promotions that a judgement applies, in their order. -/
def appliedIds (j : Judgement) : List PromotionId :=
  j.outcome.resolution.applied.map (·.promotionId)

theorem settle_eq_ok (h : settle f l request = .ok (settled, l')) :
    ∃ j, Judges f l request j ∧ settled.evaluation = j.evaluation ∧
      l.record j.documents j.bill (appliedIds j) = (l', settled.redemption) := by
  obtain ⟨j, hj, h⟩ := bind_eq_ok_iff.1 h
  obtain ⟨rfl, rfl⟩ := Prod.mk.inj (pure_eq_ok_iff.1 h)
  exact ⟨j, judges_of_judge hj, rfl, rfl⟩

namespace Judges

/-- A promotion that is applied has a document that passed with the ledger as it was. -/
theorem exists_passes (hj : Judges f l request j) {id : PromotionId} (hid : id ∈ appliedIds j) :
    ∃ d ∈ j.documents, d.id = id ∧ ∃ (ctx : Context) (lines : EligibleLines),
      ctx.bill = j.bill ∧ ctx.usage = some (l.snapshot j.documents ctx.bill) ∧
        d.Passes ctx lines := by
  obtain ⟨ctx, hbill, husage, happly⟩ := hj.outcome
  obtain ⟨d, hd, hdid, priorDiscount, lines, hpasses⟩ := applyPromotions_applied_passes happly hid
  exact ⟨d, hd, hdid, { ctx with priorDiscount }, lines, hbill, husage, hpasses⟩

theorem nodup_ids (hj : Judges f l request j) (hids : (f.promotions.map (·.id)).Nodup) :
    (j.documents.map (·.id)).Nodup := by
  obtain ⟨c, store, options, hdocuments⟩ := hj.documents
  rw [hdocuments]
  exact Compiler.nodup_ids_compileForStore hids

theorem nodup_appliedIds (hj : Judges f l request j) (hids : (f.promotions.map (·.id)).Nodup) :
    (appliedIds j).Nodup := by
  obtain ⟨ctx, -, -, happly⟩ := hj.outcome
  obtain ⟨ids, hperm, hsub⟩ := applyPromotions_subperm happly
  have hnodup := hperm.nodup_iff.1 ((hj.nodup_ids hids).sublist hsub)
  exact (List.nodup_append.1 hnodup).1

/-- Every use that is going to be counted has room. -/
theorem room (hj : Judges f l request j) (hids : (f.promotions.map (·.id)).Nodup) :
    ∀ c ∈ (Recording.start j.documents j.bill (appliedIds j)).left, ∀ limit,
      c.limit = some limit → l.count c.counter < limit := by
  intro c hc limit hlimit
  obtain ⟨d, hd, hid, hc⟩ := Recording.mem_counters_of_mem_left hc
  -- the document by which a promotion is counted is the one that passed
  obtain ⟨e, he, heid, ctx, lines, hbill, husage, hpasses⟩ := hj.exists_passes hid
  obtain rfl : e = d := List.inj_on_of_nodup_map (hj.nodup_ids hids) he hd heid
  obtain ⟨hpromotion, hscope, hon⟩ := Document.mem_counters_iff.1 hc
  have hbelow := hpasses.room husage hd (hj.nodup_ids hids) (hbill ▸ hscope) (hon ▸ hlimit)
  rwa [← hpromotion] at hbelow

end Judges

/-- Settling counts every promotion that is applied, once, by all scopes of the bill, and nothing
else. -/
theorem settle_counts_applied (hids : (f.promotions.map (·.id)).Nodup)
    (h : settle f l request = .ok (settled, l')) :
    ∃ bill, f.bill request.bill = .ok bill ∧ settled.redemption.refused = [] ∧
      settled.redemption.recorded =
        settled.evaluation.outcome.resolution.applied.map (·.promotionId) ∧
      ∀ k, l'.count k =
        if settled.evaluation.outcome.resolution.isApplied k.promotion = true ∧
            k.scope ∈ bill.usageScopes then Count.addSat (l.count k) 1
        else l.count k := by
  obtain ⟨j, hj, hevaluation, hrecord⟩ := settle_eq_ok h
  have houtcome : settled.evaluation.outcome = j.outcome := congrArg (·.outcome) hevaluation
  have hdocument : ∀ id ∈ appliedIds j, ∃ d ∈ j.documents, d.id = id := by
    intro id hid
    obtain ⟨d, hd, hdid, -⟩ := hj.exists_passes hid
    exact ⟨d, hd, hdid⟩
  have hnodup := Recording.nodup_counters (hj.nodup_appliedIds hids) j.bill
  have hcounters := Recording.counters_start hdocument j.bill
  rw [Ledger.record, Recording.run_of_room (by rwa [hcounters]) (hj.room hids), hcounters,
    Recording.promotions_start hdocument j.bill] at hrecord
  obtain ⟨rfl, hredemption⟩ := Prod.mk.inj hrecord
  refine ⟨j.bill, hj.bill, ?_, ?_, fun k => ?_⟩
  · rw [← hredemption]
    rfl
  · rw [← hredemption, houtcome]
    rfl
  · have hmem : (k ∈ (appliedIds j).flatMap fun id =>
          j.bill.usageScopes.map fun scope => Counter.mk id scope) ↔
        settled.evaluation.outcome.resolution.isApplied k.promotion = true ∧
          k.scope ∈ j.bill.usageScopes := by
      rw [houtcome, Resolution.isApplied_iff, ← appliedIds, List.mem_flatMap]
      constructor
      · rintro ⟨id, hid, hk⟩
        obtain ⟨scope, hscope, rfl⟩ := List.mem_map.1 hk
        exact ⟨hid, hscope⟩
      · rintro ⟨hid, hscope⟩
        exact ⟨k.promotion, hid, List.mem_map.2 ⟨k.scope, hscope, rfl⟩⟩
    rw [Ledger.count_countAll hnodup]
    exact if_congr hmem rfl rfl

end Service

namespace Sample

/-- An offer that may be used twice, and had been used once when it was compiled. -/
def twice : Promotion := { offer 1 "A" 10 with maxUses := some 2, currentUses := 1 }

/-- The shop with some promotions, and the bill under a key. -/
def fixture (promotions : List Promotion) : Fixture where
  reference := some
    { company := { id := id 1, name := "shop", currency := "IDR" }
      stores := [store] }
  promotions := promotions
  bills := .ofList [("bill", bill)]

/-- The bill of the shop is settled. -/
def request : EvaluationRequest := { bill := "bill" }

end Sample

/-- The offer is recorded, and its uses in all are counted from nothing to one. -/
theorem Service.settle_counts_applied_shop :
    ((Sample.fixture [Sample.twice]).promotions.map (·.id)).Nodup ∧
      ∃ settled l', settle (Sample.fixture [Sample.twice]) .empty Sample.request =
          .ok (settled, l') ∧
        settled.redemption = { recorded := [Sample.id 1] } ∧
        l'.count ⟨Sample.id 1, .total⟩ = 1 := by
  have hids : ((Sample.fixture [Sample.twice]).promotions.map (·.id)).Nodup := List.nodup_singleton _
  have hok : (settle (Sample.fixture [Sample.twice]) .empty Sample.request).toOption.map
      (·.1.redemption) = some { recorded := [Sample.id 1] } := by
    decide +kernel
  refine ⟨hids, ?_⟩
  cases h : settle (Sample.fixture [Sample.twice]) .empty Sample.request with
  | error e =>
    rw [h] at hok
    cases hok
  | ok result =>
    obtain ⟨settled, l'⟩ := result
    rw [h] at hok
    have hredemption : settled.redemption = { recorded := [Sample.id 1] } := Option.some.inj hok
    obtain ⟨bill, -, -, hrecorded, hcount⟩ := settle_counts_applied hids h
    refine ⟨settled, l', rfl, hredemption, ?_⟩
    have happlied : settled.evaluation.outcome.resolution.isApplied (Sample.id 1) = true := by
      rw [Resolution.isApplied_iff, ← hrecorded, hredemption]
      exact List.mem_singleton_self _
    rw [hcount, if_pos ⟨happlied, bill.total_mem_usageScopes⟩]
    decide

end Promotions

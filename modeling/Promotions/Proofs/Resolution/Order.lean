import Promotions.Proofs.Resolution.Stages
import Promotions.Proofs.StableOrder

/-!
# Proofs: the order of consideration

Within a stage candidates are sorted stably by priority and code; all stages together are one
stable sort by stage, priority and code. Where no two documents tie on these three, the order in
which documents come is forgotten before anything is decided, and nothing that is decided later
brings it back: not the amounts, not the reasons, not what later stages see, and not an error.
-/

namespace Promotions

open Fallible StableOrder

/-- What the turn of a promotion is determined by. -/
abbrev Turn := Stage × UInt16 × String

/-- The turn of a document. -/
def Document.turn (d : Document) : Turn := (d.conflict.stage, d.conflict.executionPriority, d.code)

/-- The turn of a result. -/
def EligibilityResult.turn (r : EligibilityResult) : Turn :=
  (r.conflict.stage, r.conflict.executionPriority, r.code)

/-! ## Ranking candidates -/

namespace Candidate

/-- The candidates among results, as they come. -/
def eligible (results : List EligibilityResult) : List Candidate :=
  results.filterMap fun r => r.grant?.map fun grant => ⟨r, grant⟩

/-- `a` is considered no later than `b`, whatever their stages. -/
def notLater (a b : Candidate) : Bool :=
  let p := a.result.conflict.stage.rank
  let q := b.result.conflict.stage.rank
  decide (p < q) || (p == q && notAfter a b)

theorem notAfter_iff {a b : Candidate} :
    notAfter a b = true ↔
      a.result.conflict.executionPriority.toNat < b.result.conflict.executionPriority.toNat ∨
      a.result.conflict.executionPriority.toNat = b.result.conflict.executionPriority.toNat ∧
        Ordered.before b.result.code a.result.code = false := by
  simp [notAfter, UInt16.lt_iff_toNat_lt, ← UInt16.toNat_inj]

theorem notLater_iff {a b : Candidate} :
    notLater a b = true ↔
      a.result.conflict.stage.rank < b.result.conflict.stage.rank ∨
      a.result.conflict.stage.rank = b.result.conflict.stage.rank ∧ notAfter a b = true := by
  simp [notLater]

theorem isRanking_code :
    IsRanking fun a b : Candidate => !Ordered.before b.result.code a.result.code := by
  refine ⟨fun a b c hab hbc => ?_, fun a b => ?_⟩
  · rw [Bool.not_eq_true'] at hab hbc ⊢
    exact Ordered.not_before_trans hab hbc
  · cases hcode : Ordered.before b.result.code a.result.code with
    | false => rfl
    | true => simp [Ordered.asymm hcode]

theorem isRanking_notAfter : IsRanking notAfter := by
  have hkey : notAfter = byKey (fun c => c.result.conflict.executionPriority.toNat)
      fun a b => !Ordered.before b.result.code a.result.code := by
    funext a b
    rw [Bool.eq_iff_iff, notAfter_iff, byKey_iff, Bool.not_eq_true']
  rw [hkey]
  exact isRanking_code.byKey _

theorem isRanking_notLater : IsRanking notLater :=
  isRanking_notAfter.byKey fun c => c.result.conflict.stage.rank

/-! ## One sort -/

theorem ofResults_eq_filter (stage : Stage) (results : List EligibilityResult) :
    ofResults stage results =
      (eligible results).filter fun c => c.result.conflict.stage = stage := by
  rw [ofResults, eligible, List.filter_filterMap]
  refine List.filterMap_congr fun r _ => ?_
  cases r.grant? with
  | none => simp
  | some grant => by_cases h : r.conflict.stage = stage <;> simp [h, Option.filter]

/-- Within a stage the order is the one of all stages. -/
theorem inOrder_ofResults (stage : Stage) (results : List EligibilityResult) :
    inOrder (ofResults stage results) =
      ((eligible results).mergeSort notLater).filter fun c => c.result.conflict.stage = stage := by
  rw [isRanking_notLater.filter_mergeSort, ← ofResults_eq_filter, inOrder]
  have hsame : ∀ a ∈ ofResults stage results, ∀ b ∈ ofResults stage results,
      notAfter a b = notLater (id a) (id b) := by
    intro a ha b hb
    obtain ⟨-, hsa, -⟩ := mem_ofResults_iff.1 ha
    obtain ⟨-, hsb, -⟩ := mem_ofResults_iff.1 hb
    simp [notLater, hsa, hsb]
  have hmap := List.map_mergeSort hsame
  rwa [List.map_id, List.map_id] at hmap

/-- What is sorted by stage first is one stage after the other. -/
theorem flatMap_stages_of_pairwise {l : List Candidate}
    (h : l.Pairwise fun a b => notLater a b = true) :
    (Stage.inOrder.flatMap fun stage => l.filter fun c => c.result.conflict.stage = stage) = l := by
  have hrank : l.Pairwise fun a b => a.result.conflict.stage.rank ≤ b.result.conflict.stage.rank :=
    h.imp fun hab => (notLater_iff.1 hab).elim Nat.le_of_lt fun heq => Nat.le_of_eq heq.1
  clear h
  induction l with
  | nil => rfl
  | cons c l ih =>
    obtain ⟨hc, hl⟩ := List.pairwise_cons.1 hrank
    have hnone : ∀ stage, stage.rank < c.result.conflict.stage.rank →
        (l.filter fun d => d.result.conflict.stage = stage) = [] := by
      intro stage hlt
      refine List.filter_eq_nil_iff.2 fun d hd => ?_
      have := hc d hd
      simp only [decide_eq_true_eq]
      rintro rfl
      omega
    have ih := ih hl
    simp only [Stage.inOrder, List.flatMap_cons, List.flatMap_nil, List.append_nil] at ih ⊢
    cases hs : c.result.conflict.stage with
    | itemLevel => simpa [hs] using ih
    | cartLevel =>
      have hitem := hnone .itemLevel (by rw [hs]; decide)
      simpa [hs, hitem] using ih
    | paymentLevel =>
      have hitem := hnone .itemLevel (by rw [hs]; decide)
      have hcart := hnone .cartLevel (by rw [hs]; decide)
      simpa [hs, hitem, hcart] using ih

/-- Candidates are considered in one stable order of stage, priority and code. -/
theorem considered_eq_mergeSort (results : List EligibilityResult) :
    considered results = (eligible results).mergeSort notLater := by
  rw [considered, List.flatMap_congr fun stage _ => inOrder_ofResults stage results]
  exact flatMap_stages_of_pairwise (isRanking_notLater.pairwise_mergeSort _)

/-! ## Results in another order -/

/-- Two results of a stage each of which is considered no later than the other have one turn. -/
theorem turn_eq_of_notAfter {a b : Candidate}
    (hstage : a.result.conflict.stage = b.result.conflict.stage) (hab : notAfter a b = true)
    (hba : notAfter b a = true) : a.result.turn = b.result.turn := by
  rw [notAfter_iff] at hab hba
  have hpriority : a.result.conflict.executionPriority = b.result.conflict.executionPriority :=
    UInt16.toNat_inj.1 (by omega)
  rw [hpriority] at hab hba
  have hcode : a.result.code = b.result.code :=
    Ordered.eq_of_not_before (hba.resolve_left (Nat.lt_irrefl _)).2
      (hab.resolve_left (Nat.lt_irrefl _)).2
  rw [EligibilityResult.turn, EligibilityResult.turn, hstage, hpriority, hcode]

/-- Candidates whose results each have a turn of their own are considered in the same order,
whatever the order of the results. -/
theorem inOrder_ofResults_perm {results results' : List EligibilityResult}
    (hperm : results.Perm results') (hturns : (results.map (·.turn)).Nodup) (stage : Stage) :
    inOrder (ofResults stage results) = inOrder (ofResults stage results') := by
  refine isRanking_notAfter.mergeSort_eq_of_perm (hperm.filterMap _) fun a ha b hb hab hba => ?_
  obtain ⟨har, has, hagrant⟩ := mem_ofResults_iff.1 ha
  obtain ⟨hbr, hbs, hbgrant⟩ := mem_ofResults_iff.1 hb
  have hturn := turn_eq_of_notAfter (has.trans hbs.symm) hab hba
  have hresult : a.result = b.result := List.inj_on_of_nodup_map hturns har hbr hturn
  have hgrant : a.grant = b.grant := by
    rw [hresult, hbgrant] at hagrant
    exact (Option.some.inj hagrant).symm
  obtain ⟨ra, ga⟩ := a
  obtain ⟨rb, gb⟩ := b
  simp only at hresult hgrant
  rw [hresult, hgrant]

end Candidate

theorem Resolver.afterStage_perm {results results' : List EligibilityResult}
    (hperm : results.Perm results') (hturns : (results.map (·.turn)).Nodup) (r : Resolver)
    (stage : Stage) : r.afterStage stage results = r.afterStage stage results' := by
  rw [afterStage_eq_run, afterStage_eq_run, Candidate.inOrder_ofResults_perm hperm hturns]

/-! ## Documents in another order -/

namespace Outcome

variable {ds es : List Document}

theorem map_turn_evaluateStage (ctx : Context) (stage : Stage) :
    (evaluateStage ds ctx stage).map (·.turn) =
      (ds.filter fun d => d.conflict.stage = stage).map Document.turn := by
  rw [evaluateStage, List.map_map]
  rfl

theorem evaluateStage_perm (hperm : ds.Perm es) (ctx : Context) (stage : Stage) :
    (evaluateStage ds ctx stage).Perm (evaluateStage es ctx stage) :=
  (hperm.filter _).map _

/-- A stage takes the resolver to the same place, whatever the order of the documents. -/
theorem step_perm {p q : Progress} (hperm : ds.Perm es) (hturns : (ds.map Document.turn).Nodup)
    (ctx : Context) (stage : Stage) (hresolver : p.resolver = q.resolver)
    (hresults : p.results.Perm q.results) :
    Alike (fun p q => p.resolver = q.resolver ∧ p.results.Perm q.results)
      (step ds ctx p stage) (step es ctx q stage) := by
  rw [step, step, hresolver]
  refine (Alike.refl (ctx.priorDiscount.add q.resolver.billDiscount)).bind ?_
  rintro priorDiscount _ rfl
  have hstage := evaluateStage_perm hperm { ctx with priorDiscount } stage
  have hnodup : ((evaluateStage ds { ctx with priorDiscount } stage).map (·.turn)).Nodup := by
    rw [map_turn_evaluateStage]
    exact hturns.sublist (List.filter_sublist.map _)
  dsimp only
  rw [Resolver.afterStage_perm hstage hnodup]
  refine (Alike.refl (q.resolver.afterStage stage _)).bind ?_
  rintro r _ rfl
  exact Alike.ok ⟨rfl, hresults.append hstage⟩

end Outcome

/-- The order in which documents come does not matter if each has a turn of its own: applying them
fails for the same reason, or it comes to the same decision on the same results. -/
theorem applyPromotions_perm {ds es : List Document} (hperm : ds.Perm es)
    (hturns : (ds.map Document.turn).Nodup) (ctx : Context) :
    Alike (fun out out' => out.resolution = out'.resolution ∧ out.results.Perm out'.results)
      (applyPromotions ds ctx) (applyPromotions es ctx) := by
  rw [applyPromotions, applyPromotions]
  refine (Alike.refl (Resolver.start ctx.bill)).bind ?_
  rintro r _ rfl
  have hstages : Alike (fun p q => p.resolver = q.resolver ∧ p.results.Perm q.results)
      (Stage.inOrder.foldlM (Outcome.step ds ctx) { resolver := r })
      (Stage.inOrder.foldlM (Outcome.step es ctx) { resolver := r }) :=
    Alike.foldlM (fun p q stage h => Outcome.step_perm hperm hturns ctx stage h.1 h.2) _
      ⟨rfl, List.Perm.refl _⟩
  refine hstages.bind ?_
  rintro p q ⟨hresolver, hresults⟩
  exact Alike.ok ⟨congrArg (·.resolution) hresolver, hresults⟩

namespace Sample

/-- Two promotions of one stage, of which the second by code offers more than the first leaves. -/
def rivals : List Document :=
  [document 4 "D" 30 (policy .itemLevel), document 5 "E" 90 (policy .itemLevel)]

/-- What comes of the two promotions of one stage. -/
def rivalsOutcome : Outcome where
  results :=
    [{ result 4 "D" (policy .itemLevel) 30 .discount with
        verdict := .eligible ⟨amount 30, .discount, [0, 1]⟩ },
     { result 5 "E" (policy .itemLevel) 90 .discount with
        verdict := .eligible ⟨amount 90, .discount, [0, 1]⟩ }]
  resolution :=
    { currency := "IDR"
      applied := [⟨id 4, "D", .itemLevel, amount 30, .discount, [0, 1]⟩,
        ⟨id 5, "E", .itemLevel, amount 70, .discount, [0, 1]⟩]
      totalDiscount := amount 100 }

theorem applyPromotions_rivals : applyPromotions rivals context = .ok rivalsOutcome := by
  let before : Resolver :=
    { bill := bill, remaining := amount 100, resolution := { currency := "IDR" } }
  let after : Resolver :=
    { bill := bill
      remaining := 0
      incompatible := [(id 4, .empty), (id 5, .empty)]
      resolution := rivalsOutcome.resolution }
  have hresults : Outcome.evaluateStage rivals context .itemLevel =
      rivalsOutcome.results := by decide +kernel
  have hstage : before.afterStage .itemLevel rivalsOutcome.results = .ok after := by
    rw [Resolver.afterStage_eq_run, Candidate.inOrder_of_pairwise (by decide)]
    rfl
  have hitem : Outcome.step rivals context { resolver := before } .itemLevel =
      .ok { results := rivalsOutcome.results, resolver := after } := by
    refine Outcome.step_eq_ok_iff.2 ⟨0, after, rfl, ?_, ?_⟩
    · exact (congrArg _ hresults).trans hstage
    · exact congrArg (Outcome.Progress.mk · after) hresults.symm
  refine bind_eq_ok_iff.2 ⟨before, rfl, bind_eq_ok_iff.2 ⟨⟨_, after⟩, ?_, rfl⟩⟩
  refine foldlM_cons_eq_ok_iff.2 ⟨_, hitem, ?_⟩
  cbv

end Sample

/-- Whichever of two promotions of a stage comes first, the one whose code comes first is granted
what it offers and the other what is left. -/
theorem applyPromotions_perm_shop :
    Sample.rivals.Perm Sample.rivals.reverse ∧ (Sample.rivals.map Document.turn).Nodup ∧
    ∃ out, applyPromotions Sample.rivals.reverse Sample.context = .ok out ∧
      out.resolution.applied.map (·.amount.toInt) = [30, 70] := by
  have hperm : Sample.rivals.Perm Sample.rivals.reverse := (List.reverse_perm _).symm
  have hturns : (Sample.rivals.map Document.turn).Nodup := by decide
  refine ⟨hperm, hturns, ?_⟩
  have halike := applyPromotions_perm hperm hturns Sample.context
  rw [Sample.applyPromotions_rivals] at halike
  cases hout : applyPromotions Sample.rivals.reverse Sample.context with
  | error e =>
    rw [hout] at halike
    cases halike
  | ok out =>
    rw [hout] at halike
    cases halike with
    | ok h => exact ⟨out, rfl, by rw [← h.1]; rfl⟩

end Promotions

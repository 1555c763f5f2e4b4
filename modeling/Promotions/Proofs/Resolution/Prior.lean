import Promotions.Proofs.Eligibility.Gates
import Promotions.Proofs.Eligibility.Lines
import Promotions.Proofs.Resolution.Order

/-!
# Proofs: a discount granted before

A context may say that something was taken off the bill already. A promotion for the bill as a whole
sees it: it grants no more than what that and the stages before leave. The resolver does not see it
and starts from the whole bill. So what was granted before and what is granted now stay within the
bill as long as every promotion that takes something off is for the bill as a whole and is alone in
its stage; several in one stage may each be granted the rest.
-/

namespace Promotions

open Fallible AppliedPromotion

/-! ## What a promotion for the bill grants -/

/-- All lines are eligible for a promotion for the bill as a whole. -/
theorem EligibleLines.subtotal_of_select {t : Targeting} {bill : Bill} {catalog : Catalog}
    {e : EligibleLines} (hscope : t.applyTo.isBillScoped = true)
    (h : select t bill catalog = .ok e) : bill.subtotal = .ok e.subtotal := by
  have hall : (bill.placedLines.filter fun p => t.applyTo.isBillScoped || t.selects catalog p.line) =
      bill.placedLines := by
    rw [hscope]
    exact List.filter_true _
  rw [select, hall, ofLines_eq, bill.map_line_placedLines] at h
  obtain ⟨subtotal, hsubtotal, rfl⟩ := map_eq_ok_iff.1 h
  rw [bill.subtotal_eq, hsubtotal]

/-- A promotion for the bill as a whole grants no more than what is left of the bill. -/
theorem Document.grant_discount_le_rest {d : Document} (ctx : Context) {g : Grant}
    {subtotal : Amount} (hscope : d.targeting.applyTo.isBillScoped = true)
    (hs : ctx.bill.subtotal = .ok subtotal) (h : (d.evaluate ctx).grant? = some g) :
    g.discount.toInt ≤ max 0 (subtotal.toInt - max 0 ctx.priorDiscount.toInt) := by
  obtain ⟨lines, hpasses, hgrant⟩ := judge_eq_ok_iff.1 (grant?_evaluate.1 h)
  have hsame := EligibleLines.subtotal_of_select hscope hpasses.select
  obtain rfl := Except.ok.inj (hsame.symm.trans hs)
  have hle := (Rule.discount_of_grant hgrant).2
  rw [toInt_base, if_pos hscope] at hle
  omega

/-! ## Entries that take something off the bill -/

namespace AppliedPromotion

variable {documents : List Document} {entries : List AppliedPromotion}

/-- The bill is less by the entry. -/
def takesOff (a : AppliedPromotion) : Bool :=
  a.benefit.reducesBill && decide (0 < a.amount)

/-- The promotion of the entry is for the bill as a whole. -/
def IsForBill (documents : List Document) (a : AppliedPromotion) : Prop :=
  ∀ d ∈ documents, d.id = a.promotionId → d.targeting.applyTo.isBillScoped = true

/-- The last promotion that takes something off the bill is for the bill as a whole, and the others
that do are of earlier stages. -/
def EndsWithBill (documents : List Document) (entries : List AppliedPromotion) : Prop :=
  ∀ others last, entries.filter (·.takesOff) = others ++ [last] →
    last.IsForBill documents ∧ ∀ a ∈ others, a.stage.rank < last.stage.rank

theorem discountOf_cons (a : AppliedPromotion) (as : List AppliedPromotion) :
    discountOf (a :: as) = discountOf [a] + discountOf as :=
  discountOf_append [a] as

theorem discountOf_of_not_takesOff {a : AppliedPromotion}
    (h : a.benefit.reducesBill = true → 0 ≤ a.amount) (ha : ¬a.takesOff = true) :
    discountOf [a] = 0 := by
  rw [discountOf_singleton]
  by_cases hreduces : a.benefit.reducesBill = true
  · have hnonneg := Amount.le_iff.1 (h hreduces)
    have hnot : ¬0 < a.amount := fun hpos => ha (by simp [takesOff, hreduces, hpos])
    rw [Amount.lt_iff, Amount.toInt_zero] at hnot
    rw [Amount.toInt_zero] at hnonneg
    rw [if_pos hreduces]
    omega
  · rw [if_neg hreduces]

theorem discountOf_filter_takesOff
    (h : ∀ a ∈ entries, a.benefit.reducesBill = true → 0 ≤ a.amount) :
    discountOf (entries.filter (·.takesOff)) = discountOf entries := by
  induction entries with
  | nil => rfl
  | cons a entries ih =>
    have hrest := ih fun b hb => h b (List.mem_cons_of_mem _ hb)
    by_cases ha : a.takesOff = true
    · rw [List.filter_cons_of_pos ha, discountOf_cons, hrest, ← discountOf_cons]
    · have hzero := discountOf_of_not_takesOff (h a List.mem_cons_self) ha
      rw [List.filter_cons_of_neg ha, hrest, discountOf_cons, hzero, Int.zero_add]

/-- What entries take off in the stages before the last is what all take off but the last. -/
theorem discountOf_eq_of_last {others : List AppliedPromotion} {last : AppliedPromotion}
    (h : ∀ a ∈ entries, a.benefit.reducesBill = true → 0 ≤ a.amount)
    (hsplit : entries.filter (·.takesOff) = others ++ [last])
    (hothers : ∀ a ∈ others, a.stage.rank < last.stage.rank) :
    discountOf entries = discountBefore last.stage entries + last.amount.toInt := by
  have htakes : last.takesOff = true := by
    have hlast : last ∈ entries.filter (·.takesOff) := hsplit ▸ List.mem_concat_self
    exact (List.mem_filter.1 hlast).2
  have hearlier : others.filter (fun a => decide (a.stage.rank < last.stage.rank)) = others :=
    List.filter_eq_self.2 fun a ha => decide_eq_true (hothers a ha)
  have hlater : [last].filter (fun a => decide (a.stage.rank < last.stage.rank)) = [] := by
    rw [List.filter_cons_of_neg (by simp), List.filter_nil]
  have hbefore : discountBefore last.stage entries = discountOf others := by
    rw [discountBefore, ← discountOf_filter_takesOff fun a ha => h a (List.mem_filter.1 ha).1,
      List.filter_comm, hsplit, List.filter_append, hearlier, hlater, List.append_nil]
  have hreduces : last.benefit.reducesBill = true := (Bool.and_eq_true_iff.1 htakes).1
  rw [← discountOf_filter_takesOff h, hsplit, discountOf_append, discountOf_singleton,
    if_pos hreduces, hbefore]

end AppliedPromotion

/-! ## What is granted in all -/

section Applied

variable {documents : List Document} {ctx : Context} {out : Outcome} {subtotal : Amount}

theorem applied_nonneg (h : applyPromotions documents ctx = .ok out) :
    ∀ a ∈ out.resolution.applied, a.benefit.reducesBill = true → 0 ≤ a.amount := by
  intro a ha hreduces
  obtain ⟨c, -, hgrants⟩ := Correspondence.exists_left (resolve_applied (applyPromotions_spec h).1) ha
  exact (hgrants.reducing hreduces).1

/-- Of a promotion for the bill as a whole no more is applied than what was granted before and the
earlier stages leave. -/
theorem applied_le_rest (h : applyPromotions documents ctx = .ok out)
    (hs : ctx.bill.subtotal = .ok subtotal) {a : AppliedPromotion}
    (ha : a ∈ out.resolution.applied) (hreduces : a.benefit.reducesBill = true)
    (hbill : a.IsForBill documents) :
    a.amount.toInt ≤ max 0 (subtotal.toInt - max 0
      (ctx.priorDiscount.toInt + discountBefore a.stage out.resolution.applied)) := by
  obtain ⟨hresolve, hall⟩ := applyPromotions_spec h
  obtain ⟨c, hc, hgrants⟩ := Correspondence.exists_left (resolve_applied hresolve) ha
  obtain ⟨hmem, hgrant⟩ := Candidate.mem_considered_iff.1 ((takenFrom_sublist hresolve).subset hc)
  obtain ⟨d, hd, priorDiscount, hprior, heval⟩ := Correspondence.exists_left hall hmem
  have hid : d.id = a.promotionId := by
    rw [hgrants.entry, Candidate.entry, heval]
    rfl
  have hstage : d.conflict.stage = a.stage := by
    rw [hgrants.entry, Candidate.entry, heval]
    rfl
  have hscope := hbill d ((Document.inStageOrder_perm documents).mem_iff.1 hd) hid
  have hoffers := Document.grant_discount_le_rest { ctx with priorDiscount } hscope hs
    (heval ▸ hgrant)
  have hamount := Amount.le_iff.1 (hgrants.reducing hreduces).2
  rw [Amount.toInt_max, Amount.toInt_zero] at hamount
  rw [hstage] at hprior
  simp only [hprior] at hoffers
  omega

theorem map_stage_of_grants {cs : List Candidate} {as : List AppliedPromotion}
    (h : List.Forall₂ Candidate.Grants cs as) :
    as.map (·.stage) = cs.map (·.result.conflict.stage) := by
  induction h with
  | nil => rfl
  | cons hgrants _ ih =>
    rw [List.map_cons, List.map_cons, ih, hgrants.entry]
    rfl

theorem map_stage_of_evaluatesTo {entries : List AppliedPromotion} {ds : List Document}
    {results : List EligibilityResult} (h : List.Forall₂ (Document.EvaluatesTo ctx entries) ds results) :
    results.map (·.conflict.stage) = ds.map (·.conflict.stage) := by
  induction h with
  | nil => rfl
  | cons hresult _ ih =>
    obtain ⟨priorDiscount, -, rfl⟩ := hresult
    rw [List.map_cons, List.map_cons, ih]
    rfl

/-- Entries come stage by stage. -/
theorem applied_pairwise (h : applyPromotions documents ctx = .ok out) :
    (out.resolution.applied.map (·.stage)).Pairwise fun s t => s.rank ≤ t.rank := by
  have hresolve := (applyPromotions_spec h).1
  rw [map_stage_of_grants (resolve_applied hresolve), List.pairwise_map]
  refine List.Pairwise.sublist (takenFrom_sublist hresolve) ?_
  rw [Candidate.considered_eq_mergeSort]
  refine (Candidate.isRanking_notLater.pairwise_mergeSort _).imp fun hab => ?_
  rcases Candidate.notLater_iff.1 hab with hlt | ⟨heq, -⟩
  · exact Nat.le_of_lt hlt
  · exact Nat.le_of_eq heq

/-- Where documents have a stage each, entries have one each. -/
theorem nodup_stages_applied (h : applyPromotions documents ctx = .ok out)
    (hstages : (documents.map (·.conflict.stage)).Nodup) :
    (out.resolution.applied.map (·.stage)).Nodup := by
  obtain ⟨hresolve, hall⟩ := applyPromotions_spec h
  have hresults : (out.results.map (·.conflict.stage)).Nodup := by
    rw [map_stage_of_evaluatesTo hall]
    exact ((Document.inStageOrder_perm documents).map _).nodup_iff.2 hstages
  have hconsidered := (Candidate.considered_perm out.results).map (·.conflict.stage)
  rw [List.map_map] at hconsidered
  rw [map_stage_of_grants (resolve_applied hresolve)]
  refine List.Nodup.sublist ((takenFrom_sublist hresolve).map _) ?_
  exact hconsidered.nodup_iff.2 (hresults.sublist (List.filter_sublist.map _))

theorem endsWithBill_of_documents (h : applyPromotions documents ctx = .ok out)
    (hbill : ∀ d ∈ documents, d.targeting.applyTo.isBillScoped = true)
    (hstages : (documents.map (·.conflict.stage)).Nodup) :
    EndsWithBill documents out.resolution.applied := by
  intro others last hsplit
  refine ⟨fun d hd _ => hbill d hd, fun a ha => ?_⟩
  have hlt : out.resolution.applied.Pairwise fun a b => a.stage.rank < b.stage.rank := by
    have hboth := (applied_pairwise h).and (nodup_stages_applied h hstages)
    rw [List.pairwise_map] at hboth
    refine hboth.imp fun {a b} hab => Nat.lt_of_le_of_ne hab.1 fun heq => hab.2 ?_
    revert heq
    cases a.stage <;> cases b.stage <;> decide
  have hsub := hlt.sublist (List.filter_sublist (p := fun a => a.takesOff))
  rw [hsplit] at hsub
  exact (List.pairwise_append.1 hsub).2.2 a ha last List.mem_cons_self

/-- A discount that was granted before counts against what a promotion for the bill as a whole may
take off. With all that is applied it is within the bill where there was none, where what takes off
last is for the bill and alone in its stage, and so where all promotions are for the bill and no two
have the same stage. -/
theorem applyPromotions_within_prior (h : applyPromotions documents ctx = .ok out)
    (hs : ctx.bill.subtotal = .ok subtotal) (hle : ctx.priorDiscount ≤ subtotal) :
    (∀ a ∈ out.resolution.applied, a.takesOff = true → a.IsForBill documents →
      ctx.priorDiscount.toInt + discountBefore a.stage out.resolution.applied + a.amount.toInt ≤
        subtotal.toInt) ∧
    (ctx.priorDiscount = 0 ∨ EndsWithBill documents out.resolution.applied ∨
        ((∀ d ∈ documents, d.targeting.applyTo.isBillScoped = true) ∧
          (documents.map (·.conflict.stage)).Nodup) →
      ctx.priorDiscount.toInt + out.resolution.totalDiscount.toInt ≤ subtotal.toInt) := by
  have hbound : ∀ a ∈ out.resolution.applied, a.takesOff = true → a.IsForBill documents →
      ctx.priorDiscount.toInt + discountBefore a.stage out.resolution.applied + a.amount.toInt ≤
        subtotal.toInt := by
    intro a ha htakes hbill
    obtain ⟨hreduces, hpos⟩ := Bool.and_eq_true_iff.1 htakes
    have hpos' := Amount.lt_iff.1 (of_decide_eq_true hpos)
    have hrest := applied_le_rest h hs ha hreduces hbill
    rw [Amount.toInt_zero] at hpos'
    omega
  refine ⟨hbound, fun hcond => ?_⟩
  obtain ⟨r, r', hstart, hrun, hr'⟩ := resolve_eq_ok_iff.1 (applyPromotions_spec h).1
  have hbalanced := (Resolver.balanced_start hstart hs).run hrun
  have htotal := hbalanced.totalDiscount
  have hwithin := hbalanced.le
  rw [hr'] at htotal hwithin
  rw [Amount.le_iff] at hle
  have hnonneg := applied_nonneg h
  rcases hcond with hnone | hcond
  · rw [hnone, Amount.toInt_zero] at hle ⊢
    omega
  · have hends : EndsWithBill documents out.resolution.applied :=
      hcond.elim id fun hdocuments => endsWithBill_of_documents h hdocuments.1 hdocuments.2
    rcases List.eq_nil_or_concat' (out.resolution.applied.filter (·.takesOff)) with
      hnil | ⟨others, last, hsplit⟩
    · rw [htotal, ← discountOf_filter_takesOff hnonneg, hnil, discountOf_nil]
      omega
    · obtain ⟨hbill, hothers⟩ := hends others last hsplit
      have hlast : last ∈ out.resolution.applied.filter (·.takesOff) :=
        hsplit ▸ List.mem_concat_self
      obtain ⟨hmem, htakes⟩ := List.mem_filter.1 hlast
      rw [htotal, discountOf_eq_of_last hnonneg hsplit hothers, ← Int.add_assoc]
      exact hbound last hmem htakes hbill

end Applied

/-- A discount on the whole bill that is applied. -/
def Sample.entry (n : UInt8) (code : String) (stage : Stage) (discount : Int) : AppliedPromotion :=
  ⟨id n, code, stage, amount discount, .discount, [0, 1]⟩

/-- The context of the bill of which some was taken off before. -/
def Sample.reduced (priorDiscount : Int) : Context :=
  { context with priorDiscount := amount priorDiscount }

/-- With twenty taken off before, the voucher takes fifty in its stage and the promotion for the
payment the rest in the stage after. -/
theorem applyPromotions_within_prior_shop :
    (Sample.reduced 20).bill.subtotal = .ok (Sample.amount 100) ∧
      (Sample.reduced 20).priorDiscount ≤ Sample.amount 100 ∧
      (∀ d ∈ Sample.documents, d.targeting.applyTo.isBillScoped = true) ∧
      (Sample.documents.map (·.conflict.stage)).Nodup ∧
      ∃ out, applyPromotions Sample.documents (Sample.reduced 20) = .ok out ∧
        out.resolution.applied =
          [Sample.entry 2 "B" .itemLevel 50, Sample.entry 3 "C" .paymentLevel 30] ∧
        20 + out.resolution.totalDiscount.toInt ≤ 100 := by
  have hle : (Sample.reduced 20).priorDiscount ≤ Sample.amount 100 := by decide
  have hbill : ∀ d ∈ Sample.documents, d.targeting.applyTo.isBillScoped = true := by decide
  have hstages : (Sample.documents.map (·.conflict.stage)).Nodup := by decide
  have hmap : (applyPromotions Sample.documents (Sample.reduced 20)).map
      (fun out => out.resolution.applied) =
      .ok [Sample.entry 2 "B" .itemLevel 50, Sample.entry 3 "C" .paymentLevel 30] := by
    decide +kernel
  obtain ⟨out, hout, happlied⟩ := map_eq_ok_iff.1 hmap
  have hwithin := (applyPromotions_within_prior hout Sample.subtotal_bill hle).2
    (Or.inr (Or.inr ⟨hbill, hstages⟩))
  exact ⟨Sample.subtotal_bill, hle, hbill, hstages, out, hout, happlied, hwithin⟩

/-- What comes of the two promotions of one stage with sixty taken off before: the first takes thirty
and the second what it was granted, which is the forty that are left of the bill without the first. -/
def Sample.reducedOutcome : Outcome where
  results :=
    [{ result 4 "D" (policy .itemLevel) 30 .discount with
        verdict := .eligible ⟨amount 30, .discount, [0, 1]⟩ },
     { result 5 "E" (policy .itemLevel) 40 .discount with
        verdict := .eligible ⟨amount 40, .discount, [0, 1]⟩ }]
  resolution :=
    { currency := "IDR"
      applied := [entry 4 "D" .itemLevel 30, entry 5 "E" .itemLevel 40]
      totalDiscount := amount 70 }

theorem Sample.applyPromotions_reduced :
    applyPromotions rivals (reduced 60) = .ok reducedOutcome := by
  let before : Resolver :=
    { bill, remaining := amount 100, resolution := { currency := "IDR" } }
  let after : Resolver :=
    { bill
      remaining := amount 30
      incompatible := [(id 4, .empty), (id 5, .empty)]
      resolution := reducedOutcome.resolution }
  have hresults : Outcome.evaluateStage rivals (reduced 60) .itemLevel =
      reducedOutcome.results := by decide +kernel
  have hstage : before.afterStage .itemLevel reducedOutcome.results = .ok after := by
    rw [Resolver.afterStage_eq_run, Candidate.inOrder_of_pairwise (by decide)]
    rfl
  have hitem : Outcome.step rivals (reduced 60) { resolver := before } .itemLevel =
      .ok { results := reducedOutcome.results, resolver := after } := by
    refine Outcome.step_eq_ok_iff.2 ⟨amount 60, after, rfl, ?_, ?_⟩
    · exact (congrArg _ hresults).trans hstage
    · exact congrArg (Outcome.Progress.mk · after) hresults.symm
  refine bind_eq_ok_iff.2 ⟨before, rfl, bind_eq_ok_iff.2 ⟨⟨_, after⟩, ?_, rfl⟩⟩
  refine foldlM_cons_eq_ok_iff.2 ⟨_, hitem, ?_⟩
  cbv

/-- Of two promotions of one stage each may be granted all that is left, and then more than the bill
is taken off in all. -/
theorem rivals_exceed_bill :
    ∃ out subtotal, applyPromotions Sample.rivals (Sample.reduced 60) = .ok out ∧
      (Sample.reduced 60).bill.subtotal = .ok subtotal ∧
      0 ≤ (Sample.reduced 60).priorDiscount ∧ (Sample.reduced 60).priorDiscount ≤ subtotal ∧
      ¬(Sample.reduced 60).priorDiscount.toInt + out.resolution.totalDiscount.toInt ≤
        subtotal.toInt :=
  ⟨_, _, Sample.applyPromotions_reduced, Sample.subtotal_bill, by decide, by decide, by decide⟩

end Promotions

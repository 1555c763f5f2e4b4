import Promotions.Proofs.Correspondence
import Promotions.Proofs.Resolution.Totals
import Promotions.Resolution.Pipeline

/-!
# Proofs: evaluating and resolving stage by stage

Documents are evaluated a stage at a time, each stage seeing what the stages before took off the
bill. The results put together and resolved at once give the same decision, and what a stage saw
can be read off that decision, since the entries of a stage are known by their stage.
-/

namespace Promotions

open Fallible AppliedPromotion

/-- Documents in the order in which they are evaluated: stage after stage, those of a stage as they
come. -/
def Document.inStageOrder (documents : List Document) : List Document :=
  Stage.inOrder.flatMap fun stage => documents.filter fun d => d.conflict.stage = stage

/-- What the entries of the stages before a stage take off the bill. -/
def AppliedPromotion.discountBefore (stage : Stage) (entries : List AppliedPromotion) : Int :=
  discountOf (entries.filter fun a => a.stage.rank < stage.rank)

/-- The result is that of the document in the context that its stage sees, which is the given one
with the discount of earlier stages added. -/
def Document.EvaluatesTo (ctx : Context) (entries : List AppliedPromotion) (d : Document)
    (result : EligibilityResult) : Prop :=
  ∃ priorDiscount : Amount,
    priorDiscount.toInt = ctx.priorDiscount.toInt + discountBefore d.conflict.stage entries ∧
      result = d.evaluate { ctx with priorDiscount }

theorem Document.inStageOrder_perm (documents : List Document) :
    (inStageOrder documents).Perm documents :=
  flatMap_stages_perm _ documents

theorem Document.inStageOrder_pairwise (documents : List Document) :
    (inStageOrder documents).Pairwise fun d e => d.conflict.stage.rank ≤ e.conflict.stage.rank := by
  rw [inStageOrder, List.pairwise_flatMap]
  refine ⟨fun stage _ => ?_, ?_⟩
  · refine List.pairwise_of_forall_mem_list fun d hd e he => ?_
    have hd' : d.conflict.stage = stage := of_decide_eq_true (List.mem_filter.1 hd).2
    have he' : e.conflict.stage = stage := of_decide_eq_true (List.mem_filter.1 he).2
    exact Nat.le_of_eq (congrArg Stage.rank (hd'.trans he'.symm))
  · have hord : Stage.inOrder.Pairwise fun s t => s.rank < t.rank := by decide
    refine hord.imp fun hst d hd e he => ?_
    have hd' := of_decide_eq_true (List.mem_filter.1 hd).2
    have he' := of_decide_eq_true (List.mem_filter.1 he).2
    rw [hd', he']
    exact Nat.le_of_lt hst

theorem Document.filter_inStageOrder (documents : List Document) (stage : Stage) :
    ((inStageOrder documents).filter fun d => d.conflict.stage = stage) =
      documents.filter fun d => d.conflict.stage = stage := by
  have hself : ((documents.filter fun d => d.conflict.stage = stage).filter
      fun d => d.conflict.stage = stage) = documents.filter fun d => d.conflict.stage = stage := by
    simp [List.filter_filter]
  have hother : ∀ t, t ≠ stage → ((documents.filter fun d => d.conflict.stage = t).filter
      fun d => d.conflict.stage = stage) = [] := by
    intro t ht
    refine List.filter_eq_nil_iff.2 fun d hd => ?_
    have hd' : d.conflict.stage = t := of_decide_eq_true (List.mem_filter.1 hd).2
    simp [hd', ht]
  simp only [inStageOrder, Stage.inOrder, List.flatMap_cons, List.flatMap_nil, List.append_nil,
    List.filter_append]
  cases stage with
  | itemLevel =>
    rw [hself, hother .cartLevel (by decide), hother .paymentLevel (by decide)]
    simp
  | cartLevel =>
    rw [hself, hother .itemLevel (by decide), hother .paymentLevel (by decide)]
    simp
  | paymentLevel =>
    rw [hself, hother .itemLevel (by decide), hother .cartLevel (by decide)]
    simp

/-! ## Candidates of a stage -/

namespace Candidate

theorem ofResults_append (stage : Stage) (as bs : List EligibilityResult) :
    ofResults stage (as ++ bs) = ofResults stage as ++ ofResults stage bs :=
  List.filterMap_append

theorem ofResults_eq_nil {stage : Stage} {results : List EligibilityResult}
    (h : ∀ r ∈ results, r.conflict.stage ≠ stage) : ofResults stage results = [] := by
  rw [List.eq_nil_iff_forall_not_mem]
  intro c hc
  obtain ⟨hr, hstage, -⟩ := mem_ofResults_iff.1 hc
  exact h c.result hr hstage

end Candidate

/-! ## One stage -/

/-- Resolving a stage adds entries of that stage only. -/
theorem Resolver.afterStage_applied {r r' : Resolver} {stage : Stage}
    {results : List EligibilityResult} (h : r.afterStage stage results = .ok r') :
    ∃ entries, r'.resolution.applied = r.resolution.applied ++ entries ∧
      ∀ a ∈ entries, a.stage = stage := by
  rw [afterStage_eq_run] at h
  obtain ⟨entries, happlied, hall⟩ := run_applied h
  refine ⟨entries, happlied, fun a ha => ?_⟩
  obtain ⟨c, hc, hgrants⟩ := Correspondence.exists_left hall ha
  have hmem := Candidate.mem_inOrder.1 ((taken_sublist h).subset hc)
  rw [hgrants.entry]
  exact (Candidate.mem_ofResults_iff.1 hmem).2.1

theorem Resolver.Balanced.afterStage {r r' : Resolver} {subtotal : Amount} {stage : Stage}
    {results : List EligibilityResult} (hr : r.Balanced subtotal)
    (h : r.afterStage stage results = .ok r') : r'.Balanced subtotal := by
  rw [afterStage_eq_run] at h
  exact hr.run h

namespace Outcome

variable {documents : List Document} {ctx : Context} {p p' : Progress}

theorem step_eq_ok_iff {stage : Stage} :
    step documents ctx p stage = .ok p' ↔
      ∃ priorDiscount r, ctx.priorDiscount.add p.resolver.billDiscount = .ok priorDiscount ∧
        p.resolver.afterStage stage (evaluateStage documents { ctx with priorDiscount } stage) =
          .ok r ∧
        p' = {
          results := p.results ++ evaluateStage documents { ctx with priorDiscount } stage
          resolver := r } := by
  simp only [step, bind_eq_ok_iff, pure_eq_ok_iff]
  constructor
  · rintro ⟨priorDiscount, hprior, r, hr, rfl⟩
    exact ⟨priorDiscount, r, hprior, hr, rfl⟩
  · rintro ⟨priorDiscount, r, hprior, hr, rfl⟩
    exact ⟨priorDiscount, hprior, r, hr, rfl⟩

theorem stage_of_mem_evaluateStage {stage : Stage} {result : EligibilityResult}
    (h : result ∈ evaluateStage documents ctx stage) : result.conflict.stage = stage := by
  obtain ⟨d, hd, rfl⟩ := List.mem_map.1 h
  exact of_decide_eq_true (List.mem_filter.1 hd).2

/-! ## All stages -/

/-- The entries that several stages add are of these stages. -/
theorem foldlM_step_applied {stages : List Stage}
    (h : stages.foldlM (step documents ctx) p = .ok p') :
    ∃ entries, p'.resolver.resolution.applied = p.resolver.resolution.applied ++ entries ∧
      ∀ a ∈ entries, a.stage ∈ stages := by
  induction stages generalizing p with
  | nil =>
    rw [List.foldlM_nil, pure_eq_ok_iff] at h
    exact ⟨[], by simp [h], by simp⟩
  | cons stage stages ih =>
    obtain ⟨q, hq, h⟩ := foldlM_cons_eq_ok_iff.1 h
    obtain ⟨priorDiscount, r, -, hr, rfl⟩ := step_eq_ok_iff.1 hq
    obtain ⟨first, hfirst, hstage⟩ := Resolver.afterStage_applied hr
    obtain ⟨others, hothers, hstages⟩ := ih h
    refine ⟨first ++ others, by rw [hothers, hfirst, List.append_assoc], fun a ha => ?_⟩
    rcases List.mem_append.1 ha with ha | ha
    · rw [hstage a ha]
      exact List.mem_cons_self
    · exact List.mem_cons_of_mem _ (hstages a ha)

/-- When a stage starts, what was taken off the bill is what the finished decision takes off it in
earlier stages. -/
theorem discountBefore_eq {stage : Stage} {stages : List Stage}
    (hearlier : ∀ a ∈ p.resolver.resolution.applied, a.stage.rank < stage.rank)
    (hlater : ∀ t ∈ stages, stage.rank ≤ t.rank)
    (h : stages.foldlM (step documents ctx) p = .ok p') :
    discountBefore stage p'.resolver.resolution.applied =
      discountOf p.resolver.resolution.applied := by
  obtain ⟨entries, happlied, hstages⟩ := foldlM_step_applied h
  have hold : p.resolver.resolution.applied.filter (fun a => decide (a.stage.rank < stage.rank)) =
      p.resolver.resolution.applied :=
    List.filter_eq_self.2 fun a ha => decide_eq_true (hearlier a ha)
  have hnew : entries.filter (fun a => decide (a.stage.rank < stage.rank)) = [] := by
    refine List.filter_eq_nil_iff.2 fun a ha => ?_
    have := hlater a.stage (hstages a ha)
    simpa using this
  rw [discountBefore, happlied, List.filter_append, hold, hnew, List.append_nil]

/-- The results of a stage are those of its documents in the context that the stage sees. -/
theorem evaluateStage_evaluatesTo {stage : Stage} {priorDiscount : Amount}
    {entries : List AppliedPromotion}
    (h : priorDiscount.toInt = ctx.priorDiscount.toInt + discountBefore stage entries) :
    List.Forall₂ (Document.EvaluatesTo ctx entries)
      (documents.filter fun d => d.conflict.stage = stage)
      (evaluateStage documents { ctx with priorDiscount } stage) := by
  rw [evaluateStage, List.forall₂_map_right_iff, List.forall₂_same]
  intro d hd
  have hstage : d.conflict.stage = stage := of_decide_eq_true (List.mem_filter.1 hd).2
  exact ⟨priorDiscount, by rw [hstage]; exact h, rfl⟩

theorem stage_mem_of_evaluatesTo {stages : List Stage} {entries : List AppliedPromotion}
    {results : List EligibilityResult}
    (h : List.Forall₂ (Document.EvaluatesTo ctx entries)
      (stages.flatMap fun stage => documents.filter fun d => d.conflict.stage = stage) results)
    {result : EligibilityResult} (hr : result ∈ results) : result.conflict.stage ∈ stages := by
  obtain ⟨d, hd, priorDiscount, -, rfl⟩ := Correspondence.exists_left h hr
  obtain ⟨stage, hstage, hd⟩ := List.mem_flatMap.1 hd
  have hd' : d.conflict.stage = stage := of_decide_eq_true (List.mem_filter.1 hd).2
  exact hd' ▸ hstage

/-- Stages that follow one another evaluate their documents as the finished decision says, and
resolving all results at once comes to the same resolver. -/
theorem foldlM_step_spec {stages : List Stage} {subtotal : Amount}
    (hord : stages.Pairwise fun s t => s.rank < t.rank) (hb : p.resolver.Balanced subtotal)
    (hearlier : ∀ a ∈ p.resolver.resolution.applied, ∀ s ∈ stages, a.stage.rank < s.rank)
    (h : stages.foldlM (step documents ctx) p = .ok p') :
    ∃ results, p'.results = p.results ++ results ∧
      List.Forall₂ (Document.EvaluatesTo ctx p'.resolver.resolution.applied)
        (stages.flatMap fun stage => documents.filter fun d => d.conflict.stage = stage)
        results ∧
      ∀ all, (∀ s ∈ stages, Candidate.ofResults s all = Candidate.ofResults s results) →
        stages.foldlM (fun r s => r.afterStage s all) p.resolver = .ok p'.resolver := by
  induction stages generalizing p with
  | nil =>
    rw [List.foldlM_nil, pure_eq_ok_iff] at h
    subst h
    exact ⟨[], by simp, List.Forall₂.nil, fun _ _ => rfl⟩
  | cons stage stages ih =>
    obtain ⟨hfirst, hord⟩ := List.pairwise_cons.1 hord
    have hlater : ∀ t ∈ stage :: stages, stage.rank ≤ t.rank := by
      intro t ht
      rcases List.mem_cons.1 ht with rfl | ht
      · exact Nat.le_refl _
      · exact Nat.le_of_lt (hfirst t ht)
    have hbefore := discountBefore_eq (fun a ha => hearlier a ha stage List.mem_cons_self) hlater h
    obtain ⟨q, hq, h⟩ := foldlM_cons_eq_ok_iff.1 h
    obtain ⟨priorDiscount, r, hprior, hr, rfl⟩ := step_eq_ok_iff.1 hq
    obtain ⟨entries, hentries, hstage⟩ := Resolver.afterStage_applied hr
    have hearlier' : ∀ a ∈ r.resolution.applied, ∀ s ∈ stages, a.stage.rank < s.rank := by
      intro a ha s hs
      rw [hentries] at ha
      rcases List.mem_append.1 ha with ha | ha
      · exact hearlier a ha s (List.mem_cons_of_mem _ hs)
      · rw [hstage a ha]
        exact hfirst s hs
    obtain ⟨rest, hrest, hall, hresolve⟩ := ih hord (hb.afterStage hr) hearlier' h
    have hne : ∀ s ∈ stages, s ≠ stage := fun s hs e =>
      Nat.lt_irrefl _ (e ▸ hfirst s hs)
    refine ⟨evaluateStage documents { ctx with priorDiscount } stage ++ rest,
      by rw [hrest, List.append_assoc], ?_, fun all hsame => ?_⟩
    · rw [List.flatMap_cons]
      refine List.rel_append (evaluateStage_evaluatesTo ?_) hall
      rw [Amount.add_eq_ok_iff.1 hprior, hbefore, ← hb.totalDiscount]
      rfl
    · have hhead : Candidate.ofResults stage all = Candidate.ofResults stage
          (evaluateStage documents { ctx with priorDiscount } stage) := by
        have hnil : Candidate.ofResults stage rest = [] :=
          Candidate.ofResults_eq_nil fun x hx => hne _ (stage_mem_of_evaluatesTo hall hx)
        rw [hsame stage List.mem_cons_self, Candidate.ofResults_append, hnil, List.append_nil]
      have htail : ∀ s ∈ stages, Candidate.ofResults s all = Candidate.ofResults s rest := by
        intro s hs
        have hnil : Candidate.ofResults s
            (evaluateStage documents { ctx with priorDiscount } stage) = [] :=
          Candidate.ofResults_eq_nil fun x hx e =>
            hne s hs (e.symm.trans (stage_of_mem_evaluateStage hx))
        rw [hsame s (List.mem_cons_of_mem _ hs), Candidate.ofResults_append, hnil,
          List.nil_append]
      refine foldlM_cons_eq_ok_iff.2 ⟨r, ?_, hresolve all htail⟩
      rw [Resolver.afterStage_eq_run, hhead, ← Resolver.afterStage_eq_run]
      exact hr

end Outcome

/-- What the pipeline evaluates and decides: each document once, in the order of the stages and
with the discount of the stages before; and the decision is that on all results at once. -/
theorem applyPromotions_spec {documents : List Document} {ctx : Context} {out : Outcome}
    (h : applyPromotions documents ctx = .ok out) :
    resolve ctx.bill out.results = .ok out.resolution ∧
      List.Forall₂ (Document.EvaluatesTo ctx out.resolution.applied)
        (Document.inStageOrder documents) out.results := by
  obtain ⟨start, hstart, h⟩ := bind_eq_ok_iff.1 h
  obtain ⟨p, hp, h⟩ := bind_eq_ok_iff.1 h
  obtain rfl := pure_eq_ok_iff.1 h
  obtain ⟨subtotal, hs, rfl⟩ := start_eq_ok_iff.1 hstart
  obtain ⟨results, hresults, hall, hresolve⟩ := Outcome.foldlM_step_spec
    (by decide) (Resolver.balanced_start hstart hs) (by simp) hp
  rw [List.nil_append] at hresults
  refine ⟨?_, by rw [hresults]; exact hall⟩
  have hrun := hresolve p.results fun s _ => by rw [hresults]
  exact bind_eq_ok_iff.2 ⟨_, hstart, bind_eq_ok_iff.2 ⟨p.resolver, hrun, rfl⟩⟩

/-- Applying promotions stage by stage and resolving all results at once agree. There is one result
for each document, in the order of the stages and otherwise as the documents come, and each is that
of its document when the bill was reduced before by what earlier stages are decided to take off. -/
theorem applyPromotions_agrees {documents : List Document} {ctx : Context} {out : Outcome}
    (h : applyPromotions documents ctx = .ok out) :
    resolve ctx.bill out.results = .ok out.resolution ∧
    ∃ ds : List Document, ds.Perm documents ∧
      ds.Pairwise (fun d e => d.conflict.stage.rank ≤ e.conflict.stage.rank) ∧
      (∀ stage, (ds.filter fun d => d.conflict.stage = stage) =
        documents.filter fun d => d.conflict.stage = stage) ∧
      List.Forall₂ (Document.EvaluatesTo ctx out.resolution.applied) ds out.results := by
  obtain ⟨hresolve, hall⟩ := applyPromotions_spec h
  exact ⟨hresolve, Document.inStageOrder documents, Document.inStageOrder_perm documents,
    Document.inStageOrder_pairwise documents, Document.filter_inStageOrder documents, hall⟩

namespace Sample

/-- The promotion for the cart does not stack, nor does the voucher for items, which comes before
it; the one for the payment takes all that is left. -/
def documents : List Document :=
  [document 1 "A" 70 { policy .cartLevel with isStackable := false },
   document 2 "B" 50 { policy .itemLevel with isStackable := false, requireVoucher := true },
   document 3 "C" 70 { policy .paymentLevel with cannotCombineWith := .ofList [id 1] }]

/-- What comes of the promotions. -/
def outcome : Outcome where
  results :=
    [(document 2 "B" 50
        { policy .itemLevel with isStackable := false, requireVoucher := true }).evaluate context,
     (document 1 "A" 70 { policy .cartLevel with isStackable := false }).evaluate
        { context with priorDiscount := amount 50 },
     (document 3 "C" 70 { policy .paymentLevel with cannotCombineWith := .ofList [id 1] }).evaluate
        { context with priorDiscount := amount 50 }]
  resolution :=
    { currency := "IDR"
      applied := [⟨id 2, "B", .itemLevel, amount 50, .discount, [0, 1]⟩,
        ⟨id 3, "C", .paymentLevel, amount 50, .discount, [0, 1]⟩]
      suppressed := [⟨id 1, "A", .nonStackableConflict⟩]
      totalDiscount := amount 100 }

theorem applyPromotions_documents : applyPromotions documents context = .ok outcome := by
  decide +kernel

end Sample

/-- In the shop the promotion for the cart is decided on with the voucher taken off before. -/
theorem applyPromotions_agrees_shop :
    applyPromotions Sample.documents Sample.context = .ok Sample.outcome ∧
    resolve Sample.bill Sample.outcome.results = .ok Sample.outcome.resolution ∧
    discountBefore .paymentLevel Sample.outcome.resolution.applied = 50 := by
  have h := Sample.applyPromotions_documents
  exact ⟨h, (applyPromotions_agrees h).1, by decide⟩

end Promotions

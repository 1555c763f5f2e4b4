import Promotions.Proofs.Resolution.Reasons

/-!
# Proofs: removing what is not applied

A candidate that is suppressed leaves nothing behind but its note. So a promotion that is not
applied, whatever keeps it from it, can be taken out beforehand: the others are decided on in the
same order, from the same balance and against the same exclusions, and later stages see the same
discount. The outcome is the old one without the results and the notes of what was taken out.
-/

namespace Promotions

open Fallible

variable {keep : PromotionId → Bool}

/-- A resolution without the notes on promotions that are not kept. -/
def Resolution.keeping (keep : PromotionId → Bool) (r : Resolution) : Resolution :=
  { r with suppressed := r.suppressed.filter fun s => keep s.promotionId }

/-- A resolver without the notes on promotions that are not kept. -/
def Resolver.keeping (keep : PromotionId → Bool) (r : Resolver) : Resolver :=
  { r with resolution := r.resolution.keeping keep }

/-- The candidates of promotions that are kept. -/
def Candidate.keeping (keep : PromotionId → Bool) (cs : List Candidate) : List Candidate :=
  cs.filter fun c => keep c.result.promotionId

theorem Candidate.keeping_cons (c : Candidate) (cs : List Candidate) :
    keeping keep (c :: cs) =
      if keep c.result.promotionId then c :: keeping keep cs else keeping keep cs :=
  List.filter_cons

namespace Resolver

variable {r r' : Resolver} {c : Candidate} {cs : List Candidate}

/-! ## One candidate -/

/-- Notes have no part in a decision. -/
theorem suppression?_keeping : (r.keeping keep).suppression? c = r.suppression? c := rfl

theorem suppress_keeping (reason : SuppressionReason) :
    (r.suppress c reason).keeping keep =
      if keep c.result.promotionId then (r.keeping keep).suppress c reason
      else r.keeping keep := by
  by_cases hkeep : keep c.result.promotionId = true <;>
    simp [keeping, Resolution.keeping, suppress, hkeep]

theorem addToTotals_keeping {totals : Resolution} {resolution : Resolution} {benefit : Benefit}
    {amount : Amount} (h : addToTotals resolution benefit amount = .ok totals) :
    addToTotals (resolution.keeping keep) benefit amount = .ok (totals.keeping keep) := by
  cases benefit with
  | discount =>
    obtain ⟨total, ht, h⟩ := bind_eq_ok_iff.1 h
    obtain rfl := pure_eq_ok_iff.1 h
    exact bind_eq_ok_iff.2 ⟨total, ht, rfl⟩
  | freeProduct product =>
    obtain ⟨total, ht, h⟩ := bind_eq_ok_iff.1 h
    obtain rfl := pure_eq_ok_iff.1 h
    exact bind_eq_ok_iff.2 ⟨total, ht, rfl⟩
  | cashback =>
    obtain ⟨total, ht, h⟩ := bind_eq_ok_iff.1 h
    obtain rfl := pure_eq_ok_iff.1 h
    exact bind_eq_ok_iff.2 ⟨total, ht, rfl⟩
  | pointsMultiplier multiplier =>
    obtain rfl := pure_eq_ok_iff.1 h
    rfl

theorem apply_keeping (h : r.apply c = .ok r') :
    (r.keeping keep).apply c = .ok (r'.keeping keep) := by
  obtain ⟨totals, ht, h⟩ := bind_eq_ok_iff.1 h
  obtain rfl := pure_eq_ok_iff.1 h
  exact bind_eq_ok_iff.2 ⟨totals.keeping keep, addToTotals_keeping ht, rfl⟩

/-! ## A run -/

/-- A run from which candidates are left out that it does not apply comes to the same place. -/
theorem run_keeping (h : r.run cs = .ok r')
    (hkeep : ∀ c ∈ r.taken cs, keep c.result.promotionId = true) :
    (r.keeping keep).run (Candidate.keeping keep cs) = .ok (r'.keeping keep) := by
  induction cs generalizing r with
  | nil =>
    obtain rfl := foldlM_nil_eq_ok_iff.1 h
    rfl
  | cons c cs ih =>
    rcases run_cons_taken h with ⟨reason, hreason, hrun, ht⟩ | ⟨s, hnone, happly, hrun, ht⟩
    · have hrest := ih hrun (by rwa [ht] at hkeep)
      rw [suppress_keeping] at hrest
      rw [Candidate.keeping_cons]
      by_cases hc : keep c.result.promotionId = true
      · rw [if_pos hc] at hrest ⊢
        refine foldlM_cons_eq_ok_iff.2 ⟨_, consider_eq_ok_iff.2 (Or.inl ?_), hrest⟩
        exact ⟨reason, suppression?_keeping.trans hreason, rfl⟩
      · rw [if_neg hc] at hrest ⊢
        exact hrest
    · rw [ht] at hkeep
      have hrest := ih hrun fun d hd => hkeep d (List.mem_cons_of_mem _ hd)
      rw [Candidate.keeping_cons, if_pos (hkeep c List.mem_cons_self)]
      refine foldlM_cons_eq_ok_iff.2 ⟨_, consider_eq_ok_iff.2 (Or.inr ?_), hrest⟩
      exact ⟨suppression?_keeping.trans hnone, apply_keeping happly⟩

/-- The candidates that a run applies are known by its entries. -/
theorem keep_of_mem_taken (h : r.run cs = .ok r')
    (hkeep : ∀ a ∈ r'.resolution.applied, keep a.promotionId = true) :
    ∀ c ∈ r.taken cs, keep c.result.promotionId = true := by
  obtain ⟨entries, happlied, hall⟩ := run_applied h
  intro c hc
  obtain ⟨a, ha, hgrants⟩ := Correspondence.exists_left hall.flip hc
  have hentry := hkeep a (by rw [happlied]; exact List.mem_append_right _ ha)
  rwa [hgrants.entry] at hentry

end Resolver

/-! ## Stages -/

theorem Candidate.inOrder_keeping (keep : PromotionId → Bool) (stage : Stage)
    (results : List EligibilityResult) :
    inOrder (ofResults stage (results.filter fun r => keep r.promotionId)) =
      keeping keep (inOrder (ofResults stage results)) := by
  rw [keeping, inOrder, inOrder, isRanking_notAfter.filter_mergeSort, ofResults, ofResults,
    List.filter_filterMap, List.filterMap_filter]
  congr 1
  refine List.filterMap_congr fun r _ => ?_
  by_cases hstage : r.conflict.stage = stage
  · cases hgrant : r.grant? with
    | none => simp [hstage]
    | some grant =>
      by_cases hkeep : keep r.promotionId = true <;> simp [hstage, hkeep, Option.filter]
  · simp [hstage]

namespace Outcome

variable {documents : List Document} {ctx : Context} {p p' : Progress}

/-- The progress without the promotions that are not kept. -/
def Progress.keeping (keep : PromotionId → Bool) (p : Progress) : Progress where
  results := p.results.filter fun r => keep r.promotionId
  resolver := p.resolver.keeping keep

theorem evaluateStage_keeping (keep : PromotionId → Bool) (documents : List Document)
    (ctx : Context) (stage : Stage) :
    evaluateStage (documents.filter fun d => keep d.id) ctx stage =
      (evaluateStage documents ctx stage).filter fun r => keep r.promotionId := by
  rw [evaluateStage, evaluateStage, List.filter_filter, List.filter_map, List.filter_filter]
  refine congrArg _ (List.filter_congr fun d _ => ?_)
  exact Bool.and_comm _ _

theorem step_keeping {stage : Stage} (h : step documents ctx p stage = .ok p')
    (hkeep : ∀ a ∈ p'.resolver.resolution.applied, keep a.promotionId = true) :
    step (documents.filter fun d => keep d.id) ctx (p.keeping keep) stage =
      .ok (p'.keeping keep) := by
  obtain ⟨priorDiscount, r, hprior, hr, rfl⟩ := step_eq_ok_iff.1 h
  refine step_eq_ok_iff.2 ⟨priorDiscount, r.keeping keep, hprior, ?_, ?_⟩
  · rw [Resolver.afterStage_eq_run] at hr ⊢
    rw [evaluateStage_keeping, Candidate.inOrder_keeping]
    exact Resolver.run_keeping hr (Resolver.keep_of_mem_taken hr hkeep)
  · rw [evaluateStage_keeping, Progress.keeping, List.filter_append]
    rfl

theorem foldlM_step_keeping {stages : List Stage}
    (h : stages.foldlM (step documents ctx) p = .ok p')
    (hkeep : ∀ a ∈ p'.resolver.resolution.applied, keep a.promotionId = true) :
    stages.foldlM (step (documents.filter fun d => keep d.id) ctx) (p.keeping keep) =
      .ok (p'.keeping keep) := by
  induction stages generalizing p with
  | nil =>
    obtain rfl := foldlM_nil_eq_ok_iff.1 h
    rfl
  | cons stage stages ih =>
    obtain ⟨q, hq, hrest⟩ := foldlM_cons_eq_ok_iff.1 h
    -- what this stage applies is still among the entries when all stages are done
    obtain ⟨entries, happlied, -⟩ := foldlM_step_applied hrest
    have hkeep' : ∀ a ∈ q.resolver.resolution.applied, keep a.promotionId = true := fun a ha =>
      hkeep a (by rw [happlied]; exact List.mem_append_left _ ha)
    exact foldlM_cons_eq_ok_iff.2 ⟨_, step_keeping hq hkeep', ih hrest⟩

end Outcome

/-- Applying only the documents of some promotions, among them all that are applied, comes to the
same outcome without the results and the notes of the others. -/
theorem applyPromotions_keeping (keep : PromotionId → Bool) {documents : List Document}
    {ctx : Context} {out : Outcome} (h : applyPromotions documents ctx = .ok out)
    (hkeep : ∀ a ∈ out.resolution.applied, keep a.promotionId = true) :
    applyPromotions (documents.filter fun d => keep d.id) ctx = .ok
      { results := out.results.filter fun r => keep r.promotionId
        resolution := out.resolution.keeping keep } := by
  obtain ⟨start, hstart, h⟩ := bind_eq_ok_iff.1 h
  obtain ⟨p, hp, h⟩ := bind_eq_ok_iff.1 h
  obtain rfl := pure_eq_ok_iff.1 h
  refine bind_eq_ok_iff.2 ⟨start, hstart, bind_eq_ok_iff.2 ⟨p.keeping keep, ?_, rfl⟩⟩
  have hempty : ({ resolver := start } : Outcome.Progress).keeping keep =
      { resolver := start } := by
    obtain ⟨subtotal, -, rfl⟩ := start_eq_ok_iff.1 hstart
    rfl
  have hrest := Outcome.foldlM_step_keeping hp hkeep
  rwa [hempty] at hrest

/-! ## Removing documents -/

/-- Part of some documents with an identifier each are those whose identifier is in the part. -/
theorem Document.filter_mem_ids {documents kept : List Document}
    (hids : (documents.map (·.id)).Nodup) (hsub : kept.Sublist documents) :
    (documents.filter fun d => decide (d.id ∈ kept.map (·.id))) = kept := by
  induction hsub with
  | slnil => rfl
  | @cons kept documents d hsub ih =>
    rw [List.map_cons, List.nodup_cons] at hids
    have hd : d.id ∉ kept.map (·.id) := fun h => hids.1 ((hsub.map _).subset h)
    rw [List.filter_cons_of_neg (by simpa using hd), ih hids.2]
  | @cons_cons kept documents d hsub ih =>
    rw [List.map_cons, List.nodup_cons] at hids
    rw [List.filter_cons_of_pos (by simp)]
    refine congrArg (d :: ·) (Eq.trans (List.filter_congr fun e he => ?_) (ih hids.2))
    have hne : e.id ≠ d.id := fun h => hids.1 (h ▸ List.mem_map_of_mem he)
    simp [hne]

theorem Resolution.isApplied_iff {r : Resolution} {id : PromotionId} :
    r.isApplied id = true ↔ id ∈ r.applied.map (·.promotionId) := by
  simp [isApplied]

theorem Document.EvaluatesTo.map_promotionId {ctx : Context} {entries : List AppliedPromotion}
    {ds : List Document} {results : List EligibilityResult}
    (h : List.Forall₂ (EvaluatesTo ctx entries) ds results) :
    results.map (·.promotionId) = ds.map (·.id) := by
  induction h with
  | nil => rfl
  | cons hresult _ ih =>
    obtain ⟨priorDiscount, -, rfl⟩ := hresult
    rw [List.map_cons, List.map_cons, ih]
    rfl

/-- What is applied and what is suppressed are different promotions among those of the documents. -/
theorem applyPromotions_subperm {documents : List Document} {ctx : Context} {out : Outcome}
    (h : applyPromotions documents ctx = .ok out) :
    (out.resolution.applied.map (·.promotionId) ++
      out.resolution.suppressed.map (·.promotionId)).Subperm (documents.map (·.id)) := by
  obtain ⟨hresolve, hall⟩ := applyPromotions_spec h
  refine (resolve_promotionIds_perm hresolve).subperm.trans ?_
  have heligible := (List.filter_sublist (p := EligibilityResult.isEligible) (l := out.results)).map
    (·.promotionId)
  rw [Document.EvaluatesTo.map_promotionId hall] at heligible
  exact heligible.subperm.trans ((Document.inStageOrder_perm documents).map _).subperm

/-- Documents that are not applied may be removed: what is left is applied as before, in the same
order and to the same amounts, and the totals are the same. If nothing but what is applied is left,
all of it is applied again and none of it suppressed. -/
theorem applyPromotions_sublist {documents kept : List Document} {ctx : Context} {out : Outcome}
    (hids : (documents.map (·.id)).Nodup) (h : applyPromotions documents ctx = .ok out)
    (hsub : kept.Sublist documents)
    (hkept : ∀ d ∈ documents, out.resolution.isApplied d.id = true → d ∈ kept) :
    ∃ out', applyPromotions kept ctx = .ok out' ∧
      out'.resolution.applied = out.resolution.applied ∧
      out'.resolution.totalDiscount = out.resolution.totalDiscount ∧
      out'.resolution.totalCashback = out.resolution.totalCashback ∧
      ((∀ d ∈ kept, out.resolution.isApplied d.id = true) →
        out'.resolution.suppressed = [] ∧
        (out'.resolution.applied.map (·.promotionId)).Perm (kept.map (·.id))) := by
  obtain ⟨ids, hperm, hsublist⟩ := applyPromotions_subperm h
  have hnodup := hperm.nodup_iff.1 (hids.sublist hsublist)
  have hmem : ∀ id ∈ out.resolution.applied.map (·.promotionId), id ∈ kept.map (·.id) := by
    intro id hid
    have hdocument := (applyPromotions_subperm h).subset (List.mem_append_left _ hid)
    obtain ⟨d, hd, rfl⟩ := List.mem_map.1 hdocument
    exact List.mem_map_of_mem (hkept d hd (Resolution.isApplied_iff.2 hid))
  have hrun := applyPromotions_keeping (fun id => decide (id ∈ kept.map (·.id))) h fun a ha =>
    decide_eq_true (hmem _ (List.mem_map_of_mem ha))
  rw [Document.filter_mem_ids hids hsub] at hrun
  refine ⟨_, hrun, rfl, rfl, rfl, fun hall => ?_⟩
  have happlied : ∀ id ∈ kept.map (·.id), id ∈ out.resolution.applied.map (·.promotionId) := by
    intro id hid
    obtain ⟨d, hd, rfl⟩ := List.mem_map.1 hid
    exact Resolution.isApplied_iff.1 (hall d hd)
  obtain ⟨hnodupApplied, -, hdisjoint⟩ := List.nodup_append.1 hnodup
  constructor
  · -- a note that is left would be on a promotion that is applied
    refine List.filter_eq_nil_iff.2 fun s hs hkeep => ?_
    exact hdisjoint _ (happlied _ (of_decide_eq_true hkeep)) _ (List.mem_map_of_mem hs) rfl
  · have hkeptids := hids.sublist (hsub.map _)
    exact (List.perm_ext_iff_of_nodup hnodupApplied hkeptids).2 fun id => ⟨hmem id, happlied id⟩

/-- Without the offer that only collides, the shop's order applies the other two as before. -/
theorem applyPromotions_sublist_shop :
    (Sample.documents.map (·.id)).Nodup ∧
      applyPromotions Sample.documents Sample.context = .ok Sample.outcome ∧
      Sample.documents.tail.Sublist Sample.documents ∧
      (∀ d ∈ Sample.documents,
        Sample.outcome.resolution.isApplied d.id = true → d ∈ Sample.documents.tail) ∧
      ∃ out', applyPromotions Sample.documents.tail Sample.context = .ok out' ∧
        out'.resolution.applied = Sample.outcome.resolution.applied ∧
        out'.resolution.suppressed = [] := by
  have hids : (Sample.documents.map (·.id)).Nodup := by decide +kernel
  have hsub : Sample.documents.tail.Sublist Sample.documents := List.tail_sublist _
  have hkept : ∀ d ∈ Sample.documents,
      Sample.outcome.resolution.isApplied d.id = true → d ∈ Sample.documents.tail := by
    intro d hd happlied
    rcases List.mem_cons.1 hd with rfl | hd
    · exact absurd happlied (by decide +kernel)
    · exact hd
  have hall : ∀ d ∈ Sample.documents.tail, Sample.outcome.resolution.isApplied d.id = true := by
    decide +kernel
  obtain ⟨out', hrun, happlied, -, -, honly⟩ :=
    applyPromotions_sublist hids Sample.applyPromotions_documents hsub hkept
  exact ⟨hids, Sample.applyPromotions_documents, hsub, hkept, out', hrun, happlied,
    (honly hall).1⟩

end Promotions

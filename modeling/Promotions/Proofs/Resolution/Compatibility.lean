import Promotions.Proofs.Resolution.Stages

/-!
# Proofs: what is applied together

A candidate is compared with what was applied before it, and only with what the resolver remembers
of that: a flag and a list of exclusions. Since it remembers all of it, every two promotions that
are applied have been compared, whichever came first and in whichever stages they are.
-/

namespace Promotions

/-- What of a promotion conflicts are decided on. -/
structure Contender where
  /-- Identifies the promotion. -/
  id : PromotionId
  /-- The code people know it by. -/
  code : String
  /-- How it gets along with others. -/
  policy : ConflictPolicy

/-- The contender that a document is. -/
def Document.contender (d : Document) : Contender := ⟨d.id, d.code, d.conflict⟩

/-- The contender that a candidate is. -/
def Candidate.contender (c : Candidate) : Contender :=
  ⟨c.result.promotionId, c.result.code, c.result.conflict⟩

namespace Contender

/-- Neither of two contenders rules the other out. -/
def Apart (a b : Contender) : Prop :=
  b.id ∉ a.policy.cannotCombineWith ∧ a.id ∉ b.policy.cannotCombineWith

/-- The contender is asked for on the bill, by its identifier or by its code in any case. -/
def Requested (bill : Bill) (a : Contender) : Prop :=
  ∃ text ∈ bill.requestedPromotions, text = a.id.toText ∨ Text.lower text = Text.lower a.code

/-- Contenders that may be applied to a bill together. -/
structure Compatible (bill : Bill) (as : List Contender) : Prop where
  nonStackable : (as.filter fun a => !a.policy.isStackable).length ≤ 1
  apart : as.Pairwise Apart
  requested : ∀ a ∈ as, a.policy.isAutoApply = false ∨ a.policy.requireVoucher = true →
    a.Requested bill

variable {bill : Bill} {as : List Contender} {a : Contender}

theorem needsRequest_iff {policy : ConflictPolicy} :
    policy.needsRequest = true ↔ policy.isAutoApply = false ∨ policy.requireVoucher = true := by
  simp [ConflictPolicy.needsRequest]

theorem compatible_nil : Compatible bill [] :=
  ⟨Nat.zero_le _, List.Pairwise.nil, by simp⟩

/-- One more contender may be applied if it is asked for where it has to be, nothing before and it
rule each other out, and at most one of all does not stack. -/
theorem Compatible.append (h : Compatible bill as)
    (hrequested : a.policy.needsRequest = true → a.Requested bill)
    (hapart : ∀ b ∈ as, Apart b a)
    (hstack : a.policy.isStackable = false → ∀ b ∈ as, b.policy.isStackable = true) :
    Compatible bill (as ++ [a]) := by
  refine ⟨?_, ?_, ?_⟩
  · rw [List.filter_append, List.length_append]
    cases ha : a.policy.isStackable with
    | true =>
      simpa [ha] using h.nonStackable
    | false =>
      have hnone : (as.filter fun b => !b.policy.isStackable) = [] :=
        List.filter_eq_nil_iff.2 fun b hb => by simp [hstack ha b hb]
      simp [hnone, ha]
  · rw [List.pairwise_append]
    exact ⟨h.apart, List.pairwise_singleton _ _, fun b hb c hc => by
      rw [List.mem_singleton.1 hc]
      exact hapart b hb⟩
  · intro b hb hneeds
    rcases List.mem_append.1 hb with hb | hb
    · exact h.requested b hb hneeds
    · rw [List.mem_singleton.1 hb] at hneeds ⊢
      exact hrequested (needsRequest_iff.2 hneeds)

end Contender

namespace Resolver

variable {r r' : Resolver} {c : Candidate} {cs ts : List Candidate}

/-- The resolver remembers, of candidates that were applied, whom each rules out and whether one
does not stack. -/
structure Remembers (r : Resolver) (ts : List Candidate) : Prop where
  incompatible :
    r.incompatible = ts.map fun t => (t.result.promotionId, t.result.conflict.cannotCombineWith)
  nonStackableApplied :
    r.nonStackableApplied = ts.any fun t => !t.result.conflict.isStackable

theorem Remembers.apply (hm : r.Remembers ts) (h : r.Applies c r') :
    r'.Remembers (ts ++ [c]) := by
  refine ⟨?_, ?_⟩
  · rw [h.incompatible, hm.incompatible, List.map_append]
    rfl
  · rw [h.nonStackableApplied, hm.nonStackableApplied, List.any_append]
    simp

/-- A candidate that is not suppressed was compared with everything that was applied. -/
theorem Remembers.apart (hm : r.Remembers ts) (h : r.isIncompatible c = false) :
    ∀ t ∈ ts, Contender.Apart t.contender c.contender := by
  intro t ht
  simp only [isIncompatible, hm.incompatible, List.any_map, List.any_eq_false] at h
  have := h t ht
  simpa [Contender.Apart, Candidate.contender] using this

theorem Remembers.compatible (hm : r.Remembers ts)
    (hts : Contender.Compatible r.bill (ts.map Candidate.contender))
    (h : r.suppression? c = none) :
    Contender.Compatible r.bill ((ts ++ [c]).map Candidate.contender) := by
  obtain ⟨hrequest, hincompatible, hstack, -⟩ := suppression?_eq_none_iff.1 h
  rw [List.map_append]
  refine hts.append (fun hneeds => Bill.requests_iff.1 (hrequest hneeds)) ?_ ?_
  · intro b hb
    obtain ⟨t, ht, rfl⟩ := List.mem_map.1 hb
    exact hm.apart hincompatible t ht
  · intro hc b hb
    obtain ⟨t, ht, rfl⟩ := List.mem_map.1 hb
    have hall := hstack hc
    rw [hm.nonStackableApplied, List.any_eq_false] at hall
    simpa [Candidate.contender] using hall t ht

/-- What a run applies may be applied together with what was applied before. -/
theorem Remembers.run (hm : r.Remembers ts)
    (hts : Contender.Compatible r.bill (ts.map Candidate.contender)) (h : r.run cs = .ok r') :
    Contender.Compatible r.bill ((ts ++ r.taken cs).map Candidate.contender) := by
  induction cs generalizing r ts with
  | nil => simpa [taken, decisions] using hts
  | cons c cs ih =>
    rcases run_cons_taken h with ⟨reason, -, hrun, ht⟩ | ⟨s, hnone, happly, hrun, ht⟩
    · rw [ht]
      exact ih (r := r.suppress c reason) ⟨hm.incompatible, hm.nonStackableApplied⟩ hts hrun
    · have happlies := applies_of_apply happly
      have hts' := hm.compatible hts hnone
      rw [← happlies.bill] at hts' ⊢
      have := ih (hm.apply happlies) hts' hrun
      rw [ht, List.append_cons]
      exact this

end Resolver

theorem takenFrom_compatible {bill : Bill} {results : List EligibilityResult} {out : Resolution}
    (h : resolve bill results = .ok out) :
    Contender.Compatible bill ((takenFrom bill results).map Candidate.contender) := by
  obtain ⟨r, r', hstart, hrun, -⟩ := resolve_eq_ok_iff.1 h
  obtain ⟨subtotal, -, rfl⟩ := start_eq_ok_iff.1 hstart
  simp only [takenFrom, hstart]
  have hm : Resolver.Remembers
      { bill, remaining := subtotal, resolution := { currency := bill.currency } } [] := ⟨rfl, rfl⟩
  exact hm.run Contender.compatible_nil hrun

/-- The candidates that are applied are different results. -/
theorem takenFrom_subperm {bill : Bill} {results : List EligibilityResult} {out : Resolution}
    (h : resolve bill results = .ok out) :
    ((takenFrom bill results).map (·.result)).Subperm results := by
  have hsub := ((takenFrom_sublist h).map (·.result)).subperm
  have hperm := (Candidate.considered_perm results).subperm
  exact (hsub.trans hperm).trans List.filter_sublist.subperm

/-- The promotions that are applied to a bill, which are different ones of those given, may be
applied together, whatever their stages. -/
theorem applyPromotions_compatible {documents : List Document} {ctx : Context} {out : Outcome}
    (h : applyPromotions documents ctx = .ok out) :
    ∃ ds : List Document, ds.Subperm documents ∧
      List.Forall₂ (fun d c => Document.EvaluatesTo ctx out.resolution.applied d c.result) ds
        (takenFrom ctx.bill out.results) ∧
      List.Forall₂ Candidate.Grants (takenFrom ctx.bill out.results) out.resolution.applied ∧
      Contender.Compatible ctx.bill (ds.map Document.contender) := by
  obtain ⟨hresolve, hall⟩ := applyPromotions_spec h
  obtain ⟨ds, hds, hall'⟩ := Correspondence.exists_subperm hall (takenFrom_subperm hresolve)
  rw [List.forall₂_map_right_iff] at hall'
  refine ⟨ds, hds.trans (Document.inStageOrder_perm documents).subperm, hall',
    resolve_applied hresolve, ?_⟩
  have hsame : ds.map Document.contender =
      (takenFrom ctx.bill out.results).map Candidate.contender := by
    rw [← List.forall₂_eq_eq_eq, List.forall₂_map_left_iff, List.forall₂_map_right_iff]
    refine hall'.imp fun d c hc => ?_
    obtain ⟨priorDiscount, -, hresult⟩ := hc
    rw [Candidate.contender, hresult]
    rfl
  rw [hsame]
  exact takenFrom_compatible hresolve

/-- In the shop the voucher, which was asked for, and the promotion for the payment are applied. -/
theorem applyPromotions_compatible_shop :
    applyPromotions Sample.documents Sample.context = .ok Sample.outcome ∧
    ∃ ds : List Document, ds.Subperm Sample.documents ∧ ds.length = 2 ∧
      Contender.Compatible Sample.bill (ds.map Document.contender) := by
  have h := Sample.applyPromotions_documents
  obtain ⟨ds, hds, htaken, hgrants, hcompatible⟩ := applyPromotions_compatible h
  exact ⟨h, ds, hds, htaken.length_eq.trans hgrants.length_eq, hcompatible⟩

end Promotions

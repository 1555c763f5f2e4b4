import Promotions.Proofs.Resolution.Compatibility
import Promotions.Proofs.Resolution.Order

/-!
# Proofs: why candidates are suppressed

Resolution decides on every candidate once, in one order. A suppressed candidate was compared with
what had been applied by then, so its reason points to a candidate that comes before it, or to a
bill of which nothing was left; and then nothing is left of it in the end either, because what is
taken off only grows and never passes the subtotal.
-/

namespace Promotions

open Fallible

/-- What is decided on a candidate: it is applied, or suppressed for a reason. -/
abbrev Decision := Candidate × Option SuppressionReason

/-- The entry of a candidate that is suppressed. -/
def Candidate.note (c : Candidate) (reason : SuppressionReason) : SuppressedPromotion where
  promotionId := c.result.promotionId
  code := c.result.code
  reason := reason

namespace Decision

/-- The candidates that are applied. -/
def applied (ds : List Decision) : List Candidate := (ds.filter fun d => d.2.isNone).map (·.1)

/-- The entries of the candidates that are suppressed. -/
def notes (ds : List Decision) : List SuppressedPromotion := ds.filterMap fun d => d.2.map d.1.note

/-- Every candidate is either applied or noted. -/
theorem promotionIds_perm (ds : List Decision) :
    ((applied ds).map (·.result.promotionId) ++ (notes ds).map (·.promotionId)).Perm
      ((ds.map (·.1)).map (·.result.promotionId)) := by
  induction ds with
  | nil => exact List.Perm.refl _
  | cons d ds ih =>
    obtain ⟨c, decided⟩ := d
    cases decided with
    | none => exact ih.cons c.result.promotionId
    | some reason => exact List.perm_middle.trans (ih.cons c.result.promotionId)

end Decision

theorem Candidate.map_promotionId_of_grants {cs : List Candidate} {as : List AppliedPromotion}
    (h : List.Forall₂ Grants cs as) :
    as.map (·.promotionId) = cs.map (·.result.promotionId) := by
  induction h with
  | nil => rfl
  | cons hgrants _ ih =>
    rw [List.map_cons, List.map_cons, ih, hgrants.entry]
    rfl

/-- What a reason says of a candidate, the candidates applied before it, and the bill, of which
`total` of `subtotal` is taken off in the end. -/
def Candidate.Justified (bill : Bill) (earlier : List Candidate) (subtotal total : Amount)
    (c : Candidate) : SuppressionReason → Prop
  | .notRequested =>
    (c.result.conflict.isAutoApply = false ∨ c.result.conflict.requireVoucher = true) ∧
      ¬c.contender.Requested bill
  | .explicitlyIncompatible => ∃ t ∈ earlier, ¬t.contender.Apart c.contender
  | .nonStackableConflict =>
    c.result.conflict.isStackable = false ∧ ∃ t ∈ earlier, t.result.conflict.isStackable = false
  | .billFullyDiscounted =>
    c.grant.benefit.reducesBill = true ∧ 0 < c.grant.discount ∧ total = max 0 subtotal

namespace Resolver

variable {r r' : Resolver} {c : Candidate} {cs ts : List Candidate} {subtotal : Amount}

/-! ## One decision -/

theorem suppression?_cases {reason : SuppressionReason} (h : r.suppression? c = some reason) :
    (reason = .notRequested ∧ c.result.conflict.needsRequest = true ∧
      r.bill.requests c.result.promotionId c.result.code = false) ∨
    (reason = .explicitlyIncompatible ∧ r.isIncompatible c = true) ∨
    (reason = .nonStackableConflict ∧ c.result.conflict.isStackable = false ∧
      r.nonStackableApplied = true) ∨
    (reason = .billFullyDiscounted ∧ c.grant.benefit.reducesBill = true ∧
      0 < c.grant.discount ∧ r.remaining ≤ 0) := by
  simp only [suppression?] at h
  split at h
  · rename_i hrequest
    cases h
    exact Or.inl ⟨rfl, by simpa using hrequest⟩
  · split at h
    · rename_i hincompatible
      cases h
      exact Or.inr (Or.inl ⟨rfl, hincompatible⟩)
    · split at h
      · rename_i hstack
        cases h
        exact Or.inr (Or.inr (Or.inl ⟨rfl, by simpa using hstack⟩))
      · split at h
        · rename_i hleft
          cases h
          exact Or.inr (Or.inr (Or.inr ⟨rfl, by simpa [and_assoc] using hleft⟩))
        · cases h

theorem Remembers.not_apart (hm : r.Remembers ts) (h : r.isIncompatible c = true) :
    ∃ t ∈ ts, ¬t.contender.Apart c.contender := by
  simp only [isIncompatible, hm.incompatible, List.any_map, List.any_eq_true] at h
  obtain ⟨t, ht, hexcludes⟩ := h
  refine ⟨t, ht, fun hapart => ?_⟩
  simp only [Contender.Apart, Candidate.contender] at hapart
  simp [hapart.1, hapart.2] at hexcludes

theorem Remembers.nonStackable (hm : r.Remembers ts) (h : r.nonStackableApplied = true) :
    ∃ t ∈ ts, t.result.conflict.isStackable = false := by
  rw [hm.nonStackableApplied, List.any_eq_true] at h
  simpa using h

/-- Nothing is left of a bill only if all of it is taken off. -/
theorem Balanced.le_totalDiscount (hr : r.Balanced subtotal) (h : r.remaining ≤ 0) :
    max 0 subtotal.toInt ≤ r.resolution.totalDiscount.toInt := by
  have hremaining := hr.remaining
  have hnonneg := hr.nonneg
  rw [Amount.le_iff, Amount.toInt_zero] at h
  omega

/-! ## Where a run stands -/

theorem Remembers.after (hm : r.Remembers ts) (h : r.run cs = .ok r') :
    r'.Remembers (ts ++ r.taken cs) := by
  induction cs generalizing r ts with
  | nil =>
    obtain rfl := foldlM_nil_eq_ok_iff.1 h
    simpa [taken, decisions] using hm
  | cons c cs ih =>
    rcases run_cons_taken h with ⟨reason, -, hrun, ht⟩ | ⟨s, -, happly, hrun, ht⟩
    · rw [ht]
      exact ih (r := r.suppress c reason) ⟨hm.incompatible, hm.nonStackableApplied⟩ hrun
    · rw [ht, List.append_cons]
      exact ih (hm.apply (applies_of_apply happly)) hrun

theorem run_bill (h : r.run cs = .ok r') : r'.bill = r.bill :=
  run_invariant (P := fun s => s.bill = r.bill) (fun _ _ _ hs _ => hs)
    (fun _ _ _ hs _ ha => ha.bill.trans hs) rfl h

/-- What is taken off the bill only grows. -/
theorem run_totalDiscount_le (h : r.run cs = .ok r') :
    r.resolution.totalDiscount.toInt ≤ r'.resolution.totalDiscount.toInt := by
  refine run_invariant
    (P := fun s => r.resolution.totalDiscount.toInt ≤ s.resolution.totalDiscount.toInt)
    (fun _ _ _ hs _ => hs) (fun s c s' hs _ ha => ?_) (Int.le_refl _) h
  have hbounds := discountOf_entry_bounds s c
  rw [ha.totalDiscount]
  omega

theorem run_suppressed (h : r.run cs = .ok r') :
    r'.resolution.suppressed = r.resolution.suppressed ++ Decision.notes (r.decisions cs) := by
  induction cs generalizing r with
  | nil =>
    obtain rfl := foldlM_nil_eq_ok_iff.1 h
    simp [decisions, Decision.notes]
  | cons c cs ih =>
    rcases run_cons_cases h with ⟨reason, -, hrun, hd⟩ | ⟨s, -, happly, hrun, hd⟩
    · rw [ih hrun, hd, suppress, List.append_assoc]
      rfl
    · rw [ih hrun, hd, (applies_of_apply happly).suppressed]
      rfl

theorem decisions_append {ds : List Candidate} (h : r.run cs = .ok r') :
    r.decisions (cs ++ ds) = r.decisions cs ++ r'.decisions ds := by
  induction cs generalizing r with
  | nil =>
    obtain rfl := foldlM_nil_eq_ok_iff.1 h
    rfl
  | cons c cs ih =>
    obtain ⟨s, hs, hrun⟩ := foldlM_cons_eq_ok_iff.1 h
    simp only [List.cons_append, decisions, hs]
    rw [ih hrun]

/-- Before each of its decisions a run has come to a resolver, on which the decision rests. -/
theorem run_split {before after : List Decision} {d : Decision} (h : r.run cs = .ok r')
    (hd : r.decisions cs = before ++ d :: after) :
    ∃ s, r.run (before.map (·.1)) = .ok s ∧ r.decisions (before.map (·.1)) = before ∧
      s.suppression? d.1 = d.2 ∧ s.run (d.1 :: after.map (·.1)) = .ok r' := by
  have hcs := map_fst_decisions h
  rw [hd, List.map_append, List.map_cons] at hcs
  subst hcs
  rw [run_append, bind_eq_ok_iff] at h
  obtain ⟨s, hbefore, hafter⟩ := h
  have hlength : (r.decisions (before.map (·.1))).length = before.length := by
    have := congrArg List.length (map_fst_decisions hbefore)
    simpa using this
  rw [decisions_append hbefore] at hd
  obtain ⟨hfirst, hrest⟩ := List.append_inj hd hlength
  refine ⟨s, hbefore, hfirst, ?_, hafter⟩
  obtain ⟨t, ht, -⟩ := foldlM_cons_eq_ok_iff.1 hafter
  simp only [decisions, ht, List.cons.injEq] at hrest
  exact congrArg (·.2) hrest.1

/-! ## Decisions and their reasons -/

/-- A suppressed candidate is suppressed for a reason that what was applied before it and what is
taken off in the end bear out. -/
theorem justified_of_decisions {before after : List Decision} {reason : SuppressionReason}
    (hm : r.Remembers ts) (hr : r.Balanced subtotal) (h : r.run cs = .ok r')
    (hd : r.decisions cs = before ++ (c, some reason) :: after) :
    c.Justified r.bill (ts ++ Decision.applied before) subtotal r'.resolution.totalDiscount
      reason := by
  obtain ⟨s, hbefore, hdecisions, hreason, hafter⟩ := run_split h hd
  have hms := hm.after hbefore
  have happlied : r.taken (before.map (·.1)) = Decision.applied before := by
    rw [taken, hdecisions]
    rfl
  rw [happlied] at hms
  rcases suppression?_cases hreason with
    ⟨rfl, hneeds, hrequests⟩ | ⟨rfl, hincompatible⟩ | ⟨rfl, hstack, hnonStackable⟩ |
    ⟨rfl, hreduces, hpositive, hremaining⟩
  · refine ⟨Contender.needsRequest_iff.1 hneeds, fun hrequested => ?_⟩
    rw [run_bill hbefore] at hrequests
    exact Bool.false_ne_true (hrequests.symm.trans (Bill.requests_iff.2 hrequested))
  · exact hms.not_apart hincompatible
  · exact ⟨hstack, hms.nonStackable hnonStackable⟩
  · have hspent := (hr.run hbefore).le_totalDiscount hremaining
    have hgrows := run_totalDiscount_le hafter
    have hle := (hr.run h).le
    refine ⟨hreduces, hpositive, Amount.ext ?_⟩
    rw [Amount.toInt_max, Amount.toInt_zero]
    omega

end Resolver

/-- Every promotion a bill is eligible for is either applied or suppressed, and once. -/
theorem resolve_promotionIds_perm {bill : Bill} {results : List EligibilityResult}
    {out : Resolution} (h : resolve bill results = .ok out) :
    (out.applied.map (·.promotionId) ++ out.suppressed.map (·.promotionId)).Perm
      ((results.filter (·.isEligible)).map (·.promotionId)) := by
  obtain ⟨r, r', hstart, hrun, rfl⟩ := resolve_eq_ok_iff.1 h
  obtain ⟨subtotal, -, hr⟩ := start_eq_ok_iff.1 hstart
  obtain ⟨entries, happlied, hall⟩ := Resolver.run_applied hrun
  have hnone : r.resolution.applied = [] ∧ r.resolution.suppressed = [] := by
    rw [hr]
    exact ⟨rfl, rfl⟩
  have hdecided := Decision.promotionIds_perm (r.decisions (Candidate.considered results))
  have hresults := (Candidate.considered_perm results).map (·.promotionId)
  rw [List.map_map] at hresults
  rw [Resolver.map_fst_decisions hrun] at hdecided
  rw [happlied, Resolver.run_suppressed hrun, hnone.1, hnone.2, List.nil_append, List.nil_append,
    Candidate.map_promotionId_of_grants hall]
  exact hdecided.trans hresults

/-- The resolution of a bill decides once on every promotion the bill is eligible for, in the stable
order of stage, priority and code: those that are applied give the applied entries and the others
give the suppressed ones, each in that order, and every suppression has its cause. -/
theorem resolve_accounts {bill : Bill} {results : List EligibilityResult} {out : Resolution}
    (h : resolve bill results = .ok out) :
    ∃ (subtotal : Amount) (ds : List Decision), bill.subtotal = .ok subtotal ∧
      ds.map (·.1) = (Candidate.eligible results).mergeSort Candidate.notLater ∧
      List.Forall₂ Candidate.Grants (Decision.applied ds) out.applied ∧
      out.suppressed = Decision.notes ds ∧
      ∀ before c reason after, ds = before ++ (c, some reason) :: after →
        c.Justified bill (Decision.applied before) subtotal out.totalDiscount reason := by
  obtain ⟨r, r', hstart, hrun, rfl⟩ := resolve_eq_ok_iff.1 h
  obtain ⟨subtotal, hs, hr⟩ := start_eq_ok_iff.1 hstart
  obtain ⟨entries, happlied, hall⟩ := Resolver.run_applied hrun
  have hsuppressed := Resolver.run_suppressed hrun
  have hm : r.Remembers [] := by
    rw [hr]
    exact ⟨rfl, rfl⟩
  refine ⟨subtotal, r.decisions (Candidate.considered results), hs, ?_, ?_, ?_,
    fun before c reason after hd => ?_⟩
  · rw [Resolver.map_fst_decisions hrun, Candidate.considered_eq_mergeSort]
  · rw [happlied, hr]
    rwa [hr] at hall
  · rw [hsuppressed, hr]
    rfl
  · have hjustified :=
      Resolver.justified_of_decisions hm (Resolver.balanced_start hstart hs) hrun hd
    rwa [hr] at hjustified

namespace Sample

/-- One discount that takes the whole bill and does not stack, and four that then do not apply: a
voucher, one that rules the first out, another that does not stack, and one that finds nothing. -/
def crowd : List EligibilityResult :=
  [result 1 "A" { policy .itemLevel with isStackable := false } 120 .discount,
   result 2 "V" { policy .itemLevel with requireVoucher := true } 10 .discount,
   result 3 "C" { policy .cartLevel with cannotCombineWith := .ofList [id 1] } 10 .discount,
   result 4 "D" { policy .cartLevel with isStackable := false } 10 .discount,
   result 5 "E" (policy .paymentLevel) 10 .discount]

/-- What is decided on them. -/
def crowdResolution : Resolution where
  currency := "IDR"
  applied := [⟨id 1, "A", .itemLevel, amount 100, .discount, [0]⟩]
  suppressed :=
    [⟨id 2, "V", .notRequested⟩, ⟨id 3, "C", .explicitlyIncompatible⟩,
     ⟨id 4, "D", .nonStackableConflict⟩, ⟨id 5, "E", .billFullyDiscounted⟩]
  totalDiscount := amount 100

end Sample

/-- In the crowd there is a candidate for each of the four reasons. -/
theorem resolve_accounts_shop :
    resolve Sample.bill Sample.crowd = .ok Sample.crowdResolution ∧
    ∃ ds : List Decision, ds.length = 5 ∧ (Decision.applied ds).length = 1 ∧
      Decision.notes ds = Sample.crowdResolution.suppressed ∧
      ∀ before c reason after, ds = before ++ (c, some reason) :: after →
        c.Justified Sample.bill (Decision.applied before) (Sample.amount 100) (Sample.amount 100)
          reason := by
  have h : resolve Sample.bill Sample.crowd = .ok Sample.crowdResolution := by
    rw [resolve_of_pairwise fun stage => by cases stage <;> decide]
    decide +kernel
  obtain ⟨subtotal, ds, hs, hfst, happlied, hnotes, hjustified⟩ := resolve_accounts h
  obtain rfl := Except.ok.inj (hs.symm.trans Sample.subtotal_bill)
  refine ⟨h, ds, ?_, happlied.length_eq, hnotes.symm, hjustified⟩
  have hlength := congrArg List.length hfst
  rw [List.length_map, List.length_mergeSort] at hlength
  exact hlength

end Promotions

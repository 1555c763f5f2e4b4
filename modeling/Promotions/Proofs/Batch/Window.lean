import Promotions.Batch
import Promotions.Proofs.Calendar.DayNumbers

/-!
# Proofs: which promotions a window selects

A window about today is decided by two comparisons with dates that stop at the ends of the calendar.
What it selects is what is valid today, starts within the days ahead or ended within the days back,
each counted on the calendar, wherever today is and however many days there are.
-/

namespace Promotions.SelectionWindow

variable {startDate endDate today : Date}

theorem selects_currentOnly_iff :
    currentOnly.selects startDate endDate today = true ↔ startDate ≤ today ∧ today ≤ endDate := by
  simp [selects]

/-- The two comparisons do not notice the ends of the calendar. -/
theorem selects_includeFuture_iff {futureDays pastDays : Count} :
    (includeFuture futureDays pastDays).selects startDate endDate today = true ↔
      startDate.dayNumber ≤ today.dayNumber + futureDays.toNat ∧
        today.dayNumber + -(pastDays.toNat : Int) ≤ endDate.dayNumber := by
  rw [selects, Bool.and_eq_true, decide_eq_true_eq, decide_eq_true_eq,
    Date.le_shift_iff (Int.natCast_nonneg _),
    Date.shift_le_iff (Int.neg_nonpos_of_nonneg (Int.natCast_nonneg _))]

/-- A window about today selects a promotion just if it is valid today, starts in at most so many
days or ended at most so many days ago. So it selects no less with more days, and what is valid
today with none; and the same is selected whichever way days are added, if that is exact and fails
only where a span or the calendar ends. -/
theorem includeFuture_selects (hdates : startDate ≤ endDate) (today : Date) :
    (∀ futureDays pastDays : Count,
      (includeFuture futureDays pastDays).selects startDate endDate today = true ↔
        (startDate ≤ today ∧ today ≤ endDate) ∨
        (today < startDate ∧ startDate.dayNumber - today.dayNumber ≤ futureDays.toNat) ∨
        (endDate < today ∧ today.dayNumber - endDate.dayNumber ≤ pastDays.toNat)) ∧
    (∀ futureDays pastDays futureDays' pastDays' : Count, futureDays ≤ futureDays' →
      pastDays ≤ pastDays' →
      (includeFuture futureDays pastDays).selects startDate endDate today = true →
      (includeFuture futureDays' pastDays').selects startDate endDate today = true) ∧
    (includeFuture 0 0).selects startDate endDate today =
      currentOnly.selects startDate endDate today ∧
    ∀ add, Date.IsExactAddition add → ∀ futureDays pastDays : Count,
      (includeFuture futureDays pastDays).selects startDate endDate today =
        (decide (startDate ≤ (add today futureDays.toNat).getD Date.last) &&
          decide ((add today (-(pastDays.toNat : Int))).getD Date.first ≤ endDate)) := by
  have hdays : startDate.dayNumber ≤ endDate.dayNumber := hdates
  refine ⟨fun futureDays pastDays => ?_, fun futureDays pastDays futureDays' pastDays' hfuture hpast
    hselects => ?_, ?_, fun add hadd futureDays pastDays => ?_⟩
  · rw [selects_includeFuture_iff]
    show _ ↔ (startDate.dayNumber ≤ today.dayNumber ∧ today.dayNumber ≤ endDate.dayNumber) ∨
      (today.dayNumber < startDate.dayNumber ∧ _) ∨ (endDate.dayNumber < today.dayNumber ∧ _)
    omega
  · rw [UInt32.le_iff_toNat_le] at hfuture hpast
    rw [selects_includeFuture_iff] at hselects ⊢
    omega
  · rw [Bool.eq_iff_iff, selects_includeFuture_iff, selects_currentOnly_iff]
    show _ ↔ startDate.dayNumber ≤ today.dayNumber ∧ today.dayNumber ≤ endDate.dayNumber
    simp
  · rw [selects, ← Date.shift_ahead hadd today (Int.natCast_nonneg _),
      ← Date.shift_back hadd today (Int.neg_nonpos_of_nonneg (Int.natCast_nonneg _))]

/-- On the last date of the calendar what ended on the tenth of the month ended twenty-one days ago,
and as many days ahead as a count has do not matter. -/
theorem includeFuture_selects_lastDate :
    let startDate : Date := ⟨9999, 12, 1, by decide⟩
    let endDate : Date := ⟨9999, 12, 10, by decide⟩
    startDate ≤ endDate ∧ Date.IsExactAddition Date.addSpan? ∧
      Date.last.addSpan? 4294967295 = none ∧ (21 : Count) ≤ 22 ∧
      (includeFuture 4294967295 21).selects startDate endDate .last = true ∧
      (includeFuture 4294967295 22).selects startDate endDate .last = true ∧
      (includeFuture 4294967295 20).selects startDate endDate .last = false ∧
      (decide (startDate ≤ (Date.last.addSpan? (4294967295 : Count).toNat).getD Date.last) &&
        decide ((Date.last.addSpan? (-((21 : Count).toNat : Int))).getD Date.first ≤ endDate)) =
          true := by
  intro startDate endDate
  have hdates : startDate ≤ endDate := by decide
  obtain ⟨hselects, hmono, -, hadds⟩ := includeFuture_selects hdates Date.last
  have hlately : (includeFuture 4294967295 21).selects startDate endDate .last = true :=
    (hselects _ _).2 (.inr (.inr ⟨by decide, by decide⟩))
  refine ⟨hdates, Date.isExactAddition_addSpan?, by decide, by decide, hlately, ?_, ?_, ?_⟩
  · exact hmono _ _ _ _ (by decide) (by decide) hlately
  · rw [Bool.eq_false_iff]
    intro hearlier
    exact absurd ((hselects _ _).1 hearlier) (by decide)
  · rw [← hadds _ Date.isExactAddition_addSpan?]
    exact hlately

end Promotions.SelectionWindow

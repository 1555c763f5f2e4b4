import Promotions.Eligibility.Formula
import Promotions.Proofs.Compile.Canonical
import Promotions.Proofs.Compile.Documents

/-!
# Proofs: the tier that counts

Evaluation goes through all tiers and keeps the richest of those that the amount lies in. A document
lists the tiers with the richest first, so a terminal may as well take the first of the list that
the amount lies in.
-/

namespace Promotions

open StableOrder

namespace Tier

variable {tiers tiers' : List Tier} {base : Amount}

/-- The bounds of the tier contain the amount, both bounds included. -/
def Contains (t : Tier) (base : Amount) : Prop :=
  t.minAmount ≤ base ∧ ∀ top, t.maxAmount = some top → base ≤ top

theorem qualifies_iff {t : Tier} : t.qualifies base = true ↔ t.Contains base := by
  rw [qualifies, Contains, Bool.and_eq_true, decide_eq_true_iff]
  cases t.maxAmount with
  | none => simp
  | some top => simp

theorem richer_eq_not (a b : Tier) : richer a b = !richerOrSame b a := by
  rw [Bool.eq_iff_iff, Bool.not_eq_true', ← Bool.not_eq_true, richerOrSame_iff]
  simp only [richer, Bool.or_eq_true, Bool.and_eq_true, beq_iff_eq, decide_eq_true_iff, Precedes,
    Amount.lt_iff, ← Amount.toInt_inj, Int32.lt_iff_toInt_lt, Int32.le_iff_toInt_le]
  omega

/-- Of a list, the tier that is kept is the one that comes first when it is sorted from its end: of
equally rich tiers it is the last. -/
theorem foldl_keepRicher (tiers : List Tier) :
    tiers.foldl keepRicher none = (sortRichestFirst tiers.reverse).head? := by
  induction tiers using List.reverseRecOn with
  | nil => simp [sortRichestFirst]
  | append_singleton tiers t ih =>
    rw [List.foldl_append, ih, List.reverse_append, sortRichestFirst, sortRichestFirst]
    show keepRicher _ t = ((t :: tiers.reverse).mergeSort richerOrSame).head?
    rw [isRanking_richerOrSame.mergeSort_cons]
    cases tiers.reverse.mergeSort richerOrSame with
    | nil => rfl
    | cons best rest =>
      rw [List.head?_cons, keepRicher, richer_eq_not, List.orderedInsert_cons]
      cases richerOrSame t best <;> rfl

/-- The tier that counts is the first one with the amount in its bounds of the sorted list. -/
theorem select?_eq_find?_reverse (tiers : List Tier) (base : Amount) :
    select? tiers base = (sortRichestFirst tiers.reverse).find? (·.qualifies base) := by
  rw [select?, foldl_keepRicher, ← List.head?_filter, sortRichestFirst, sortRichestFirst,
    isRanking_richerOrSame.filter_mergeSort, List.filter_reverse]

/-- Tiers no two of which are ranked the same are sorted the same in whatever order they come. -/
theorem sortRichestFirst_eq_of_perm (hperm : tiers.Perm tiers')
    (hranks : (tiers.map fun t => (t.minAmount, t.order)).Nodup) :
    sortRichestFirst tiers = sortRichestFirst tiers' :=
  isRanking_richerOrSame.mergeSort_eq_of_perm hperm fun _ ha _ hb hab hba =>
    List.inj_on_of_nodup_map hranks ha hb (rank_eq_of_tied hab hba)

/-- A list that has the richest tiers first is sorted. -/
theorem sortRichestFirst_of_pairwise (h : tiers.Pairwise Precedes) :
    sortRichestFirst tiers = tiers :=
  List.mergeSort_of_pairwise (h.imp richerOrSame_iff.2)

theorem select?_of_perm (hperm : tiers.Perm tiers')
    (hranks : (tiers.map fun t => (t.minAmount, t.order)).Nodup) (base : Amount) :
    select? tiers base = (sortRichestFirst tiers').find? (·.qualifies base) := by
  have hranks' : (tiers.reverse.map fun t => (t.minAmount, t.order)).Nodup := by
    rwa [List.map_reverse, List.nodup_reverse]
  rw [select?_eq_find?_reverse,
    sortRichestFirst_eq_of_perm ((List.reverse_perm tiers).trans hperm) hranks']

theorem select?_eq_none_iff (tiers : List Tier) (base : Amount) :
    select? tiers base = none ↔ ∀ t ∈ tiers, ¬t.Contains base := by
  have hmem : ∀ t, t ∈ sortRichestFirst tiers.reverse ↔ t ∈ tiers := fun t =>
    List.mem_mergeSort.trans List.mem_reverse
  rw [select?_eq_find?_reverse, List.find?_eq_none]
  simp only [hmem, qualifies_iff]

end Tier

/-- The tiers of a document are listed with the richest first. -/
theorem Compiler.pairwise_tiers {c : Compiler} {p : Promotion} {compiledAt : Timestamp}
    {d : Document} (hd : c.compile p compiledAt = .ok d) {r : ThresholdTier}
    (hr : d.rule = .thresholdTier r) : r.tiers.Pairwise Tier.Precedes := by
  have hrule := Promotion.rule_wellFormed (compiles_of_compile hd).rule
  rw [hr] at hrule
  exact ThresholdTier.WellFormed.inOrder hrule

/-- Of tiers no two of which start at the same amount and are shown in the same place, the same one
counts in whatever order they come: the first of the sorted list that contains the amount. There is
none just if no tier contains it. So a terminal that goes through the tiers of a document from the
first on comes to what evaluation comes to. -/
theorem Tier.select?_eq_find? {tiers tiers' : List Tier} (hperm : tiers.Perm tiers')
    (hranks : (tiers.map fun t => (t.minAmount, t.order)).Nodup) (base : Amount) :
    select? tiers' base = select? tiers base ∧
    select? tiers base = (sortRichestFirst tiers').find? (·.qualifies base) ∧
    (select? tiers base = none ↔ ∀ t ∈ tiers, ¬t.Contains base) ∧
    ∀ (c : Compiler) (p : Promotion) (compiledAt : Timestamp) (d : Document) (r : ThresholdTier),
      c.compile p compiledAt = .ok d → d.rule = .thresholdTier r → r.tiers.Perm tiers →
      ∀ b : Basis, r.grant b =
        Judged.orReject .noTierQualified (r.tiers.find? (·.qualifies b.base)) >>=
          fun tier => tier.benefit.grant b := by
  have hranks' : (tiers'.map fun t => (t.minAmount, t.order)).Nodup :=
    (hperm.map _).nodup_iff.1 hranks
  have hselect := select?_of_perm hperm hranks base
  refine ⟨?_, hselect, select?_eq_none_iff tiers base, ?_⟩
  · rw [hselect, select?_of_perm (List.Perm.refl _) hranks']
  · intro c p compiledAt d r hd hr htiers b
    have hsorted := sortRichestFirst_of_pairwise (Compiler.pairwise_tiers hd hr)
    have hwalk := select?_of_perm (List.Perm.refl _)
      ((htiers.map fun t => (t.minAmount, t.order)).nodup_iff.2 hranks) b.base
    rw [ThresholdTier.grant, hwalk, hsorted]

namespace Sample

/-- Two tiers that start at the same amount, of which the one shown first ends at a hundred, and one
that every bill reaches. -/
def steps : List Tier :=
  [⟨"first", 1, amount 50, some (amount 100), .amount (amount 20)⟩,
   ⟨"second", 2, amount 50, none, .amount (amount 10)⟩,
   ⟨"start", 0, amount 0, none, .amount (amount 5)⟩]

/-- A whole number of minor units, as it is configured. -/
def whole (n : Int) : Decimal := (Decimal.ofInt? n).getD .zero

/-- The promotion with these tiers, configured in another order. -/
def stepsOff : Promotion :=
  { Promotion.new .thresholdTier (id 3) (id 1) "T" date date with
    applyTo := .bill
    tiers :=
      [{ name := "start", minAmount := amount 0, kind := .amount, value := whole 5 },
       { name := "second", order := 2, minAmount := amount 50, kind := .amount, value := whole 10 },
       { name := "first", order := 1, minAmount := amount 50, maxAmount := some (amount 100),
         kind := .amount, value := whole 20 }] }

end Sample

/-- A hundred is in all three tiers, and the one that counts takes off twenty. -/
theorem Tier.select?_eq_find?_shop :
    select? Sample.steps.reverse (Sample.amount 100) = Sample.steps.head? ∧
      ∃ d, Sample.compiler.compile Sample.stepsOff .epoch = .ok d ∧
        d.rule = .thresholdTier ⟨Sample.steps⟩ ∧
        ThresholdTier.grant ⟨Sample.steps⟩ Sample.basis =
          .ok { discount := Sample.amount 20, affected := [0, 1] } := by
  have hrule : Sample.stepsOff.rule = .ok (.thresholdTier ⟨Sample.steps⟩) := by cbv
  obtain ⟨d, hd⟩ : ∃ d, Sample.compiler.compile Sample.stepsOff .epoch = .ok d := by
    rw [Compiler.compile, hrule]
    exact ⟨_, rfl⟩
  have hdocument := Except.ok.inj ((Compiler.compiles_of_compile hd).rule.symm.trans hrule)
  obtain ⟨hsame, hfirst, -, hwalk⟩ :=
    select?_eq_find? (List.reverse_perm Sample.steps).symm (by decide) (Sample.amount 100)
  refine ⟨?_, d, hd, hdocument, ?_⟩
  · rw [hsame, hfirst]
    cbv
  · rw [hwalk _ _ _ _ _ hd hdocument (List.Perm.refl _) Sample.basis]
    cbv

end Promotions

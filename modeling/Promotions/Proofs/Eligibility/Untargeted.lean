import Promotions.Proofs.Correspondence
import Promotions.Proofs.Eligibility.Layout
import Promotions.Proofs.Eligibility.Lines
import Promotions.Proofs.Eligibility.Places

/-!
# Proofs: lines that are not targeted

A promotion for items sees the lines it targets and no others. If lines that it does not target are
put on a bill or taken off it, every line that it does target is still there and has the same lines
before it, and only its place may be another. So the bill is judged as it was, and what is granted is
granted for the same lines, wherever they stand now.
-/

namespace Promotions

open Fallible Judged

/-! ## Places of the same line -/

/-- The same line stands at a place of one list and at a place of another. It is one of those that
are kept, and as many of these stand before it in both lists. -/
structure SamePlace (keep : BillLine → Bool) (lines lines' : List BillLine) (i i' : Nat) : Prop where
  line : ∃ line, lines[i]? = some line ∧ lines'[i']? = some line ∧ keep line = true
  before : keptBefore keep lines i = keptBefore keep lines' i'

/-- Related places are in the same order. -/
def KeepsOrderOf (S : Nat → Nat → Prop) : Prop :=
  ∀ i j i' j', S i i' → S j j' → (i < j ↔ i' < j')

theorem keepsOrderOf_samePlace (keep : BillLine → Bool) (lines lines' : List BillLine) :
    KeepsOrderOf (SamePlace keep lines lines') := by
  -- which of two kept lines comes first can be told from how many come before each
  have hcount {lines : List BillLine} {i j : Nat} (hi : lines[i]?.any keep = true)
      (hj : lines[j]?.any keep = true) :
      i < j ↔ keptBefore keep lines i < keptBefore keep lines j := by
    refine ⟨keptBefore_lt hi, fun h => ?_⟩
    by_contra hle
    rcases Nat.lt_or_eq_of_le (Nat.le_of_not_lt hle) with hji | rfl
    · exact Nat.lt_asymm h (keptBefore_lt hj hji)
    · exact Nat.lt_irrefl _ h
  intro i j i' j' hi hj
  obtain ⟨line, hline, hline', hkeep⟩ := hi.line
  obtain ⟨other, hother, hother', hkeep'⟩ := hj.line
  rw [hcount (by rw [hline]; exact hkeep) (by rw [hother]; exact hkeep'), hi.before, hj.before,
    ← hcount (by rw [hline']; exact hkeep) (by rw [hother']; exact hkeep')]

section Places

variable {S : Nat → Nat → Prop}

theorem forall₂_insertInto (hS : KeepsOrderOf S) {a a' : Nat} (ha : S a a') {l l' : List Nat}
    (h : List.Forall₂ S l l') :
    List.Forall₂ S (SortedSet.insertInto a l) (SortedSet.insertInto a' l') := by
  induction h with
  | nil => exact .cons ha .nil
  | @cons b b' l l' hb hl ih =>
    have hfirst : Ordered.before a b = Ordered.before a' b' :=
      decide_eq_decide.2 (hS _ _ _ _ ha hb)
    have hlast : Ordered.before b a = Ordered.before b' a' :=
      decide_eq_decide.2 (hS _ _ _ _ hb ha)
    rw [SortedSet.insertInto, SortedSet.insertInto, ← hfirst, ← hlast]
    split
    · exact .cons ha (.cons hb hl)
    · split
      · exact .cons hb ih
      · exact .cons hb hl

/-- Places that are related one by one stay so when they are put together. -/
theorem placesRelation_forall₂ (hS : KeepsOrderOf S) : PlacesRelation (List.Forall₂ S) where
  nil := .nil
  append ha hb := List.rel_append ha hb
  toSet {a a'} ha := by
    have hfold {s s' : SortedSet Nat} (hs : List.Forall₂ S s.toList s'.toList) :
        List.Forall₂ S (a.foldl SortedSet.insert s).toList (a'.foldl SortedSet.insert s').toList := by
      induction ha generalizing s s' with
      | nil => exact hs
      | cons hab _ ih => exact ih (forall₂_insertInto hS hab hs)
    exact hfold .nil

end Places

/-! ## Eligible lines -/

/-- The same line, at places that are related. -/
structure PlacedLine.Same (S : Nat → Nat → Prop) (p p' : PlacedLine) : Prop where
  line : p.line = p'.line
  place : S p.index p'.index

/-- The same lines are eligible on two bills, in the same order. -/
structure EligibleLines.Same (S : Nat → Nat → Prop) (e e' : EligibleLines) : Prop where
  lines : List.Forall₂ (PlacedLine.Same S) e.lines e'.lines
  subtotal : e.subtotal = e'.subtotal
  quantity : e.quantity = e'.quantity

section Same

variable {S : Nat → Nat → Prop}

theorem PlacedLine.map_line_eq {placed placed' : List PlacedLine}
    (h : List.Forall₂ (Same S) placed placed') : placed.map (·.line) = placed'.map (·.line) := by
  induction h with
  | nil => rfl
  | cons hp _ ih => rw [List.map_cons, List.map_cons, hp.line, ih]

theorem PlacedLine.filter_same {placed placed' : List PlacedLine}
    (h : List.Forall₂ (Same S) placed placed') (keep : BillLine → Bool) :
    List.Forall₂ (Same S) (placed.filter fun p => keep p.line)
      (placed'.filter fun p => keep p.line) := by
  refine List.rel_filter (fun p p' hp => ?_) h
  dsimp only
  rw [hp.line]

theorem PlacedLine.indices_same {placed placed' : List PlacedLine}
    (h : List.Forall₂ (Same S) placed placed') :
    List.Forall₂ S (EligibleLines.indicesOf placed) (EligibleLines.indicesOf placed') := by
  rw [EligibleLines.indicesOf, EligibleLines.indicesOf, List.forall₂_map_left_iff,
    List.forall₂_map_right_iff]
  exact h.imp fun p p' hp => hp.place

namespace EligibleLines.Same

variable {e e' : EligibleLines}

theorem linesOf (h : e.Same S e') (keep : ProductId → Bool) : e.linesOf keep = e'.linesOf keep :=
  PlacedLine.map_line_eq (PlacedLine.filter_same h.lines fun line => keep line.product)

theorem like (h : e.Same S e') : e.Like (List.Forall₂ S) e' where
  subtotal := h.subtotal
  quantity := h.quantity
  lines keep := by
    rw [h.linesOf]
    exact ⟨rfl, rfl, fun _ => rfl, rfl, fun _ => rfl, fun _ => rfl⟩
  places keep :=
    PlacedLine.indices_same (PlacedLine.filter_same h.lines fun line => keep line.product)

theorem size_eq (h : e.Same S e') : e.size = e'.size := h.lines.length_eq

theorem isEmpty_eq (h : e.Same S e') : e.isEmpty = e'.isEmpty := by
  rw [EligibleLines.isEmpty, EligibleLines.isEmpty, Bool.eq_iff_iff,
    List.isEmpty_iff_length_eq_zero, List.isEmpty_iff_length_eq_zero, h.lines.length_eq]

end EligibleLines.Same

/-- Of the same lines the same is the cheapest. -/
theorem BuyXGetY.foldl_cheaper_same {placed placed' : List PlacedLine}
    (h : List.Forall₂ (PlacedLine.Same S) placed placed') :
    Option.Rel (PlacedLine.Same S) (placed.foldl cheaper none) (placed'.foldl cheaper none) := by
  refine List.rel_foldl (fun best best' hbest p p' hp => ?_) .none h
  cases hbest with
  | none => exact .some hp
  | some hq =>
    rw [cheaper, cheaper, hp.line, hq.line]
    split
    · exact .some hp
    · exact .some hq

theorem BuyXGetY.grantSame_same (r : BuyXGetY) {b b' : Basis} (h : b.lines.Same S b'.lines) :
    GrantsAlike (List.Forall₂ S) (r.grantSame b) (r.grantSame b') := by
  rw [grantSame, grantSame]
  have hbest := foldl_cheaper_same
    (PlacedLine.filter_same h.lines fun line => r.freeUnits line != 0)
  generalize (b.lines.lines.filter fun p => r.freeUnits p.line != 0).foldl cheaper none = best,
    (b'.lines.lines.filter fun p => r.freeUnits p.line != 0).foldl cheaper none = best' at hbest ⊢
  cases hbest with
  | none => exact .error _
  | some hp =>
    dsimp only [orReject, ok_bind]
    rw [hp.line]
    refine .bind_same _ fun value => .bind_same _ fun discount => .ok ⟨rfl, rfl, ?_⟩
    exact .cons hp.place .nil

end Same

/-! ## Documents -/

section Documents

variable {keep : BillLine → Bool}

/-- Lines that are kept on two bills are the same lines at the same places. -/
theorem Bill.forall₂_same_placedLines (bill : Bill) {lines : List BillLine}
    (h : bill.lines.filter keep = lines.filter keep) :
    List.Forall₂ (PlacedLine.Same (SamePlace keep bill.lines lines))
      (bill.placedLines.filter fun p => keep p.line)
      ((placedLines { bill with lines }).filter fun p => keep p.line) := by
  have hplaced := placedLines_filter bill keep
  have hplaced' := placedLines_filter { bill with lines } keep
  rw [h] at hplaced
  -- both are the lines of the bill with the kept lines alone, each moved up to its place there
  have hmoved := List.forall₂_eq_eq_eq ▸ hplaced.symm.trans hplaced'
  rw [List.forall₂_map_left_iff, List.forall₂_map_right_iff] at hmoved
  refine Correspondence.imp_of_mem hmoved fun p hp p' hp' heq => ?_
  obtain ⟨hbefore, hline⟩ := PlacedLine.mk.inj heq
  obtain ⟨hmem, hkeep⟩ := List.mem_filter.1 hp
  have hat := mem_placedLines_iff.1 hmem
  have hat' := mem_placedLines_iff.1 (List.mem_filter.1 hp').1
  exact ⟨hline, ⟨p.line, hat, hline ▸ hat', hkeep⟩, hbefore⟩

theorem EligibleLines.select_same (t : Targeting) (ctx : Context) {lines : List BillLine}
    (hscope : t.applyTo.isBillScoped = false)
    (h : ctx.bill.lines.filter (t.selects ctx.catalog) = lines.filter (t.selects ctx.catalog)) :
    Alike (Same (SamePlace (t.selects ctx.catalog) ctx.bill.lines lines))
      (select t ctx.bill ctx.catalog) (select t (ctx.withLines lines).bill ctx.catalog) := by
  have hselect (bill : Bill) : select t bill ctx.catalog =
      ofLines (bill.placedLines.filter fun p => t.selects ctx.catalog p.line) := by
    rw [select, hscope]
    rfl
  have hplaced : List.Forall₂ (PlacedLine.Same (SamePlace (t.selects ctx.catalog) _ lines))
      (ctx.bill.placedLines.filter fun p => t.selects ctx.catalog p.line)
      ((ctx.withLines lines).bill.placedLines.filter fun p => t.selects ctx.catalog p.line) :=
    ctx.bill.forall₂_same_placedLines h
  have hlines := PlacedLine.map_line_eq hplaced
  have hquantity := congrArg (fun l => Count.sum (l.map (·.quantity))) hlines
  rw [List.map_map, List.map_map] at hquantity
  rw [hselect, hselect, ofLines_eq, ofLines_eq, hlines]
  cases totalOf _ with
  | error e => exact .error e
  | ok subtotal => exact .ok ⟨hplaced, rfl, hquantity⟩

/-- The same lines fare alike at a document. -/
theorem Document.fareAlike_same (d : Document) {S : Nat → Nat → Prop} {e e' : EligibleLines}
    (h : e.Same S e') : d.FareAlike (fun _ => False) (List.Forall₂ S) e e' where
  like := h.like
  targeting := by rw [targetingGate, targetingGate, h.isEmpty_eq]
  threshold := by
    rw [thresholdGate, thresholdGate, h.subtotal, h.quantity, h.size_eq]
    exact .inr ((Alike.refl _).mono fun _ _ _ => trivial)
  grantSame r _ _ b b' hb hb' := r.grantSame_same (hb ▸ hb' ▸ h)

/-- If a promotion is for items and has no condition across brands, lines that it does not target
may be put on a bill or taken off it. It is judged as before, and what it grants is granted for the
lines that it was granted for, wherever they stand then. -/
theorem Document.evaluate_untargeted (d : Document) (ctx : Context) (lines : List BillLine)
    (hscope : d.targeting.applyTo.isBillScoped = false) (hbrands : d.crossBrand = none)
    (h : ctx.bill.lines.filter (d.targeting.selects ctx.catalog) =
      lines.filter (d.targeting.selects ctx.catalog)) :
    (d.evaluate ctx).verdict.Like
      (List.Forall₂ (SamePlace (d.targeting.selects ctx.catalog) ctx.bill.lines lines))
      (d.evaluate (ctx.withLines lines)).verdict := by
  have hgate : AlikeUnless (fun _ => False) (fun _ _ => True) (d.scopeGate ctx)
      (d.scopeGate (ctx.withLines lines)) := by
    rw [scopeGate, scopeGate, hbrands]
    exact .inr ((Alike.refl _).mono fun _ _ _ => trivial)
  have hselect := (EligibleLines.select_same d.targeting ctx hscope h).mono
    fun _ _ hsame => d.fareAlike_same hsame
  have hplaces := placesRelation_forall₂
    (keepsOrderOf_samePlace (d.targeting.selects ctx.catalog) ctx.bill.lines lines)
  obtain ⟨_, hnever, -⟩ | hjudge := judge_alike hplaces hgate hselect
  · exact hnever.elim
  · exact Verdict.like_ofJudged hjudge

/-- Two units of a category cost seventy, where one of its products is left out. What the first line
of the bill saves it saves as well behind a line of a product that nobody knows and a voided one, and
with more units of the product that is left out. -/
theorem Document.evaluate_untargeted_shop :
    let d := { Sample.document 1 "A" 0 (Sample.policy .itemLevel) with
      rule := .mixMatch ⟨Sample.id 1, 2, Sample.amount 70, true⟩
      targeting := ⟨.category, .ofList [Sample.id 1], .empty, .empty, .ofList [Sample.id 2]⟩ }
    let ctx := { Sample.context with catalog := Sample.catalog }
    let lines : List BillLine := [⟨Sample.id 9, none, 1, Sample.amount 5⟩,
      ⟨Sample.id 1, none, 0, Sample.amount 40⟩, ⟨Sample.id 1, none, 2, Sample.amount 40⟩,
      ⟨Sample.id 2, none, 4, Sample.amount 10⟩]
    (d.evaluate ctx).verdict = .eligible ⟨Sample.amount 10, .discount, [0]⟩ ∧
      (d.evaluate (ctx.withLines lines)).verdict = .eligible ⟨Sample.amount 10, .discount, [2]⟩ ∧
      (d.evaluate ctx).verdict.Like
        (List.Forall₂ (SamePlace (d.targeting.selects ctx.catalog) ctx.bill.lines lines))
        (d.evaluate (ctx.withLines lines)).verdict := by
  intro d ctx lines
  refine ⟨?_, ?_, d.evaluate_untargeted ctx lines ?_ ?_ ?_⟩
  · decide +kernel
  · decide +kernel
  · rfl
  · rfl
  · decide +kernel

end Documents

end Promotions

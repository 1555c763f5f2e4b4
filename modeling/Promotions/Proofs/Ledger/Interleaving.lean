import Mathlib.Algebra.BigOperators.Group.List.Basic
import Mathlib.Algebra.Order.BigOperators.Group.List
import Promotions.Proofs.Eligibility.Layout
import Promotions.Proofs.Ledger.Recording

/-!
# Proofs: settling several bills at once

Terminals that settle bills at once take turns at the ledger, in any order, and what a recording has
counted so far is seen by the others. One invariant carries through every turn: each counter is what
it was at the start with everything that was counted added to it, and where it has a limit, that sum
has not passed the limit. From it come the limits on counters and on redemptions, and the account of
the uses of a promotion once all are done.
-/

namespace Promotions

theorem Count.addSat_saturate (n : Nat) (m : Count) :
    addSat (saturate n) m = saturate (n + m.toNat) := by
  rw [addSat, ← UInt32.toNat_inj, toNat_saturate, toNat_saturate, toNat_saturate]
  omega

theorem Count.saturate_toNat (c : Count) : saturate c.toNat = c := by
  rw [← UInt32.toNat_inj, toNat_saturate]
  have hlt : c.toNat < 4294967296 := c.toNat_lt
  omega

/-- A terminal that settles a bill, and how far its recording has come. -/
structure Terminal where
  settlement : Settlement
  recording : Recording

/-- How often a terminal has added to a counter. -/
def Terminal.counted (k : Counter) (t : Terminal) : Nat := t.settlement.counted k t.recording

/-- A ledger, and the terminals that record on it. -/
structure Settling where
  ledger : Ledger
  terminals : List Terminal

namespace Settling

/-- The start of settlements, of which nothing is recorded yet. -/
def start (l : Ledger) (calls : List Settlement) : Settling :=
  ⟨l, calls.map fun call => ⟨call, call.recording⟩⟩

/-- The terminal at a place takes one step of its recording. -/
def turn (s : Settling) (i : Nat) : Settling :=
  match s.terminals[i]? with
  | none => s
  | some t =>
    let (ledger, recording) := t.recording.step s.ledger
    ⟨ledger, s.terminals.set i { t with recording }⟩

def run (s : Settling) (schedule : List Nat) : Settling := schedule.foldl turn s

/-- Nothing is left to be counted. -/
def IsDone (s : Settling) : Prop := ∀ t ∈ s.terminals, t.recording.pending = []

/-- How often the terminals have added to a counter. -/
def counted (k : Counter) (s : Settling) : Nat := (s.terminals.map (·.counted k)).sum

end Settling

/-- A limit that a document of some settlement has for a counter. -/
def Settlement.IsLimit (calls : List Settlement) (k : Counter) (limit : Count) : Prop :=
  ∃ call ∈ calls, ∃ d, call.document? k.promotion = some d ∧ d.limits.on k.scope = some limit

/-- Settlements agree on the limits of a promotion for which each of them has a document. -/
def Settlement.AgreeOnLimits (calls : List Settlement) : Prop :=
  ∀ a ∈ calls, ∀ b ∈ calls, ∀ promotion d e, a.document? promotion = some d →
    b.document? promotion = some e → ∀ scope, d.limits.on scope = e.limits.on scope

open Settlement

/-- Terminals that hold the same documents agree. -/
theorem Settlement.agreeOnLimits_of_documents {calls : List Settlement} {documents : List Document}
    (h : ∀ call ∈ calls, call.documents = documents) : AgreeOnLimits calls := by
  intro a ha b hb promotion d e hd he scope
  rw [document?, h a ha] at hd
  rw [document?, h b hb, hd] at he
  rw [Option.some.inj he]

namespace Settling

variable {l : Ledger} {calls : List Settlement} {s : Settling}

/-! ## One turn -/

/-- A turn is nothing, or one step of one terminal, which the others stand beside. -/
theorem turn_cases (s : Settling) (i : Nat) :
    s.turn i = s ∨ ∃ before t after ledger recording, s.terminals = before ++ t :: after ∧
      t.recording.step s.ledger = (ledger, recording) ∧
      s.turn i = ⟨ledger, before ++ { t with recording } :: after⟩ := by
  rw [turn]
  cases ht : s.terminals[i]? with
  | none => exact Or.inl rfl
  | some t =>
    obtain ⟨hi, rfl⟩ := List.getElem?_eq_some_iff.1 ht
    obtain ⟨before, after, hterminals, -, hset⟩ := List.exists_of_set hi
    exact Or.inr ⟨before, _, after, _, _, hterminals, rfl, congrArg (Settling.mk _) hset⟩

theorem counted_of_append {before after : List Terminal} {t : Terminal}
    (h : s.terminals = before ++ t :: after) (k : Counter) :
    s.counted k =
      (before.map (·.counted k)).sum + (after.map (·.counted k)).sum + t.counted k := by
  simp only [counted, h, List.map_append, List.map_cons, List.sum_append, List.sum_cons]
  omega

theorem map_settlement_turn (s : Settling) (i : Nat) :
    (s.turn i).terminals.map (·.settlement) = s.terminals.map (·.settlement) := by
  rcases s.turn_cases i with hturn | ⟨before, t, after, ledger, recording, hterminals, -, hturn⟩
  · rw [hturn]
  · rw [hturn, hterminals, List.map_append, List.map_append]
    rfl

/-- What each terminal has left is left of the counters of a document it holds. -/
def WellFormed (s : Settling) : Prop :=
  ∀ t ∈ s.terminals, ∀ w ∈ t.recording.pending, t.settlement.Counts w

theorem wellFormed_start (l : Ledger) (calls : List Settlement) : (start l calls).WellFormed := by
  intro t ht
  obtain ⟨call, -, rfl⟩ := List.mem_map.1 ht
  exact call.counts_of_mem_recording

theorem wellFormed_turn (h : s.WellFormed) (i : Nat) : (s.turn i).WellFormed := by
  rcases s.turn_cases i with
    hturn | ⟨before, t, after, ledger, recording, hterminals, hstep, hturn⟩
  · rwa [hturn]
  rw [WellFormed, hterminals] at h
  rw [WellFormed, hturn]
  intro u hu
  rcases List.mem_append.1 hu with hu | hu
  · exact h u (List.mem_append_left _ hu)
  · rcases List.mem_cons.1 hu with rfl | hu
    · have hcounts := Recording.counts_step (l := s.ledger) (h t (by simp))
      rwa [hstep] at hcounts
    · exact h u (List.mem_append_right _ (List.mem_cons_of_mem _ hu))

/-- A turn leaves a counter as it is, or some terminal adds one to it, below the limit that the
terminal holds. -/
theorem turn_effect (h : s.WellFormed) (i : Nat) (k : Counter) :
    ((s.turn i).ledger.count k = s.ledger.count k ∧ (s.turn i).counted k = s.counted k) ∨
    ((s.turn i).ledger.count k = Count.addSat (s.ledger.count k) 1 ∧
      (s.turn i).counted k = s.counted k + 1 ∧
      ∃ t ∈ s.terminals, ∃ d, t.settlement.document? k.promotion = some d ∧
        ∀ limit, d.limits.on k.scope = some limit → s.ledger.count k < limit) := by
  rcases s.turn_cases i with
    hturn | ⟨before, t, after, ledger, recording, hterminals, hstep, hturn⟩
  · rw [hturn]
    exact Or.inl ⟨rfl, rfl⟩
  have hmem : t ∈ s.terminals := by simp [hterminals]
  have heffect := Recording.step_effect (h t hmem) s.ledger k
  rw [hstep] at heffect
  rw [hturn, counted_of_append rfl k, counted_of_append hterminals k, Terminal.counted,
    Terminal.counted]
  cases heffect with
  | none hcount hcounted => exact Or.inl ⟨hcount, by rw [hcounted]⟩
  | one hcount hcounted hd hlimit =>
    exact Or.inr ⟨hcount, by rw [hcounted, ← Nat.add_assoc], t, hmem, _, hd, hlimit⟩

/-! ## Any turns -/

/-- What holds of the ledger and the terminals at any time, from a start with ledger `l`. -/
structure Accounted (l : Ledger) (calls : List Settlement) (s : Settling) : Prop where
  settlements : s.terminals.map (·.settlement) = calls
  wellFormed : s.WellFormed
  /-- A counter is what it was with what was counted. -/
  count : ∀ k, s.ledger.count k = Count.saturate ((l.count k).toNat + s.counted k)
  /-- Nothing is counted past a limit. -/
  within : ∀ k limit, IsLimit calls k limit →
    (l.count k).toNat + s.counted k ≤ max limit.toNat (l.count k).toNat

theorem accounted_start (l : Ledger) (calls : List Settlement) :
    Accounted l calls (start l calls) := by
  have hnone : ∀ k, (start l calls).counted k = 0 := by
    intro k
    refine List.sum_eq_zero fun n hn => ?_
    simp only [start, List.map_map, List.mem_map, Function.comp_apply] at hn
    obtain ⟨call, -, rfl⟩ := hn
    exact call.counted_recording k
  refine ⟨by simp [start, Function.comp_def], wellFormed_start l calls, ?_, ?_⟩
  · intro k
    rw [hnone, Nat.add_zero, Count.saturate_toNat]
    rfl
  · intro k limit _
    rw [hnone]
    exact Nat.le_max_right _ _

theorem accounted_turn (hagree : AgreeOnLimits calls) (h : Accounted l calls s) (i : Nat) :
    Accounted l calls (s.turn i) := by
  refine ⟨(map_settlement_turn s i).trans h.settlements, wellFormed_turn h.wellFormed i, ?_, ?_⟩
  · intro k
    rcases turn_effect h.wellFormed i k with ⟨hcount, hcounted⟩ | ⟨hcount, hcounted, -⟩
    · rw [hcount, hcounted, h.count]
    · rw [hcount, hcounted, h.count, Count.addSat_saturate]
      rfl
  · intro k limit hlimit
    have hwithin := h.within k limit hlimit
    rcases turn_effect h.wellFormed i k with
      ⟨-, hcounted⟩ | ⟨-, hcounted, t, ht, d, hd, hbelow⟩
    · rwa [hcounted]
    · -- the limit that was checked is the one the settlements agree on, so there was room for one
      obtain ⟨call, hcall, e, he, hlimit⟩ := hlimit
      have hmem : t.settlement ∈ calls := h.settlements ▸ List.mem_map_of_mem ht
      have hlt := hbelow limit ((hagree _ hmem _ hcall _ _ _ hd he _).trans hlimit)
      rw [UInt32.lt_iff_toNat_lt, h.count, Count.toNat_saturate] at hlt
      have hgreatest : limit.toNat < 4294967296 := limit.toNat_lt
      rw [hcounted]
      omega

theorem accounted_run (hagree : AgreeOnLimits calls) (schedule : List Nat)
    (h : Accounted l calls s) : Accounted l calls (s.run schedule) := by
  induction schedule generalizing s with
  | nil => exact h
  | cons i schedule ih => exact ih (accounted_turn hagree h i)

/-! ## Coming to an end -/

theorem turn_getElem? {i j : Nat} {t' : Terminal} (h : (s.turn i).terminals[j]? = some t') :
    ∃ t, s.terminals[j]? = some t ∧
      t'.recording = if i = j then (t.recording.step s.ledger).2 else t.recording := by
  rw [turn] at h
  cases hi : s.terminals[i]? with
  | none =>
    rw [hi] at h
    have hij : i ≠ j := fun hij => by simp_all
    exact ⟨t', h, by rw [if_neg hij]⟩
  | some t =>
    rw [hi] at h
    by_cases hij : i = j
    · subst hij
      obtain ⟨hlt, -⟩ := List.getElem?_eq_some_iff.1 hi
      obtain rfl : _ = t' := by simpa [hlt] using h
      exact ⟨t, hi, by rw [if_pos rfl]⟩
    · exact ⟨t', by simpa [hij] using h, by rw [if_neg hij]⟩

/-- However the turns come, the settlements are done once each terminal had one for every step. -/
theorem run_isDone {schedule : List Nat} (h : ∀ i t, s.terminals[i]? = some t →
    t.recording.size ≤ schedule.count i) : (s.run schedule).IsDone := by
  induction schedule generalizing s with
  | nil =>
    -- a terminal that needs no more turns has no step left
    intro t ht
    obtain ⟨i, hi, rfl⟩ := List.getElem_of_mem ht
    have hsize := h i _ (List.getElem?_eq_getElem hi)
    exact Recording.pending_of_size_eq_zero (Nat.le_zero.1 hsize)
  | cons i schedule ih =>
    refine ih fun j t' ht' => ?_
    obtain ⟨t, ht, hrecording⟩ := turn_getElem? ht'
    have hsize := h j t ht
    simp only [List.count_cons, beq_iff_eq] at hsize
    rw [hrecording]
    split at hsize
    · rename_i hij
      have hstep := Recording.size_step_le s.ledger t.recording
      rw [if_pos hij]
      omega
    · rename_i hij
      rw [if_neg hij]
      exact hsize

theorem run_replicate (l : Ledger) (call : Settlement) (r : Recording) :
    ∃ n, run ⟨l, [⟨call, r⟩]⟩ (List.replicate n 0) =
      ⟨(Recording.run l r).1, [⟨call, ⟨[], (Recording.run l r).2⟩⟩]⟩ := by
  fun_induction Recording.run l r with
  | case1 l r h =>
    obtain ⟨pending, redemption⟩ := r
    obtain rfl : pending = [] := h
    exact ⟨0, rfl⟩
  | case2 l r h hlt ih =>
    obtain ⟨n, hn⟩ := ih
    exact ⟨n + 1, hn⟩

/-- A settlement that no other comes between is what the ledger records. -/
theorem run_alone (l : Ledger) (call : Settlement) :
    ∃ n, (start l [call]).run (List.replicate n 0) =
      ⟨(l.record call.documents call.bill call.applied).1,
        [⟨call, ⟨[], (l.record call.documents call.bill call.applied).2⟩⟩]⟩ :=
  run_replicate l call call.recording

end Settling

/-! ## Limits and accounts -/

/-- How often terminals have recorded a promotion. -/
def Terminal.recorded (promotion : PromotionId) (ts : List Terminal) : Nat :=
  (ts.map fun t => t.recording.redemption.recorded.count promotion).sum

/-- How often terminals have refused a promotion that they had counted among all its uses, since the
uses of the day or of the member were at their limit. -/
def Terminal.refusedLate (promotion : PromotionId) (ts : List Terminal) : Nat :=
  (ts.map fun t => t.recording.redemption.refused.countP fun refusal =>
    refusal.1 = promotion ∧ refusal.2 ≠ .total).sum

/-- What is recorded was counted by every counter by which its bill counts. -/
theorem Terminal.recorded_le_counted (k : Counter) (ts : List Terminal) :
    recorded k.promotion (ts.filter fun t => k.scope ∈ t.settlement.bill.usageScopes) ≤
      (ts.map (·.counted k)).sum := by
  induction ts with
  | nil => exact Nat.le_refl 0
  | cons t ts ih =>
    rw [List.map_cons, List.sum_cons]
    by_cases hscope : k.scope ∈ t.settlement.bill.usageScopes
    · have hcounted : t.recording.redemption.recorded.count k.promotion ≤ t.counted k := by
        rw [counted, Settlement.counted, if_pos hscope, Recording.passed]
        omega
      rw [List.filter_cons_of_pos (by simpa using hscope)]
      exact Nat.add_le_add hcounted ih
    · rw [List.filter_cons_of_neg (by simpa using hscope)]
      exact Nat.le_add_left_of_le ih

/-- What was counted among all uses of a promotion was recorded, or refused after that. -/
theorem Terminal.counted_total (promotion : PromotionId) {ts : List Terminal}
    (h : ∀ t ∈ ts, t.recording.pending = []) :
    (ts.map (·.counted ⟨promotion, .total⟩)).sum =
      recorded promotion ts + refusedLate promotion ts := by
  rw [recorded, refusedLate, ← List.sum_map_add]
  refine congrArg List.sum (List.map_congr_left fun t ht => ?_)
  have hlate : Counter.isBefore ⟨promotion, .total⟩ =
      fun refusal => decide (refusal.1 = promotion ∧ refusal.2 ≠ .total) := by
    funext refusal
    obtain ⟨id, scope⟩ := refusal
    cases scope <;> simp [Counter.isBefore, UsageScope.rank]
  rw [counted, Settlement.counted, if_pos (Bill.total_mem_usageScopes _), Recording.passed, h t ht,
    hlate]
  rfl

/-- However settlements that agree on the limits come between one another, no counter passes a limit
unless it had from the start, no more uses are recorded than the limit has left, and when all are
done the uses of a promotion are those at the start, those recorded, and those refused late. -/
theorem Settling.run_keeps_limits {calls : List Settlement} (hagree : AgreeOnLimits calls)
    (l : Ledger) (schedule : List Nat) :
    let s := (start l calls).run schedule
    (∀ k limit, IsLimit calls k limit →
      (s.ledger.count k).toNat ≤ max limit.toNat (l.count k).toNat ∧
      Terminal.recorded k.promotion
          (s.terminals.filter fun t => k.scope ∈ t.settlement.bill.usageScopes) ≤
        limit.toNat - (l.count k).toNat) ∧
    (s.IsDone → ∀ promotion, s.ledger.count ⟨promotion, .total⟩ < Count.greatest →
      (s.ledger.count ⟨promotion, .total⟩).toNat = (l.count ⟨promotion, .total⟩).toNat +
        Terminal.recorded promotion s.terminals + Terminal.refusedLate promotion s.terminals) := by
  -- what was counted is the invariant; what is reported was counted, so it is within the limits
  intro s
  have haccounted : Accounted l calls s := accounted_run hagree schedule (accounted_start l calls)
  constructor
  · intro k limit hlimit
    have hwithin := haccounted.within k limit hlimit
    have hrecorded := Terminal.recorded_le_counted k s.terminals
    rw [haccounted.count, Count.toNat_saturate]
    rw [counted] at hwithin ⊢
    constructor <;> omega
  · intro hdone promotion hbelow
    have hcounted := Terminal.counted_total promotion hdone
    rw [UInt32.lt_iff_toNat_lt, haccounted.count, Count.toNat_saturate] at hbelow
    have hgreatest : Count.greatest.toNat = 4294967295 := rfl
    rw [haccounted.count, Count.toNat_saturate]
    rw [counted] at hbelow ⊢
    omega

namespace Sample

/-- A promotion that may be used twice, and by a member once. -/
def capped : Document :=
  { document 1 "A" 10 (policy .itemLevel) with limits := ⟨some 2, some 1, none, 0⟩ }

/-- The bill of a member, settled with the promotion. -/
def memberCall : Settlement := ⟨[capped], { bill with member := some ⟨id 7, none⟩ }, [id 1]⟩

/-- The bill of the member at two terminals, and the bill of somebody else at a third. -/
def calls : List Settlement := [memberCall, memberCall, ⟨[capped], bill, [id 1]⟩]

/-- The third terminal finds the promotion used twice, and the second finds the member to have used
it. -/
def settled : Settling := (Settling.start .empty calls).run [0, 1, 2, 0, 1, 0, 1, 0]

theorem agreeOnLimits_calls : AgreeOnLimits calls := by
  have hdocuments : ∀ call ∈ calls, call.documents = [capped] := by
    intro call hcall
    simp only [calls, List.mem_cons, List.not_mem_nil, or_false] at hcall
    rcases hcall with rfl | rfl | rfl <;> rfl
  exact agreeOnLimits_of_documents hdocuments

end Sample

/-- The member has one use recorded and one refused late; the third use is not counted. -/
theorem Settling.run_keeps_limits_shop :
    AgreeOnLimits Sample.calls ∧
      IsLimit Sample.calls ⟨Sample.id 1, .customer (Sample.id 7)⟩ 1 ∧ Sample.settled.IsDone ∧
      (Sample.settled.ledger.count ⟨Sample.id 1, .customer (Sample.id 7)⟩).toNat ≤ 1 ∧
      Terminal.recorded (Sample.id 1) (Sample.settled.terminals.filter fun t =>
        .customer (Sample.id 7) ∈ t.settlement.bill.usageScopes) ≤ 1 ∧
      (Sample.settled.ledger.count ⟨Sample.id 1, .total⟩).toNat = 1 + 1 := by
  have hlimit : IsLimit Sample.calls ⟨Sample.id 1, .customer (Sample.id 7)⟩ 1 :=
    ⟨Sample.memberCall, List.mem_cons_self, Sample.capped, by decide +kernel, rfl⟩
  have hdone : Sample.settled.IsDone := by
    rw [Settling.IsDone]
    decide +kernel
  have hbelow : Sample.settled.ledger.count ⟨Sample.id 1, .total⟩ < Count.greatest := by
    decide +kernel
  have hrecorded : Terminal.recorded (Sample.id 1) Sample.settled.terminals = 1 := by
    decide +kernel
  have hrefused : Terminal.refusedLate (Sample.id 1) Sample.settled.terminals = 1 := by
    decide +kernel
  obtain ⟨hlimits, haccount⟩ := Settling.run_keeps_limits Sample.agreeOnLimits_calls .empty
    [0, 1, 2, 0, 1, 0, 1, 0]
  obtain ⟨hcount, hwithin⟩ := hlimits _ _ hlimit
  refine ⟨Sample.agreeOnLimits_calls, hlimit, hdone, hcount, hwithin, ?_⟩
  calc (Sample.settled.ledger.count ⟨Sample.id 1, .total⟩).toNat
      = 0 + Terminal.recorded (Sample.id 1) Sample.settled.terminals +
          Terminal.refusedLate (Sample.id 1) Sample.settled.terminals := haccount hdone _ hbelow
    _ = 1 + 1 := by rw [hrecorded, hrefused]

end Promotions

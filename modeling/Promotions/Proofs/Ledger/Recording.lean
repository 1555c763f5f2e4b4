import Mathlib.Data.List.Count
import Mathlib.Data.List.Infix
import Promotions.Ledger

/-!
# Proofs: what a recording has counted

The counters of a promotion are added to in a fixed order, so how far its recording has come says
which of them were: all of them when it was recorded, those before the one that was full when it was
refused, and those that are no longer left while it is being counted. A step of the recording adds
one to a counter exactly when it adds one to that number, and never to a counter at its limit.
-/

namespace Promotions

/-! ## Scopes and limits -/

/-- The place of a scope in the order in which a promotion is counted. -/
def UsageScope.rank : UsageScope → Nat
  | total => 0
  | day _ => 1
  | customer _ => 2

/-- The limit on the uses that a scope counts. -/
def Limits.on (limits : Limits) : UsageScope → Option Count
  | .total => limits.maxUses
  | .day _ => limits.maxUsesPerDay
  | .customer _ => limits.maxUsesPerCustomer

/-- The scopes that the uses on a bill are counted by. -/
def Bill.usageScopes (bill : Bill) : List UsageScope :=
  [.total, .day bill.localTime.date] ++
    match bill.member with
    | some member => [.customer member.id]
    | none => []

theorem Document.counters_eq_map (d : Document) (bill : Bill) :
    d.counters bill = bill.usageScopes.map fun scope => ⟨⟨d.id, scope⟩, d.limits.on scope⟩ := by
  cases h : bill.member <;> simp [counters, Bill.usageScopes, Limits.on, h]

theorem Bill.total_mem_usageScopes (bill : Bill) : .total ∈ bill.usageScopes := by
  simp [usageScopes]

theorem Bill.usageScopes_pairwise (bill : Bill) :
    bill.usageScopes.Pairwise fun a b => a.rank < b.rank := by
  cases h : bill.member <;> simp [usageScopes, UsageScope.rank, h]

theorem Document.counters_pairwise (d : Document) (bill : Bill) :
    (d.counters bill).Pairwise fun a b => a.counter.scope.rank < b.counter.scope.rank := by
  rw [counters_eq_map, List.pairwise_map]
  exact bill.usageScopes_pairwise

theorem Document.mem_counters_iff {d : Document} {bill : Bill} {c : LimitedCounter} :
    c ∈ d.counters bill ↔ c.counter.promotion = d.id ∧ c.counter.scope ∈ bill.usageScopes ∧
      c.limit = d.limits.on c.counter.scope := by
  obtain ⟨⟨promotion, scope⟩, limit⟩ := c
  simp only [counters_eq_map, List.mem_map, LimitedCounter.mk.injEq, Counter.mk.injEq]
  constructor
  · rintro ⟨scope, hscope, ⟨rfl, rfl⟩, rfl⟩
    exact ⟨rfl, hscope, rfl⟩
  · rintro ⟨rfl, hscope, rfl⟩
    exact ⟨scope, hscope, ⟨rfl, rfl⟩, rfl⟩

/-! ## Counters that are left -/

/-- Some of the counters of a promotion, the last ones in their order. -/
def Document.Left (d : Document) (bill : Bill) (counters : List LimitedCounter) : Prop :=
  counters <:+ d.counters bill

namespace Document.Left

variable {d : Document} {bill : Bill} {c : LimitedCounter} {counters : List LimitedCounter}

theorem all (d : Document) (bill : Bill) : d.Left bill (d.counters bill) :=
  List.suffix_rfl

theorem tail (h : d.Left bill (c :: counters)) : d.Left bill counters :=
  (List.suffix_cons c counters).trans h

theorem mem_counters (h : d.Left bill (c :: counters)) : c ∈ d.counters bill :=
  h.subset List.mem_cons_self

theorem head_notMem (h : d.Left bill (c :: counters)) :
    c.counter ∉ counters.map (·.counter) := by
  have hpairwise := (d.counters_pairwise bill).sublist h.sublist
  intro hmem
  obtain ⟨e, he, heq⟩ := List.mem_map.1 hmem
  have hlt := (List.pairwise_cons.1 hpairwise).1 e he
  rw [heq] at hlt
  exact Nat.lt_irrefl _ hlt

/-- A counter of the promotion comes before the one in front, unless it is left. -/
theorem notMem_iff (h : d.Left bill (c :: counters)) {k : Counter} (hpromotion : d.id = k.promotion)
    (hscope : k.scope ∈ bill.usageScopes) :
    k ∉ (c :: counters).map (·.counter) ↔ k.scope.rank < c.counter.scope.rank := by
  obtain ⟨before, hbefore⟩ := h
  have hpairwise := d.counters_pairwise bill
  rw [← hbefore, List.pairwise_append, List.pairwise_cons] at hpairwise
  obtain ⟨-, ⟨hafter, -⟩, hacross⟩ := hpairwise
  constructor
  · intro hleft
    have hmem : ⟨k, d.limits.on k.scope⟩ ∈ d.counters bill :=
      mem_counters_iff.2 ⟨hpromotion.symm, hscope, rfl⟩
    rw [← hbefore] at hmem
    -- of the counters of the promotion, those that are not left are the ones before them
    rcases List.mem_append.1 hmem with hmem | hmem
    · exact hacross _ hmem c List.mem_cons_self
    · exact absurd (List.mem_map_of_mem hmem) hleft
  · intro hlt hleft
    obtain ⟨e, he, rfl⟩ := List.mem_map.1 hleft
    rcases List.mem_cons.1 he with rfl | he
    · exact Nat.lt_irrefl _ hlt
    · exact Nat.lt_asymm hlt (hafter e he)

end Document.Left

/-! ## Settlements -/

/-- A bill that is settled, with the documents at hand and the promotions applied to it. -/
structure Settlement where
  documents : List Document
  bill : Bill
  applied : List PromotionId

namespace Settlement

/-- The document by which a promotion is counted. -/
def document? (s : Settlement) (promotion : PromotionId) : Option Document :=
  s.documents.find? fun d => d.id = promotion

def recording (s : Settlement) : Recording := .start s.documents s.bill s.applied

/-- A promotion that is being counted for the settlement, with the counters it has left. -/
def Counts (s : Settlement) (w : Redeeming) : Prop :=
  ∃ d, s.document? w.promotion = some d ∧ d.Left s.bill w.counters

theorem id_of_document? {s : Settlement} {promotion : PromotionId} {d : Document}
    (h : s.document? promotion = some d) : d.id = promotion := by
  simpa using List.find?_some h

theorem counts_of_mem_recording (s : Settlement) : ∀ w ∈ s.recording.pending, s.Counts w := by
  intro w hw
  obtain ⟨promotion, -, hw⟩ := List.mem_filterMap.1 hw
  obtain ⟨d, hd, rfl⟩ := Option.map_eq_some_iff.1 hw
  have hid := id_of_document? hd
  exact ⟨d, by rw [← hid] at hd; exact hd, .all d s.bill⟩

end Settlement

/-! ## What has been counted -/

/-- A promotion that is being counted has been counted by a counter of it that is not left. -/
def Redeeming.hasPassed (k : Counter) (w : Redeeming) : Bool :=
  w.promotion = k.promotion ∧ k ∉ w.counters.map (·.counter)

/-- A promotion was counted by a counter of it when it was refused by a later one. -/
def Counter.isBefore (k : Counter) (refusal : PromotionId × UsageScope) : Bool :=
  refusal.1 = k.promotion ∧ k.scope.rank < refusal.2.rank

/-- How often a recording has added to a counter that it counts by. -/
def Recording.passed (k : Counter) (r : Recording) : Nat :=
  r.redemption.recorded.count k.promotion + r.redemption.refused.countP k.isBefore +
    r.pending.countP (·.hasPassed k)

/-- How often the recording of a settlement has added to a counter. -/
def Settlement.counted (s : Settlement) (k : Counter) (r : Recording) : Nat :=
  if k.scope ∈ s.bill.usageScopes then r.passed k else 0

theorem Settlement.counted_recording (s : Settlement) (k : Counter) :
    s.counted k s.recording = 0 := by
  rw [counted]
  split
  · rename_i hscope
    have hnone : s.recording.pending.countP (·.hasPassed k) = 0 := by
      rw [List.countP_eq_zero]
      intro w hw hpassed
      obtain ⟨promotion, -, hw⟩ := List.mem_filterMap.1 hw
      obtain ⟨d, -, rfl⟩ := Option.map_eq_some_iff.1 hw
      obtain ⟨hpromotion, hleft⟩ := of_decide_eq_true hpassed
      have hmem : ⟨k, d.limits.on k.scope⟩ ∈ d.counters s.bill :=
        Document.mem_counters_iff.2 ⟨hpromotion.symm, hscope, rfl⟩
      exact hleft (List.mem_map_of_mem hmem)
    rw [Recording.passed, hnone]
    rfl
  · rfl

namespace Recording

variable {k : Counter} {rest : List Redeeming} {redemption : Redemption}

theorem passed_cons (w : Redeeming) : passed k ⟨w :: rest, redemption⟩ =
    passed k ⟨rest, redemption⟩ + if w.hasPassed k then 1 else 0 := by
  simp [passed, List.countP_cons, Nat.add_assoc]

theorem passed_recorded (promotion : PromotionId) :
    passed k ⟨rest, { redemption with recorded := redemption.recorded ++ [promotion] }⟩ =
      passed k ⟨rest, redemption⟩ + if promotion = k.promotion then 1 else 0 := by
  simp only [passed, List.count_append, List.count_singleton, beq_iff_eq]
  omega

theorem passed_refused (refusal : PromotionId × UsageScope) :
    passed k ⟨rest, { redemption with refused := redemption.refused ++ [refusal] }⟩ =
      passed k ⟨rest, redemption⟩ + if k.isBefore refusal then 1 else 0 := by
  simp only [passed, List.countP_append, List.countP_singleton]
  omega

end Recording

/-! ## One step -/

theorem Ledger.increment?_eq_some_iff {l l' : Ledger} {c : LimitedCounter} :
    l.increment? c = some l' ↔ (∀ limit, c.limit = some limit → l.count c.counter < limit) ∧
      l' = l.set c.counter (Count.addSat (l.count c.counter) 1) := by
  simp only [increment?, Option.all_eq_true, decide_eq_true_eq]
  split
  · rename_i hlimit
    simp only [Option.some.injEq]
    exact ⟨fun h => ⟨hlimit, h.symm⟩, fun h => h.2.symm⟩
  · rename_i hlimit
    simp [hlimit]

namespace Recording

variable {s : Settlement} {k : Counter} {l l' : Ledger} {r : Recording} {rest : List Redeeming}
  {redemption : Redemption} {promotion : PromotionId} {c : LimitedCounter}
  {counters : List LimitedCounter}

theorem step_of_recorded : step l ⟨⟨promotion, []⟩ :: rest, redemption⟩ =
    (l, ⟨rest, { redemption with recorded := redemption.recorded ++ [promotion] }⟩) := rfl

theorem step_of_counted (h : l.increment? c = some l') :
    step l ⟨⟨promotion, c :: counters⟩ :: rest, redemption⟩ =
      (l', ⟨⟨promotion, counters⟩ :: rest, redemption⟩) := by
  simp [step, h]

theorem step_of_refused (h : l.increment? c = none) :
    step l ⟨⟨promotion, c :: counters⟩ :: rest, redemption⟩ =
      (l, ⟨rest, { redemption with
        refused := redemption.refused ++ [(promotion, c.counter.scope)] }⟩) := by
  simp [step, h]

theorem counts_step (h : ∀ w ∈ r.pending, s.Counts w) :
    ∀ w ∈ (step l r).2.pending, s.Counts w := by
  obtain ⟨pending, redemption⟩ := r
  cases pending with
  | nil => exact h
  | cons w rest =>
    obtain ⟨hw, hrest⟩ := List.forall_mem_cons.1 h
    obtain ⟨promotion, counters⟩ := w
    cases counters with
    | nil =>
      rw [step_of_recorded]
      exact hrest
    | cons c counters =>
      obtain ⟨d, hd, hleft⟩ := hw
      cases hinc : l.increment? c with
      | some l' =>
        rw [step_of_counted hinc]
        exact List.forall_mem_cons.2 ⟨⟨d, hd, hleft.tail⟩, hrest⟩
      | none =>
        rw [step_of_refused hinc]
        exact hrest

/-- What a step does to a counter and to the number of times a recording has added to it: nothing,
or it adds one to both, below the limit that the settlement has for the counter. -/
inductive Effect (s : Settlement) (k : Counter) (l : Ledger) (r : Recording) :
    Ledger × Recording → Prop
  | none {l' : Ledger} {r' : Recording} (hcount : l'.count k = l.count k)
      (hcounted : s.counted k r' = s.counted k r) : Effect s k l r (l', r')
  | one {l' : Ledger} {r' : Recording} {d : Document}
      (hcount : l'.count k = Count.addSat (l.count k) 1)
      (hcounted : s.counted k r' = s.counted k r + 1)
      (hd : s.document? k.promotion = some d)
      (hlimit : ∀ limit, d.limits.on k.scope = some limit → l.count k < limit) :
      Effect s k l r (l', r')

theorem counted_of_counted_self {d : Document} (hleft : d.Left s.bill (c :: counters))
    (hid : d.id = promotion) :
    s.counted c.counter ⟨⟨promotion, counters⟩ :: rest, redemption⟩ =
      s.counted c.counter ⟨⟨promotion, c :: counters⟩ :: rest, redemption⟩ + 1 := by
  obtain ⟨hpromotion, hscope, -⟩ := Document.mem_counters_iff.1 hleft.mem_counters
  have hbefore : Redeeming.hasPassed c.counter ⟨promotion, c :: counters⟩ = false := by
    simp [Redeeming.hasPassed]
  have hafter : Redeeming.hasPassed c.counter ⟨promotion, counters⟩ = true :=
    decide_eq_true ⟨by rw [hpromotion, hid], hleft.head_notMem⟩
  simp only [Settlement.counted, if_pos hscope, passed_cons, hbefore, hafter]
  rfl

theorem counted_of_counted_ne (hk : k ≠ c.counter) :
    s.counted k ⟨⟨promotion, counters⟩ :: rest, redemption⟩ =
      s.counted k ⟨⟨promotion, c :: counters⟩ :: rest, redemption⟩ := by
  have hsame : Redeeming.hasPassed k ⟨promotion, c :: counters⟩ =
      Redeeming.hasPassed k ⟨promotion, counters⟩ := by
    simp [Redeeming.hasPassed, hk]
  simp only [Settlement.counted, passed_cons, hsame]

theorem counted_of_recorded :
    s.counted k ⟨rest, { redemption with recorded := redemption.recorded ++ [promotion] }⟩ =
      s.counted k ⟨⟨promotion, []⟩ :: rest, redemption⟩ := by
  have hpassed : Redeeming.hasPassed k ⟨promotion, []⟩ = decide (promotion = k.promotion) := by
    simp [Redeeming.hasPassed]
  simp only [Settlement.counted, passed_cons, passed_recorded, hpassed, decide_eq_true_eq]

/-- What a refused promotion was counted by are the counters before the one that is full. -/
theorem counted_of_refused {d : Document} (hleft : d.Left s.bill (c :: counters))
    (hid : d.id = promotion) :
    s.counted k ⟨rest, { redemption with
        refused := redemption.refused ++ [(promotion, c.counter.scope)] }⟩ =
      s.counted k ⟨⟨promotion, c :: counters⟩ :: rest, redemption⟩ := by
  rw [Settlement.counted, Settlement.counted]
  split
  · rename_i hscope
    have hsame : Redeeming.hasPassed k ⟨promotion, c :: counters⟩ =
        k.isBefore (promotion, c.counter.scope) := by
      refine decide_eq_decide.2 (and_congr_right fun hpromotion => ?_)
      exact hleft.notMem_iff (hid.trans hpromotion) hscope
    rw [passed_cons, passed_refused, hsame]
  · rfl

theorem step_effect (h : ∀ w ∈ r.pending, s.Counts w) (l : Ledger) (k : Counter) :
    Effect s k l r (step l r) := by
  obtain ⟨pending, redemption⟩ := r
  cases pending with
  | nil => exact .none rfl rfl
  | cons w rest =>
    obtain ⟨⟨d, hd, hleft⟩, -⟩ := List.forall_mem_cons.1 h
    have hid := Settlement.id_of_document? hd
    obtain ⟨promotion, counters⟩ := w
    cases counters with
    | nil =>
      rw [step_of_recorded]
      exact .none rfl counted_of_recorded
    | cons c counters =>
      cases hinc : l.increment? c with
      | none =>
        rw [step_of_refused hinc]
        exact .none rfl (counted_of_refused hleft hid)
      | some l' =>
        rw [step_of_counted hinc]
        obtain ⟨hlimit, rfl⟩ := Ledger.increment?_eq_some_iff.1 hinc
        -- only the counter in front is written, and it had not been counted before
        by_cases hk : k = c.counter
        · subst hk
          obtain ⟨hpromotion, -, hlimit'⟩ := Document.mem_counters_iff.1 hleft.mem_counters
          rw [hlimit'] at hlimit
          refine .one (l.count_set_self _ _) (counted_of_counted_self hleft hid) ?_ hlimit
          rw [hpromotion, hid]
          exact hd
        · exact .none (l.count_set_of_ne _ hk) (counted_of_counted_ne hk)

theorem pending_of_size_eq_zero (h : r.size = 0) : r.pending = [] := by
  obtain ⟨pending, redemption⟩ := r
  cases pending with
  | nil => rfl
  | cons w rest => simp [size] at h

theorem size_step_le (l : Ledger) (r : Recording) : (step l r).2.size ≤ r.size - 1 := by
  by_cases h : r.pending = []
  · obtain ⟨pending, redemption⟩ := r
    obtain rfl : pending = [] := h
    exact Nat.le_refl 0
  · exact Nat.le_sub_one_of_lt (size_step_lt h)

end Recording

end Promotions

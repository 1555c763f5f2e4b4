import Promotions.Proofs.Ledger.Interleaving

/-!
# Proofs: settling one bill

A recording that no other comes between. If every counter it is going to add to is below its limit at
the start and no counter comes up twice, then nothing is refused and each of these counters is one
higher in the end. And however that stands, nothing is recorded but what was applied, and what is
recorded was counted.
-/

namespace Promotions

/-- The ledger with one more use counted by each of some counters. -/
def Ledger.countAll (l : Ledger) (counters : List Counter) : Ledger :=
  counters.foldl (fun l c => l.set c (Count.addSat (l.count c) 1)) l

theorem Ledger.count_countAll_of_notMem {l : Ledger} {counters : List Counter} {k : Counter}
    (h : k ∉ counters) : (l.countAll counters).count k = l.count k := by
  induction counters generalizing l with
  | nil => rfl
  | cons c counters ih =>
    obtain ⟨hne, hrest⟩ := not_or.1 (fun hor => h (List.mem_cons.2 hor))
    rw [countAll, List.foldl_cons, ← countAll, ih hrest, count_set_of_ne _ _ hne]

theorem Ledger.count_countAll {l : Ledger} {counters : List Counter} (hnodup : counters.Nodup)
    (k : Counter) : (l.countAll counters).count k =
      if k ∈ counters then Count.addSat (l.count k) 1 else l.count k := by
  split
  · rename_i hmem
    induction counters generalizing l with
    | nil => cases hmem
    | cons c counters ih =>
      obtain ⟨hc, hnodup⟩ := List.nodup_cons.1 hnodup
      rw [countAll, List.foldl_cons, ← countAll]
      rcases List.mem_cons.1 hmem with rfl | hmem
      · rw [count_countAll_of_notMem hc, count_set_self]
      · have hne : k ≠ c := fun h => hc (h ▸ hmem)
        rw [ih hnodup hmem, count_set_of_ne _ _ hne]
  · rename_i hmem
    exact count_countAll_of_notMem hmem

namespace Recording

/-- The counters that a recording has still to add to. -/
def left (r : Recording) : List LimitedCounter := r.pending.flatMap (·.counters)

/-! ## Step by step -/

section Steps

variable {l l' : Ledger} {promotion : PromotionId} {c : LimitedCounter}
  {counters : List LimitedCounter} {rest : List Redeeming} {redemption : Redemption}

theorem run_nil (l : Ledger) (redemption : Redemption) : run l ⟨[], redemption⟩ = (l, redemption) := by
  rw [run]
  rfl

theorem run_cons (l : Ledger) (w : Redeeming) (rest : List Redeeming) (redemption : Redemption) :
    run l ⟨w :: rest, redemption⟩ =
      run (step l ⟨w :: rest, redemption⟩).1 (step l ⟨w :: rest, redemption⟩).2 := by
  rw [run, dif_neg (List.cons_ne_nil w rest)]

theorem run_of_recorded : run l ⟨⟨promotion, []⟩ :: rest, redemption⟩ =
    run l ⟨rest, { redemption with recorded := redemption.recorded ++ [promotion] }⟩ := by
  rw [run_cons, step_of_recorded]

theorem run_of_counted (h : l.increment? c = some l') :
    run l ⟨⟨promotion, c :: counters⟩ :: rest, redemption⟩ =
      run l' ⟨⟨promotion, counters⟩ :: rest, redemption⟩ := by
  rw [run_cons, step_of_counted h]

theorem run_of_refused (h : l.increment? c = none) :
    run l ⟨⟨promotion, c :: counters⟩ :: rest, redemption⟩ =
      run l ⟨rest, { redemption with
        refused := redemption.refused ++ [(promotion, c.counter.scope)] }⟩ := by
  rw [run_cons, step_of_refused h]

end Steps

/-- What holds at the end and is carried back by each kind of step holds of every recording. -/
@[elab_as_elim]
theorem run_induction {motive : Ledger → Recording → Prop}
    (done : ∀ l redemption, motive l ⟨[], redemption⟩)
    (recorded : ∀ l promotion rest redemption,
      motive l ⟨rest, { redemption with recorded := redemption.recorded ++ [promotion] }⟩ →
        motive l ⟨⟨promotion, []⟩ :: rest, redemption⟩)
    (counted : ∀ l promotion c counters rest redemption l', l.increment? c = some l' →
      motive l' ⟨⟨promotion, counters⟩ :: rest, redemption⟩ →
        motive l ⟨⟨promotion, c :: counters⟩ :: rest, redemption⟩)
    (refused : ∀ l promotion c counters rest redemption, l.increment? c = none →
      motive l ⟨rest, { redemption with
        refused := redemption.refused ++ [(promotion, c.counter.scope)] }⟩ →
        motive l ⟨⟨promotion, c :: counters⟩ :: rest, redemption⟩)
    (l : Ledger) (r : Recording) : motive l r := by
  fun_induction run l r with
  | case1 l r h =>
    obtain ⟨pending, redemption⟩ := r
    obtain rfl : pending = [] := h
    exact done l redemption
  | case2 l r h hlt ih =>
    obtain ⟨pending, redemption⟩ := r
    cases pending with
    | nil => exact absurd rfl h
    | cons w rest =>
      obtain ⟨promotion, counters⟩ := w
      cases counters with
      | nil =>
        rw [step_of_recorded] at ih
        exact recorded l promotion rest redemption ih
      | cons c counters =>
        cases hinc : l.increment? c with
        | some l' =>
          rw [step_of_counted hinc] at ih
          exact counted l promotion c counters rest redemption l' hinc ih
        | none =>
          rw [step_of_refused hinc] at ih
          exact refused l promotion c counters rest redemption hinc ih

/-- Where there is room for every use, every use is counted. -/
theorem run_of_room {l : Ledger} {r : Recording} (hnodup : (r.left.map (·.counter)).Nodup)
    (hroom : ∀ c ∈ r.left, ∀ limit, c.limit = some limit → l.count c.counter < limit) :
    run l r = (l.countAll (r.left.map (·.counter)),
      { r.redemption with recorded := r.redemption.recorded ++ r.pending.map (·.promotion) }) := by
  induction l, r using run_induction with
  | done l redemption =>
    rw [run_nil]
    simp [left, Ledger.countAll]
  | recorded l promotion rest redemption ih =>
    rw [run_of_recorded, ih hnodup hroom]
    simp [left]
  | counted l promotion c counters rest redemption l' hinc ih =>
    obtain ⟨hc, hrest⟩ := List.nodup_cons.1 hnodup
    obtain ⟨-, rfl⟩ := Ledger.increment?_eq_some_iff.1 hinc
    rw [run_of_counted hinc, ih hrest fun d hd limit hlimit => ?_]
    · rfl
    · -- the counters that are left are others, so there is as much room as before
      have hne : d.counter ≠ c.counter := by
        intro heq
        have hmem := List.mem_map_of_mem (f := (·.counter)) hd
        rw [heq] at hmem
        exact hc hmem
      rw [Ledger.count_set_of_ne _ _ hne]
      exact hroom d (List.mem_cons_of_mem c hd) limit hlimit
  | refused l promotion c counters rest redemption hinc ih =>
    -- a counter with room is not refused
    have hcounts := Ledger.increment?_eq_some_iff.2 ⟨hroom c List.mem_cons_self, rfl⟩
    rw [hinc] at hcounts
    cases hcounts

/-- What a recording has not to add to is left alone. -/
theorem count_run_of_notMem {l : Ledger} {r : Recording} {k : Counter}
    (h : k ∉ r.left.map (·.counter)) : (run l r).1.count k = l.count k := by
  induction l, r using run_induction with
  | done l redemption => rw [run_nil]
  | recorded l promotion rest redemption ih =>
    rw [run_of_recorded]
    exact ih h
  | counted l promotion c counters rest redemption l' hinc ih =>
    obtain ⟨hne, hrest⟩ := not_or.1 (fun hor => h (List.mem_cons.2 hor))
    obtain ⟨-, rfl⟩ := Ledger.increment?_eq_some_iff.1 hinc
    rw [run_of_counted hinc, ih hrest, Ledger.count_set_of_ne _ _ hne]
  | refused l promotion c counters rest redemption hinc ih =>
    rw [run_of_refused hinc]
    refine ih fun hmem => h ?_
    obtain ⟨d, hd, rfl⟩ := List.mem_map.1 hmem
    exact List.mem_map_of_mem (List.mem_append_right (c :: counters) hd)

theorem mem_recorded_run {l : Ledger} {r : Recording} {id : PromotionId}
    (h : id ∈ (run l r).2.recorded) :
    id ∈ r.redemption.recorded ∨ id ∈ r.pending.map (·.promotion) := by
  induction l, r using run_induction with
  | done l redemption =>
    rw [run_nil] at h
    exact Or.inl h
  | recorded l promotion rest redemption ih =>
    rw [run_of_recorded] at h
    rcases ih h with hmem | hmem
    · rcases List.mem_append.1 hmem with hmem | hmem
      · exact Or.inl hmem
      · obtain rfl := List.mem_singleton.1 hmem
        exact Or.inr List.mem_cons_self
    · exact Or.inr (List.mem_cons_of_mem _ hmem)
  | counted l promotion c counters rest redemption l' hinc ih =>
    rw [run_of_counted hinc] at h
    exact ih h
  | refused l promotion c counters rest redemption hinc ih =>
    rw [run_of_refused hinc] at h
    exact (ih h).imp_right (List.mem_cons_of_mem _)

/-! ## The counters of applied promotions -/

variable {documents : List Document} {bill : Bill} {applied : List PromotionId}

theorem pending_start_cons {id : PromotionId} (h : ∃ d ∈ documents, d.id = id) (bill : Bill)
    (applied : List PromotionId) :
    ∃ d ∈ documents, d.id = id ∧ (start documents bill (id :: applied)).pending =
      ⟨id, d.counters bill⟩ :: (start documents bill applied).pending := by
  obtain ⟨d, hd, hid⟩ := h
  obtain ⟨e, he⟩ := Option.isSome_iff_exists.1
    ((List.find?_isSome (p := fun d => decide (d.id = id))).2 ⟨d, hd, decide_eq_true hid⟩)
  have heid : e.id = id := by simpa using List.find?_some he
  refine ⟨e, List.mem_of_find?_eq_some he, heid, ?_⟩
  simp [start, he, heid]

theorem promotions_start (h : ∀ id ∈ applied, ∃ d ∈ documents, d.id = id) (bill : Bill) :
    (start documents bill applied).pending.map (·.promotion) = applied := by
  induction applied with
  | nil => rfl
  | cons id applied ih =>
    obtain ⟨hfirst, hrest⟩ := List.forall_mem_cons.1 h
    obtain ⟨d, -, -, hpending⟩ := pending_start_cons hfirst bill applied
    rw [hpending, List.map_cons, ih hrest]

/-- Where every promotion has a document, each is counted by all scopes of the bill. -/
theorem counters_start (h : ∀ id ∈ applied, ∃ d ∈ documents, d.id = id) (bill : Bill) :
    (start documents bill applied).left.map (·.counter) =
      applied.flatMap fun id => bill.usageScopes.map fun scope => ⟨id, scope⟩ := by
  induction applied with
  | nil => rfl
  | cons id applied ih =>
    obtain ⟨hfirst, hrest⟩ := List.forall_mem_cons.1 h
    obtain ⟨d, -, rfl, hpending⟩ := pending_start_cons hfirst bill applied
    have hscopes : (d.counters bill).map (·.counter) =
        bill.usageScopes.map fun scope => ⟨d.id, scope⟩ := by
      rw [Document.counters_eq_map, List.map_map]
      rfl
    rw [left, hpending, List.flatMap_cons, List.map_append, hscopes, ← left, ih hrest,
      List.flatMap_cons]

theorem nodup_counters (hnodup : applied.Nodup) (bill : Bill) :
    (applied.flatMap fun id => bill.usageScopes.map fun scope => Counter.mk id scope).Nodup := by
  have hscopes : bill.usageScopes.Nodup := by
    refine List.Pairwise.imp ?_ bill.usageScopes_pairwise
    rintro a b hlt rfl
    exact Nat.lt_irrefl _ hlt
  rw [List.nodup_flatMap]
  refine ⟨fun id _ => ?_, hnodup.imp fun hne => ?_⟩
  · exact hscopes.map fun a b h => (Counter.mk.inj h).2
  · rw [Function.onFun, List.disjoint_left]
    intro k hk hk'
    obtain ⟨scope, -, rfl⟩ := List.mem_map.1 hk
    obtain ⟨scope', -, heq⟩ := List.mem_map.1 hk'
    exact hne (Counter.mk.inj heq).1.symm

theorem mem_counters_of_mem_left {c : LimitedCounter}
    (h : c ∈ (start documents bill applied).left) :
    ∃ d ∈ documents, d.id ∈ applied ∧ c ∈ d.counters bill := by
  obtain ⟨w, hw, hc⟩ := List.mem_flatMap.1 h
  obtain ⟨id, hid, hw⟩ := List.mem_filterMap.1 hw
  obtain ⟨d, hd, rfl⟩ := Option.map_eq_some_iff.1 hw
  have hdid : d.id = id := by simpa using List.find?_some hd
  exact ⟨d, List.mem_of_find?_eq_some hd, hdid ▸ hid, hc⟩

end Recording

namespace Ledger

variable {l : Ledger} {documents : List Document} {bill : Bill} {applied : List PromotionId}
  {promotion : PromotionId}

theorem mem_applied_of_mem_recorded (h : promotion ∈ (l.record documents bill applied).2.recorded) :
    promotion ∈ applied := by
  rcases Recording.mem_recorded_run h with hmem | hmem
  · cases hmem
  · obtain ⟨w, hw, rfl⟩ := List.mem_map.1 hmem
    obtain ⟨id, hid, hw⟩ := List.mem_filterMap.1 hw
    obtain ⟨d, hd, rfl⟩ := Option.map_eq_some_iff.1 hw
    have hdid : d.id = id := by simpa using List.find?_some hd
    exact hdid ▸ hid

/-- What has no document is not counted. -/
theorem count_record_of_forall_ne (l : Ledger) (bill : Bill) (applied : List PromotionId)
    (h : ∀ d ∈ documents, d.id ≠ promotion) (scope : UsageScope) :
    (l.record documents bill applied).1.count ⟨promotion, scope⟩ = l.count ⟨promotion, scope⟩ := by
  rw [record, Recording.count_run_of_notMem]
  intro hmem
  obtain ⟨c, hc, hcounter⟩ := List.mem_map.1 hmem
  obtain ⟨d, hd, -, hc⟩ := Recording.mem_counters_of_mem_left hc
  obtain ⟨hpromotion, -, -⟩ := Document.mem_counters_iff.1 hc
  exact h d hd (hpromotion.symm.trans (congrArg (·.promotion) hcounter))

/-- A counter with a limit that it has not passed does not pass it, and grows by what is recorded. -/
theorem record_within (bill : Bill) (applied : List PromotionId) {d : Document} {limit : Count}
    (hd : documents.find? (fun d => d.id = promotion) = some d)
    (hlimit : d.limits.maxUses = some limit)
    (hcount : (l.count ⟨promotion, .total⟩).toNat ≤ limit.toNat) :
    let recorded := l.record documents bill applied
    (recorded.1.count ⟨promotion, .total⟩).toNat ≤ limit.toNat ∧
      (l.count ⟨promotion, .total⟩).toNat + recorded.2.recorded.count promotion ≤
        (recorded.1.count ⟨promotion, .total⟩).toNat := by
  intro recorded
  let call : Settlement := ⟨documents, bill, applied⟩
  let terminal : Terminal := ⟨call, ⟨[], recorded.2⟩⟩
  have haccounted : Settling.Accounted l [call] ⟨recorded.1, [terminal]⟩ := by
    have hdocuments : ∀ c ∈ [call], c.documents = documents := by simp [call]
    obtain ⟨n, hrun⟩ := Settling.run_alone l call
    have hrest := Settling.accounted_run (Settlement.agreeOnLimits_of_documents hdocuments)
      (List.replicate n 0) (Settling.accounted_start l [call])
    rwa [hrun] at hrest
  have hisLimit : Settlement.IsLimit [call] ⟨promotion, .total⟩ limit :=
    ⟨call, List.mem_singleton_self call, d, hd, hlimit⟩
  have hwithin := haccounted.within ⟨promotion, .total⟩ limit hisLimit
  have hcounted : recorded.1.count ⟨promotion, .total⟩ = _ := haccounted.count ⟨promotion, .total⟩
  have hrecorded : recorded.2.recorded.count promotion ≤
      Settling.counted ⟨promotion, .total⟩ ⟨recorded.1, [terminal]⟩ := by
    have hle := Terminal.recorded_le_counted ⟨promotion, .total⟩ [terminal]
    simpa [Terminal.recorded, Bill.total_mem_usageScopes, Settling.counted, terminal] using hle
  have hgreatest : limit.toNat < 4294967296 := limit.toNat_lt
  rw [hcounted, Count.toNat_saturate]
  omega

end Ledger

end Promotions

import Promotions.Proofs.Compile.Settings
import Promotions.Proofs.Service.Settle

/-!
# Proofs: the limit on all uses of a promotion

Bills are settled one after another, and the ledger starts with nothing counted. A promotion is then
recorded no more often than it may be used. Its uses when it was compiled are not added to those of
the ledger: the gate is shown the greater of the two, so they only matter when the limit had been
reached by then.
-/

namespace Promotions

/-- The promotion was counted by every counter. -/
def SettledBill.records (id : PromotionId) (s : SettledBill) : Bool :=
  decide (id ∈ s.redemption.recorded)

namespace Service

/-- Settles bills one after another, and keeps those that could be settled. -/
def settleAll (l : Ledger) : List (Fixture × EvaluationRequest) → List SettledBill × Ledger
  | [] => ([], l)
  | (f, request) :: calls =>
    match settle f l request with
    | .ok (settled, l') =>
      let rest := settleAll l' calls
      (settled :: rest.1, rest.2)
    | .error _ => settleAll l calls

/-- The promotions with an identifier may all be used as often, and had been when they were
compiled. -/
def Capped (promotions : List Promotion) (id : PromotionId) (cap uses : Count) : Prop :=
  ∀ q ∈ promotions, q.id = id → q.maxUses = some cap ∧ q.currentUses = uses

variable {f : Fixture} {l l' : Ledger} {request : EvaluationRequest} {settled : SettledBill}
  {j : Judgement} {id : PromotionId} {cap uses : Count}

/-! ## One bill -/

theorem Judges.limits (hj : Judges f l request j) (hcapped : Capped f.promotions id cap uses)
    (hpos : 0 < cap) {d : Document} (hd : d ∈ j.documents) (hid : d.id = id) :
    d.limits.maxUses = some cap ∧ d.limits.currentUses = uses := by
  obtain ⟨c, store, options, hdocuments⟩ := hj.documents
  rw [hdocuments] at hd
  obtain ⟨q, hq, -, hcompiles⟩ := Compiler.exists_compiles hd
  obtain ⟨hcap, huses⟩ := hcapped q hq (hcompiles.id.symm.trans hid)
  have hne : cap ≠ 0 := fun h => UInt32.lt_irrefl 0 (h ▸ hpos)
  rw [hcompiles.limits]
  refine ⟨?_, huses⟩
  show Count.positive? q.maxUses = some cap
  simp [hcap, Count.positive?, hne]

/-- A promotion that is recorded has a document that passed with the ledger as it was. -/
theorem Judges.exists_passes_of_records (hj : Judges f l request j)
    (hrecord : l.record j.documents j.bill (appliedIds j) = (l', settled.redemption))
    (hrecords : settled.records id = true) :
    ∃ d ∈ j.documents, d.id = id ∧ ∃ (ctx : Context) (lines : EligibleLines),
      ctx.bill = j.bill ∧ ctx.usage = some (l.snapshot j.documents ctx.bill) ∧
        d.Passes ctx lines := by
  have hmem : id ∈ (l.record j.documents j.bill (appliedIds j)).2.recorded := by
    rw [hrecord]
    exact of_decide_eq_true hrecords
  exact hj.exists_passes (Ledger.mem_applied_of_mem_recorded hmem)

/-- The count of all uses keeps within the limit, and goes up where the promotion is recorded. -/
theorem settle_within (hcapped : Capped f.promotions id cap uses) (hpos : 0 < cap)
    (hcount : (l.count ⟨id, .total⟩).toNat ≤ cap.toNat)
    (h : settle f l request = .ok (settled, l')) :
    (l'.count ⟨id, .total⟩).toNat ≤ cap.toNat ∧
      (l.count ⟨id, .total⟩).toNat + (if settled.records id = true then 1 else 0) ≤
        (l'.count ⟨id, .total⟩).toNat := by
  obtain ⟨j, hj, -, hrecord⟩ := settle_eq_ok h
  cases hfind : j.documents.find? fun d => decide (d.id = id) with
  | some d =>
    have hid : d.id = id := by simpa using List.find?_some hfind
    obtain ⟨hlimit, -⟩ := hj.limits hcapped hpos (List.mem_of_find?_eq_some hfind) hid
    obtain ⟨hle, hgrows⟩ := Ledger.record_within j.bill (appliedIds j) hfind hlimit hcount
    rw [hrecord] at hle hgrows
    refine ⟨hle, Nat.le_trans (Nat.add_le_add_left ?_ _) hgrows⟩
    split
    · rename_i hrecords
      exact List.count_pos_iff.2 (of_decide_eq_true hrecords)
    · exact Nat.zero_le _
  | none =>
    -- the store holds no such promotion, so nothing is counted for it
    have hno : ∀ d ∈ j.documents, d.id ≠ id := by simpa using hfind
    have hsame := Ledger.count_record_of_forall_ne l j.bill (appliedIds j) hno .total
    rw [hrecord] at hsame
    have hrecords : ¬settled.records id = true := fun hrecords => by
      obtain ⟨d, hd, hid, -⟩ := hj.exists_passes_of_records hrecord hrecords
      exact hno d hd hid
    rw [hsame, if_neg hrecords]
    exact ⟨hcount, Nat.le_refl _⟩

/-- A promotion that is recorded had not reached its limit when it was compiled. -/
theorem uses_lt_of_records (hcapped : Capped f.promotions id cap uses) (hpos : 0 < cap)
    (h : settle f l request = .ok (settled, l')) (hrecords : settled.records id = true) :
    uses < cap := by
  obtain ⟨j, hj, -, hrecord⟩ := settle_eq_ok h
  obtain ⟨d, hd, hid, ctx, lines, -, husage, hpasses⟩ :=
    hj.exists_passes_of_records hrecord hrecords
  obtain ⟨hlimit, -⟩ := hj.limits hcapped hpos hd hid
  have hlimited : d.limits.isUnlimited = false := Limits.isUnlimited_eq_false .total hlimit
  obtain ⟨htotal, -, -⟩ := Document.limitGate_eq_ok_iff.1 hpasses.limit
  -- the snapshot has the uses of some document of the promotion, and they agree on those
  obtain ⟨e, he, heid, hseen⟩ := Document.usageSeen_snapshot husage hd hlimited
  obtain ⟨-, huses⟩ := hj.limits hcapped hpos he (heid.trans hid)
  have hbelow := Document.isBelow_iff.1 htotal cap hlimit
  rw [hseen] at hbelow
  exact huses ▸ (Count.max_lt_iff.1 hbelow).2

/-! ## Bill after bill -/

variable {promotions : List Promotion} {calls : List (Fixture × EvaluationRequest)}

theorem settleAll_within (hcapped : Capped promotions id cap uses) (hpos : 0 < cap)
    (hcalls : ∀ call ∈ calls, call.1.promotions = promotions)
    (hcount : (l.count ⟨id, .total⟩).toNat ≤ cap.toNat) :
    ((settleAll l calls).2.count ⟨id, .total⟩).toNat ≤ cap.toNat ∧
      (l.count ⟨id, .total⟩).toNat + (settleAll l calls).1.countP (·.records id) ≤
        ((settleAll l calls).2.count ⟨id, .total⟩).toNat := by
  induction calls generalizing l with
  | nil => exact ⟨hcount, Nat.le_refl _⟩
  | cons call calls ih =>
    obtain ⟨f, request⟩ := call
    obtain ⟨hpromotions, hcalls⟩ := List.forall_mem_cons.1 hcalls
    subst hpromotions
    cases h : settle f l request with
    | error e =>
      rw [settleAll, h]
      exact ih hcalls hcount
    | ok result =>
      obtain ⟨settled, l'⟩ := result
      obtain ⟨hle, hgrows⟩ := settle_within hcapped hpos hcount h
      obtain ⟨hlast, hrest⟩ := ih hcalls hle
      rw [settleAll, h]
      refine ⟨hlast, ?_⟩
      rw [List.countP_cons]
      dsimp only
      omega

/-- A bill that is settled comes of settling one of the calls, with the ledger as it was by then. -/
theorem exists_settle_of_mem_settleAll (h : settled ∈ (settleAll l calls).1) :
    ∃ call ∈ calls, ∃ before after, settle call.1 before call.2 = .ok (settled, after) := by
  induction calls generalizing l with
  | nil => cases h
  | cons call calls ih =>
    obtain ⟨f, request⟩ := call
    cases hsettle : settle f l request with
    | error e =>
      rw [settleAll, hsettle] at h
      obtain ⟨call, hcall, hcame⟩ := ih h
      exact ⟨call, List.mem_cons_of_mem _ hcall, hcame⟩
    | ok result =>
      obtain ⟨first, l'⟩ := result
      rw [settleAll, hsettle] at h
      rcases List.mem_cons.1 h with rfl | h
      · exact ⟨_, List.mem_cons_self, l, l', hsettle⟩
      · obtain ⟨call, hcall, hcame⟩ := ih h
        exact ⟨call, List.mem_cons_of_mem _ hcall, hcame⟩

/-- A promotion is recorded at most as often as it may be used, and never if it had been used as
often when it was compiled. -/
theorem settleAll_within_cap {p : Promotion} (hcap : p.maxUses = some cap) (hpos : 0 < cap)
    (halone : ∀ q ∈ promotions, q.id = p.id →
      q.maxUses = p.maxUses ∧ q.currentUses = p.currentUses)
    (hcalls : ∀ call ∈ calls, call.1.promotions = promotions) :
    (settleAll .empty calls).1.countP (·.records p.id) ≤
      if p.currentUses < cap then cap.toNat else 0 := by
  have hcapped : Capped promotions p.id cap p.currentUses := fun q hq hid => hcap ▸ halone q hq hid
  split
  · obtain ⟨hlast, hcounted⟩ := settleAll_within hcapped hpos hcalls (l := .empty) (Nat.zero_le _)
    omega
  · rename_i hused
    rw [List.countP_eq_zero.2 fun settled hmem hrecords => ?_]
    obtain ⟨call, hcall, before, after, hsettle⟩ := exists_settle_of_mem_settleAll hmem
    obtain rfl := hcalls call hcall
    exact hused (uses_lt_of_records hcapped hpos hsettle hrecords)

end Service

namespace Sample

/-- The bill of the shop is settled some times. -/
def sales (promotions : List Promotion) (n : Nat) : List (Fixture × EvaluationRequest) :=
  List.replicate n (fixture promotions, request)

/-- An offer that may be used once, at another store. -/
def elsewhere : Promotion :=
  { offer 1 "B" 10 with maxUses := some 1, allStores := false, stores := .ofList [id 2] }

end Sample

/-- Of three bills two are recorded, as many as the offer may be used. -/
theorem Service.settleAll_within_cap_shop :
    (Service.settleAll .empty (Sample.sales [Sample.twice] 3)).1.countP
      (·.records Sample.twice.id) = 2 := by
  refine Nat.le_antisymm ?_ (by decide +kernel)
  have halone : ∀ q ∈ [Sample.twice], q.id = Sample.twice.id →
      q.maxUses = Sample.twice.maxUses ∧ q.currentUses = Sample.twice.currentUses := by
    intro q hq _
    obtain rfl := List.mem_singleton.1 hq
    exact ⟨rfl, rfl⟩
  have hcalls : ∀ call ∈ Sample.sales [Sample.twice] 3, call.1.promotions = [Sample.twice] := by
    intro call hcall
    obtain rfl := List.eq_of_mem_replicate hcall
    rfl
  have hle := Service.settleAll_within_cap rfl (by decide) halone hcalls
  rwa [if_pos (by decide)] at hle

/-- An offer that may be used twice and had been used once is recorded twice. And the limit of an
offer does not hold for another one of its identifier. -/
theorem Service.settleAll_exceeds_rest :
    (Sample.twice.maxUses = some 2 ∧ Sample.twice.currentUses = 1 ∧
      ¬(Service.settleAll .empty (Sample.sales [Sample.twice] 2)).1.countP
        (·.records Sample.twice.id) ≤ 2 - 1) ∧
    (Sample.elsewhere.maxUses = some 1 ∧ Sample.elsewhere.currentUses = 0 ∧
      ¬(Service.settleAll .empty
          (Sample.sales [Sample.elsewhere, Sample.offer 1 "A" 10] 2)).1.countP
        (·.records Sample.elsewhere.id) ≤ 1 - 0) :=
  ⟨⟨rfl, rfl, by decide +kernel⟩, rfl, rfl, by decide +kernel⟩

end Promotions

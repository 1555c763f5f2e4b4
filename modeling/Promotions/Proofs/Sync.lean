import Promotions.Proofs.Compile.Fingerprints
import Promotions.Proofs.Sorted

/-!
# Proofs: terminals catch up

What a recompilation sends brings terminals to the fingerprints of the promotions as they are now,
and nothing is left to send until a promotion changes. A promotion that does not compile keeps what
terminals know of it, and one that is gone is forgotten.

Promotions are told apart by their identifiers. So each identifier is looked up on its own: it is
that of a promotion that compiles, of one that does not, or of none.
-/

namespace Promotions.Compiler

open Fallible

variable {c : Compiler} {known : Fingerprints} {promotions : List Promotion}
  {compiledAt : Timestamp} {p : Promotion} {d : Document}

/-! ## What a recompilation finds -/

theorem id_of_mem_compiled (h : (p, .ok d) ∈ promotions.map fun p => (p, c.compile p compiledAt)) :
    d.id = p.id := by
  obtain ⟨q, -, hq⟩ := List.mem_map.1 h
  obtain ⟨rfl, hd⟩ := Prod.mk.inj hq
  exact (compiles_of_compile hd).id

theorem nodup_ids_freshDocuments (hids : (promotions.map (·.id)).Nodup) :
    ((c.freshDocuments promotions compiledAt).map (·.id)).Nodup := by
  refine List.Nodup.sublist (map_id_documentsOf_sublist fun p d => id_of_mem_compiled) ?_
  rwa [List.map_map]

theorem nodup_ids_changed (hids : (promotions.map (·.id)).Nodup) :
    ((c.recompile known promotions compiledAt).changed.map (·.id)).Nodup :=
  (nodup_ids_freshDocuments hids).sublist (List.filter_sublist.map _)

/-- Each promotion changed, did not change, or does not compile. -/
theorem recompile_ids_perm (c : Compiler) (known : Fingerprints) (compiledAt : Timestamp)
    (hids : (promotions.map (·.id)).Nodup) :
    let r := c.recompile known promotions compiledAt
    (r.changed.map (·.id) ++ r.unchanged.toList ++ r.failures.map (·.promotionId)).Perm
      (promotions.map (·.id)) := by
  intro r
  have hfresh : ((c.freshDocuments promotions compiledAt).map (·.id)).Nodup :=
    nodup_ids_freshDocuments hids
  have hunchanged : r.unchanged.toList.Perm
      (((c.freshDocuments promotions compiledAt).filter fun d => known.knows d).map (·.id)) :=
    SortedSet.toList_ofList_perm (hfresh.sublist (List.filter_sublist.map _))
  have hdocuments : (r.changed.map (·.id) ++ r.unchanged.toList).Perm
      ((c.freshDocuments promotions compiledAt).map (·.id)) := by
    refine (hunchanged.append_left _).trans ?_
    rw [← List.map_append]
    refine List.Perm.map _ (List.perm_append_comm.trans ?_)
    exact List.filter_append_perm (fun d => known.knows d) _
  have hall : ((c.freshDocuments promotions compiledAt).map (·.id) ++
      r.failures.map (·.promotionId)).Perm
      ((promotions.map fun p => (p, c.compile p compiledAt)).map (·.1.id)) :=
    documentsOf_append_failuresOf_perm (fun p d => id_of_mem_compiled) fun _ _ _ => rfl
  rw [List.map_map] at hall
  exact (hdocuments.append_right _).trans hall

theorem mem_removed_iff {id : PromotionId} :
    id ∈ (c.recompile known promotions compiledAt).removed ↔
      (known.find? id).isSome ∧ id ∉ promotions.map (·.id) := by
  rw [recompile, SortedSet.mem_ofList, List.mem_filter, SortedMap.mem_keys_iff]
  simp

/-! ## What terminals know afterwards -/

/-- The fingerprint that terminals should know of a promotion: its own if it compiles, else what
they knew. -/
def fingerprintOr (c : Compiler) (known : Fingerprints) (compiledAt : Timestamp) (p : Promotion) :
    Option String :=
  match c.compile p compiledAt with
  | .ok d => some d.fingerprint
  | .error _ => known.find? p.id

theorem find?_applyTo_of_mem (hids : (promotions.map (·.id)).Nodup)
    (hd : d ∈ (c.recompile known promotions compiledAt).changed) :
    ((c.recompile known promotions compiledAt).applyTo known).find? d.id = some d.fingerprint :=
  SortedMap.find?_foldl_insert_of_mem Document.id Document.fingerprint _ (nodup_ids_changed hids) hd

theorem find?_applyTo_of_not_mem {id : PromotionId}
    (hid : id ∉ (c.recompile known promotions compiledAt).changed.map (·.id)) :
    ((c.recompile known promotions compiledAt).applyTo known).find? id =
      if id ∈ (c.recompile known promotions compiledAt).removed then none else known.find? id := by
  rw [Recompilation.applyTo,
    SortedMap.find?_foldl_insert_of_not_mem Document.id Document.fingerprint _ hid,
    SortedMap.find?_foldl_erase]
  rfl

/-- Where promotions have an identifier each, a document with the identifier of one of them is its
document. -/
theorem compile_of_mem_freshDocuments (hids : (promotions.map (·.id)).Nodup) (hp : p ∈ promotions)
    (hd : d ∈ c.freshDocuments promotions compiledAt) (hid : d.id = p.id) :
    c.compile p compiledAt = .ok d := by
  obtain ⟨q, hq, h⟩ := mem_freshDocuments_iff.1 hd
  have hsame : q.id = p.id := (compiles_of_compile h).id.symm.trans hid
  obtain rfl := List.inj_on_of_nodup_map hids hq hp hsame
  exact h

theorem find?_applyTo (hids : (promotions.map (·.id)).Nodup) (hp : p ∈ promotions) :
    ((c.recompile known promotions compiledAt).applyTo known).find? p.id =
      c.fingerprintOr known compiledAt p := by
  have hkept : p.id ∉ (c.recompile known promotions compiledAt).removed := fun h =>
    (mem_removed_iff.1 h).2 (List.mem_map.2 ⟨p, hp, rfl⟩)
  by_cases hchanged : p.id ∈ (c.recompile known promotions compiledAt).changed.map (·.id)
  · obtain ⟨d, hd, hid⟩ := List.mem_map.1 hchanged
    have hcompile := compile_of_mem_freshDocuments hids hp (mem_changed_iff.1 hd).1 hid
    rw [fingerprintOr, hcompile, ← hid, find?_applyTo_of_mem hids hd]
  · rw [find?_applyTo_of_not_mem hchanged, if_neg hkept, fingerprintOr]
    cases hcompile : c.compile p compiledAt with
    | error e => rfl
    | ok d =>
      -- it compiles but was not sent, so terminals knew its fingerprint
      have hid : d.id = p.id := (compiles_of_compile hcompile).id
      have hfresh : d ∈ c.freshDocuments promotions compiledAt :=
        mem_freshDocuments_iff.2 ⟨p, hp, hcompile⟩
      by_contra hunknown
      refine hchanged (List.mem_map.2 ⟨d, mem_changed_iff.2 ⟨hfresh, ?_⟩, hid⟩)
      rwa [hid]

theorem find?_applyTo_eq_none {id : PromotionId} (hid : id ∉ promotions.map (·.id)) :
    ((c.recompile known promotions compiledAt).applyTo known).find? id = none := by
  have hchanged : id ∉ (c.recompile known promotions compiledAt).changed.map (·.id) := by
    intro h
    obtain ⟨d, hd, rfl⟩ := List.mem_map.1 h
    obtain ⟨p, hp, h⟩ := mem_freshDocuments_iff.1 (mem_changed_iff.1 hd).1
    exact hid (List.mem_map.2 ⟨p, hp, (compiles_of_compile h).id.symm⟩)
  rw [find?_applyTo_of_not_mem hchanged]
  split
  · rfl
  · rename_i hkept
    rw [mem_removed_iff, not_and_not_right] at hkept
    cases hknown : known.find? id with
    | none => rfl
    | some f => exact absurd (hkept (by rw [hknown]; rfl)) hid

/-- Terminals that know the fingerprint of every promotion that compiles, and of nothing but these
promotions, need nothing. -/
theorem recompile_isEmpty
    (hcompiled : ∀ p ∈ promotions, ∀ d, c.compile p compiledAt = .ok d →
      known.find? p.id = some d.fingerprint)
    (hothers : ∀ id, id ∉ promotions.map (·.id) → known.find? id = none) :
    (c.recompile known promotions compiledAt).changed = [] ∧
      (c.recompile known promotions compiledAt).removed = .empty := by
  constructor
  · refine List.eq_nil_iff_forall_not_mem.2 fun d hd => ?_
    obtain ⟨hfresh, hunknown⟩ := mem_changed_iff.1 hd
    obtain ⟨p, hp, h⟩ := mem_freshDocuments_iff.1 hfresh
    rw [(compiles_of_compile h).id] at hunknown
    exact hunknown (hcompiled p hp d h)
  · refine SortedSet.ext_mem fun id => iff_of_false (fun h => ?_) List.not_mem_nil
    obtain ⟨hknown, hid⟩ := mem_removed_iff.1 h
    rw [hothers id hid] at hknown
    cases hknown

/-- What a recompilation sends brings terminals up to date: afterwards they know the fingerprints of
the promotions that compile, what they knew of those that do not, and nothing else. Every promotion
is accounted for once, and compiling again at any time finds nothing to send. -/
theorem recompile_converges (c : Compiler) (known : Fingerprints) (promotions : List Promotion)
    (t₁ t₂ : Timestamp) (hids : (promotions.map (·.id)).Nodup) :
    let r := c.recompile known promotions t₁
    let next := r.applyTo known
    (∀ p ∈ promotions, next.find? p.id = c.fingerprintOr known t₁ p) ∧
    (∀ id, id ∉ promotions.map (·.id) → next.find? id = none) ∧
    (r.changed.map (·.id) ++ r.unchanged.toList ++ r.failures.map (·.promotionId)).Perm
      (promotions.map (·.id)) ∧
    (c.recompile next promotions t₂).changed = [] ∧
    (c.recompile next promotions t₂).removed = .empty ∧
    (c.recompile next promotions t₂).isEmpty = true := by
  intro r next
  have hfound : ∀ p ∈ promotions, next.find? p.id = c.fingerprintOr known t₁ p := fun p hp =>
    find?_applyTo hids hp
  have hothers : ∀ id, id ∉ promotions.map (·.id) → next.find? id = none := fun id hid =>
    find?_applyTo_eq_none hid
  have hcompiled : ∀ p ∈ promotions, ∀ d, c.compile p t₂ = .ok d →
      next.find? p.id = some d.fingerprint := by
    intro p hp d h
    obtain ⟨e, he, hfingerprint⟩ := (fingerprinted_of_compile h).always t₁
    rw [hfound p hp, fingerprintOr, he, ← hfingerprint]
  obtain ⟨hchanged, hremoved⟩ := recompile_isEmpty hcompiled hothers
  refine ⟨hfound, hothers, recompile_ids_perm c known t₁ hids, hchanged, hremoved, ?_⟩
  rw [Recompilation.isEmpty, hchanged, hremoved]
  rfl

/-- Terminals come to know an offer, keep what they knew of one that does not compile, and forget
one that is gone; a second later there is nothing to send. -/
theorem recompile_converges_shop :
    let broken := { Sample.offer 2 "B" 20 with discountAmount := none }
    let promotions := [Sample.offer 1 "A" 10, broken]
    let known : Fingerprints := .ofList [(Sample.id 2, "kept"), (Sample.id 3, "gone")]
    let next := (Sample.compiler.recompile known promotions .epoch).applyTo known
    let later : Timestamp := ⟨⟨Sample.date, .midnight⟩, by decide, by decide⟩
    (promotions.map (·.id)).Nodup ∧
    (∃ d, Sample.compiler.compile (Sample.offer 1 "A" 10) .epoch = .ok d ∧
      next.find? (Sample.id 1) = some d.fingerprint) ∧
    next.find? (Sample.id 2) = some "kept" ∧ next.find? (Sample.id 3) = none ∧
    (Sample.compiler.recompile next promotions later).isEmpty = true := by
  intro broken promotions known next later
  have hids : (promotions.map (·.id)).Nodup := by decide
  obtain ⟨hfound, hothers, -, -, -, hempty⟩ :=
    recompile_converges Sample.compiler known promotions .epoch later hids
  obtain ⟨d, hd⟩ : ∃ d, Sample.compiler.compile (Sample.offer 1 "A" 10) .epoch = .ok d := ⟨_, rfl⟩
  refine ⟨hids, ⟨d, hd, ?_⟩, ?_, hothers _ (by decide), hempty⟩
  · have hone := hfound (Sample.offer 1 "A" 10) List.mem_cons_self
    rwa [fingerprintOr, hd] at hone
  · exact hfound broken (List.mem_cons_of_mem _ List.mem_cons_self)

end Promotions.Compiler

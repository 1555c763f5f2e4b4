import Promotions.Proofs.Loading
import Promotions.Proofs.Sorted

/-!
# Proofs: what a fixture holds after many files

Files are loaded in any order, and a file may end half way because a promotion or a bill does not
belong to the company. What was taken up until then stays. So what a fixture holds is told by the
list of all promotions that were taken up: a key stands for the identifier it came with last, and an
identifier for the promotion that came with it last, whatever its key.
-/

namespace Promotions

open Fallible

namespace Fixture

variable {f g : Fixture}

/-! ## Promotions that take the place of others -/

/-- The list with a promotion at its end, in place of one with its identifier. -/
def replace (promotions : List Promotion) (p : Promotion) : List Promotion :=
  (promotions.filter fun q => q.id ≠ p.id) ++ [p]

theorem find?_replace (promotions : List Promotion) (p : Promotion) (id : PromotionId) :
    ((replace promotions p).find? fun q => q.id = id) =
      if id = p.id then some p else promotions.find? fun q => q.id = id := by
  rw [replace, List.find?_append]
  by_cases hid : id = p.id
  · have hnone : ((promotions.filter fun q => q.id ≠ p.id).find? fun q => q.id = id) = none :=
      List.find?_eq_none.2 fun q hq => by simpa [hid] using (List.mem_filter.1 hq).2
    rw [hnone, Option.none_or, if_pos hid, hid]
    simp
  · have hothers : ((promotions.filter fun q => q.id ≠ p.id).find? fun q => q.id = id) =
        promotions.find? fun q => q.id = id := by
      rw [List.find?_filter]
      congr 1
      funext q
      by_cases hq : q.id = id <;> simp [hq, hid]
    have hlast : ([p].find? fun q => q.id = id) = none := by simp [Ne.symm hid]
    rw [hothers, hlast, Option.or_none, if_neg hid]

theorem nodup_replace {promotions : List Promotion} (h : (promotions.map (·.id)).Nodup)
    (p : Promotion) : ((replace promotions p).map (·.id)).Nodup := by
  rw [replace, List.map_append, List.map_singleton, List.nodup_append]
  refine ⟨(List.filter_sublist.map _).nodup h, List.nodup_singleton _, fun id hid => ?_⟩
  obtain ⟨q, hq, rfl⟩ := List.mem_map.1 hid
  simpa using (List.mem_filter.1 hq).2

/-- Promotions that replace others stand behind those that have none of their identifiers, in an
order that does not depend on what was there before. -/
theorem foldl_replace (promotions : List Promotion) (ps : List Promotion) :
    ps.foldl replace promotions =
      (promotions.filter fun q => q.id ∉ ps.map (·.id)) ++ ps.foldl replace [] := by
  induction ps using List.reverseRecOn with
  | nil => simp
  | append_singleton ps p ih =>
    rw [List.foldl_append, List.foldl_append, ih, List.foldl_cons, List.foldl_cons, List.foldl_nil,
      List.foldl_nil, replace, replace, List.filter_append, List.filter_filter, List.append_assoc]
    refine congrArg (· ++ _) (List.filter_congr fun q _ => ?_)
    simp [and_comm]

theorem mem_foldl_replace {ps : List Promotion} {q : Promotion} (h : q ∈ ps.foldl replace []) :
    q ∈ ps := by
  induction ps using List.reverseRecOn with
  | nil => cases h
  | append_singleton ps p ih =>
    rw [List.foldl_append, List.foldl_cons, List.foldl_nil, replace] at h
    refine List.mem_append.2 ((List.mem_append.1 h).imp_left fun hq => ?_)
    exact ih (List.mem_filter.1 hq).1

/-- Promotions that replace others twice come to the same as once. -/
theorem foldl_replace_twice (promotions ps : List Promotion) :
    ps.foldl replace (ps.foldl replace promotions) = ps.foldl replace promotions := by
  have hgone : (ps.foldl replace []).filter (fun q => q.id ∉ ps.map (·.id)) = [] :=
    List.filter_eq_nil_iff.2 fun q hq => by
      simpa using ⟨q, mem_foldl_replace hq, rfl⟩
  rw [foldl_replace (ps.foldl replace promotions), foldl_replace promotions, List.filter_append,
    hgone, List.append_nil, List.filter_filter]
  simp only [Bool.and_self]

/-! ## One file -/

/-- The fixture with promotions under their keys, one after the other. -/
def addAll (f : Fixture) (entries : List (String × Promotion)) : Fixture :=
  entries.foldl (fun f e => f.addPromotion e.1 e.2) f

theorem addAll_eq (f : Fixture) (entries : List (String × Promotion)) :
    f.addAll entries =
      { f with
        promotionKeys := entries.foldl (fun m e => m.insert e.1 e.2.id) f.promotionKeys
        promotions := (entries.map (·.2)).foldl replace f.promotions } := by
  induction entries generalizing f with
  | nil => rfl
  | cons e entries ih => exact ih (f.addPromotion e.1 e.2)

/-- Entries that are put into a map twice come to the same as once. -/
theorem foldl_insert_twice {κ ν : Type} [Ordered κ] [DecidableEq κ] (m : SortedMap κ ν)
    (entries : List (κ × ν)) :
    entries.foldl (fun m e => m.insert e.1 e.2) (entries.foldl (fun m e => m.insert e.1 e.2) m) =
      entries.foldl (fun m e => m.insert e.1 e.2) m := by
  refine SortedMap.ext_find? fun k => ?_
  rw [SortedMap.find?_foldl_insert, SortedMap.find?_foldl_insert, ← Option.or_assoc,
    Option.or_self]

theorem addAll_twice (f : Fixture) (entries : List (String × Promotion)) :
    (f.addAll entries).addAll entries = f.addAll entries := by
  have hkeys := foldl_insert_twice f.promotionKeys (entries.map fun e => (e.1, e.2.id))
  simp only [List.foldl_map] at hkeys
  simp only [addAll_eq, hkeys, foldl_replace_twice]

/-- The promotions of a file are taken up until the first that belongs to another company. -/
theorem addPromotions_eq (f : Fixture) (entries : List (String × Promotion)) :
    (f.addPromotions entries).2 =
      f.addAll (entries.takeWhile fun e => f.acceptsPromotion e.2) := by
  induction entries generalizing f with
  | nil => rfl
  | cons e entries ih =>
    rw [addPromotions]
    split
    · rename_i haccepts
      rw [List.takeWhile_cons, if_pos haccepts]
      exact ih (f.addPromotion e.1 e.2)
    · rename_i hrefuses
      rw [List.takeWhile_cons, if_neg hrefuses]
      rfl

/-- Whether all promotions of a file are taken up depends on the company only. -/
theorem addPromotions_fst_congr (h : g.reference = f.reference)
    (entries : List (String × Promotion)) :
    (g.addPromotions entries).1 = (f.addPromotions entries).1 := by
  induction entries generalizing f g with
  | nil => rfl
  | cons e entries ih =>
    have haccepts : g.acceptsPromotion e.2 = f.acceptsPromotion e.2 := by
      rw [acceptsPromotion, h, acceptsPromotion]
    rw [addPromotions, addPromotions, haccepts]
    split
    · exact ih (show (g.addPromotion e.1 e.2).reference = (f.addPromotion e.1 e.2).reference from h)
    · rfl

theorem loadPromotions_twice (f : Fixture) (file : FileContent) :
    (f.loadPromotions file).2.loadPromotions file = f.loadPromotions file := by
  unfold loadPromotions
  cases decode promotionsOf? file with
  | error e => rfl
  | ok promotions =>
    have hreference := (f.addPromotions_spec promotions.entries).1
    refine Prod.ext (addPromotions_fst_congr hreference _) ?_
    have haccepts : (fun e : String × Promotion =>
        (f.addPromotions promotions.entries).2.acceptsPromotion e.2) =
          fun e => f.acceptsPromotion e.2 := by
      funext e
      rw [acceptsPromotion, hreference, acceptsPromotion]
    dsimp only
    rw [addPromotions_eq _ promotions.entries, haccepts, addPromotions_eq f, addAll_twice]

theorem addBills_eq (f : Fixture) (entries : List (String × Bill)) :
    ∃ bills, (f.addBills entries).2 = { f with bills } := by
  induction entries generalizing f with
  | nil => exact ⟨f.bills, rfl⟩
  | cons entry entries ih =>
    unfold addBills
    dsimp only
    split
    · exact ih { f with bills := f.bills.insert entry.1 entry.2 }
    · exact ⟨f.bills, rfl⟩

/-- A file of bills changes nothing but bills and customers. -/
theorem loadBills_eq (f : Fixture) (file : FileContent) :
    ∃ bills customers, (f.loadBills file).2 = { f with bills, customers } := by
  unfold loadBills
  cases decode billsOf? file with
  | error e => exact ⟨f.bills, f.customers, rfl⟩
  | ok content =>
    obtain ⟨bills, hadd⟩ := f.addBills_eq content.1.entries
    dsimp only
    rcases hresult : f.addBills content.1.entries with ⟨_ | _, g⟩
    · rw [hresult] at hadd
      exact ⟨bills, f.customers, hadd⟩
    · rw [hresult] at hadd
      obtain rfl : g = { f with bills } := hadd
      exact ⟨bills, _, rfl⟩

/-! ## Many files -/

/-- A call that loads a file. -/
inductive Load where
  /-- Reference data. -/
  | reference (file : FileContent)
  /-- Promotions. -/
  | promotions (file : FileContent)
  /-- Bills and customers. -/
  | bills (file : FileContent)

/-- What the call comes to. -/
def Load.run (f : Fixture) : Load → Loaded
  | .reference file => f.loadReference file
  | .promotions file => f.loadPromotions file
  | .bills file => f.loadBills file

/-- The promotions that the call takes up, with their keys: those of the file in order of keys, up
to the first that belongs to another company. -/
def Load.takenUp (f : Fixture) : Load → List (String × Promotion)
  | .promotions file =>
    match decode promotionsOf? file with
    | .error _ => []
    | .ok content => content.entries.takeWhile fun e => f.acceptsPromotion e.2
  | _ => []

/-- The fixture after one call after the other, of which each may have failed. -/
def runAll (f : Fixture) (loads : List Load) : Fixture :=
  loads.foldl (fun f load => (load.run f).2) f

/-- The promotions that were taken up by one call after the other, with their keys. -/
def history : Fixture → List Load → List (String × Promotion)
  | _, [] => []
  | f, load :: loads => load.takenUp f ++ history (load.run f).2 loads

/-- The fixture holds the keys and promotions that came last. -/
structure HoldsLast (f : Fixture) (taken : List (String × Promotion)) : Prop where
  distinct : (f.promotions.map (·.id)).Nodup
  keys : ∀ key,
    f.promotionKeys.find? key = (taken.reverse.find? fun e => e.1 = key).map (·.2.id)
  promotions : ∀ id,
    (f.promotions.find? fun p => p.id = id) = (taken.reverse.find? fun e => e.2.id = id).map (·.2)

namespace HoldsLast

variable {taken : List (String × Promotion)}

theorem addPromotion (h : HoldsLast f taken) (e : String × Promotion) :
    HoldsLast (f.addPromotion e.1 e.2) (taken ++ [e]) where
  distinct := nodup_replace h.distinct e.2
  keys key := by
    rw [Fixture.addPromotion, SortedMap.find?_insert, List.reverse_append, List.reverse_singleton,
      List.singleton_append, List.find?_cons, h.keys]
    by_cases hkey : e.1 = key
    · simp [hkey]
    · simp [hkey, Ne.symm hkey]
  promotions id := by
    have hreplace := find?_replace f.promotions e.2 id
    rw [h.promotions] at hreplace
    rw [List.reverse_append, List.reverse_singleton, List.singleton_append, List.find?_cons]
    refine hreplace.trans ?_
    by_cases hid : e.2.id = id
    · simp [hid]
    · simp [hid, Ne.symm hid]

theorem addAll (h : HoldsLast f taken) (entries : List (String × Promotion)) :
    HoldsLast (f.addAll entries) (taken ++ entries) := by
  induction entries generalizing f taken with
  | nil => rwa [List.append_nil]
  | cons e entries ih =>
    rw [List.append_cons]
    exact ih (h.addPromotion e)

/-- Nothing is read of a fixture but its promotions and their keys. -/
theorem of_eq (h : HoldsLast f taken) (hpromotions : g.promotions = f.promotions)
    (hkeys : g.promotionKeys = f.promotionKeys) : HoldsLast g taken where
  distinct := hpromotions ▸ h.distinct
  keys := hkeys ▸ h.keys
  promotions := hpromotions ▸ h.promotions

theorem run (h : HoldsLast f taken) (load : Load) :
    HoldsLast (load.run f).2 (taken ++ load.takenUp f) := by
  cases load with
  | reference file =>
    refine (List.append_nil taken).symm ▸ h.of_eq ?_ ?_
    · unfold Load.run loadReference
      dsimp only
      split <;> rfl
    · unfold Load.run loadReference
      dsimp only
      split <;> rfl
  | promotions file =>
    unfold Load.run Load.takenUp loadPromotions
    dsimp only
    cases decode promotionsOf? file with
    | error e => exact (List.append_nil taken).symm ▸ h
    | ok promotions =>
      dsimp only
      rw [addPromotions_eq]
      exact h.addAll _
  | bills file =>
    obtain ⟨bills, customers, hload⟩ := f.loadBills_eq file
    have hrun : (Load.run f (.bills file)).2 = { f with bills, customers } := hload
    rw [hrun]
    exact (List.append_nil taken).symm ▸ h.of_eq rfl rfl

theorem runAll (h : HoldsLast f taken) (loads : List Load) :
    HoldsLast (f.runAll loads) (taken ++ history f loads) := by
  induction loads generalizing f taken with
  | nil => rwa [history, List.append_nil]
  | cons load loads ih =>
    rw [history, ← List.append_assoc]
    exact ih (h.run load)

theorem empty : HoldsLast {} [] where
  distinct := List.nodup_nil
  keys _ := rfl
  promotions _ := rfl

end HoldsLast

/-! ## What is found under a key -/

theorem promotionId_eq_ok_iff {key : String} {id : PromotionId} :
    f.promotionId key = .ok id ↔ f.promotionKeys.find? key = some id := by
  unfold promotionId
  cases f.promotionKeys.find? key with
  | some found => simp
  | none => simp

theorem promotion_eq_ok_iff {key : String} {p : Promotion} :
    f.promotion key = .ok p ↔
      ∃ id, f.promotionId key = .ok id ∧ (f.promotions.find? fun p => p.id = id) = some p := by
  unfold promotion
  rw [bind_eq_ok_iff]
  refine exists_congr fun id => and_congr_right fun _ => ?_
  cases f.promotions.find? fun p => p.id = id with
  | some found => simp [pure_eq_ok_iff]
  | none => simp [throw, throwThe, MonadExceptOf.throw]

/-- What is found in a fixture is what came last of the promotions that were taken up. -/
structure Records (f : Fixture) (taken : List (String × Promotion)) : Prop where
  /-- No two promotions have the same identifier. -/
  distinct : (f.promotions.map (·.id)).Nodup
  /-- A key stands for the identifier that it came with last. -/
  identifier : ∀ key id, f.promotionId key = .ok id ↔
    ∃ p, (taken.reverse.find? fun e => e.1 = key) = some (key, p) ∧ p.id = id
  /-- There is a promotion under every key that was taken up. -/
  resolves : ∀ e ∈ taken, ∃ p, f.promotion e.1 = .ok p
  /-- There is a promotion under a key just where the key stands for an identifier. -/
  resolves_iff : ∀ key, (∃ p, f.promotion key = .ok p) ↔ ∃ id, f.promotionId key = .ok id
  /-- The promotion under a key has the identifier of the key, and is the last that came with it. -/
  latest : ∀ key p, f.promotion key = .ok p →
    f.promotionId key = .ok p.id ∧
      ∃ key', (taken.reverse.find? fun e => e.2.id = p.id) = some (key', p)

theorem HoldsLast.records {taken : List (String × Promotion)} (h : HoldsLast f taken) :
    Records f taken := by
  have hidentifier (key : String) (id : PromotionId) : f.promotionId key = .ok id ↔
      ∃ p, (taken.reverse.find? fun e => e.1 = key) = some (key, p) ∧ p.id = id := by
    rw [promotionId_eq_ok_iff, h.keys, Option.map_eq_some_iff]
    constructor
    · rintro ⟨e, he, hid⟩
      have hkey : e.1 = key := by simpa using List.find?_some he
      exact ⟨e.2, hkey ▸ he, hid⟩
    · rintro ⟨p, he, hid⟩
      exact ⟨(key, p), he, hid⟩
  -- the entry that the key came with last has the identifier, so there is a last entry with it
  have hresolves (key : String) (id : PromotionId) (hid : f.promotionId key = .ok id) :
      ∃ p, f.promotion key = .ok p := by
    obtain ⟨p, he, hp⟩ := (hidentifier key id).1 hid
    have hsome : (taken.reverse.find? fun e => e.2.id = id).isSome :=
      List.find?_isSome.2 ⟨(key, p), List.mem_of_find?_eq_some he, decide_eq_true hp⟩
    obtain ⟨e, he⟩ := Option.isSome_iff_exists.1 hsome
    exact ⟨e.2, promotion_eq_ok_iff.2 ⟨id, hid, by rw [h.promotions, he]; rfl⟩⟩
  refine ⟨h.distinct, hidentifier, fun e he => ?_, fun key => ⟨?_, ?_⟩, fun key p hp => ?_⟩
  · have hsome : (taken.reverse.find? fun e' => e'.1 = e.1).isSome :=
      List.find?_isSome.2 ⟨e, List.mem_reverse.2 he, decide_eq_true rfl⟩
    obtain ⟨e', he'⟩ := Option.isSome_iff_exists.1 hsome
    refine hresolves e.1 e'.2.id (promotionId_eq_ok_iff.2 ?_)
    rw [h.keys, he']
    rfl
  · rintro ⟨p, hp⟩
    obtain ⟨id, hid, -⟩ := promotion_eq_ok_iff.1 hp
    exact ⟨id, hid⟩
  · rintro ⟨id, hid⟩
    exact hresolves key id hid
  · obtain ⟨id, hid, hfind⟩ := promotion_eq_ok_iff.1 hp
    obtain rfl : p.id = id := by simpa using List.find?_some hfind
    rw [h.promotions, Option.map_eq_some_iff] at hfind
    obtain ⟨e, he, rfl⟩ := hfind
    exact ⟨hid, e.1, he⟩

/-! ## Sets -/

/-- All promotions belong to the company. -/
def HasOneCompany (f : Fixture) : Prop :=
  ∀ reference, f.reference = some reference → ∀ p ∈ f.promotions,
    p.companyId = reference.company.id

theorem HasOneCompany.loadPromotions (h : f.HasOneCompany) (file : FileContent) :
    (f.loadPromotions file).2.HasOneCompany := by
  unfold Fixture.loadPromotions
  cases decode promotionsOf? file with
  | error e => exact h
  | ok promotions =>
    dsimp only
    rw [addPromotions_eq, addAll_eq]
    intro reference hreference p hp
    have hreference' : f.reference = some reference := hreference
    rw [foldl_replace] at hp
    rcases List.mem_append.1 hp with hp | hp
    · exact h reference hreference p (List.mem_filter.1 hp).1
    · obtain ⟨e, he, rfl⟩ := List.mem_map.1 (mem_foldl_replace hp)
      have haccepts := List.mem_takeWhile_imp he
      rw [acceptsPromotion, hreference'] at haccepts
      simpa using haccepts

theorem loadPromotions_reference (f : Fixture) (file : FileContent) :
    (f.loadPromotions file).2.reference = f.reference := by
  unfold loadPromotions
  cases decode promotionsOf? file with
  | error e => rfl
  | ok promotions => exact (f.addPromotions_spec promotions.entries).1

/-- A set that is loaded has a company, to which all its promotions belong. -/
theorem hasOneCompany_of_ofSet {files : FixtureFiles} (h : ofSet files = .ok f) :
    (∃ reference, f.reference = some reference) ∧ f.HasOneCompany := by
  obtain ⟨referenced, hreference, h⟩ := bind_eq_ok_iff.1 h
  obtain ⟨promoted, hpromotions, hbills⟩ := bind_eq_ok_iff.1 h
  obtain rfl := required_eq_ok hpromotions
  obtain rfl := required_eq_ok hbills
  obtain ⟨hsome, hnone⟩ :
      (∃ reference, referenced.reference = some reference) ∧ referenced.promotions = [] := by
    unfold loadReference at hreference
    split at hreference
    · cases hreference
    · rename_i reference _
      obtain rfl := Except.ok.inj hreference
      exact ⟨⟨reference, rfl⟩, rfl⟩
  have hcompany : referenced.HasOneCompany := by
    intro reference _ p hp
    rw [hnone] at hp
    cases hp
  obtain ⟨bills, customers, hload⟩ :=
    (referenced.loadPromotions files.promotions).2.loadBills_eq files.bills
  rw [hload]
  refine ⟨?_, hcompany.loadPromotions files.promotions⟩
  rwa [loadPromotions_reference]

/-- After any files, of which each may have ended half way: no two promotions of a fixture have one
identifier, and every key that was taken up stands for the identifier it came with last and for the
promotion that came last with that identifier. The same promotions loaded once more change nothing,
and the answer is the same. In a set that is loaded all promotions belong to the company, and all
bills are in its currency, whatever the case of its letters. -/
theorem records_runAll (loads : List Load) :
    Records (runAll {} loads) (history {} loads) ∧
    (∀ (f : Fixture) (file : FileContent),
      (f.loadPromotions file).2.loadPromotions file = f.loadPromotions file) ∧
    ∀ (files : FixtureFiles) (f : Fixture), ofSet files = .ok f →
      ∃ reference, f.reference = some reference ∧
        (∀ p ∈ f.promotions, p.companyId = reference.company.id) ∧
        ∀ key bill, f.bill key = .ok bill →
          Text.sameIgnoringCase bill.currency reference.company.currency = true := by
  refine ⟨(HoldsLast.empty.runAll loads).records, loadPromotions_twice, fun files f hf => ?_⟩
  obtain ⟨⟨reference, hreference⟩, hcompany⟩ := hasOneCompany_of_ofSet hf
  exact ⟨reference, hreference, hcompany reference hreference,
    hasOneCurrency_of_ofSet hf reference hreference⟩

end Fixture

namespace Sample

/-- Two promotions with one identifier, and one of another company behind them. -/
def namesakes : FileContent :=
  .ok (.obj [("promotions", .obj
    [("a", toJson (offer 1 "A" 10)), ("b", toJson (offer 1 "B" 20)),
     ("c", toJson { offer 2 "C" 30 with companyId := id 2 })])])

end Sample

/-- Both keys stand for the promotion that came last, although the file ended half way. -/
theorem Fixture.records_runAll_shop :
    (runAll {} [.reference Sample.paddedFiles.reference, .promotions Sample.namesakes]).promotion
        "a" = .ok (Sample.offer 1 "B" 20) ∧
      ∃ f reference, ofSet Sample.paddedFiles = .ok f ∧ f.reference = some reference ∧
        ∀ p ∈ f.promotions, p.companyId = reference.company.id := by
  have hhistory :
      history {} [.reference Sample.paddedFiles.reference, .promotions Sample.namesakes] =
        [("a", Sample.offer 1 "A" 10), ("b", Sample.offer 1 "B" 20)] := by
    with_unfolding_all rfl
  obtain ⟨hrecords, -, hset⟩ :=
    records_runAll [.reference Sample.paddedFiles.reference, .promotions Sample.namesakes]
  rw [hhistory] at hrecords
  refine ⟨?_, ?_⟩
  · obtain ⟨p, hp⟩ := hrecords.resolves ("a", Sample.offer 1 "A" 10) List.mem_cons_self
    obtain ⟨hid, key, hlatest⟩ := hrecords.latest "a" p hp
    obtain ⟨q, hq, hsame⟩ := (hrecords.identifier "a" p.id).1 hid
    obtain rfl : Sample.offer 1 "A" 10 = q := congrArg Prod.snd (Option.some.inj hq)
    rw [← hsame] at hlatest
    obtain rfl : Sample.offer 1 "B" 20 = p := congrArg Prod.snd (Option.some.inj hlatest)
    exact hp
  · obtain ⟨f, hf, -, -⟩ := Sample.ofSet_paddedFiles
    obtain ⟨reference, hreference, hcompany, -⟩ := hset _ f hf
    exact ⟨f, reference, hf, hreference, hcompany⟩

end Promotions

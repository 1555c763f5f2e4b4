import Promotions.Batch.Company
import Promotions.Proofs.Resolution.Order
import Promotions.Proofs.Sorted

/-!
# Proofs: what is recorded for a company

A company keeps the last compilation that was recorded for each store, and its counts are those of
what it keeps, however often a store comes again and in whatever order: to replace a compilation is
to count the new one and then to take the counts of the old one off, which are in them.
-/

namespace Promotions

/-- The counts of the stores of a brand, if there is any. -/
def BrandSummary.ofStores? : List StoreCompilation → Option BrandSummary
  | [] => none
  | s :: own => some
    { stores := (s :: own).length
      promotions := ((s :: own).map (·.documents.length)).sum }

/-- The counts are those of some stores. -/
structure CompanySummary.Counts (c : CompanySummary) (stores : List StoreCompilation) : Prop where
  totalStores : c.totalStores = stores.length
  totalPromotions : c.totalPromotions = (stores.map (·.documents.length)).sum
  storesWithPromotions : c.storesWithPromotions = stores.countP fun s => !s.documents.isEmpty
  failures : c.failures = (stores.map (·.failures.length)).sum
  byBrand : ∀ brand,
    c.byBrand.find? brand = BrandSummary.ofStores? (stores.filter fun s => s.brandId = brand)

namespace BrandSummary

variable {s : StoreCompilation} {own own' : List StoreCompilation}

theorem ofStores?_cons (s : StoreCompilation) (own : List StoreCompilation) :
    ofStores? (s :: own) = some
      { stores := ((ofStores? own).getD {}).stores + 1
        promotions := ((ofStores? own).getD {}).promotions + s.documents.length } := by
  cases own with
  | nil => simp [ofStores?]
  | cons t own => simp [ofStores?, Nat.add_comm]

theorem ofStores?_perm (h : own.Perm own') : ofStores? own = ofStores? own' := by
  cases own with
  | nil => rw [h.nil_eq]
  | cons s own =>
    cases own' with
    | nil => exact absurd h.length_eq (Nat.succ_ne_zero _)
    | cons s' own' => rw [ofStores?, ofStores?, h.length_eq, (h.map _).sum_eq]

end BrandSummary

namespace CompanySummary

variable {c c' : CompanySummary} {s : StoreCompilation} {stores stores' : List StoreCompilation}

theorem find?_addToBrands (brands : SortedMap BrandId BrandSummary) (s : StoreCompilation)
    (brand : BrandId) :
    (addToBrands brands s).find? brand =
      if brand = s.brandId then some
        { stores := ((brands.find? brand).getD {}).stores + 1
          promotions := ((brands.find? brand).getD {}).promotions + s.documents.length }
      else brands.find? brand := by
  rw [addToBrands, SortedMap.find?_insert]
  by_cases hbrand : brand = s.brandId
  · rw [if_pos hbrand, if_pos hbrand, hbrand]
  · rw [if_neg hbrand, if_neg hbrand]

theorem countP_cons_eq (s : StoreCompilation) (stores : List StoreCompilation) :
    (s :: stores).countP (fun s => !s.documents.isEmpty) =
      stores.countP (fun s => !s.documents.isEmpty) + filled s := by
  rw [List.countP_cons, filled]
  cases s.documents.isEmpty <;> rfl

theorem filter_brand_cons (s : StoreCompilation) (stores : List StoreCompilation)
    (brand : BrandId) :
    (s :: stores).filter (fun s => s.brandId = brand) =
      if brand = s.brandId then s :: stores.filter fun s => s.brandId = brand
      else stores.filter fun s => s.brandId = brand := by
  by_cases hbrand : brand = s.brandId <;> simp [hbrand, Ne.symm]

theorem counts_empty : Counts {} [] :=
  ⟨rfl, rfl, rfl, rfl, fun _ => rfl⟩

theorem Counts.add (h : c.Counts stores) (s : StoreCompilation) :
    (c.add s).Counts (s :: stores) where
  totalStores := by simp only [CompanySummary.add, h.totalStores, List.length_cons]
  totalPromotions := by
    simp only [CompanySummary.add, h.totalPromotions, List.map_cons, List.sum_cons, Nat.add_comm]
  storesWithPromotions := by
    simp only [CompanySummary.add, h.storesWithPromotions, countP_cons_eq]
  failures := by
    simp only [CompanySummary.add, h.failures, List.map_cons, List.sum_cons, Nat.add_comm]
  byBrand brand := by
    rw [CompanySummary.add, find?_addToBrands, h.byBrand, filter_brand_cons]
    by_cases hbrand : brand = s.brandId
    · rw [if_pos hbrand, if_pos hbrand, BrandSummary.ofStores?_cons]
    · rw [if_neg hbrand, if_neg hbrand]

/-- The brand of a store that was counted is left out exactly where no other store is of it. -/
theorem find?_removeFromBrands {brands : SortedMap BrandId BrandSummary}
    {own : List StoreCompilation}
    (h : brands.find? s.brandId = BrandSummary.ofStores? (s :: own)) (brand : BrandId) :
    (removeFromBrands brands s).find? brand =
      if brand = s.brandId then BrandSummary.ofStores? own else brands.find? brand := by
  rw [removeFromBrands, h]
  cases own with
  | nil =>
    simp only [BrandSummary.ofStores?, List.length_singleton, Nat.le_refl, if_true]
    rw [SortedMap.find?_erase]
  | cons t own =>
    have hmany : ¬(s :: t :: own).length ≤ 1 := by simp
    simp only [BrandSummary.ofStores?, if_neg hmany]
    rw [SortedMap.find?_insert]
    simp

/-- The counts of a store that was counted can be taken off again: none of them is too small for
it. -/
theorem Counts.remove (h : c.Counts (s :: stores)) : (c.remove s).Counts stores where
  totalStores := by
    simp only [CompanySummary.remove, h.totalStores, List.length_cons, Nat.add_sub_cancel]
  totalPromotions := by
    simp only [CompanySummary.remove, h.totalPromotions, List.map_cons, List.sum_cons,
      Nat.add_sub_cancel_left]
  storesWithPromotions := by
    simp only [CompanySummary.remove, h.storesWithPromotions, countP_cons_eq, Nat.add_sub_cancel]
  failures := by
    simp only [CompanySummary.remove, h.failures, List.map_cons, List.sum_cons,
      Nat.add_sub_cancel_left]
  byBrand brand := by
    have hown := h.byBrand s.brandId
    rw [filter_brand_cons, if_pos rfl] at hown
    have hbrand := h.byBrand brand
    rw [filter_brand_cons] at hbrand
    rw [CompanySummary.remove, find?_removeFromBrands hown]
    split
    · next heq => rw [heq]
    · next hne => rw [hbrand, if_neg hne]

theorem Counts.perm (h : c.Counts stores) (hperm : stores.Perm stores') : c.Counts stores' where
  totalStores := by rw [h.totalStores, hperm.length_eq]
  totalPromotions := by rw [h.totalPromotions, (hperm.map _).sum_eq]
  storesWithPromotions := by rw [h.storesWithPromotions, hperm.countP_eq]
  failures := by rw [h.failures, (hperm.map _).sum_eq]
  byBrand brand := by rw [h.byBrand, BrandSummary.ofStores?_perm (hperm.filter _)]

/-- The counts of some stores are determined by them. -/
theorem Counts.unique (h : c.Counts stores) (h' : c'.Counts stores) : c = c' := by
  have hbrands : c.byBrand = c'.byBrand :=
    SortedMap.ext_find? fun brand => (h.byBrand brand).trans (h'.byBrand brand).symm
  have hstores := h.totalStores.trans h'.totalStores.symm
  have hpromotions := h.totalPromotions.trans h'.totalPromotions.symm
  have hfilled := h.storesWithPromotions.trans h'.storesWithPromotions.symm
  have hfailures := h.failures.trans h'.failures.symm
  cases c
  cases c'
  simp_all

end CompanySummary

namespace CompanyCompilation

variable {c c' : CompanyCompilation} {recorded recorded' : List StoreCompilation}

/-- The counts are those of the compilations that are kept. -/
def IsCounted (c : CompanyCompilation) : Prop :=
  c.summary.Counts c.stores.values

theorem isCounted_empty {companyId : CompanyId} {compiledAt : Timestamp} :
    IsCounted { companyId, compiledAt } :=
  CompanySummary.counts_empty

/-- Recording counts the new compilation and takes off the one whose place it takes. -/
theorem isCounted_record (h : c.IsCounted) (s : StoreCompilation) : (c.record s).IsCounted := by
  have hkept := SortedMap.values_insert_perm c.stores s.storeId s
  cases hprevious : c.stores.find? s.storeId with
  | none =>
    rw [SortedMap.erase_of_find?_eq_none hprevious] at hkept
    simp only [IsCounted, record, hprevious]
    exact (CompanySummary.Counts.add h s).perm hkept.symm
  | some previous =>
    have hold := SortedMap.values_perm_of_find? hprevious
    have hboth : (c.summary.add s).Counts (previous :: s :: (c.stores.erase s.storeId).values) :=
      (CompanySummary.Counts.add h s).perm ((hold.cons s).trans (List.Perm.swap _ _ _))
    simp only [IsCounted, record, hprevious]
    exact hboth.remove.perm hkept.symm

theorem isCounted_foldl_record (h : c.IsCounted) : (recorded.foldl record c).IsCounted := by
  induction recorded generalizing c with
  | nil => exact h
  | cons s recorded ih => exact ih (isCounted_record h s)

theorem companyId_foldl_record : (recorded.foldl record c).companyId = c.companyId := by
  induction recorded generalizing c with
  | nil => rfl
  | cons s recorded ih => exact ih

theorem compiledAt_foldl_record : (recorded.foldl record c).compiledAt = c.compiledAt := by
  induction recorded generalizing c with
  | nil => rfl
  | cons s recorded ih => exact ih

/-- The last compilation that was recorded for a store is kept. -/
theorem find?_foldl_record (id : StoreId) :
    (recorded.foldl record c).stores.find? id =
      (recorded.reverse.find? fun s => s.storeId = id).or (c.stores.find? id) := by
  induction recorded generalizing c with
  | nil => simp
  | cons s recorded ih =>
    rw [List.foldl_cons, ih, List.reverse_cons, List.find?_append, Option.or_assoc]
    congr 1
    rw [record, SortedMap.find?_insert]
    by_cases hid : id = s.storeId <;> simp [hid, eq_comm]

theorem IsCounted.ext (h : c.IsCounted) (h' : c'.IsCounted) (hcompany : c.companyId = c'.companyId)
    (htime : c.compiledAt = c'.compiledAt)
    (hfind : ∀ id, c.stores.find? id = c'.stores.find? id) : c = c' := by
  have hstores := SortedMap.ext_find? hfind
  rw [IsCounted, ← hstores] at h'
  have hsummary := CompanySummary.Counts.unique h h'
  cases c
  cases c'
  simp_all

/-- Recordings that end with the same for each store come to the same. -/
theorem foldl_record_congr (hc : c.IsCounted)
    (h : ∀ id, (recorded.reverse.find? fun s => s.storeId = id) =
      recorded'.reverse.find? fun s => s.storeId = id) :
    recorded.foldl record c = recorded'.foldl record c := by
  refine (isCounted_foldl_record hc).ext (isCounted_foldl_record hc) ?_ ?_ fun id => ?_
  · rw [companyId_foldl_record, companyId_foldl_record]
  · rw [compiledAt_foldl_record, compiledAt_foldl_record]
  · rw [find?_foldl_record, find?_foldl_record, h]

theorem foldl_record_perm (hc : c.IsCounted) (hperm : recorded.Perm recorded')
    (hids : (recorded.map (·.storeId)).Nodup) :
    recorded.foldl record c = recorded'.foldl record c := by
  refine foldl_record_congr hc fun id => Keyed.find?_perm ?_ ?_
  · exact (List.reverse_perm _).trans (hperm.trans (List.reverse_perm _).symm)
  · rw [List.map_reverse]
    exact List.nodup_reverse.2 hids

/-- Of every store a company keeps what was recorded last, and its counts are those of what it
keeps. Where no store is recorded twice the order of the recordings does not matter. -/
theorem foldl_record_spec (companyId : CompanyId) (compiledAt : Timestamp)
    (recorded : List StoreCompilation) :
    let kept : CompanyCompilation := recorded.foldl record { companyId, compiledAt }
    kept.companyId = companyId ∧ kept.compiledAt = compiledAt ∧
    (∀ id, kept.stores.find? id = recorded.reverse.find? fun s => s.storeId = id) ∧
    kept.summary.Counts kept.stores.values ∧
    ∀ recorded', recorded.Perm recorded' → (recorded.map (·.storeId)).Nodup →
      recorded'.foldl record { companyId, compiledAt } = kept := by
  refine ⟨companyId_foldl_record, compiledAt_foldl_record, fun id => ?_,
    isCounted_foldl_record isCounted_empty,
    fun recorded' hperm hids => (foldl_record_perm isCounted_empty hperm hids).symm⟩
  rw [find?_foldl_record]
  exact Option.or_none

end CompanyCompilation

/-- What is compiled for a store of a brand. -/
def Sample.held (store brand : UInt8) (documents : List Document) : StoreCompilation where
  storeId := id store
  brandId := id brand
  compiledAt := .epoch
  documents := documents
  failures := []

/-- A store of one brand without documents and one of another brand with two may be recorded in
either order. -/
theorem CompanyCompilation.foldl_record_spec_shop :
    let recorded := [Sample.held 2 1 [], Sample.held 1 2 Sample.rivals]
    recorded.Perm recorded.reverse ∧ (recorded.map (·.storeId)).Nodup ∧
      recorded.reverse.foldl record { companyId := Sample.id 1, compiledAt := .epoch } =
        recorded.foldl record { companyId := Sample.id 1, compiledAt := .epoch } := by
  intro recorded
  have hperm : recorded.Perm recorded.reverse := (List.reverse_perm _).symm
  have hids : (recorded.map (·.storeId)).Nodup := by decide
  obtain ⟨-, -, -, -, horder⟩ := foldl_record_spec (Sample.id 1) .epoch recorded
  exact ⟨hperm, hids, horder _ hperm hids⟩

/-- The first store changes its brand, which has no other store. -/
example :
    ([Sample.held 1 1 Sample.documents, Sample.held 2 3 [], Sample.held 1 2 Sample.rivals].foldl
      CompanyCompilation.record { companyId := Sample.id 1, compiledAt := .epoch }).summary =
    { totalStores := 2, totalPromotions := 2, storesWithPromotions := 1, failures := 0
      byBrand := .ofList [(Sample.id 2, ⟨1, 2⟩), (Sample.id 3, ⟨1, 0⟩)] } := by
  decide

end Promotions

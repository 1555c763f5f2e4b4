import Promotions.Proofs.Batch.Store
import Promotions.Proofs.Compile.Edits
import Promotions.Proofs.Eligibility.GateOrder
import Promotions.Fixture

/-!
# Proofs: what a fixture holds once it is loaded

The code of the currency is written in two places, with the company and on each bill, and is read in
three ways: loading compares the two whatever their case but with the blanks around them, the
compiler looks up that of the company without the blanks, and evaluation compares the stamp of the
document with the code of the bill without its blanks. Cutting off blanks and making letters small
do not get into each other's way, so what was loaded can be judged.
-/

namespace Promotions

open Fallible

/-! ## Spellings of a code -/

namespace Text

/-- Texts that are the same but for the case of letters stay so without the blanks around them. -/
theorem sameIgnoringCase_trim {s t : String} (h : sameIgnoringCase s t = true) :
    sameIgnoringCase (trim s) (trim t) = true := by
  have hlower : s.toList.map Char.toLower = t.toList.map Char.toLower := by
    simpa [sameIgnoringCase] using h
  have hcanonical : canonical s = canonical t := by
    rw [canonical_eq, canonical_eq, ← trimChars_map_toLower, ← trimChars_map_toLower, hlower]
  exact sameIgnoringCase_iff.2 hcanonical

theorem sameIgnoringCase_comm {s t : String} : sameIgnoringCase s t = sameIgnoringCase t s := by
  rw [Bool.eq_iff_iff, sameIgnoringCase_iff, sameIgnoringCase_iff]
  exact eq_comm

end Text

/-! ## Loading -/

namespace Fixture

variable {f g : Fixture}

/-- All bills are in the currency of the company, whatever the case of its letters. -/
def HasOneCurrency (f : Fixture) : Prop :=
  ∀ reference, f.reference = some reference → ∀ key bill, f.bill key = .ok bill →
    Text.sameIgnoringCase bill.currency reference.company.currency = true

theorem bill_eq_ok_iff {key : String} {bill : Bill} :
    f.bill key = .ok bill ↔ f.bills.find? key = some bill := by
  unfold Fixture.bill
  cases f.bills.find? key with
  | some found => simp
  | none => simp

/-- The invariant reads nothing of a fixture but the reference data and the bills. -/
theorem HasOneCurrency.of_eq (h : f.HasOneCurrency) (hreference : g.reference = f.reference)
    (hbills : g.bills = f.bills) : g.HasOneCurrency := by
  intro reference hr key bill hbill
  rw [hreference] at hr
  rw [bill_eq_ok_iff, hbills, ← bill_eq_ok_iff] at hbill
  exact h reference hr key bill hbill

theorem addPromotions_spec (f : Fixture) (entries : List (String × Promotion)) :
    (f.addPromotions entries).2.reference = f.reference ∧
      (f.addPromotions entries).2.bills = f.bills := by
  induction entries generalizing f with
  | nil => exact ⟨rfl, rfl⟩
  | cons entry entries ih =>
    unfold addPromotions
    split
    · exact ih (f.addPromotion entry.1 entry.2)
    · exact ⟨rfl, rfl⟩

/-- A bill that is taken up is in the currency of the company. -/
theorem HasOneCurrency.insert (h : f.HasOneCurrency) {key : String} {bill : Bill}
    (hbill : Text.sameIgnoringCase bill.currency
      ((f.reference.map (·.company.currency)).getD bill.currency) = true) :
    HasOneCurrency { f with bills := f.bills.insert key bill } := by
  intro reference hr key' bill' hbill'
  rw [bill_eq_ok_iff, SortedMap.find?_insert] at hbill'
  have hr' : f.reference = some reference := hr
  split at hbill'
  · obtain rfl := Option.some.inj hbill'
    rw [hr'] at hbill
    exact hbill
  · exact h reference hr' key' bill' (bill_eq_ok_iff.2 hbill')

theorem HasOneCurrency.addBills (h : f.HasOneCurrency) (entries : List (String × Bill)) :
    (f.addBills entries).2.HasOneCurrency := by
  induction entries generalizing f with
  | nil => exact h
  | cons entry entries ih =>
    unfold Fixture.addBills
    dsimp only
    split
    · rename_i hcurrency
      exact ih (h.insert hcurrency)
    · exact h

theorem HasOneCurrency.loadPromotions (h : f.HasOneCurrency) (file : FileContent) :
    (f.loadPromotions file).2.HasOneCurrency := by
  unfold Fixture.loadPromotions
  split
  · exact h
  · rename_i promotions _
    obtain ⟨hreference, hbills⟩ := f.addPromotions_spec promotions.entries
    exact h.of_eq hreference hbills

theorem HasOneCurrency.loadBills (h : f.HasOneCurrency) (file : FileContent) :
    (f.loadBills file).2.HasOneCurrency := by
  unfold Fixture.loadBills
  split
  · exact h
  · rename_i bills customers _
    have hbills := h.addBills bills.entries
    split
    · rename_i hadd
      rw [hadd] at hbills
      exact hbills
    · rename_i hadd
      rw [hadd] at hbills
      exact hbills.of_eq rfl rfl

theorem required_eq_ok {loaded : Loaded} (h : required loaded = .ok f) : loaded.2 = f := by
  rcases loaded with ⟨_ | _, g⟩
  · cases h
  · exact Except.ok.inj h

/-- A set that is loaded has bills in the currency of its company. -/
theorem hasOneCurrency_of_ofSet {files : FixtureFiles} (h : ofSet files = .ok f) :
    f.HasOneCurrency := by
  obtain ⟨referenced, hreference, h⟩ := bind_eq_ok_iff.1 h
  obtain ⟨promoted, hpromotions, hbills⟩ := bind_eq_ok_iff.1 h
  have hreferenced : referenced.HasOneCurrency := by
    intro reference _ key bill hbill
    -- reference data is loaded before there is any bill
    have hnone : referenced.bills = .empty := by
      rw [← required_eq_ok hreference]
      unfold loadReference
      split <;> rfl
    rw [bill_eq_ok_iff, hnone] at hbill
    cases hbill
  have hpromoted := hreferenced.loadPromotions files.promotions
  rw [required_eq_ok hpromotions] at hpromoted
  have hloaded := hpromoted.loadBills files.bills
  rwa [required_eq_ok hbills] at hloaded

/-- The compiler of a fixture is for the code of the company without the blanks around it. -/
theorem compilerOf_eq_ok {c : Compiler} (h : f.compilerOf = .ok c) :
    ∃ reference, f.reference = some reference ∧
      c.currency = Text.trim reference.company.currency := by
  obtain ⟨reference, hreference, h⟩ := bind_eq_ok_iff.1 h
  refine ⟨reference, ?_, ?_⟩
  · unfold loadedReference at hreference
    split at hreference
    · rename_i hsome
      rw [hsome, Except.ok.inj hreference]
    · cases hreference
  · split at h
    · rename_i compiler hcode
      obtain rfl := pure_eq_ok_iff.1 h
      unfold Compiler.ofCode at hcode
      split at hcode
      · rw [← Except.ok.inj hcode]
      · cases hcode
    · cases h

end Fixture

/-! ## Evaluation -/

theorem Compiler.checkForm_of_compile {c : Compiler} {p : Promotion} {compiledAt : Timestamp}
    {d : Document} (hd : c.compile p compiledAt = .ok d) {bill : Bill}
    (hcurrency : Text.sameIgnoringCase c.currency (Text.trim bill.currency) = true) :
    d.checkForm bill = .ok () := by
  unfold Document.checkForm
  rw [isSupported_of_compile hd, hasCurrency_of_compile hd, (stamp_of_compile hd).2, hcurrency]
  rfl

theorem Document.arithmetic_of_verdict {d : Document} {ctx : Context} {fault : Fault}
    (h : (d.evaluate ctx).verdict = .error fault) (hform : d.checkForm ctx.bill = .ok ()) :
    ∃ e, fault = .arithmetic e := by
  rcases verdict_eq_error_iff_stopsAt.1 h with ⟨hfails, -⟩ | ⟨_, e, -, he, -⟩
  · rw [hform] at hfails
    cases hfails
  · exact ⟨e, he⟩

/-- Of a set that was loaded, every promotion that compiles can be judged for every bill: the
document has a known form and currency, and the bill is in its currency. The same holds of any other
promotion that the compiler of the set compiles. -/
theorem Fixture.evaluate_loaded {files : FixtureFiles} {f : Fixture}
    (hf : Fixture.ofSet files = .ok f) {c : Compiler} (hc : f.compilerOf = .ok c) {p : Promotion}
    {compiledAt : Timestamp} {d : Document} (hd : c.compile p compiledAt = .ok d) {key : String}
    {bill : Bill} (hbill : f.bill key = .ok bill) (ctx : Context) :
    (∀ version, (d.evaluate { ctx with bill }).verdict ≠ .error (.unsupportedVersion version)) ∧
    (∀ code, (d.evaluate { ctx with bill }).verdict ≠ .error (.unknownCurrency code)) ∧
    ∀ document other, (d.evaluate { ctx with bill }).verdict ≠
      .error (.currencyMismatch document other) := by
  obtain ⟨reference, hreference, hcode⟩ := Fixture.compilerOf_eq_ok hc
  have hsame := Fixture.hasOneCurrency_of_ofSet hf reference hreference key bill hbill
  rw [Text.sameIgnoringCase_comm] at hsame
  have htrimmed : Text.sameIgnoringCase c.currency (Text.trim bill.currency) = true := by
    rw [hcode]
    exact Text.sameIgnoringCase_trim hsame
  have hform : d.checkForm bill = .ok () := Compiler.checkForm_of_compile hd htrimmed
  have hfault : ∀ fault, (d.evaluate { ctx with bill }).verdict = .error fault →
      ∃ e, fault = .arithmetic e := fun _ h => Document.arithmetic_of_verdict h hform
  refine ⟨fun version h => ?_, fun code h => ?_, fun document other h => ?_⟩
  · obtain ⟨e, he⟩ := hfault _ h
    cases he
  · obtain ⟨e, he⟩ := hfault _ h
    cases he
  · obtain ⟨e, he⟩ := hfault _ h
    cases he

namespace Sample

/-- The company with blanks around the code of its currency. -/
def paddedReference : Reference where
  company := { id := id 1, name := "shop", currency := " IDR " }
  stores := [store]

/-- The bill with the same blanks, and in small letters. -/
def paddedBill : Bill := { bill with currency := " idr " }

/-- The files of a set with that company and that bill. -/
def paddedFiles : FixtureFiles where
  reference := .ok (toJson paddedReference)
  promotions := .ok (.obj [("promotions", .obj [("a", toJson (offer 1 "A" 10))])])
  bills := .ok (.obj [("bills", .obj [("bill", toJson paddedBill)])])

theorem ofSet_paddedFiles : ∃ f, Fixture.ofSet paddedFiles = .ok f ∧
    f.reference = some paddedReference ∧ f.bills.find? "bill" = some paddedBill := by
  have hload : (Fixture.ofSet paddedFiles).toOption.map
      (fun f => (f.reference, f.bills.find? "bill")) =
        some (some paddedReference, some paddedBill) := by
    decide +kernel
  cases hfiles : Fixture.ofSet paddedFiles with
  | error e =>
    rw [hfiles] at hload
    cases hload
  | ok f =>
    rw [hfiles] at hload
    obtain ⟨hreference, hbill⟩ := Prod.mk.inj (Option.some.inj hload)
    exact ⟨f, rfl, hreference, hbill⟩

end Sample

/-- The code of the company has blanks around it, and that of the bill is in small letters. -/
theorem Fixture.evaluate_loaded_padded :
    ∃ f c d, Fixture.ofSet Sample.paddedFiles = .ok f ∧ f.compilerOf = .ok c ∧
      c.compile (Sample.offer 1 "A" 10) .epoch = .ok d ∧
      f.bill "bill" = .ok Sample.paddedBill ∧ ∀ document other,
        (d.evaluate { bill := Sample.paddedBill }).verdict ≠
          .error (.currencyMismatch document other) := by
  obtain ⟨f, hset, hreference, hbill⟩ := Sample.ofSet_paddedFiles
  have hc : f.compilerOf = .ok Sample.compiler := by
    unfold compilerOf loadedReference
    rw [hreference]
    rfl
  obtain ⟨d, hd⟩ : ∃ d, Sample.compiler.compile (Sample.offer 1 "A" 10) .epoch = .ok d := ⟨_, rfl⟩
  have hkey : f.bill "bill" = .ok Sample.paddedBill := bill_eq_ok_iff.2 hbill
  obtain ⟨-, -, hcurrency⟩ := evaluate_loaded hset hc hd hkey Sample.context
  exact ⟨f, Sample.compiler, d, hset, hc, hd, hkey, hcurrency⟩

end Promotions

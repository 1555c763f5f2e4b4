import Mathlib.Data.List.Basic
import Promotions.Proofs.Compile.Documents
import Promotions.Proofs.Compile.WellFormed
import Promotions.Proofs.Correspondence
import Promotions.Proofs.Grouping.MixMatch
import Promotions.Proofs.StableOrder

/-!
# Proofs: documents are well formed

The settings of a promotion are checked so that compiling yields well-formed documents and nothing
else: one lemma for each rule and each facet says what its checks come to.
-/

namespace Promotions

open Fallible Setting

/-! ## Rules -/

namespace Promotion

variable {p : Promotion}

theorem weekdays_wellFormed {days : WeekdaySet} (h : p.weekdays = .ok days) : days.WellFormed :=
  ⟨(weekdays_eq_ok h).1, (weekdays_eq_ok h).2⟩

theorem discountValue_wellFormed {value : DiscountValue} (h : p.discountValue = .ok value) :
    value.WellFormed := by
  obtain ⟨percent?, hpercent, h⟩ := bind_eq_ok_iff.1 h
  cases percent? with
  | some points =>
    obtain rfl := pure_eq_ok_iff.1 h
    exact isPositivePercentage_of_percent? hpercent points rfl
  | none =>
    obtain ⟨amount?, hamount, h⟩ := bind_eq_ok_iff.1 h
    obtain ⟨amount, hrequired, h⟩ := bind_eq_ok_iff.1 h
    obtain rfl := pure_eq_ok_iff.1 h
    exact pos_of_positive? hamount amount (require_eq_ok_iff.1 hrequired)

theorem percentDiscount_wellFormed {r : PercentDiscount} (h : p.percentDiscount = .ok r) :
    r.WellFormed := by
  obtain ⟨percent?, hpercent, h⟩ := bind_eq_ok_iff.1 h
  obtain ⟨percent, hrequired, h⟩ := bind_eq_ok_iff.1 h
  obtain ⟨cap, hcap, h⟩ := bind_eq_ok_iff.1 h
  obtain ⟨least, hleast, h⟩ := bind_eq_ok_iff.1 h
  obtain rfl := pure_eq_ok_iff.1 h
  exact
    { percent := isPositivePercentage_of_percent? hpercent percent (require_eq_ok_iff.1 hrequired)
      maxCap := pos_of_positive? hcap
      minPurchase := nonneg_of_nonNegative hleast }

theorem amountDiscount_wellFormed {r : AmountDiscount} (h : p.amountDiscount = .ok r) :
    r.WellFormed := by
  obtain ⟨amount?, hamount, h⟩ := bind_eq_ok_iff.1 h
  obtain ⟨amount, hrequired, h⟩ := bind_eq_ok_iff.1 h
  obtain ⟨least, hleast, h⟩ := bind_eq_ok_iff.1 h
  obtain rfl := pure_eq_ok_iff.1 h
  exact
    { amount := pos_of_positive? hamount amount (require_eq_ok_iff.1 hrequired)
      minPurchase := nonneg_of_nonNegative hleast }

theorem buyXGetY_wellFormed {r : BuyXGetY} (h : p.buyXGetY = .ok r) : r.WellFormed := by
  obtain ⟨buy, hbuy, h⟩ := bind_eq_ok_iff.1 h
  obtain ⟨get, hget, h⟩ := bind_eq_ok_iff.1 h
  obtain ⟨percent?, hpercent, h⟩ := bind_eq_ok_iff.1 h
  obtain rfl := pure_eq_ok_iff.1 h
  refine
    { buyQuantity := one_le_of_positive? (require_eq_ok_iff.1 hbuy)
      getQuantity := one_le_of_positive? (require_eq_ok_iff.1 hget)
      percent := ?_ }
  cases percent? with
  | none => exact Decimal.isPositivePercentage_hundred
  | some points => exact isPositivePercentage_of_percent? hpercent points rfl

theorem combo_wellFormed {r : Combo} (h : p.combo = .ok r) : r.WellFormed := by
  obtain ⟨price?, hprice, h⟩ := bind_eq_ok_iff.1 h
  obtain ⟨price, hrequired, h⟩ := bind_eq_ok_iff.1 h
  split at h
  · cases h
  · rename_i hproducts
    obtain rfl := pure_eq_ok_iff.1 h
    refine ⟨pos_of_positive? hprice price (require_eq_ok_iff.1 hrequired), fun hnone => ?_⟩
    -- a product that is listed is one of the set
    obtain ⟨product, hproduct⟩ := List.exists_mem_of_ne_nil p.comboProducts (by simpa using hproducts)
    have hmem : product ∈ (SortedSet.ofList p.comboProducts).toList :=
      SortedSet.mem_ofList.2 hproduct
    rw [hnone] at hmem
    cases hmem

theorem freeItem_wellFormed {r : FreeItem} (h : p.freeItem = .ok r) : r.WellFormed := by
  obtain ⟨product, -, h⟩ := bind_eq_ok_iff.1 h
  obtain rfl := pure_eq_ok_iff.1 h
  exact ⟨one_le_getD_positive? _, rfl, one_le_getD_positive? _⟩

/-- The pricing is one of the three that are given. -/
theorem onlyPricing_eq_ok {points : Option Decimal} {value price : Option Amount}
    {pricing : HappyHourPricing} (h : onlyPricing points value price = .ok pricing) :
    (∃ d, points = some d ∧ pricing = .percent d) ∨ (∃ a, value = some a ∧ pricing = .amount a) ∨
      ∃ a, price = some a ∧ pricing = .specialPrice a := by
  rcases points with _ | d <;> rcases value with _ | a <;> rcases price with _ | b <;>
    simp_all [onlyPricing, eq_comm]

theorem happyHour_wellFormed {r : HappyHour} (h : p.happyHour = .ok r) : r.WellFormed := by
  obtain ⟨percent?, hpercent, h⟩ := bind_eq_ok_iff.1 h
  obtain ⟨amount?, hamount, h⟩ := bind_eq_ok_iff.1 h
  obtain ⟨price?, hprice, h⟩ := bind_eq_ok_iff.1 h
  obtain ⟨pricing, hpricing, h⟩ := bind_eq_ok_iff.1 h
  split at h
  · obtain ⟨days, hdays, h⟩ := bind_eq_ok_iff.1 h
    obtain rfl := pure_eq_ok_iff.1 h
    refine ⟨?_, weekdays_wellFormed hdays⟩
    rcases onlyPricing_eq_ok hpricing with ⟨points, hgiven, rfl⟩ | ⟨value, hgiven, rfl⟩ |
      ⟨price, hgiven, rfl⟩
    · exact isPositivePercentage_of_percent? hpercent points hgiven
    · exact pos_of_positive? hamount value hgiven
    · exact pos_of_positive? hprice price hgiven
  · cases h

theorem cashback_wellFormed {r : Cashback} (h : p.cashback = .ok r) : r.WellFormed := by
  obtain ⟨value, hvalue, h⟩ := bind_eq_ok_iff.1 h
  obtain ⟨cap, hcap, h⟩ := bind_eq_ok_iff.1 h
  obtain ⟨least, hleast, h⟩ := bind_eq_ok_iff.1 h
  obtain rfl := pure_eq_ok_iff.1 h
  exact
    { value := discountValue_wellFormed hvalue
      maxCap := pos_of_positive? hcap
      paymentMethods := fun _ => isCanonical_of_mem_canonicalSet
      minPurchase := nonneg_of_nonNegative hleast }

theorem paymentDiscount_wellFormed {r : PaymentDiscount} (h : p.paymentDiscount = .ok r) :
    r.WellFormed := by
  obtain ⟨value, hvalue, h⟩ := bind_eq_ok_iff.1 h
  obtain ⟨cap, hcap, h⟩ := bind_eq_ok_iff.1 h
  obtain ⟨least, hleast, h⟩ := bind_eq_ok_iff.1 h
  obtain rfl := pure_eq_ok_iff.1 h
  exact
    { paymentMethods := fun _ => isCanonical_of_mem_canonicalSet
      value := discountValue_wellFormed hvalue
      maxCap := pos_of_positive? hcap
      minPurchase := nonneg_of_nonNegative hleast }

/-- A component that is accepted has what its kind needs, and its counts are checked. -/
theorem component_eq_ok {config : ComponentConfig} {c : Component}
    (h : config.component = .ok c) :
    (config.kind = .fixed → config.product.isSome = true) ∧
      (config.kind = .choice → config.category.isSome = true) ∧ 1 ≤ config.quantity ∧
      (config.kind = .choice → config.minSelection ≤ config.maxSelection) ∧
      c = { kind := config.kind
            product := config.product
            category := config.category
            quantity := config.quantity
            required := config.isRequired
            minSelection := config.minSelection
            maxSelection := config.maxSelection } := by
  rw [ComponentConfig.component] at h
  split at h
  · rename_i hkind
    obtain ⟨product, hproduct, h⟩ := bind_eq_ok_iff.1 h
    obtain ⟨quantity, hquantity, h⟩ := bind_eq_ok_iff.1 h
    obtain ⟨hpos, rfl⟩ := one_le_of_atLeastOne hquantity
    rw [if_neg (by simp [hkind])] at h
    obtain rfl := pure_eq_ok_iff.1 h
    rw [require_eq_ok_iff.1 hproduct]
    refine ⟨fun _ => rfl, fun hchoice => ?_, hpos, fun hchoice => ?_, rfl⟩
    · rw [hkind] at hchoice
      cases hchoice
    · rw [hkind] at hchoice
      cases hchoice
  · rename_i hkind
    obtain ⟨category, hcategory, h⟩ := bind_eq_ok_iff.1 h
    obtain ⟨quantity, hquantity, h⟩ := bind_eq_ok_iff.1 h
    obtain ⟨hpos, rfl⟩ := one_le_of_atLeastOne hquantity
    split at h
    · cases h
    · rename_i hselection
      obtain rfl := pure_eq_ok_iff.1 h
      rw [require_eq_ok_iff.1 hcategory]
      refine ⟨fun hfixed => ?_, fun _ => rfl, hpos, fun _ => ?_, rfl⟩
      · rw [hkind] at hfixed
        cases hfixed
      · exact UInt32.not_lt.1 fun hlt => hselection ⟨hkind, hlt⟩

theorem component_wellFormed {config : ComponentConfig} {c : Component}
    (h : config.component = .ok c) : c.WellFormed := by
  obtain ⟨hproduct, hcategory, hquantity, hselection, rfl⟩ := component_eq_ok h
  exact ⟨hproduct, hcategory, hquantity, hselection⟩

theorem setMenu_wellFormed {r : Package} (h : p.setMenu = .ok r) : r.WellFormed := by
  obtain ⟨config, -, h⟩ := bind_eq_ok_iff.1 h
  split at h
  · cases h
  · rename_i hitems
    obtain ⟨components, hcomponents, h⟩ := bind_eq_ok_iff.1 h
    obtain ⟨price, hprice, h⟩ := bind_eq_ok_iff.1 h
    obtain rfl := pure_eq_ok_iff.1 h
    have hall := forall₂_of_mapM hcomponents
    refine ⟨?_, fun c hc => ?_, nonneg_of_nonNegative hprice⟩
    · rintro rfl
      have hlength := hall.length_eq
      rw [List.length_mergeSort, List.length_nil, List.length_eq_zero_iff] at hlength
      simp [hlength] at hitems
    · obtain ⟨config, -, hc⟩ := Correspondence.exists_left hall hc
      exact component_wellFormed hc

theorem mixMatch_wellFormed {r : MixMatch} (h : p.mixMatch = .ok r) : r.WellFormed := by
  obtain ⟨blob, -, h⟩ := bind_eq_ok_iff.1 h
  split at h
  · cases h
  · cases hrules : FreeForm.GroupRules.read blob with
    | error e => simp [hrules, error_bind] at h
    | ok rules =>
      rw [hrules] at h
      obtain ⟨rules, -, h⟩ := bind_eq_ok_iff.1 h
      obtain ⟨size, hsize, h⟩ := bind_eq_ok_iff.1 h
      obtain ⟨price?, -, h⟩ := bind_eq_ok_iff.1 h
      obtain ⟨category, -, h⟩ := bind_eq_ok_iff.1 h
      obtain ⟨price, hprice, h⟩ := bind_eq_ok_iff.1 h
      obtain rfl := pure_eq_ok_iff.1 h
      exact ⟨(one_le_of_atLeastOne hsize).2 ▸ (one_le_of_atLeastOne hsize).1, nonneg_of_nonNegative hprice⟩

theorem upsell_wellFormed {r : Upsell} (h : p.upsell = .ok r) : r.WellFormed := by
  obtain ⟨required, -, h⟩ := bind_eq_ok_iff.1 h
  obtain ⟨further, -, h⟩ := bind_eq_ok_iff.1 h
  obtain ⟨given, -, h⟩ := bind_eq_ok_iff.1 h
  obtain ⟨price, hprice, h⟩ := bind_eq_ok_iff.1 h
  obtain rfl := pure_eq_ok_iff.1 h
  exact ⟨one_le_getD_positive? _, nonneg_of_nonNegative hprice⟩

/-! ### Tiers -/

theorem benefit_wellFormed {config : TierConfig} {b : TierBenefit} (h : config.benefit = .ok b) :
    b.WellFormed := by
  rw [TierConfig.benefit] at h
  split at h
  · obtain ⟨points, hpoints, rfl⟩ := map_eq_ok_iff.1 h
    exact (isPercentage_of_percentPoints hpoints).1
  · obtain ⟨value, hvalue, rfl⟩ := map_eq_ok_iff.1 h
    exact nonneg_of_wholeMinor hvalue
  · obtain ⟨product, -, rfl⟩ := map_eq_ok_iff.1 h
    exact trivial
  · obtain ⟨multiplier, hmultiplier, rfl⟩ := map_eq_ok_iff.1 h
    obtain ⟨-, hpos⟩ := Option.filter_eq_some_iff.1 (require_eq_ok_iff.1 hmultiplier)
    show Decimal.zero < multiplier
    simpa using hpos

theorem tier_wellFormed {config : TierConfig} {t : Tier} (h : config.tier = .ok t) :
    t.WellFormed := by
  obtain ⟨benefit, hbenefit, h⟩ := bind_eq_ok_iff.1 h
  obtain ⟨least, hleast, h⟩ := bind_eq_ok_iff.1 h
  dsimp only at h
  split at h
  · rename_i top htop
    split at h
    · cases h
    · rename_i hrange
      obtain rfl := pure_eq_ok_iff.1 h
      refine ⟨benefit_wellFormed hbenefit, nonneg_of_nonNegative hleast, fun top' htop' => ?_⟩
      obtain rfl : top = top' := Option.some.inj (htop.symm.trans htop')
      exact Int.not_lt.1 hrange
  · rename_i hnone
    obtain rfl := pure_eq_ok_iff.1 h
    refine ⟨benefit_wellFormed hbenefit, nonneg_of_nonNegative hleast, fun top htop => ?_⟩
    rw [hnone] at htop
    cases htop

end Promotion

namespace Tier

theorem richerOrSame_iff {a b : Tier} : richerOrSame a b = true ↔ a.Precedes b := by
  simp [richerOrSame, Precedes]

theorem isRanking_richerOrSame : StableOrder.IsRanking richerOrSame := by
  refine ⟨fun a b c hab hbc => ?_, fun a b => ?_⟩
  · rw [richerOrSame_iff] at hab hbc ⊢
    simp only [Precedes, Amount.lt_iff, ← Amount.toInt_inj, Int32.le_iff_toInt_le] at *
    omega
  · rw [Bool.or_eq_true, richerOrSame_iff, richerOrSame_iff]
    simp only [Precedes, Amount.lt_iff, ← Amount.toInt_inj, Int32.le_iff_toInt_le]
    omega

theorem sortRichestFirst_pairwise (tiers : List Tier) :
    (sortRichestFirst tiers).Pairwise Precedes :=
  (isRanking_richerOrSame.pairwise_mergeSort tiers).imp richerOrSame_iff.1

end Tier

namespace Promotion

variable {p : Promotion}

theorem thresholdTier_wellFormed {r : ThresholdTier} (h : p.thresholdTier = .ok r) :
    r.WellFormed := by
  obtain ⟨tiers, htiers, h⟩ := bind_eq_ok_iff.1 h
  split at h
  · cases h
  · rename_i hnonempty
    obtain rfl := pure_eq_ok_iff.1 h
    have hperm : (Tier.sortRichestFirst tiers).Perm tiers := List.mergeSort_perm _ _
    refine ⟨fun hnil => ?_, fun t ht => ?_, Tier.sortRichestFirst_pairwise tiers⟩
    · rw [show Tier.sortRichestFirst tiers = [] from hnil, List.nil_perm] at hperm
      simp [hperm] at hnonempty
    · obtain ⟨config, -, hconfig⟩ :=
        Correspondence.exists_left (forall₂_of_mapM htiers) (hperm.mem_iff.1 ht)
      exact tier_wellFormed hconfig

theorem rule_wellFormed {r : Rule} (h : p.rule = .ok r) : r.WellFormed := by
  rw [rule] at h
  split at h
  · rename_i archetype _
    cases archetype with
    | percentDiscount =>
      obtain ⟨r, hr, rfl⟩ := map_eq_ok_iff.1 h
      exact percentDiscount_wellFormed hr
    | amountDiscount =>
      obtain ⟨r, hr, rfl⟩ := map_eq_ok_iff.1 h
      exact amountDiscount_wellFormed hr
    | buyXGetY =>
      obtain ⟨r, hr, rfl⟩ := map_eq_ok_iff.1 h
      exact buyXGetY_wellFormed hr
    | combo =>
      obtain ⟨r, hr, rfl⟩ := map_eq_ok_iff.1 h
      exact combo_wellFormed hr
    | freeItem =>
      obtain ⟨r, hr, rfl⟩ := map_eq_ok_iff.1 h
      exact freeItem_wellFormed hr
    | happyHour =>
      obtain ⟨r, hr, rfl⟩ := map_eq_ok_iff.1 h
      exact happyHour_wellFormed hr
    | cashback =>
      obtain ⟨r, hr, rfl⟩ := map_eq_ok_iff.1 h
      exact cashback_wellFormed hr
    | paymentDiscount =>
      obtain ⟨r, hr, rfl⟩ := map_eq_ok_iff.1 h
      exact paymentDiscount_wellFormed hr
    | package =>
      obtain ⟨r, hr, rfl⟩ := map_eq_ok_iff.1 h
      exact setMenu_wellFormed hr
    | mixMatch =>
      obtain ⟨r, hr, rfl⟩ := map_eq_ok_iff.1 h
      exact mixMatch_wellFormed hr
    | upsell =>
      obtain ⟨r, hr, rfl⟩ := map_eq_ok_iff.1 h
      exact upsell_wellFormed hr
    | thresholdTier =>
      obtain ⟨r, hr, rfl⟩ := map_eq_ok_iff.1 h
      exact thresholdTier_wellFormed hr
  · cases h

end Promotion

/-! ## Facets -/

namespace Promotion

variable {p : Promotion}

theorem validity_wellFormed {v : Validity} (h : p.validity = .ok v) : v.WellFormed := by
  rw [validity] at h
  split at h
  · cases h
  · rename_i hrange
    obtain ⟨window, -, h⟩ := bind_eq_ok_iff.1 h
    obtain ⟨days, hdays, h⟩ := bind_eq_ok_iff.1 h
    obtain rfl := pure_eq_ok_iff.1 h
    exact ⟨Int.not_lt.1 hrange, weekdays_wellFormed hdays⟩

theorem storeScope_wellFormed {s : StoreScope} (h : p.storeScope = .ok s) : s.WellFormed := by
  rw [storeScope] at h
  split at h
  · obtain rfl := Except.ok.inj h
    exact trivial
  · split at h
    · cases h
    · rename_i hstores
      obtain rfl := Except.ok.inj h
      exact fun hnil => hstores (List.isEmpty_iff.2 hnil)

theorem brandCoverage_wellFormed {b : BrandCoverage} (h : p.brandCoverage = .ok b) :
    b.WellFormed := by
  rw [brandCoverage] at h
  split at h
  · obtain rfl := Except.ok.inj h
    exact trivial
  · split at h
    · cases h
    · rename_i hbrands
      obtain rfl := Except.ok.inj h
      exact fun hnil => hbrands (List.isEmpty_iff.2 hnil)
  · obtain ⟨brand, -, rfl⟩ := map_eq_ok_iff.1 h
    exact List.cons_ne_nil brand []

theorem scope_wellFormed {s : Scope} (h : p.scope = .ok s) : s.WellFormed := by
  obtain ⟨stores, hstores, h⟩ := bind_eq_ok_iff.1 h
  obtain ⟨brands, hbrands, h⟩ := bind_eq_ok_iff.1 h
  obtain rfl := pure_eq_ok_iff.1 h
  exact
    { stores := storeScope_wellFormed hstores
      brands := brandCoverage_wellFormed hbrands
      salesChannels := fun _ => isCanonical_of_mem_canonicalSet
      excludeChannels := fun _ => isCanonical_of_mem_canonicalSet }

theorem minPurchase_nonneg {r : Requirements} (h : p.requirements = .ok r) : 0 ≤ r.minPurchase := by
  obtain ⟨least, hleast, h⟩ := bind_eq_ok_iff.1 h
  obtain rfl := pure_eq_ok_iff.1 h
  exact nonneg_of_nonNegative hleast

theorem limits_wellFormed (p : Promotion) : p.limits.WellFormed :=
  ⟨fun _ => one_le_of_positive?, fun _ => one_le_of_positive?, fun _ => one_le_of_positive?⟩

theorem executionPriority_range {c : ConflictPolicy} (h : p.conflict = .ok c) :
    1 ≤ c.executionPriority ∧ c.executionPriority ≤ 999 := by
  rw [conflict] at h
  split at h
  · rename_i hrange
    obtain rfl := Except.ok.inj h
    exact hrange
  · cases h

theorem crossBrand?_wellFormed {c : CrossBrand} (h : p.crossBrand? = .ok (some c)) :
    c.WellFormed := by
  rw [crossBrand?] at h
  split at h
  · obtain ⟨kind, -, h⟩ := bind_eq_ok_iff.1 h
    split at h
    · cases h
    · rename_i hbrands
      obtain ⟨rules, -, h⟩ := bind_eq_ok_iff.1 h
      obtain ⟨brands, hdistinct, h⟩ := bind_eq_ok_iff.1 h
      obtain ⟨least, hleast, h⟩ := bind_eq_ok_iff.1 h
      obtain rfl := Option.some.inj (pure_eq_ok_iff.1 h)
      obtain ⟨hpos, rfl⟩ := one_le_of_atLeastOne hdistinct
      refine ⟨fun hkind hnil => hbrands ⟨hkind, List.isEmpty_iff.2 hnil⟩, ?_, hpos⟩
      exact pos_of_positive? hleast
  · cases pure_eq_ok_iff.1 h

end Promotion

/-- Whatever a promotion says, if it compiles, its document is well formed. -/
theorem Compiler.compile_wellFormed {c : Compiler} {p : Promotion} {compiledAt : Timestamp}
    {d : Document} (h : c.compile p compiledAt = .ok d) : d.WellFormed := by
  have hcompiles := compiles_of_compile h
  exact
    { rule := Promotion.rule_wellFormed hcompiles.rule
      validity := Promotion.validity_wellFormed hcompiles.validity
      scope := Promotion.scope_wellFormed hcompiles.scope
      memberTiers := by
        rw [hcompiles.audience]
        exact fun _ => isCanonical_of_mem_canonicalSet
      minPurchase := Promotion.minPurchase_nonneg hcompiles.requirements
      limits := by
        rw [hcompiles.limits]
        exact p.limits_wellFormed
      executionPriority := Promotion.executionPriority_range hcompiles.conflict
      crossBrand := fun crossBrand hcross => by
        refine Promotion.crossBrand?_wellFormed (p := p) ?_
        rw [hcompiles.crossBrand, hcross] }

namespace Sample

/-- The compiler of the shop. -/
def compiler : Compiler := ⟨"IDR", by decide⟩

/-- Ten percent from one hundred on and a free product from two hundred on, for some members. -/
def ladder : Promotion :=
  { Promotion.new .thresholdTier (id 1) (id 1) "L" date date with
    memberTiers := [" Gold", "  "]
    validDays := [6, 0, 6]
    tiers :=
      [{ name := "ten", minAmount := amount 100, maxAmount := some (amount 199), kind := .percent
         value := ⟨1000, 2, by decide, by decide⟩ },
       { name := "gift", minAmount := amount 200, kind := .freeProduct
         freeProduct := some (id 2) }] }

end Sample

/-- The tiers come richest first, the zeros are off the percent points, and the names of tiers of
members are in small letters. -/
theorem Compiler.compile_wellFormed_shop :
    ∃ d, Sample.compiler.compile Sample.ladder .epoch = .ok d ∧ d.WellFormed ∧
      d.audience.memberTiers.toList = ["gold"] ∧ d.validity.weekdays.offsets = [0, 6] ∧
      d.rule = .thresholdTier ⟨[⟨"gift", 0, Sample.amount 200, none, .freeProduct (Sample.id 2)⟩,
        ⟨"ten", 0, Sample.amount 100, some (Sample.amount 199),
          .percent ⟨10, 0, by decide, by decide⟩⟩]⟩ := by
  have hrule : Sample.ladder.rule = .ok (.thresholdTier ⟨[⟨"gift", 0, Sample.amount 200, none,
      .freeProduct (Sample.id 2)⟩, ⟨"ten", 0, Sample.amount 100, some (Sample.amount 199),
        .percent ⟨10, 0, by decide, by decide⟩⟩]⟩) := by
    cbv
  have hvalidity : Sample.ladder.validity =
      .ok ⟨Sample.date, Sample.date, none, ⟨[0, 6]⟩, false⟩ := by
    rfl
  obtain ⟨d, hd⟩ : ∃ d, Sample.compiler.compile Sample.ladder .epoch = .ok d := ⟨_, rfl⟩
  have hcompiles := Compiler.compiles_of_compile hd
  refine ⟨d, hd, Compiler.compile_wellFormed hd, ?_, ?_, ?_⟩
  · rw [hcompiles.audience]
    decide
  · rw [← Except.ok.inj (hvalidity.symm.trans hcompiles.validity)]
  · exact Except.ok.inj (hcompiles.rule.symm.trans hrule)

end Promotions

import Promotions.Proofs.Compile.Checks
import Promotions.Proofs.Compile.Edits

/-!
# Proofs: one document for one promotion

However a promotion is stored, it compiles to one document. The settings that an edit touches come
to the same values, though an error may name another of two wrong values; the rule and the facets
are put together from these values and from what no edit touches; so step by step promotions that
say the same compile alike.
-/

namespace Promotions

open Fallible Setting

/-! ## Single settings -/

namespace Setting

variable {setting : String} {a b : Decimal}

theorem percentPoints_eq_ok_iff {points result : Decimal} :
    percentPoints setting points = .ok result ↔
      points.normalize.IsPercentage ∧ points.normalize = result := by
  have hrange : ¬(points < .zero ∨ .hundred < points) ↔ points.normalize.IsPercentage := by
    rw [not_or, Decimal.not_lt, Decimal.not_lt, ← Decimal.normalize_le_iff (d := points),
      Decimal.zero_le_iff, ← Decimal.normalize_coefficient_nonneg_iff, ← Decimal.zero_le_iff]
    exact ⟨fun h => ⟨h.1, h.2⟩, fun h => ⟨h.nonneg, h.le_hundred⟩⟩
  rw [percentPoints, ← hrange]
  split <;> simp_all

theorem percentPoints_sameAnswer (h : a.ZerosAdded b) :
    SameAnswer (percentPoints setting a) (percentPoints setting b) := by
  intro result
  rw [percentPoints_eq_ok_iff, percentPoints_eq_ok_iff, Decimal.normalize_eq h]

theorem wholeMinor_sameAnswer (h : a.ZerosAdded b) :
    SameAnswer (wholeMinor setting a) (wholeMinor setting b) := by
  rw [wholeMinor, wholeMinor, Decimal.isWhole_eq h, Decimal.truncate_eq h]
  cases b.isWhole with
  | false => intro result; simp
  | true =>
    cases Amount.ofInt? b.truncate with
    | none => intro result; simp
    | some minor => exact SameAnswer.refl _

end Setting

/-! ## Tiers and components -/

namespace TierConfig

theorem rank_of_tier {t : TierConfig} {tier : Tier} (h : t.tier = .ok tier) :
    t.rank = (tier.minAmount, tier.order) := by
  obtain ⟨benefit, -, h⟩ := bind_eq_ok_iff.1 h
  obtain ⟨least, hleast, h⟩ := bind_eq_ok_iff.1 h
  obtain ⟨-, rfl⟩ := nonNegative_eq_ok_iff.1 hleast
  simp only at h
  split at h
  · split at h
    · cases h
    · obtain rfl := pure_eq_ok_iff.1 h
      rfl
  · obtain rfl := pure_eq_ok_iff.1 h
    rfl

theorem tier_sameAnswer (t : TierConfig) (hkind : t.kind = .percent ∨ t.kind = .amount)
    {value value' : Decimal} (h : value.ZerosAdded value') :
    SameAnswer { t with value := value }.tier { t with value := value' }.tier := by
  have hbenefit :
      SameAnswer { t with value := value }.benefit { t with value := value' }.benefit := by
    rcases hkind with hkind | hkind
    · simp only [benefit, hkind]
      exact (percentPoints_sameAnswer h).map _
    · simp only [benefit, hkind]
      exact (wholeMinor_sameAnswer h).map _
  exact hbenefit.bind fun _ => SameAnswer.refl _

end TierConfig

theorem Tier.rank_eq_of_tied {a b : Tier} (hab : Tier.richerOrSame a b = true)
    (hba : Tier.richerOrSame b a = true) : (a.minAmount, a.order) = (b.minAmount, b.order) := by
  rw [richerOrSame_iff] at hab hba
  simp only [Precedes, Amount.lt_iff, ← Amount.toInt_inj, Int32.le_iff_toInt_le] at hab hba
  have hleast : a.minAmount = b.minAmount := Amount.toInt_inj.1 (by omega)
  have horder : a.order = b.order := Int32.toInt_inj.1 (by omega)
  rw [hleast, horder]

/-- The rule of the tiers that count. -/
def ThresholdTier.ofActive (active : List TierConfig) : Except CompileError ThresholdTier := do
  let tiers ← active.mapM TierConfig.tier
  if tiers.isEmpty then .error (.missing "tiers")
  else return { tiers := Tier.sortRichestFirst tiers }

theorem Promotion.thresholdTier_eq (p : Promotion) :
    p.thresholdTier = ThresholdTier.ofActive (p.tiers.filter (·.isActive)) := rfl

namespace ThresholdTier

theorem ofActive_of_perm {active active' : List TierConfig} (hperm : active.Perm active')
    (hranks : (active.map TierConfig.rank).Nodup) {r : ThresholdTier}
    (h : ofActive active = .ok r) : ofActive active' = .ok r := by
  obtain ⟨tiers, htiers, h⟩ := bind_eq_ok_iff.1 h
  obtain ⟨tiers', htiers', hperm'⟩ := exists_mapM_of_perm hperm htiers
  -- tied tiers come from settings that are ranked the same, and these are one
  have hties : ∀ a ∈ tiers, ∀ b ∈ tiers, Tier.richerOrSame a b = true →
      Tier.richerOrSame b a = true → a = b := by
    intro a ha b hb hab hba
    obtain ⟨t, ht, htier⟩ := Correspondence.exists_left (forall₂_of_mapM htiers) ha
    obtain ⟨t', ht', htier'⟩ := Correspondence.exists_left (forall₂_of_mapM htiers) hb
    have hrank : t.rank = t'.rank := by
      rw [TierConfig.rank_of_tier htier, TierConfig.rank_of_tier htier']
      exact Tier.rank_eq_of_tied hab hba
    obtain rfl := List.inj_on_of_nodup_map hranks ht ht' hrank
    exact Except.ok.inj (htier.symm.trans htier')
  have hsorted : Tier.sortRichestFirst tiers = Tier.sortRichestFirst tiers' :=
    Tier.isRanking_richerOrSame.mergeSort_eq_of_perm hperm' hties
  have hempty : tiers.isEmpty = tiers'.isEmpty := hperm'.isEmpty_eq
  refine bind_eq_ok_iff.2 ⟨tiers', htiers', ?_⟩
  rwa [← hempty, ← hsorted]

theorem ofActive_perm {active active' : List TierConfig} (hperm : active.Perm active')
    (hranks : (active.map TierConfig.rank).Nodup) :
    SameAnswer (ofActive active) (ofActive active') := fun _ =>
  ⟨ofActive_of_perm hperm hranks,
    ofActive_of_perm hperm.symm ((hperm.map TierConfig.rank).nodup_iff.1 hranks)⟩

theorem ofActive_tierPlaces (before after : List TierConfig) (t : TierConfig)
    (hkind : t.kind = .percent ∨ t.kind = .amount) {value value' : Decimal}
    (h : value.ZerosAdded value') :
    SameAnswer
      (ofActive ((before ++ { t with value := value } :: after).filter (·.isActive)))
      (ofActive ((before ++ { t with value := value' } :: after).filter (·.isActive))) := by
  have hsame : ∀ l : List TierConfig,
      List.Forall₂ (fun a a' => SameAnswer a.tier (TierConfig.tier a')) l l := fun l =>
    List.forall₂_same.2 fun _ _ => SameAnswer.refl _
  have htiers : List.Forall₂ (fun a a' => SameAnswer a.tier (TierConfig.tier a'))
      ((before ++ { t with value := value } :: after).filter (·.isActive))
      ((before ++ { t with value := value' } :: after).filter (·.isActive)) := by
    rw [List.filter_append, List.filter_append]
    refine List.rel_append (hsame _) ?_
    rw [List.filter_cons, List.filter_cons]
    split
    · exact List.Forall₂.cons (t.tier_sameAnswer hkind h) (hsame _)
    · exact hsame _
  exact (SameAnswer.mapM htiers).bind fun _ => SameAnswer.refl _

end ThresholdTier

namespace ComponentConfig

theorem isRanking_sortOrder :
    StableOrder.IsRanking fun a b : ComponentConfig => decide (a.sortOrder ≤ b.sortOrder) := by
  refine ⟨fun a b c hab hbc => ?_, fun a b => ?_⟩
  · simp only [decide_eq_true_eq, Int32.le_iff_toInt_le] at *
    omega
  · simp only [Bool.or_eq_true, decide_eq_true_eq, Int32.le_iff_toInt_le]
    omega

theorem mergeSort_eq_of_perm {items items' : List ComponentConfig} (hperm : items.Perm items')
    (hplaces : (items.map (·.sortOrder)).Nodup) :
    items.mergeSort (fun a b => decide (a.sortOrder ≤ b.sortOrder)) =
      items'.mergeSort fun a b => decide (a.sortOrder ≤ b.sortOrder) := by
  refine isRanking_sortOrder.mergeSort_eq_of_perm hperm fun a ha b hb hab hba => ?_
  have hplace : a.sortOrder = b.sortOrder := by
    simp only [decide_eq_true_eq] at hab hba
    exact Int32.le_antisymm hab hba
  exact List.inj_on_of_nodup_map hplaces ha hb hplace

end ComponentConfig

namespace Promotion

/-! ## What an edit leaves as it is -/

/-- The promotion without the settings that edits touch. -/
def untouched (p : Promotion) : Promotion :=
  { p with
    discountPercent := none
    discountAmount := none
    maxDiscountAmount := none
    buyQuantity := none
    getQuantity := none
    comboPrice := none
    comboProducts := []
    happyHourPrice := none
    paymentMethods := []
    triggerMinAmount := none
    memberTiers := []
    validDays := []
    maxUses := none
    maxUsesPerCustomer := none
    maxUsesPerDay := none
    salesChannels := []
    excludeChannels := []
    package := none
    tiers := [] }

/-- The settings of two promotions come to the same. -/
structure SameSettings (p q : Promotion) : Prop where
  untouched : p.untouched = q.untouched
  percent : SameAnswer p.percent? q.percent?
  amount : p.amount? = q.amount?
  cap : p.cap? = q.cap?
  buyQuantity : Count.positive? p.buyQuantity = Count.positive? q.buyQuantity
  getQuantity : Count.positive? p.getQuantity = Count.positive? q.getQuantity
  comboPrice : positive? "combo_price" p.comboPrice = positive? "combo_price" q.comboPrice
  comboProducts : ∀ product, product ∈ p.comboProducts ↔ product ∈ q.comboProducts
  happyHourPrice :
    positive? "happy_hour_price" p.happyHourPrice = positive? "happy_hour_price" q.happyHourPrice
  paymentMethods : canonicalSet p.paymentMethods = canonicalSet q.paymentMethods
  triggerMinAmount :
    positive? "trigger_min_amount" p.triggerMinAmount =
      positive? "trigger_min_amount" q.triggerMinAmount
  memberTiers : canonicalSet p.memberTiers = canonicalSet q.memberTiers
  weekdays : SameAnswer p.weekdays q.weekdays
  limits : p.limits = q.limits
  salesChannels : canonicalSet p.salesChannels = canonicalSet q.salesChannels
  excludeChannels : canonicalSet p.excludeChannels = canonicalSet q.excludeChannels
  setMenu : p.setMenu = q.setMenu
  thresholdTier : SameAnswer p.thresholdTier q.thresholdTier

namespace SameSettings

theorem refl (p : Promotion) : SameSettings p p where
  untouched := rfl
  percent := .refl _
  amount := rfl
  cap := rfl
  buyQuantity := rfl
  getQuantity := rfl
  comboPrice := rfl
  comboProducts _ := Iff.rfl
  happyHourPrice := rfl
  paymentMethods := rfl
  triggerMinAmount := rfl
  memberTiers := rfl
  weekdays := .refl _
  limits := rfl
  salesChannels := rfl
  excludeChannels := rfl
  setMenu := rfl
  thresholdTier := .refl _

end SameSettings

theorem weekdays_eq_ok_iff {p : Promotion} {days : WeekdaySet} :
    p.weekdays = .ok days ↔
      (∀ day ∈ p.validDays, day ≤ 6) ∧ ⟨(SortedSet.ofList p.validDays).toList⟩ = days := by
  rw [weekdays, WeekdaySet.ofOffsets]
  cases hfind : p.validDays.find? fun d => 6 < d with
  | none =>
    have hall : ∀ day ∈ p.validDays, day ≤ 6 := by simpa using List.find?_eq_none.1 hfind
    simpa using fun _ => hall
  | some d =>
    have hd : 6 < d := by simpa using List.find?_some hfind
    have hmem := List.mem_of_find?_eq_some hfind
    simp only [reduceCtorEq, false_iff, not_and]
    exact fun hall => absurd (hall d hmem) (UInt8.not_le.2 hd)

/-- An edit touches settings that come to the same. -/
theorem Edit.sameSettings {p q : Promotion} (h : Edit p q) : SameSettings p q := by
  cases h with
  | comboProducts p h => exact { SameSettings.refl _ with comboProducts := h }
  | @validDays p days days' h =>
    have hweekdays : SameAnswer { p with validDays := days }.weekdays
        { p with validDays := days' }.weekdays := by
      intro result
      rw [weekdays_eq_ok_iff, weekdays_eq_ok_iff, SortedSet.ofList_congr h]
      simp only [h]
    exact { SameSettings.refl _ with weekdays := hweekdays }
  | names setting p h =>
    have hset := canonicalSet_eq_of_edit h
    cases setting with
    | paymentMethods => exact { SameSettings.refl _ with paymentMethods := hset }
    | memberTiers => exact { SameSettings.refl _ with memberTiers := hset }
    | salesChannels => exact { SameSettings.refl _ with salesChannels := hset }
    | excludeChannels => exact { SameSettings.refl _ with excludeChannels := hset }
  | @tierOrder p tiers tiers' h hranks =>
    have htiers : SameAnswer { p with tiers := tiers }.thresholdTier
        { p with tiers := tiers' }.thresholdTier := by
      rw [thresholdTier_eq, thresholdTier_eq]
      exact ThresholdTier.ofActive_perm (h.filter _) hranks
    exact { SameSettings.refl _ with thresholdTier := htiers }
  | @inactiveTier p before after t h =>
    have hactive : (before ++ after).filter (·.isActive) =
        (before ++ t :: after).filter (·.isActive) := by
      rw [List.filter_append, List.filter_append, List.filter_cons_of_neg (by simpa using h)]
    have htiers : { p with tiers := before ++ after }.thresholdTier =
        { p with tiers := before ++ t :: after }.thresholdTier := by
      rw [thresholdTier_eq, thresholdTier_eq, hactive]
    exact { SameSettings.refl _ with thresholdTier := SameAnswer.of_eq htiers }
  | @itemOrder p config items items' h hplaces =>
    have hmenu : { p with package := some { config with items := items } }.setMenu =
        { p with package := some { config with items := items' } }.setMenu := by
      simp only [setMenu, require, ok_bind, h.isEmpty_eq,
        ComponentConfig.mergeSort_eq_of_perm h hplaces]
    exact { SameSettings.refl _ with setMenu := hmenu }
  | @zeroPercent p zero h =>
    have hpercent : { p with discountPercent := none }.percent? =
        { p with discountPercent := some zero }.percent? := by
      simp [percent?, h]
    exact { SameSettings.refl _ with percent := SameAnswer.of_eq hpercent }
  | zeroAmount setting p =>
    cases setting with
    | discountAmount => exact { SameSettings.refl _ with amount := rfl }
    | maxDiscountAmount => exact { SameSettings.refl _ with cap := rfl }
    | comboPrice => exact { SameSettings.refl _ with comboPrice := rfl }
    | happyHourPrice => exact { SameSettings.refl _ with happyHourPrice := rfl }
    | triggerMinAmount => exact { SameSettings.refl _ with triggerMinAmount := rfl }
  | zeroCount setting p =>
    cases setting with
    | buyQuantity => exact { SameSettings.refl _ with buyQuantity := rfl }
    | getQuantity => exact { SameSettings.refl _ with getQuantity := rfl }
    | maxUses => exact { SameSettings.refl _ with limits := rfl }
    | maxUsesPerDay => exact { SameSettings.refl _ with limits := rfl }
    | maxUsesPerCustomer => exact { SameSettings.refl _ with limits := rfl }
  | @percentPlaces p points points' h =>
    have hpercent : SameAnswer { p with discountPercent := some points }.percent?
        { p with discountPercent := some points' }.percent? := by
      simp only [percent?, Decimal.isZero_eq h]
      split
      · exact SameAnswer.refl _
      · exact (percentPoints_sameAnswer h).map some
    exact { SameSettings.refl _ with percent := hpercent }
  | @tierPlaces p before after t hkind value value' h =>
    have htiers : SameAnswer
        { p with tiers := before ++ { t with value := value } :: after }.thresholdTier
        { p with tiers := before ++ { t with value := value' } :: after }.thresholdTier := by
      rw [thresholdTier_eq, thresholdTier_eq]
      exact ThresholdTier.ofActive_tierPlaces before after t hkind h
    exact { SameSettings.refl _ with thresholdTier := htiers }

/-! ## From the settings to the document -/

namespace SameSettings

variable {p q : Promotion}

/-- What is made of settings that no edit touches is the same. -/
theorem eq {α : Type} (h : SameSettings p q) (f : Promotion → α) (hf : ∀ p, f p.untouched = f p) :
    f p = f q := by
  rw [← hf p, h.untouched, hf q]

theorem leastPurchase (h : SameSettings p q) : p.leastPurchase = q.leastPurchase :=
  h.eq Promotion.leastPurchase fun _ => rfl

theorem discountValue (h : SameSettings p q) : SameAnswer p.discountValue q.discountValue := by
  refine h.percent.bind fun percent => ?_
  cases percent with
  | some points => exact .refl _
  | none => exact (SameAnswer.of_eq h.amount).bind fun _ => .refl _

/-! ### Rules -/

theorem percentDiscount (h : SameSettings p q) :
    SameAnswer p.percentDiscount q.percentDiscount :=
  h.percent.bind fun _ => (SameAnswer.refl _).bind fun _ => (SameAnswer.of_eq h.cap).bind fun _ =>
    (SameAnswer.of_eq h.leastPurchase).bind fun _ => .refl _

theorem amountDiscount (h : SameSettings p q) : p.amountDiscount = q.amountDiscount := by
  rw [Promotion.amountDiscount, Promotion.amountDiscount, h.amount, h.leastPurchase]

theorem buyXGetY (h : SameSettings p q) : SameAnswer p.buyXGetY q.buyXGetY := by
  rw [Promotion.buyXGetY, Promotion.buyXGetY, h.buyQuantity, h.getQuantity,
    h.eq Promotion.getProduct fun _ => rfl]
  exact (SameAnswer.refl _).bind fun _ => (SameAnswer.refl _).bind fun _ =>
    h.percent.bind fun _ => .refl _

theorem combo (h : SameSettings p q) : p.combo = q.combo := by
  have hempty : p.comboProducts.isEmpty = q.comboProducts.isEmpty := by
    rw [Bool.eq_iff_iff, List.isEmpty_iff, List.isEmpty_iff, List.eq_nil_iff_forall_not_mem,
      List.eq_nil_iff_forall_not_mem]
    simp only [h.comboProducts]
  rw [Promotion.combo, Promotion.combo, h.comboPrice, hempty,
    SortedSet.ofList_congr h.comboProducts]

theorem freeItem (h : SameSettings p q) : p.freeItem = q.freeItem := by
  rw [Promotion.freeItem, Promotion.freeItem, h.buyQuantity, h.getQuantity,
    h.eq Promotion.getProduct fun _ => rfl, h.eq Promotion.requiredProduct fun _ => rfl]

theorem happyHour (h : SameSettings p q) : SameAnswer p.happyHour q.happyHour := by
  rw [Promotion.happyHour, Promotion.happyHour, h.amount, h.happyHourPrice,
    h.eq Promotion.validTimeStart fun _ => rfl, h.eq Promotion.validTimeEnd fun _ => rfl]
  refine h.percent.bind fun points => (SameAnswer.refl _).bind fun value =>
    (SameAnswer.refl _).bind fun price => (SameAnswer.refl _).bind fun pricing => ?_
  split
  · exact h.weekdays.bind fun _ => .refl _
  · exact .refl _

theorem cashback (h : SameSettings p q) : SameAnswer p.cashback q.cashback := by
  rw [Promotion.cashback, Promotion.cashback, h.cap, h.paymentMethods, h.leastPurchase]
  exact h.discountValue.bind fun _ => .refl _

theorem paymentDiscount (h : SameSettings p q) :
    SameAnswer p.paymentDiscount q.paymentDiscount := by
  rw [Promotion.paymentDiscount, Promotion.paymentDiscount, h.cap, h.paymentMethods,
    h.eq Promotion.paymentMinAmount fun _ => rfl]
  exact h.discountValue.bind fun _ => .refl _

theorem upsell (h : SameSettings p q) : p.upsell = q.upsell := by
  rw [Promotion.upsell, Promotion.upsell, h.buyQuantity,
    h.eq Promotion.requiredProduct fun _ => rfl, h.eq Promotion.upsellProduct fun _ => rfl,
    h.eq Promotion.upsellSpecialPrice fun _ => rfl, h.eq Promotion.upsellMessage fun _ => rfl]

theorem ruleOf (h : SameSettings p q) (archetype : Archetype) :
    SameAnswer (p.ruleOf archetype) (q.ruleOf archetype) := by
  cases archetype with
  | percentDiscount => exact h.percentDiscount.map _
  | amountDiscount => exact (SameAnswer.of_eq h.amountDiscount).map _
  | buyXGetY => exact h.buyXGetY.map _
  | combo => exact (SameAnswer.of_eq h.combo).map _
  | freeItem => exact (SameAnswer.of_eq h.freeItem).map _
  | happyHour => exact h.happyHour.map _
  | cashback => exact h.cashback.map _
  | paymentDiscount => exact h.paymentDiscount.map _
  | package => exact (SameAnswer.of_eq h.setMenu).map _
  | mixMatch => exact (SameAnswer.of_eq (h.eq Promotion.mixMatch fun _ => rfl)).map _
  | upsell => exact (SameAnswer.of_eq h.upsell).map _
  | thresholdTier => exact h.thresholdTier.map _

theorem rule (h : SameSettings p q) : SameAnswer p.rule q.rule := by
  rw [Promotion.rule, Promotion.rule, h.eq Promotion.archetype fun _ => rfl]
  split
  · exact h.ruleOf _
  · exact .refl _

/-! ### Facets -/

theorem validity (h : SameSettings p q) : SameAnswer p.validity q.validity := by
  rw [Promotion.validity, Promotion.validity, h.eq Promotion.startDate fun _ => rfl,
    h.eq Promotion.endDate fun _ => rfl, h.eq Promotion.timeWindow? fun _ => rfl,
    h.eq Promotion.excludeHolidays fun _ => rfl]
  split
  · exact .refl _
  · exact (SameAnswer.refl _).bind fun _ => h.weekdays.bind fun _ => .refl _

theorem scope (h : SameSettings p q) : p.scope = q.scope := by
  rw [Promotion.scope, Promotion.scope, h.eq Promotion.storeScope fun _ => rfl,
    h.eq Promotion.brandCoverage fun _ => rfl, h.eq Promotion.excludeBrands fun _ => rfl,
    h.salesChannels, h.excludeChannels]

theorem audience (h : SameSettings p q) : p.audience = q.audience := by
  rw [Promotion.audience, Promotion.audience, h.memberTiers, h.eq Promotion.memberOnly fun _ => rfl,
    h.eq Promotion.excludeMembers fun _ => rfl, h.eq Promotion.customerType fun _ => rfl,
    h.eq Promotion.inactiveDaysThreshold fun _ => rfl]

theorem crossBrand? (h : SameSettings p q) : p.crossBrand? = q.crossBrand? := by
  rw [Promotion.crossBrand?, Promotion.crossBrand?, h.triggerMinAmount,
    h.eq Promotion.isCrossBrand fun _ => rfl, h.eq Promotion.crossBrandType fun _ => rfl,
    h.eq Promotion.triggerBrands fun _ => rfl, h.eq Promotion.acrossBrands fun _ => rfl,
    h.eq Promotion.benefitBrands fun _ => rfl]

end SameSettings

end Promotion

namespace Compiler

open Promotion

variable {p q : Promotion}

/-- Promotions whose settings come to the same compile alike. -/
theorem compile_sameAnswer_of_sameSettings (c : Compiler) (h : SameSettings p q)
    (compiledAt : Timestamp) :
    SameAnswer (c.compile p compiledAt) (c.compile q compiledAt) := by
  rw [compile, compile, h.scope, h.crossBrand?, h.audience, h.limits,
    h.eq Promotion.requirements fun _ => rfl, h.eq Promotion.conflict fun _ => rfl,
    h.eq Promotion.targeting fun _ => rfl, h.eq Promotion.id fun _ => rfl,
    h.eq Promotion.code fun _ => rfl, h.eq Promotion.name fun _ => rfl,
    h.eq Promotion.description fun _ => rfl, h.eq Promotion.terms fun _ => rfl,
    h.eq Promotion.companyId fun _ => rfl, h.eq Promotion.brandId fun _ => rfl]
  exact h.rule.bind fun _ => h.validity.bind fun _ => .refl _

/-- So do promotions that say the same, edit by edit. -/
theorem compile_sameAnswer (c : Compiler) (h : p.SaysSame q) (compiledAt : Timestamp) :
    SameAnswer (c.compile p compiledAt) (c.compile q compiledAt) := by
  induction h with
  | rel p q h => exact c.compile_sameAnswer_of_sameSettings h.sameSettings compiledAt
  | refl p => exact .refl _
  | symm p q _ ih => exact ih.symm
  | trans p q r _ _ ihpq ihqr => exact ihpq.trans ihqr

/-- Of promotions that say the same one compiles if the other does, and their documents, with the
fingerprints, are the same. -/
theorem compile_canonical (c : Compiler) {p q : Promotion} (h : p.SaysSame q)
    (compiledAt : Timestamp) :
    ((∃ d, c.compile p compiledAt = .ok d) ↔ ∃ d, c.compile q compiledAt = .ok d) ∧
      ∀ d e, c.compile p compiledAt = .ok d → c.compile q compiledAt = .ok e →
        d = e ∧ d.fingerprint = e.fingerprint := by
  have hsame := c.compile_sameAnswer h compiledAt
  refine ⟨exists_congr hsame, fun d e hd he => ?_⟩
  obtain rfl : d = e := Except.ok.inj (((hsame d).1 hd).symm.trans he)
  exact ⟨rfl, rfl⟩

end Compiler

namespace Sample

/-- The gift of the ladder. -/
def gift : TierConfig where
  name := "gift"
  minAmount := amount 200
  kind := .freeProduct
  freeProduct := some (id 2)

/-- The tier of the ladder that takes percent points off, with two places. -/
def ten : TierConfig := ladder.tiers.headD gift

/-- The tier without the places. -/
def wholeTen : TierConfig := { ten with value := ten.value.normalize }

/-- A tier that was switched off. -/
def fifteen : TierConfig where
  name := "fifteen"
  minAmount := amount 200
  kind := .percent
  isActive := false

/-- The ladder as another form stores it. -/
def storedLadder (days : List UInt8) (cap : Option Amount) (tiers : List TierConfig) : Promotion :=
  { ladder with
    memberTiers := ["GOLD ", "  "]
    validDays := days
    maxDiscountAmount := cap
    tiers }

theorem respelled_gold : Text.Respelled " Gold" "GOLD " :=
  ⟨['G', 'o', 'l', 'd'], ['G', 'O', 'L', 'D'],
    ⟨[' '], [], by decide, List.forall_mem_singleton.2 rfl, List.forall_mem_nil _⟩,
    ⟨[], [' '], by decide, List.forall_mem_nil _, List.forall_mem_singleton.2 rfl⟩, by decide⟩

/-- The tier of members is spelled otherwise, a weekday is not repeated, a cap is zero, the tiers
are turned around, one that was switched off is among them, and the percent points have no places.
-/
theorem ladder_saysSame :
    ladder.SaysSame (storedLadder [0, 6] (some 0) [gift, fifteen, wholeTen]) :=
  have hplaces : Promotion.Edit (storedLadder [0, 6] (some 0) [gift, fifteen, wholeTen])
      (storedLadder [0, 6] (some 0) [gift, fifteen, ten]) :=
    .tierPlaces (storedLadder [0, 6] (some 0) []) [gift, fifteen] [] ten (.inl rfl)
      ⟨2, rfl, by decide⟩
  calc
    ladder.SaysSame (storedLadder [6, 0, 6] none [ten, gift]) :=
      .rel _ _ (.names .memberTiers ladder (.respelling [] ["  "] respelled_gold))
    Promotion.SaysSame _ (storedLadder [0, 6] none [ten, gift]) :=
      .rel _ _ (.validDays (storedLadder [] none [ten, gift]) (by grind))
    Promotion.SaysSame _ (storedLadder [0, 6] (some 0) [ten, gift]) :=
      .rel _ _ (.zeroAmount .maxDiscountAmount (storedLadder [0, 6] none [ten, gift]))
    Promotion.SaysSame _ (storedLadder [0, 6] (some 0) [gift, ten]) :=
      .rel _ _ (.tierOrder (storedLadder [0, 6] (some 0) []) (.swap _ _ _) (by decide))
    Promotion.SaysSame _ (storedLadder [0, 6] (some 0) [gift, fifteen, ten]) :=
      .rel _ _ (.inactiveTier (storedLadder [0, 6] (some 0) []) [gift] [ten] rfl)
    Promotion.SaysSame _ (storedLadder [0, 6] (some 0) [gift, fifteen, wholeTen]) :=
      Promotion.SaysSame.equivalence.symm (.rel _ _ hplaces)

end Sample

theorem Compiler.compile_canonical_shop :
    ∃ again, Sample.ladder.SaysSame again ∧ Sample.ladder ≠ again ∧
      ∃ d, Sample.compiler.compile Sample.ladder .epoch = .ok d ∧
        Sample.compiler.compile again .epoch = .ok d := by
  obtain ⟨hcompiles, hsame⟩ :=
    Sample.compiler.compile_canonical Sample.ladder_saysSame .epoch
  obtain ⟨d, hd⟩ : ∃ d, Sample.compiler.compile Sample.ladder .epoch = .ok d := ⟨_, rfl⟩
  obtain ⟨e, he⟩ := hcompiles.1 ⟨d, hd⟩
  obtain ⟨rfl, -⟩ := hsame d e hd he
  have hdiffer : Sample.ladder.maxDiscountAmount ≠ some 0 := by decide
  exact ⟨_, Sample.ladder_saysSame,
    fun h => hdiffer (congrArg Promotion.maxDiscountAmount h), d, hd, he⟩

end Promotions

import Mathlib.Data.List.TakeWhile
import Mathlib.Logic.Relation
import Promotions.Compile.Setting
import Promotions.Proofs.Compile.Settings
import Promotions.Proofs.Sorted

/-!
# Proofs: edits that say nothing new

A form in which promotions are edited stores one promotion in many ways. Lists of names and of
products come in any order, with repetitions, blank entries and other spellings; numbers have zeros
behind their places; fields that are left empty are stored as zero; tiers are switched off instead
of being deleted. `Promotion.Edit` has one constructor for each of these, and each setting that is
touched is shown to come to the same.
-/

namespace Promotions

/-! ## Spellings -/

namespace Text

/-- A text with white space around it. -/
def Surrounded (core s : List Char) : Prop :=
  ∃ before after, s = before ++ core ++ after ∧ (∀ c ∈ before, isBlank c = true) ∧
    ∀ c ∈ after, isBlank c = true

/-- The texts differ in nothing but the white space around them and the case of ASCII letters. -/
def Respelled (s t : String) : Prop :=
  ∃ core core', Surrounded core s.toList ∧ Surrounded core' t.toList ∧
    core.map Char.toLower = core'.map Char.toLower

/-- The text holds nothing but white space. -/
def IsBlank (s : String) : Prop := ∀ c ∈ s.toList, isBlank c = true

theorem trimChars_of_isBlank {s : List Char} (h : ∀ c ∈ s, isBlank c = true) :
    trimChars s = [] := by
  rw [trimChars, List.dropWhile_eq_nil_iff.2 h]
  rfl

theorem trimChars_of_surrounded {core s : List Char} (h : Surrounded core s) :
    trimChars s = trimChars core := by
  obtain ⟨before, after, rfl, hbefore, hafter⟩ := h
  have hreverse : ∀ c ∈ after.reverse, isBlank c = true := fun c hc =>
    hafter c (List.mem_reverse.1 hc)
  rw [trimChars, trimChars, List.append_assoc, List.dropWhile_append_of_pos hbefore,
    List.dropWhile_append]
  by_cases hcore : (core.dropWhile isBlank).isEmpty
  · rw [if_pos hcore, List.dropWhile_eq_nil_iff.2 hafter, List.isEmpty_iff.1 hcore]
  · rw [if_neg hcore, List.reverse_append, List.dropWhile_append_of_pos hreverse]

theorem trimChars_map_toLower (s : List Char) :
    trimChars (s.map Char.toLower) = (trimChars s).map Char.toLower := by
  have hblank : isBlank ∘ Char.toLower = isBlank := funext isBlank_toLower
  rw [trimChars, trimChars, List.dropWhile_map, hblank, ← List.map_reverse, List.dropWhile_map,
    hblank, List.map_reverse]

theorem canonical_eq_of_respelled {s t : String} (h : Respelled s t) :
    canonical s = canonical t := by
  obtain ⟨core, core', hs, ht, hcase⟩ := h
  rw [canonical_eq, canonical_eq, trimChars_of_surrounded hs, trimChars_of_surrounded ht,
    ← trimChars_map_toLower, ← trimChars_map_toLower, hcase]

theorem canonical_of_isBlank {s : String} (h : IsBlank s) : canonical s = "" := by
  rw [canonical_eq, trimChars_of_isBlank h]
  rfl

end Text

/-- A list of names in another order, or with a name repeated, spelled otherwise, or added that is
blank. -/
inductive NamesEdit : List String → List String → Prop
  | reorder {names names' : List String} (h : names.Perm names') : NamesEdit names names'
  | repetition {name : String} {names : List String} (h : name ∈ names) :
      NamesEdit names (name :: names)
  | respelling (before after : List String) {name name' : String} (h : Text.Respelled name name') :
      NamesEdit (before ++ name :: after) (before ++ name' :: after)
  | blank (names : List String) {name : String} (h : Text.IsBlank name) :
      NamesEdit names (name :: names)

namespace Setting

theorem mem_canonicalSet_iff {names : List String} {name : String} :
    name ∈ canonicalSet names ↔ name ≠ "" ∧ ∃ given ∈ names, Text.canonical given = name := by
  rw [canonicalSet, SortedSet.mem_ofList, List.mem_filter, List.mem_map, and_comm]
  simp

theorem canonicalSet_eq_of_edit {names names' : List String} (h : NamesEdit names names') :
    canonicalSet names = canonicalSet names' := by
  refine SortedSet.ext_mem fun name => ?_
  rw [mem_canonicalSet_iff, mem_canonicalSet_iff]
  refine and_congr_right fun hname => ?_
  cases h with
  | reorder h => simp only [h.mem_iff]
  | repetition h =>
    simp only [List.mem_cons, exists_eq_or_imp]
    exact ⟨Or.inr, fun hname => hname.elim (fun heq => ⟨_, h, heq⟩) id⟩
  | respelling before after h =>
    simp only [List.mem_append, List.mem_cons, or_and_right, exists_or, exists_eq_left,
      Text.canonical_eq_of_respelled h]
  | blank names h =>
    simp only [List.mem_cons, exists_eq_or_imp, Text.canonical_of_isBlank h]
    exact ⟨Or.inr, fun h => h.elim (fun hempty => absurd hempty.symm hname) id⟩

end Setting

/-! ## Places of decimals -/

namespace Decimal

/-- The second decimal has zeros behind the places of the first. -/
def ZerosAdded (a b : Decimal) : Prop :=
  ∃ zeros, b.scale = a.scale + zeros ∧ b.coefficient = a.coefficient * 10 ^ zeros

theorem stripZeros_mul_pow (coefficient : Int) (scale zeros : Nat) :
    stripZeros (coefficient * 10 ^ zeros) (scale + zeros) = stripZeros coefficient scale := by
  induction zeros with
  | zero => rw [pow_zero, Int.mul_one, Nat.add_zero]
  | succ zeros ih =>
    have hends : (coefficient * 10 ^ (zeros + 1)).natAbs % 10 = 0 := by
      rw [pow_succ, ← Int.mul_assoc, Int.natAbs_mul]
      exact Nat.mul_mod_left _ 10
    have hdiv : (coefficient * 10 ^ (zeros + 1)).tdiv 10 = coefficient * 10 ^ zeros := by
      rw [pow_succ, ← Int.mul_assoc]
      exact Int.mul_tdiv_cancel _ (by decide)
    rw [← Nat.add_assoc, stripZeros, if_pos hends, hdiv, ih]

variable {a b : Decimal}

theorem normalize_eq (h : ZerosAdded a b) : a.normalize = b.normalize := by
  obtain ⟨zeros, hscale, hcoefficient⟩ := h
  have hstrip := stripZeros_mul_pow a.coefficient a.scale zeros
  rw [← hcoefficient, ← hscale] at hstrip
  exact ext (congrArg Prod.fst hstrip.symm) (congrArg Prod.snd hstrip.symm)

theorem isZero_eq (h : ZerosAdded a b) : a.isZero = b.isZero := by
  rw [← normalize_isZero a, normalize_eq h, normalize_isZero]

theorem isWhole_eq (h : ZerosAdded a b) : a.isWhole = b.isWhole := by
  obtain ⟨zeros, hscale, hcoefficient⟩ := h
  have hpos : 0 < 10 ^ zeros := by positivity
  have hmod : b.coefficient.natAbs % Nat.pow 10 b.scale =
      a.coefficient.natAbs % Nat.pow 10 a.scale * 10 ^ zeros := by
    rw [hscale, hcoefficient, Int.natAbs_mul, Int.natAbs_pow]
    show _ % 10 ^ (a.scale + zeros) = _
    rw [pow_add]
    exact Nat.mul_mod_mul_right _ _ _
  rw [isWhole, isWhole, hmod, Bool.eq_iff_iff, beq_iff_eq, beq_iff_eq]
  simp

theorem truncate_eq (h : ZerosAdded a b) : a.truncate = b.truncate := by
  obtain ⟨zeros, hscale, hcoefficient⟩ := h
  have hpos : (0 : Int) < 10 ^ zeros := by positivity
  have hpow : ((Nat.pow 10 b.scale : Nat) : Int) = (Nat.pow 10 a.scale : Nat) * 10 ^ zeros := by
    rw [hscale]
    show ((10 ^ (a.scale + zeros) : Nat) : Int) = (10 ^ a.scale : Nat) * 10 ^ zeros
    push_cast
    rw [pow_add]
  rw [truncate, truncate, hcoefficient, hpow]
  exact (Int.mul_tdiv_mul_of_pos_left _ _ hpos).symm

end Decimal

/-! ## Promotions -/

/-- The settings that hold an amount or nothing, where zero means nothing. -/
inductive AmountSetting
  | discountAmount
  | maxDiscountAmount
  | comboPrice
  | happyHourPrice
  | triggerMinAmount

/-- The promotion with the setting at a value. -/
def AmountSetting.put (value : Option Amount) (p : Promotion) : AmountSetting → Promotion
  | discountAmount => { p with discountAmount := value }
  | maxDiscountAmount => { p with maxDiscountAmount := value }
  | comboPrice => { p with comboPrice := value }
  | happyHourPrice => { p with happyHourPrice := value }
  | triggerMinAmount => { p with triggerMinAmount := value }

/-- The settings that hold a count or nothing, where zero means nothing. -/
inductive CountSetting
  | buyQuantity
  | getQuantity
  | maxUses
  | maxUsesPerDay
  | maxUsesPerCustomer

/-- The promotion with the setting at a value. -/
def CountSetting.put (value : Option Count) (p : Promotion) : CountSetting → Promotion
  | buyQuantity => { p with buyQuantity := value }
  | getQuantity => { p with getQuantity := value }
  | maxUses => { p with maxUses := value }
  | maxUsesPerDay => { p with maxUsesPerDay := value }
  | maxUsesPerCustomer => { p with maxUsesPerCustomer := value }

/-- The settings that are lists of names. -/
inductive NamesSetting
  | paymentMethods
  | memberTiers
  | salesChannels
  | excludeChannels

/-- The promotion with the setting at some names. -/
def NamesSetting.put (names : List String) (p : Promotion) : NamesSetting → Promotion
  | paymentMethods => { p with paymentMethods := names }
  | memberTiers => { p with memberTiers := names }
  | salesChannels => { p with salesChannels := names }
  | excludeChannels => { p with excludeChannels := names }

/-- What tiers are ranked by. -/
def TierConfig.rank (t : TierConfig) : Amount × Int32 := (t.minAmount, t.order)

namespace Promotion

/-- One edit that says nothing new of a promotion. -/
inductive Edit : Promotion → Promotion → Prop
  /-- The products of the combo in another order or number. -/
  | comboProducts (p : Promotion) {products products' : List ProductId}
      (h : ∀ product, product ∈ products ↔ product ∈ products') :
      Edit { p with comboProducts := products } { p with comboProducts := products' }
  /-- The weekdays in another order or number. -/
  | validDays (p : Promotion) {days days' : List UInt8} (h : ∀ day, day ∈ days ↔ day ∈ days') :
      Edit { p with validDays := days } { p with validDays := days' }
  | names (setting : NamesSetting) (p : Promotion) {names names' : List String}
      (h : NamesEdit names names') : Edit (setting.put names p) (setting.put names' p)
  /-- The tiers in another order, where no two active ones are ranked the same. -/
  | tierOrder (p : Promotion) {tiers tiers' : List TierConfig} (h : tiers.Perm tiers')
      (hranks : ((tiers.filter (·.isActive)).map TierConfig.rank).Nodup) :
      Edit { p with tiers := tiers } { p with tiers := tiers' }
  | inactiveTier (p : Promotion) (before after : List TierConfig) {t : TierConfig}
      (h : t.isActive = false) :
      Edit { p with tiers := before ++ after } { p with tiers := before ++ t :: after }
  /-- The components of the package in another order, where no two have the same place. -/
  | itemOrder (p : Promotion) (config : PackageConfig) {items items' : List ComponentConfig}
      (h : items.Perm items') (hplaces : (items.map (·.sortOrder)).Nodup) :
      Edit { p with package := some { config with items := items } }
        { p with package := some { config with items := items' } }
  | zeroPercent (p : Promotion) {zero : Decimal} (h : zero.isZero = true) :
      Edit { p with discountPercent := none } { p with discountPercent := some zero }
  | zeroAmount (setting : AmountSetting) (p : Promotion) :
      Edit (setting.put none p) (setting.put (some 0) p)
  | zeroCount (setting : CountSetting) (p : Promotion) :
      Edit (setting.put none p) (setting.put (some 0) p)
  | percentPlaces (p : Promotion) {points points' : Decimal} (h : points.ZerosAdded points') :
      Edit { p with discountPercent := some points } { p with discountPercent := some points' }
  /-- Zeros behind the places of the percent points or the amount that a tier takes off. -/
  | tierPlaces (p : Promotion) (before after : List TierConfig) (t : TierConfig)
      (hkind : t.kind = .percent ∨ t.kind = .amount) {value value' : Decimal}
      (h : value.ZerosAdded value') :
      Edit { p with tiers := before ++ { t with value := value } :: after }
        { p with tiers := before ++ { t with value := value' } :: after }

/-- The promotions differ in edits, made or taken back, that say nothing new. -/
def SaysSame : Promotion → Promotion → Prop := Relation.EqvGen Edit

theorem SaysSame.equivalence : Equivalence SaysSame := Relation.EqvGen.is_equivalence Edit

instance : Trans SaysSame SaysSame SaysSame := ⟨SaysSame.equivalence.trans⟩

end Promotion

end Promotions

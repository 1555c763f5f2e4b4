import Mathlib.Data.Option.Basic
import Promotions.Proofs.Compile.Canonical
import Promotions.Proofs.Compile.Fingerprints

/-!
# Proofs: equal promotions

Promotions are compared by what they hold, and decimals by the number they stand for, so `2` and
`2.0` are equal. A document is hashed as text, in which the two differ. Percent points lose the
zeros behind their places and an amount becomes whole minor units, so equal promotions compile
alike, except that the multiplier of a tier of loyalty points keeps the places it was written with.
-/

namespace Promotions

open Fallible

/-! ## Equality -/

/-- The numbers are equal, where zero may have either sign. -/
def Binary64.Equal (x y : Binary64) : Prop := x = y ∨ x.significand = 0 ∧ y.significand = 0

mutual

/-- The values are equal, their numbers being compared as numbers. -/
inductive Json.Equal : Json → Json → Prop
  | null : Json.Equal .null .null
  | bool (value : Bool) : Json.Equal (.bool value) (.bool value)
  | int (value : Int) : Json.Equal (.int value) (.int value)
  | float {x y : Binary64} (h : x.Equal y) : Json.Equal (.float x) (.float y)
  | str (value : String) : Json.Equal (.str value) (.str value)
  | arr {as bs : List Json} (h : Json.EqualElements as bs) : Json.Equal (.arr as) (.arr bs)
  | obj {ms ns : List (String × Json)} (h : Json.EqualMembers ms ns) :
      Json.Equal (.obj ms) (.obj ns)

/-- The elements are equal one by one. -/
inductive Json.EqualElements : List Json → List Json → Prop
  | nil : Json.EqualElements [] []
  | cons {a b : Json} {as bs : List Json} (h : Json.Equal a b) (hs : Json.EqualElements as bs) :
      Json.EqualElements (a :: as) (b :: bs)

/-- The members are equal one by one, with the same names. -/
inductive Json.EqualMembers : List (String × Json) → List (String × Json) → Prop
  | nil : Json.EqualMembers [] []
  | cons (name : String) {a b : Json} {ms ns : List (String × Json)} (h : Json.Equal a b)
      (hs : Json.EqualMembers ms ns) : Json.EqualMembers ((name, a) :: ms) ((name, b) :: ns)

end

/-- The decimals stand for the same number. -/
abbrev Decimal.Equal (a b : Decimal) : Prop := a.isEquiv b = true

/-- The tiers are equal. -/
structure TierConfig.Equal (t u : TierConfig) : Prop where
  value : t.value.Equal u.value
  pointsMultiplier : Option.Rel Decimal.Equal t.pointsMultiplier u.pointsMultiplier
  others : { t with value := .zero, pointsMultiplier := none } =
    { u with value := .zero, pointsMultiplier := none }

/-- The promotion without the settings that can be equal and yet be written in two ways. -/
def Promotion.writtenOneWay (p : Promotion) : Promotion :=
  { p with discountPercent := none, mixMatchRules := none, crossBrandRules := none, tiers := [] }

/-- The promotions are equal. -/
structure Promotion.Equal (p q : Promotion) : Prop where
  percent : Option.Rel Decimal.Equal p.discountPercent q.discountPercent
  mixMatchRules : Option.Rel Json.Equal p.mixMatchRules q.mixMatchRules
  crossBrandRules : Option.Rel Json.Equal p.crossBrandRules q.crossBrandRules
  tiers : List.Forall₂ TierConfig.Equal p.tiers q.tiers
  others : p.writtenOneWay = q.writtenOneWay

/-- Where the tiers count, the multipliers of loyalty points of active tiers are written with the
same places. -/
def Promotion.SameMultipliers (p q : Promotion) : Prop :=
  (Named.ofName? p.archetype : Option Archetype) = some .thresholdTier →
    List.Forall₂ (fun t u => t.isActive = true → t.kind = .pointsMultiplier →
      t.pointsMultiplier = u.pointsMultiplier) p.tiers q.tiers

/-! ## Decimals -/

namespace Decimal

/-- Of two decimals that stand for the same number one is the other with zeros added. -/
theorem Equal.zerosAdded {a b : Decimal} (h : a.Equal b) : a.ZerosAdded b ∨ b.ZerosAdded a := by
  have hpow : ∀ n, ((Nat.pow 10 n : Nat) : Int) = 10 ^ n := fun n => Int.natCast_pow 10 n
  have hvalue : a.coefficient * 10 ^ b.scale = b.coefficient * 10 ^ a.scale := by
    rw [← hpow, ← hpow]
    exact of_decide_eq_true h
  have hadded : ∀ {c d : Decimal}, c.scale ≤ d.scale →
      c.coefficient * 10 ^ d.scale = d.coefficient * 10 ^ c.scale → c.ZerosAdded d := by
    intro c d hscale hvalue
    have hne : (10 : Int) ^ c.scale ≠ 0 := by positivity
    refine ⟨d.scale - c.scale, by omega, ?_⟩
    refine Int.eq_of_mul_eq_mul_right hne ?_
    rw [← hvalue, Int.mul_assoc, ← pow_add, Nat.sub_add_cancel hscale]
  rcases Nat.le_total a.scale b.scale with hscale | hscale
  · exact Or.inl (hadded hscale hvalue)
  · exact Or.inr (hadded hscale hvalue.symm)

theorem Equal.isZero_eq {a b : Decimal} (h : a.Equal b) : a.isZero = b.isZero :=
  h.zerosAdded.elim Decimal.isZero_eq fun h => (Decimal.isZero_eq h).symm

end Decimal

namespace Setting

variable {setting : String} {a b : Decimal}

theorem percentPoints_of_equal (h : a.Equal b) :
    SameAnswer (percentPoints setting a) (percentPoints setting b) :=
  h.zerosAdded.elim percentPoints_sameAnswer fun h => (percentPoints_sameAnswer h).symm

theorem wholeMinor_of_equal (h : a.Equal b) :
    SameAnswer (wholeMinor setting a) (wholeMinor setting b) :=
  h.zerosAdded.elim wholeMinor_sameAnswer fun h => (wholeMinor_sameAnswer h).symm

end Setting

/-! ## Tiers -/

theorem TierConfig.Equal.tier_sameAnswer {t u : TierConfig} (h : t.Equal u)
    (hmultiplier : t.kind = .pointsMultiplier → t.pointsMultiplier = u.pointsMultiplier) :
    SameAnswer t.tier u.tier := by
  obtain ⟨hvalue, -, hothers⟩ := h
  obtain ⟨name, order, least, greatest, kind, value, product, multiplier, isActive⟩ := t
  obtain ⟨name', order', least', greatest', kind', value', product', multiplier', isActive'⟩ := u
  obtain ⟨rfl, rfl, rfl, rfl, rfl, -, rfl, -, rfl⟩ := TierConfig.mk.inj hothers
  have hbenefit :
      SameAnswer (TierConfig.benefit ⟨name, order, least, greatest, kind, value, product,
          multiplier, isActive⟩)
        (TierConfig.benefit ⟨name, order, least, greatest, kind, value', product, multiplier',
          isActive⟩) := by
    cases kind with
    | percent => exact (Setting.percentPoints_of_equal hvalue).map _
    | amount => exact (Setting.wholeMinor_of_equal hvalue).map _
    | freeProduct => exact .refl _
    | pointsMultiplier =>
      obtain rfl : multiplier = multiplier' := hmultiplier rfl
      exact .refl _
  exact hbenefit.bind fun _ => .refl _

/-- Equal tiers are active together. -/
theorem TierConfig.Equal.isActive_eq {t u : TierConfig} (h : t.Equal u) :
    t.isActive = u.isActive := by
  obtain ⟨-, -, -, -, -, -, -, -, hactive⟩ := TierConfig.mk.inj h.others
  exact hactive

theorem ThresholdTier.ofActive_of_equal {tiers tiers' : List TierConfig}
    (h : List.Forall₂ TierConfig.Equal tiers tiers')
    (hmultipliers : List.Forall₂ (fun t u => t.isActive = true → t.kind = .pointsMultiplier →
      t.pointsMultiplier = u.pointsMultiplier) tiers tiers') :
    SameAnswer (ofActive (tiers.filter (·.isActive))) (ofActive (tiers'.filter (·.isActive))) := by
  have htiers : List.Forall₂ (fun t u => SameAnswer t.tier (TierConfig.tier u))
      (tiers.filter (·.isActive)) (tiers'.filter (·.isActive)) := by
    induction h with
    | nil => exact List.Forall₂.nil
    | cons htier _ ih =>
      cases hmultipliers with
      | cons hmultiplier hmultipliers =>
        rw [List.filter_cons, List.filter_cons, ← htier.isActive_eq]
        split
        · rename_i hactive
          exact .cons (htier.tier_sameAnswer (hmultiplier hactive)) (ih hmultipliers)
        · exact ih hmultipliers
  exact (SameAnswer.mapM htiers).bind fun _ => .refl _

/-! ## Settings in free form -/

namespace FreeForm

variable {j k : Json}

theorem count_of_equal (h : j.Equal k) : SameAnswer (count j) (count k) := by
  cases h with
  | null | bool | int | str => exact .refl _
  | float | arr | obj => exact .of_errors _ _

theorem amount_of_equal (h : j.Equal k) : SameAnswer (amount j) (amount k) := by
  cases h with
  | null | bool | int | str => exact .refl _
  | float | arr | obj => exact .of_errors _ _

theorem bool_of_equal (h : j.Equal k) : SameAnswer (bool j) (bool k) := by
  cases h with
  | null | bool | int | str => exact .refl _
  | float | arr | obj => exact .of_errors _ _

theorem id_of_equal {kind : Kind} (h : j.Equal k) :
    SameAnswer (id j : Except Error (Id kind)) (id k) := by
  cases h with
  | null | bool | int | str => exact .refl _
  | float | arr | obj => exact .of_errors _ _

theorem optional_of_equal {α : Type} {readValue : Json → Except Error α} (h : j.Equal k)
    (hread : SameAnswer (readValue j) (readValue k)) :
    SameAnswer (optional readValue j) (optional readValue k) := by
  cases h with
  | null => exact .refl _
  | bool | int | float | str | arr | obj => exact hread.map _

/-- How one member is taken up does not depend on how its value is written. -/
def RespectsEqual {σ : Type} (set : σ → String → Json → Except Error σ) : Prop :=
  ∀ s name j k, Json.Equal j k → SameAnswer (set s name j) (set s name k)

theorem respectsEqual_groupRules : RespectsEqual GroupRules.set := by
  intro r name j k h
  unfold GroupRules.set
  split
  · exact (optional_of_equal h (id_of_equal h)).bind fun _ => .refl _
  · exact (count_of_equal h).bind fun _ => .refl _
  · exact (optional_of_equal h (amount_of_equal h)).bind fun _ => .refl _
  · exact (bool_of_equal h).bind fun _ => .refl _
  · exact .refl _

theorem respectsEqual_crossBrandRules : RespectsEqual CrossBrandRules.set := by
  intro r name j k h
  unfold CrossBrandRules.set
  split
  · exact (count_of_equal h).bind fun _ => .refl _
  · exact .refl _

section Read

variable {σ : Type} {set : σ → String → Json → Except Error σ}

theorem readMembers_of_equal (hset : RespectsEqual set) {ms ns : List (String × Json)}
    (h : Json.EqualMembers ms ns) (s : σ) :
    SameAnswer (readMembers set s ms) (readMembers set s ns) := by
  induction ms generalizing s ns with
  | nil =>
    cases h
    exact .refl _
  | cons m ms ih =>
    cases h with
    | cons name hvalue hrest =>
      simp only [readMembers, List.foldlM_cons]
      exact (hset s name _ _ hvalue).bind fun t => ih hrest t

theorem equalMembers_zip {as bs : List Json} (h : Json.EqualElements as bs) (names : List String) :
    Json.EqualMembers (names.zip as) (names.zip bs) := by
  induction names generalizing as bs with
  | nil => exact .nil
  | cons name names ih =>
    cases h with
    | nil => exact .nil
    | cons hvalue hrest => exact .cons name hvalue (ih hrest)

theorem length_eq_of_equalElements {as bs : List Json} (h : Json.EqualElements as bs) :
    as.length = bs.length := by
  induction as generalizing bs with
  | nil =>
    cases h
    rfl
  | cons a as ih =>
    cases h with
    | cons _ hrest => rw [List.length_cons, List.length_cons, ih hrest]

theorem read_of_equal (hset : RespectsEqual set) (h : j.Equal k) (shape : Shape)
    (names : List String) (defaults : σ) :
    SameAnswer (read shape names set defaults j) (read shape names set defaults k) := by
  cases h with
  | null | bool | int | str => exact .refl _
  | float => exact .of_errors _ _
  | obj h => exact readMembers_of_equal hset h defaults
  | arr h =>
    rw [read, read, length_eq_of_equalElements h]
    exact (readMembers_of_equal hset (equalMembers_zip h names) defaults).bind fun _ => .refl _

end Read

end FreeForm

/-! ## Promotions -/

namespace Promotion

variable {p q : Promotion}

theorem percent?_of_equal (h : Option.Rel Decimal.Equal p.discountPercent q.discountPercent) :
    SameAnswer p.percent? q.percent? := by
  rw [percent?, percent?]
  generalize p.discountPercent = a, q.discountPercent = b at h
  cases h with
  | none => exact .refl _
  | some hpoints =>
    simp only [hpoints.isZero_eq]
    split
    · exact .refl _
    · exact (Setting.percentPoints_of_equal hpoints).map some

theorem mixMatch_of_equal (h : Option.Rel Json.Equal p.mixMatchRules q.mixMatchRules) :
    SameAnswer p.mixMatch q.mixMatch := by
  rw [mixMatch, mixMatch]
  generalize p.mixMatchRules = a, q.mixMatchRules = b at h
  cases h with
  | none => exact .refl _
  | @some j k h =>
    have hnull : j.isNull = k.isNull := by cases h <;> rfl
    have hread : SameAnswer (FreeForm.GroupRules.read j) (FreeForm.GroupRules.read k) :=
      FreeForm.read_of_equal FreeForm.respectsEqual_groupRules h _ _ _
    simp only [Setting.require, ok_bind, hnull]
    split
    · exact .refl _
    · obtain ⟨rules, hj, hk⟩ | ⟨e, e', hj, hk⟩ := hread.ok_or_error
      · rw [hj, hk]
      · rw [hj, hk]
        exact .of_errors _ _

theorem acrossBrands_of_equal (h : Option.Rel Json.Equal p.crossBrandRules q.crossBrandRules) :
    SameAnswer p.acrossBrands q.acrossBrands := by
  rw [acrossBrands, acrossBrands]
  generalize p.crossBrandRules = a, q.crossBrandRules = b at h
  cases h with
  | none => exact .refl _
  | @some j k h =>
    have hread : SameAnswer (FreeForm.CrossBrandRules.read j) (FreeForm.CrossBrandRules.read k) :=
      FreeForm.read_of_equal FreeForm.respectsEqual_crossBrandRules h _ _ _
    cases h with
    | null => exact .refl _
    | bool | int | str => exact .refl _
    | float | arr | obj =>
      dsimp only
      obtain ⟨rules, hj, hk⟩ | ⟨e, e', hj, hk⟩ := hread.ok_or_error
      · rw [hj, hk]
      · rw [hj, hk]
        exact .of_errors _ _

/-- The promotion with its free-form settings as another writes them, and with other tiers. -/
def rewritten (q : Promotion) (mixMatchRules crossBrandRules : Option Json)
    (tiers : List TierConfig) : Promotion :=
  { q with mixMatchRules, crossBrandRules, tiers }

section Rewritten

variable {rules acrossBrands : Option Json} {tiers : List TierConfig}

theorem rule_rewritten (hrules : Option.Rel Json.Equal rules q.mixMatchRules)
    (htiers : (Named.ofName? q.archetype : Option Archetype) = some .thresholdTier →
      tiers = q.tiers) :
    SameAnswer (q.rewritten rules acrossBrands tiers).rule q.rule := by
  have harchetype : (q.rewritten rules acrossBrands tiers).archetype = q.archetype := rfl
  rw [rule, rule, harchetype]
  cases harchetype : (Named.ofName? q.archetype : Option Archetype) with
  | none => exact .refl _
  | some archetype =>
    cases archetype with
    | mixMatch =>
      exact (mixMatch_of_equal (p := q.rewritten rules acrossBrands tiers) hrules).map _
    | thresholdTier =>
      obtain rfl := htiers harchetype
      exact .refl _
    | percentDiscount | amountDiscount | buyXGetY | combo | freeItem | happyHour | cashback
    | paymentDiscount | package | upsell => exact .refl _

theorem crossBrand?_rewritten (h : Option.Rel Json.Equal acrossBrands q.crossBrandRules) :
    SameAnswer (q.rewritten rules acrossBrands tiers).crossBrand? q.crossBrand? := by
  rw [crossBrand?, crossBrand?]
  show SameAnswer (if q.isCrossBrand then _ else _) _
  split
  · refine (SameAnswer.refl _).bind fun kind => ?_
    show SameAnswer (if kind = .triggerBenefit ∧ q.triggerBrands.isEmpty = true then _ else _) _
    split
    · exact .refl _
    · exact (acrossBrands_of_equal (p := q.rewritten rules acrossBrands tiers) h).bind fun _ =>
        .refl _
  · exact .refl _

end Rewritten

/-- What is made of settings that are written in one way is the same. -/
theorem Equal.eq {α : Type} (h : p.Equal q) (f : Promotion → α)
    (hf : ∀ p, f p.writtenOneWay = f p) : f p = f q := by
  rw [← hf p, h.others, hf q]

/-- The settings of equal promotions come to the same, once their free-form settings, and their
tiers if these do not count, are written the same. -/
theorem Equal.sameSettings (h : p.Equal q) (hmultipliers : p.SameMultipliers q) :
    ∃ tiers, ((Named.ofName? q.archetype : Option Archetype) = some .thresholdTier →
        tiers = q.tiers) ∧
      SameSettings p (q.rewritten p.mixMatchRules p.crossBrandRules tiers) := by
  have harchetype : p.archetype = q.archetype := h.eq _ fun _ => rfl
  obtain ⟨tiers, hcount, htiers⟩ : ∃ tiers,
      ((Named.ofName? q.archetype : Option Archetype) = some .thresholdTier → tiers = q.tiers) ∧
        SameAnswer p.thresholdTier
          (q.rewritten p.mixMatchRules p.crossBrandRules tiers).thresholdTier := by
    by_cases hthreshold : (Named.ofName? q.archetype : Option Archetype) = some .thresholdTier
    · refine ⟨q.tiers, fun _ => rfl, ?_⟩
      rw [thresholdTier_eq, thresholdTier_eq]
      exact ThresholdTier.ofActive_of_equal h.tiers (hmultipliers (harchetype ▸ hthreshold))
    · exact ⟨p.tiers, fun hthreshold' => absurd hthreshold' hthreshold, .refl _⟩
  have huntouched : p.untouched =
      (q.rewritten p.mixMatchRules p.crossBrandRules tiers).untouched :=
    congrArg (fun r => (r.rewritten p.mixMatchRules p.crossBrandRules []).untouched) h.others
  refine ⟨tiers, hcount, ?_⟩
  exact {
    untouched := huntouched
    percent := percent?_of_equal h.percent
    amount := h.eq Promotion.amount? fun _ => rfl
    cap := h.eq Promotion.cap? fun _ => rfl
    buyQuantity := h.eq (fun r => Count.positive? r.buyQuantity) fun _ => rfl
    getQuantity := h.eq (fun r => Count.positive? r.getQuantity) fun _ => rfl
    comboPrice := h.eq (fun r => Setting.positive? "combo_price" r.comboPrice) fun _ => rfl
    comboProducts := fun product => iff_of_eq (h.eq (product ∈ ·.comboProducts) fun _ => rfl)
    happyHourPrice :=
      h.eq (fun r => Setting.positive? "happy_hour_price" r.happyHourPrice) fun _ => rfl
    paymentMethods := h.eq (fun r => Setting.canonicalSet r.paymentMethods) fun _ => rfl
    triggerMinAmount :=
      h.eq (fun r => Setting.positive? "trigger_min_amount" r.triggerMinAmount) fun _ => rfl
    memberTiers := h.eq (fun r => Setting.canonicalSet r.memberTiers) fun _ => rfl
    weekdays := .of_eq (h.eq Promotion.weekdays fun _ => rfl)
    limits := h.eq Promotion.limits fun _ => rfl
    salesChannels := h.eq (fun r => Setting.canonicalSet r.salesChannels) fun _ => rfl
    excludeChannels := h.eq (fun r => Setting.canonicalSet r.excludeChannels) fun _ => rfl
    setMenu := h.eq Promotion.setMenu fun _ => rfl
    thresholdTier := htiers }

end Promotion

/-! ## Documents -/

namespace Compiler

variable {p q : Promotion}

theorem compile_rewritten (c : Compiler) {rules acrossBrands : Option Json}
    {tiers : List TierConfig} (hrules : Option.Rel Json.Equal rules q.mixMatchRules)
    (hacross : Option.Rel Json.Equal acrossBrands q.crossBrandRules)
    (htiers : (Named.ofName? q.archetype : Option Archetype) = some .thresholdTier →
      tiers = q.tiers) (compiledAt : Timestamp) :
    SameAnswer (c.compile (q.rewritten rules acrossBrands tiers) compiledAt)
      (c.compile q compiledAt) := by
  rw [compile, compile]
  exact (Promotion.rule_rewritten hrules htiers).bind fun _ => (SameAnswer.refl _).bind fun _ =>
    (SameAnswer.refl _).bind fun _ => (SameAnswer.refl _).bind fun _ =>
    (SameAnswer.refl _).bind fun _ => (Promotion.crossBrand?_rewritten hacross).bind fun _ =>
    .refl _

/-- Equal promotions compile alike if the multipliers of their tiers are written with the same
places. -/
theorem compile_of_equal (c : Compiler) (h : p.Equal q) (hmultipliers : p.SameMultipliers q)
    (compiledAt : Timestamp) :
    SameAnswer (c.compile p compiledAt) (c.compile q compiledAt) := by
  obtain ⟨tiers, hcount, hsame⟩ := h.sameSettings hmultipliers
  exact (c.compile_sameAnswer_of_sameSettings hsame compiledAt).trans
    (c.compile_rewritten h.mixMatchRules h.crossBrandRules hcount compiledAt)

/-- Of equal promotions whose multipliers are written with the same places one compiles if the other
does, at whatever time, with the same fingerprint. So where terminals know the fingerprint of one,
compiling the other again counts it as unchanged and sends nothing. -/
theorem recompile_of_equal (c : Compiler) {p q : Promotion} (h : p.Equal q)
    (hmultipliers : p.SameMultipliers q) (compiledAt otherTime : Timestamp) :
    ((∃ d, c.compile p compiledAt = .ok d) ↔ ∃ e, c.compile q otherTime = .ok e) ∧
      ∀ d e, c.compile p compiledAt = .ok d → c.compile q otherTime = .ok e →
        d.fingerprint = e.fingerprint ∧
        ∀ known : Fingerprints, known.find? p.id = some d.fingerprint →
          ∀ promotions, q ∈ promotions →
            e ∉ (c.recompile known promotions otherTime).changed ∧
            q.id ∈ (c.recompile known promotions otherTime).unchanged := by
  have hsame := c.compile_of_equal h hmultipliers compiledAt
  have hcompiles : (∃ d, c.compile q compiledAt = .ok d) ↔ ∃ e, c.compile q otherTime = .ok e := by
    rw [c.compile_eq_map q compiledAt otherTime]
    simp only [map_eq_ok_iff]
    exact ⟨fun ⟨d, hd⟩ => ⟨_, d, hd, rfl⟩, fun ⟨_, d, hd, _⟩ => ⟨d, hd⟩⟩
  refine ⟨(exists_congr hsame).trans hcompiles, fun d e hd he => ?_⟩
  have hfingerprint : d.fingerprint = e.fingerprint := by
    obtain ⟨f, hf, hsame⟩ := (fingerprinted_of_compile ((hsame d).1 hd)).always otherTime
    obtain rfl : f = e := Except.ok.inj (hf.symm.trans he)
    exact hsame.symm
  refine ⟨hfingerprint, fun known hknown promotions hq => ?_⟩
  have hid : e.id = q.id := (compiles_of_compile he).id
  have hknows : known.find? e.id = some e.fingerprint := by
    rw [hid, ← h.eq Promotion.id fun _ => rfl, hknown, hfingerprint]
  have hfresh : e ∈ c.freshDocuments promotions otherTime :=
    mem_freshDocuments_iff.2 ⟨q, hq, he⟩
  refine ⟨fun hchanged => (mem_changed_iff.1 hchanged).2 hknows, ?_⟩
  rw [← hid]
  refine SortedSet.mem_ofList.2 (List.mem_map_of_mem (List.mem_filter.2 ⟨hfresh, ?_⟩))
  exact decide_eq_true hknows

end Compiler

namespace Sample

theorem equal_ladder :
    (storedLadder [0] none [ten, gift]).Equal (storedLadder [0] none [wholeTen, gift]) where
  percent := .none
  mixMatchRules := .none
  crossBrandRules := .none
  tiers := .cons ⟨by decide, .none, rfl⟩ (.cons ⟨by decide, .none, rfl⟩ .nil)
  others := rfl

/-- A ladder with a multiplier of loyalty points. -/
def pointsLadder (multiplier : Decimal) : Promotion :=
  storedLadder [] none [{ gift with kind := .pointsMultiplier, pointsMultiplier := some multiplier }]

theorem equal_pointsLadder : (pointsLadder ⟨2, 0, by decide, by decide⟩).Equal
    (pointsLadder ⟨20, 1, by decide, by decide⟩) where
  percent := .none
  mixMatchRules := .none
  crossBrandRules := .none
  tiers := .cons ⟨by decide, .some (by decide), rfl⟩ .nil
  others := rfl

end Sample

theorem Compiler.recompile_of_equal_shop :
    ∃ p q, Promotion.Equal p q ∧ p ≠ q ∧ p.SameMultipliers q ∧
      ∃ d e, Sample.compiler.compile p .epoch = .ok d ∧ Sample.compiler.compile q .epoch = .ok e ∧
        ∃ known : Fingerprints, known.find? p.id = some d.fingerprint ∧
          q.id ∈ (Sample.compiler.recompile known [q] .epoch).unchanged := by
  have hmultipliers : (Sample.storedLadder [0] none [Sample.ten, Sample.gift]).SameMultipliers
      (Sample.storedLadder [0] none [Sample.wholeTen, Sample.gift]) :=
    fun _ => .cons (fun _ => by decide) (.cons (fun _ => by decide) .nil)
  obtain ⟨-, hsame⟩ :=
    Sample.compiler.recompile_of_equal Sample.equal_ladder hmultipliers .epoch .epoch
  obtain ⟨d, hd⟩ : ∃ d, Sample.compiler.compile
    (Sample.storedLadder [0] none [Sample.ten, Sample.gift]) .epoch = .ok d := ⟨_, rfl⟩
  obtain ⟨e, he⟩ : ∃ e, Sample.compiler.compile
    (Sample.storedLadder [0] none [Sample.wholeTen, Sample.gift]) .epoch = .ok e := ⟨_, rfl⟩
  obtain ⟨-, hknown⟩ := hsame d e hd he
  have hfind : (SortedMap.empty.insert (Sample.id 1) d.fingerprint : Fingerprints).find?
      (Sample.id 1) = some d.fingerprint := by
    rw [SortedMap.find?_insert, if_pos rfl]
  have hdiffer : Sample.ten.value ≠ Sample.wholeTen.value := by decide
  exact ⟨_, _, Sample.equal_ladder,
    fun h => hdiffer (congrArg (fun p => (p.tiers.headD Sample.gift).value) h), hmultipliers, d, e,
    hd, he, _, hfind, (hknown _ hfind _ List.mem_cons_self).2⟩

/-- A multiplier of two and one of two with a place are equal, and yet no hash that keeps apart what
it is given has one fingerprint for the documents. -/
theorem Compiler.multiplier_places_change_fingerprint :
    ∃ p q, Promotion.Equal p q ∧
      ∃ d e, Sample.compiler.compile p .epoch = .ok d ∧ Sample.compiler.compile q .epoch = .ok e ∧
        ∀ hash : List UInt8 → List UInt8, Function.Injective hash →
          d.fingerprintWith hash ≠ e.fingerprintWith hash := by
  have htwo : (Sample.pointsLadder ⟨2, 0, by decide, by decide⟩).rule =
      .ok (.thresholdTier ⟨[⟨"gift", 0, Sample.amount 200, none,
        .pointsMultiplier ⟨2, 0, by decide, by decide⟩⟩]⟩) := by
    cbv
  have hplaces : (Sample.pointsLadder ⟨20, 1, by decide, by decide⟩).rule =
      .ok (.thresholdTier ⟨[⟨"gift", 0, Sample.amount 200, none,
        .pointsMultiplier ⟨20, 1, by decide, by decide⟩⟩]⟩) := by
    cbv
  obtain ⟨d, hd⟩ : ∃ d, Sample.compiler.compile
      (Sample.pointsLadder ⟨2, 0, by decide, by decide⟩) .epoch = .ok d := by
    rw [compile, htwo]
    exact ⟨_, rfl⟩
  obtain ⟨e, he⟩ : ∃ e, Sample.compiler.compile
      (Sample.pointsLadder ⟨20, 1, by decide, by decide⟩) .epoch = .ok e := by
    rw [compile, hplaces]
    exact ⟨_, rfl⟩
  have hrules : d.rule ≠ e.rule := by
    rw [← Except.ok.inj (htwo.symm.trans (compiles_of_compile hd).rule),
      ← Except.ok.inj (hplaces.symm.trans (compiles_of_compile he).rule)]
    decide
  refine ⟨_, _, Sample.equal_pointsLadder, d, e, hd, he, fun hash hinj hsame => hrules ?_⟩
  exact ((Document.fingerprintWith_eq_iff fun h => hinj h).1 hsame).rule

end Promotions

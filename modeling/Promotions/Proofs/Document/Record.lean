import Promotions.Document.Record
import Promotions.Proofs.Json.Codec

/-!
# Proofs: documents that come back from JSON

Each part of a document comes back from its JSON because its members do, and the document with it.
A rule is read through the name of its archetype and the members beside it, so that the twelve
shapes of rules are told apart before their members are looked for.
-/

namespace Promotions

open Json

/-! ## Alternatives known by name -/

instance : LawfulNamed Archetype where
  ofName?_name a := by cases a <;> decide

instance : LawfulNamed ApplyTo where
  ofName?_name a := by cases a <;> decide

instance : LawfulNamed CustomerType where
  ofName?_name a := by cases a <;> decide

instance : LawfulNamed CrossBrandType where
  ofName?_name a := by cases a <;> decide

instance : LawfulNamed Stage where
  ofName?_name a := by cases a <;> decide

instance : LawfulNamed ComponentKind where
  ofName?_name a := by cases a <;> decide

/-! ## Choices with a value beside the name -/

instance : LawfulCodec DiscountValue where
  readJson?_toJson reading v := by
    unfold instJsonCodecDiscountValue
    cases v <;> simp [tagged, tagged?, name?]

instance (depth : Nat) : Shallow (depth + 1) DiscountValue where
  readable_toJson v := by
    cases v <;> exact .obj (by simp [Readable.str])

instance : LawfulCodec HappyHourPricing where
  readJson?_toJson reading v := by
    unfold instJsonCodecHappyHourPricing
    cases v <;> simp [tagged, tagged?, name?]

instance (depth : Nat) : Shallow (depth + 1) HappyHourPricing where
  readable_toJson v := by
    cases v <;> exact .obj (by simp [Readable.str])

instance : LawfulCodec TierBenefit where
  readJson?_toJson reading v := by
    unfold instJsonCodecTierBenefit
    cases v <;> simp [tagged, tagged?, name?]

instance (depth : Nat) : Shallow (depth + 1) TierBenefit where
  readable_toJson v := by
    cases v <;> exact .obj (by simp [Readable.str])

instance : LawfulCodec StoreScope where
  readJson?_toJson reading v := by
    unfold instJsonCodecStoreScope
    cases v <;> simp [tagged, tagged?, name?, isBare]

instance (depth : Nat) : Shallow (depth + 2) StoreScope where
  readable_toJson v := by
    cases v <;> exact .obj (by simp [Readable.str])

instance : LawfulCodec BrandCoverage where
  readJson?_toJson reading v := by
    unfold instJsonCodecBrandCoverage
    cases v <;> simp [tagged, tagged?, name?, isBare]

instance (depth : Nat) : Shallow (depth + 2) BrandCoverage where
  readable_toJson v := by
    cases v <;> exact .obj (by simp [Readable.str])

/-! ## Records -/

instance : LawfulCodec TimeWindow where
  readJson?_toJson reading r := by
    unfold instJsonCodecTimeWindow
    simp

instance (depth : Nat) : Shallow (depth + 1) TimeWindow where
  readable_toJson r := .obj (by simp)

instance : NeverNull TimeWindow where
  toJson_ne_null _ := by rintro ⟨⟩

instance : LawfulCodec WeekdaySet where
  readJson?_toJson reading s := by
    unfold WeekdaySet.instJsonCodec
    simp

instance (depth : Nat) : Shallow (depth + 1) WeekdaySet where
  readable_toJson s := Shallow.readable_toJson s.offsets

instance : LawfulCodec Tier where
  readJson?_toJson reading r := by
    unfold instJsonCodecTier
    simp

instance (depth : Nat) : Shallow (depth + 2) Tier where
  readable_toJson r := .obj (by simp)

instance : LawfulCodec Component where
  readJson?_toJson reading r := by
    unfold instJsonCodecComponent
    simp

instance (depth : Nat) : Shallow (depth + 1) Component where
  readable_toJson r := .obj (by simp)

instance : LawfulCodec Validity where
  readJson?_toJson reading r := by
    unfold instJsonCodecValidity
    simp

instance (depth : Nat) : Shallow (depth + 2) Validity where
  readable_toJson r := .obj (by simp)

instance : LawfulCodec Scope where
  readJson?_toJson reading r := by
    unfold instJsonCodecScope
    simp

instance (depth : Nat) : Shallow (depth + 3) Scope where
  readable_toJson r := .obj (by simp)

instance : LawfulCodec Targeting where
  readJson?_toJson reading r := by
    unfold instJsonCodecTargeting
    simp

instance (depth : Nat) : Shallow (depth + 2) Targeting where
  readable_toJson r := .obj (by simp)

instance : LawfulCodec Audience where
  readJson?_toJson reading r := by
    unfold instJsonCodecAudience
    simp

instance (depth : Nat) : Shallow (depth + 2) Audience where
  readable_toJson r := .obj (by simp)

instance : LawfulCodec Requirements where
  readJson?_toJson reading r := by
    unfold instJsonCodecRequirements
    simp

instance (depth : Nat) : Shallow (depth + 1) Requirements where
  readable_toJson r := .obj (by simp)

instance : LawfulCodec Limits where
  readJson?_toJson reading r := by
    unfold instJsonCodecLimits
    simp

instance (depth : Nat) : Shallow (depth + 1) Limits where
  readable_toJson r := .obj (by simp)

instance : LawfulCodec ConflictPolicy where
  readJson?_toJson reading r := by
    unfold instJsonCodecConflictPolicy
    simp

instance (depth : Nat) : Shallow (depth + 2) ConflictPolicy where
  readable_toJson r := .obj (by simp)

instance : LawfulCodec CrossBrand where
  readJson?_toJson reading r := by
    unfold instJsonCodecCrossBrand
    simp

instance : NeverNull CrossBrand where
  toJson_ne_null _ := by rintro ⟨⟩

instance (depth : Nat) : Shallow (depth + 2) CrossBrand where
  readable_toJson r := .obj (by simp)

/-! ## Rules -/

-- a rule has few members, so each is found by computing with their names
attribute [simp] Rule.archetype Rule.ofRecord? Rule.members
  PercentDiscount.ofRecord? PercentDiscount.members AmountDiscount.ofRecord? AmountDiscount.members
  BuyXGetY.ofRecord? BuyXGetY.members Combo.ofRecord? Combo.members
  FreeItem.ofRecord? FreeItem.members HappyHour.ofRecord? HappyHour.members
  Cashback.ofRecord? Cashback.members PaymentDiscount.ofRecord? PaymentDiscount.members
  Package.ofRecord? Package.members MixMatch.ofRecord? MixMatch.members
  Upsell.ofRecord? Upsell.members ThresholdTier.ofRecord? ThresholdTier.members

/-- The shape of an archetype is read from whatever record has the members of the rule. -/
theorem Rule.ofRecord?_archetype (r : Rule) {entries : List (String × Json)}
    (h : ∀ name, name ≠ "type" → find? name entries = last? name (membersAsRead r.members)) :
    Rule.ofRecord? .held (obj entries) r.archetype = some r := by
  cases r <;> simp [h]

/-- No rule has a member of its own that is called like its type. -/
theorem Rule.last?_type (r : Rule) : last? "type" (membersAsRead r.members) = none := by
  cases r <;> simp

instance : LawfulCodec Rule where
  readJson?_toJson reading r := by
    have hread : (toJson r).asRead = obj (orderMembers (("type", str (Named.name r.archetype)) ::
        membersAsRead r.members)) := rfl
    have hvariant := variant?_orderMembers r.last?_type (Named.name r.archetype)
    rw [hread]
    show ((variant? "type" _).bind fun form => (Named.ofName? form.1).bind fun archetype =>
      Rule.ofRecord? .held form.2 archetype) = some r
    rw [hvariant, Option.bind_some, LawfulNamed.ofName?_name, Option.bind_some]
    refine r.ofRecord?_archetype fun name hname => ?_
    rw [find?_filter_ne hname, find?_orderMembers, last?, if_neg hname.symm, Option.or_none]

instance (depth : Nat) : Shallow (depth + 4) Rule where
  readable_toJson r := by
    refine .obj (List.forall_mem_cons.2 ⟨.str _ _, ?_⟩)
    cases r <;> simp

/-! ## Documents -/

namespace Document

/-- The members of a document. -/
def members (d : Document) : List (String × Json) :=
  match toJson d with
  | .obj members => members
  | _ => []

/-- The members as they are read back. -/
def entries (d : Document) : List (String × Json) := orderMembers (membersAsRead d.members)

theorem nodup_names (d : Document) : (d.members.map (·.1)).Nodup := by
  obtain ⟨_, _, _, _, _, _, _, _, _, _, _, storeId, _⟩ := d
  cases storeId <;> exact of_decide_eq_true rfl

theorem find?_entries_of_mem {d : Document} {m : String × Json} (hm : m ∈ d.members) :
    find? m.1 d.entries = some m.2.asRead :=
  find?_orderMembers_of_mem d.nodup_names hm

/-- The store is read back also where it is left out. -/
theorem optional_storeId (d : Document) (reading : Reading) {β : Type}
    (next : Option StoreId → Option β) :
    (Json.optional ⟨reading, d.entries⟩ "store_id" >>= next) = next d.storeId := by
  cases hd : d.storeId with
  | none =>
    have hnone : find? "store_id" d.entries = none := by
      rw [entries, find?_orderMembers]
      refine last?_eq_none ?_
      rw [map_fst_membersAsRead]
      unfold members instJsonCodec
      simp only [hd]
      exact of_decide_eq_true rfl
    exact optional_bind_missing reading hnone next
  | some store =>
    have hmem : ("store_id", toJson store) ∈ d.members := by
      unfold members instJsonCodec
      simp [hd]
    exact optional_bind reading (o := some store) (find?_entries_of_mem hmem) next

-- a document has too many members for computing with all their names at each of them
instance : LawfulCodec Document where
  readJson?_toJson reading d := by
    have hfound : ∀ m ∈ d.members, find? m.1 d.entries = some m.2.asRead := fun _ =>
      find?_entries_of_mem
    have hstoreId := d.optional_storeId (β := Document) reading
    show readJson? reading (obj d.entries) = some d
    generalize d.entries = entries at hfound hstoreId ⊢
    unfold members instJsonCodec at hfound
    simp only [List.forall_mem_append, List.forall_mem_cons] at hfound
    obtain ⟨⟨⟨hid, hcode, hname, hdescription, hterms, hcompany, hbrand, hcurrency, hversion,
      hcompiledAt, hfingerprint, -⟩, -⟩, hrule, hvalidity, hscope, htargeting, haudience,
      hrequirements, hlimits, hconflict, hcrossBrand, -⟩ := hfound
    unfold instJsonCodec
    refine (record?_obj_bind reading entries _ _ _).trans ?_
    rw [required_bind reading hid, required_bind reading hcode, required_bind reading hname,
      defaulted_bind reading hdescription, defaulted_bind reading hterms,
      required_bind reading hcompany, optional_bind reading hbrand,
      required_bind reading hcurrency, required_bind reading hversion,
      required_bind reading hcompiledAt, defaulted_bind reading hfingerprint, hstoreId,
      required_bind reading hrule, required_bind reading hvalidity, required_bind reading hscope,
      required_bind reading htargeting, required_bind reading haudience,
      required_bind reading hrequirements, required_bind reading hlimits,
      required_bind reading hconflict, optional_bind reading hcrossBrand]
    rfl

instance (depth : Nat) : Shallow (depth + 5) Document where
  readable_toJson d := by
    obtain ⟨_, _, _, _, _, _, _, _, _, _, _, storeId, _⟩ := d
    cases storeId <;> exact .obj (by simp)

end Document

end Promotions

import Promotions.Id
import Promotions.Json.Record
import Promotions.Proofs.Json.Written
import Promotions.Proofs.Sorted
import Promotions.Proofs.Text.Calendar
import Promotions.Proofs.Text.Numbers

/-!
# Proofs: values that come back from JSON

A type whose values come back from the JSON they are written as, whatever way it is read, is lawful.
That is proved of a type from the types it is made of: a member of a record is found by its name,
where the text has been read and the members have been put in order.

How deep values nest is counted apart, because a reader of texts refuses what nests too deep. Leaves
may stand at any depth, and each list and each record is one deeper than what it holds.
-/

namespace Promotions

/-- Every value comes back from the JSON it is written as, once that has been read from its text. -/
class LawfulCodec (α : Type) [JsonCodec α] : Prop where
  readJson?_toJson (reading : Reading) (a : α) : readJson? reading (toJson a).asRead = some a

/-- Every value is written as JSON that can be read, where arrays and objects nest so deep. -/
class Shallow (depth : Nat) (α : Type) [JsonCodec α] : Prop where
  readable_toJson (a : α) : (toJson a).Readable depth

/-- No value is written as `null`, which therefore can stand for there being none. -/
class NeverNull (α : Type) [JsonCodec α] : Prop where
  toJson_ne_null (a : α) : toJson a ≠ .null

attribute [simp] LawfulCodec.readJson?_toJson Shallow.readable_toJson

/-- The value comes back from its text. -/
theorem ofText?_toText_bind {α : Type} [JsonCodec α] [LawfulCodec α]
    [Shallow Json.greatestDepth α] (a : α) :
    (Json.ofText? (toJson a).toText).bind ofJson? = some a := by
  rw [Json.ofText?_toText (Shallow.readable_toJson a), Option.bind_some, ofJson?,
    LawfulCodec.readJson?_toJson]

/-! ## Members of objects -/

namespace Json

/-- The last member of a name. -/
def last? (name : String) : List (String × Json) → Option Json
  | [] => none
  | (key, value) :: rest => (last? name rest).or (if key = name then some value else none)

-- a member of a record that is written out is found by computing with the names
attribute [simp] asRead membersAsRead last?

theorem find?_entries (name : String) (m : SortedMap String Json) :
    find? name m.entries = m.find? name := by
  rw [SortedMap.find?]
  induction m.entries with
  | nil => rfl
  | cons e entries ih =>
    rw [find?, List.find?_cons, ih]
    by_cases h : e.1 = name <;> simp [h]

theorem find?_foldl_insert (name : String) (m : SortedMap String Json) (ms : List (String × Json)) :
    find? name (ms.foldl (fun m e => m.insert e.1 e.2) m).entries =
      (last? name ms).or (find? name m.entries) := by
  induction ms generalizing m with
  | nil => rfl
  | cons e ms ih =>
    rw [List.foldl_cons, ih, last?, find?_entries, find?_entries, SortedMap.find?_insert]
    cases last? name ms with
    | some j => rfl
    | none => by_cases h : name = e.1 <;> simp [h, eq_comm]

/-- Of several members of one name the last is found when they have been put in order. -/
@[simp] theorem find?_orderMembers (name : String) (ms : List (String × Json)) :
    find? name (orderMembers ms) = last? name ms := by
  rw [orderMembers, SortedMap.ofList, find?_foldl_insert]
  exact Option.or_none

theorem last?_eq_none {name : String} {ms : List (String × Json)} (h : name ∉ ms.map (·.1)) :
    last? name ms = none := by
  induction ms with
  | nil => rfl
  | cons m ms ih =>
    rw [List.map_cons, List.mem_cons, not_or] at h
    rw [last?, ih h.2, if_neg (Ne.symm h.1), Option.or_none]

theorem map_fst_membersAsRead (ms : List (String × Json)) :
    (membersAsRead ms).map (·.1) = ms.map (·.1) := by
  induction ms with
  | nil => rfl
  | cons m ms ih => rw [membersAsRead, List.map_cons, List.map_cons, ih]

/-- Of members that are all called differently each is found by its name. -/
theorem find?_orderMembers_of_mem {ms : List (String × Json)} (hnames : (ms.map (·.1)).Nodup)
    {m : String × Json} (hm : m ∈ ms) :
    find? m.1 (orderMembers (membersAsRead ms)) = some m.2.asRead := by
  rw [find?_orderMembers]
  induction ms with
  | nil => cases hm
  | cons m' ms ih =>
    rw [List.map_cons, List.nodup_cons] at hnames
    rw [membersAsRead, last?]
    rcases List.mem_cons.1 hm with rfl | hm
    · rw [last?_eq_none (by rw [map_fst_membersAsRead]; exact hnames.1), if_pos rfl, Option.none_or]
    · rw [ih hnames.2 hm, Option.some_or]

/-- Leaving out the members of a name hides none of another name. -/
theorem find?_filter_ne {name tag : String} (h : name ≠ tag) (ms : List (String × Json)) :
    find? name (ms.filter fun m => m.1 ≠ tag) = find? name ms := by
  induction ms with
  | nil => rfl
  | cons m ms ih =>
    rw [List.filter_cons]
    by_cases htag : m.1 = tag
    · have hname : m.1 ≠ name := fun hname => h (hname.symm.trans htag)
      rw [if_neg (by simpa using htag), ih, find?, if_neg hname]
    · rw [if_pos (by simpa using htag), find?, find?, ih]

/-- The name of a form is found among its members if none of them is called like it. -/
theorem variant?_orderMembers {tag : String} {ms : List (String × Json)} (h : last? tag ms = none)
    (name : String) :
    variant? tag (obj (orderMembers ((tag, str name) :: ms))) =
      some (name, obj ((orderMembers ((tag, str name) :: ms)).filter fun m => m.1 ≠ tag)) := by
  rw [variant?, find?_orderMembers, last?, h]
  simp

/-! Each step of a reader of records has a lemma that says how it goes on. -/

section Members

variable {α : Type} [JsonCodec α] (reading : Reading) (ms : List (String × Json)) (name : String)

@[simp] theorem record?_obj_bind {β : Type} (names : List String) (needed : Nat)
    (next : Members → Option β) :
    (record? reading names needed (obj ms)).bind next = next ⟨reading, ms⟩ := by
  rw [record?, Option.bind_some]

/-- The value of a member that has been looked for, or what is taken if it is missing. -/
def memberOr (missing : Option α) : Option Json → Option α
  | some j => readJson? reading j
  | none => missing

@[simp] theorem required_eq :
    required (α := α) ⟨reading, ms⟩ name = memberOr reading none (find? name ms) := by
  rw [required]
  cases find? name ms <;> rfl

@[simp] theorem optional_eq :
    Json.optional (α := α) ⟨reading, ms⟩ name = memberOr reading (some none) (find? name ms) := by
  rw [Json.optional]
  cases find? name ms <;> rfl

@[simp] theorem defaulted_eq (value : α) :
    defaulted ⟨reading, ms⟩ name value = memberOr reading (some value) (find? name ms) := by
  rw [defaulted]
  cases find? name ms <;> rfl

@[simp] theorem memberOr_none_bind {β : Type} (missing : Option α) (next : α → Option β) :
    (memberOr reading missing none).bind next = missing.bind next := by
  rw [memberOr]

@[simp] theorem memberOr_toJson_bind [LawfulCodec α] {β : Type} (missing : Option α) (a : α)
    (next : α → Option β) :
    (memberOr reading missing (some (toJson a).asRead)).bind next = next a := by
  rw [memberOr, LawfulCodec.readJson?_toJson, Option.bind_some]

variable {ms name} {β : Type}

theorem required_bind [LawfulCodec α] {a : α} (h : find? name ms = some (toJson a).asRead)
    (next : α → Option β) : (required ⟨reading, ms⟩ name >>= next) = next a := by
  rw [required_eq, h, Option.bind_eq_bind, memberOr_toJson_bind]

theorem optional_bind [LawfulCodec (Option α)] {o : Option α}
    (h : find? name ms = some (toJson o).asRead) (next : Option α → Option β) :
    (Json.optional ⟨reading, ms⟩ name >>= next) = next o := by
  rw [optional_eq, h, Option.bind_eq_bind, memberOr_toJson_bind]

theorem optional_bind_missing (h : find? name ms = none) (next : Option α → Option β) :
    (Json.optional ⟨reading, ms⟩ name >>= next) = next none := by
  rw [optional_eq, h, Option.bind_eq_bind, memberOr_none_bind, Option.bind_some]

theorem defaulted_bind [LawfulCodec α] {a : α} (h : find? name ms = some (toJson a).asRead)
    (value : α) (next : α → Option β) :
    (defaulted ⟨reading, ms⟩ name value >>= next) = next a := by
  rw [defaulted_eq, h, Option.bind_eq_bind, memberOr_toJson_bind]

end Members

end Json

open Json

/-! ## Leaves -/

instance : LawfulCodec Bool where
  readJson?_toJson _ _ := rfl

instance (depth : Nat) : Shallow depth Bool where
  readable_toJson := .bool depth

instance : LawfulCodec String where
  readJson?_toJson _ _ := rfl

instance (depth : Nat) : Shallow depth String where
  readable_toJson := .str depth

theorem nat?_int {bound n : Nat} (h : n < bound) : nat? bound (.int n) = some n := by
  simp [nat?, int?, h]

instance : LawfulCodec UInt8 where
  readJson?_toJson _ n := by
    show (nat? UInt8.size (.int n.toNat)).map UInt8.ofNat = some n
    rw [nat?_int n.toNat_lt, Option.map_some, UInt8.ofNat_toNat]

instance (depth : Nat) : Shallow depth UInt8 where
  readable_toJson n := .int depth _ (by omega) (by have := n.toNat_lt; omega)

instance : LawfulCodec UInt16 where
  readJson?_toJson _ n := by
    show (nat? UInt16.size (.int n.toNat)).map UInt16.ofNat = some n
    rw [nat?_int n.toNat_lt, Option.map_some, UInt16.ofNat_toNat]

instance (depth : Nat) : Shallow depth UInt16 where
  readable_toJson n := .int depth _ (by omega) (by have := n.toNat_lt; omega)

instance : LawfulCodec UInt32 where
  readJson?_toJson _ n := by
    show (nat? UInt32.size (.int n.toNat)).map UInt32.ofNat = some n
    rw [nat?_int n.toNat_lt, Option.map_some, UInt32.ofNat_toNat]

instance (depth : Nat) : Shallow depth UInt32 where
  readable_toJson n := .int depth _ (by omega) (by have := n.toNat_lt; omega)

instance : NeverNull UInt32 where
  toJson_ne_null _ := by rintro ⟨⟩

instance : LawfulCodec Int32 where
  readJson?_toJson _ i := by
    have hrange : -2147483648 ≤ i.toInt ∧ i.toInt < 2147483648 := ⟨i.le_toInt, i.toInt_lt⟩
    show (int? (.int i.toInt)).bind _ = some i
    rw [int?, Option.bind_some, if_pos hrange, Int32.ofInt_toInt]

instance (depth : Nat) : Shallow depth Int32 where
  readable_toJson i := .int depth _ (by have := i.le_toInt; omega) (by have := i.toInt_lt; omega)

instance : LawfulCodec Amount where
  readJson?_toJson _ a := dif_pos ⟨a.lower, a.upper⟩

instance (depth : Nat) : Shallow depth Amount where
  readable_toJson a := .int depth _ a.lower (by have := a.upper; omega)

instance : NeverNull Amount where
  toJson_ne_null _ := by rintro ⟨⟩

instance : LawfulCodec Decimal where
  readJson?_toJson _ := Decimal.ofText?_toText

instance (depth : Nat) : Shallow depth Decimal where
  readable_toJson _ := .str depth _

section Id

variable {kind : Kind}

instance : LawfulCodec (Id kind) where
  readJson?_toJson reading id := by
    show (text? reading (.str id.toText)).bind Id.ofText? = some id
    rw [text?, Option.bind_some, Id.ofText?, Id.toText, Uuid.ofText?_toText, Option.map_some]

instance (depth : Nat) : Shallow depth (Id kind) where
  readable_toJson _ := .str depth _

instance : NeverNull (Id kind) where
  toJson_ne_null _ := by rintro ⟨⟩

end Id

instance : LawfulCodec Date where
  readJson?_toJson _ := Calendar.date?_writeDate

instance (depth : Nat) : Shallow depth Date where
  readable_toJson _ := .str depth _

instance : LawfulCodec Clock where
  readJson?_toJson _ := Calendar.clock?_writeClock

instance (depth : Nat) : Shallow depth Clock where
  readable_toJson _ := .str depth _

instance : LawfulCodec Timestamp where
  readJson?_toJson _ := Calendar.timestamp?_writeTimestamp

instance (depth : Nat) : Shallow depth Timestamp where
  readable_toJson _ := .str depth _

/-- Every alternative is found by its name. -/
class LawfulNamed (α : Type) [Named α] : Prop where
  ofName?_name (a : α) : Named.ofName? (Named.name a) = some a

section Named

variable {α : Type} [Named α]

instance [LawfulNamed α] : LawfulCodec α where
  readJson?_toJson reading a := by
    cases reading <;> exact LawfulNamed.ofName?_name a

instance (depth : Nat) : Shallow depth α where
  readable_toJson _ := .str depth _

end Named

/-! ## Collections -/

section Collections

variable {α : Type} [JsonCodec α]

theorem readList?_elementsAsRead [LawfulCodec α] (reading : Reading) (l : List α) :
    readList? reading (elementsAsRead (l.map toJson)) = some l := by
  induction l with
  | nil => rfl
  | cons a l ih => simp [elementsAsRead, readList?, ih]

instance [LawfulCodec α] : LawfulCodec (List α) where
  readJson?_toJson := readList?_elementsAsRead

instance (depth : Nat) [Shallow depth α] : Shallow (depth + 1) (List α) where
  readable_toJson l := .arr (by simp)

instance [Ordered α] [LawfulCodec α] : LawfulCodec (SortedSet α) where
  readJson?_toJson reading s := by
    show (readJson? reading (toJson s.toList).asRead).map SortedSet.ofList = some s
    rw [LawfulCodec.readJson?_toJson, Option.map_some, SortedSet.ofList_toList]

instance (depth : Nat) [Ordered α] [Shallow depth α] : Shallow (depth + 1) (SortedSet α) where
  readable_toJson s := by
    show (toJson s.toList).Readable (depth + 1)
    exact Shallow.readable_toJson s.toList

theorem asRead_ne_null {j : Json} (h : j ≠ .null) : j.asRead ≠ .null := by
  cases j with
  | null => exact absurd rfl h
  | bool | int | float | str | arr | obj => rintro ⟨⟩

instance [LawfulCodec α] [NeverNull α] : LawfulCodec (Option α) where
  readJson?_toJson reading o := by
    cases o with
    | none => rfl
    | some a =>
      have hread : readJson? (α := Option α) reading (toJson a).asRead =
          (readJson? reading (toJson a).asRead).map some := by
        cases hj : (toJson a).asRead with
        | null => exact absurd hj (asRead_ne_null (NeverNull.toJson_ne_null a))
        | bool | int | float | str | arr | obj => rfl
      show readJson? (α := Option α) reading (toJson a).asRead = some (some a)
      rw [hread, LawfulCodec.readJson?_toJson, Option.map_some]

instance (depth : Nat) [Shallow depth α] : Shallow depth (Option α) where
  readable_toJson o := by
    cases o with
    | none => exact .null depth
    | some a => exact Shallow.readable_toJson a

end Collections

end Promotions

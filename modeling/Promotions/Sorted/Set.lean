import Promotions.Sorted.Order

/-!
# Sorted sets

A set is the ascending list of its members. The order is part of the type, so two sets with the
same members are equal, and writing a set out and reading it back gives the same set.
-/

namespace Promotions

/-- A finite set, as the ascending list of its members. -/
structure SortedSet (α : Type) [Ordered α] where
  /-- The members, in ascending order. -/
  toList : List α
  /-- No member is repeated or out of order. -/
  sorted : toList.Pairwise fun a b => Ordered.before a b = true

namespace SortedSet

variable {α : Type} [Ordered α]

theorem ext {s t : SortedSet α} (h : s.toList = t.toList) : s = t := by
  cases s; cases t; simp_all

instance [DecidableEq α] : DecidableEq (SortedSet α) := fun s t =>
  decidable_of_iff (s.toList = t.toList) ⟨ext, fun h => h ▸ rfl⟩

/-- The set without members. -/
def empty : SortedSet α := ⟨[], .nil⟩

instance : Inhabited (SortedSet α) := ⟨empty⟩

/-- `a` put in its place in an ascending list, unless it is there already. -/
def insertInto (a : α) : List α → List α
  | [] => [a]
  | b :: rest =>
    if Ordered.before a b then a :: b :: rest
    else if Ordered.before b a then b :: insertInto a rest
    else b :: rest

theorem mem_insertInto {a c : α} {l : List α} : c ∈ insertInto a l ↔ c = a ∨ c ∈ l := by
  induction l with
  | nil => simp [insertInto]
  | cons b rest ih =>
    simp only [insertInto]
    split
    · simp
    · split
      · simp only [List.mem_cons, ih]
        constructor <;> rintro (h | h | h) <;> simp [h]
      · have : a = b := Ordered.eq_of_not_before (by simp_all) (by simp_all)
        subst this
        simp

theorem pairwise_insertInto {a : α} {l : List α}
    (h : l.Pairwise fun a b => Ordered.before a b = true) :
    (insertInto a l).Pairwise fun a b => Ordered.before a b = true := by
  induction l with
  | nil => simp [insertInto]
  | cons b rest ih =>
    obtain ⟨hb, hrest⟩ := List.pairwise_cons.1 h
    simp only [insertInto]
    split
    · rename_i hab
      refine List.pairwise_cons.2 ⟨fun c hc => ?_, h⟩
      rcases List.mem_cons.1 hc with rfl | hc
      · exact hab
      · exact Ordered.trans hab (hb c hc)
    · split
      · rename_i hba
        refine List.pairwise_cons.2 ⟨fun c hc => ?_, ih hrest⟩
        rcases mem_insertInto.1 hc with rfl | hc
        · exact hba
        · exact hb c hc
      · exact h

/-- The set with `a` added. -/
def insert (s : SortedSet α) (a : α) : SortedSet α :=
  ⟨insertInto a s.toList, pairwise_insertInto s.sorted⟩

/-- The set of the members of a list. -/
def ofList (l : List α) : SortedSet α := l.foldl insert empty

instance : Membership α (SortedSet α) := ⟨fun s a => a ∈ s.toList⟩

instance [DecidableEq α] (a : α) (s : SortedSet α) : Decidable (a ∈ s) :=
  inferInstanceAs (Decidable (a ∈ s.toList))

theorem mem_insert {s : SortedSet α} {a b : α} : b ∈ s.insert a ↔ b = a ∨ b ∈ s :=
  mem_insertInto

theorem mem_foldl_insert {s : SortedSet α} {l : List α} {a : α} :
    a ∈ l.foldl insert s ↔ a ∈ l ∨ a ∈ s := by
  induction l generalizing s with
  | nil => simp
  | cons b l ih =>
    rw [List.foldl_cons, ih, mem_insert, List.mem_cons]
    constructor
    · rintro (h | h | h) <;> simp [h]
    · rintro ((h | h) | h) <;> simp [h]

theorem mem_ofList {l : List α} {a : α} : a ∈ ofList l ↔ a ∈ l := by
  have hnone : a ∉ (empty : SortedSet α) := List.not_mem_nil
  rw [ofList, mem_foldl_insert]
  simp [hnone]

/-- The set has no members. -/
def isEmpty (s : SortedSet α) : Bool := s.toList.isEmpty

end SortedSet

end Promotions

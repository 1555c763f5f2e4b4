/-!
# Strict total orders

`Ordered` is the order by which sets and maps are kept sorted. It carries its laws, so that a
sorted list without repetitions is determined by its members.
-/

namespace Promotions

/-- A strict total order that can be decided. -/
class Ordered (α : Type) where
  /-- `a` comes before `b`. -/
  before : α → α → Bool
  /-- Nothing comes before itself. -/
  irrefl : ∀ a, before a a = false
  /-- The order is transitive. -/
  trans : ∀ {a b c}, before a b = true → before b c = true → before a c = true
  /-- Two things neither of which comes first are the same. -/
  eq_of_not_before : ∀ {a b}, before a b = false → before b a = false → a = b

namespace Ordered

variable {α : Type} [Ordered α]

theorem asymm {a b : α} (h : before a b = true) : before b a = false := by
  cases h' : before b a with
  | false => rfl
  | true => have := trans h h'; rw [irrefl] at this; cases this

theorem ne_of_before {a b : α} (h : before a b = true) : a ≠ b := by
  rintro rfl; rw [irrefl] at h; cases h

theorem not_before_trans {a b c : α} (h : before b a = false) (h' : before c b = false) :
    before c a = false := by
  cases hca : before c a with
  | false => rfl
  | true =>
    cases hab : before a b with
    | true => rw [trans hca hab] at h'; cases h'
    | false => rw [eq_of_not_before hab h] at hca; rw [hca] at h'; cases h'

/-- Things ordered through an injective map into an ordered type. -/
abbrev lift {β : Type} (key : β → α) (inj : ∀ {a b}, key a = key b → a = b) : Ordered β where
  before a b := before (key a) (key b)
  irrefl a := irrefl (key a)
  trans := trans
  eq_of_not_before h h' := inj (eq_of_not_before h h')

end Ordered

instance : Ordered Nat where
  before a b := decide (a < b)
  irrefl a := by simp
  trans h h' := by simp_all; omega
  eq_of_not_before h h' := by simp_all; omega

instance : Ordered Int where
  before a b := decide (a < b)
  irrefl a := by simp
  trans h h' := by simp_all; omega
  eq_of_not_before h h' := by simp_all; omega

/-- Texts are ordered by their characters' code points, which is the order of their bytes. -/
instance : Ordered String where
  before a b := decide (a < b)
  irrefl a := decide_eq_false (String.lt_irrefl a)
  trans h h' := by simp only [decide_eq_true_eq] at *; exact String.lt_trans h h'
  eq_of_not_before h h' := by
    simp only [decide_eq_false_iff_not, String.not_lt] at *
    exact String.le_antisymm h' h

end Promotions

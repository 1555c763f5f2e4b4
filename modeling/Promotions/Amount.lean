/-!
# Amounts of money

Every price, discount and total is a whole number of minor units that fits sixty-four signed bits.
The bounds are part of the type, so arithmetic is done on the integers and comes back through one
of two doors: `Amount.checked`, which fails when the exact result does not fit, and
`Amount.saturate`, which takes the nearest amount that does.
-/

namespace Promotions

/-- Why a calculation with amounts has no answer. -/
inductive ArithmeticError where
  /-- The exact result does not fit an amount. -/
  | overflow
  /-- A percentage of an amount does not fit an amount. -/
  | percentConversion
  deriving DecidableEq, Repr

namespace ArithmeticError

/-- The short name of the error. -/
def kind : ArithmeticError → String
  | overflow => "overflow"
  | percentConversion => "percent_conversion"

/-- The wording of the error. -/
def message : ArithmeticError → String
  | overflow => "amount arithmetic overflowed"
  | percentConversion => "percentage conversion overflowed or was not finite"

end ArithmeticError

/-- A whole number of minor units that fits sixty-four signed bits. -/
structure Amount where
  /-- The number of minor units. -/
  toInt : Int
  /-- The least amount is `-2 ^ 63`. -/
  lower : -9223372036854775808 ≤ toInt
  /-- The greatest amount is `2 ^ 63 - 1`. -/
  upper : toInt < 9223372036854775808
  deriving DecidableEq, Repr

namespace Amount

theorem ext {a b : Amount} (h : a.toInt = b.toInt) : a = b := by
  cases a; cases b; simp_all

theorem toInt_inj {a b : Amount} : a.toInt = b.toInt ↔ a = b :=
  ⟨ext, fun h => h ▸ rfl⟩

/-- No money. -/
def zero : Amount := ⟨0, by decide, by decide⟩

instance : OfNat Amount 0 := ⟨zero⟩

instance : Inhabited Amount := ⟨0⟩

@[simp] theorem toInt_zero : (0 : Amount).toInt = 0 := rfl

instance : LE Amount := ⟨fun a b => a.toInt ≤ b.toInt⟩

instance : LT Amount := ⟨fun a b => a.toInt < b.toInt⟩

instance (a b : Amount) : Decidable (a ≤ b) := inferInstanceAs (Decidable (a.toInt ≤ b.toInt))

instance (a b : Amount) : Decidable (a < b) := inferInstanceAs (Decidable (a.toInt < b.toInt))

instance : Min Amount := minOfLe

instance : Max Amount := maxOfLe

theorem le_iff {a b : Amount} : a ≤ b ↔ a.toInt ≤ b.toInt := Iff.rfl

theorem lt_iff {a b : Amount} : a < b ↔ a.toInt < b.toInt := Iff.rfl

theorem toInt_min (a b : Amount) : (min a b).toInt = min a.toInt b.toInt := by
  show (if a ≤ b then a else b).toInt = _
  split <;> simp_all only [le_iff] <;> omega

theorem toInt_max (a b : Amount) : (max a b).toInt = max a.toInt b.toInt := by
  show (if a ≤ b then b else a).toInt = _
  split <;> simp_all only [le_iff] <;> omega

/-- The amount of `i` minor units, if it fits. -/
def ofInt? (i : Int) : Option Amount :=
  if h : -9223372036854775808 ≤ i ∧ i < 9223372036854775808 then some ⟨i, h.1, h.2⟩ else none

/-- The amount of `i` minor units; `i` outside the range is an overflow. -/
def checked (i : Int) : Except ArithmeticError Amount :=
  match ofInt? i with
  | some a => .ok a
  | none => .error .overflow

/-- The amount nearest to `i` minor units. -/
def saturate (i : Int) : Amount :=
  if h : i < -9223372036854775808 then ⟨-9223372036854775808, by decide, by decide⟩
  else if h' : 9223372036854775808 ≤ i then ⟨9223372036854775807, by decide, by decide⟩
  else ⟨i, by omega, by omega⟩

theorem ofInt?_eq_some_iff {i : Int} {a : Amount} : ofInt? i = some a ↔ a.toInt = i := by
  unfold ofInt?
  split
  · constructor
    · rintro h; cases h; rfl
    · rintro rfl; cases a; rfl
  · constructor
    · rintro ⟨⟩
    · rintro rfl; have := a.lower; have := a.upper; omega

theorem checked_eq_ok_iff {i : Int} {a : Amount} : checked i = .ok a ↔ a.toInt = i := by
  rw [← ofInt?_eq_some_iff, checked]
  split <;> simp_all

theorem ofInt?_eq_none_iff {i : Int} :
    ofInt? i = none ↔ i < -9223372036854775808 ∨ 9223372036854775808 ≤ i := by
  unfold ofInt?
  split
  · simp only [reduceCtorEq, false_iff]; omega
  · simp only [true_iff]; omega

theorem checked_eq_error_iff {i : Int} {e : ArithmeticError} :
    checked i = .error e ↔
      e = .overflow ∧ (i < -9223372036854775808 ∨ 9223372036854775808 ≤ i) := by
  rw [← ofInt?_eq_none_iff, checked]
  cases ofInt? i <;> simp [eq_comm]

theorem toInt_saturate (i : Int) :
    (saturate i).toInt = max (-9223372036854775808) (min i 9223372036854775807) := by
  unfold saturate
  split
  · simp only; omega
  · split
    · simp only; omega
    · simp only; omega

/-- The sum of two amounts, if it fits. -/
def add (a b : Amount) : Except ArithmeticError Amount := checked (a.toInt + b.toInt)

theorem add_eq_ok_iff {a b c : Amount} : a.add b = .ok c ↔ c.toInt = a.toInt + b.toInt :=
  checked_eq_ok_iff

theorem add_eq_error_iff {a b : Amount} {e : ArithmeticError} :
    a.add b = .error e ↔
      e = .overflow ∧ (a.toInt + b.toInt < -9223372036854775808 ∨
        9223372036854775808 ≤ a.toInt + b.toInt) :=
  checked_eq_error_iff

/-- The sum of two amounts, or the nearest amount. -/
def addSat (a b : Amount) : Amount := saturate (a.toInt + b.toInt)

/-- The difference of two amounts, or the nearest amount. -/
def subSat (a b : Amount) : Amount := saturate (a.toInt - b.toInt)

theorem toInt_subSat (a b : Amount) :
    (a.subSat b).toInt =
      max (-9223372036854775808) (min (a.toInt - b.toInt) 9223372036854775807) :=
  toInt_saturate _

/-- The price of `n` units at `a` each, if it fits. -/
def times (a : Amount) (n : Nat) : Except ArithmeticError Amount := checked (a.toInt * n)

theorem times_eq_ok_iff {a c : Amount} {n : Nat} :
    a.times n = .ok c ↔ c.toInt = a.toInt * n := checked_eq_ok_iff

/-- The sum of a list, added up from the left; every partial sum has to fit. -/
def sum (amounts : List Amount) : Except ArithmeticError Amount := amounts.foldlM add 0

/-- `raw`, brought down to `ceiling` and then up to zero. -/
def clamp (raw ceiling : Amount) : Amount := max 0 (min raw ceiling)

theorem toInt_clamp (raw ceiling : Amount) :
    (clamp raw ceiling).toInt = max 0 (min raw.toInt ceiling.toInt) := by
  rw [clamp, toInt_max, toInt_min, toInt_zero]

/-- `raw`, brought down to `cap` where there is one. -/
def capped (raw : Amount) : Option Amount → Amount
  | some cap => min raw cap
  | none => raw

/-- `a - b` where that is positive, and otherwise zero. -/
def excess (a b : Amount) : Amount := max 0 (subSat a b)

/-- Taking off what is not negative, the difference is too small to fit only below zero. -/
theorem toInt_excess {a b : Amount} (hb : 0 ≤ b) :
    (excess a b).toInt = max 0 (a.toInt - b.toInt) := by
  have ha := a.upper
  have hb' : (0 : Int) ≤ b.toInt := hb
  rw [excess, toInt_max, toInt_subSat, toInt_zero]
  omega

/-- `a` where it is set and not zero. -/
def nonzero? : Option Amount → Option Amount
  | some a => if a = 0 then none else some a
  | none => none

end Amount

end Promotions

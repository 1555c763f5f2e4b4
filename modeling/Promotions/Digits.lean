/-!
# Decimal digits

Natural numbers as digits, either as few as they need or as many as a fixed width holds, and the
number that a run of digits stands for. Reading what was written gives the number back.
-/

namespace Promotions.Digits

/-- The character of a digit below sixteen, with small letters from ten on. -/
def digitChar (d : Nat) : Char :=
  if d < 10 then Char.ofNat ('0'.toNat + d) else Char.ofNat ('a'.toNat + (d - 10))

/-- The value of a decimal digit. -/
def digitValue? (c : Char) : Option Nat :=
  if '0' ≤ c ∧ c ≤ '9' then some (c.toNat - '0'.toNat) else none

/-- The value of a hexadecimal digit, in either case. -/
def hexValue? (c : Char) : Option Nat :=
  if '0' ≤ c ∧ c ≤ '9' then some (c.toNat - '0'.toNat)
  else if 'a' ≤ c ∧ c ≤ 'f' then some (c.toNat - 'a'.toNat + 10)
  else if 'A' ≤ c ∧ c ≤ 'F' then some (c.toNat - 'A'.toNat + 10)
  else none

theorem digitValue?_digitChar {d : Nat} (h : d < 10) : digitValue? (digitChar d) = some d := by
  have : ∀ d : Fin 10, digitValue? (digitChar d) = some d.val := by decide
  exact this ⟨d, h⟩

theorem hexValue?_digitChar {d : Nat} (h : d < 16) : hexValue? (digitChar d) = some d := by
  have : ∀ d : Fin 16, hexValue? (digitChar d) = some d.val := by decide
  exact this ⟨d, h⟩

/-- A number in base ten, in as few digits as it needs. -/
def write (n : Nat) : List Char :=
  if n < 10 then [digitChar n] else write (n / 10) ++ [digitChar (n % 10)]
termination_by n

/-- The last `width` digits of a number in base `base`. -/
def writeFixed (base : Nat) : Nat → Nat → List Char
  | 0, _ => []
  | width + 1, n => writeFixed base width (n / base) ++ [digitChar (n % base)]

@[simp] theorem length_writeFixed (base width n : Nat) :
    (writeFixed base width n).length = width := by
  induction width generalizing n with
  | zero => rfl
  | succ width ih => simp [writeFixed, ih]

/-- The number that digits in base ten continue from `acc`; `none` if one is no digit. -/
def readFrom (acc : Nat) : List Char → Option Nat
  | [] => some acc
  | c :: rest =>
    match digitValue? c with
    | some d => readFrom (10 * acc + d) rest
    | none => none

/-- The number that one or more digits stand for. -/
def read? (s : List Char) : Option Nat := if s.isEmpty then none else readFrom 0 s

theorem readFrom_append {acc n : Nat} {s t : List Char} (h : readFrom acc s = some n) :
    readFrom acc (s ++ t) = readFrom n t := by
  induction s generalizing acc with
  | nil => cases h; rfl
  | cons c rest ih =>
    simp only [readFrom, List.cons_append] at h ⊢
    cases hd : digitValue? c with
    | none => simp [hd] at h
    | some d => simp only [hd] at h ⊢; exact ih h

theorem write_ne_nil (n : Nat) : write n ≠ [] := by
  rw [write]; split <;> simp

theorem readFrom_write (n : Nat) : readFrom 0 (write n) = some n := by
  rw [write]
  split
  · rename_i h; simp [readFrom, digitValue?_digitChar h]
  · rw [readFrom_append (readFrom_write (n / 10))]
    simp only [readFrom, digitValue?_digitChar (Nat.mod_lt n (by decide : 0 < 10))]
    congr 1; omega
termination_by n

/-- The digits of a number read back as that number. -/
theorem read?_write (n : Nat) : read? (write n) = some n := by
  simp [read?, write_ne_nil, readFrom_write]

theorem readFrom_writeFixed {width n : Nat} (acc : Nat) (h : n < Nat.pow 10 width) :
    readFrom acc (writeFixed 10 width n) = some (acc * Nat.pow 10 width + n) := by
  induction width generalizing n with
  | zero =>
    have hzero : n = 0 := Nat.lt_one_iff.1 h
    simp [writeFixed, readFrom, hzero]
  | succ width ih =>
    have hpow : Nat.pow 10 (width + 1) = Nat.pow 10 width * 10 := rfl
    have hlt : n / 10 < Nat.pow 10 width := by
      rw [Nat.div_lt_iff_lt_mul (by decide)]; rwa [hpow] at h
    rw [writeFixed, readFrom_append (ih hlt)]
    simp only [readFrom, digitValue?_digitChar (Nat.mod_lt n (by decide : 0 < 10))]
    rw [hpow, ← Nat.mul_assoc]
    congr 1
    omega

/-- The value of exactly `width` digits at the front, and what follows them. -/
def takeFixed? (width : Nat) (s : List Char) : Option (Nat × List Char) :=
  if (s.take width).length = width then
    (readFrom 0 (s.take width)).map fun n => (n, s.drop width)
  else none

theorem takeFixed?_writeFixed {width n : Nat} (h : n < Nat.pow 10 width) (rest : List Char) :
    takeFixed? width (writeFixed 10 width n ++ rest) = some (n, rest) := by
  have hl := length_writeFixed 10 width n
  simp [takeFixed?, readFrom_writeFixed 0 h, hl]

end Promotions.Digits

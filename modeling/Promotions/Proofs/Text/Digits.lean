import Mathlib.Data.List.Basic
import Promotions.Digits

/-!
# Proofs: digits

What stands in a number that is written: nothing but digits, and no zero in front of others. And
what is read from digits that stand one behind another, and from zeros that end a number.
-/

namespace Promotions.Digits

theorem isDigit_digitChar {d : Nat} (h : d < 10) : (digitChar d).isDigit = true := by
  have hall : ∀ d : Fin 10, (digitChar d).isDigit = true := by decide
  exact hall ⟨d, h⟩

theorem isDigit_of_mem_write {n : Nat} {c : Char} (h : c ∈ write n) : c.isDigit = true := by
  rw [write] at h
  split at h
  · rename_i hlt
    rw [List.mem_singleton.1 h]
    exact isDigit_digitChar hlt
  · rcases List.mem_append.1 h with hrest | hlast
    · exact isDigit_of_mem_write hrest
    · rw [List.mem_singleton.1 hlast]
      exact isDigit_digitChar (Nat.mod_lt n (by decide))
termination_by n

theorem isDigit_of_mem_writeFixed {width n : Nat} {c : Char} (h : c ∈ writeFixed 10 width n) :
    c.isDigit = true := by
  induction width generalizing n with
  | zero => simp [writeFixed] at h
  | succ width ih =>
    rw [writeFixed, List.mem_append, List.mem_singleton] at h
    rcases h with h | rfl
    · exact ih h
    · exact isDigit_digitChar (Nat.mod_lt n (by decide))

theorem write_eq_cons (n : Nat) : ∃ c rest, write n = c :: rest ∧ c.isDigit = true := by
  obtain ⟨c, rest, h⟩ := List.exists_cons_of_ne_nil (write_ne_nil n)
  exact ⟨c, rest, h, isDigit_of_mem_write (by rw [h]; exact List.mem_cons_self)⟩

/-- Digits of a fixed width start with a digit. -/
theorem writeFixed_eq_cons (width n : Nat) :
    ∃ c rest, writeFixed 10 (width + 1) n = c :: rest ∧ c.isDigit = true := by
  obtain ⟨c, rest, h⟩ := List.exists_cons_of_length_pos
    (l := writeFixed 10 (width + 1) n) (by rw [length_writeFixed]; omega)
  exact ⟨c, rest, h, isDigit_of_mem_writeFixed (by rw [h]; exact List.mem_cons_self)⟩

theorem ne_of_isDigit {c d : Char} (hc : c.isDigit = true) (hd : d.isDigit = false) : c ≠ d := by
  rintro rfl
  rw [hd] at hc
  cases hc

/-- A number that takes more than one digit does not start with a zero. -/
theorem eq_zero_of_head?_write {n : Nat} (h : (write n).head? = some '0') : n = 0 := by
  rw [write] at h
  split at h
  · rename_i hlt
    have hall : ∀ d : Fin 10, digitChar d = '0' → d.val = 0 := by decide
    exact hall ⟨n, hlt⟩ (by simpa using h)
  · rw [List.head?_append_of_ne_nil _ (write_ne_nil _)] at h
    have := eq_zero_of_head?_write h
    omega
termination_by n

/-! ## Reading -/

theorem le_of_readFrom {acc n : Nat} {s : List Char} (h : readFrom acc s = some n) : acc ≤ n := by
  induction s generalizing acc with
  | nil => exact Nat.le_of_eq (Option.some.inj h)
  | cons c s ih =>
    rw [readFrom] at h
    split at h
    · have := ih h
      omega
    · cases h

theorem exists_of_readFrom_append {acc n : Nat} {s t : List Char}
    (h : readFrom acc (s ++ t) = some n) :
    ∃ m, readFrom acc s = some m ∧ readFrom m t = some n := by
  induction s generalizing acc with
  | nil => exact ⟨acc, rfl, h⟩
  | cons c s ih =>
    rw [List.cons_append, readFrom] at h
    rw [readFrom]
    split at h
    · exact ih h
    · cases h

theorem readFrom_replicate_zero (acc count : Nat) :
    readFrom acc (List.replicate count '0') = some (acc * Nat.pow 10 count) := by
  induction count generalizing acc with
  | zero => simp [readFrom]
  | succ count ih =>
    have hpow : Nat.pow 10 (count + 1) = Nat.pow 10 count * 10 := rfl
    have hzero : digitValue? '0' = some 0 := by decide
    rw [List.replicate_succ, readFrom, hzero]
    simp only [ih, hpow]
    congr 1
    rw [Nat.add_zero, Nat.mul_comm 10 acc, Nat.mul_assoc, Nat.mul_comm 10]

end Promotions.Digits

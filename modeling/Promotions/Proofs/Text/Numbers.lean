import Mathlib.Data.List.Basic
import Promotions.Decimal.Text
import Promotions.Proofs.Text.Digits
import Promotions.Uuid

/-!
# Proofs: identifiers and decimals as text

The text of a UUID is read back, and so is the text of a decimal with all its places. Reading a
decimal rounds what does not fit, but of a text that was written every digit fits, so each of them
is added to what was read before.
-/

namespace Promotions

namespace Uuid

open Digits

theorem readHex_append {acc n : Nat} {s t : List Char} (h : readHex acc s = some n) :
    readHex acc (s ++ t) = readHex n t := by
  induction s generalizing acc with
  | nil => cases h; rfl
  | cons c rest ih =>
    simp only [readHex, List.cons_append] at h ⊢
    cases hd : hexValue? c with
    | none => simp [hd] at h
    | some d =>
      simp only [hd, Option.bind_some] at h ⊢
      exact ih h

theorem readHex_writeFixed {width n : Nat} (acc : Nat) (h : n < Nat.pow 16 width) :
    readHex acc (writeFixed 16 width n) = some (acc * Nat.pow 16 width + n) := by
  induction width generalizing n with
  | zero =>
    have hzero : n = 0 := Nat.lt_one_iff.1 h
    simp [writeFixed, readHex, hzero]
  | succ width ih =>
    have hpow : Nat.pow 16 (width + 1) = Nat.pow 16 width * 16 := rfl
    have hlt : n / 16 < Nat.pow 16 width := by
      rw [Nat.div_lt_iff_lt_mul (by decide)]
      rwa [hpow] at h
    rw [writeFixed, readHex_append (ih hlt)]
    simp only [readHex, hexValue?_digitChar (Nat.mod_lt n (by decide : 0 < 16)), Option.bind_some]
    rw [hpow, ← Nat.mul_assoc]
    congr 1
    omega

theorem ofDigits?_writeFixed (u : Uuid) : ofDigits? (writeFixed 16 32 u.toNat) = some u := by
  rw [ofDigits?, if_pos (length_writeFixed 16 32 u.toNat), readHex_writeFixed 0 u.isLt]
  simp [u.isLt]

/-- Taking the hyphens out from between the groups leaves the digits. -/
theorem ofGroups?_groups {a b c d e : List Char} (ha : a.length = 8) (hb : b.length = 4)
    (hc : c.length = 4) (hd : d.length = 4) (he : e.length = 12) :
    ofGroups? (a ++ '-' :: b ++ '-' :: c ++ '-' :: d ++ '-' :: e) =
      ofDigits? (a ++ b ++ c ++ d ++ e) := by
  rw [ofGroups?, if_pos (by simp [ha, hb, hc, hd, he])]
  simp [List.drop_append, List.drop_eq_nil_of_le, ha, hb, hc, hd]

theorem ofGroups?_hyphenate {s : List Char} (h : s.length = 32) :
    ofGroups? (hyphenate s) = ofDigits? s := by
  have hs : s.take 8 ++ (s.drop 8).take 4 ++ (s.drop 12).take 4 ++ (s.drop 16).take 4 ++ s.drop 20 =
      s := by
    have hsplit : ∀ n, (s.drop n).take 4 ++ s.drop (n + 4) = s.drop n := fun n => by
      rw [← List.drop_drop, List.take_append_drop]
    simp only [List.append_assoc]
    rw [hsplit 16, hsplit 12, hsplit 8, List.take_append_drop]
  rw [hyphenate, ofGroups?_groups (by simp [h]) (by simp [h]) (by simp [h]) (by simp [h])
    (by simp [h]), hs]

/-- The text of a UUID is read back. -/
theorem ofText?_toText (u : Uuid) : ofText? u.toText = some u := by
  have hdigits := length_writeFixed 16 32 u.toNat
  have hlength : u.writeChars.length = 36 := by simp [writeChars, hyphenate, hdigits]
  rw [ofText?, toText, String.toList_ofList, readChars?, if_neg (by omega), if_pos hlength,
    writeChars, ofGroups?_hyphenate hdigits, ofDigits?_writeFixed]

end Uuid

namespace Decimal

open Digits

/-- Digits are added to what a text has given so far, as long as they fit. -/
theorem readUnsigned_digits {r : Progress} {digits rest : List Char} {n : Nat}
    (hread : readFrom r.value digits = some n) (hfits : n < 79228162514264337593543950336)
    (hplaces : r.point = true → r.scale + digits.length ≤ 28)
    (hwhole : r.point = false → r.scale = 0) :
    readUnsigned r (digits ++ rest) =
      readUnsigned ⟨r.point, r.seen || !digits.isEmpty, n,
        if r.point then r.scale + digits.length else 0⟩ rest := by
  induction digits generalizing r with
  | nil =>
    obtain ⟨point, seen, value, scale⟩ := r
    cases hread
    cases point with
    | true => simp
    | false =>
      obtain rfl : scale = 0 := hwhole rfl
      simp
  | cons c digits ih =>
    rw [readFrom] at hread
    cases hdigit : digitValue? c with
    | none => simp [hdigit] at hread
    | some d =>
      simp only [hdigit] at hread
      have hnext : 10 * r.value + d < 79228162514264337593543950336 :=
        Nat.lt_of_le_of_lt (le_of_readFrom hread) hfits
      have hroom : (r.point && decide (28 ≤ r.scale)) = false := by
        cases hpoint : r.point with
        | true =>
          have := hplaces hpoint
          simp only [List.length_cons] at this
          simp; omega
        | false => rfl
      rw [List.cons_append, readUnsigned]
      simp only [hdigit, hroom, Bool.false_eq_true, if_false, if_pos hnext]
      rw [ih hread]
      · cases hpoint : r.point with
        | true => simp [Nat.add_assoc, Nat.add_comm 1]
        | false => simp
      · intro hpoint
        have := hplaces hpoint
        simp only [List.length_cons] at this
        have hp : r.point = true := hpoint
        simp only [hp, if_true]
        omega
      · intro hpoint
        have hp : r.point = false := hpoint
        simp [hp]

/-- The digits of a decimal with zeros in front of them where it has fewer than places. -/
def padded (d : Decimal) : List Char :=
  List.replicate (d.scale + 1 - (write d.coefficient.natAbs).length) '0' ++
    write d.coefficient.natAbs

theorem readFrom_padded (d : Decimal) : readFrom 0 d.padded = some d.coefficient.natAbs := by
  rw [padded, readFrom_append (readFrom_replicate_zero 0 _), Nat.zero_mul, readFrom_write]

theorem scale_lt_length_padded (d : Decimal) : d.scale < d.padded.length := by
  simp only [padded, List.length_append, List.length_replicate]
  omega

/-- The characters of a decimal behind its sign. -/
def unsignedChars (d : Decimal) : List Char :=
  d.padded.take (d.padded.length - d.scale) ++
    if d.scale = 0 then [] else '.' :: d.padded.drop (d.padded.length - d.scale)

theorem writeChars_eq (d : Decimal) :
    d.writeChars = (if d.coefficient < 0 then ['-'] else []) ++ d.unsignedChars := by
  rw [writeChars, unsignedChars, ← List.append_assoc]
  rfl

theorem readUnsigned_unsignedChars (d : Decimal) :
    readUnsigned ⟨false, false, 0, 0⟩ d.unsignedChars = some (d.coefficient.natAbs, d.scale) := by
  have hlength := d.scale_lt_length_padded
  have hread := d.readFrom_padded
  rw [← List.take_append_drop (d.padded.length - d.scale) d.padded] at hread
  obtain ⟨whole, hwhole, hplaces⟩ := exists_of_readFrom_append hread
  have hwholeLength : (d.padded.take (d.padded.length - d.scale)).isEmpty = false := by
    rw [List.isEmpty_eq_false_iff, ← List.length_pos_iff, List.length_take]
    omega
  have hplacesLength : (d.padded.drop (d.padded.length - d.scale)).length = d.scale := by
    rw [List.length_drop]
    omega
  have hfits := d.coefficient_lt
  rw [unsignedChars, readUnsigned_digits hwhole
    (Nat.lt_of_le_of_lt (le_of_readFrom hplaces) hfits) (by simp) (by simp)]
  by_cases hscale : d.scale = 0
  · have hnil : d.padded.drop (d.padded.length - d.scale) = [] :=
      List.length_eq_zero_iff.1 (by omega)
    rw [hnil] at hplaces
    cases hplaces
    have hne : d.padded ≠ [] := List.length_pos_iff.1 (by omega)
    simp [hscale, readUnsigned, hne]
  · have hpoint : digitValue? '.' = none := by decide
    have hall : readUnsigned ⟨true, true, whole, 0⟩
          (d.padded.drop (d.padded.length - d.scale) ++ []) =
        some (d.coefficient.natAbs, d.scale) := by
      have hroom := d.scale_le
      rw [readUnsigned_digits hplaces hfits (by simp only; omega) (by simp)]
      simp [readUnsigned, hplacesLength]
    rw [List.append_nil] at hall
    rw [if_neg hscale, readUnsigned]
    simp [hpoint, hwholeLength, hall]

/-- Behind its sign a decimal starts with a digit. -/
theorem unsignedChars_eq_cons (d : Decimal) :
    ∃ c rest, d.unsignedChars = c :: rest ∧ c ≠ '-' ∧ c ≠ '+' := by
  have hlength := d.scale_lt_length_padded
  have hread := d.readFrom_padded
  obtain ⟨c, digits, hpadded⟩ : ∃ c digits, d.padded = c :: digits :=
    List.exists_cons_of_length_pos (by omega)
  have htake : ∃ kept, d.padded.length - d.scale = kept + 1 :=
    ⟨d.padded.length - d.scale - 1, by omega⟩
  obtain ⟨kept, hkept⟩ := htake
  refine ⟨c, _, by rw [unsignedChars, hkept, hpadded, List.take_succ_cons, List.cons_append], ?_⟩
  rw [hpadded, readFrom] at hread
  constructor
  · rintro rfl
    simp [digitValue?] at hread
  · rintro rfl
    simp [digitValue?] at hread

/-- The text of a decimal is read back with all its places. -/
theorem ofText?_toText (d : Decimal) : ofText? d.toText = some d := by
  have hparts : ofParts? d.coefficient d.scale = some d := by
    rw [ofParts?, dif_pos ⟨d.coefficient_lt, d.scale_le⟩]
  have hplain : readPlain? d.writeChars = some d := by
    have hread := d.readUnsigned_unsignedChars
    rw [writeChars_eq]
    by_cases hneg : d.coefficient < 0
    · have habs : -(d.coefficient.natAbs : Int) = d.coefficient := by omega
      rw [if_pos hneg, List.cons_append, List.nil_append, readPlain?, hread]
      simp only [Option.bind_some]
      rw [habs, hparts]
    · have habs : (d.coefficient.natAbs : Int) = d.coefficient := by omega
      obtain ⟨c, rest, hcons, hminus, hplus⟩ := d.unsignedChars_eq_cons
      rw [hcons] at hread
      rw [if_neg hneg, List.nil_append, hcons, readPlain?]
      · rw [hread, Option.bind_some]
        simp only
        rw [habs, hparts]
      · exact fun tail heq => hminus (List.cons.inj heq).1
      · exact fun tail heq => hplus (List.cons.inj heq).1
  rw [ofText?, toText, String.toList_ofList, hplain]

end Decimal

end Promotions

import Mathlib.Data.List.Basic
import Promotions.Json.Parser
import Promotions.Json.Text
import Promotions.Proofs.Text.Digits

/-!
# Proofs: reading JSON that was written

A value without doubles whose integers fit sixty-four bits and which does not nest too deep is read
back from its text, but for the order of the members of its objects: they come out in ascending
order of their names.

The reader takes the front of a text and leaves the rest, so each statement speaks of a value with
any text behind it. What stands behind a value never continues a number. The budget of the reader is
its only recursion; as many steps as the value has characters are enough.
-/

namespace Promotions.Json

open Digits

/-! ## Texts -/

theorem hexFour?_writeFixed {n : Nat} (h : n < 65536) (rest : List Char) :
    hexFour? (writeFixed 16 4 n ++ rest) = some (n, rest) := by
  have hdigit : ∀ m, hexValue? (digitChar (m % 16)) = some (m % 16) := fun m =>
    hexValue?_digitChar (Nat.mod_lt m (by decide))
  simp only [writeFixed, List.nil_append, List.cons_append, hexFour?, hdigit]
  congr 2
  omega

/-- A character that is written between quotes is read back in one step. -/
theorem readQuoted_escape (acc : List Char) (budget : Nat) (c : Char) (rest : List Char) :
    readQuoted acc (budget + 1) (escape c ++ rest) = readQuoted (c :: acc) budget rest := by
  have hchar : ∀ n, c.toNat = n → c = Char.ofNat n := fun n h => by
    rw [← h, Char.ofNat_toNat]
  rw [escape]
  split_ifs with hquote hback hb ht hn hf hr hlow
  · subst hquote; rfl
  · subst hback; rfl
  · rw [hchar _ hb]; rfl
  · rw [hchar _ ht]; rfl
  · rw [hchar _ hn]; rfl
  · rw [hchar _ hf]; rfl
  · rw [hchar _ hr]; rfl
  · have hunit : unicode? (writeFixed 16 4 c.toNat ++ rest) = some (c, rest) := by
      have hhigh : isHighHalf c.toNat = false := by simp [isHighHalf]; omega
      have hlowHalf : isLowHalf c.toNat = false := by simp [isLowHalf]; omega
      rw [unicode?, hexFour?_writeFixed (by omega)]
      simp [hhigh, hlowHalf, Char.ofNat_toNat]
    simp [readQuoted, hunit]
  · have hplain : isPlain c = true := by
      simp [isPlain, hquote, hback]; omega
    simp [readQuoted, hquote, hback, hplain]

theorem readQuoted_flatMap_escape (acc : List Char) {budget : Nat} {s : List Char}
    (h : s.length < budget) (rest : List Char) :
    readQuoted acc budget (s.flatMap escape ++ '"' :: rest) =
      some (String.ofList (acc.reverse ++ s), rest) := by
  induction s generalizing acc budget with
  | nil =>
    cases budget with
    | zero => simp at h
    | succ budget => simp [readQuoted]
  | cons c s ih =>
    cases budget with
    | zero => simp at h
    | succ budget =>
      rw [List.flatMap_cons, List.append_assoc, readQuoted_escape,
        ih (c :: acc) (by simpa using h)]
      simp

theorem one_le_length_escape (c : Char) : 1 ≤ (escape c).length := by
  rw [escape]
  split_ifs <;> simp

theorem length_le_length_flatMap_escape (s : List Char) :
    s.length ≤ (s.flatMap escape).length := by
  induction s with
  | nil => simp
  | cons c s ih =>
    have := one_le_length_escape c
    simp only [List.flatMap_cons, List.length_append, List.length_cons]
    omega

/-- A text is read back from what stands behind its first quote. -/
theorem readQuoted_quote (budget : Nat) (s : String) (rest : List Char)
    (h : (quote s).length ≤ budget + 1) :
    ∃ body, quote s ++ rest = '"' :: body ∧ readQuoted [] budget body = some (s, rest) := by
  refine ⟨s.toList.flatMap escape ++ '"' :: rest, by simp [quote], ?_⟩
  have hlength := length_le_length_flatMap_escape s.toList
  simp only [quote, List.length_append, List.length_cons, List.length_nil] at h
  rw [readQuoted_flatMap_escape [] (by omega)]
  simp

/-! ## Integers -/

/-- What stands behind a value inside an array or an object, or behind the whole text. -/
def Ends (rest : List Char) : Prop :=
  ∀ c, rest.head? = some c → c = ',' ∨ c = ']' ∨ c = '\x7d'

theorem spanDigits_write {n : Nat} {rest : List Char} (h : Ends rest) :
    spanDigits (write n ++ rest) = (write n, rest) := by
  have hall : ∀ c ∈ write n, c.isDigit = true := fun c hc => isDigit_of_mem_write hc
  have hrest : rest.takeWhile Char.isDigit = [] ∧ rest.dropWhile Char.isDigit = rest := by
    cases rest with
    | nil => exact ⟨rfl, rfl⟩
    | cons c rest =>
      have hc : c.isDigit = false := by
        rcases h c rfl with rfl | rfl | rfl <;> rfl
      simp [hc]
  rw [spanDigits, List.takeWhile_append_of_pos hall, List.dropWhile_append_of_pos hall, hrest.1,
    hrest.2, List.append_nil]

/-- The digits of a number do not start with a zero that could be left out. -/
theorem isEmpty_or_zero_write (n : Nat) :
    ((write n).isEmpty || (decide ((write n).head? = some '0') && decide (1 < (write n).length))) =
      false := by
  have hne : (write n).isEmpty = false := by simp [write_ne_nil]
  rw [hne, Bool.false_or, Bool.and_eq_false_iff]
  by_cases hzero : (write n).head? = some '0'
  · rw [eq_zero_of_head?_write hzero]
    exact Or.inr (by rw [write]; rfl)
  · exact Or.inl (decide_eq_false hzero)

theorem readNumber?_minus (n : Nat) {rest : List Char} (h : Ends rest) :
    readNumber? ('-' :: (write n ++ rest)) = readNumber?.integer true (write n) rest := by
  simp only [readNumber?, spanDigits_write h, isEmpty_or_zero_write, Bool.false_eq_true, if_false]
  cases rest with
  | nil => rfl
  | cons c rest =>
    rcases h c rfl with rfl | rfl | rfl <;> rfl

theorem readNumber?_digits (n : Nat) {rest : List Char} (h : Ends rest) :
    readNumber? (write n ++ rest) = readNumber?.integer false (write n) rest := by
  have hminus : ∀ tail, write n ++ rest ≠ '-' :: tail := by
    intro tail htail
    obtain ⟨c, digits, hwrite, hdigit⟩ := write_eq_cons n
    rw [hwrite, List.cons_append] at htail
    exact ne_of_isDigit hdigit rfl (List.cons.inj htail).1
  rw [readNumber?]
  · simp only [spanDigits_write h, isEmpty_or_zero_write, Bool.false_eq_true, if_false]
    cases rest with
    | nil => rfl
    | cons c rest =>
      rcases h c rfl with rfl | rfl | rfl <;> rfl
  · exact fun tail htail => hminus tail htail

/-- An integer that fits sixty-four bits, with a sign or without, is read back. -/
theorem readNumber?_writeInt {i : Int} (hleast : -9223372036854775808 ≤ i)
    (hgreatest : i < 18446744073709551616) {rest : List Char} (h : Ends rest) :
    readNumber? (writeInt i ++ rest) = some (int i, rest) := by
  rw [writeInt]
  split
  · rename_i hneg
    have hrange : 0 < i.natAbs ∧ i.natAbs ≤ 9223372036854775808 := by omega
    rw [List.cons_append, readNumber?_minus i.natAbs h, readNumber?.integer, read?_write]
    simp only [Option.bind_some, if_true, if_pos hrange]
    congr 3
    omega
  · have hle : i.natAbs ≤ greatestUnsigned := by
      show i.natAbs ≤ 18446744073709551615
      omega
    rw [readNumber?_digits i.natAbs h, readNumber?.integer, read?_write]
    simp only [Option.bind_some, Bool.false_eq_true, if_false, if_pos hle]
    congr 3
    omega

/-- The first character of an integer. -/
theorem head?_writeInt (i : Int) (rest : List Char) :
    ∃ c tail, writeInt i ++ rest = c :: tail ∧ (c = '-' ∨ c.isDigit = true) := by
  rw [writeInt]
  split
  · exact ⟨'-', _, rfl, Or.inl rfl⟩
  · obtain ⟨c, digits, hwrite, hdigit⟩ := write_eq_cons i.natAbs
    exact ⟨c, digits ++ rest, by rw [hwrite, List.cons_append], Or.inr hdigit⟩

/-! ## Values -/

/-- Written and read again, a value comes back: it holds no double, its integers fit sixty-four
bits, and in it arrays and objects nest at most so deep. -/
inductive Readable : Nat → Json → Prop
  | null (depth : Nat) : Readable depth null
  | bool (depth : Nat) (b : Bool) : Readable depth (bool b)
  | int (depth : Nat) (i : Int) (least : -9223372036854775808 ≤ i)
      (greatest : i < 18446744073709551616) : Readable depth (int i)
  | str (depth : Nat) (s : String) : Readable depth (str s)
  | arr {depth : Nat} {elements : List Json} (h : ∀ j ∈ elements, Readable depth j) :
      Readable (depth + 1) (arr elements)
  | obj {depth : Nat} {members : List (String × Json)} (h : ∀ m ∈ members, Readable depth m.2) :
      Readable (depth + 1) (obj members)

mutual

/-- A value as it is read back: the members of each object in ascending order of their names. -/
def asRead : Json → Json
  | null => null
  | bool b => bool b
  | int i => int i
  | float x => float x
  | str s => str s
  | arr elements => arr (elementsAsRead elements)
  | obj members => obj (orderMembers (membersAsRead members))

/-- The elements of an array as they are read back. -/
def elementsAsRead : List Json → List Json
  | [] => []
  | j :: rest => asRead j :: elementsAsRead rest

/-- The members of an object, each as it is read back. -/
def membersAsRead : List (String × Json) → List (String × Json)
  | [] => []
  | (name, j) :: rest => (name, asRead j) :: membersAsRead rest

end

theorem ends_writeElements (elements : List Json) (rest : List Char) :
    Ends (writeElements elements ++ rest) := by
  cases elements with
  | nil => rintro c ⟨⟩; exact Or.inr (Or.inl rfl)
  | cons v elements => rintro c ⟨⟩; exact Or.inl rfl

theorem ends_writeMembers (members : List (String × Json)) (rest : List Char) :
    Ends (writeMembers members ++ rest) := by
  cases members with
  | nil => rintro c ⟨⟩; exact Or.inr (Or.inr rfl)
  | cons m members => rintro c ⟨⟩; exact Or.inl rfl

theorem skipSpace_of_not_isSpace {c : Char} (h : isSpace c = false) (rest : List Char) :
    skipSpace (c :: rest) = c :: rest := by
  simp [skipSpace, h]

theorem isSpace_of_isDigit {c : Char} (h : c.isDigit = true) : isSpace c = false := by
  rw [Bool.eq_false_iff]
  intro hspace
  simp only [isSpace, Bool.or_eq_true, decide_eq_true_eq] at hspace
  rcases hspace with ((rfl | rfl) | rfl) | rfl <;> cases h

/-- A value does not start with a blank or with the end of an array. -/
theorem head_writeChars {depth : Nat} {j : Json} (h : Readable depth j) (rest : List Char) :
    ∃ c tail, writeChars j ++ rest = c :: tail ∧ isSpace c = false ∧ c ≠ ']' := by
  cases h with
  | null => exact ⟨'n', _, rfl, rfl, by decide⟩
  | bool _ b =>
    cases b with
    | true => exact ⟨'t', _, rfl, rfl, by decide⟩
    | false => exact ⟨'f', _, rfl, rfl, by decide⟩
  | int _ i =>
    obtain ⟨c, tail, hwrite, hc⟩ := head?_writeInt i rest
    refine ⟨c, tail, by rw [writeChars, hwrite], ?_⟩
    rcases hc with rfl | hdigit
    · exact ⟨rfl, by decide⟩
    · exact ⟨isSpace_of_isDigit hdigit, ne_of_isDigit hdigit rfl⟩
  | str => exact ⟨'"', _, rfl, rfl, by decide⟩
  | @arr _ elements _ =>
    cases elements with
    | nil => exact ⟨'[', _, rfl, rfl, by decide⟩
    | cons v elements => exact ⟨'[', _, rfl, rfl, by decide⟩
  | @obj _ members _ =>
    cases members with
    | nil => exact ⟨'\x7b', _, rfl, rfl, by decide⟩
    | cons m members => exact ⟨'\x7b', _, rfl, rfl, by decide⟩

/-- What starts like a number is read as one. -/
theorem readValue_eq_readNumber? {limit budget : Nat} {c : Char} {tail : List Char}
    (h : c = '-' ∨ c.isDigit = true) :
    readValue limit (budget + 1) (c :: tail) = readNumber? (c :: tail) := by
  have hspace : isSpace c = false := by
    rcases h with rfl | hdigit
    · rfl
    · exact isSpace_of_isDigit hdigit
  have hne : ∀ d : Char, d ≠ '-' → d.isDigit = false → c ≠ d := by
    intro d hminus hd
    rcases h with rfl | hdigit
    · exact hminus.symm
    · exact ne_of_isDigit hdigit hd
  rw [readValue, skipSpace_of_not_isSpace hspace]
  split
  · rename_i heq; exact absurd (List.cons.inj heq).1 (hne 'n' (by decide) rfl)
  · rename_i heq; exact absurd (List.cons.inj heq).1 (hne 't' (by decide) rfl)
  · rename_i heq; exact absurd (List.cons.inj heq).1 (hne 'f' (by decide) rfl)
  · rename_i heq; exact absurd (List.cons.inj heq).1 (hne '"' (by decide) rfl)
  · rename_i heq; exact absurd (List.cons.inj heq).1 (hne '[' (by decide) rfl)
  · rename_i heq; exact absurd (List.cons.inj heq).1 (hne '\x7b' (by decide) rfl)
  · rfl

/-- The value at the front of a text is read back, and what follows it is left. -/
def ReadsBack (limit : Nat) (j : Json) : Prop :=
  ∀ budget rest, (writeChars j).length ≤ budget → Ends rest →
    readValue limit budget (writeChars j ++ rest) = some (j.asRead, rest)

/-- There is a step left for a text that is not empty. -/
theorem exists_budget {s : List Char} {budget : Nat} (hs : s ≠ []) (h : s.length ≤ budget) :
    ∃ less, budget = less + 1 := by
  have hpos := List.length_pos_iff.2 hs
  exact ⟨budget - 1, by omega⟩

variable {limit : Nat}

theorem readsBack_int {i : Int} (hleast : -9223372036854775808 ≤ i)
    (hgreatest : i < 18446744073709551616) : ReadsBack limit (int i) := by
  intro budget rest hbudget hends
  obtain ⟨c, tail, hwrite, hc⟩ := head?_writeInt i rest
  have hne : writeInt i ≠ [] := by
    rw [writeInt]
    split
    · exact List.cons_ne_nil _ _
    · exact write_ne_nil _
  obtain ⟨less, rfl⟩ := exists_budget hne hbudget
  rw [writeChars, hwrite, readValue_eq_readNumber? hc, ← hwrite,
    readNumber?_writeInt hleast hgreatest hends]
  rfl

theorem readsBack_str (s : String) : ReadsBack limit (str s) := by
  intro budget rest hbudget _
  obtain ⟨less, rfl⟩ := exists_budget (s := quote s) (List.cons_ne_nil _ _) hbudget
  obtain ⟨body, hquote, hread⟩ := readQuoted_quote less s rest hbudget
  rw [writeChars, hquote, readValue, skipSpace_of_not_isSpace rfl]
  simp [hread, asRead]

/-- The elements of an array are read back where each of them is. -/
theorem readElements_writeElements {v : Json} {elements : List Json}
    (h : ∀ j ∈ v :: elements, ReadsBack limit j) {budget : Nat}
    (hbudget : (writeChars v ++ writeElements elements).length ≤ budget) (rest : List Char) :
    readElements limit budget (writeChars v ++ (writeElements elements ++ rest)) =
      some (elementsAsRead (v :: elements), rest) := by
  induction elements generalizing v budget with
  | nil =>
    obtain ⟨less, rfl⟩ := exists_budget (by simp [writeElements]) hbudget
    simp only [writeElements, List.length_append, List.length_cons, List.length_nil] at hbudget
    rw [readElements, h v List.mem_cons_self less _ (by omega) (ends_writeElements [] rest)]
    rfl
  | cons w elements ih =>
    obtain ⟨less, rfl⟩ := exists_budget (by simp [writeElements]) hbudget
    simp only [writeElements, List.length_append, List.length_cons] at hbudget
    rw [readElements, h v List.mem_cons_self less _ (by omega) (ends_writeElements _ rest)]
    have hlength : (writeChars w ++ writeElements elements).length ≤ less := by
      rw [List.length_append]
      omega
    have hrest := ih (fun j hj => h j (List.mem_cons_of_mem _ hj)) hlength
    simp only [writeElements, List.cons_append, List.append_assoc,
      skipSpace_of_not_isSpace (c := ',') rfl, hrest]
    rfl

/-- The members of an object are read back where the value of each of them is. -/
theorem readMembers_writeMembers {m : String × Json} {members : List (String × Json)}
    (h : ∀ m' ∈ m :: members, ReadsBack limit m'.2) {budget : Nat}
    (hbudget : (quote m.1 ++ ':' :: writeChars m.2 ++ writeMembers members).length ≤ budget)
    (rest : List Char) :
    readMembers limit budget
        (quote m.1 ++ ':' :: (writeChars m.2 ++ (writeMembers members ++ rest))) =
      some (membersAsRead (m :: members), rest) := by
  induction members generalizing m budget with
  | nil =>
    obtain ⟨name, v⟩ := m
    obtain ⟨less, rfl⟩ := exists_budget (by simp [writeMembers]) hbudget
    simp only [writeMembers, List.length_append, List.length_cons, List.length_nil] at hbudget
    obtain ⟨body, hquote, hread⟩ := readQuoted_quote less name
      (':' :: (writeChars v ++ (writeMembers [] ++ rest))) (by omega)
    have hv := h (name, v) List.mem_cons_self less (writeMembers [] ++ rest) (by simp only; omega)
      (ends_writeMembers [] rest)
    rw [hquote, readMembers, skipSpace_of_not_isSpace rfl]
    simp only [hread, skipSpace_of_not_isSpace (c := ':') rfl, hv]
    rfl
  | cons m' members ih =>
    obtain ⟨name, v⟩ := m
    obtain ⟨name', v'⟩ := m'
    obtain ⟨less, rfl⟩ := exists_budget (by simp [writeMembers]) hbudget
    simp only [writeMembers, List.length_append, List.length_cons] at hbudget
    obtain ⟨body, hquote, hread⟩ := readQuoted_quote less name
      (':' :: (writeChars v ++ (writeMembers ((name', v') :: members) ++ rest))) (by omega)
    have hv := h (name, v) List.mem_cons_self less
      (writeMembers ((name', v') :: members) ++ rest) (by simp only; omega)
      (ends_writeMembers _ rest)
    have hlength : (quote name' ++ ':' :: writeChars v' ++ writeMembers members).length ≤ less := by
      simp only [List.length_append, List.length_cons]
      omega
    have hothers : ∀ m ∈ (name', v') :: members, ReadsBack limit m.2 := fun m hm =>
      h m (List.mem_cons_of_mem _ hm)
    have hrest := ih hothers hlength
    rw [hquote, readMembers, skipSpace_of_not_isSpace rfl]
    simp only [hread, skipSpace_of_not_isSpace (c := ':') rfl, hv]
    simp only [writeMembers, List.cons_append, List.append_assoc,
      skipSpace_of_not_isSpace (c := ',') rfl, hrest]
    rfl

theorem readsBack_of_readable {depth : Nat} {j : Json} (h : Readable depth j)
    (hdepth : depth ≤ limit) : ReadsBack limit j := by
  induction h generalizing limit with
  | null =>
    intro budget rest hbudget _
    obtain ⟨less, rfl⟩ := exists_budget (s := writeChars null) (List.cons_ne_nil _ _) hbudget
    rfl
  | bool _ b =>
    intro budget rest hbudget _
    cases b with
    | true =>
      obtain ⟨less, rfl⟩ := exists_budget (List.cons_ne_nil _ _) hbudget
      rfl
    | false =>
      obtain ⟨less, rfl⟩ := exists_budget (List.cons_ne_nil _ _) hbudget
      rfl
  | int _ i least greatest => exact readsBack_int least greatest
  | str _ s => exact readsBack_str s
  | @arr depth elements hreadable ih =>
    intro budget rest hbudget _
    have hlimit : limit ≠ 0 := by omega
    cases elements with
    | nil =>
      obtain ⟨less, rfl⟩ := exists_budget (List.cons_ne_nil _ _) hbudget
      rw [writeChars, List.cons_append, readValue, skipSpace_of_not_isSpace rfl]
      simp only [if_neg hlimit, List.cons_append, List.nil_append,
        skipSpace_of_not_isSpace (c := ']') rfl]
      rfl
    | cons v elements =>
      obtain ⟨less, rfl⟩ := exists_budget (List.cons_ne_nil _ _) hbudget
      obtain ⟨c, tail, hwrite, hspace, hc⟩ := head_writeChars (hreadable v List.mem_cons_self)
        (writeElements elements ++ rest)
      have hlength : (writeChars v ++ writeElements elements).length ≤ less := by
        simpa [writeChars] using hbudget
      have hinside : ∀ j ∈ v :: elements, ReadsBack (limit - 1) j := fun j hj => ih j hj (by omega)
      have hread := readElements_writeElements hinside hlength rest
      rw [writeChars, List.cons_append, List.cons_append, List.append_assoc, hwrite, readValue,
        skipSpace_of_not_isSpace rfl]
      simp only [if_neg hlimit, skipSpace_of_not_isSpace hspace]
      split
      · rename_i heq
        exact absurd (List.cons.inj heq).1 hc
      · rw [← hwrite, hread]
        rfl
  | @obj depth members hreadable ih =>
    intro budget rest hbudget _
    have hlimit : limit ≠ 0 := by omega
    cases members with
    | nil =>
      obtain ⟨less, rfl⟩ := exists_budget (List.cons_ne_nil _ _) hbudget
      rw [writeChars, List.cons_append, readValue, skipSpace_of_not_isSpace rfl]
      simp only [if_neg hlimit, List.cons_append, List.nil_append,
        skipSpace_of_not_isSpace (c := '\x7d') rfl]
      rfl
    | cons m members =>
      obtain ⟨name, v⟩ := m
      obtain ⟨less, rfl⟩ := exists_budget (List.cons_ne_nil _ _) hbudget
      have hlength : (quote name ++ ':' :: writeChars v ++ writeMembers members).length ≤ less := by
        simpa [writeChars] using hbudget
      have hinside : ∀ m ∈ (name, v) :: members, ReadsBack (limit - 1) m.2 := fun m hm =>
        ih m hm (by omega)
      have hread := readMembers_writeMembers hinside hlength rest
      have hwrite : writeChars (obj ((name, v) :: members)) ++ rest =
          '\x7b' :: (quote name ++ ':' :: (writeChars v ++ (writeMembers members ++ rest))) := by
        simp [writeChars]
      have hspace :
          skipSpace (quote name ++ ':' :: (writeChars v ++ (writeMembers members ++ rest))) =
            quote name ++ ':' :: (writeChars v ++ (writeMembers members ++ rest)) :=
        skipSpace_of_not_isSpace rfl _
      rw [hwrite, readValue, skipSpace_of_not_isSpace rfl]
      simp only [if_neg hlimit, hspace]
      split
      · rename_i heq
        cases heq
      · rw [hread]
        rfl

/-- What is read back from the text of a value that nests no deeper than texts may. -/
theorem ofText?_toText {j : Json} (h : Readable greatestDepth j) :
    ofText? j.toText = some j.asRead := by
  have hread := readsBack_of_readable h (Nat.le_refl greatestDepth)
    (2 * (writeChars j).length + 2) [] (by omega) (by rintro c ⟨⟩)
  rw [List.append_nil] at hread
  rw [ofText?, toText, String.toList_ofList]
  simp [hread, skipSpace]

end Promotions.Json

import Promotions.Calendar.Reader

/-!
# Annotations of dates and times

Annotations stand in brackets behind a date or a time, as RFC 9557 has them: first a time zone, by
its offset or its name, and then settings with a key and a value. They are checked and passed over.
A zone may be marked as critical; a setting may not, because none is known.
-/

namespace Promotions.Calendar

/-- What stands in brackets at the front, and what follows. -/
def bracketed? : Reader (List Char)
  | '[' :: rest =>
    match rest.dropWhile (· ≠ ']') with
    | _ :: after => some (rest.takeWhile (· ≠ ']'), after)
    | [] => none
  | _ => none

theorem length_lt_of_bracketed? {s body rest : List Char} (h : bracketed? s = some (body, rest)) :
    rest.length < s.length := by
  unfold bracketed? at h
  split at h
  · next tail =>
    split at h
    · next c after hd =>
      have hle : (tail.dropWhile (· ≠ ']')).length ≤ tail.length :=
        (List.dropWhile_sublist _).length_le
      rw [hd] at hle
      simp only [Option.some.injEq, Prod.mk.injEq] at h
      rw [← h.2]
      simp only [List.length_cons] at hle ⊢
      omega
    · exact absurd h (by simp)
  · exact absurd h (by simp)

/-- Characters of which the first satisfies `first` and the others satisfy `later`. -/
def isWord (first later : Char → Bool) : List Char → Bool
  | c :: rest => first c && rest.all later
  | [] => false

/-- A part of the name of a time zone. -/
def isZoneName : List Char → Bool :=
  isWord (fun c => c.isAlpha || c = '_' || c = '.')
    fun c => c.isAlphanum || c = '_' || c = '.' || c = '+' || c = '-'

/-- The key of a setting. -/
def isKey : List Char → Bool :=
  isWord (fun c => c.isLower || c = '_') fun c => c.isLower || c.isDigit || c = '_' || c = '-'

/-- A part of the value of a setting. -/
def isValuePart : List Char → Bool := isWord Char.isAlphanum Char.isAlphanum

/-- The hours and minutes of an offset, behind its sign. -/
def isMinuteOffset (s : List Char) : Bool :=
  (fixed 2 s).any fun (hour, rest) =>
    let minutes := if rest.head? = some ':' then rest.tail else rest
    decide (hour ≤ 25) && (rest.isEmpty || (whole (fixed 2 minutes)).any (· < 60))

/-- A time zone: an offset, or names with slashes between them; it may be marked as critical. -/
def isZone (body : List Char) : Bool :=
  let body := if body.head? = some '!' then body.tail else body
  match body with
  | '+' :: rest => isMinuteOffset rest
  | '-' :: rest => isMinuteOffset rest
  | body => (body.splitOn '/').all isZoneName

/-- A setting: a key, and the parts of a value with hyphens between them. -/
def isSetting (body : List Char) : Bool :=
  isKey (body.takeWhile (· ≠ '=')) &&
    match body.dropWhile (· ≠ '=') with
    | _ :: value => (value.splitOn '-').all isValuePart
    | [] => false

/-- The text after the settings at its front. -/
def skipSettings (s : List Char) : Option (List Char) :=
  if s.head? = some '[' then
    match h : bracketed? s with
    | some (body, rest) =>
      have := length_lt_of_bracketed? h
      if isSetting body then skipSettings rest else none
    | none => none
  else some s
termination_by s.length

/-- The text after the annotations at its front. -/
def skipAnnotations (s : List Char) : Option (List Char) :=
  match bracketed? s with
  | some (body, rest) => if isZone body then skipSettings rest else skipSettings s
  | none => skipSettings s

end Promotions.Calendar

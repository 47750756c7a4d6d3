/-
# The magnitude a text starts with

A quantity is written as a magnitude with a unit symbol after it, with or without blanks
between them.  The magnitude is the longest start of the text that reads as a sign, digits, a
point with digits, and an exponent; an `e` belongs to it only when digits follow.

`magnitudeLength` scans the bytes of a text for it, index by index, and `splitMagnitude` splits it
off the characters.  Nothing of the text is lost in that (`splitMagnitude_append`).
-/
import GridRecords.Decimal.Numeral

namespace GridRecords.Quantity

open Text

/-! ## On bytes -/

/-- Whether a byte is that of a digit. -/
def isDigitByte (b : UInt8) : Bool := '0'.toUInt8 ≤ b && b ≤ '9'.toUInt8

/-- The index behind the digits that stand at an index. -/
def digitsFrom (bytes : List UInt8) (i : Nat) : Nat :=
  if bytes[i]?.any isDigitByte then digitsFrom bytes (i + 1) else i
termination_by bytes.length - i
decreasing_by
  rename_i digit
  have inside : i < bytes.length := by
    refine Nat.lt_of_not_le fun beyond => ?_
    rw [List.getElem?_eq_none beyond] at digit
    cases digit
  omega

/-- The index behind the sign that may stand at an index. -/
def signFrom (bytes : List UInt8) (i : Nat) : Nat :=
  if bytes[i]? = some '+'.toUInt8 ∨ bytes[i]? = some '-'.toUInt8 then i + 1 else i

/-- The index behind the point that may stand at an index, and the digits behind it. -/
def fractionFrom (bytes : List UInt8) (i : Nat) : Nat :=
  if bytes[i]? = some '.'.toUInt8 then digitsFrom bytes (i + 1) else i

/-- The index behind the exponent that may stand at an index.  Without a digit there is none. -/
def exponentFrom (bytes : List UInt8) (i : Nat) : Nat :=
  if bytes[i]? = some 'e'.toUInt8 ∨ bytes[i]? = some 'E'.toUInt8 then
    let start := signFrom bytes (i + 1)
    let stop := digitsFrom bytes start
    if start < stop then stop else i
  else i

/-- The number of bytes of the magnitude that a text starts with. -/
def magnitudeLength (text : String) : Nat :=
  let bytes := text.toUTF8.data.toList
  exponentFrom bytes (fractionFrom bytes (digitsFrom bytes (signFrom bytes 0)))

/-! ## On characters -/

/-- An optional sign, and the text after it. -/
def splitSign : List Char → List Char × List Char
  | '+' :: rest => (['+'], rest)
  | '-' :: rest => (['-'], rest)
  | s => ([], s)

/-- An optional point with the digits after it, and the text after them. -/
def splitFraction : List Char → List Char × List Char
  | '.' :: rest => ('.' :: (takeDigits rest).1, (takeDigits rest).2)
  | s => ([], s)

/-- An optional exponent with at least one digit, and the text after it. -/
def splitExponent : List Char → List Char × List Char
  | [] => ([], [])
  | c :: rest =>
    let (sign, afterSign) := splitSign rest
    let (digits, afterDigits) := takeDigits afterSign
    if (c = 'e' ∨ c = 'E') ∧ digits ≠ [] then (c :: sign ++ digits, afterDigits)
    else ([], c :: rest)

/-- The magnitude a text starts with, and the text after it. -/
def splitMagnitude (s : List Char) : List Char × List Char :=
  let (sign, s) := splitSign s
  let (whole, s) := takeDigits s
  let (fraction, s) := splitFraction s
  let (exponent, s) := splitExponent s
  (sign ++ whole ++ fraction ++ exponent, s)

/-! ## Nothing is lost -/

theorem splitSign_append (s : List Char) : (splitSign s).1 ++ (splitSign s).2 = s := by
  unfold splitSign; split <;> rfl

theorem splitFraction_append (s : List Char) :
    (splitFraction s).1 ++ (splitFraction s).2 = s := by
  unfold splitFraction
  split
  · simp [takeDigits_append]
  · rfl

theorem splitExponent_append (s : List Char) :
    (splitExponent s).1 ++ (splitExponent s).2 = s := by
  cases s with
  | nil => rfl
  | cons c rest =>
    simp only [splitExponent]
    split
    · simp [takeDigits_append, splitSign_append]
    · rfl

/-- The magnitude and what follows it make up the text. -/
theorem splitMagnitude_append (s : List Char) :
    (splitMagnitude s).1 ++ (splitMagnitude s).2 = s := by
  simp [splitMagnitude, splitExponent_append, splitFraction_append, takeDigits_append,
    splitSign_append]

end GridRecords.Quantity

/-
# Numbers and points in time of TOML text

Underscores may stand between the digits of a number.  Points in time are only recognised.
-/
import GridRecords.Decimal.Numeral
import GridRecords.Time.Reader
import GridRecords.Toml.Text
import GridRecords.Toml.Value

namespace GridRecords.Toml

open Text

-- powers are those of the core library, whatever else is imported beside this module
attribute [local instance (2000)] instPowNat

/-! ## Numbers -/

/-- The digits that continue a number, underscores between them removed. -/
def moreDigits (isDigit : Char → Bool) : List Char → Option (List Char × List Char)
  | '_' :: c :: rest => do
    if isDigit c then
      let (cs, rest) ← moreDigits isDigit rest
      some (c :: cs, rest)
    else none
  | '_' :: [] => none
  | c :: rest => do
    if isDigit c then
      let (cs, rest) ← moreDigits isDigit rest
      some (c :: cs, rest)
    else some ([], c :: rest)
  | [] => some ([], [])

/-- One or more digits, underscores between them removed. -/
def someDigits (isDigit : Char → Bool) : List Char → Option (List Char × List Char)
  | c :: rest => do
    if isDigit c then
      let (cs, rest) ← moreDigits isDigit rest
      some (c :: cs, rest)
    else none
  | [] => none

/-- The digits of a whole number: one zero, or digits that do not start with one. -/
def wholeDigits : List Char → Option (List Char × List Char)
  | '0' :: rest => some (['0'], rest)
  | s => someDigits isDigit s

/-- A sign as it was written. -/
def signOf : List Char → List Char × List Char
  | '-' :: rest => (['-'], rest)
  | '+' :: rest => (['+'], rest)
  | s => ([], s)

/-- A whole number within sixty-four bits. -/
def word64? (n : Int) : Option Toml :=
  if -(2 ^ (63 : Nat)) ≤ n ∧ n < 2 ^ (63 : Nat) then some (.integer n) else none

/-- A whole number in a base with a mark. -/
def readBased (base : Nat) (isDigit : Char → Bool) (s : List Char) :
    Option (Toml × List Char) := do
  let (digits, rest) ← someDigits isDigit s
  let n := (← digits.mapM hexValue?).foldl (fun n d => base * n + d) 0
  some (← word64? n, rest)

/-- An optional fraction, with its point. -/
def fractionDigits : List Char → Option (List Char × List Char)
  | '.' :: rest => (someDigits isDigit rest).map fun (ds, rest) => ('.' :: ds, rest)
  | s => some ([], s)

/-- An optional exponent, with its mark. -/
def exponentDigits : List Char → Option (List Char × List Char)
  | [] => some ([], [])
  | c :: rest => do
    if c = 'e' ∨ c = 'E' then
      let (sign, rest) := signOf rest
      let (ds, rest) ← someDigits isDigit rest
      some ('e' :: sign ++ ds, rest)
    else some ([], c :: rest)

/-- Whether the digits of a number with a fraction stand for no more than the greatest double. -/
def isReadable (digits : List Char) : Bool :=
  match Decimal.Numeral.ofText? digits with
  | some n => n.negative || n.toFloat.isFinite
  | none => false

/-- A decimal number. -/
def readDecimal (s : List Char) : Option (Toml × List Char) := do
  let (sign, rest) := signOf s
  let (whole, rest) ← wholeDigits rest
  let (fraction, rest) ← fractionDigits rest
  let (exponent, rest) ← exponentDigits rest
  if fraction.isEmpty && exponent.isEmpty then
    let n : Int := digitsValue whole
    some (← word64? (if sign = ['-'] then -n else n), rest)
  else if isReadable (sign ++ whole ++ fraction ++ exponent) then some (.float, rest)
  else none

/-- The text after one of the words for infinity and for what is no number. -/
def dropSpecial? : List Char → Option (List Char)
  | 'i' :: 'n' :: 'f' :: rest => some rest
  | 'n' :: 'a' :: 'n' :: rest => some rest
  | _ => none

/-- A number. -/
def readNumber (s : List Char) : Option (Toml × List Char) :=
  match s with
  | '0' :: 'x' :: rest => readBased 16 (fun c => (hexValue? c).isSome) rest
  | '0' :: 'o' :: rest => readBased 8 (fun c => '0' ≤ c && c ≤ '7') rest
  | '0' :: 'b' :: rest => readBased 2 (fun c => c == '0' || c == '1') rest
  | _ =>
    match dropSpecial? (signOf s).2 with
    | some rest => some (.float, rest)
    | none => readDecimal s

/-! ## Points in time -/

/-- The text after a time of day. -/
def dropTime? (s : List Char) : Option (List Char) := do
  let (hour, rest) ← Timestamp.twoDigits? s
  let (minute, rest) ← Timestamp.twoDigits? (← Timestamp.dropChar? ':' rest)
  let (second, rest) ← Timestamp.twoDigits? (← Timestamp.dropChar? ':' rest)
  let (_, rest) ← Timestamp.readFraction? rest
  if hour ≤ 23 ∧ minute ≤ 59 ∧ second ≤ 60 then some rest else none

/-- The text after an optional offset. -/
def skipOffset : List Char → List Char
  | 'Z' :: rest | 'z' :: rest => rest
  | s@('+' :: _) | s@('-' :: _) => ((Timestamp.readOffset? s).map (·.2)).getD s
  | s => s

/-- The text after a date. -/
def dropDate? (s : List Char) : Option (List Char) := do
  let (century, rest) ← Timestamp.twoDigits? s
  let (year, rest) ← Timestamp.twoDigits? rest
  let (month, rest) ← Timestamp.twoDigits? (← Timestamp.dropChar? '-' rest)
  let (day, rest) ← Timestamp.twoDigits? (← Timestamp.dropChar? '-' rest)
  if 1 ≤ month ∧ month ≤ 12 ∧ 1 ≤ day ∧ day ≤ daysInMonth (century * 100 + year : Nat) month then
    some rest
  else none

/-- The text after a date with a time of day and an offset, each of them optional, or after a time
of day. -/
def dropMoment? (s : List Char) : Option (List Char) :=
  match dropDate? s with
  | none => dropTime? s
  | some (c :: rest) =>
    if c = 'T' ∨ c = 't' ∨ c = ' ' then
      match dropTime? rest with
      | some rest => some (skipOffset rest)
      | none => some (c :: rest)
    else some (c :: rest)
  | some [] => some []

/-- A number or a point in time. -/
def readScalar (s : List Char) : Option (Toml × List Char) :=
  match dropMoment? s with
  | some rest => some (.moment, rest)
  | none => readNumber s

end GridRecords.Toml

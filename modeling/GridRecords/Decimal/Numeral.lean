/-
# Reading decimal numerals

A numeral is an optional sign, digits with an optional point among them, at least one digit,
and an optional exponent.  It stands for the double nearest to its exact value.
-/
import GridRecords.Decimal.Shortest
import GridRecords.Text.Digit

namespace GridRecords.Decimal

open Text

/-- An exact decimal value `digits * 10 ^ scale` with its sign. -/
structure Numeral where
  negative : Bool
  digits : Nat
  scale : Int
deriving DecidableEq, Repr

/-- Reads the exponent that must end a numeral: nothing, or `e` with a signed whole number. -/
def readExponent? : List Char → Option Int
  | [] => some 0
  | c :: rest =>
    if c = 'e' ∨ c = 'E' then
      let (negative, digits) := takeSign rest
      if digits.isEmpty || !digits.all isDigit then none
      else some (if negative then -(digitsValue digits : Int) else digitsValue digits)
    else none

/-- Reads a whole text as a numeral. -/
def Numeral.ofText? (s : List Char) : Option Numeral :=
  let (negative, s) := takeSign s
  let (whole, s) := takeDigits s
  let (fraction, s) := match s with
    | '.' :: rest => takeDigits rest
    | _ => ([], s)
  if whole.isEmpty && fraction.isEmpty then none
  else
    (readExponent? s).map fun exponent =>
      ⟨negative, digitsValue (whole ++ fraction), exponent - fraction.length⟩

/-- Positive infinity. -/
def infinity : Float := 1.0 / 0.0

/-- The value that is no number. -/
def notANumber : Float := 0.0 / 0.0

/-- The double nearest to `digits * 10 ^ scale`.  Beyond `10 ^ 310` that is infinity and below
`10 ^ -330` it is zero, so that huge exponents cost nothing. -/
def nearestFloat (digits : Nat) (scale : Int) : Float :=
  let point := (width digits : Int) + scale
  if digits = 0 ∨ point < -330 then 0.0
  else if 310 < point then infinity
  else Float.ofScientific digits (scale < 0) scale.natAbs

/-- The double nearest to a numeral; a minus before a zero is kept. -/
def Numeral.toFloat (n : Numeral) : Float :=
  let x := nearestFloat n.digits n.scale
  if n.negative then -x else x

/-- Reads a number: a numeral, an infinity or the value that is no number. -/
def readFloat? (s : List Char) : Option Float :=
  let (negative, name) := takeSign s
  let lower := name.map Char.toLower
  let sign (x : Float) := if negative then -x else x
  if lower = ['n', 'a', 'n'] then some notANumber
  else if lower = ['i', 'n', 'f'] ∨ lower = ['i', 'n', 'f', 'i', 'n', 'i', 't', 'y'] then
    some (sign infinity)
  else (Numeral.ofText? s).map Numeral.toFloat

end GridRecords.Decimal

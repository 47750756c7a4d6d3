/-
# Fixed decimal places

Quantities in messages have four decimal places.  The exact binary value is rounded; a tie
goes to the even neighbour.
-/
import GridRecords.Decimal.Layout

namespace GridRecords.Decimal

-- powers are those of the core library, whatever else is imported beside this module
attribute [local instance (2000)] instPowNat

/-- The whole number nearest to `num / den`; a tie goes to the even one. -/
def roundToEven (num den : Nat) : Nat :=
  let below := num / den
  match compare (2 * (num % den)) den with
  | .lt => below
  | .gt => below + 1
  | .eq => if below % 2 = 0 then below else below + 1

/-- The absolute value of a magnitude in units of `10 ^ -places`, rounded. -/
def Binary.rounded (places : Nat) (b : Binary) : Nat :=
  roundToEven (b.significand * 2 ^ b.exponent.toNat * 10 ^ places) (2 ^ (-b.exponent).toNat)

/-- A number of units of `10 ^ -places`, written with that many decimal places. -/
def fixedDigits (places n : Nat) : List Char :=
  let fraction := Nat.toDigits 10 (n % 10 ^ places)
  Nat.toDigits 10 (n / 10 ^ places) ++ '.' :: (zeros (places - fraction.length) ++ fraction)

/-- Text of a double with a fixed number of decimal places. -/
def fixed (places : Nat) (x : Float) : String :=
  match Reading.ofFloat x with
  | .nan => "NaN"
  | .infinite negative => String.ofList (signed negative ['i', 'n', 'f'])
  | .finite b => String.ofList (signed b.negative (fixedDigits places (b.rounded places)))

end GridRecords.Decimal

/-
# Doubles as integers times powers of two

Number texts are chosen by exact integer arithmetic.  This module takes a double apart into
sign, significand and exponent, and gives the interval of the reals that round to it.
-/

namespace GridRecords.Decimal

-- powers are those of the core library, whatever else is imported beside this module
attribute [local instance (2000)] instPowNat

/-- A finite magnitude `significand * 2 ^ exponent` with its sign. -/
structure Binary where
  negative : Bool
  significand : Nat
  exponent : Int
deriving DecidableEq, Repr

/-- What the encoding of a double stands for. -/
inductive Reading where
  | nan
  | infinite (negative : Bool)
  | finite (value : Binary)
deriving DecidableEq, Repr

/-- Least exponent of a double, that of the subnormal numbers. -/
def leastExponent : Int := -1074

/-- Reads the encoding of a double: one sign bit, eleven bits of exponent, fifty-two bits of
fraction. -/
def Reading.ofBits (bits : UInt64) : Reading :=
  let field : Nat := bits.toNat / 2 ^ (52 : Nat) % 2 ^ (11 : Nat)
  let fraction : Nat := bits.toNat % 2 ^ (52 : Nat)
  let negative := bits.toNat / 2 ^ (63 : Nat) = 1
  if field = 2047 then
    if fraction = 0 then .infinite negative else .nan
  else if field = 0 then .finite ⟨negative, fraction, leastExponent⟩
  else .finite ⟨negative, 2 ^ (52 : Nat) + fraction, (field : Int) - 1075⟩

/-- Reads a double. -/
def Reading.ofFloat (x : Float) : Reading := .ofBits x.toBits

/-! ## The reals that round to a magnitude -/

/-- The numbers between `lower / unit` and `upper / unit` around `value / unit`; the two ends
belong to it when it is `closed`. -/
structure Interval where
  lower : Nat
  value : Nat
  upper : Nat
  unit : Nat
  closed : Bool
deriving Repr

/-- The reals that round to the absolute value of a magnitude.  The gap below a power of two
is half the gap above it, and a tie goes to the even significand. -/
def Binary.interval (b : Binary) : Interval :=
  let below := if b.significand = 2 ^ (52 : Nat) ∧ leastExponent < b.exponent then 1 else 2
  let scale := 2 ^ (b.exponent - 2).toNat
  { lower := (4 * b.significand - below) * scale
    value := 4 * b.significand * scale
    upper := (4 * b.significand + 2) * scale
    unit := 2 ^ (2 - b.exponent).toNat
    closed := b.significand % 2 = 0 }

/-- The interval measured in units of `10 ^ place`. -/
def Interval.atPlace (i : Interval) (place : Int) : Interval :=
  let up := 10 ^ (-place).toNat
  { i with
    lower := i.lower * up
    value := i.value * up
    upper := i.upper * up
    unit := i.unit * 10 ^ place.toNat }

/-- Whether a whole number of units lies in the interval. -/
def Interval.holds (i : Interval) (n : Nat) : Bool :=
  if i.closed then i.lower ≤ n * i.unit && n * i.unit ≤ i.upper
  else i.lower < n * i.unit && n * i.unit < i.upper

end GridRecords.Decimal

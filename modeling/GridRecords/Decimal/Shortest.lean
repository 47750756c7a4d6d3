/-
# The fewest digits that read back

A double is written with the fewest decimal digits that round to it, and among those with the
digits nearest to its value.  For one, two, … seventeen digits the two neighbours of the value
on that decimal grid are tested in exact arithmetic; the first grid with a hit is taken.
-/
import GridRecords.Decimal.Binary

namespace GridRecords.Decimal

-- powers are those of the core library, whatever else is imported beside this module
attribute [local instance (2000)] instPowNat

/-- Which of two equally near texts is taken. -/
inductive Tie where
  | up
  | toEven
deriving DecidableEq, Repr

/-- Decimal digits with their point: `0.d₁d₂…` times `10 ^ point`. -/
structure Digits where
  digits : List Char
  point : Int
deriving DecidableEq, Repr

/-- Number of decimal digits of a natural number; zero has one. -/
def width (n : Nat) : Nat := (Nat.toDigits 10 n).length

/-- The digits of `n` without the zeros at its end, for the value `n * 10 ^ place`. -/
def Digits.ofNat (n : Nat) (place : Int) : Digits :=
  if n = 0 then ⟨['0'], 1⟩
  else
    let digits := Nat.toDigits 10 n
    ⟨(digits.reverse.dropWhile (· == '0')).reverse, digits.length + place⟩

/-- The number of digits before the point, or minus the number of zeros after it. -/
def Interval.point (i : Interval) : Int :=
  let p : Int := (width i.value : Int) - width i.unit
  if i.unit * 10 ^ p.toNat ≤ i.value * 10 ^ (-p).toNat then p + 1 else p

/-- The nearer of the value's two neighbours among the whole units, of those that lie in the
interval. -/
def Interval.nearest? (i : Interval) (tie : Tie) : Option Nat :=
  let below := i.value / i.unit
  match i.holds below, i.holds (below + 1) with
  | false, false => none
  | true, false => some below
  | false, true => some (below + 1)
  | true, true =>
    match compare (2 * (i.value % i.unit)) i.unit with
    | .lt => some below
    | .gt => some (below + 1)
    | .eq => some (if tie = .toEven ∧ below % 2 = 0 then below else below + 1)

/-- Seventeen digits tell any two doubles apart. -/
def mostDigits : Nat := 17

/-- The fewest digits that round to the absolute value of a magnitude. -/
def Binary.shortest (tie : Tie) (b : Binary) : Digits :=
  if b.significand = 0 then ⟨['0'], 1⟩
  else
    let interval := b.interval
    let point := interval.point
    let found := (List.range mostDigits).findSome? fun k =>
      let place := point - (k + 1 : Nat)
      ((interval.atPlace place).nearest? tie).map (Digits.ofNat · place)
    found.getD (.ofNat (interval.value / interval.unit) 0)

end GridRecords.Decimal

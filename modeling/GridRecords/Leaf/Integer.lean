/-
# Whole numbers in fields

A whole number is an optional sign and digits, within sixty-four bits.  The text is read from
the left, so a number that grows too large is reported before anything that follows it.
-/
import GridRecords.Text.Digit

namespace GridRecords

open Text

-- powers are those of the core library, whatever else is imported beside this module
attribute [local instance (2000)] instPowNat

/-- Why a text is no whole number. -/
inductive IntegerFault where
  | invalidDigit
  | tooLarge
  | tooSmall
deriving DecidableEq, Repr

/-- Wording of a fault. -/
def IntegerFault.message : IntegerFault → String
  | .invalidDigit => "invalid digit found in string"
  | .tooLarge => "number too large to fit in target type"
  | .tooSmall => "number too small to fit in target type"

/-- Reads digits into a number of at most `bound`, `n` being read already. -/
def readBounded (bound : Nat) (beyond : IntegerFault) (n : Nat) :
    List Char → Except IntegerFault Nat
  | [] => .ok n
  | c :: rest =>
    if !isDigit c then .error .invalidDigit
    else if bound < 10 * n + digitValue c then .error beyond
    else readBounded bound beyond (10 * n + digitValue c) rest

/-- Reads a whole number of sixty-four bits. -/
def readInteger (s : List Char) : Except IntegerFault Int :=
  match takeSign s with
  | (_, []) => .error .invalidDigit
  | (true, digits) => (readBounded (2 ^ (63 : Nat)) .tooSmall 0 digits).map fun n => -(n : Int)
  | (false, digits) => (readBounded (2 ^ (63 : Nat) - 1) .tooLarge 0 digits).map fun n => (n : Int)

end GridRecords

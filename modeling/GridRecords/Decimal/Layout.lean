/-
# Layouts of number texts

A layout says how chosen digits are laid out: which values are written positionally, which
end in `.0`, and how a tie between two equally short texts is broken.  Three layouts are used:
`plain` in messages, `amount` in record fields and `coordinate` in points.
-/
import GridRecords.Decimal.Shortest

namespace GridRecords.Decimal

/-- How the digits of a double are laid out. -/
structure Layout where
  tie : Tie
  /-- whether a whole number with that many digits before the point ends in `.0` -/
  keepsPoint : Int → Bool
  /-- whether a value with its point there is written without an exponent -/
  positional : Int → Bool

/-- A run of zeros. -/
def zeros (n : Nat) : List Char := List.replicate n '0'

/-- Digits written without an exponent. -/
def Digits.positional (d : Digits) (keepsPoint : Bool) : List Char :=
  let whole := d.point.toNat
  if d.point ≤ 0 then ['0', '.'] ++ zeros (-d.point).toNat ++ d.digits
  else if d.digits.length ≤ whole then
    d.digits ++ zeros (whole - d.digits.length) ++ (if keepsPoint then ['.', '0'] else [])
  else d.digits.take whole ++ '.' :: d.digits.drop whole

/-- Digits written with one digit before the point and an exponent. -/
def Digits.exponential (d : Digits) : List Char :=
  let mantissa := match d.digits with
    | [] => []
    | [c] => [c]
    | c :: rest => c :: '.' :: rest
  mantissa ++ 'e' :: (toString (d.point - 1)).toList

/-- A minus sign for negative values, negative zero included. -/
def signed (negative : Bool) (s : List Char) : List Char := if negative then '-' :: s else s

/-- Text of a finite magnitude. -/
def Layout.finite (layout : Layout) (b : Binary) : List Char :=
  let digits := b.shortest layout.tie
  signed b.negative <|
    if layout.positional digits.point then digits.positional (layout.keepsPoint digits.point)
    else digits.exponential

/-- Text of any double. -/
def Layout.text (layout : Layout) (x : Float) : String :=
  match Reading.ofFloat x with
  | .nan => "NaN"
  | .infinite negative => String.ofList (signed negative ['i', 'n', 'f'])
  | .finite b => String.ofList (layout.finite b)

/-- Text of a finite double only. -/
def Layout.finiteText? (layout : Layout) (x : Float) : Option String :=
  match Reading.ofFloat x with
  | .finite b => some (String.ofList (layout.finite b))
  | _ => none

/-! ## The layouts in use -/

/-- Numbers in messages: never an exponent, no `.0`, a tie goes up. -/
def plain : Layout := ⟨.up, fun _ => false, fun _ => true⟩

/-- Magnitudes in record fields: never an exponent, whole numbers below `10 ^ 15` end in `.0`. -/
def amount : Layout := ⟨.up, fun point => point ≤ 15, fun _ => true⟩

/-- Ordinates of a point: an exponent below `10 ^ -5` and from `10 ^ 16` on, `.0` on whole
numbers, and a tie goes to the even digit. -/
def coordinate : Layout := ⟨.toEven, fun _ => true, fun point => -5 < point && point ≤ 16⟩

end GridRecords.Decimal

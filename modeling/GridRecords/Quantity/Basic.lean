/-
# Quantities

A quantity is a magnitude with its unit.  Text is read in a declared unit: a bare magnitude is
taken to be in it, a magnitude with a symbol of the same family is converted into it.
-/
import GridRecords.Decimal.Fixed
import GridRecords.Quantity.Magnitude
import GridRecords.Quantity.MeasureUnit
import GridRecords.Text.Blank

namespace GridRecords

/-- A magnitude with its unit.  Two quantities are compared by `==` on their magnitudes, so
the two zeros are the same and the value that is no number differs from itself. -/
structure Quantity where
  value : Float
  unit : MeasureUnit
deriving BEq, Repr

/-- Why a quantity could not be read or converted. -/
inductive UnitFault where
  | familyMismatch (source target : MeasureUnit)
  | unknownSymbol (symbol : String) (family : UnitFamily)
  | malformed (text : String)
deriving DecidableEq, Repr

/-- Wording of a unit error. -/
def UnitFault.message : UnitFault → String
  | .familyMismatch source target =>
    s!"cannot convert {source.symbol} into {target.symbol}: different unit families"
  | .unknownSymbol symbol family => s!"'{symbol}' is not a known {family.name} unit"
  | .malformed text => s!"'{text}' is not a decimal magnitude"

namespace Quantity

/-- Whether the magnitude is neither infinite nor undefined. -/
def isFinite (q : Quantity) : Bool := q.value.isFinite

/-- Expresses a quantity in another unit of its family.  In its own unit it is unchanged. -/
def convert (q : Quantity) (target : MeasureUnit) : Except UnitFault Quantity :=
  if q.unit = target then .ok q
  else if q.unit.family = target.family then
    let base := q.value * q.unit.row.scale + q.unit.row.offset
    .ok ⟨(base - target.row.offset) / target.row.scale, target⟩
  else .error (.familyMismatch q.unit target)

/-- Reads a magnitude with an optional unit symbol, in a declared unit. -/
def read (text : String) (declared : MeasureUnit) : Except UnitFault Quantity :=
  let text := Text.trim text.toList
  let (magnitude, rest) := splitMagnitude text
  match (Decimal.Numeral.ofText? magnitude).map Decimal.Numeral.toFloat with
  | none => .error (.malformed (String.ofList text))
  | some value =>
    if !value.isFinite then .error (.malformed (String.ofList text))
    else
      let symbol := String.ofList (Text.trim rest)
      if symbol.isEmpty then .ok ⟨value, declared⟩
      else match MeasureUnit.ofSymbol? symbol declared.family with
        | some unit => convert ⟨value, unit⟩ declared
        | none => .error (.unknownSymbol symbol declared.family)

/-- A quantity in messages: four decimal places and the symbol. -/
def text (q : Quantity) : String := Decimal.fixed 4 q.value ++ " " ++ q.unit.symbol

/-- A conversion is refused exactly across families. -/
theorem convert_isOk_iff (q : Quantity) (target : MeasureUnit) :
    (∃ r, q.convert target = .ok r) ↔ q.unit.family = target.family := by
  unfold convert
  by_cases same : q.unit = target
  · simp [same]
  · by_cases family : q.unit.family = target.family <;> simp [same, family]

/-- What comes out of a conversion is in the unit asked for. -/
theorem unit_of_convert {q r : Quantity} {target : MeasureUnit} (h : q.convert target = .ok r) :
    r.unit = target := by
  unfold convert at h
  split at h
  · cases h; assumption
  · split at h <;> cases h
    rfl

end Quantity

end GridRecords

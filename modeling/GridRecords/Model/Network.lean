/-
# The electrical network

Voltage levels, nodes, lines with their types, and the drawings of lines.  Quantities are held
in the unit that each field names.
-/
import GridRecords.Geo.Point
import GridRecords.Model.Operation

namespace GridRecords

/-- A voltage level a node belongs to. -/
structure VoltageLevel where
  id : String
  /-- in kilovolts -/
  nominalVoltage : Quantity
deriving BEq, Repr

/-- A voltage level with a nominal voltage from zero on. -/
def VoltageLevel.checked (id : String) (nominalVoltage : Quantity) :
    Except Violation VoltageLevel := do
  let nominalVoltage ← heldIn "nominal voltage" nominalVoltage .kilovolt
  atLeastZero "nominal voltage" nominalVoltage.value
  return ⟨id, nominalVoltage⟩

/-- A node of the network. -/
structure Node extends Asset where
  /-- target voltage magnitude, per unit -/
  vTarget : Quantity
  slack : Bool
  geoPosition : Option GeoPoint
  voltageLevel : VoltageLevel
  subnet : UInt32
deriving BEq, Repr

/-- A node whose subnet is a number from zero on. -/
def Node.checked (asset : Asset) (vTarget : Quantity) (slack : Bool)
    (geoPosition : Option GeoPoint) (voltageLevel : VoltageLevel) (subnet : Int) :
    Except Violation Node := do
  let vTarget ← heldIn "target voltage" vTarget .perUnit
  match word? subnet with
  | some subnet => return { asset with vTarget, slack, geoPosition, voltageLevel, subnet }
  | none => throw (.subnet subnet)

/-- Electrical parameters that lines of one type share. -/
structure LineType where
  uuid : Uuid
  id : String
  /-- susceptance to ground, in microsiemens per kilometre -/
  b : Quantity
  /-- conductance to ground, in microsiemens per kilometre -/
  g : Quantity
  /-- resistance, in ohms per kilometre -/
  r : Quantity
  /-- reactance, in ohms per kilometre -/
  x : Quantity
  /-- greatest thermal current, in amperes -/
  iMax : Quantity
  /-- rated voltage, in kilovolts -/
  vRated : Quantity
deriving BEq, Repr

/-- A line type whose parameters, the rated voltage apart, are numbers from zero on. -/
def LineType.checked (uuid : Uuid) (id : String) (b g r x iMax vRated : Quantity) :
    Except Violation LineType := do
  let b ← heldIn "b" b .microsiemensPerKilometre
  let g ← heldIn "g" g .microsiemensPerKilometre
  let r ← heldIn "r" r .ohmPerKilometre
  let x ← heldIn "x" x .ohmPerKilometre
  let iMax ← heldIn "maximum current" iMax .ampere
  let vRated ← heldIn "rated voltage" vRated .kilovolt
  atLeastZero "b" b.value
  atLeastZero "g" g.value
  atLeastZero "r" r.value
  atLeastZero "x" x.value
  atLeastZero "maximum current" iMax.value
  return { uuid, id, b, g, r, x, iMax, vRated }

/-- A line between two nodes. -/
structure Line extends Asset where
  nodeA : Node
  nodeB : Node
  parallelDevices : UInt32
  lineType : LineType
  /-- in kilometres -/
  length : Quantity
  /-- how the line is monitored -/
  olmCharacteristic : String
deriving BEq, Repr

/-- A line with at least one parallel device and a length from zero on. -/
def Line.checked (asset : Asset) (nodeA nodeB : Node) (parallelDevices : Int)
    (lineType : LineType) (length : Quantity) (olmCharacteristic : String) :
    Except Violation Line := do
  match word? parallelDevices with
  | none => throw (.parallelDevices parallelDevices)
  | some devices =>
    if devices = 0 then throw (.parallelDevices parallelDevices)
    let length ← heldIn "length" length .kilometre
    atLeastZero "length" length.value
    return { asset with nodeA, nodeB, parallelDevices := devices, lineType, length,
                        olmCharacteristic }

/-- How a line is drawn. -/
structure LineGraphic where
  uuid : Uuid
  graphicLayer : String
  line : Line
deriving BEq, Repr

end GridRecords

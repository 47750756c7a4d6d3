/-
# Schemas of the electrical network

Operators, voltage levels, nodes, line types, lines and their drawings.
-/
import GridRecords.Schema.Basic

namespace GridRecords.Schema

open Parameter

/-- Schema of operators. -/
def operator : Schema :=
  withAll .operator identity fun a => do
    let uuid ← a.uuid "uuid"
    let id ← a.text "id"
    .operator <$> Build.checked (Operator.checked uuid id)

/-- Fields of the voltage level embedded in a node. -/
def voltageLevelColumns : List String := ["voltlvl", "vrated"]

/-- Schema of voltage levels. -/
def voltageLevel : Schema :=
  withAll .voltageLevel [direct "voltlvl" .text, quantity "vrated" .kilovolt] fun a => do
    let id ← a.text "voltlvl"
    let nominalVoltage ← a.quantity "vrated"
    .voltageLevel <$> Build.checked (VoltageLevel.checked id nominalVoltage)

/-- Schema of nodes. -/
def node : Schema :=
  withOptional .node
    (asset ++ [quantity "vtarget" .perUnit, direct "slack" .boolean,
      direct "geoposition" .geoPoint, nested "voltlvl" .voltageLevel voltageLevelColumns,
      direct "subnet" .integer])
    (operated ++ ["geoposition"])
    fun a => do
      let asset ← a.asset
      let vTarget ← a.quantity "vtarget"
      let slack ← a.boolean "slack"
      let geoPosition ← a.geoPoint "geoposition"
      let voltageLevel ← a.reference "voltlvl" Entity.voltageLevel?
      let subnet ← a.integer "subnet"
      .node <$> Build.checked (Node.checked asset vTarget slack geoPosition voltageLevel subnet)

/-- Schema of line types. -/
def lineType : Schema :=
  withAll .lineType
    (identity ++ [quantity "b" .microsiemensPerKilometre, quantity "g" .microsiemensPerKilometre,
      quantity "r" .ohmPerKilometre, quantity "x" .ohmPerKilometre, quantity "imax" .ampere,
      quantity "vrated" .kilovolt])
    fun args => do
      let uuid ← args.uuid "uuid"
      let id ← args.text "id"
      let b ← args.quantity "b"
      let g ← args.quantity "g"
      let r ← args.quantity "r"
      let x ← args.quantity "x"
      let iMax ← args.quantity "imax"
      let vRated ← args.quantity "vrated"
      .lineType <$> Build.checked (LineType.checked uuid id b g r x iMax vRated)

/-- Schema of lines. -/
def line : Schema :=
  withOptional .line
    (asset ++ [reference "nodea" .node, reference "nodeb" .node,
      direct "paralleldevices" .integer, reference "type" .lineType,
      quantity "length" .kilometre, direct "olmcharacteristic" .text])
    operated
    fun a => do
      let asset ← a.asset
      let nodeA ← a.reference "nodea" Entity.node?
      let nodeB ← a.reference "nodeb" Entity.node?
      let devices ← a.integer "paralleldevices"
      let lineType ← a.reference "type" Entity.lineType?
      let length ← a.quantity "length"
      let olmCharacteristic ← a.textOrEmpty "olmcharacteristic"
      .line <$> Build.checked
        (Line.checked asset nodeA nodeB devices lineType length olmCharacteristic)

/-- Schema of the drawings of lines. -/
def lineGraphic : Schema :=
  withAll .lineGraphic
    [direct "uuid" .uuid, direct "graphiclayer" .text, reference "line" .line]
    fun a => do
      let uuid ← a.uuid "uuid"
      let graphicLayer ← a.text "graphiclayer"
      let line ← a.reference "line" Entity.line?
      return .lineGraphic { uuid, graphicLayer, line }

end GridRecords.Schema

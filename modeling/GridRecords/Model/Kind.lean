/-
# Kinds of entities

The model is closed: every entity has one of eighteen kinds.  A kind has a name for messages
and a key, the field under which other records refer to an entity of that kind.
-/

namespace GridRecords

/-- The kinds of entities. -/
inductive EntityKind where
  | operator
  | voltageLevel
  | node
  | lineType
  | line
  | lineGraphic
  | load
  | energyManager
  | chpType
  | chp
  | thermalBus
  | cylindricalStorage
  | nodeResult
  | loadResult
  | timeBasedValue
  | irradiance
  | temperature
  | wind
deriving DecidableEq, Hashable, Repr

namespace EntityKind

/-- All kinds. -/
def all : List EntityKind :=
  [.operator, .voltageLevel, .node, .lineType, .line, .lineGraphic, .load, .energyManager,
    .chpType, .chp, .thermalBus, .cylindricalStorage, .nodeResult, .loadResult, .timeBasedValue,
    .irradiance, .temperature, .wind]

/-- Name of a kind in messages. -/
def name : EntityKind → String
  | operator => "OperatorInput"
  | voltageLevel => "VoltageLevel"
  | node => "NodeInput"
  | lineType => "LineTypeInput"
  | line => "LineInput"
  | lineGraphic => "LineGraphicInput"
  | load => "LoadInput"
  | energyManager => "EmInput"
  | chpType => "ChpTypeInput"
  | chp => "ChpInput"
  | thermalBus => "ThermalBusInput"
  | cylindricalStorage => "CylindricalStorageInput"
  | nodeResult => "NodeResult"
  | loadResult => "LoadResult"
  | timeBasedValue => "TimeBasedValue"
  | irradiance => "IrradianceValue"
  | temperature => "TemperatureValue"
  | wind => "WindValue"

/-- Field under which records refer to an entity of a kind. -/
def key : EntityKind → String
  | operator => "operator"
  | voltageLevel => "voltlvl"
  | node => "node"
  | lineType => "type"
  | line => "line"
  | lineGraphic => "linegraphic"
  | load => "load"
  | energyManager => "em"
  | chpType => "type"
  | chp => "chp"
  | thermalBus => "thermalbus"
  | cylindricalStorage => "thermalstorage"
  | nodeResult => "noderesult"
  | loadResult => "loadresult"
  | timeBasedValue => "timebasedvalue"
  | irradiance => "irradiance"
  | temperature => "temperature"
  | wind => "wind"

/-- Whether entities of a kind carry a uuid.  Value objects do not. -/
def isIdentified : EntityKind → Bool
  | voltageLevel | irradiance | temperature | wind => false
  | _ => true

/-- Every kind is in the list of all kinds. -/
theorem mem_all (k : EntityKind) : k ∈ all := by cases k <;> decide

end EntityKind

end GridRecords

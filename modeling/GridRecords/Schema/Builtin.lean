/-
# The built-in schemas

One schema for each kind of the model.
-/
import GridRecords.Schema.Measurement
import GridRecords.Schema.Network
import GridRecords.Schema.Plant

namespace GridRecords.Schema

/-- The schema of a kind. -/
def builtin : EntityKind → Schema
  | .operator => operator
  | .voltageLevel => voltageLevel
  | .node => node
  | .lineType => lineType
  | .line => line
  | .lineGraphic => lineGraphic
  | .load => load
  | .energyManager => energyManager
  | .chpType => chpType
  | .chp => chp
  | .thermalBus => thermalBus
  | .cylindricalStorage => cylindricalStorage
  | .nodeResult => nodeResult
  | .loadResult => loadResult
  | .timeBasedValue => timeBasedValue
  | .irradiance => irradiance
  | .temperature => temperature
  | .wind => wind

/-- The schema of a kind describes that kind. -/
theorem kind_builtin (k : EntityKind) : (builtin k).kind = k := by cases k <;> rfl

end GridRecords.Schema

/-
# The rows of time-based values

A row of a time series is put together from several sources: the series, the entry, its value
and, for the weather, the irradiance, the temperature and the wind.  The family of the value
says which columns each source must supply.
-/
import GridRecords.Row.Columns

namespace GridRecords

/-- Where the columns of a row come from. -/
inductive RowSource where
  | series
  | entry
  | value
  | irradiance
  | temperature
  | wind
deriving DecidableEq, Repr

namespace RowSource

/-- Name of a source in messages. -/
def name : RowSource → String
  | series => "series"
  | entry => "entry"
  | value => "value"
  | irradiance => "irradiance"
  | temperature => "temperature"
  | wind => "wind"

/-- The kind whose output units hold for a source. -/
def unitsFrom : RowSource → EntityKind
  | irradiance => .irradiance
  | temperature => .temperature
  | wind => .wind
  | series | entry | value => .timeBasedValue

end RowSource

/-! ## What a family asks for -/

namespace RecordFamily

/-- The columns of the values of a family. -/
def payloadColumns : RecordFamily → List String
  | energyPrice => ["price"]
  | activePower => ["p"]
  | apparentPower => ["p", "q"]
  | heatDemand => ["heatdemand"]
  | activePowerAndHeatDemand => ["heatdemand", "p"]
  | apparentPowerAndHeatDemand => ["heatdemand", "p", "q"]
  | weather => ["coordinate"]

/-- The columns that each source supplies, for rows with or without their series. -/
def partition (family : RecordFamily) (withSeries : Bool) : List (RowSource × List String) :=
  (if withSeries then [(.series, ["series"])] else [])
    ++ [(.entry, ["uuid", "time"]), (.value, family.payloadColumns)]
    ++ (if family = weather then
      [(.irradiance, ["diffuseirradiance", "directirradiance"]),
        (.temperature, ["temperature"]), (.wind, ["winddirection", "windvelocity"])]
      else [])

/-- The columns of the rows of a family: `uuid` first, the others in order. -/
def header (family : RecordFamily) (withSeries : Bool) : List String :=
  let columns := (family.partition withSeries).flatMap (·.2)
  "uuid" :: (columns.filter (· != "uuid")).mergeSort

end RecordFamily

/-! ## What a value has -/

/-- The columns that a source supplies for a value. -/
def TimeBasedValue.supplied (v : TimeBasedValue) (series : Option Uuid) : RowSource → Columns
  | .series => (series.map fun uuid => ("series", Value.uuid uuid)).toList
  | .entry => v.identity
  | .value => match v.payload with
    | .weather w => w.position
    | payload => payload.columns
  | .irradiance => match v.payload with
    | .weather w => w.irradiance.columns
    | _ => []
  | .temperature => match v.payload with
    | .weather w => w.temperature.columns
    | _ => []
  | .wind => match v.payload with
    | .weather w => w.wind.columns
    | _ => []

end GridRecords

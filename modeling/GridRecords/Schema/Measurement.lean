/-
# Schemas of results and time series

Time-based values have one signature per family, which the columns of a row decide.
-/
import GridRecords.Schema.Basic

namespace GridRecords.Schema

open Parameter

/-! ## Results -/

/-- What all results have. -/
def resultParameters : List Parameter :=
  [direct "uuid" .uuid, direct "time" .timestamp, direct "inputmodel" .uuid]

/-- Schema of results at nodes. -/
def nodeResult : Schema :=
  withAll .nodeResult (resultParameters ++ [quantity "vmag" .perUnit, quantity "vang" .degree])
    fun a => do
      let uuid ← a.uuid "uuid"
      let time ← a.timestamp "time"
      let inputModel ← a.uuid "inputmodel"
      let vMag ← a.quantity "vmag"
      let vAng ← a.quantity "vang"
      .nodeResult <$> Build.checked (NodeResult.checked uuid time inputModel vMag vAng)

/-- Schema of results at loads. -/
def loadResult : Schema :=
  withAll .loadResult (resultParameters ++ [quantity "p" .megawatt, quantity "q" .megavar])
    fun a => do
      let uuid ← a.uuid "uuid"
      let time ← a.timestamp "time"
      let inputModel ← a.uuid "inputmodel"
      let p ← a.quantity "p"
      let q ← a.quantity "q"
      .loadResult <$> Build.checked (LoadResult.checked uuid time inputModel p q)

/-! ## Weather -/

/-- Fields of an irradiance. -/
def irradianceColumns : List String := ["diffuseirradiance", "directirradiance"]

/-- Fields of a temperature. -/
def temperatureColumns : List String := ["temperature"]

/-- Fields of a wind. -/
def windColumns : List String := ["winddirection", "windvelocity"]

/-- Schema of irradiances. -/
def irradiance : Schema :=
  withAll .irradiance
    [quantity "diffuseirradiance" .wattPerSquareMetre,
      quantity "directirradiance" .wattPerSquareMetre]
    fun a => do
      let diffuse ← a.quantity "diffuseirradiance"
      let direct ← a.quantity "directirradiance"
      .irradiance <$> Build.checked (Irradiance.checked diffuse direct)

/-- Schema of temperatures. -/
def temperature : Schema :=
  withAll .temperature [quantity "temperature" .kelvin] fun a => do
    .temperature <$> Build.checked (Temperature.checked (← a.quantity "temperature"))

/-- Schema of winds. -/
def wind : Schema :=
  withAll .wind [quantity "winddirection" .degree, quantity "windvelocity" .metrePerSecond]
    fun a => do
      let direction ← a.quantity "winddirection"
      let velocity ← a.quantity "windvelocity"
      .wind <$> Build.checked (Wind.checked direction velocity)

/-! ## Time-based values -/

/-- The payload of a family from its arguments. -/
def payload (a : Arguments) : RecordFamily → Build Payload
  | .energyPrice => do
    let price ← a.quantity "price"
    Build.checked (Payload.energyPrice price).checked
  | .activePower => do
    let p ← a.quantity "p"
    Build.checked (Payload.activePower p).checked
  | .apparentPower => do
    let p ← a.quantity "p"
    let q ← a.quantity "q"
    Build.checked (Payload.apparentPower p q).checked
  | .heatDemand => do
    let heat ← a.quantity "heatdemand"
    Build.checked (Payload.heatDemand heat).checked
  | .activePowerAndHeatDemand => do
    let p ← a.quantity "p"
    let heat ← a.quantity "heatdemand"
    Build.checked (Payload.activePowerAndHeat p heat).checked
  | .apparentPowerAndHeatDemand => do
    let p ← a.quantity "p"
    let q ← a.quantity "q"
    let heat ← a.quantity "heatdemand"
    Build.checked (Payload.apparentPowerAndHeat p q heat).checked
  | .weather => do
    let some coordinate ← a.geoPoint "coordinate" | throw .noCoordinate
    let irradiance ← a.reference "irradiance" Entity.irradiance?
    let temperature ← a.reference "temperature" Entity.temperature?
    let wind ← a.reference "wind" Entity.wind?
    return .weather { coordinate, irradiance, temperature, wind }

/-- The parameters of a family besides `uuid` and `time`. -/
def payloadParameters : RecordFamily → List String
  | .energyPrice => ["price"]
  | .activePower => ["p"]
  | .apparentPower => ["p", "q"]
  | .heatDemand => ["heatdemand"]
  | .activePowerAndHeatDemand => ["p", "heatdemand"]
  | .apparentPowerAndHeatDemand => ["p", "q", "heatdemand"]
  | .weather => ["coordinate", "irradiance", "temperature", "wind"]

/-- The signature of a family. -/
def familySignature (family : RecordFamily) : Signature :=
  { name := family.name
    parameters := ["uuid", "time"] ++ payloadParameters family
    build := fun a => do
      let payload ← payload a family
      let uuid ← a.uuid "uuid"
      let time ← a.timestamp "time"
      return .timeBasedValue { uuid, time, payload } }

/-- Schema of time-based values. -/
def timeBasedValue : Schema :=
  { kind := .timeBasedValue
    parameters :=
      [direct "uuid" .uuid, direct "time" .timestamp, quantity "price" .euroPerMegawattHour,
        quantity "p" .kilowatt, quantity "q" .kilovar, quantity "heatdemand" .kilowatt,
        direct "coordinate" .geoPoint, nested "irradiance" .irradiance irradianceColumns,
        nested "temperature" .temperature temperatureColumns, nested "wind" .wind windColumns]
    signatures :=
      [familySignature .energyPrice, familySignature .activePower,
        familySignature .apparentPower, familySignature .heatDemand,
        familySignature .activePowerAndHeatDemand, familySignature .apparentPowerAndHeatDemand,
        familySignature .weather] }

end GridRecords.Schema

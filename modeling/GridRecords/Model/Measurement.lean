/-
# Results and time series

Results of a simulation at a node or a load, values bound to an instant, and the series that
group them.  The payload of a value decides its family, which is the layout of its record.
-/
import GridRecords.Geo.Point
import GridRecords.Model.Rule

namespace GridRecords

/-! ## Results -/

/-- The voltage at a node. -/
structure NodeResult where
  uuid : Uuid
  time : Timestamp
  /-- uuid of the node -/
  inputModel : Uuid
  /-- voltage magnitude, per unit -/
  vMag : Quantity
  /-- voltage angle, in degrees -/
  vAng : Quantity
deriving BEq, Repr

/-- A result with its quantities in their units. -/
def NodeResult.checked (uuid : Uuid) (time : Timestamp) (inputModel : Uuid)
    (vMag vAng : Quantity) : Except Violation NodeResult := do
  let vMag ← heldIn "voltage magnitude" vMag .perUnit
  let vAng ← heldIn "voltage angle" vAng .degree
  return { uuid, time, inputModel, vMag, vAng }

/-- The power drawn by a load. -/
structure LoadResult where
  uuid : Uuid
  time : Timestamp
  /-- uuid of the load -/
  inputModel : Uuid
  /-- active power, in megawatts -/
  p : Quantity
  /-- reactive power, in megavars -/
  q : Quantity
deriving BEq, Repr

/-- A result with its quantities in their units. -/
def LoadResult.checked (uuid : Uuid) (time : Timestamp) (inputModel : Uuid) (p q : Quantity) :
    Except Violation LoadResult := do
  let p ← heldIn "active power" p .megawatt
  let q ← heldIn "reactive power" q .megavar
  return { uuid, time, inputModel, p, q }

/-! ## Weather -/

/-- Solar irradiance on a horizontal plane. -/
structure Irradiance where
  /-- in watts per square metre -/
  diffuse : Quantity
  /-- in watts per square metre -/
  direct : Quantity
deriving BEq, Repr

/-- Irradiances are numbers from zero on. -/
def Irradiance.checked (diffuse direct : Quantity) : Except Violation Irradiance := do
  let diffuse ← heldIn "diffuse irradiance" diffuse .wattPerSquareMetre
  let direct ← heldIn "direct irradiance" direct .wattPerSquareMetre
  atLeastZero "diffuse irradiance" diffuse.value
  atLeastZero "direct irradiance" direct.value
  return ⟨diffuse, direct⟩

/-- The temperature of the air. -/
structure Temperature where
  /-- in kelvins -/
  temperature : Quantity
deriving BEq, Repr

/-- An absolute temperature is a number from zero on. -/
def Temperature.checked (temperature : Quantity) : Except Violation Temperature := do
  let temperature ← heldIn "temperature" temperature .kelvin
  atLeastZero "absolute temperature" temperature.value
  return ⟨temperature⟩

/-- The wind. -/
structure Wind where
  /-- where it blows from, clockwise from north, in degrees -/
  direction : Quantity
  /-- in metres per second -/
  velocity : Quantity
deriving BEq, Repr

/-- A velocity is a number from zero on. -/
def Wind.checked (direction velocity : Quantity) : Except Violation Wind := do
  let direction ← heldIn "wind direction" direction .degree
  let velocity ← heldIn "wind velocity" velocity .metrePerSecond
  atLeastZero "wind velocity" velocity.value
  return ⟨direction, velocity⟩

/-- The weather at a position. -/
structure Weather where
  coordinate : GeoPoint
  irradiance : Irradiance
  temperature : Temperature
  wind : Wind
deriving BEq, Repr

/-! ## Families of records -/

/-- The layout of the records of a time series. -/
inductive RecordFamily where
  | energyPrice
  | activePower
  | apparentPower
  | heatDemand
  | activePowerAndHeatDemand
  | apparentPowerAndHeatDemand
  | weather
deriving DecidableEq, Repr

namespace RecordFamily

/-- All families. -/
def all : List RecordFamily :=
  [.energyPrice, .activePower, .apparentPower, .heatDemand, .activePowerAndHeatDemand,
    .apparentPowerAndHeatDemand, .weather]

/-- Name of a family. -/
def name : RecordFamily → String
  | energyPrice => "energy_price"
  | activePower => "p"
  | apparentPower => "pq"
  | heatDemand => "h"
  | activePowerAndHeatDemand => "ph"
  | apparentPowerAndHeatDemand => "pqh"
  | weather => "weather"

end RecordFamily

/-! ## Values bound to an instant -/

/-- What a time-based value carries.  Powers are in kilowatts and kilovars, prices in euros per
megawatt hour. -/
inductive Payload where
  | energyPrice (price : Quantity)
  | activePower (p : Quantity)
  | apparentPower (p q : Quantity)
  | heatDemand (heat : Quantity)
  | activePowerAndHeat (p heat : Quantity)
  | apparentPowerAndHeat (p q heat : Quantity)
  | weather (w : Weather)
deriving BEq, Repr

namespace Payload

/-- The family of a payload. -/
def family : Payload → RecordFamily
  | energyPrice _ => .energyPrice
  | activePower _ => .activePower
  | apparentPower _ _ => .apparentPower
  | heatDemand _ => .heatDemand
  | activePowerAndHeat _ _ => .activePowerAndHeatDemand
  | apparentPowerAndHeat _ _ _ => .apparentPowerAndHeatDemand
  | weather _ => .weather

/-- A payload with its quantities in their units, expressed in the order of the record. -/
def checked : Payload → Except Violation Payload
  | energyPrice price => energyPrice <$> heldIn "price" price .euroPerMegawattHour
  | activePower p => activePower <$> active p
  | apparentPower p q => do return apparentPower (← active p) (← reactive q)
  | heatDemand heat => heatDemand <$> demand heat
  | activePowerAndHeat p heat => do return activePowerAndHeat (← active p) (← demand heat)
  | apparentPowerAndHeat p q heat => do
    return apparentPowerAndHeat (← active p) (← reactive q) (← demand heat)
  | weather w => .ok (weather w)
where
  active (p : Quantity) := heldIn "active power" p .kilowatt
  reactive (q : Quantity) := heldIn "reactive power" q .kilovar
  demand (heat : Quantity) := heldIn "heat demand" heat .kilowatt

end Payload

/-- A payload at an instant. -/
structure TimeBasedValue where
  uuid : Uuid
  time : Timestamp
  payload : Payload
deriving BEq, Repr

/-- The family of a value. -/
def TimeBasedValue.family (v : TimeBasedValue) : RecordFamily := v.payload.family

/-! ## Series -/

/-- Values of one family in the order of their instants. -/
structure TimeSeries where
  uuid : Uuid
  entries : List TimeBasedValue
deriving BEq, Repr

namespace TimeSeries

/-- A series of values of one family.  They are sorted by instant; values of the same instant
keep their order. -/
def checked (uuid : Uuid) (entries : List TimeBasedValue) : Except Violation TimeSeries :=
  let sorted := entries.mergeSort fun a b => a.time.isAtMost b.time
  match entries with
  | [] => .ok ⟨uuid, sorted⟩
  | first :: _ =>
    match entries.find? (·.family ≠ first.family) with
    | some odd => .error (.mixedFamilies uuid first.family.name odd.family.name)
    | none => .ok ⟨uuid, sorted⟩

/-- The family of a series; an empty one has none. -/
def family? (s : TimeSeries) : Option RecordFamily := s.entries.head?.map (·.family)

/-- Halves the range from `lo` to `hi` until an entry of the instant is found. -/
def search (entries : Array TimeBasedValue) (t : Timestamp) (lo hi : Nat) :
    Option TimeBasedValue :=
  if lo < hi then
    let middle := (lo + hi) / 2
    match entries[middle]? with
    | none => none
    | some e =>
      if e.time.isBefore t then search entries t (middle + 1) hi
      else if t.isBefore e.time then search entries t lo middle
      else some e
  else none
termination_by hi - lo

/-- An entry of a series at an instant. -/
def entryAt? (s : TimeSeries) (t : Timestamp) : Option TimeBasedValue :=
  search s.entries.toArray t 0 s.entries.length

/-- What a series holds at an instant. -/
def payloadAt? (s : TimeSeries) (t : Timestamp) : Option Payload :=
  (s.entryAt? t).map (·.payload)

end TimeSeries

end GridRecords

/-
# Units of measurement

Every unit measures exactly one family, and magnitudes are converted inside a family only.
A unit is described by one row: its family, its symbol with aliases, and the affine map
`value * scale + offset` into the base unit of the family.
-/

namespace GridRecords

/-- The physical dimension a unit measures. -/
inductive UnitFamily where
  | dimensionless
  | voltage
  | activePower
  | reactivePower
  | apparentPower
  | energy
  | current
  | length
  | angle
  | temperature
  | specificResistance
  | specificConductance
  | irradiance
  | velocity
  | volume
  | specificHeatCapacity
  | energyPrice
deriving DecidableEq, Repr

/-- Name of a family in messages. -/
def UnitFamily.name : UnitFamily → String
  | .dimensionless => "Dimensionless"
  | .voltage => "Voltage"
  | .activePower => "ActivePower"
  | .reactivePower => "ReactivePower"
  | .apparentPower => "ApparentPower"
  | .energy => "Energy"
  | .current => "Current"
  | .length => "Length"
  | .angle => "Angle"
  | .temperature => "Temperature"
  | .specificResistance => "SpecificResistance"
  | .specificConductance => "SpecificConductance"
  | .irradiance => "Irradiance"
  | .velocity => "Velocity"
  | .volume => "Volume"
  | .specificHeatCapacity => "SpecificHeatCapacity"
  | .energyPrice => "EnergyPrice"

/-- All families. -/
def UnitFamily.all : List UnitFamily :=
  [.dimensionless, .voltage, .activePower, .reactivePower, .apparentPower, .energy, .current,
    .length, .angle, .temperature, .specificResistance, .specificConductance, .irradiance,
    .velocity, .volume, .specificHeatCapacity, .energyPrice]

/-- A unit of measurement. -/
inductive MeasureUnit where
  | perUnit
  | percent
  | volt
  | kilovolt
  | watt
  | kilowatt
  | megawatt
  | var
  | kilovar
  | megavar
  | voltAmpere
  | kilovoltAmpere
  | megavoltAmpere
  | wattHour
  | kilowattHour
  | megawattHour
  | ampere
  | kiloampere
  | metre
  | kilometre
  | radian
  | degree
  | kelvin
  | celsius
  | ohmPerKilometre
  | siemensPerKilometre
  | microsiemensPerKilometre
  | wattPerSquareMetre
  | metrePerSecond
  | cubicMetre
  | kilowattHourPerKelvinCubicMetre
  | euroPerMegawattHour
deriving DecidableEq, Repr

namespace MeasureUnit

/-- All units, the base unit of a family before its multiples. -/
def all : List MeasureUnit :=
  [.perUnit, .percent, .volt, .kilovolt, .watt, .kilowatt, .megawatt, .var, .kilovar, .megavar,
    .voltAmpere, .kilovoltAmpere, .megavoltAmpere, .wattHour, .kilowattHour, .megawattHour,
    .ampere, .kiloampere, .metre, .kilometre, .radian, .degree, .kelvin, .celsius,
    .ohmPerKilometre, .siemensPerKilometre, .microsiemensPerKilometre, .wattPerSquareMetre,
    .metrePerSecond, .cubicMetre, .kilowattHourPerKelvinCubicMetre, .euroPerMegawattHour]

/-- What is known about a unit. -/
structure Row where
  family : UnitFamily
  symbol : String
  aliases : List String := []
  scale : Float := 1.0
  offset : Float := 0.0

/-- The table of units. -/
def row : MeasureUnit → Row
  | perUnit => { family := .dimensionless, symbol := "pu", aliases := ["p.u."] }
  | percent => { family := .dimensionless, symbol := "%", scale := 0.01 }
  | volt => { family := .voltage, symbol := "V" }
  | kilovolt => { family := .voltage, symbol := "kV", scale := 1e3 }
  | watt => { family := .activePower, symbol := "W" }
  | kilowatt => { family := .activePower, symbol := "kW", scale := 1e3 }
  | megawatt => { family := .activePower, symbol := "MW", scale := 1e6 }
  | var => { family := .reactivePower, symbol := "var", aliases := ["VAr"] }
  | kilovar => { family := .reactivePower, symbol := "kvar", aliases := ["kVAr"], scale := 1e3 }
  | megavar => { family := .reactivePower, symbol := "Mvar", aliases := ["MVAr"], scale := 1e6 }
  | voltAmpere => { family := .apparentPower, symbol := "VA" }
  | kilovoltAmpere => { family := .apparentPower, symbol := "kVA", scale := 1e3 }
  | megavoltAmpere => { family := .apparentPower, symbol := "MVA", scale := 1e6 }
  | wattHour => { family := .energy, symbol := "Wh" }
  | kilowattHour => { family := .energy, symbol := "kWh", scale := 1e3 }
  | megawattHour => { family := .energy, symbol := "MWh", scale := 1e6 }
  | ampere => { family := .current, symbol := "A" }
  | kiloampere => { family := .current, symbol := "kA", scale := 1e3 }
  | metre => { family := .length, symbol := "m" }
  | kilometre => { family := .length, symbol := "km", scale := 1e3 }
  | radian => { family := .angle, symbol := "rad" }
  | degree =>
    { family := .angle, symbol := "°", aliases := ["deg"], scale := 3.141592653589793 / 180.0 }
  | kelvin => { family := .temperature, symbol := "K" }
  | celsius => { family := .temperature, symbol := "°C", aliases := ["degC"], offset := 273.15 }
  | ohmPerKilometre => { family := .specificResistance, symbol := "Ω/km", aliases := ["ohm/km"] }
  | siemensPerKilometre => { family := .specificConductance, symbol := "S/km" }
  | microsiemensPerKilometre =>
    { family := .specificConductance, symbol := "µS/km", aliases := ["uS/km"], scale := 1e-6 }
  | wattPerSquareMetre => { family := .irradiance, symbol := "W/m²", aliases := ["W/m2"] }
  | metrePerSecond => { family := .velocity, symbol := "m/s" }
  | cubicMetre => { family := .volume, symbol := "m³", aliases := ["m3"] }
  | kilowattHourPerKelvinCubicMetre =>
    { family := .specificHeatCapacity, symbol := "kWh/(K·m³)", aliases := ["kWh/K/m3"] }
  | euroPerMegawattHour => { family := .energyPrice, symbol := "EUR/MWh", aliases := ["€/MWh"] }

/-- The family a unit measures. -/
def family (u : MeasureUnit) : UnitFamily := u.row.family

/-- The symbol a unit is written with. -/
def symbol (u : MeasureUnit) : String := u.row.symbol

/-- Whether a text is the symbol of a unit or one of its aliases.  Case matters. -/
def isNamed (u : MeasureUnit) (s : String) : Bool := u.symbol == s || u.row.aliases.contains s

/-- The unit of a family that a symbol or alias names. -/
def ofSymbol? (s : String) (family : UnitFamily) : Option MeasureUnit :=
  all.find? fun u => u.family == family && u.isNamed s

/-- Every unit is in the list of all units. -/
theorem mem_all (u : MeasureUnit) : u ∈ all := by cases u <;> decide

end MeasureUnit

end GridRecords

/-
# Output units

The unit in which a quantity field of a kind is written.  The table is closed: a field that is
not in it cannot be written.
-/
import GridRecords.Model.Kind
import GridRecords.Quantity.MeasureUnit

namespace GridRecords.EntityKind

/-- The quantity fields of a kind with their units. -/
def outputUnits : EntityKind → List (String × MeasureUnit)
  | .voltageLevel => [("vrated", .kilovolt)]
  | .node => [("vtarget", .perUnit), ("vrated", .kilovolt)]
  | .lineType =>
    [("b", .microsiemensPerKilometre), ("g", .microsiemensPerKilometre),
      ("r", .ohmPerKilometre), ("x", .ohmPerKilometre), ("imax", .ampere),
      ("vrated", .kilovolt)]
  | .line => [("length", .kilometre)]
  | .load =>
    [("srated", .kilovoltAmpere), ("econsannual", .kilowattHour), ("cosphirated", .perUnit)]
  | .chpType =>
    [("srated", .kilovoltAmpere), ("cosphirated", .perUnit), ("etael", .percent),
      ("etathermal", .percent), ("pthermal", .kilowatt), ("pown", .kilowatt)]
  | .cylindricalStorage =>
    [("storagevolumelvl", .cubicMetre), ("inlettemp", .celsius), ("returntemp", .celsius),
      ("c", .kilowattHourPerKelvinCubicMetre), ("pthermalmax", .kilowatt)]
  | .nodeResult => [("vmag", .perUnit), ("vang", .degree)]
  | .loadResult => [("p", .megawatt), ("q", .megavar)]
  | .timeBasedValue =>
    [("price", .euroPerMegawattHour), ("p", .kilowatt), ("q", .kilovar),
      ("heatdemand", .kilowatt)]
  | .irradiance =>
    [("diffuseirradiance", .wattPerSquareMetre), ("directirradiance", .wattPerSquareMetre)]
  | .temperature => [("temperature", .kelvin)]
  | .wind => [("winddirection", .degree), ("windvelocity", .metrePerSecond)]
  | .operator | .lineGraphic | .energyManager | .chp | .thermalBus => []

/-- The unit in which a field of a kind is written. -/
def outputUnit? (kind : EntityKind) (field : String) : Option MeasureUnit :=
  kind.outputUnits.lookup field

end GridRecords.EntityKind

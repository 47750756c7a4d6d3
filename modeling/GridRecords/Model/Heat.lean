/-
# The heat side

Thermal buses, and the cylindrical storages attached to them.
-/
import GridRecords.Model.Operation

namespace GridRecords

/-- A connection point of thermal units. -/
structure ThermalBus extends Asset
deriving BEq, Repr

/-- A cylindrical hot water storage. -/
structure CylindricalStorage extends Asset where
  thermalBus : ThermalBus
  /-- usable volume, in cubic metres -/
  storageVolume : Quantity
  /-- temperature of the water taken in, in degrees Celsius -/
  inletTemperature : Quantity
  /-- temperature of the water given back, in degrees Celsius -/
  returnTemperature : Quantity
  /-- specific heat capacity of the medium, in kilowatt hours per kelvin and cubic metre -/
  heatCapacity : Quantity
  /-- greatest power of charging and discharging, in kilowatts -/
  pThermalMax : Quantity
deriving BEq, Repr

namespace CylindricalStorage

/-- A storage with volume, heat capacity and power from zero on, which does not give water back
warmer than it takes it in. -/
def checked (asset : Asset) (thermalBus : ThermalBus)
    (storageVolume inletTemperature returnTemperature heatCapacity pThermalMax : Quantity) :
    Except Violation CylindricalStorage := do
  let storageVolume ← heldIn "storage volume" storageVolume .cubicMetre
  let inletTemperature ← heldIn "inlet temperature" inletTemperature .celsius
  let returnTemperature ← heldIn "return temperature" returnTemperature .celsius
  let heatCapacity ←
    heldIn "specific heat capacity" heatCapacity .kilowattHourPerKelvinCubicMetre
  let pThermalMax ← heldIn "maximum thermal power" pThermalMax .kilowatt
  atLeastZero "storage volume" storageVolume.value
  atLeastZero "specific heat capacity" heatCapacity.value
  atLeastZero "maximum thermal power" pThermalMax.value
  if inletTemperature.value < returnTemperature.value then
    throw (.temperatures returnTemperature inletTemperature)
  return { asset with thermalBus, storageVolume, inletTemperature, returnTemperature,
                      heatCapacity, pThermalMax }

/-- Heat that can be stored between the two temperatures, in kilowatt hours. -/
def capacity (s : CylindricalStorage) : Float :=
  s.storageVolume.value * s.heatCapacity.value
    * (s.inletTemperature.value - s.returnTemperature.value)

end CylindricalStorage

end GridRecords

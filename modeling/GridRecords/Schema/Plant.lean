/-
# Schemas of participants and of the heat side

Loads, energy managers, plants with their types, thermal buses and storages.
-/
import GridRecords.Schema.Basic

namespace GridRecords.Schema

open Parameter

/-! ## Loads and energy managers -/

/-- Schema of loads. -/
def load : Schema :=
  withOptional .load
    (asset ++ [reference "node" .node, direct "qcharacteristics" .text,
      reference "em" .energyManager, direct "loadprofile" .text,
      quantity "srated" .kilovoltAmpere, quantity "econsannual" .kilowattHour,
      quantity "cosphirated" .perUnit])
    (operated ++ ["em"])
    fun a => do
      let asset ← a.asset
      let node ← a.reference "node" Entity.node?
      let qCharacteristics ← a.textOrEmpty "qcharacteristics"
      let manager ← a.reference? "em" Entity.energyManager?
      let loadProfile ← a.textOrEmpty "loadprofile"
      let sRated ← a.quantity "srated"
      let annualConsumption ← a.quantity "econsannual"
      let cosPhiRated ← a.quantity "cosphirated"
      .load <$> Build.checked (Load.checked asset node qCharacteristics manager loadProfile
        sRated annualConsumption cosPhiRated)

/-- Schema of energy managers. -/
def energyManager : Schema :=
  withOptional .energyManager
    (asset ++ [direct "controlstrategy" .text, reference "parentem" .energyManager])
    (operated ++ ["parentem"])
    fun a => do
      let asset ← a.asset
      let controlStrategy ← a.textOrEmpty "controlstrategy"
      let parent ← a.reference? "parentem" Entity.energyManager?
      .energyManager <$> Build.checked (EnergyManager.checked asset controlStrategy parent)

/-! ## Combined heat and power -/

/-- Schema of plant types. -/
def chpType : Schema :=
  withAll .chpType
    (identity ++ [quantity "srated" .kilovoltAmpere, quantity "cosphirated" .perUnit,
      quantity "etael" .percent, quantity "etathermal" .percent, quantity "pthermal" .kilowatt,
      quantity "pown" .kilowatt])
    fun a => do
      let uuid ← a.uuid "uuid"
      let id ← a.text "id"
      let sRated ← a.quantity "srated"
      let cosPhiRated ← a.quantity "cosphirated"
      let etaElectrical ← a.quantity "etael"
      let etaThermal ← a.quantity "etathermal"
      let pThermal ← a.quantity "pthermal"
      let pOwn ← a.quantity "pown"
      .chpType <$> Build.checked
        (ChpType.checked uuid id sRated cosPhiRated etaElectrical etaThermal pThermal pOwn)

/-- Schema of plants. -/
def chp : Schema :=
  withOptional .chp
    (asset ++ [reference "node" .node, direct "qcharacteristics" .text,
      reference "type" .chpType, reference "thermalbus" .thermalBus,
      reference "thermalstorage" .cylindricalStorage, direct "marketreaction" .boolean,
      reference "em" .energyManager])
    (operated ++ ["em"])
    fun a => do
      let asset ← a.asset
      let node ← a.reference "node" Entity.node?
      let qCharacteristics ← a.textOrEmpty "qcharacteristics"
      let chpType ← a.reference "type" Entity.chpType?
      let thermalBus ← a.reference "thermalbus" Entity.thermalBus?
      let storage ← a.reference "thermalstorage" Entity.cylindricalStorage?
      let marketReaction ← a.boolean "marketreaction"
      let manager ← a.reference? "em" Entity.energyManager?
      .chp <$> Build.checked (Chp.checked asset node qCharacteristics chpType thermalBus storage
        marketReaction manager)

/-! ## The heat side -/

/-- Schema of thermal buses. -/
def thermalBus : Schema :=
  withOptional .thermalBus asset operated fun a => do
    return .thermalBus ⟨← a.asset⟩

/-- Schema of storages. -/
def cylindricalStorage : Schema :=
  withOptional .cylindricalStorage
    (asset ++ [reference "thermalbus" .thermalBus, quantity "storagevolumelvl" .cubicMetre,
      quantity "inlettemp" .celsius, quantity "returntemp" .celsius,
      quantity "c" .kilowattHourPerKelvinCubicMetre, quantity "pthermalmax" .kilowatt])
    operated
    fun a => do
      let asset ← a.asset
      let thermalBus ← a.reference "thermalbus" Entity.thermalBus?
      let volume ← a.quantity "storagevolumelvl"
      let inlet ← a.quantity "inlettemp"
      let back ← a.quantity "returntemp"
      let heatCapacity ← a.quantity "c"
      let pThermalMax ← a.quantity "pthermalmax"
      .cylindricalStorage <$> Build.checked
        (CylindricalStorage.checked asset thermalBus volume inlet back heatCapacity pThermalMax)

end GridRecords.Schema

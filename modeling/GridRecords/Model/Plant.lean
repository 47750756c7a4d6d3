/-
# System participants

Loads, plants of combined heat and power with their types, and the energy managers that
control them.  Energy managers may be nested; a manager holds its chain of parents.
-/
import GridRecords.Model.Heat
import GridRecords.Model.Network

namespace GridRecords

/-- A power factor lies between zero and one. -/
def powerFactor (q : Quantity) : Except Violation Quantity := do
  let q ← heldIn "rated power factor" q .perUnit
  if 0.0 ≤ q.value ∧ q.value ≤ 1.0 then return q else throw (.powerFactor q.value)

/-! ## Energy managers -/

/-- One energy manager without its parents. -/
structure ManagerUnit extends Asset where
  controlStrategy : String
deriving BEq, Repr

/-- An energy manager with the managers above it. -/
structure EnergyManager extends ManagerUnit where
  /-- the managers above it, its parent first -/
  ancestors : List ManagerUnit
deriving BEq, Repr

namespace EnergyManager

/-- The manager directly above. -/
def parent? (m : EnergyManager) : Option EnergyManager :=
  match m.ancestors with
  | [] => none
  | parent :: above => some { parent with ancestors := above }

/-- A manager under a parent of another uuid. -/
def checked (asset : Asset) (controlStrategy : String) (parent : Option EnergyManager) :
    Except Violation EnergyManager :=
  match parent with
  | none => .ok { asset with controlStrategy, ancestors := [] }
  | some p =>
    if p.uuid = asset.uuid then .error (.ownParent asset.uuid)
    else .ok { asset with controlStrategy, ancestors := p.toManagerUnit :: p.ancestors }

/-- The parent of a manager is the one it was built under. -/
theorem parent?_of_checked {asset : Asset} {controlStrategy : String}
    {parent : Option EnergyManager} {m : EnergyManager}
    (h : checked asset controlStrategy parent = .ok m) : m.parent? = parent := by
  unfold checked at h
  cases parent with
  | none => cases h; rfl
  | some p =>
    simp only at h
    split at h <;> cases h
    rfl

end EnergyManager

/-! ## Loads -/

/-- A consumer of power at a node. -/
structure Load extends Asset where
  node : Node
  /-- how the reactive power depends on the operating point -/
  qCharacteristics : String
  manager : Option EnergyManager
  loadProfile : String
  /-- rated apparent power, in kilovolt-amperes -/
  sRated : Quantity
  /-- energy consumed in a year, in kilowatt hours -/
  annualConsumption : Quantity
  cosPhiRated : Quantity
deriving BEq, Repr

/-- A load with power and consumption from zero on. -/
def Load.checked (asset : Asset) (node : Node) (qCharacteristics : String)
    (manager : Option EnergyManager) (loadProfile : String)
    (sRated annualConsumption cosPhiRated : Quantity) : Except Violation Load := do
  let sRated ← heldIn "rated apparent power" sRated .kilovoltAmpere
  let annualConsumption ← heldIn "annual consumption" annualConsumption .kilowattHour
  atLeastZero "rated apparent power" sRated.value
  atLeastZero "annual consumption" annualConsumption.value
  let cosPhiRated ← powerFactor cosPhiRated
  return { asset with node, qCharacteristics, manager, loadProfile, sRated, annualConsumption,
                      cosPhiRated }

/-! ## Combined heat and power -/

/-- Technical data of plants of one type. -/
structure ChpType where
  uuid : Uuid
  id : String
  /-- rated apparent power, in kilovolt-amperes -/
  sRated : Quantity
  cosPhiRated : Quantity
  /-- electrical efficiency, in percent -/
  etaElectrical : Quantity
  /-- thermal efficiency, in percent -/
  etaThermal : Quantity
  /-- rated thermal power, in kilowatts -/
  pThermal : Quantity
  /-- consumption of the plant itself, in kilowatts -/
  pOwn : Quantity
deriving BEq, Repr

/-- A plant type whose efficiencies add up to at most the whole. -/
def ChpType.checked (uuid : Uuid) (id : String)
    (sRated cosPhiRated etaElectrical etaThermal pThermal pOwn : Quantity) :
    Except Violation ChpType := do
  let sRated ← heldIn "rated apparent power" sRated .kilovoltAmpere
  let etaElectrical ← heldIn "electrical efficiency" etaElectrical .percent
  let etaThermal ← heldIn "thermal efficiency" etaThermal .percent
  let pThermal ← heldIn "thermal power" pThermal .kilowatt
  let pOwn ← heldIn "internal consumption" pOwn .kilowatt
  if 100.0 < etaElectrical.value + etaThermal.value then
    throw (.efficiency etaElectrical.value etaThermal.value)
  let cosPhiRated ← powerFactor cosPhiRated
  return { uuid, id, sRated, cosPhiRated, etaElectrical, etaThermal, pThermal, pOwn }

/-- A plant of combined heat and power. -/
structure Chp extends Asset where
  node : Node
  qCharacteristics : String
  chpType : ChpType
  thermalBus : ThermalBus
  thermalStorage : CylindricalStorage
  marketReaction : Bool
  manager : Option EnergyManager
deriving BEq, Repr

/-- A plant on the thermal bus that its storage is attached to. -/
def Chp.checked (asset : Asset) (node : Node) (qCharacteristics : String) (chpType : ChpType)
    (thermalBus : ThermalBus) (thermalStorage : CylindricalStorage) (marketReaction : Bool)
    (manager : Option EnergyManager) : Except Violation Chp :=
  if thermalStorage.thermalBus.uuid = thermalBus.uuid then
    .ok { asset with node, qCharacteristics, chpType, thermalBus, thermalStorage,
                     marketReaction, manager }
  else
    .error (.storageBus thermalStorage.uuid thermalStorage.thermalBus.uuid thermalBus.uuid)

end GridRecords

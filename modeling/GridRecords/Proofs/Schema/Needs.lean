/-
# What builders cannot do without

Fields that all signatures of a kind share do not decide which one is selected, so a record that
lacks one of them is told by the builder.  Nearly all of them are essential: their parameters are
asked for by getters that refuse an absent value (`needs_builtin`).  The others are four texts,
which are empty where they are absent.
-/
import GridRecords.Proofs.Schema.Keeps

namespace GridRecords

/-- The texts that are empty where they are absent. -/
def Schema.emptyTexts : List String :=
  ["olmcharacteristic", "qcharacteristics", "loadprofile", "controlstrategy"]

/-- The fields that all rows of a kind need: those of all signatures, but for the texts that may be
absent. -/
def EntityKind.essential (kind : EntityKind) : List String :=
  (Schema.builtin kind).shared.filter (!Schema.emptyTexts.contains ·)

/-- The parameters without which no entity of a kind is built. -/
def EntityKind.needed : EntityKind → List String
  | .operator => ["uuid", "id"]
  | .voltageLevel => ["voltlvl", "vrated"]
  | .node => ["uuid", "id", "vtarget", "slack", "voltlvl", "subnet"]
  | .lineType => ["uuid", "id", "b", "g", "r", "x", "imax", "vrated"]
  | .line => ["uuid", "id", "nodea", "nodeb", "paralleldevices", "type", "length"]
  | .lineGraphic => ["uuid", "graphiclayer", "line"]
  | .load => ["uuid", "id", "node", "srated", "econsannual", "cosphirated"]
  | .energyManager | .thermalBus => ["uuid", "id"]
  | .chpType =>
    ["uuid", "id", "srated", "cosphirated", "etael", "etathermal", "pthermal", "pown"]
  | .chp => ["uuid", "id", "node", "type", "thermalbus", "thermalstorage", "marketreaction"]
  | .cylindricalStorage =>
    ["uuid", "id", "thermalbus", "storagevolumelvl", "inlettemp", "returntemp", "c", "pthermalmax"]
  | .nodeResult => ["uuid", "time", "inputmodel", "vmag", "vang"]
  | .loadResult => ["uuid", "time", "inputmodel", "p", "q"]
  | .timeBasedValue => ["uuid", "time"]
  | .irradiance => ["diffuseirradiance", "directirradiance"]
  | .temperature => ["temperature"]
  | .wind => ["winddirection", "windvelocity"]

/-- The parameter of an essential field is needed. -/
theorem EntityKind.mem_needed {kind : EntityKind} {field : String}
    (essential : field ∈ kind.essential) {p : Parameter}
    (mem : p ∈ (Schema.builtin kind).parameters) (consumes : field ∈ p.fields) :
    p.name ∈ kind.needed := by
  have all : ∀ kind ∈ EntityKind.all, ∀ field ∈ kind.essential,
      ∀ p ∈ (Schema.builtin kind).parameters, field ∈ p.fields → p.name ∈ kind.needed := by
    decide +kernel
  exact all kind kind.mem_all field essential p mem consumes

namespace Arguments

/-- None of some parameters is absent. -/
def Has (a : Arguments) (names : List String) : Prop := ∀ name ∈ names, a.get name ≠ .null

variable {a : Arguments}

@[simp] theorem has_nil : a.Has [] := fun _ mem => absurd mem List.not_mem_nil

@[simp] theorem has_cons {name : String} {rest : List String} :
    a.Has (name :: rest) ↔ a.get name ≠ .null ∧ a.Has rest := List.forall_mem_cons

/-- An operated asset needs what identifies it. -/
theorem has_of_asset {x : Asset} (h : a.asset = .ok x) :
    a.get "uuid" ≠ .null ∧ a.get "id" ≠ .null := by
  obtain ⟨uuid, id, -⟩ := asset_eq_ok.1 h
  simp [uuid, id]

end Arguments

namespace Schema

/-- No signature of a schema builds an entity without some parameters. -/
def Needs (s : Schema) (names : List String) : Prop :=
  ∀ signature ∈ s.signatures, ∀ a e, signature.build a = .ok e → a.Has names

theorem needs_withOptional {kind : EntityKind} {parameters : List Parameter}
    {optional names : List String} {build : Builder}
    (h : ∀ a e, build a = .ok e → a.Has names) :
    (withOptional kind parameters optional build).Needs names := by
  intro signature mem a e built
  obtain ⟨chosen, _, rfl⟩ := List.mem_map.1 mem
  exact h a e built

open Arguments Outcome

/-! ## The network -/

theorem needs_operator : operator.Needs EntityKind.operator.needed :=
  needs_withOptional fun a e h => by
    simp only [bind_eq_ok, uuid_eq_ok, text_eq_ok] at h
    obtain ⟨_, uuid, _, id, -⟩ := h
    simp [EntityKind.needed, uuid, id]

theorem needs_voltageLevel : voltageLevel.Needs EntityKind.voltageLevel.needed :=
  needs_withOptional fun a e h => by
    simp only [bind_eq_ok, text_eq_ok, quantity_eq_ok] at h
    obtain ⟨_, id, _, rated, -⟩ := h
    simp [EntityKind.needed, id, rated]

theorem needs_node : node.Needs EntityKind.node.needed :=
  needs_withOptional fun a e h => by
    simp only [bind_eq_ok, quantity_eq_ok, boolean_eq_ok, voltageLevel_eq_ok, integer_eq_ok] at h
    obtain ⟨_, asset, _, target, _, slack, _, -, _, level, _, subnet, -⟩ := h
    simp [EntityKind.needed, has_of_asset asset, target, slack, level, subnet]

theorem needs_lineType : lineType.Needs EntityKind.lineType.needed :=
  needs_withOptional fun a e h => by
    simp only [bind_eq_ok, uuid_eq_ok, text_eq_ok, quantity_eq_ok] at h
    obtain ⟨_, uuid, _, id, _, b, _, g, _, r, _, x, _, i, _, v, -⟩ := h
    simp [EntityKind.needed, uuid, id, b, g, r, x, i, v]

theorem needs_line : line.Needs EntityKind.line.needed :=
  needs_withOptional fun a e h => by
    simp only [bind_eq_ok, node_eq_ok, integer_eq_ok, lineType_eq_ok, quantity_eq_ok] at h
    obtain ⟨_, asset, _, nodeA, _, nodeB, _, devices, _, type, _, length, -⟩ := h
    simp [EntityKind.needed, has_of_asset asset, nodeA, nodeB, devices, type, length]

theorem needs_lineGraphic : lineGraphic.Needs EntityKind.lineGraphic.needed :=
  needs_withOptional fun a e h => by
    simp only [bind_eq_ok, uuid_eq_ok, text_eq_ok, line_eq_ok] at h
    obtain ⟨_, uuid, _, layer, _, line, -⟩ := h
    simp [EntityKind.needed, uuid, layer, line]

/-! ## Participants and the heat side -/

theorem needs_load : load.Needs EntityKind.load.needed :=
  needs_withOptional fun a e h => by
    simp only [bind_eq_ok, node_eq_ok, quantity_eq_ok] at h
    obtain ⟨_, asset, _, node, _, -, _, -, _, -, _, rated, _, annual, _, factor, -⟩ := h
    simp [EntityKind.needed, has_of_asset asset, node, rated, annual, factor]

theorem needs_energyManager : energyManager.Needs EntityKind.energyManager.needed :=
  needs_withOptional fun a e h => by
    simp only [bind_eq_ok] at h
    obtain ⟨_, asset, -⟩ := h
    simp [EntityKind.needed, has_of_asset asset]

theorem needs_chpType : chpType.Needs EntityKind.chpType.needed :=
  needs_withOptional fun a e h => by
    simp only [bind_eq_ok, uuid_eq_ok, text_eq_ok, quantity_eq_ok] at h
    obtain ⟨_, uuid, _, id, _, rated, _, factor, _, electrical, _, thermal, _, power, _, own, -⟩ :=
      h
    simp [EntityKind.needed, uuid, id, rated, factor, electrical, thermal, power, own]

theorem needs_chp : chp.Needs EntityKind.chp.needed :=
  needs_withOptional fun a e h => by
    simp only [bind_eq_ok, node_eq_ok, chpType_eq_ok, thermalBus_eq_ok, cylindricalStorage_eq_ok,
      boolean_eq_ok] at h
    obtain ⟨_, asset, _, node, _, -, _, type, _, bus, _, storage, _, reaction, -⟩ := h
    simp [EntityKind.needed, has_of_asset asset, node, type, bus, storage, reaction]

theorem needs_thermalBus : thermalBus.Needs EntityKind.thermalBus.needed :=
  needs_withOptional fun a e h => by
    simp only [bind_eq_ok] at h
    obtain ⟨_, asset, -⟩ := h
    simp [EntityKind.needed, has_of_asset asset]

theorem needs_cylindricalStorage :
    cylindricalStorage.Needs EntityKind.cylindricalStorage.needed :=
  needs_withOptional fun a e h => by
    simp only [bind_eq_ok, thermalBus_eq_ok, quantity_eq_ok] at h
    obtain ⟨_, asset, _, bus, _, volume, _, inlet, _, back, _, capacity, _, power, -⟩ := h
    simp [EntityKind.needed, has_of_asset asset, bus, volume, inlet, back, capacity, power]

/-! ## Results and time series -/

theorem needs_nodeResult : nodeResult.Needs EntityKind.nodeResult.needed :=
  needs_withOptional fun a e h => by
    simp only [bind_eq_ok, uuid_eq_ok, timestamp_eq_ok, quantity_eq_ok] at h
    obtain ⟨_, uuid, _, time, _, model, _, magnitude, _, angle, -⟩ := h
    simp [EntityKind.needed, uuid, time, model, magnitude, angle]

theorem needs_loadResult : loadResult.Needs EntityKind.loadResult.needed :=
  needs_withOptional fun a e h => by
    simp only [bind_eq_ok, uuid_eq_ok, timestamp_eq_ok, quantity_eq_ok] at h
    obtain ⟨_, uuid, _, time, _, model, _, p, _, q, -⟩ := h
    simp [EntityKind.needed, uuid, time, model, p, q]

theorem needs_irradiance : irradiance.Needs EntityKind.irradiance.needed :=
  needs_withOptional fun a e h => by
    simp only [bind_eq_ok, quantity_eq_ok] at h
    obtain ⟨_, diffuse, _, direct, -⟩ := h
    simp [EntityKind.needed, diffuse, direct]

theorem needs_temperature : temperature.Needs EntityKind.temperature.needed :=
  needs_withOptional fun a e h => by
    simp only [bind_eq_ok, quantity_eq_ok] at h
    obtain ⟨_, temperature, -⟩ := h
    simp [EntityKind.needed, temperature]

theorem needs_wind : wind.Needs EntityKind.wind.needed :=
  needs_withOptional fun a e h => by
    simp only [bind_eq_ok, quantity_eq_ok] at h
    obtain ⟨_, direction, _, velocity, -⟩ := h
    simp [EntityKind.needed, direction, velocity]

theorem needs_timeBasedValue : timeBasedValue.Needs EntityKind.timeBasedValue.needed := by
  intro signature mem a e h
  obtain ⟨family, rfl⟩ := mem_signatures_timeBasedValue mem
  simp only [familySignature, bind_eq_ok, uuid_eq_ok, timestamp_eq_ok] at h
  obtain ⟨_, -, _, uuid, _, time, -⟩ := h
  simp [EntityKind.needed, uuid, time]

/-- **No entity of a built-in kind is built without the parameters that the kind needs.** -/
theorem needs_builtin (kind : EntityKind) : (builtin kind).Needs kind.needed := by
  cases kind
  case operator => exact needs_operator
  case voltageLevel => exact needs_voltageLevel
  case node => exact needs_node
  case lineType => exact needs_lineType
  case line => exact needs_line
  case lineGraphic => exact needs_lineGraphic
  case load => exact needs_load
  case energyManager => exact needs_energyManager
  case chpType => exact needs_chpType
  case chp => exact needs_chp
  case thermalBus => exact needs_thermalBus
  case cylindricalStorage => exact needs_cylindricalStorage
  case nodeResult => exact needs_nodeResult
  case loadResult => exact needs_loadResult
  case timeBasedValue => exact needs_timeBasedValue
  case irradiance => exact needs_irradiance
  case temperature => exact needs_temperature
  case wind => exact needs_wind

end Schema

end GridRecords

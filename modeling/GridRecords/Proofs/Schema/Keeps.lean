/-
# What builders keep

An entity holds the arguments it was built from: `Schema.Keeps` says that each of its columns
stands for the argument of that name and that the entities embedded in it are those that were
decoded for it.  A quantity may be expressed in another unit, and an absent operator, text or
position has its placeholder; nothing else changes on the way.

All built-in schemas keep their arguments (`Schema.keeps_builtin`).
-/
import GridRecords.Proofs.Row.Units
import GridRecords.Proofs.Schema.Getters
import GridRecords.Schema.Builtin

namespace GridRecords

/-! ## Arguments and columns -/

/-- An argument with the value that the entity built from it writes. -/
inductive Value.KeptAs : Value → Value → Prop
  | same (v : Value) : KeptAs v v
  | held {given kept : Quantity} {unit : MeasureUnit} (h : HeldAs given unit kept) :
      KeptAs (.quantity given) (.quantity kept)
  | noOperator : KeptAs .null (.entity (.operator .unassigned))
  | noText : KeptAs .null (.text "")
  | noPosition : KeptAs .null (.geoPoint none)

/-- An entity keeps the arguments it was built from. -/
structure Arguments.KeptBy (a : Arguments) (e : Entity) : Prop where
  columns : ∀ c ∈ e.ownColumns, (a.get c.1).KeptAs c.2
  embedded : ∀ x ∈ e.embedded, a.get x.1 = .entity x.2
  checked : e.Checked

/-- Columns stand for the arguments of their names. -/
def Columns.Keep (columns : Columns) (a : Arguments) : Prop :=
  ∀ c ∈ columns, (a.get c.1).KeptAs c.2

namespace Columns

variable {a : Arguments}

@[simp] theorem keep_nil : Keep [] a := fun _ mem => absurd mem List.not_mem_nil

@[simp] theorem keep_cons {c : String × Value} {rest : Columns} :
    Keep (c :: rest) a ↔ (a.get c.1).KeptAs c.2 ∧ Keep rest a := List.forall_mem_cons

@[simp] theorem keep_append {columns more : Columns} :
    Keep (columns ++ more) a ↔ columns.Keep a ∧ Keep more a := List.forall_mem_append

end Columns

namespace Arguments

variable {a : Arguments} {name : String}

/-- Entities in which no other is embedded keep what their columns keep. -/
theorem KeptBy.plain {e : Entity} (checked : e.Checked) (own : e.ownColumns = e.columns)
    (none : e.embedded = []) (columns : e.columns.Keep a) : a.KeptBy e := by
  refine ⟨?_, ?_, checked⟩
  · rw [own]
    exact columns
  · rw [none]
    exact fun _ mem => absurd mem List.not_mem_nil

@[simp] theorem keptAs_same {v : Value} : v.KeptAs v := .same v

/-- Text that may be absent is kept. -/
theorem keptAs_text {s : String} (h : (a.get name = .null ∧ s = "") ∨ a.get name = .text s) :
    (a.get name).KeptAs (.text s) := by
  rcases h with ⟨absent, rfl⟩ | given
  · rw [absent]; exact .noText
  · rw [given]; exact .same _

/-- A position that may be absent is kept. -/
theorem keptAs_geoPoint {p : Option GeoPoint}
    (h : (a.get name = .null ∧ p = none) ∨ a.get name = .geoPoint p) :
    (a.get name).KeptAs (.geoPoint p) := by
  rcases h with ⟨absent, rfl⟩ | given
  · rw [absent]; exact .noPosition
  · rw [given]; exact .same _

theorem keptAs_operator {o : Operator} (h : a.operator = .ok o) :
    (a.get "operator").KeptAs (.entity (.operator o)) := by
  rcases operator_eq_ok.1 h with ⟨absent, rfl⟩ | given
  · rw [absent]; exact .noOperator
  · rw [given]; exact .same _

/-- A quantity is kept in the unit in which it is held. -/
theorem keptAs_quantity {given kept : Quantity} {unit : MeasureUnit}
    (value : a.get name = .quantity given) (h : HeldAs given unit kept) :
    (a.get name).KeptAs (.quantity kept) := by
  rw [value]
  exact .held h

/-- An operated asset keeps its arguments. -/
theorem keep_asset {x : Asset} (h : a.asset = .ok x) : x.columns.Keep a := by
  obtain ⟨uuid, id, operator, time⟩ := asset_eq_ok.1 h
  obtain ⟨start, finish, from', until', checked⟩ := operationTime_eq_ok.1 time
  have operator := keptAs_operator operator
  have window := OperationTime.of_checked checked
  simp [Asset.columns, uuid, id, operator, window, from', until']

end Arguments

/-! ## Signatures -/

namespace Schema

/-- Every signature of a schema builds entities of its kind that keep their arguments. -/
def Keeps (s : Schema) : Prop :=
  ∀ signature ∈ s.signatures, ∀ a e, signature.build a = .ok e → e.kind = s.kind ∧ a.KeptBy e

/-- The signatures that differ in optional parameters have one builder. -/
theorem keeps_withOptional {kind : EntityKind} {parameters : List Parameter}
    {optional : List String} {build : Builder}
    (h : ∀ a e, build a = .ok e → e.kind = kind ∧ a.KeptBy e) :
    (withOptional kind parameters optional build).Keeps := by
  intro signature mem a e built
  obtain ⟨chosen, _, rfl⟩ := List.mem_map.1 mem
  exact h a e built

open Arguments Outcome

/-! ## The network -/

theorem keeps_operator : operator.Keeps := keeps_withOptional fun a e h => by
  simp only [map_eq_ok, bind_eq_ok, uuid_eq_ok, text_eq_ok, checked_eq_ok] at h
  obtain ⟨uuid, hu, id, hi, o, checked, rfl⟩ := h
  obtain ⟨-, rfl⟩ := Operator.checked_eq_ok.1 checked
  refine ⟨rfl, .plain trivial rfl rfl ?_⟩
  simp [Entity.columns, hu, hi]

theorem keeps_voltageLevel : voltageLevel.Keeps := keeps_withOptional fun a e h => by
  simp only [map_eq_ok, bind_eq_ok, quantity_eq_ok, text_eq_ok, checked_eq_ok] at h
  obtain ⟨id, hi, q, hq, v, checked, rfl⟩ := h
  have again := VoltageLevel.checked_again checked
  obtain ⟨held, -, rfl⟩ := VoltageLevel.checked_eq_ok.1 checked
  refine ⟨rfl, .plain again rfl rfl ?_⟩
  simp [Entity.columns, VoltageLevel.columns, hi, keptAs_quantity hq held]

theorem keeps_node : node.Keeps := keeps_withOptional fun a e h => by
  simp only [map_eq_ok, bind_eq_ok, quantity_eq_ok, boolean_eq_ok, geoPoint_eq_ok,
    voltageLevel_eq_ok, integer_eq_ok, checked_eq_ok] at h
  obtain ⟨x, hx, target, ht, slack, hs, position, hp, level, hl, subnet, hn, n, checked, rfl⟩ := h
  have again := Node.checked_again checked
  obtain ⟨held, rfl, rfl, rfl, rfl, rfl⟩ := Node.checked_eq_ok.1 checked
  refine ⟨rfl, ?_, ?_, again⟩
  · show Columns.Keep _ a
    simp [Entity.ownColumns, keep_asset hx, keptAs_quantity ht held, hs, keptAs_geoPoint hp, hn]
  · simp [Entity.embedded, hl]

theorem keeps_lineType : lineType.Keeps := keeps_withOptional fun a e h => by
  simp only [map_eq_ok, bind_eq_ok, uuid_eq_ok, text_eq_ok, quantity_eq_ok, checked_eq_ok] at h
  obtain ⟨uuid, hu, id, hi, b, hb, g, hg, r, hr, x, hx, i, hm, v, hv, t, checked, rfl⟩ := h
  have again := LineType.checked_again checked
  obtain ⟨b, g, r, x, i, v, -, rfl, rfl⟩ := LineType.checked_eq_ok.1 checked
  refine ⟨rfl, .plain again rfl rfl ?_⟩
  simp [Entity.columns, hu, hi, keptAs_quantity hb b, keptAs_quantity hg g, keptAs_quantity hr r,
    keptAs_quantity hx x, keptAs_quantity hm i, keptAs_quantity hv v]

theorem keeps_line : line.Keeps := keeps_withOptional fun a e h => by
  simp only [map_eq_ok, bind_eq_ok, node_eq_ok, integer_eq_ok, lineType_eq_ok, quantity_eq_ok,
    textOrEmpty_eq_ok, checked_eq_ok] at h
  obtain ⟨x, hx, nodeA, hA, nodeB, hB, devices, hd, type, ht, length, hl, olm, ho, l, checked,
    rfl⟩ := h
  have again := Line.checked_again checked
  obtain ⟨held, -, rfl, -, rfl, rfl, rfl, rfl, rfl⟩ := Line.checked_eq_ok.1 checked
  refine ⟨rfl, .plain again rfl rfl ?_⟩
  simp [Entity.columns, keep_asset hx, hA, hB, hd, ht, keptAs_quantity hl held, keptAs_text ho]

theorem keeps_lineGraphic : lineGraphic.Keeps := keeps_withOptional fun a e h => by
  simp only [bind_eq_ok, pure_eq_ok, uuid_eq_ok, text_eq_ok, line_eq_ok] at h
  obtain ⟨uuid, hu, layer, hg, line, hl, rfl⟩ := h
  refine ⟨rfl, .plain trivial rfl rfl ?_⟩
  simp [Entity.columns, hu, hg, hl]

/-! ## Participants and the heat side -/

theorem keeps_load : load.Keeps := keeps_withOptional fun a e h => by
  simp only [map_eq_ok, bind_eq_ok, node_eq_ok, textOrEmpty_eq_ok, manager_eq_ok, quantity_eq_ok,
    checked_eq_ok] at h
  obtain ⟨x, hx, node, hn, q, hq, manager, hm, profile, hp, rated, hr, annual, ha, factor, hf, l,
    checked, rfl⟩ := h
  have again := Load.checked_again checked
  obtain ⟨s, e, -, -, f, rfl, rfl, rfl, rfl, rfl⟩ := Load.checked_eq_ok.1 checked
  have f := (powerFactor_eq_ok.1 f).1
  refine ⟨rfl, .plain again rfl rfl ?_⟩
  simp [Entity.columns, keep_asset hx, hn, keptAs_text hq, hm, keptAs_text hp,
    keptAs_quantity hr s, keptAs_quantity ha e, keptAs_quantity hf f]

theorem keeps_energyManager : energyManager.Keeps := keeps_withOptional fun a e h => by
  simp only [map_eq_ok, bind_eq_ok, textOrEmpty_eq_ok, manager_eq_ok, checked_eq_ok] at h
  obtain ⟨x, hx, strategy, hs, parent, hp, m, checked, rfl⟩ := h
  have again := EnergyManager.checked_again checked
  obtain ⟨-, rfl, rfl, rfl⟩ := EnergyManager.checked_eq_ok.1 checked
  refine ⟨rfl, .plain again rfl rfl ?_⟩
  simp [Entity.columns, keep_asset hx, keptAs_text hs, hp]

theorem keeps_chpType : chpType.Keeps := keeps_withOptional fun a e h => by
  simp only [map_eq_ok, bind_eq_ok, uuid_eq_ok, text_eq_ok, quantity_eq_ok, checked_eq_ok] at h
  obtain ⟨uuid, hu, id, hi, rated, hr, factor, hf, electrical, he, thermal, ht, power, hp, own, ho,
    t, checked, rfl⟩ := h
  have again := ChpType.checked_again checked
  obtain ⟨s, el, th, pt, po, -, f, rfl, rfl⟩ := ChpType.checked_eq_ok.1 checked
  have f := (powerFactor_eq_ok.1 f).1
  refine ⟨rfl, .plain again rfl rfl ?_⟩
  simp [Entity.columns, hu, hi, keptAs_quantity hr s, keptAs_quantity hf f, keptAs_quantity he el,
    keptAs_quantity ht th, keptAs_quantity hp pt, keptAs_quantity ho po]

theorem keeps_chp : chp.Keeps := keeps_withOptional fun a e h => by
  simp only [map_eq_ok, bind_eq_ok, node_eq_ok, textOrEmpty_eq_ok, chpType_eq_ok, thermalBus_eq_ok,
    cylindricalStorage_eq_ok, boolean_eq_ok, manager_eq_ok, checked_eq_ok] at h
  obtain ⟨x, hx, node, hn, q, hq, type, ht, bus, hb, storage, hs, reaction, hr, manager, hm, c,
    checked, rfl⟩ := h
  have again := Chp.checked_again checked
  obtain ⟨-, rfl, rfl, rfl, rfl, rfl, rfl, rfl, rfl⟩ := Chp.checked_eq_ok.1 checked
  refine ⟨rfl, .plain again rfl rfl ?_⟩
  simp [Entity.columns, keep_asset hx, hn, keptAs_text hq, ht, hb, hs, hr, hm]

theorem keeps_thermalBus : thermalBus.Keeps := keeps_withOptional fun a e h => by
  simp only [bind_eq_ok, pure_eq_ok] at h
  obtain ⟨x, hx, rfl⟩ := h
  exact ⟨rfl, .plain trivial rfl rfl (keep_asset hx)⟩

theorem keeps_cylindricalStorage : cylindricalStorage.Keeps := keeps_withOptional fun a e h => by
  simp only [map_eq_ok, bind_eq_ok, thermalBus_eq_ok, quantity_eq_ok, checked_eq_ok] at h
  obtain ⟨x, hx, bus, hb, volume, hv, inlet, hi, back, hr, capacity, hc, power, hp, s, checked,
    rfl⟩ := h
  have again := CylindricalStorage.checked_again checked
  obtain ⟨v, i, r, c, p, -, -, rfl, rfl⟩ := CylindricalStorage.checked_eq_ok.1 checked
  refine ⟨rfl, .plain again rfl rfl ?_⟩
  simp [Entity.columns, keep_asset hx, hb, keptAs_quantity hv v, keptAs_quantity hi i,
    keptAs_quantity hr r, keptAs_quantity hc c, keptAs_quantity hp p]

/-! ## Results and time series -/

theorem keeps_nodeResult : nodeResult.Keeps := keeps_withOptional fun a e h => by
  simp only [map_eq_ok, bind_eq_ok, uuid_eq_ok, timestamp_eq_ok, quantity_eq_ok,
    checked_eq_ok] at h
  obtain ⟨uuid, hu, time, ht, model, hi, vMag, hm, vAng, ha, r, checked, rfl⟩ := h
  have again := NodeResult.checked_again checked
  obtain ⟨m, g, rfl, rfl, rfl⟩ := NodeResult.checked_eq_ok.1 checked
  refine ⟨rfl, .plain again rfl rfl ?_⟩
  simp [Entity.columns, hu, ht, hi, keptAs_quantity hm m, keptAs_quantity ha g]

theorem keeps_loadResult : loadResult.Keeps := keeps_withOptional fun a e h => by
  simp only [map_eq_ok, bind_eq_ok, uuid_eq_ok, timestamp_eq_ok, quantity_eq_ok,
    checked_eq_ok] at h
  obtain ⟨uuid, hu, time, ht, model, hi, p, hp, q, hq, r, checked, rfl⟩ := h
  have again := LoadResult.checked_again checked
  obtain ⟨heldP, heldQ, rfl, rfl, rfl⟩ := LoadResult.checked_eq_ok.1 checked
  refine ⟨rfl, .plain again rfl rfl ?_⟩
  simp [Entity.columns, hu, ht, hi, keptAs_quantity hp heldP, keptAs_quantity hq heldQ]

theorem keeps_irradiance : irradiance.Keeps := keeps_withOptional fun a e h => by
  simp only [map_eq_ok, bind_eq_ok, quantity_eq_ok, checked_eq_ok] at h
  obtain ⟨diffuse, hf, direct, hd, i, checked, rfl⟩ := h
  have again := Irradiance.checked_again checked
  obtain ⟨f, d, -⟩ := Irradiance.checked_eq_ok.1 checked
  refine ⟨rfl, .plain again rfl rfl ?_⟩
  simp [Entity.columns, Irradiance.columns, keptAs_quantity hf f, keptAs_quantity hd d]

theorem keeps_temperature : temperature.Keeps := keeps_withOptional fun a e h => by
  simp only [map_eq_ok, bind_eq_ok, quantity_eq_ok, checked_eq_ok] at h
  obtain ⟨q, hq, t, checked, rfl⟩ := h
  have again := Temperature.checked_again checked
  obtain ⟨held, -⟩ := Temperature.checked_eq_ok.1 checked
  refine ⟨rfl, .plain again rfl rfl ?_⟩
  simp [Entity.columns, Temperature.columns, keptAs_quantity hq held]

theorem keeps_wind : wind.Keeps := keeps_withOptional fun a e h => by
  simp only [map_eq_ok, bind_eq_ok, quantity_eq_ok, checked_eq_ok] at h
  obtain ⟨direction, hd, velocity, hv, w, checked, rfl⟩ := h
  have again := Wind.checked_again checked
  obtain ⟨d, v, -⟩ := Wind.checked_eq_ok.1 checked
  refine ⟨rfl, .plain again rfl rfl ?_⟩
  simp [Entity.columns, Wind.columns, keptAs_quantity hd d, keptAs_quantity hv v]

/-- The signatures of time-based values are those of the families. -/
theorem mem_signatures_timeBasedValue {signature : Signature}
    (mem : signature ∈ timeBasedValue.signatures) :
    ∃ family, signature = familySignature family := by
  simp only [timeBasedValue, List.mem_cons, List.not_mem_nil, or_false] at mem
  rcases mem with rfl | rfl | rfl | rfl | rfl | rfl | rfl <;> exact ⟨_, rfl⟩

/-- A payload that is no weather keeps the quantities it was given. -/
theorem keep_held {a : Arguments} {given p : Payload} (held : given.Held p)
    (arguments : ∀ c ∈ given.columns, a.get c.1 = c.2) (plain : ∀ w, p ≠ .weather w) :
    p.columns.Keep a := by
  cases held with
  | weather w => exact absurd rfl (plain w)
  | energyPrice h | activePower h | heatDemand h =>
    simp [Payload.columns] at arguments ⊢
    exact keptAs_quantity arguments h
  | apparentPower h h' | activePowerAndHeat h h' =>
    simp [Payload.columns] at arguments ⊢
    exact ⟨keptAs_quantity arguments.1 h, keptAs_quantity arguments.2 h'⟩
  | apparentPowerAndHeat p q h =>
    simp [Payload.columns] at arguments ⊢
    exact ⟨keptAs_quantity arguments.1 p, keptAs_quantity arguments.2.1 q,
      keptAs_quantity arguments.2.2 h⟩

/-- The payload of a family is held in the units of the family. -/
theorem held_of_payload {a : Arguments} {family : RecordFamily} (other : family ≠ .weather)
    {p : Payload} (h : payload a family = .ok p) :
    ∃ given : Payload, given.family = family ∧ given.checked = .ok p ∧
      ∀ c ∈ given.columns, a.get c.1 = c.2 := by
  cases family <;> simp only [payload, bind_eq_ok, quantity_eq_ok, checked_eq_ok] at h
  case weather => exact absurd rfl other
  case energyPrice | activePower | heatDemand =>
    obtain ⟨q, hq, checked⟩ := h
    exact ⟨_, rfl, checked, by simp [Payload.columns, hq]⟩
  case apparentPower | activePowerAndHeatDemand =>
    obtain ⟨p, hp, q, hq, checked⟩ := h
    exact ⟨_, rfl, checked, by simp [Payload.columns, hp, hq]⟩
  case apparentPowerAndHeatDemand =>
    obtain ⟨p, hp, q, hq, heat, hh, checked⟩ := h
    exact ⟨_, rfl, checked, by simp [Payload.columns, hp, hq, hh]⟩

/-- Weather keeps its arguments. -/
theorem keep_weather {a : Arguments} {p : Payload} (h : payload a .weather = .ok p) :
    ∃ w, p = .weather w ∧ w.position.Keep a ∧
      a.get "irradiance" = .entity (.irradiance w.irradiance) ∧
      a.get "temperature" = .entity (.temperature w.temperature) ∧
      a.get "wind" = .entity (.wind w.wind) := by
  simp only [payload, bind_eq_ok] at h
  obtain ⟨position, hp, h⟩ := h
  cases position with
  | none => exact absurd h throw_ne_ok
  | some coordinate =>
      simp only [bind_eq_ok, irradiance_eq_ok, temperature_eq_ok, wind_eq_ok, pure_eq_ok] at h
      obtain ⟨i, hi, t, ht, w, hw, rfl⟩ := h
      refine ⟨_, rfl, ?_, hi, ht, hw⟩
      simp [Weather.position, keptAs_geoPoint (geoPoint_eq_ok.1 hp)]

/-- The payload that is built for a family is one of it. -/
theorem family_of_payload {a : Arguments} {family : RecordFamily} {p : Payload}
    (h : payload a family = .ok p) : p.family = family := by
  by_cases weather : family = .weather
  · subst weather
    obtain ⟨w, rfl, -⟩ := keep_weather h
    rfl
  · obtain ⟨given, rfl, checked, -⟩ := held_of_payload weather h
    cases Payload.checked_eq_ok.1 checked <;> rfl

theorem keeps_timeBasedValue : timeBasedValue.Keeps := by
  intro signature mem a e h
  obtain ⟨family, rfl⟩ := mem_signatures_timeBasedValue mem
  simp only [familySignature, bind_eq_ok, uuid_eq_ok, timestamp_eq_ok, pure_eq_ok] at h
  obtain ⟨p, hp, uuid, hu, time, ht, rfl⟩ := h
  have identity : (TimeBasedValue.identity ⟨uuid, time, p⟩).Keep a := by
    simp [TimeBasedValue.identity, hu, ht]
  refine ⟨rfl, ?_⟩
  by_cases weather : family = .weather
  · subst weather
    obtain ⟨w, rfl, position, irradiance, temperature, wind⟩ := keep_weather hp
    refine ⟨?_, ?_, Payload.checked_eq_ok.2 (.weather w)⟩
    · exact Columns.keep_append.2 ⟨identity, position⟩
    · simp [Entity.embedded, irradiance, temperature, wind]
  · obtain ⟨given, rfl, checked, arguments⟩ := held_of_payload weather hp
    have held := Payload.checked_eq_ok.1 checked
    have again := Payload.checked_again checked
    have plain : ∀ w, p ≠ .weather w := by
      rintro w rfl
      cases held
      exact weather rfl
    have all := Columns.keep_append.2 ⟨identity, keep_held held arguments plain⟩
    cases p
    case weather w => exact absurd rfl (plain w)
    all_goals exact .plain again rfl rfl all

/-- **An entity of a built-in kind keeps the arguments it was built from.** -/
theorem keeps_builtin (kind : EntityKind) : (builtin kind).Keeps := by
  cases kind
  case operator => exact keeps_operator
  case voltageLevel => exact keeps_voltageLevel
  case node => exact keeps_node
  case lineType => exact keeps_lineType
  case line => exact keeps_line
  case lineGraphic => exact keeps_lineGraphic
  case load => exact keeps_load
  case energyManager => exact keeps_energyManager
  case chpType => exact keeps_chpType
  case chp => exact keeps_chp
  case thermalBus => exact keeps_thermalBus
  case cylindricalStorage => exact keeps_cylindricalStorage
  case nodeResult => exact keeps_nodeResult
  case loadResult => exact keeps_loadResult
  case timeBasedValue => exact keeps_timeBasedValue
  case irradiance => exact keeps_irradiance
  case temperature => exact keeps_temperature
  case wind => exact keeps_wind

end Schema

end GridRecords

/-
# Building an entity again

Given the values of its own columns as arguments, the builder of a kind gives an entity back
(`Schema.rebuilds_builtin`): every value is accepted by its getter, and the constructor accepts
the parts of an entity that was built.

An absent operator stands for the placeholder (`Value.argument`); all other values stand for
themselves.
-/
import GridRecords.Proofs.Schema.Keeps

namespace GridRecords

/-! ## Arguments of an entity -/

/-- The argument that a builder wants for a value: none for the placeholder of the operator. -/
def Value.argument : Value → Value
  | .entity e => if e.isUnassigned then .null else .entity e
  | v => v

@[simp] theorem Value.argument_instant (t : Option Timestamp) :
    (instant t).argument = instant t := by
  cases t <;> rfl

@[simp] theorem Value.argument_managerValue (m : Option EnergyManager) :
    (managerValue m).argument = managerValue m := by
  cases m <;> rfl

/-- The arguments are the columns of an entity and the entities embedded in it. -/
structure Arguments.Given (a : Arguments) (e : Entity) : Prop where
  columns : ∀ c ∈ e.ownColumns, a.get c.1 = c.2.argument
  embedded : ∀ x ∈ e.embedded, a.get x.1 = .entity x.2

/-- Columns are the arguments of their names. -/
def Columns.Give (columns : Columns) (a : Arguments) : Prop :=
  ∀ c ∈ columns, a.get c.1 = c.2.argument

namespace Columns

variable {a : Arguments}

@[simp] theorem give_nil : Give [] a := fun _ mem => absurd mem List.not_mem_nil

@[simp] theorem give_cons {c : String × Value} {rest : Columns} :
    Give (c :: rest) a ↔ a.get c.1 = c.2.argument ∧ Give rest a := List.forall_mem_cons

@[simp] theorem give_append {columns more : Columns} :
    Give (columns ++ more) a ↔ columns.Give a ∧ Give more a := List.forall_mem_append

end Columns

/-- The operator of an asset that was built is given back. -/
theorem Arguments.operator_of_give {a : Arguments} {o : Operator}
    (built : Entity.Built (.operator o))
    (h : a.get "operator" = Value.argument (.entity (.operator o))) : a.operator = .ok o := by
  rw [operator_eq_ok]
  by_cases placeholder : o.isUnassigned = true
  · left
    have none : Value.argument (.entity (.operator o)) = .null := if_pos placeholder
    exact ⟨h.trans none, built.eq_unassigned placeholder⟩
  · right
    have some' : Value.argument (.entity (.operator o)) = .entity (.operator o) :=
      if_neg placeholder
    exact h.trans some'

/-- An operated asset that was built is given back. -/
theorem Arguments.asset_of_give {a : Arguments} {x : Asset} (built : x.Built)
    (h : x.columns.Give a) : a.asset = .ok x := by
  simp only [Asset.columns, Columns.give_cons, Columns.give_nil, Value.argument_instant,
    and_true] at h
  obtain ⟨uuid, id, operator, from', until'⟩ := h
  rw [asset_eq_ok]
  refine ⟨uuid, id, operator_of_give built.1 operator, ?_⟩
  rw [operationTime_eq_ok]
  exact ⟨_, _, from', until', built.2.rebuild⟩

namespace Schema

/-- Every signature of a schema builds an entity again that is given to it. -/
def Rebuilds (s : Schema) : Prop :=
  ∀ signature ∈ s.signatures, ∀ a e, e.kind = s.kind → e.Built → e.isUnassigned = false →
    a.Given e → signature.build a = .ok e

/-- The signatures that differ in optional parameters have one builder. -/
theorem rebuilds_withOptional {kind : EntityKind} {parameters : List Parameter}
    {optional : List String} {build : Builder}
    (h : ∀ a e, e.kind = kind → e.Built → a.Given e → build a = .ok e) :
    (withOptional kind parameters optional build).Rebuilds := by
  intro signature mem a e same built _ given
  obtain ⟨chosen, _, rfl⟩ := List.mem_map.1 mem
  exact h a e same built given

open Arguments Outcome

/-! ## The network -/

theorem rebuilds_operator : operator.Rebuilds := by
  intro signature mem a e same built other given
  obtain ⟨chosen, _, rfl⟩ := List.mem_map.1 mem
  cases e <;> cases same
  case operator o =>
    have columns : Columns.Give _ a := given.columns
    have assigned : o ≠ .unassigned := by
      rintro rfl
      cases other
    simp only [Entity.ownColumns, Entity.columns, Columns.give_cons, Columns.give_nil,
      and_true] at columns
    obtain ⟨uuid, id⟩ := columns
    simp only [map_eq_ok, bind_eq_ok, uuid_eq_ok, text_eq_ok, checked_eq_ok]
    exact ⟨_, uuid, _, id, _, built.rebuild_operator assigned, rfl⟩

theorem rebuilds_voltageLevel : voltageLevel.Rebuilds :=
  rebuilds_withOptional fun a e same built given => by
  cases e <;> cases same
  case voltageLevel v =>
    have columns : Columns.Give _ a := given.columns
    simp only [Entity.ownColumns, Entity.columns, VoltageLevel.columns, Columns.give_cons,
      Columns.give_nil, and_true] at columns
    obtain ⟨id, nominal⟩ := columns
    simp only [map_eq_ok, bind_eq_ok, quantity_eq_ok, text_eq_ok, checked_eq_ok]
    exact ⟨_, id, _, nominal, _, built.rebuild_voltageLevel, rfl⟩

theorem rebuilds_node : node.Rebuilds :=
  rebuilds_withOptional fun a e same built given => by
  cases e <;> cases same
  case node n =>
    have columns : Columns.Give _ a := given.columns
    have level := given.embedded ("voltlvl", .voltageLevel n.voltageLevel) List.mem_cons_self
    obtain ⟨asset, -, -, checked⟩ := built.rebuild_node
    simp only [Entity.ownColumns, Columns.give_append, Columns.give_cons, Columns.give_nil,
      and_true] at columns
    obtain ⟨own, target, slack, position, subnet⟩ := columns
    have own := asset_of_give asset own
    simp only [map_eq_ok, bind_eq_ok, quantity_eq_ok, boolean_eq_ok, geoPoint_eq_ok,
      voltageLevel_eq_ok, integer_eq_ok, checked_eq_ok]
    exact ⟨_, own, _, target, _, slack, _, .inr position, _, level, _, subnet, _, checked, rfl⟩

theorem rebuilds_lineType : lineType.Rebuilds :=
  rebuilds_withOptional fun a e same built given => by
  cases e <;> cases same
  case lineType t =>
    have columns : Columns.Give _ a := given.columns
    simp only [Entity.ownColumns, Entity.columns, Columns.give_cons, Columns.give_nil,
      and_true] at columns
    obtain ⟨uuid, id, b, g, r, x, iMax, vRated⟩ := columns
    simp only [map_eq_ok, bind_eq_ok, uuid_eq_ok, text_eq_ok, quantity_eq_ok, checked_eq_ok]
    exact ⟨_, uuid, _, id, _, b, _, g, _, r, _, x, _, iMax, _, vRated, _,
      built.rebuild_lineType, rfl⟩

theorem rebuilds_line : line.Rebuilds :=
  rebuilds_withOptional fun a e same built given => by
  cases e <;> cases same
  case line l =>
    have columns : Columns.Give _ a := given.columns
    obtain ⟨asset, -, -, -, checked⟩ := built.rebuild_line
    simp only [Entity.ownColumns, Entity.columns, Columns.give_append, Columns.give_cons,
      Columns.give_nil, and_true] at columns
    obtain ⟨own, nodeA, nodeB, devices, type, length, olm⟩ := columns
    have own := asset_of_give asset own
    simp only [map_eq_ok, bind_eq_ok, node_eq_ok, integer_eq_ok, lineType_eq_ok, quantity_eq_ok,
      textOrEmpty_eq_ok, checked_eq_ok]
    exact ⟨_, own, _, nodeA, _, nodeB, _, devices, _, type, _, length, _, .inr olm, _, checked,
      rfl⟩

theorem rebuilds_lineGraphic : lineGraphic.Rebuilds :=
  rebuilds_withOptional fun a e same _ given => by
  cases e <;> cases same
  case lineGraphic g _ =>
    have columns : Columns.Give _ a := given.columns
    simp only [Entity.ownColumns, Entity.columns, Columns.give_cons, Columns.give_nil,
      and_true] at columns
    obtain ⟨uuid, layer, line⟩ := columns
    simp only [bind_eq_ok, pure_eq_ok, uuid_eq_ok, text_eq_ok, line_eq_ok]
    exact ⟨_, uuid, _, layer, _, line, rfl⟩

/-! ## Participants and the heat side -/

theorem rebuilds_load : load.Rebuilds :=
  rebuilds_withOptional fun a e same built given => by
  cases e <;> cases same
  case load l =>
    have columns : Columns.Give _ a := given.columns
    obtain ⟨asset, -, -, checked⟩ := built.rebuild_load
    simp only [Entity.ownColumns, Entity.columns, Columns.give_append, Columns.give_cons,
      Columns.give_nil, Value.argument_managerValue, and_true] at columns
    obtain ⟨own, node, q, manager, profile, rated, annual, factor⟩ := columns
    have own := asset_of_give asset own
    simp only [map_eq_ok, bind_eq_ok, node_eq_ok, textOrEmpty_eq_ok, manager_eq_ok,
      quantity_eq_ok, checked_eq_ok]
    exact ⟨_, own, _, node, _, .inr q, _, manager, _, .inr profile, _, rated, _, annual, _, factor,
      _, checked, rfl⟩

theorem rebuilds_energyManager : energyManager.Rebuilds :=
  rebuilds_withOptional fun a e same built given => by
  cases e <;> cases same
  case energyManager m =>
    have columns : Columns.Give _ a := given.columns
    obtain ⟨asset, -, checked⟩ := built.rebuild_energyManager
    simp only [Entity.ownColumns, Entity.columns, Columns.give_append, Columns.give_cons,
      Columns.give_nil, Value.argument_managerValue, and_true] at columns
    obtain ⟨own, strategy, parent⟩ := columns
    have own := asset_of_give asset own
    simp only [map_eq_ok, bind_eq_ok, textOrEmpty_eq_ok, manager_eq_ok, checked_eq_ok]
    exact ⟨_, own, _, .inr strategy, _, parent, _, checked, rfl⟩

theorem rebuilds_chpType : chpType.Rebuilds :=
  rebuilds_withOptional fun a e same built given => by
  cases e <;> cases same
  case chpType t =>
    have columns : Columns.Give _ a := given.columns
    simp only [Entity.ownColumns, Entity.columns, Columns.give_cons, Columns.give_nil,
      and_true] at columns
    obtain ⟨uuid, id, rated, factor, electrical, thermal, power, own⟩ := columns
    simp only [map_eq_ok, bind_eq_ok, uuid_eq_ok, text_eq_ok, quantity_eq_ok, checked_eq_ok]
    exact ⟨_, uuid, _, id, _, rated, _, factor, _, electrical, _, thermal, _, power, _, own, _,
      built.rebuild_chpType, rfl⟩

theorem rebuilds_chp : chp.Rebuilds :=
  rebuilds_withOptional fun a e same built given => by
  cases e <;> cases same
  case chp c =>
    have columns : Columns.Give _ a := given.columns
    obtain ⟨asset, -, -, -, -, -, checked⟩ := built.rebuild_chp
    simp only [Entity.ownColumns, Entity.columns, Columns.give_append, Columns.give_cons,
      Columns.give_nil, Value.argument_managerValue, and_true] at columns
    obtain ⟨own, node, q, type, bus, storage, reaction, manager⟩ := columns
    have own := asset_of_give asset own
    simp only [map_eq_ok, bind_eq_ok, node_eq_ok, textOrEmpty_eq_ok, chpType_eq_ok,
      thermalBus_eq_ok, cylindricalStorage_eq_ok, boolean_eq_ok, manager_eq_ok, checked_eq_ok]
    exact ⟨_, own, _, node, _, .inr q, _, type, _, bus, _, storage, _, reaction, _, manager, _,
      checked, rfl⟩

theorem rebuilds_thermalBus : thermalBus.Rebuilds :=
  rebuilds_withOptional fun a e same built given => by
  cases e <;> cases same
  case thermalBus b =>
    have own := asset_of_give built.rebuild_thermalBus given.columns
    simp only [bind_eq_ok, pure_eq_ok]
    exact ⟨_, own, rfl⟩

theorem rebuilds_cylindricalStorage : cylindricalStorage.Rebuilds :=
  rebuilds_withOptional fun a e same built given => by
  cases e <;> cases same
  case cylindricalStorage s =>
    have columns : Columns.Give _ a := given.columns
    obtain ⟨asset, -, checked⟩ := built.rebuild_cylindricalStorage
    simp only [Entity.ownColumns, Entity.columns, Columns.give_append, Columns.give_cons,
      Columns.give_nil, and_true] at columns
    obtain ⟨own, bus, volume, inlet, back, capacity, power⟩ := columns
    have own := asset_of_give asset own
    simp only [map_eq_ok, bind_eq_ok, thermalBus_eq_ok, quantity_eq_ok, checked_eq_ok]
    exact ⟨_, own, _, bus, _, volume, _, inlet, _, back, _, capacity, _, power, _, checked, rfl⟩

/-! ## Results and time series -/

theorem rebuilds_nodeResult : nodeResult.Rebuilds :=
  rebuilds_withOptional fun a e same built given => by
  cases e <;> cases same
  case nodeResult r =>
    have columns : Columns.Give _ a := given.columns
    simp only [Entity.ownColumns, Entity.columns, Columns.give_cons, Columns.give_nil,
      and_true] at columns
    obtain ⟨uuid, time, model, vMag, vAng⟩ := columns
    simp only [map_eq_ok, bind_eq_ok, uuid_eq_ok, timestamp_eq_ok, quantity_eq_ok, checked_eq_ok]
    exact ⟨_, uuid, _, time, _, model, _, vMag, _, vAng, _, built.rebuild_nodeResult, rfl⟩

theorem rebuilds_loadResult : loadResult.Rebuilds :=
  rebuilds_withOptional fun a e same built given => by
  cases e <;> cases same
  case loadResult r =>
    have columns : Columns.Give _ a := given.columns
    simp only [Entity.ownColumns, Entity.columns, Columns.give_cons, Columns.give_nil,
      and_true] at columns
    obtain ⟨uuid, time, model, p, q⟩ := columns
    simp only [map_eq_ok, bind_eq_ok, uuid_eq_ok, timestamp_eq_ok, quantity_eq_ok, checked_eq_ok]
    exact ⟨_, uuid, _, time, _, model, _, p, _, q, _, built.rebuild_loadResult, rfl⟩

theorem rebuilds_irradiance : irradiance.Rebuilds :=
  rebuilds_withOptional fun a e same built given => by
  cases e <;> cases same
  case irradiance i =>
    have columns : Columns.Give _ a := given.columns
    simp only [Entity.ownColumns, Entity.columns, Irradiance.columns, Columns.give_cons,
      Columns.give_nil, and_true] at columns
    obtain ⟨diffuse, direct⟩ := columns
    simp only [map_eq_ok, bind_eq_ok, quantity_eq_ok, checked_eq_ok]
    exact ⟨_, diffuse, _, direct, _, built.rebuild_irradiance, rfl⟩

theorem rebuilds_temperature : temperature.Rebuilds :=
  rebuilds_withOptional fun a e same built given => by
  cases e <;> cases same
  case temperature t =>
    have columns : Columns.Give _ a := given.columns
    simp only [Entity.ownColumns, Entity.columns, Temperature.columns, Columns.give_cons,
      Columns.give_nil, and_true] at columns
    simp only [map_eq_ok, bind_eq_ok, quantity_eq_ok, checked_eq_ok]
    exact ⟨_, columns, _, built.rebuild_temperature, rfl⟩

theorem rebuilds_wind : wind.Rebuilds :=
  rebuilds_withOptional fun a e same built given => by
  cases e <;> cases same
  case wind w =>
    have columns : Columns.Give _ a := given.columns
    simp only [Entity.ownColumns, Entity.columns, Wind.columns, Columns.give_cons,
      Columns.give_nil, and_true] at columns
    obtain ⟨direction, velocity⟩ := columns
    simp only [map_eq_ok, bind_eq_ok, quantity_eq_ok, checked_eq_ok]
    exact ⟨_, direction, _, velocity, _, built.rebuild_wind, rfl⟩

/-- The payload of a time-based value that was built is given back. -/
theorem payload_of_given {a : Arguments} {v : TimeBasedValue}
    (built : Entity.Built (.timeBasedValue v)) (given : a.Given (.timeBasedValue v)) :
    payload a v.family = .ok v.payload := by
  obtain ⟨checked, -⟩ := built.rebuild_timeBasedValue
  obtain ⟨uuid, time, p⟩ := v
  have columns : Columns.Give _ a := given.columns
  have embedded := given.embedded
  unfold TimeBasedValue.family
  cases p <;> simp only [Entity.ownColumns, Entity.columns, Payload.columns, Weather.position,
    Columns.give_append, Columns.give_cons, Columns.give_nil, and_true] at columns <;>
    simp only [Payload.family, payload, bind_eq_ok, quantity_eq_ok, checked_eq_ok]
  case energyPrice | activePower | heatDemand => exact ⟨_, columns.2, checked⟩
  case apparentPower | activePowerAndHeat =>
    exact ⟨_, columns.2.1, _, columns.2.2, checked⟩
  case apparentPowerAndHeat =>
    exact ⟨_, columns.2.1, _, columns.2.2.1, _, columns.2.2.2, checked⟩
  case weather w =>
    simp only [Entity.embedded, List.forall_mem_cons] at embedded
    obtain ⟨irradiance, temperature, wind, -⟩ := embedded
    refine ⟨some w.coordinate, geoPoint_eq_ok.2 (.inr columns.2), ?_⟩
    simp only [bind_eq_ok, pure_eq_ok, irradiance_eq_ok, temperature_eq_ok, wind_eq_ok]
    exact ⟨_, irradiance, _, temperature, _, wind, rfl⟩

/-- The signature of its family builds a time-based value again. -/
theorem rebuilds_familySignature {a : Arguments} {v : TimeBasedValue}
    (built : Entity.Built (.timeBasedValue v)) (given : a.Given (.timeBasedValue v)) :
    (familySignature v.family).build a = .ok (.timeBasedValue v) := by
  have columns : Columns.Give v.identity a := by
    intro c mem
    refine given.columns c ?_
    obtain ⟨uuid, time, p⟩ := v
    cases p <;> exact List.mem_append_left _ mem
  simp only [TimeBasedValue.identity, Columns.give_cons, Columns.give_nil, and_true] at columns
  obtain ⟨uuid, time⟩ := columns
  simp only [familySignature, bind_eq_ok, pure_eq_ok, uuid_eq_ok, timestamp_eq_ok]
  exact ⟨_, payload_of_given built given, _, uuid, _, time, rfl⟩

/-- **An entity of a built-in kind is built again from its own columns**, time-based values by the
signature of their family. -/
theorem rebuilds_builtin {kind : EntityKind} (other : kind ≠ .timeBasedValue) :
    (builtin kind).Rebuilds := by
  cases kind
  case operator => exact rebuilds_operator
  case voltageLevel => exact rebuilds_voltageLevel
  case node => exact rebuilds_node
  case lineType => exact rebuilds_lineType
  case line => exact rebuilds_line
  case lineGraphic => exact rebuilds_lineGraphic
  case load => exact rebuilds_load
  case energyManager => exact rebuilds_energyManager
  case chpType => exact rebuilds_chpType
  case chp => exact rebuilds_chp
  case thermalBus => exact rebuilds_thermalBus
  case cylindricalStorage => exact rebuilds_cylindricalStorage
  case nodeResult => exact rebuilds_nodeResult
  case loadResult => exact rebuilds_loadResult
  case timeBasedValue => exact absurd rfl other
  case irradiance => exact rebuilds_irradiance
  case temperature => exact rebuilds_temperature
  case wind => exact rebuilds_wind

end Schema

end GridRecords

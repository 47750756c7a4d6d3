/-
# Columns and parameters

Every column that an entity writes for itself is read by a parameter of its kind, from a source
that accepts the value of the column (`Entity.typed_ownColumns`); every embedded entity is read by
a parameter of its own from its own columns (`Entity.nestedParameter`).  The columns of references
hold what the relations of the entity lead to (`mem_dependencies_of_column`).
-/
import GridRecords.Proofs.Row.Units
import GridRecords.Proofs.Schema.Selection

namespace GridRecords

/-- The values that may stand in the column of a parameter. -/
def Source.Accepts : Source → Value → Prop
  | .direct .text, .text _ => True
  | .direct .boolean, .bool _ => True
  | .direct .integer, .int n => ∃ word : UInt32, n = word.toNat
  | .direct .uuid, .uuid _ => True
  | .direct .timestamp, .timestamp _ => True
  | .direct .timestamp, .null => True
  | .direct .geoPoint, .geoPoint _ => True
  | .direct (.quantity _), .quantity _ => True
  | .reference target, .entity e => e.kind = target
  | .reference _, .null => True
  | _, _ => False

theorem Source.accepts_instant (t : Option Timestamp) :
    Accepts (.direct .timestamp) (instant t) := by
  cases t with
  | none => trivial
  | some t => trivial

theorem Source.accepts_managerValue (m : Option EnergyManager) :
    Accepts (.reference .energyManager) (managerValue m) := by
  cases m with
  | none => trivial
  | some m => rfl

/-- Each column is read by a parameter of a schema that accepts its value. -/
def Columns.Typed (columns : Columns) (s : Schema) : Prop :=
  ∀ c ∈ columns, ∃ p, s.parameter? c.1 = some p ∧ p.source.Accepts c.2

section Columns

variable {s : Schema}

@[simp] theorem Columns.typed_nil (s : Schema) : Columns.Typed [] s :=
  fun _ mem => absurd mem List.not_mem_nil

@[simp] theorem Columns.typed_cons {c : String × Value} {rest : Columns} :
    Columns.Typed (c :: rest) s ↔
      (∃ p, s.parameter? c.1 = some p ∧ p.source.Accepts c.2) ∧ rest.Typed s :=
  List.forall_mem_cons

@[simp] theorem Columns.typed_append {columns more : Columns} :
    Columns.Typed (columns ++ more) s ↔ columns.Typed s ∧ more.Typed s :=
  List.forall_mem_append

/-- The columns of an operated asset are read by the parameters that all assets have. -/
theorem Asset.typed_columns (a : Asset) {rest : List Parameter}
    (h : s.parameters = Parameter.asset ++ rest) : a.columns.Typed s := by
  have found {name : String} {p : Parameter}
      (first : Parameter.asset.find? (·.name = name) = some p) : s.parameter? name = some p := by
    unfold Schema.parameter?
    rw [h, List.find?_append, first]
    rfl
  simp only [columns, Columns.typed_cons, Columns.typed_nil, and_true]
  exact ⟨⟨_, found rfl, trivial⟩, ⟨_, found rfl, trivial⟩, ⟨_, found rfl, rfl⟩,
    ⟨_, found rfl, Source.accepts_instant _⟩, ⟨_, found rfl, Source.accepts_instant _⟩⟩

end Columns

/-- The columns of a time-based value are read by the parameters of all families. -/
theorem TimeBasedValue.typed_ownColumns (v : TimeBasedValue) :
    (Entity.ownColumns (.timeBasedValue v)).Typed Schema.timeBasedValue := by
  obtain ⟨uuid, time, payload⟩ := v
  cases payload <;> simp only [Entity.ownColumns, Entity.columns, identity, Payload.columns,
    Weather.position, Columns.typed_append, Columns.typed_cons, Columns.typed_nil, and_true]
  case energyPrice | activePower | heatDemand | weather =>
    exact ⟨⟨⟨_, rfl, trivial⟩, ⟨_, rfl, trivial⟩⟩, ⟨_, rfl, trivial⟩⟩
  case apparentPower | activePowerAndHeat =>
    exact ⟨⟨⟨_, rfl, trivial⟩, ⟨_, rfl, trivial⟩⟩, ⟨_, rfl, trivial⟩, ⟨_, rfl, trivial⟩⟩
  case apparentPowerAndHeat =>
    exact ⟨⟨⟨_, rfl, trivial⟩, ⟨_, rfl, trivial⟩⟩, ⟨_, rfl, trivial⟩, ⟨_, rfl, trivial⟩,
      ⟨_, rfl, trivial⟩⟩

/-- **The columns of an entity are read by the parameters of its kind.** -/
theorem Entity.typed_ownColumns (e : Entity) : e.ownColumns.Typed (Schema.builtin e.kind) := by
  cases e
  case timeBasedValue v => exact v.typed_ownColumns
  all_goals simp only [ownColumns, columns, VoltageLevel.columns, Irradiance.columns,
    Temperature.columns, Wind.columns, Columns.typed_append, Columns.typed_cons,
    Columns.typed_nil, and_true]
  case operator o => exact ⟨⟨_, rfl, trivial⟩, ⟨_, rfl, trivial⟩⟩
  case voltageLevel v => exact ⟨⟨_, rfl, trivial⟩, ⟨_, rfl, trivial⟩⟩
  case node n =>
    exact ⟨n.typed_columns rfl, ⟨_, rfl, trivial⟩, ⟨_, rfl, trivial⟩, ⟨_, rfl, trivial⟩,
      ⟨_, rfl, ⟨_, rfl⟩⟩⟩
  case lineType t =>
    exact ⟨⟨_, rfl, trivial⟩, ⟨_, rfl, trivial⟩, ⟨_, rfl, trivial⟩, ⟨_, rfl, trivial⟩,
      ⟨_, rfl, trivial⟩, ⟨_, rfl, trivial⟩, ⟨_, rfl, trivial⟩, ⟨_, rfl, trivial⟩⟩
  case line l =>
    exact ⟨l.typed_columns rfl, ⟨_, rfl, rfl⟩, ⟨_, rfl, rfl⟩, ⟨_, rfl, ⟨_, rfl⟩⟩, ⟨_, rfl, rfl⟩,
      ⟨_, rfl, trivial⟩, ⟨_, rfl, trivial⟩⟩
  case lineGraphic g => exact ⟨⟨_, rfl, trivial⟩, ⟨_, rfl, trivial⟩, ⟨_, rfl, rfl⟩⟩
  case load l =>
    exact ⟨l.typed_columns rfl, ⟨_, rfl, rfl⟩, ⟨_, rfl, trivial⟩,
      ⟨_, rfl, Source.accepts_managerValue _⟩, ⟨_, rfl, trivial⟩, ⟨_, rfl, trivial⟩,
      ⟨_, rfl, trivial⟩, ⟨_, rfl, trivial⟩⟩
  case energyManager m =>
    exact ⟨m.typed_columns rfl, ⟨_, rfl, trivial⟩, ⟨_, rfl, Source.accepts_managerValue _⟩⟩
  case chpType t =>
    exact ⟨⟨_, rfl, trivial⟩, ⟨_, rfl, trivial⟩, ⟨_, rfl, trivial⟩, ⟨_, rfl, trivial⟩,
      ⟨_, rfl, trivial⟩, ⟨_, rfl, trivial⟩, ⟨_, rfl, trivial⟩, ⟨_, rfl, trivial⟩⟩
  case chp c =>
    exact ⟨c.typed_columns rfl, ⟨_, rfl, rfl⟩, ⟨_, rfl, trivial⟩, ⟨_, rfl, rfl⟩, ⟨_, rfl, rfl⟩,
      ⟨_, rfl, rfl⟩, ⟨_, rfl, trivial⟩, ⟨_, rfl, Source.accepts_managerValue _⟩⟩
  case thermalBus b => exact b.typed_columns (List.append_nil _).symm
  case cylindricalStorage s =>
    exact ⟨s.typed_columns rfl, ⟨_, rfl, rfl⟩, ⟨_, rfl, trivial⟩, ⟨_, rfl, trivial⟩,
      ⟨_, rfl, trivial⟩, ⟨_, rfl, trivial⟩, ⟨_, rfl, trivial⟩⟩
  case nodeResult r =>
    exact ⟨⟨_, rfl, trivial⟩, ⟨_, rfl, trivial⟩, ⟨_, rfl, trivial⟩, ⟨_, rfl, trivial⟩,
      ⟨_, rfl, trivial⟩⟩
  case loadResult r =>
    exact ⟨⟨_, rfl, trivial⟩, ⟨_, rfl, trivial⟩, ⟨_, rfl, trivial⟩, ⟨_, rfl, trivial⟩,
      ⟨_, rfl, trivial⟩⟩
  case irradiance i => exact ⟨⟨_, rfl, trivial⟩, ⟨_, rfl, trivial⟩⟩
  case temperature t => exact ⟨_, rfl, trivial⟩
  case wind w => exact ⟨⟨_, rfl, trivial⟩, ⟨_, rfl, trivial⟩⟩

/-- **An embedded entity is read by a parameter of its own**, from its columns. -/
theorem Entity.nestedParameter {e : Entity} {x : String × Entity} (h : x ∈ e.embedded) :
    ∃ p, (Schema.builtin e.kind).parameter? x.1 = some p ∧
      p.source = .nested x.2.kind x.2.columnNames := by
  cases e
  case node n =>
    rw [List.mem_singleton.1 h]
    exact ⟨_, rfl, rfl⟩
  case timeBasedValue v =>
    obtain ⟨uuid, time, payload⟩ := v
    cases payload
    case weather w =>
      simp only [embedded, List.mem_cons, List.not_mem_nil, or_false] at h
      rcases h with rfl | rfl | rfl
      · exact ⟨_, rfl, rfl⟩
      · exact ⟨_, rfl, rfl⟩
      · exact ⟨_, rfl, rfl⟩
    all_goals cases h
  all_goals cases h

/-! ## The columns of references -/

/-- The references of the records of a kind, with the kinds they refer to. -/
def EntityKind.referenceTargets : EntityKind → List (String × EntityKind)
  | .node | .thermalBus => [("operator", .operator)]
  | .line =>
    [("operator", .operator), ("nodea", .node), ("nodeb", .node), ("type", .lineType)]
  | .lineGraphic => [("line", .line)]
  | .load => [("operator", .operator), ("node", .node), ("em", .energyManager)]
  | .energyManager => [("operator", .operator), ("parentem", .energyManager)]
  | .chp =>
    [("operator", .operator), ("node", .node), ("type", .chpType), ("thermalbus", .thermalBus),
      ("thermalstorage", .cylindricalStorage), ("em", .energyManager)]
  | .cylindricalStorage => [("operator", .operator), ("thermalbus", .thermalBus)]
  | .operator | .voltageLevel | .lineType | .chpType | .nodeResult | .loadResult
  | .timeBasedValue | .irradiance | .temperature | .wind => []

theorem references_builtin (kind : EntityKind) :
    (Schema.builtin kind).references = kind.referenceTargets := by
  cases kind <;> decide

/-- An entity has a column of its own for each reference of its kind. -/
theorem exists_column_of_reference {e : Entity} {name : String} {target : EntityKind}
    (reference : (name, target) ∈ e.kind.referenceTargets) :
    ∃ v, (name, v) ∈ e.ownColumns ∧
      ((∃ y, v = .entity y ∧ y.kind = target) ∨
        target = .energyManager ∧ ∃ m, v = managerValue m) := by
  cases e <;> simp only [Entity.kind, EntityKind.referenceTargets, List.mem_cons,
    List.not_mem_nil, or_false, Prod.mk.injEq] at reference
  case node n =>
    obtain ⟨rfl, rfl⟩ := reference
    simp [Entity.ownColumns, Asset.columns, Entity.kind]
  case lineGraphic g =>
    obtain ⟨rfl, rfl⟩ := reference
    simp [Entity.ownColumns, Entity.columns, Entity.kind]
  case thermalBus b =>
    obtain ⟨rfl, rfl⟩ := reference
    simp [Entity.ownColumns, Entity.columns, Asset.columns, Entity.kind]
  case energyManager m | cylindricalStorage s =>
    rcases reference with ⟨rfl, rfl⟩ | ⟨rfl, rfl⟩ <;>
      simp [Entity.ownColumns, Entity.columns, Asset.columns, Entity.kind]
  case load l =>
    rcases reference with ⟨rfl, rfl⟩ | ⟨rfl, rfl⟩ | ⟨rfl, rfl⟩ <;>
      simp [Entity.ownColumns, Entity.columns, Asset.columns, Entity.kind]
  case line l =>
    rcases reference with ⟨rfl, rfl⟩ | ⟨rfl, rfl⟩ | ⟨rfl, rfl⟩ | ⟨rfl, rfl⟩ <;>
      simp [Entity.ownColumns, Entity.columns, Asset.columns, Entity.kind]
  case chp c =>
    rcases reference with ⟨rfl, rfl⟩ | ⟨rfl, rfl⟩ | ⟨rfl, rfl⟩ | ⟨rfl, rfl⟩ | ⟨rfl, rfl⟩ |
        ⟨rfl, rfl⟩ <;>
      simp [Entity.ownColumns, Entity.columns, Asset.columns, Entity.kind]

/-- The column of an entity is that of a reference. -/
theorem reference_of_column {e x : Entity} {name : String}
    (mem : (name, Value.entity x) ∈ e.ownColumns) :
    (name, x.kind) ∈ (Schema.builtin e.kind).references := by
  obtain ⟨p, found, accepts⟩ := e.typed_ownColumns _ mem
  obtain ⟨parameter, named⟩ := Schema.parameter?_eq_some found
  refine List.mem_filterMap.2 ⟨p, parameter, ?_⟩
  cases source : p.source with
  | direct leaf =>
      rw [source] at accepts
      cases leaf <;> exact accepts.elim
  | nested target fields =>
      rw [source] at accepts
      exact accepts.elim
  | reference target =>
      rw [source] at accepts
      have kind : x.kind = target := accepts
      rw [named, kind]

theorem managerValue_eq_entity {m : Option EnergyManager} {x : Entity} :
    Value.entity x = managerValue m ↔ ∃ p, m = some p ∧ x = .energyManager p := by
  cases m <;> simp [managerValue, Value.ofOption]

theorem instant_ne_entity {t : Option Timestamp} {x : Entity} : Value.entity x ≠ instant t := by
  cases t <;> simp [instant, Value.ofOption]

/-- An entity in a column is one that a relation leads to. -/
theorem exists_relation_of_column {e x : Entity} {name : String}
    (mem : (name, Value.entity x) ∈ e.ownColumns) : ∃ r ∈ e.relations, x ∈ r.related := by
  cases e
  case timeBasedValue v =>
    obtain ⟨uuid, time, payload⟩ := v
    cases payload <;> simp [Entity.ownColumns, Entity.columns, TimeBasedValue.identity,
      Payload.columns, Weather.position] at mem
  all_goals
    simp [Entity.ownColumns, Entity.columns, Asset.columns, VoltageLevel.columns,
      Irradiance.columns, Temperature.columns, Wind.columns, instant_ne_entity,
      managerValue_eq_entity] at mem
  case node n | thermalBus b | lineGraphic g =>
    obtain ⟨-, rfl⟩ := mem
    simp [Entity.relations]
  case line l =>
    rcases mem with ⟨-, rfl⟩ | ⟨-, rfl⟩ | ⟨-, rfl⟩ | ⟨-, rfl⟩ <;> simp [Entity.relations]
  case load l =>
    rcases mem with ⟨-, rfl⟩ | ⟨-, rfl⟩ | ⟨-, p, held, rfl⟩ <;>
      simp [Entity.relations, Entity.managerRelation, *]
  case energyManager m =>
    rcases mem with ⟨-, rfl⟩ | ⟨-, p, held, rfl⟩ <;>
      simp [Entity.relations, Entity.managerRelation, *]
  case chp c =>
    rcases mem with ⟨-, rfl⟩ | ⟨-, rfl⟩ | ⟨-, rfl⟩ | ⟨-, rfl⟩ | ⟨-, rfl⟩ | ⟨-, p, held, rfl⟩ <;>
      simp [Entity.relations, Entity.managerRelation, *]
  case cylindricalStorage s =>
    rcases mem with ⟨-, rfl⟩ | ⟨-, rfl⟩ <;> simp [Entity.relations]

/-- **An entity in a column is a dependency**, unless it is the placeholder. -/
theorem mem_dependencies_of_column {e x : Entity} {name : String}
    (mem : (name, Value.entity x) ∈ e.ownColumns) (assigned : x.isUnassigned = false) :
    x ∈ e.dependencies := by
  obtain ⟨r, relation, related⟩ := exists_relation_of_column mem
  have persistable := Relation.mem_persistable_iff.2 ⟨related, fun _ => assigned⟩
  exact List.mem_flatMap.2 ⟨r, relation, persistable⟩

end GridRecords

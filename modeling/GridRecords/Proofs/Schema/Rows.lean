/-
# The schema of a row

The row of an entity has the fields of the parameters that building the entity needs, and no others
(`mem_columnNames_iff`).  So exactly one signature fits it (`select_of_rowOf`): the one of all
parameters, for a time-based value the one of its family.
-/
import GridRecords.Proofs.Row.RowOf
import GridRecords.Proofs.Schema.Keeps
import GridRecords.Proofs.Schema.Unambiguous

namespace GridRecords

/-! ## Columns and embedded entities of a kind -/

/-- The names of the columns that do not come from embedded entities. -/
def EntityKind.ownNames (family : RecordFamily) (kind : EntityKind) : List String :=
  (kind.columnNames family).filter
    (!((Schema.builtin kind).parameters.flatMap Parameter.nestedFields).contains ·)

/-- The parameters of the entities that are embedded in an entity of a kind. -/
def EntityKind.embeddedNames (family : RecordFamily) : EntityKind → List String
  | .node => ["voltlvl"]
  | .timeBasedValue => if family = .weather then ["irradiance", "temperature", "wind"] else []
  | _ => []

namespace Entity

theorem map_fst_ownColumns (e : Entity) : e.ownColumns.map Prod.fst = e.kind.ownNames e.family := by
  have names : ∀ shape ∈ columnShapes, shape.1 ≠ .node → shape.2 ≠ .weather →
      shape.1.ownNames shape.2 = shape.1.columnNames shape.2 := by decide
  have same (other : e.kind ≠ .node) (dry : e.family ≠ .weather) (own : e.ownColumns = e.columns) :
      e.ownColumns.map Prod.fst = e.kind.ownNames e.family := by
    rw [names _ e.mem_columnShapes other dry, own]
    exact e.map_fst_columns
  cases e
  case node n =>
    have own : EntityKind.node.ownNames .energyPrice =
        assetColumnNames ++ ["vtarget", "slack", "geoposition", "subnet"] := by decide
    exact own.symm
  case timeBasedValue v =>
    obtain ⟨uuid, time, payload⟩ := v
    cases payload
    case weather w =>
      have own : EntityKind.timeBasedValue.ownNames .weather = ["uuid", "time", "coordinate"] := by
        decide
      exact own.symm
    all_goals
      exact same (by simp [kind]) (by simp [family, TimeBasedValue.family, Payload.family]) rfl
  all_goals exact same (by simp [kind]) (by simp [family]) rfl

theorem map_fst_embedded (e : Entity) :
    e.embedded.map Prod.fst = e.kind.embeddedNames e.family := by
  cases e
  case timeBasedValue v =>
    obtain ⟨uuid, time, payload⟩ := v
    cases payload <;> rfl
  all_goals rfl

end Entity

namespace Schema

/-- The parameters that building an entity of a kind needs. -/
def needed (kind : EntityKind) (family : RecordFamily) : List String :=
  kind.ownNames family ++ kind.embeddedNames family

/-- What the schemas say of each shape: its columns are the fields of the parameters that are
needed, some signature binds these and no others, and only for time-based values there are
others. -/
theorem needed_of_shape : ∀ shape ∈ columnShapes,
    (∀ field ∈ shape.1.columnNames shape.2, ∃ p ∈ (builtin shape.1).parameters,
      (needed shape.1 shape.2).contains p.name = true ∧ field ∈ p.fields) ∧
    (∀ p ∈ (builtin shape.1).parameters, (needed shape.1 shape.2).contains p.name = true →
      ∀ field ∈ p.fields, field ∈ shape.1.columnNames shape.2) ∧
    (∃ signature ∈ (builtin shape.1).signatures,
      (∀ p ∈ (builtin shape.1).parameters,
        signature.binds p.name = (needed shape.1 shape.2).contains p.name) ∧
      (shape.1 = .timeBasedValue → signature.name = shape.2.name)) ∧
    (shape.1 ≠ .timeBasedValue → ∀ p ∈ (builtin shape.1).parameters,
      (needed shape.1 shape.2).contains p.name = true) := by
  decide

/-- The columns of an entity are the fields of the parameters that building it needs. -/
theorem mem_columnNames_iff {e : Entity} {field : String} :
    field ∈ e.columnNames ↔ ∃ p ∈ (builtin e.kind).parameters,
      (needed e.kind e.family).contains p.name = true ∧ field ∈ p.fields := by
  obtain ⟨consumed, written, -, -⟩ := needed_of_shape _ e.mem_columnShapes
  constructor
  · intro column
    exact consumed field column
  · rintro ⟨p, mem, needs, consumes⟩
    exact written p mem needs field consumes

theorem known_of_column {e : Entity} {name : String} (h : name ∈ e.columnNames) :
    name ∈ (builtin e.kind).known := by
  obtain ⟨p, mem, -, consumes⟩ := mem_columnNames_iff.1 h
  exact mem_known.2 ⟨p, mem, consumes⟩

/-- A signature has the columns of an entity for its fields, and it binds what building the entity
needs and nothing else.  For a time-based value it is that of the family. -/
theorem exists_signature_of_columns (e : Entity) :
    ∃ signature ∈ (builtin e.kind).signatures,
      (builtin e.kind).fieldsOf signature = sortedNames e.columnNames ∧
      (∀ p ∈ (builtin e.kind).parameters,
        signature.binds p.name = (needed e.kind e.family).contains p.name) ∧
      ∀ v, e = .timeBasedValue v → signature = familySignature v.family := by
  obtain ⟨-, -, ⟨signature, mem, binds, named⟩, -⟩ := needed_of_shape _ e.mem_columnShapes
  refine ⟨signature, mem, ?_, binds, ?_⟩
  · -- both lists are in order, and the parameters that are bound are those that are needed
    apply (pairwise_sortedNames _).eq_of_mem_iff (pairwise_sortedNames _)
    intro field
    show field ∈ (builtin e.kind).fieldsOf signature ↔ field ∈ sortedNames e.columnNames
    rw [mem_sortedNames, mem_columnNames_iff, mem_fieldsOf_iff_binds (nodup_parameters e.kind)]
    refine exists_congr fun p => and_congr_right fun known => ?_
    rw [binds p known]
  · rintro v rfl
    obtain ⟨family, rfl⟩ := mem_signatures_timeBasedValue mem
    have same : family = v.family := RecordFamily.eq_of_name (named rfl)
    rw [same]

/-! ## Selection -/

variable {r : FieldRecord} {c : Context} {e : Entity}

/-- The fields of a row, with a context of references, are the columns. -/
theorem supplied_of_rowOf (row : r.RowOf e) (known : ∀ name ∈ c.keys, name ∈ e.columnNames) :
    (builtin e.kind).supplied r c = sortedNames e.columnNames := by
  have field (name : String) : name ∈ r.keys ↔ name ∈ e.columnNames := by
    have keys : name ∈ r.keys ↔ ∃ text, r.get? name = some text := r.fields.mem_keys_iff name
    rw [keys]
    constructor
    · rintro ⟨text, found⟩
      by_contra absent
      rw [row.other name absent] at found
      cases found
    · intro column
      rw [← Entity.map_fst_columns] at column
      obtain ⟨c, mem, rfl⟩ := List.mem_map.1 column
      obtain ⟨text, -, found⟩ := row.held c mem
      exact ⟨text, found⟩
  have names : ∀ name, name ∈ (builtin e.kind).supplied r c ↔ name ∈ sortedNames e.columnNames := by
    intro name
    rw [mem_supplied, mem_sortedNames, field]
    constructor
    · rintro ⟨column | reference, -⟩
      · exact column
      · exact known name reference
    · intro column
      exact ⟨.inl column, known_of_column column⟩
  unfold supplied at names ⊢
  refine sortedNames_congr ?_
  intro name
  rw [← mem_sortedNames, names, mem_sortedNames]

/-- **Exactly one signature fits the row of an entity**: the one whose fields are the columns, which
binds what building the entity needs. -/
theorem select_of_rowOf (row : r.RowOf e) (known : ∀ name ∈ c.keys, name ∈ e.columnNames) :
    ∃ signature, (builtin e.kind).select r c = .ok signature ∧
      (builtin e.kind).fieldsOf signature = sortedNames e.columnNames ∧
      (∀ p ∈ (builtin e.kind).parameters,
        signature.binds p.name = (needed e.kind e.family).contains p.name) ∧
      ∀ v, e = .timeBasedValue v → signature = familySignature v.family := by
  obtain ⟨signature, mem, fields, binds, family⟩ := exists_signature_of_columns e
  refine ⟨signature, ?_, fields, binds, family⟩
  refine (select_eq_ok_iff (Registry.validate_builtin.{0} e.kind)).2 ⟨mem, ?_⟩
  unfold distinct openNames
  rw [fields, supplied_of_rowOf row known]

end Schema

end GridRecords
